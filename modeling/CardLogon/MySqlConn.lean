import CardLogon.SqlLex

/- `MySqlConn`: the SQL statements the program builds.

   Every statement is a format and its `%s` arguments, printed with `sprintf_s`
   into a buffer of fixed size. There are nine formats: the select of
   `user_query`, the update of `user_update`, the select, the two updates and the
   two inserts of `user_Print`, and the inserts into loginTable and loginFTable
   that `GetConnectedStatus` builds for `user_insert`. The arguments come from
   `c_str()` or from `strtok`, so they hold no NUL.

   What is proved: `built_lexes_iff`. A statement that fits its buffer lexes as
   its format, with each field the value of the literal in its place, exactly when
   every field is clean for the quotes around its `%s`; none of the builders
   escapes what it pastes. -/
namespace CardLogon
open CText SqlLex

/-- A statement as the code builds it: the size of the buffer, the format and the
    arguments. -/
structure Sql where
  size : Nat
  format : Bytes
  args : List CStr

/-- The values of the arguments. -/
def Sql.fields (s : Sql) : List Bytes := s.args.map Subtype.val

/-- The statement, when it fits its buffer. -/
def Sql.text (s : Sql) : Option Bytes := sprintf_s s.size s.format s.fields

/-- A source literal as an argument. -/
def off : CStr := ⟨lit "off", by decide⟩
def on : CStr := ⟨lit "on", by decide⟩

/-- The four fields `strtok` cuts the machine line into. -/
structure MachineInfo where
  sqlTime : CStr
  sqlMachineName : CStr
  sqlIP : CStr
  sqlMAC : CStr

/-- The fields of the connection object that describe the card's row. -/
structure CarRow where
  getCarNumber : CStr
  getUserNames : CStr
  getNickNume : CStr

def userQueryFormat : Bytes :=
  lit "select id,CarNumber,UserName,nickname,AES_DECRYPT(UserPW ,'Dust')as UserPW  from CarTable where CarNumber=\"%s\" "

def userQuery (strSQL : CStr) : Sql where
  size := 255
  format := userQueryFormat
  args := [strSQL]

def userUpdateFormat : Bytes :=
  lit "update CarTable set UserPW=AES_ENCRYPT('%s','Dust') where CarNumber='%s'"

def userUpdate (chpw getCarNumber : CStr) : Sql where
  size := 255
  format := userUpdateFormat
  args := [chpw, getCarNumber]

/-! `user_Print`. -/

def userPrintSelectFormat : Bytes := lit "select * from PrintUser where MachineMAC='%s'"

def userPrintSelect (m : MachineInfo) : Sql where
  size := 500
  format := userPrintSelectFormat
  args := [m.sqlMAC]

def userPrintUpdateOffFormat : Bytes :=
  lit "update PrintUser set PuTime=\"%s\",PrintMark=\"%s\"  where MachineMAC=\"%s\""

def userPrintUpdateOff (m : MachineInfo) : Sql where
  size := 500
  format := userPrintUpdateOffFormat
  args := [m.sqlTime, off, m.sqlMAC]

def userPrintUpdateOnFormat : Bytes :=
  lit "update PrintUser set MachineName=\"%s\",MachineIP=\"%s\",CarNumber=\"%s\",PrintUserNickName=\"%s\",PrintUserName=\"%s\",PuTime=\"%s\",PrintMark=\"%s\"  where MachineMAC=\"%s\""

def userPrintUpdateOn (m : MachineInfo) (r : CarRow) : Sql where
  size := 500
  format := userPrintUpdateOnFormat
  args := [m.sqlMachineName, m.sqlIP, r.getCarNumber, r.getNickNume, r.getUserNames, m.sqlTime, on,
    m.sqlMAC]

def userPrintInsertOffFormat : Bytes :=
  lit "insert into PrintUser(MachineName,MachineMAC,MachineIP,PuTime,PrintMark)values( \"%s\",\"%s\",\"%s\",\"%s\",\"%s\");"

def userPrintInsertOff (m : MachineInfo) : Sql where
  size := 500
  format := userPrintInsertOffFormat
  args := [m.sqlMachineName, m.sqlMAC, m.sqlIP, m.sqlTime, off]

def userPrintInsertOnFormat : Bytes :=
  lit "insert into PrintUser(MachineName,MachineMAC,MachineIP,CarNumber,PrintUserNickName,PrintUserName,PuTime,PrintMark)values( \"%s\",\"%s\",\"%s\",\"%s\",\"%s\",\"%s\",\"%s\",\"%s\");"

def userPrintInsertOn (m : MachineInfo) (r : CarRow) : Sql where
  size := 500
  format := userPrintInsertOnFormat
  args := [m.sqlMachineName, m.sqlMAC, m.sqlIP, r.getCarNumber, r.getNickNume, r.getUserNames,
    m.sqlTime, on]

/-- The statement `user_Print` sends after its select found one row, or not: the
    card fields are left out when `GetCarNumber` is empty. -/
def userPrintWrite (oneRow : Bool) (m : MachineInfo) (r : CarRow) : Sql :=
  if oneRow then
    if r.getCarNumber.val = [] then userPrintUpdateOff m else userPrintUpdateOn m r
  else
    if r.getCarNumber.val = [] then userPrintInsertOff m else userPrintInsertOn m r

/-! The inserts of `GetConnectedStatus`. -/

def loginTableInsertFormat : Bytes :=
  lit "insert into loginTable(CarNumber,UserName,NickName, DTime,MachineName,MachineIP,MachineMAC) values( \"%s\",\"%s\",\"%s\",\"%s\",\"%s\",\"%s\",\"%s\");"

def loginTableInsert (m : MachineInfo) (r : CarRow) : Sql where
  size := 500
  format := loginTableInsertFormat
  args := [r.getCarNumber, r.getUserNames, r.getNickNume, m.sqlTime, m.sqlMachineName, m.sqlIP,
    m.sqlMAC]

def loginFTableInsertFormat : Bytes :=
  lit "insert into loginFTable(CarNumber, DTime,MachineName,MachineIP,MachineMAC) values(\"%s\",\"%s\",\"%s\",\"%s\",\"%s\");"

def loginFTableInsert (m : MachineInfo) (r : CarRow) : Sql where
  size := 500
  format := loginFTableInsertFormat
  args := [r.getCarNumber, m.sqlTime, m.sqlMachineName, m.sqlIP, m.sqlMAC]

/-- The statements the program builds. -/
inductive Built : Sql → Prop where
  | userQuery (strSQL : CStr) : Built (userQuery strSQL)
  | userUpdate (chpw getCarNumber : CStr) : Built (userUpdate chpw getCarNumber)
  | userPrintSelect (m : MachineInfo) : Built (userPrintSelect m)
  | userPrintWrite (oneRow : Bool) (m : MachineInfo) (r : CarRow) : Built (userPrintWrite oneRow m r)
  | loginTableInsert (m : MachineInfo) (r : CarRow) : Built (loginTableInsert m r)
  | loginFTableInsert (m : MachineInfo) (r : CarRow) : Built (loginFTableInsert m r)

/-- The text lexes as the format, with one literal for each field and the field as
    its value. -/
def LexesAsTemplate (s : Sql) (text : Bytes) : Prop :=
  (quoteKinds s.format).length = s.args.length ∧
    ∃ ts, lex s.format = some ts ∧ lex text = some (fill ts s.fields)

/-- Every field is clean for the quotes around its `%s`. -/
def FieldsClean (s : Sql) : Prop := ∀ p ∈ (quoteKinds s.format).zip s.fields, Clean p.1 p.2

theorem userPrintWrite_cases (oneRow : Bool) (m : MachineInfo) (r : CarRow) :
    userPrintWrite oneRow m r = userPrintUpdateOff m ∨ userPrintWrite oneRow m r = userPrintUpdateOn m r ∨
      userPrintWrite oneRow m r = userPrintInsertOff m ∨
      userPrintWrite oneRow m r = userPrintInsertOn m r := by
  unfold userPrintWrite
  split <;> split <;> simp

/-- The nine formats and the number of their arguments. -/
def formats : List (Bytes × Nat) :=
  [(userQueryFormat, 1), (userUpdateFormat, 2), (userPrintSelectFormat, 1),
    (userPrintUpdateOffFormat, 3), (userPrintUpdateOnFormat, 8), (userPrintInsertOffFormat, 5),
    (userPrintInsertOnFormat, 8), (loginTableInsertFormat, 7), (loginFTableInsertFormat, 5)]

/-- Each of them is a template with a place for every argument. -/
theorem formats_ok : ∀ f ∈ formats, formatOk f.1 = true ∧ (quoteKinds f.1).length = f.2 := by
  decide +kernel

theorem built_format {s : Sql} (h : Built s) : (s.format, s.args.length) ∈ formats := by
  cases h with
  | userPrintWrite oneRow m r =>
    rcases userPrintWrite_cases oneRow m r with h | h | h | h
    all_goals
      rw [h]
      simp [formats, userPrintUpdateOff, userPrintUpdateOn, userPrintInsertOff, userPrintInsertOn]
  | _ => simp [formats, userQuery, userUpdate, userPrintSelect, loginTableInsert, loginFTableInsert]

/-- A statement that fits its buffer lexes as its template exactly when every field
    is clean for its quotes. -/
theorem built_lexes_iff {s : Sql} (h : Built s) {text : Bytes} (ht : s.text = some text) :
    LexesAsTemplate s text ↔ FieldsClean s := by
  obtain ⟨hok, hlen⟩ := formats_ok _ (built_format h)
  dsimp only at hok hlen
  have hfields : (quoteKinds s.format).length = s.fields.length := by
    rw [hlen, Sql.fields, List.length_map]
  have hno : ∀ f ∈ s.fields, (0 : UInt8) ∉ f := by
    intro f hf
    obtain ⟨a, _, rfl⟩ := List.mem_map.mp hf
    exact a.property
  have hiff := lexes_iff hok hfields hno (sprintf_s_eq_some.mp ht).1
  exact ⟨fun hl => hiff.mp hl.2, fun hc => ⟨hlen, hiff.mpr hc⟩⟩

/-- A password and a card of digits, stored as they are. -/
def digits : CStr := ⟨lit "12345678", by decide⟩
def card : CStr := ⟨lit "00112233445566778899001122334455", by decide⟩

theorem update_digits_lexes : LexesAsTemplate (userUpdate digits card)
    (lit "update CarTable set UserPW=AES_ENCRYPT('12345678','Dust') where CarNumber='00112233445566778899001122334455'") :=
  (built_lexes_iff (.userUpdate digits card) (by decide +kernel)).mpr (by
    have hno : ∀ p ∈ (quoteKinds (userUpdate digits card).format).zip (userUpdate digits card).fields,
        p.1 ∉ p.2 ∧ (92 : UInt8) ∉ p.2 := by decide +kernel
    exact fun p hp => clean_of_no_backslash (hno p hp).1 (hno p hp).2)

/-- A typed password with a quote in it. -/
def quoted : CStr := ⟨lit "1234567'", by decide⟩

/-- The update that stores it ends its literal at the quote. -/
theorem quoted_password_breaks_update :
    ¬ ∀ s text, Built s → s.text = some text → LexesAsTemplate s text := by
  intro h
  obtain ⟨_, ts, hts, hl⟩ := h (userUpdate quoted card)
    (lit "update CarTable set UserPW=AES_ENCRYPT('1234567'','Dust') where CarNumber='00112233445566778899001122334455'")
    (.userUpdate quoted card) (by decide +kernel)
  have hne : (lex (userUpdate quoted card).format).map (fill · (userUpdate quoted card).fields) ≠
      lex (lit "update CarTable set UserPW=AES_ENCRYPT('1234567'','Dust') where CarNumber='00112233445566778899001122334455'") := by
    decide +kernel
  rw [hts, hl] at hne
  exact hne rfl

end CardLogon
