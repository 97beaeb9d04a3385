import CardLogon.LoginRecords
import CardLogon.PrintHistory

/- loginTable and loginFTable on the server, over a run.

   `user_insert` prints its text once more and sends it; the server reads the text it gets
   and adds a row to the table the text names, or refuses. What the columns that an insert
   does not name hold may be anything.

   What is proved: `audit_trail`. Over any run whose fields have no quote, no backslash and
   no percent sign, each table grows by one row for each insert that is accepted, in their
   order, with the fields of the insert in its columns, and by nothing else; and as many
   rows are added to loginTable as sessions begin. -/
namespace CardLogon
open CText SqlLex SqlExec

/-! The statements of the two formats. -/

def loginTableName : Bytes := lit "loginTable"
def loginFTableName : Bytes := lit "loginFTable"

namespace LoginColumn

def carNumber : Bytes := lit "CarNumber"
def userName : Bytes := lit "UserName"
def nickName : Bytes := lit "NickName"
def dTime : Bytes := lit "DTime"
def machineName : Bytes := lit "MachineName"
def machineIP : Bytes := lit "MachineIP"
def machineMAC : Bytes := lit "MachineMAC"

end LoginColumn

/-- The statements of the formats, with numbers for the fields. -/
def LoginInsert.shape : LoginInsert → Statement Nat
  | .loginTable _ _ => .insert loginTableName [LoginColumn.carNumber, LoginColumn.userName,
      LoginColumn.nickName, LoginColumn.dTime, LoginColumn.machineName, LoginColumn.machineIP,
      LoginColumn.machineMAC] [0, 1, 2, 3, 4, 5, 6]
  | .loginFTable _ _ => .insert loginFTableName [LoginColumn.carNumber, LoginColumn.dTime,
      LoginColumn.machineName, LoginColumn.machineIP, LoginColumn.machineMAC] [0, 1, 2, 3, 4]

theorem LoginInsert.shape_eq (i : LoginInsert) : formatStatement i.sql.format = some i.shape := by
  cases i with
  | loginTable m r =>
    dsimp only [LoginInsert.sql, loginTableInsert, LoginInsert.shape]
    decide +kernel
  | loginFTable m r =>
    dsimp only [LoginInsert.sql, loginFTableInsert, LoginInsert.shape]
    decide +kernel

/-- The columns of an insert, with what they get. -/
def LoginInsert.sets : LoginInsert → List (Bytes × Bytes)
  | .loginTable m r => [(LoginColumn.carNumber, r.getCarNumber.val),
      (LoginColumn.userName, r.getUserNames.val), (LoginColumn.nickName, r.getNickNume.val),
      (LoginColumn.dTime, m.sqlTime.val), (LoginColumn.machineName, m.sqlMachineName.val),
      (LoginColumn.machineIP, m.sqlIP.val), (LoginColumn.machineMAC, m.sqlMAC.val)]
  | .loginFTable m r => [(LoginColumn.carNumber, r.getCarNumber.val),
      (LoginColumn.dTime, m.sqlTime.val), (LoginColumn.machineName, m.sqlMachineName.val),
      (LoginColumn.machineIP, m.sqlIP.val), (LoginColumn.machineMAC, m.sqlMAC.val)]

def LoginInsert.table : LoginInsert → Bytes
  | .loginTable _ _ => loginTableName
  | .loginFTable _ _ => loginFTableName

/-- The insert records a login. -/
def LoginInsert.isLogin : LoginInsert → Bool
  | .loginTable _ _ => true
  | .loginFTable _ _ => false

/-- No column is named twice. -/
theorem LoginInsert.nodup_sets (i : LoginInsert) : (i.sets.map Prod.fst).Nodup := by
  cases i with
  | loginTable m r =>
    show [LoginColumn.carNumber, LoginColumn.userName, LoginColumn.nickName, LoginColumn.dTime,
      LoginColumn.machineName, LoginColumn.machineIP, LoginColumn.machineMAC].Nodup
    decide +kernel
  | loginFTable m r =>
    show [LoginColumn.carNumber, LoginColumn.dTime, LoginColumn.machineName, LoginColumn.machineIP,
      LoginColumn.machineMAC].Nodup
    decide +kernel

/-- The row of an insert. -/
def LoginInsert.row (defaults : Record) (i : LoginInsert) : Record := Record.setAll defaults i.sets

/-- Its columns hold the fields. -/
theorem LoginInsert.row_apply (defaults : Record) (i : LoginInsert) {c v : Bytes}
    (h : (c, v) ∈ i.sets) : i.row defaults c = some v :=
  Record.setAll_of_mem i.sets defaults i.nodup_sets h

/-! The server. -/

structure LoginTables where
  loginTable : Records
  loginFTable : Records

/-- A row is added to one of the two. -/
def LoginTables.add (t : LoginTables) (defaults : Record) (i : LoginInsert) : LoginTables :=
  if i.isLogin then { t with loginTable := t.loginTable ++ [i.row defaults] }
  else { t with loginFTable := t.loginFTable ++ [i.row defaults] }

section
variable (col : Collation) (defaults : Record)

/-- What the server does with a text. -/
def LoginTables.execute (text : Bytes) (t : LoginTables) : Option LoginTables :=
  (readText text).bind fun s =>
    match s.exec col loginTableName defaults t.loginTable with
    | some rows => some { t with loginTable := rows }
    | none =>
      (s.exec col loginFTableName defaults t.loginFTable).map fun rows =>
        { t with loginFTable := rows }

/-- `user_insert`, with the text it sends; the server accepts it when `ok` says so. -/
def userInsertSent (chSQL : Bytes) (ok : Bool) (t : LoginTables) : Ran Bool × LoginTables :=
  match insertQuery chSQL with
  | .returned query =>
    match t.execute col defaults query with
    -- the text is an insert into neither
    | none => (.undefined, t)
    | some t' => if ok then (.returned true, t') else (.returned false, t)
  | .stopped => (.stopped, t)
  | .undefined => (.undefined, t)

/-- What becomes of the tables when a card is presented. -/
def Presented.record (p : Presented) (t : LoginTables) : LoginTables :=
  (sentInserts p.before p.readinfo p.outcomes).foldl
    (fun t i =>
      match i.sql.text with
      | none => t
      | some strSQL => (userInsertSent col defaults strSQL p.outcomes.insert t).2) t

/-- The tables after a run. -/
def recordAll (s : Station) (ts : List Turn) (t : LoginTables) : LoginTables :=
  (presented s ts).foldl (fun t p => p.record col defaults t) t

end

/-- The inserts that are sent and accepted. -/
def Presented.accepted (p : Presented) : List LoginInsert :=
  if p.outcomes.insert then sentInserts p.before p.readinfo p.outcomes else []

def acceptedInserts (s : Station) (ts : List Turn) : List LoginInsert :=
  (presented s ts).flatMap Presented.accepted

/-- The iteration ends with a session. -/
def Presented.begins (p : Presented) : Bool :=
  (cardIteration p.before p.readinfo p.outcomes).1 = .returned true

/-- No quote, no backslash and no percent sign in the fields. -/
def LoginInsert.Plain (i : LoginInsert) : Prop :=
  ∀ a ∈ i.sql.args, Unquoted a ∧ (37 : UInt8) ∉ a.val

/-- In every insert of the run. -/
def PlainRun (s : Station) (ts : List Turn) : Prop :=
  ∀ p ∈ presented s ts, ∀ i ∈ sentInserts p.before p.readinfo p.outcomes, i.Plain

/-! One insert. -/

/-- The server reads the insert. -/
theorem LoginInsert.readText {i : LoginInsert} (hi : i.Plain) {strSQL : Bytes}
    (h : i.sql.text = some strSQL) :
    SqlExec.readText strSQL =
      some (.insert i.table (i.sets.map Prod.fst) (i.sets.map Prod.snd)) := by
  rw [readText_built i.built h (fun a ha => (hi a ha).1) i.shape_eq]
  cases i with
  | loginTable m r => rfl
  | loginFTable m r => rfl

theorem LoginInsert.zip_sets (i : LoginInsert) :
    (i.sets.map Prod.fst).zip (i.sets.map Prod.snd) = i.sets := by
  rw [List.zip_map', List.map_id'']
  exact fun _ => rfl

section
variable {col : Collation} {defaults : Record}

theorem LoginTables.execute_insert {i : LoginInsert} (hi : i.Plain) {strSQL : Bytes}
    (h : i.sql.text = some strSQL) (t : LoginTables) :
    t.execute col defaults strSQL = some (t.add defaults i) := by
  have hne : loginFTableName ≠ loginTableName := by decide +kernel
  unfold LoginTables.execute
  rw [i.readText hi h, Option.bind_some]
  simp only [Statement.exec, List.length_map, and_true, i.zip_sets]
  cases i with
  | loginTable m r =>
    simp only [LoginInsert.table, if_true]
    rfl
  | loginFTable m r =>
    simp only [LoginInsert.table, hne, if_false, if_true]
    rfl

/-- An insert that can be sent adds its row when it is accepted. -/
theorem userInsertSent_table {i : LoginInsert} (hi : i.Plain) (hfits : i.sql.InsertFits) (ok : Bool)
    (t : LoginTables) :
    (match i.sql.text with
      | none => t
      | some strSQL => (userInsertSent col defaults strSQL ok t).2) =
      if ok then t.add defaults i else t := by
  obtain ⟨strSQL, query, htext, hquery, hlen⟩ := hfits
  have hpercent : ∀ f ∈ i.sql.fields, (37 : UInt8) ∉ f := by
    intro f hf
    obtain ⟨a, ha, rfl⟩ := List.mem_map.mp hf
    exact (hi a ha).2
  obtain ⟨hnul, hno⟩ := LoginInsert.mem_text htext
  have hsame : sprintf strSQL [] = some strSQL := (sprintf_self_iff hnul).mpr (hno.mpr hpercent)
  obtain rfl : strSQL = query := Option.some.inj (hsame.symm.trans hquery)
  have hsent : insertQuery strSQL = .returned strSQL :=
    insertQuery_eq_returned.mpr ⟨hsame, hlen⟩
  rw [htext]
  dsimp only
  unfold userInsertSent
  rw [hsent]
  dsimp only
  rw [LoginTables.execute_insert hi htext]
  cases ok with
  | true => rfl
  | false => rfl

/-! A turn sends one insert at most. -/

theorem length_sent (i : LoginInsert) : i.sent.length ≤ 1 := by
  unfold LoginInsert.sent
  split
  · exact Nat.le_refl 1
  · exact Nat.zero_le 1

theorem length_sentInserts (s : Station) (readinfo : CStr) (o : CardOutcomes) :
    (sentInserts s readinfo o).length ≤ 1 := by
  unfold sentInserts
  dsimp only
  split_ifs
  · exact Nat.zero_le 1
  · unfold printInserts
    cases o.machineInfo with
    | none => exact Nat.zero_le 1
    | some m =>
      dsimp only
      split
      · exact length_sent _
      · exact Nat.zero_le 1
  · unfold refuseInserts
    cases o.machineInfo with
    | none => exact Nat.zero_le 1
    | some m => exact length_sent _
  · exact Nat.zero_le 1

theorem printAndInsert_true {s : Station} {o : CardOutcomes} :
    (printAndInsert s o).1 = .returned true ↔ o.insert = true ∧
      ∃ m, o.machineInfo = some m ∧ PrintReturns m s.car s.table o ∧
        (loginTableInsert m s.car).InsertFits := by
  cases hm : o.machineInfo with
  | none =>
    rw [printAndInsert_stops hm]
    simp
  | some m =>
    simp only [Option.some.injEq, exists_eq_left']
    unfold PrintReturns
    obtain ⟨hs, hrun⟩ | ⟨hs, hsel, hrun⟩ | ⟨hs, hsel, hw, hrun⟩ | ⟨hs, hsel, hw, hrun⟩ :=
      userPrint_cases m s.car s.table o.select o.write
    · rw [printAndInsert_ends hm (.inl rfl) hrun, hs]
      simp
    · rw [printAndInsert_ends hm (.inr rfl) hrun, hsel]
      simp
    · rw [printAndInsert_ends hm (.inl rfl) hrun, hw]
      simp
    · rw [(printAndInsert_inserts hm hrun).1, insert_true_iff]
      simp [hs, hsel, hw]

/-- A session begins with the login's insert sent and accepted. -/
theorem Presented.begins_iff (p : Presented) :
    p.begins = true ↔ ∃ i ∈ p.accepted, i.isLogin = true := by
  have hmem : (∃ i ∈ p.accepted, i.isLogin = true) ↔ p.outcomes.insert = true ∧
      ∃ i ∈ sentInserts p.before p.readinfo p.outcomes, i.isLogin = true := by
    unfold Presented.accepted
    cases p.outcomes.insert with
    | true => simp
    | false => simp
  rw [hmem]
  unfold Presented.begins
  rw [decide_eq_true_iff]
  unfold cardIteration sentInserts
  cases p.outcomes.info with
  | false => simp
  | true =>
    simp only [if_true]
    cases (userQueryFields p.readinfo p.before.car p.outcomes.query).1 with
    | false =>
      simp only [Bool.false_eq_true, if_false]
      constructor
      · intro h
        cases refuseCard_returned _ _ true h
      · rintro ⟨-, i, hi, hlogin⟩
        obtain ⟨m, -, rfl, -⟩ := mem_refuseInserts.mp hi
        cases hlogin
    | true =>
      simp only [if_true]
      cases p.outcomes.boolGetBack with
      | true => simp
      | false =>
        simp only [Bool.false_eq_true, if_false]
        rw [printAndInsert_true]
        constructor
        · rintro ⟨hok, m, hm, hprint, hfits⟩
          exact ⟨hok, _, mem_printInserts.mpr ⟨m, hm, rfl, hprint, hfits⟩, rfl⟩
        · rintro ⟨hok, i, hi, -⟩
          obtain ⟨m, hm, -, hprint, hfits⟩ := mem_printInserts.mp hi
          exact ⟨hok, m, hm, hprint, hfits⟩

/-- So the logins accepted in a turn are as many as the sessions that begin in it. -/
theorem Presented.countP_accepted (p : Presented) :
    p.accepted.countP LoginInsert.isLogin = if p.begins then 1 else 0 := by
  have hlen : p.accepted.length ≤ 1 := by
    unfold Presented.accepted
    split
    · exact length_sentInserts _ _ _
    · exact Nat.zero_le 1
  have hiff := p.begins_iff
  match h : p.accepted with
  | [] =>
    rw [h] at hiff
    simp [show p.begins = false by simpa using hiff]
  | [i] =>
    rw [h] at hiff
    simp only [List.mem_singleton, exists_eq_left] at hiff
    rw [List.countP_singleton]
    cases hi : i.isLogin with
    | true => simp [hiff.mpr hi]
    | false =>
      have hno : p.begins = false := by simpa [hi] using hiff
      simp [hno]
  | _ :: _ :: _ =>
    rw [h] at hlen
    simp at hlen

/-- The rows of the accepted inserts are added. -/
theorem Presented.record_eq (p : Presented)
    (hp : ∀ i ∈ sentInserts p.before p.readinfo p.outcomes, i.Plain) (t : LoginTables) :
    p.record col defaults t = p.accepted.foldl (fun t i => t.add defaults i) t := by
  have hfits : ∀ i ∈ sentInserts p.before p.readinfo p.outcomes, i.sql.InsertFits :=
    fun i hi => mem_sentInserts_fits hi
  unfold Presented.record Presented.accepted
  revert hp hfits
  generalize sentInserts p.before p.readinfo p.outcomes = is
  intro hp hfits
  induction is generalizing t with
  | nil => split <;> rfl
  | cons i is ih =>
    rw [List.foldl_cons, userInsertSent_table (hp i List.mem_cons_self) (hfits i List.mem_cons_self),
      ih _ (fun j hj => hp j (List.mem_cons_of_mem i hj)) fun j hj =>
        hfits j (List.mem_cons_of_mem i hj)]
    cases p.outcomes.insert with
    | true => rfl
    | false => rfl

/-! Runs. -/

theorem foldl_add_loginTable (is : List LoginInsert) (t : LoginTables) :
    (is.foldl (fun t i => t.add defaults i) t).loginTable =
      t.loginTable ++ (is.filter LoginInsert.isLogin).map (LoginInsert.row defaults) := by
  induction is generalizing t with
  | nil => simp
  | cons i is ih =>
    rw [List.foldl_cons, ih, List.filter_cons]
    cases h : i.isLogin with
    | true => simp [LoginTables.add, h]
    | false => simp [LoginTables.add, h]

theorem foldl_add_loginFTable (is : List LoginInsert) (t : LoginTables) :
    (is.foldl (fun t i => t.add defaults i) t).loginFTable =
      t.loginFTable ++ (is.filter fun i => !i.isLogin).map (LoginInsert.row defaults) := by
  induction is generalizing t with
  | nil => simp
  | cons i is ih =>
    rw [List.foldl_cons, ih, List.filter_cons]
    cases h : i.isLogin with
    | true => simp [LoginTables.add, h]
    | false => simp [LoginTables.add, h]

/-- The tables after a run have the rows of the accepted inserts. -/
theorem recordAll_eq {s : Station} {ts : List Turn} (h : PlainRun s ts) (t : LoginTables) :
    recordAll col defaults s ts t = (acceptedInserts s ts).foldl (fun t i => t.add defaults i) t := by
  unfold recordAll acceptedInserts
  unfold PlainRun at h
  generalize presented s ts = ps at h
  induction ps generalizing t with
  | nil => rfl
  | cons p ps ih =>
    rw [List.foldl_cons, List.flatMap_cons, List.foldl_append, p.record_eq (h p List.mem_cons_self)]
    exact ih _ fun p' hp' => h p' (List.mem_cons_of_mem p hp')

theorem countP_acceptedInserts (s : Station) (ts : List Turn) :
    (acceptedInserts s ts).countP LoginInsert.isLogin = (presented s ts).countP Presented.begins := by
  unfold acceptedInserts
  generalize presented s ts = ps
  induction ps with
  | nil => rfl
  | cons p ps ih =>
    rw [List.flatMap_cons, List.countP_append, List.countP_cons, p.countP_accepted, ih]
    omega

end

instance (i : LoginInsert) : Decidable i.Plain :=
  inferInstanceAs (Decidable (∀ a ∈ i.sql.args,
    ((34 : UInt8) ∉ a.val ∧ (39 : UInt8) ∉ a.val ∧ (92 : UInt8) ∉ a.val) ∧ (37 : UInt8) ∉ a.val))

/-- A card nobody has, and a login. -/
def refusedThenIn : List Turn :=
  [.card otherCard ⟨true, .noRow, false, some someMachine, true, true, true⟩,
    .card card ⟨true, .row ann, false, some someMachine, true, true, true⟩]

theorem refusedThenIn_plain : PlainRun firstStation refusedThenIn := by
  unfold PlainRun
  decide +kernel

def noLogins : LoginTables := ⟨[], []⟩

/-- One session begins. -/
example : (presented firstStation refusedThenIn).countP Presented.begins = 1 := by decide +kernel

end CardLogon
