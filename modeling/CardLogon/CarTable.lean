import CardLogon.PrintUser
import CardLogon.SqlCall
import Mathlib.Data.List.Forall2

/- The CarTable on the server: `user_update` stores a password in the row of a card,
   encrypted, and `user_query` reads the row of a card, with the password decrypted.

   The server reads each text and does what it says (`SqlCall`). Which strings it takes for
   the same, and its functions, may be anything; of the functions the results ask only that
   `AES_DECRYPT` gives back what `AES_ENCRYPT` was given under the same key. A column holds
   what is assigned to it. The connection's `SET NAMES` is left out.

   What is proved:
     1. `password_history`. After any updates by any stations, of any cards, some of which
        fail, a query of a card ends as it would have before them, with the password that
        was stored last for the card; nothing but the column UserPW has changed.
     2. `userQuerySent_fields`. What the query returns and sets is `userQueryFields` of a
        result of the select. -/
namespace CardLogon
open CText SqlLex SqlExec SqlCall

/-! The statements of the formats. -/

def carTable : Bytes := lit "CarTable"

/-- The key of both functions. -/
def dust : Bytes := lit "Dust"

def aesEncrypt : Bytes := lit "AES_ENCRYPT"
def aesDecrypt : Bytes := lit "AES_DECRYPT"

namespace CarColumn

def id : Bytes := lit "id"
def carNumber : Bytes := lit "CarNumber"
def userName : Bytes := lit "UserName"
def nickname : Bytes := lit "nickname"
def userPW : Bytes := lit "UserPW"

end CarColumn

/-- The columns of the select, of which `n` stands for the key of the function. -/
def cardItems {α : Type} (n : α) : List (Expr α) :=
  [.operand (.column CarColumn.id), .operand (.column CarColumn.carNumber),
    .operand (.column CarColumn.userName), .operand (.column CarColumn.nickname),
    .call aesDecrypt [.column CarColumn.userPW, .value n]]

theorem userQuery_shape : formatCall userQueryFormat =
    some (.select (cardItems (.inr dust)) carTable (CarColumn.carNumber, .inl 0)) := by
  decide +kernel

theorem userUpdate_shape : formatCall userUpdateFormat =
    some (.update carTable
      [(CarColumn.userPW, .call aesEncrypt [.value (.inl 0), .value (.inr dust)])]
      (CarColumn.carNumber, .inl 1)) := by
  decide +kernel

/-- The assignment of an update. -/
def passwordSets (pw : Bytes) : List (Bytes × Expr Bytes) :=
  [(CarColumn.userPW, .call aesEncrypt [.value pw, .value dust])]

/-- The server reads the statement of the format, with the arguments in their places. -/
theorem readCallText_built {s : Sql} (hs : Built s) {text : Bytes} (htext : s.text = some text)
    (hclean : FieldsClean s) {shape : CallStatement Place}
    (hshape : formatCall s.format = some shape) :
    readCallText text = some (shape.map (Place.fill s.fields)) := by
  obtain ⟨hlen, ts, hlex, hfill⟩ := (built_lexes_iff hs htext).mpr hclean
  apply readCall_fill hshape hlex _ hfill
  rw [hlen, Sql.fields, List.length_map]

theorem readCallText_userQuery {strSQL : CStr} {text : Bytes}
    (htext : (userQuery strSQL).text = some text) (hclean : FieldsClean (userQuery strSQL)) :
    readCallText text =
      some (.select (cardItems dust) carTable (CarColumn.carNumber, strSQL.val)) :=
  readCallText_built (.userQuery strSQL) htext hclean userQuery_shape

theorem readCallText_userUpdate {chpw getCarNumber : CStr} {text : Bytes}
    (htext : (userUpdate chpw getCarNumber).text = some text)
    (hclean : FieldsClean (userUpdate chpw getCarNumber)) :
    readCallText text =
      some (.update carTable (passwordSets chpw.val) (CarColumn.carNumber, getCarNumber.val)) :=
  readCallText_built (.userUpdate chpw getCarNumber) htext hclean userUpdate_shape

/-! `user_query` and `user_update`. -/

/-- The fields of the connection object that `user_query` sets. -/
structure CardFields where
  car : CarRow
  getUserPW : CStr

/-- A column as the `string` that is assigned from it. -/
def columnString (v : Bytes) : CStr := ⟨cstr v, cstr_no_nul v⟩

/-- The fields from the columns of a row; `none` when a null pointer would be assigned. -/
def fetchedRow : List (Option Bytes) → Option CardFields
  | [_, some car, some user, some nick, pw] =>
    some {
      car := ⟨columnString car, columnString user, columnString nick⟩
      -- a NULL password is an empty one
      getUserPW := columnString (pw.getD []) }
  | _ => none

/-- What `user_query` makes of the result set, `none` when there is no result set. -/
def userQueryFetch (strSQL : CStr) (f : CardFields) :
    Option (List (List (Option Bytes))) → Ran Bool × CardFields
  | none => (.returned false, f)
  | some [sql_row] =>
    match fetchedRow sql_row with
    | some fetched => (.returned true, fetched)
    | none => (.undefined, f)
  | some _ => (.returned false, { f with car := { f.car with getCarNumber := strSQL } })

section
variable (col : Collation) (fns : Functions)

/-- `user_query`, and what the server answers; the select fails unless `select` says that it
    succeeds. -/
def userQuerySent (strSQL : CStr) (f : CardFields) (select : Bool) (t : Records) :
    Ran Bool × CardFields :=
  match (userQuery strSQL).text with
  | none => (.stopped, f)
  | some query =>
    match (readCallText query).bind fun s => s.rows col fns carTable t with
    -- the text is not a select of this table
    | none => (.undefined, f)
    | some result => userQueryFetch strSQL f (if select then some result else none)

/-- `user_update`, and what the server does; the update is done when `write` says so. -/
def userUpdateSent (chpw getCarNumber : CStr) (write : Bool) (t : Records) : Ran Bool × Records :=
  match (userUpdate chpw getCarNumber).text with
  | none => (.stopped, t)
  | some query =>
    match (readCallText query).bind fun s => s.exec col fns carTable t with
    -- the text is not an update of this table
    | none => (.undefined, t)
    | some t' => if write then (.returned true, t') else (.returned false, t)

/-- A call of `user_update`: the password, the card in the connection object, and what the
    server does with the statement. -/
structure CardUpdate where
  chpw : CStr
  getCarNumber : CStr
  write : Bool

/-- The fields are clean for the quotes around them. -/
def CardUpdate.Proper (u : CardUpdate) : Prop := FieldsClean (userUpdate u.chpw u.getCarNumber)

/-- The statement fits its buffer, and the server does it. -/
def CardUpdate.stores (u : CardUpdate) : Bool :=
  u.write && (userUpdate u.chpw u.getCarNumber).text.isSome

def CardUpdate.run (u : CardUpdate) (t : Records) : Ran Bool × Records :=
  userUpdateSent col fns u.chpw u.getCarNumber u.write t

/-- The table after the calls, one after the other. -/
def carHistory (t : Records) (updates : List CardUpdate) : Records :=
  updates.foldl (fun t u => (u.run col fns t).2) t

/-- The call stores a password for this card. -/
def CardUpdate.storesFor (u : CardUpdate) (strSQL : CStr) : Bool :=
  u.stores && col.same u.getCarNumber.val strSQL.val

/-- The password that was stored last for a card. -/
def lastStored (strSQL : CStr) : List CardUpdate → Option CStr
  | [] => none
  | u :: updates =>
    (lastStored strSQL updates).or (if u.storesFor col strSQL then some u.chpw else none)

/-- The result of a query, with a password of its own. -/
def withPassword (pw : CStr) : Ran Bool × CardFields → Ran Bool × CardFields
  | (.returned true, f) => (.returned true, { f with getUserPW := pw })
  | r => r

/-- The same, when a password was stored. -/
def withStored : Option CStr → Ran Bool × CardFields → Ran Bool × CardFields
  | none, r => r
  | some pw, r => withPassword pw r

/-- `AES_DECRYPT` gives back what `AES_ENCRYPT` was given. -/
def AesInverts : Prop :=
  ∀ pw key, fns aesDecrypt [fns aesEncrypt [some pw, some key], some key] = some pw

/-! One call. -/

/-- What the update does to a row. -/
def storePassword (pw : Bytes) (row : Record) : Record := assignAll fns (passwordSets pw) row

theorem storePassword_keeps (pw : Bytes) {c : Bytes} (hc : c ≠ CarColumn.userPW) (row : Record) :
    storePassword fns pw row c = row c := by
  apply assignAll_of_notMem
  show c ∉ [CarColumn.userPW]
  rw [List.mem_singleton]
  exact hc

theorem storePassword_userPW (pw : Bytes) (row : Record) :
    storePassword fns pw row CarColumn.userPW = fns aesEncrypt [some pw, some dust] :=
  Function.update_self CarColumn.userPW _ row

theorem carNumber_ne_userPW : CarColumn.carNumber ≠ CarColumn.userPW := by decide +kernel

/-- The columns of the select for one row. -/
def rowItems (row : Record) : List (Option Bytes) :=
  (cardItems dust).map (Expr.eval fns row)

theorem rowItems_eq (row : Record) :
    rowItems fns row = [row CarColumn.id, row CarColumn.carNumber, row CarColumn.userName,
      row CarColumn.nickname, fns aesDecrypt [row CarColumn.userPW, some dust]] := rfl

/-- A query of a card fetches the rows of the card. -/
theorem userQuerySent_eq {strSQL : CStr} (hclean : FieldsClean (userQuery strSQL))
    (hfits : (userQuery strSQL).text.isSome) (f : CardFields) (select : Bool) (t : Records) :
    userQuerySent col fns strSQL f select t =
      userQueryFetch strSQL f
        (if select then some ((withKey col (CarColumn.carNumber, strSQL.val) t).map (rowItems fns))
        else none) := by
  obtain ⟨query, hquery⟩ := Option.isSome_iff_exists.mp hfits
  unfold userQuerySent
  rw [hquery]
  dsimp only
  rw [readCallText_userQuery hquery hclean, Option.bind_some]
  simp only [CallStatement.rows, if_true]
  rfl

/-- A call stores the password in the rows of its card, or does nothing. -/
theorem CardUpdate.run_table {u : CardUpdate} (hu : u.Proper) (t : Records) :
    (u.run col fns t).2 =
      if u.stores then
        mapKey col (CarColumn.carNumber, u.getCarNumber.val) (storePassword fns u.chpw.val) t
      else t := by
  unfold CardUpdate.run CardUpdate.stores userUpdateSent
  cases htext : (userUpdate u.chpw u.getCarNumber).text with
  | none => simp
  | some query =>
    dsimp only
    rw [readCallText_userUpdate htext hu, Option.bind_some]
    cases u.write with
    | false => simp [CallStatement.exec]
    | true =>
      simp only [CallStatement.exec, if_true, Option.isSome_some, Bool.and_self]
      rfl

variable {col fns}

/-- The row of a stored password is fetched with this password. -/
theorem rowItems_storePassword (hfns : AesInverts fns) (pw : Bytes) (row : Record) :
    rowItems fns (storePassword fns pw row) =
      [row CarColumn.id, row CarColumn.carNumber, row CarColumn.userName, row CarColumn.nickname,
        some pw] := by
  have hdec : fns aesDecrypt [storePassword fns pw row CarColumn.userPW, some dust] = some pw := by
    rw [storePassword_userPW]
    exact hfns pw dust
  have hkeep : ∀ c ∈ [CarColumn.id, CarColumn.carNumber, CarColumn.userName, CarColumn.nickname],
      c ≠ CarColumn.userPW := by
    decide +kernel
  rw [rowItems_eq, hdec, storePassword_keeps fns pw (hkeep CarColumn.id (by simp)),
    storePassword_keeps fns pw (hkeep CarColumn.carNumber (by simp)),
    storePassword_keeps fns pw (hkeep CarColumn.userName (by simp)),
    storePassword_keeps fns pw (hkeep CarColumn.nickname (by simp))]

/-- The other columns are as they were. -/
theorem fetchedRow_password (row : Record) (pw : CStr) :
    fetchedRow [row CarColumn.id, row CarColumn.carNumber, row CarColumn.userName,
        row CarColumn.nickname, some pw.val] =
      (fetchedRow (rowItems fns row)).map fun fetched => { fetched with getUserPW := pw } := by
  have hpw : columnString pw.val = pw := Subtype.ext (cstr_val pw)
  rw [rowItems_eq]
  cases row CarColumn.carNumber with
  | none => rfl
  | some car =>
    cases row CarColumn.userName with
    | none => rfl
    | some user =>
      cases row CarColumn.nickname with
      | none => rfl
      | some nick =>
        simp only [fetchedRow, Option.getD_some, hpw]
        rfl

/-- The fetched result is the one before, with the password. -/
theorem userQueryFetch_storePassword (hfns : AesInverts fns) (strSQL : CStr) (f : CardFields)
    (pw : CStr) (rows : Records) :
    userQueryFetch strSQL f (some (rows.map (rowItems fns ∘ storePassword fns pw.val))) =
      withPassword pw (userQueryFetch strSQL f (some (rows.map (rowItems fns)))) := by
  match rows with
  | [] => rfl
  | [row] =>
    show (match fetchedRow (rowItems fns (storePassword fns pw.val row)) with | some _ => _ | none => _) = _
    rw [rowItems_storePassword hfns, fetchedRow_password]
    show _ = withPassword pw (match fetchedRow (rowItems fns row) with | some _ => _ | none => _)
    cases fetchedRow (rowItems fns row) with
    | none => rfl
    | some fetched => rfl
  | _ :: _ :: _ => rfl

/-- A query after a call. -/
theorem userQuerySent_run (hfns : AesInverts fns) {u : CardUpdate} (hu : u.Proper) {strSQL : CStr}
    (hclean : FieldsClean (userQuery strSQL)) (hfits : (userQuery strSQL).text.isSome)
    (f : CardFields) (t : Records) :
    userQuerySent col fns strSQL f true (u.run col fns t).2 =
      if u.storesFor col strSQL then
        withPassword u.chpw (userQuerySent col fns strSQL f true t)
      else userQuerySent col fns strSQL f true t := by
  have hkeep := storePassword_keeps fns u.chpw.val carNumber_ne_userPW
  unfold CardUpdate.storesFor
  rw [u.run_table col fns hu]
  cases u.stores with
  | false => rw [Bool.false_and, if_neg Bool.false_ne_true, if_neg Bool.false_ne_true]
  | true =>
    rw [if_pos rfl, Bool.true_and, userQuerySent_eq col fns hclean hfits,
      userQuerySent_eq col fns hclean hfits, if_pos rfl, if_pos rfl]
    cases hsame : col.same u.getCarNumber.val strSQL.val with
    | true =>
      rw [withKey_mapKey_same (CarColumn.carNumber, u.getCarNumber.val) hkeep hsame,
        List.map_map, if_pos rfl]
      exact userQueryFetch_storePassword hfns strSQL f u.chpw _
    | false =>
      rw [withKey_mapKey_other (CarColumn.carNumber, u.getCarNumber.val) hkeep hsame]
      rfl

/-! Histories. -/

/-- Rows that differ in the password only. -/
def SameButPassword (t t' : Records) : Prop :=
  List.Forall₂ (fun row row' : Record => ∀ c, c ≠ CarColumn.userPW → row' c = row c) t t'

theorem SameButPassword.refl (t : Records) : SameButPassword t t := by
  apply List.forall₂_same.mpr
  intro row _ c _
  rfl

theorem SameButPassword.run {u : CardUpdate} (hu : u.Proper) {t t' : Records}
    (h : SameButPassword t t') : SameButPassword t (u.run col fns t').2 := by
  rw [u.run_table col fns hu]
  split
  · unfold mapKey
    induction h with
    | nil => exact .nil
    | cons hrow _ ih =>
      refine .cons ?_ ih
      intro c hc
      dsimp only
      split
      · exact (storePassword_keeps fns u.chpw.val hc _).trans (hrow c hc)
      · exact hrow c hc
  · exact h

theorem SameButPassword.history {updates : List CardUpdate} (hupdates : ∀ u ∈ updates, u.Proper)
    {t t' : Records} (h : SameButPassword t t') :
    SameButPassword t (carHistory col fns t' updates) := by
  induction updates generalizing t' with
  | nil => exact h
  | cons u updates ih =>
    apply ih
    · exact fun u' hu' => hupdates u' (List.mem_cons_of_mem u hu')
    · exact h.run (hupdates u List.mem_cons_self)

theorem withPassword_withPassword (pw pw' : CStr) (r : Ran Bool × CardFields) :
    withPassword pw (withPassword pw' r) = withPassword pw r := by
  match r with
  | (.returned true, _) => rfl
  | (.returned false, _) => rfl
  | (.stopped, _) => rfl
  | (.undefined, _) => rfl

/-- A later password hides an earlier one. -/
theorem withStored_lastStored (strSQL : CStr) (u : CardUpdate) (updates : List CardUpdate)
    (r : Ran Bool × CardFields) :
    withStored (lastStored col strSQL (u :: updates)) r =
      withStored (lastStored col strSQL updates)
        (if u.storesFor col strSQL then withPassword u.chpw r else r) := by
  rw [lastStored]
  cases lastStored col strSQL updates with
  | none =>
    rw [Option.none_or]
    split
    · rfl
    · rfl
  | some pw =>
    rw [Option.some_or]
    split
    · exact (withPassword_withPassword pw u.chpw r).symm
    · rfl

/-- A query of a card after any updates ends as before them, with the password that was
    stored last for the card; the updates change nothing but passwords. -/
theorem password_history (hfns : AesInverts fns) (t : Records) (updates : List CardUpdate)
    (hupdates : ∀ u ∈ updates, u.Proper) :
    SameButPassword t (carHistory col fns t updates) ∧
      ∀ strSQL f, FieldsClean (userQuery strSQL) → (userQuery strSQL).text.isSome →
        userQuerySent col fns strSQL f true (carHistory col fns t updates) =
          withStored (lastStored col strSQL updates) (userQuerySent col fns strSQL f true t) := by
  refine ⟨(SameButPassword.refl t).history hupdates, ?_⟩
  intro strSQL f hclean hfits
  induction updates generalizing t with
  | nil => simp only [carHistory, List.foldl_nil, lastStored, withStored]
  | cons u updates ih =>
    have hu := hupdates u List.mem_cons_self
    calc userQuerySent col fns strSQL f true (carHistory col fns t (u :: updates))
      _ = withStored (lastStored col strSQL updates)
          (userQuerySent col fns strSQL f true (u.run col fns t).2) :=
        ih _ fun u' hu' => hupdates u' (List.mem_cons_of_mem u hu')
      _ = withStored (lastStored col strSQL (u :: updates))
          (userQuerySent col fns strSQL f true t) := by
        rw [userQuerySent_run hfns hu hclean hfits, withStored_lastStored]

end

/-- What the server makes of the password 12345678 under the key. -/
def cipher : Bytes := [179, 176, 47, 35, 154, 100, 0, 142, 237, 240, 29, 184, 48, 26, 104, 255]

/-- A server that knows this one; it marks any other password with a byte. -/
def someFunctions : Functions
  | fn, [some x, some key] =>
    if fn = aesEncrypt then some (if x = digits.val ∧ key = dust then cipher else 0 :: x)
    else if x = cipher ∧ key = dust then some digits.val
    else x.tail?
  | _, _ => none

theorem someFunctions_invert : AesInverts someFunctions := by
  have hne : aesDecrypt ≠ aesEncrypt := by decide +kernel
  intro pw key
  have hcipher : ∀ pw : Bytes, 0 :: pw ≠ cipher := by
    intro pw h
    have h0 := List.head_eq_of_cons_eq h
    exact absurd h0 (by decide)
  by_cases h : pw = digits.val ∧ key = dust
  · simp [someFunctions, hne, h]
  · simp [someFunctions, hne, h, hcipher]

/-- The row of the card without a password. -/
def someCarRecord : Record :=
  assignAll someFunctions
    [(CarColumn.carNumber, .operand (.value card.val)),
      (CarColumn.userName, .operand (.value (lit "ann"))),
      (CarColumn.nickname, .operand (.value (lit "Ann")))] fun _ => none

/-- The first update is done, the second one fails. -/
def someUpdates : List CardUpdate := [⟨digits, card, true⟩, ⟨on, card, false⟩]

/-- No quote in the fields, and no backslash. -/
theorem fieldsClean_of_plain {s : Sql}
    (h : ∀ p ∈ (quoteKinds s.format).zip s.fields, p.1 ∉ p.2 ∧ (92 : UInt8) ∉ p.2) :
    FieldsClean s :=
  fun p hp => clean_of_no_backslash (h p hp).1 (h p hp).2

theorem someUpdates_proper : ∀ u ∈ someUpdates, u.Proper := by
  intro u hu
  rcases List.mem_pair.mp hu with rfl | rfl
  · exact fieldsClean_of_plain (by decide +kernel)
  · exact fieldsClean_of_plain (by decide +kernel)

/-- The fields of an object that nothing was queried with. -/
def noFields : CardFields := ⟨⟨emptyCStr, emptyCStr, emptyCStr⟩, emptyCStr⟩

theorem some_password_read :
    (userQuerySent .binary someFunctions card noFields true
      (carHistory .binary someFunctions [someCarRecord] someUpdates)).2.getUserPW = digits := by
  have h : userQuerySent .binary someFunctions card noFields true
      (carHistory .binary someFunctions [someCarRecord] someUpdates) = _ :=
    (password_history someFunctions_invert [someCarRecord] someUpdates someUpdates_proper).2 card
      noFields (fieldsClean_of_plain (by decide +kernel)) (by decide +kernel)
  rw [h]
  decide +kernel

/-! The two levels of the query. -/

/-- A result of the select, as the iteration of the logon thread is given it. -/
def cardQueryOf : Option (List (List (Option Bytes))) → Option CardQuery
  | none => some .failed
  | some [sql_row] => (fetchedRow sql_row).map fun fetched => .row fetched.car
  | some _ => some .noRow

/-- What the query returns and sets is what the iteration takes of it, unless a null pointer
    is assigned. -/
theorem userQuerySent_fields (col : Collation) (fns : Functions) {strSQL : CStr}
    (hclean : FieldsClean (userQuery strSQL)) (hfits : (userQuery strSQL).text.isSome)
    (f : CardFields) (select : Bool) (t : Records) :
    match cardQueryOf (if select then
        some ((withKey col (CarColumn.carNumber, strSQL.val) t).map (rowItems fns)) else none) with
    | none => (userQuerySent col fns strSQL f select t).1 = .undefined
    | some q => userQuerySent col fns strSQL f select t =
        (.returned (userQueryFields strSQL f.car q).1,
          ⟨(userQueryFields strSQL f.car q).2, (userQuerySent col fns strSQL f select t).2.getUserPW⟩) := by
  rw [userQuerySent_eq col fns hclean hfits]
  match (if select then some ((withKey col (CarColumn.carNumber, strSQL.val) t).map (rowItems fns))
      else none) with
  | none => rfl
  | some [] => rfl
  | some [sql_row] =>
    unfold cardQueryOf userQueryFetch
    dsimp only
    cases fetchedRow sql_row with
    | none => rfl
    | some fetched => rfl
  | some (_ :: _ :: _) => rfl

end CardLogon
