import CardLogon.CFormat
import CardLogon.PrintUser

/- The login records: the inserts into loginTable and loginFTable.

   `GetConnectedStatus` prints an insert into strSQL, 500 bytes, and `user_insert` prints
   what it gets once more, as a format, into a query of 255. The card and the names in an
   insert are fields of the connection object, which outlives the iteration: the lookup
   sets the card on two of its three ways out and the names on one, a session clears them,
   and the first turn after the window is made clears the card. A run is any sequence of
   such first turns and of turns with a card, up to one that does not come to its end.

   What is proved:
     1. `insert_as_built_iff`. The query is the text that was built exactly when no field
        has a `%` and the text is shorter than 255.
     2. `records_right_iff`. Every query of a run names the card that was presented, and a
        login the names of its row, exactly when in each turn that sends one the lookup had
        a result set or the turns before have left the card in the field, a row has the card
        it was looked up by, and none of these comes out of the second print as something
        else. `stale_card`: what is in the field otherwise. -/
namespace CardLogon
open CText SqlLex

/-! What `user_insert` sends. -/

/-- The statements built for `user_insert`. -/
inductive LoginInsert where
  | loginTable (m : MachineInfo) (r : CarRow)
  | loginFTable (m : MachineInfo) (r : CarRow)

def LoginInsert.sql : LoginInsert → Sql
  | .loginTable m r => loginTableInsert m r
  | .loginFTable m r => loginFTableInsert m r

/-- The query of `user_insert`. -/
def insertQuery (chSQL : Bytes) : Ran Bytes :=
  match sprintf chSQL [] with
  | none => .undefined
  | some query => if query.length < 255 then .returned query else .stopped

/-- It returns what mysql_query makes of it. -/
theorem userInsert_eq (chSQL : Bytes) (ok : Bool) : userInsert chSQL ok =
    match insertQuery chSQL with
    | .returned _ => .returned ok
    | .stopped => .stopped
    | .undefined => .undefined := by
  unfold userInsert insertQuery
  cases sprintf chSQL [] with
  | none => rfl
  | some query =>
    dsimp only
    split
    · rfl
    · rfl

theorem insertQuery_eq_returned {chSQL query : Bytes} : insertQuery chSQL = .returned query ↔
    sprintf chSQL [] = some query ∧ query.length < 255 := by
  unfold insertQuery
  cases sprintf chSQL [] with
  | none => simp
  | some q =>
    dsimp only
    by_cases hq : q.length < 255
    · rw [if_pos hq, Option.some.injEq, Ran.returned.injEq]
      refine ⟨fun h => ⟨h, h ▸ hq⟩, fun h => h.1⟩
    · rw [if_neg hq]
      refine ⟨fun h => ?_, fun ⟨h, hlen⟩ => ?_⟩
      · cases h
      · exact absurd (Option.some.inj h ▸ hlen) hq

/-- The bytes of the two formats. -/
def loginTableBytes : Bytes :=
  lit "insert into loginTable(CarNumber,UserName,NickName, DTime,MachineName,MachineIP,MachineMAC) values( \"\",\"\",\"\",\"\",\"\",\"\",\"\");"

def loginFTableBytes : Bytes :=
  lit "insert into loginFTable(CarNumber, DTime,MachineName,MachineIP,MachineMAC) values(\"\",\"\",\"\",\"\",\"\");"

theorem loginTableInsert_plain : plainFormat loginTableInsertFormat = some (loginTableBytes, 7) := by
  decide +kernel

theorem loginFTableInsert_plain :
    plainFormat loginFTableInsertFormat = some (loginFTableBytes, 5) := by
  decide +kernel

def LoginInsert.bytes : LoginInsert → Bytes
  | .loginTable _ _ => loginTableBytes
  | .loginFTable _ _ => loginFTableBytes

theorem LoginInsert.plain (i : LoginInsert) :
    plainFormat i.sql.format = some (i.bytes, i.sql.fields.length) := by
  cases i with
  | loginTable m r =>
    dsimp only [LoginInsert.bytes, LoginInsert.sql, loginTableInsert]
    exact loginTableInsert_plain
  | loginFTable m r =>
    dsimp only [LoginInsert.bytes, LoginInsert.sql, loginFTableInsert]
    exact loginFTableInsert_plain

theorem loginTableBytes_notMem : (37 : UInt8) ∉ loginTableBytes ∧ (0 : UInt8) ∉ loginTableBytes := by
  decide +kernel

theorem loginFTableBytes_notMem :
    (37 : UInt8) ∉ loginFTableBytes ∧ (0 : UInt8) ∉ loginFTableBytes := by
  decide +kernel

theorem LoginInsert.notMem_bytes (i : LoginInsert) :
    (37 : UInt8) ∉ i.bytes ∧ (0 : UInt8) ∉ i.bytes := by
  cases i with
  | loginTable m r =>
    dsimp only [LoginInsert.bytes]
    exact loginTableBytes_notMem
  | loginFTable m r =>
    dsimp only [LoginInsert.bytes]
    exact loginFTableBytes_notMem

theorem Sql.nul_notMem_fields (s : Sql) : ∀ f ∈ s.fields, (0 : UInt8) ∉ f := by
  intro f hf
  obtain ⟨a, -, rfl⟩ := List.mem_map.mp hf
  exact a.property

/-- What the text of an insert is made of. -/
theorem LoginInsert.mem_text {i : LoginInsert} {strSQL : Bytes} (h : i.sql.text = some strSQL) :
    (0 : UInt8) ∉ strSQL ∧ ((37 : UInt8) ∉ strSQL ↔ ∀ f ∈ i.sql.fields, (37 : UInt8) ∉ f) := by
  obtain ⟨hpercent, hnul⟩ := i.notMem_bytes
  obtain ⟨out, hout, hperm⟩ := sprintf_plain i.plain rfl i.sql.nul_notMem_fields
  obtain rfl : out = strSQL := Option.some.inj (hout.symm.trans (sprintf_s_eq_some.mp h).1)
  rw [hperm.mem_iff, hperm.mem_iff, List.mem_append, List.mem_append, not_or, not_or,
    List.mem_flatten, List.mem_flatten]
  refine ⟨⟨hnul, fun ⟨f, hf, h0⟩ => i.sql.nul_notMem_fields f hf h0⟩, ?_⟩
  refine ⟨fun hno f hf hc => hno.2 ⟨f, hf, hc⟩, fun hno => ⟨hpercent, ?_⟩⟩
  intro ⟨f, hf, hc⟩
  exact hno f hf hc

/-- The query is the text that was built exactly when no field has a `%` and the text fits
    the second buffer. -/
theorem insert_as_built_iff (i : LoginInsert) {strSQL : Bytes} (h : i.sql.text = some strSQL) :
    insertQuery strSQL = .returned strSQL ↔
      (∀ f ∈ i.sql.fields, (37 : UInt8) ∉ f) ∧ strSQL.length < 255 := by
  obtain ⟨hnul, hpercent⟩ := LoginInsert.mem_text h
  rw [insertQuery_eq_returned, sprintf_self_iff hnul, hpercent]

theorem ann_login_as_built : insertQuery ((loginTableInsert someMachine ann).text.getD []) =
    .returned ((loginTableInsert someMachine ann).text.getD []) :=
  (insert_as_built_iff (.loginTable someMachine ann)
    (show (loginTableInsert someMachine ann).text = _ by decide +kernel)).mpr
      ⟨by decide +kernel, by decide +kernel⟩

/-- A machine with four adapters. -/
def bigMachine : MachineInfo :=
  { someMachine with
    sqlIP := ⟨lit "192.168.100.101/192.168.100.102/192.168.100.103/192.168.100.104", by decide +kernel⟩
    sqlMAC := ⟨lit "00-11-22-33-44-55/00-11-22-33-44-56/00-11-22-33-44-57/00-11-22-33-44-58",
      by decide +kernel⟩ }

/-- Its text fits strSQL, and not the query. -/
theorem long_insert_stops :
    ¬ ∀ (i : LoginInsert) strSQL, i.sql.text = some strSQL → insertQuery strSQL = .returned strSQL := by
  intro hall
  have h := hall (.loginTable bigMachine ann) ((loginTableInsert bigMachine ann).text.getD [])
    (show (loginTableInsert bigMachine ann).text = _ by decide +kernel)
  revert h
  decide +kernel

/-! The records of a run. -/

/-- The insert, when `user_insert` gets to mysql_query with it and can return what that
    does. -/
def LoginInsert.sent (i : LoginInsert) : List LoginInsert :=
  if i.sql.insert true = .returned true then [i] else []

/-- What an iteration sends from the end of the wait on. -/
def printInserts (s : Station) (o : CardOutcomes) : List LoginInsert :=
  match o.machineInfo with
  | none => []
  | some m =>
    match (userPrint m s.car s.table o.select o.write).1 with
    | .returned _ => (LoginInsert.loginTable m s.car).sent
    | _ => []

/-- What it sends when nobody was found. -/
def refuseInserts (s : Station) (o : CardOutcomes) : List LoginInsert :=
  match o.machineInfo with
  | none => []
  | some m => (LoginInsert.loginFTable m s.car).sent

/-- The inserts of `cardIteration`. -/
def sentInserts (s : Station) (readinfo : CStr) (o : CardOutcomes) : List LoginInsert :=
  if o.info then
    let q := userQueryFields readinfo s.car o.query
    if q.1 then
      if o.boolGetBack then [] else printInserts ⟨q.2, s.table⟩ o
    else refuseInserts ⟨q.2, s.table⟩ o
  else []

/-- What the calls of the first turn return, if they are made. -/
structure BootOutcomes where
  machineInfo : Option MachineInfo
  select : Bool
  write : Bool

/-- The first turn after the window is made marks the machine as free. -/
def bootIteration (s : Station) (o : BootOutcomes) : Ran Bool × Station :=
  let car := { s.car with getCarNumber := emptyCStr }
  match o.machineInfo with
  | none => (.stopped, ⟨car, s.table⟩)
  | some m =>
    match userPrint m car s.table o.select o.write with
    | (r, t) => (r, ⟨car, t⟩)

/-- A turn of the loop; without a card it touches none of this. -/
inductive Turn where
  | boot (o : BootOutcomes)
  | card (readinfo : CStr) (o : CardOutcomes)

/-- A card that was presented, and what was in the connection object before. -/
structure Presented where
  before : Station
  readinfo : CStr
  outcomes : CardOutcomes

/-- The cards of a run; it ends with a turn that does not come to its end. -/
def presented : Station → List Turn → List Presented
  | _, [] => []
  | s, .boot o :: ts =>
    match bootIteration s o with
    | (.returned _, s') => presented s' ts
    | _ => []
  | s, .card readinfo o :: ts =>
    ⟨s, readinfo, o⟩ ::
      match cardIteration s readinfo o with
      | (.returned _, s') => presented s' ts
      | _ => []

/-- The fields of an insert as they stand in the query: each is printed once more. -/
def LoginInsert.values (i : LoginInsert) : Option (List Bytes) :=
  i.sql.fields.mapM fun f => sprintf f []

/-- The query is what the format of the insert makes of its values; they name the card, and
    for a login the user of the row that was found. -/
def LoginInsert.Names (i : LoginInsert) (readinfo : CStr) (q : CardQuery) (query : Bytes) : Prop :=
  ∃ values, i.values = some values ∧ sprintf i.sql.format values = some query ∧
    values[0]? = some readinfo.val ∧
    match i with
    | .loginTable _ _ => ∃ row, q = .row row ∧ values[1]? = some row.getUserNames.val ∧
        values[2]? = some row.getNickNume.val
    | .loginFTable _ _ => True

/-- Every query that the turn sends is right. -/
def Presented.Right (p : Presented) : Prop :=
  ∀ i ∈ sentInserts p.before p.readinfo p.outcomes, ∀ strSQL query,
    i.sql.text = some strSQL → insertQuery strSQL = .returned query →
      i.Names p.readinfo p.outcomes.query query

/-- Every query of the run is right. -/
def RecordsRight (s : Station) (ts : List Turn) : Prop := ∀ p ∈ presented s ts, p.Right

/-- The texts of `user_Print` fit, and its select succeeds. -/
def PrintReturns (m : MachineInfo) (r : CarRow) (t : PrintUser) (o : CardOutcomes) : Prop :=
  (userPrintSelect m).text.isSome ∧ o.select = true ∧ (userPrintWrite (oneRow m t) m r).text.isSome

/-- The outcomes with which an insert is sent. -/
def Presented.Sends (p : Presented) : Prop :=
  p.outcomes.info = true ∧ ∃ m, p.outcomes.machineInfo = some m ∧
    let q := userQueryFields p.readinfo p.before.car p.outcomes.query
    if q.1 then p.outcomes.boolGetBack = false ∧ PrintReturns m q.2 p.before.table p.outcomes ∧
      (loginTableInsert m q.2).InsertFits
    else (loginFTableInsert m q.2).InsertFits

/-- The card of the record, `c` being in the field before: the lookup had a result set, or
    the card is in the field already; a row has the card it was looked up by. A field
    without a `%` comes out of the second print as it is. -/
def CardTaken (c readinfo : CStr) : CardQuery → Prop
  | .failed => sprintf c.val [] = some readinfo.val
  | .noRow => (37 : UInt8) ∉ readinfo.val
  | .row r => sprintf r.getCarNumber.val [] = some readinfo.val ∧
      (37 : UInt8) ∉ r.getUserNames.val ∧ (37 : UInt8) ∉ r.getNickNume.val

/-- What a turn that goes on leaves in the field. -/
def heldCard (c readinfo : CStr) (o : CardOutcomes) : CStr :=
  if o.info then
    match o.query with
    | .failed => c
    | .noRow => readinfo
    | .row r => r.getCarNumber
  else c

/-- Every turn of a run that sends a record took the card; `c` is what the turns before have
    left in the field: a lookup with a result set writes it, the first turn after the window
    is made and the beginning of a session clear it. -/
def RunTaken : CStr → Station → List Turn → Prop
  | _, _, [] => True
  | _, s, .boot o :: ts =>
    match bootIteration s o with
    | (.returned _, s') => RunTaken emptyCStr s' ts
    | _ => True
  | c, s, .card readinfo o :: ts =>
    (Presented.Sends ⟨s, readinfo, o⟩ → CardTaken c readinfo o.query) ∧
      match cardIteration s readinfo o with
      | (.returned began, s') => RunTaken (if began then emptyCStr else heldCard c readinfo o) s' ts
      | _ => True

theorem LoginInsert.mem_sent {i j : LoginInsert} : j ∈ i.sent ↔ j = i ∧ i.sql.InsertFits := by
  have hfits : i.sql.insert true = .returned true ↔ i.sql.InsertFits := by
    rw [insert_true_iff]
    simp
  unfold LoginInsert.sent
  by_cases h : i.sql.insert true = .returned true
  · rw [if_pos h, List.mem_singleton]
    exact ⟨fun hj => ⟨hj, hfits.mp h⟩, fun hj => hj.1⟩
  · rw [if_neg h]
    refine ⟨fun hj => ?_, fun hj => absurd (hfits.mpr hj.2) h⟩
    cases hj

section
variable {r : CarRow} {t : PrintUser} {o : CardOutcomes} {i : LoginInsert}

theorem mem_printInserts : i ∈ printInserts ⟨r, t⟩ o ↔ ∃ m, o.machineInfo = some m ∧
    i = .loginTable m r ∧ PrintReturns m r t o ∧ (loginTableInsert m r).InsertFits := by
  unfold printInserts
  cases o.machineInfo with
  | none => simp
  | some m =>
    unfold PrintReturns
    simp only [Option.some.injEq, exists_eq_left']
    obtain ⟨hs, hrun⟩ | ⟨hs, hsel, hrun⟩ | ⟨hs, hsel, hw, hrun⟩ | ⟨hs, hsel, hw, hrun⟩ :=
      userPrint_cases m r t o.select o.write
    · rw [hrun, hs]
      simp
    · rw [hrun, hsel]
      simp
    · rw [hrun, hw]
      simp
    -- user_Print returns, and the insert is built
    · rw [hrun, LoginInsert.mem_sent]
      simp only [hs, hsel, hw, true_and]
      rfl

/-- A session begins with the record of it sent. -/
theorem printAndInsert_recorded (h : (printAndInsert ⟨r, t⟩ o).1 = .returned true) :
    ∃ m, LoginInsert.loginTable m r ∈ printInserts ⟨r, t⟩ o := by
  cases hm : o.machineInfo with
  | none =>
    rw [printAndInsert_stops hm] at h
    cases h
  | some m =>
    refine ⟨m, mem_printInserts.mpr ⟨m, hm, rfl, ?_⟩⟩
    obtain ⟨hs, hrun⟩ | ⟨hs, hsel, hrun⟩ | ⟨hs, hsel, hw, hrun⟩ | ⟨hs, hsel, hw, hrun⟩ :=
      userPrint_cases m r t o.select o.write
    · rw [printAndInsert_ends hm (.inl rfl) hrun] at h
      cases h
    · rw [printAndInsert_ends hm (.inr rfl) hrun] at h
      cases h
    · rw [printAndInsert_ends hm (.inl rfl) hrun] at h
      cases h
    · rw [(printAndInsert_inserts hm hrun).1] at h
      exact ⟨⟨hs, hsel, hw⟩, ((insert_true_iff _ o.insert).mp h).2⟩

theorem connected_recorded {s : Station} {readinfo : CStr}
    (h : (cardIteration s readinfo o).1 = .returned true) :
    ∃ m, LoginInsert.loginTable m (userQueryFields readinfo s.car o.query).2 ∈
      sentInserts s readinfo o := by
  unfold cardIteration at h
  unfold sentInserts
  dsimp only at h ⊢
  split_ifs at h ⊢
  · cases h
  · exact printAndInsert_recorded h
  · cases refuseCard_returned _ o true h
  · cases h

theorem mem_refuseInserts : i ∈ refuseInserts ⟨r, t⟩ o ↔ ∃ m, o.machineInfo = some m ∧
    i = .loginFTable m r ∧ (loginFTableInsert m r).InsertFits := by
  unfold refuseInserts
  cases o.machineInfo with
  | none => simp
  | some m =>
    simp only [Option.some.injEq, exists_eq_left']
    exact LoginInsert.mem_sent

end

/-- The insert a turn sends: of the card's row as the lookup left it. -/
def Presented.insert (p : Presented) (m : MachineInfo) : LoginInsert :=
  let q := userQueryFields p.readinfo p.before.car p.outcomes.query
  if q.1 then .loginTable m q.2 else .loginFTable m q.2

/-- The text there may be is the same one on both sides. -/
theorem exists_some_and_iff {α β : Type} {x : Option α} {P : α → Prop} {y : β} {f : α → β} :
    (∃ m, x = some m ∧ y = f m ∧ P m) ↔ (∃ m, x = some m ∧ P m) ∧ ∃ m, x = some m ∧ y = f m := by
  cases x with
  | none => simp
  | some m =>
    simp only [Option.some.injEq, exists_eq_left']
    exact and_comm

theorem Presented.mem_sentInserts {p : Presented} {i : LoginInsert} :
    i ∈ sentInserts p.before p.readinfo p.outcomes ↔
      p.Sends ∧ ∃ m, p.outcomes.machineInfo = some m ∧ i = p.insert m := by
  unfold sentInserts Presented.Sends Presented.insert
  cases p.outcomes.info with
  | false => simp
  | true =>
    simp only [if_true, true_and]
    cases (userQueryFields p.readinfo p.before.car p.outcomes.query).1 with
    | false =>
      simp only [Bool.false_eq_true, if_false]
      exact mem_refuseInserts.trans exists_some_and_iff
    | true =>
      simp only [if_true]
      cases p.outcomes.boolGetBack with
      | true => simp
      | false =>
        simp only [Bool.false_eq_true, if_false, true_and]
        exact mem_printInserts.trans exists_some_and_iff

/-- What is sent fits. -/
theorem mem_sentInserts_fits {p : Presented} {i : LoginInsert}
    (hi : i ∈ sentInserts p.before p.readinfo p.outcomes) : i.sql.InsertFits := by
  obtain ⟨⟨-, m, hm, hsends⟩, m', hm', rfl⟩ := Presented.mem_sentInserts.mp hi
  obtain rfl : m = m' := Option.some.inj (hm.symm.trans hm')
  unfold Presented.insert
  dsimp only at hsends ⊢
  split at hsends
  · next hq =>
    rw [if_pos hq]
    exact hsends.2.2
  · next hq =>
    rw [if_neg hq]
    exact hsends

/-! What the query says. -/

theorem LoginInsert.built (i : LoginInsert) : Built i.sql := by
  cases i with
  | loginTable m r => exact .loginTableInsert m r
  | loginFTable m r => exact .loginFTableInsert m r

/-- The query is what the format makes of the values. -/
theorem query_values {i : LoginInsert} {strSQL query : Bytes} (h : i.sql.text = some strSQL)
    (hq : insertQuery strSQL = .returned query) :
    ∃ values, i.values = some values ∧ sprintf i.sql.format values = some query := by
  obtain ⟨hok, hlen⟩ := formats_ok _ (built_format i.built)
  have hfields : (quoteKinds i.sql.format).length = i.sql.fields.length := by
    rw [hlen, Sql.fields, List.length_map]
  exact sprintf_printed hok hfields i.sql.nul_notMem_fields (sprintf_s_eq_some.mp h).1
    (insertQuery_eq_returned.mp hq).1

/-- Each value is its own field, printed. -/
theorem getElem?_mapM {α β : Type} {f : α → Option β} : ∀ {l : List α} {l' : List β},
    l.mapM f = some l' → ∀ k : Nat, l'[k]? = l[k]?.bind f
  | [], l', h, k => by
    obtain rfl : [] = l' := Option.some.inj h
    rfl
  | a :: l, l', h, k => by
    rw [List.mapM_cons] at h
    obtain ⟨b, hb, h⟩ := Option.bind_eq_some_iff.mp h
    obtain ⟨bs, hbs, h⟩ := Option.bind_eq_some_iff.mp h
    obtain rfl : b :: bs = l' := Option.some.inj h
    cases k with
    | zero => exact hb.symm
    | succ k => exact getElem?_mapM hbs k

theorem printed_self_iff (f : CStr) : sprintf f.val [] = some f.val ↔ (37 : UInt8) ∉ f.val :=
  sprintf_self_iff f.property

/-- The query of a turn is right exactly when the card was taken. -/
theorem Presented.names_iff (p : Presented) (m : MachineInfo) {strSQL query : Bytes}
    (h : (p.insert m).sql.text = some strSQL) (hq : insertQuery strSQL = .returned query) :
    (p.insert m).Names p.readinfo p.outcomes.query query ↔
      CardTaken p.before.car.getCarNumber p.readinfo p.outcomes.query := by
  obtain ⟨values, hvalues, hformat⟩ := query_values h hq
  have hget := getElem?_mapM hvalues
  unfold LoginInsert.Names
  rw [hvalues]
  simp only [Option.some.injEq, exists_eq_left', hformat, true_and, hget]
  unfold Presented.insert CardTaken
  cases p.outcomes.query with
  | failed => exact and_iff_left trivial
  | noRow => exact (and_iff_left trivial).trans (printed_self_iff p.readinfo)
  | row r =>
    refine and_congr_right fun _ => ?_
    simp only [CardQuery.row.injEq, exists_eq_left']
    exact and_congr (printed_self_iff r.getUserNames) (printed_self_iff r.getNickNume)

theorem Presented.right_iff (p : Presented) : p.Right ↔
    (p.Sends → CardTaken p.before.car.getCarNumber p.readinfo p.outcomes.query) := by
  unfold Presented.Right
  refine ⟨fun h hsends => ?_, fun h i hi strSQL query htext hquery => ?_⟩
  · obtain ⟨-, m, hm, -⟩ := id hsends
    have hmem : p.insert m ∈ sentInserts p.before p.readinfo p.outcomes :=
      Presented.mem_sentInserts.mpr ⟨hsends, m, hm, rfl⟩
    obtain ⟨strSQL, query, htext, hprint, hlen⟩ := mem_sentInserts_fits hmem
    have hquery := insertQuery_eq_returned.mpr ⟨hprint, hlen⟩
    exact (p.names_iff m htext hquery).mp (h _ hmem strSQL query htext hquery)
  · obtain ⟨hsends, m, hm, rfl⟩ := Presented.mem_sentInserts.mp hi
    exact (p.names_iff m htext hquery).mpr (h hsends)

/-! What is in the field. -/

/-- A row that is found is of the card. -/
def Presented.RowOfCard (p : Presented) : Prop :=
  ∀ r, p.outcomes.query = .row r → r.getCarNumber = p.readinfo

/-- A turn that begins a session clears the field; another one leaves what its lookup left. -/
theorem cardIteration_getCarNumber {s s' : Station} {readinfo : CStr} {o : CardOutcomes} {b : Bool}
    (hrun : cardIteration s readinfo o = (.returned b, s')) :
    s'.car.getCarNumber = if b then emptyCStr else heldCard s.car.getCarNumber readinfo o := by
  have hquery : o.info = true → (userQueryFields readinfo s.car o.query).2.getCarNumber =
      heldCard s.car.getCarNumber readinfo o := by
    intro hinfo
    unfold heldCard
    rw [if_pos hinfo]
    cases o.query <;> rfl
  unfold cardIteration at hrun
  dsimp only at hrun
  split_ifs at hrun with hinfo hfound hback
  -- Back, the print and the insert, nobody found, and no settings
  · obtain ⟨hb, hs⟩ := Prod.mk.inj hrun
    obtain rfl : false = b := Ran.returned.inj hb
    rw [← hs]
    exact hquery hinfo
  · have hcar := printAndInsert_car ⟨(userQueryFields readinfo s.car o.query).2, s.table⟩ o b
      (congrArg Prod.fst hrun)
    rw [hrun] at hcar
    cases b with
    | true => exact congrArg CarRow.getCarNumber hcar
    | false => exact (congrArg CarRow.getCarNumber hcar).trans (hquery hinfo)
  · have hs := (refuseCard_iff ⟨(userQueryFields readinfo s.car o.query).2, s.table⟩ o).1
    rw [hrun] at hs
    cases b with
    | true => cases refuseCard_returned _ o true (congrArg Prod.fst hrun)
    | false => exact (congrArg (fun x => x.car.getCarNumber) hs).trans (hquery hinfo)
  · obtain ⟨hb, hs⟩ := Prod.mk.inj hrun
    obtain rfl : false = b := Ran.returned.inj hb
    rw [← hs]
    unfold heldCard
    rw [if_neg hinfo]
    rfl

theorem bootIteration_getCarNumber (s : Station) (o : BootOutcomes) :
    (bootIteration s o).2.car.getCarNumber = emptyCStr := by
  unfold bootIteration
  cases o.machineInfo with
  | none => rfl
  | some m => rfl

/-- The queries of a run are right exactly when every turn that sends one took the card. -/
theorem records_right_iff (s : Station) (ts : List Turn) :
    RecordsRight s ts ↔ RunTaken s.car.getCarNumber s ts := by
  unfold RecordsRight
  induction ts generalizing s with
  | nil => exact ⟨fun _ => trivial, fun _ p hp => (List.not_mem_nil hp).elim⟩
  | cons t ts ih =>
    cases t with
    | boot o =>
      have hclear := bootIteration_getCarNumber s o
      unfold presented RunTaken
      cases hrun : bootIteration s o with
      | mk x s' =>
        rw [hrun] at hclear
        cases x with
        | returned b =>
          dsimp only at hclear ⊢
          rw [← hclear]
          exact ih s'
        | _ => exact ⟨fun _ => trivial, fun _ p hp => (List.not_mem_nil hp).elim⟩
    | card readinfo o =>
      unfold presented RunTaken
      rw [List.forall_mem_cons, Presented.right_iff]
      refine and_congr_right fun _ => ?_
      cases hrun : cardIteration s readinfo o with
      | mk x s' =>
        cases x with
        | returned b =>
          dsimp only
          rw [← cardIteration_getCarNumber hrun]
          exact ih s'
        | _ => exact ⟨fun _ => trivial, fun _ p hp => (List.not_mem_nil hp).elim⟩

/-- Before a card is presented the field has nothing in it, or what the run began with, or
    a card that was presented before: a record that is not right names that. -/
theorem stale_card {s : Station} {ts : List Turn} {ps ps' : List Presented} {p : Presented}
    (h : presented s ts = ps ++ p :: ps') (hrows : ∀ p' ∈ ps, p'.RowOfCard) :
    p.before.car.getCarNumber = s.car.getCarNumber ∨ p.before.car.getCarNumber = emptyCStr ∨
      ∃ p' ∈ ps, p.before.car.getCarNumber = p'.readinfo := by
  induction ts generalizing s ps with
  | nil =>
    rw [presented] at h
    cases ps with
    | nil => cases h
    | cons p' ps => cases h
  | cons t ts ih =>
    cases t with
    | boot o =>
      rw [presented] at h
      have hclear := bootIteration_getCarNumber s o
      cases hrun : bootIteration s o with
      | mk r s' =>
        rw [hrun] at h hclear
        cases r with
        | returned b =>
          rcases ih h hrows with hs | hrest
          · exact .inr (.inl (hs.trans hclear))
          · exact .inr hrest
        | stopped => simp at h
        | undefined => simp at h
    | card readinfo o =>
      rw [presented] at h
      cases ps with
      | nil => exact .inl (congrArg (·.before.car.getCarNumber) (List.head_eq_of_cons_eq h).symm)
      | cons p₀ ps =>
        obtain ⟨rfl, htail⟩ := List.cons.inj h
        cases hrun : cardIteration s readinfo o with
        | mk r s' =>
          rw [hrun] at htail
          cases r with
          | returned b =>
            have hcar : s'.car.getCarNumber = s.car.getCarNumber ∨ s'.car.getCarNumber = readinfo ∨
                s'.car.getCarNumber = emptyCStr := by
              rw [cardIteration_getCarNumber hrun]
              cases b with
              | true => exact .inr (.inr rfl)
              | false =>
                have hrow := hrows _ List.mem_cons_self
                unfold Presented.RowOfCard at hrow
                dsimp only at hrow
                rw [if_neg Bool.false_ne_true]
                unfold heldCard
                split
                · cases hq : o.query with
                  | failed => exact .inl rfl
                  | noRow => exact .inr (.inl rfl)
                  | row r => exact .inr (.inl (hrow r hq))
                · exact .inl rfl
            have hrest : ∀ p' ∈ ps, p'.RowOfCard := fun p' hp' =>
              hrows p' (List.mem_cons_of_mem _ hp')
            rcases ih htail hrest with hs | hnil | ⟨p', hp', hp⟩
            · rw [hs]
              rcases hcar with hcar | hcar | hcar
              · exact .inl hcar
              · exact .inr (.inr ⟨_, List.mem_cons_self, hcar⟩)
              · exact .inr (.inl hcar)
            · exact .inr (.inl hnil)
            · exact .inr (.inr ⟨p', List.mem_cons_of_mem _ hp', hp⟩)
          | stopped => simp at htail
          | undefined => simp at htail

/-! A record of a card that was not presented. -/

def otherCard : CStr := ⟨lit "FFEEDDCCBBAA99887766554433221100", by decide⟩

/-- The connection object before any card. -/
def firstStation : Station := ⟨⟨emptyCStr, emptyCStr, emptyCStr⟩, []⟩

/-- A user goes back; then the lookup of another card fails. -/
def backThenFailed : List Turn :=
  [.card card ⟨true, .row ann, true, none, false, false, false⟩,
    .card otherCard ⟨true, .failed, false, some someMachine, true, true, true⟩]

/-- The failed login is recorded for the first card. -/
theorem record_names_other_card : ¬ ∀ s ts, RecordsRight s ts := by
  intro hall
  let p : Presented :=
    ⟨⟨ann, []⟩, otherCard, ⟨true, .failed, false, some someMachine, true, true, true⟩⟩
  have hmem : p ∈ presented firstStation backThenFailed :=
    List.mem_cons_of_mem _ List.mem_cons_self
  have hsends : p.Sends := by
    refine ⟨rfl, someMachine, rfl, ?_⟩
    show (loginFTableInsert someMachine ann).InsertFits
    exact ⟨(loginFTableInsert someMachine ann).text.getD [],
      (loginFTableInsert someMachine ann).text.getD [], by decide +kernel, by decide +kernel,
      by decide +kernel⟩
  have hcard : sprintf ann.getCarNumber.val [] = some otherCard.val :=
    p.right_iff.mp (hall _ _ p hmem) hsends
  revert hcard
  decide +kernel

end CardLogon
