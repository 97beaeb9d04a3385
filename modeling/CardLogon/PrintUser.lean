import CardLogon.MySqlConn
import CardLogon.Terminal

/- The PrintUser table: `user_Print`, and the iteration of `GetConnectedStatus` that
   handles a card.

   MySQL is taken to execute a statement as it is written: one that succeeds does to the
   table what its text says, one that fails does nothing. What the calls return is given
   to the iteration (`CardOutcomes`); what `boolGetBack` holds when the wait for the login
   server and the window is over may be anything, whatever the posts and clicks before it
   were. `MachineInfo` is given as the four tokens of its text. The effect of the inserts
   on their own tables is left out.

   An iteration may not come to its end (`Ran`): `sprintf_s` stops the process when a text
   does not fit its buffer; nothing is defined once `mysql_num_rows` is called without a
   result set, or a statement handed to `sprintf_s` as a format asks for an argument.

   What is proved:
     1. `refused_unchanged_iff`. `user_Print` marks the machine before the login is
        inserted, and nothing takes the mark back: the row is as before an iteration that
        does not connect exactly when the mark was not written, or was there already, or
        the insert cannot fail any more (`refused_login_marked_on`).
     2. `cardIteration_logon`. An iteration that comes to its end is one of the logon
        thread of the terminal, from its connection to the database on. -/
namespace CardLogon
open CText

/-! The table. -/

/-- A row of PrintUser; a column that no statement has written is `none`. -/
structure PrintRow where
  machineName : CStr
  machineMAC : CStr
  machineIP : CStr
  carNumber : Option CStr
  printUserNickName : Option CStr
  printUserName : Option CStr
  puTime : CStr
  printMark : CStr
  deriving DecidableEq

abbrev PrintUser := List PrintRow

/-- `where MachineMAC = mac`. -/
def rowsOf (mac : CStr) (t : PrintUser) : List PrintRow := t.filter fun row => row.machineMAC = mac

/-- The columns that say who is logged in. -/
structure PrintView where
  printMark : CStr
  carNumber : Option CStr
  printUserNickName : Option CStr
  printUserName : Option CStr
  deriving DecidableEq

def PrintRow.view (row : PrintRow) : PrintView :=
  ⟨row.printMark, row.carNumber, row.printUserNickName, row.printUserName⟩

/-- Who is logged in at a machine. -/
def viewOf (mac : CStr) (t : PrintUser) : List PrintView := (rowsOf mac t).map PrintRow.view

/-- The statements that write the table. -/
inductive PrintWrite where
  | updateOff (m : MachineInfo)
  | updateOn (m : MachineInfo) (r : CarRow)
  | insertOff (m : MachineInfo)
  | insertOn (m : MachineInfo) (r : CarRow)

def PrintWrite.sql : PrintWrite → Sql
  | .updateOff m => userPrintUpdateOff m
  | .updateOn m r => userPrintUpdateOn m r
  | .insertOff m => userPrintInsertOff m
  | .insertOn m r => userPrintInsertOn m r

/-- The `set` of the two updates. -/
def PrintRow.setOff (m : MachineInfo) (row : PrintRow) : PrintRow :=
  { row with puTime := m.sqlTime, printMark := off }

def PrintRow.setOn (m : MachineInfo) (r : CarRow) (row : PrintRow) : PrintRow :=
  { row with
    machineName := m.sqlMachineName
    machineIP := m.sqlIP
    carNumber := some r.getCarNumber
    printUserNickName := some r.getNickNume
    printUserName := some r.getUserNames
    puTime := m.sqlTime
    printMark := on }

/-- An update of the rows of one machine. -/
def updateWhere (mac : CStr) (f : PrintRow → PrintRow) (t : PrintUser) : PrintUser :=
  t.map fun row => if row.machineMAC = mac then f row else row

/-- What a statement does to the table. -/
def PrintWrite.exec : PrintWrite → PrintUser → PrintUser
  | .updateOff m, t => updateWhere m.sqlMAC (PrintRow.setOff m) t
  | .updateOn m r, t => updateWhere m.sqlMAC (PrintRow.setOn m r) t
  | .insertOff m, t =>
    t ++ [{ machineName := m.sqlMachineName, machineMAC := m.sqlMAC, machineIP := m.sqlIP
            carNumber := none, printUserNickName := none, printUserName := none
            puTime := m.sqlTime, printMark := off }]
  | .insertOn m r, t =>
    t ++ [{ machineName := m.sqlMachineName, machineMAC := m.sqlMAC, machineIP := m.sqlIP
            carNumber := some r.getCarNumber, printUserNickName := some r.getNickNume
            printUserName := some r.getUserNames, puTime := m.sqlTime, printMark := on }]

/-- The statement `user_Print` chooses. -/
def printWrite (oneRow : Bool) (m : MachineInfo) (r : CarRow) : PrintWrite :=
  if oneRow then
    if r.getCarNumber.val = [] then .updateOff m else .updateOn m r
  else
    if r.getCarNumber.val = [] then .insertOff m else .insertOn m r

/-- Its text is that of `MySqlConn`. -/
theorem printWrite_sql (oneRow : Bool) (m : MachineInfo) (r : CarRow) :
    (printWrite oneRow m r).sql = userPrintWrite oneRow m r := by
  unfold printWrite userPrintWrite
  split
  · split
    · rfl
    · rfl
  · split
    · rfl
    · rfl

/-! `MySqlConn`. -/

/-- How a piece of code ends. -/
inductive Ran (α : Type) where
  | returned (a : α)
  | stopped
  | undefined
  deriving DecidableEq

/-- `mysql_num_rows(result) == 1`. -/
def oneRow (m : MachineInfo) (t : PrintUser) : Bool := decide ((rowsOf m.sqlMAC t).length = 1)

/-- `user_Print` with what its select and its write return. -/
def userPrint (m : MachineInfo) (r : CarRow) (t : PrintUser) (select write : Bool) :
    Ran Bool × PrintUser :=
  match (userPrintSelect m).text with
  | none => (.stopped, t)
  | some _ =>
    if select then
      let w := printWrite (oneRow m t) m r
      match w.sql.text with
      | none => (.stopped, t)
      | some _ => if write then (.returned true, w.exec t) else (.returned false, t)
    -- a message box, and then the rows of a result set that was not fetched are counted
    else (.undefined, t)

/-- `user_insert` prints its argument as a format into its own buffer. -/
def userInsert (chSQL : Bytes) (ok : Bool) : Ran Bool :=
  match sprintf chSQL [] with
  | none => .undefined
  | some query => if query.length < 255 then .returned ok else .stopped

/-- A statement printed into strSQL and handed to `user_insert`. -/
def Sql.insert (s : Sql) (ok : Bool) : Ran Bool :=
  match s.text with
  | none => .stopped
  | some strSQL => userInsert strSQL ok

/-- The result of the select of `user_query`: no result set, not exactly one row, or the
    row. -/
inductive CardQuery where
  | failed
  | noRow
  | row (r : CarRow)

/-- What `user_query` returns, and the fields it sets. -/
def userQueryFields (strSQL : CStr) (car : CarRow) : CardQuery → Bool × CarRow
  | .failed => (false, car)
  | .noRow => (false, { car with getCarNumber := strSQL })
  | .row r => (true, r)

/-! The iteration. -/

/-- The connection object's fields, and the table. -/
structure Station where
  car : CarRow
  table : PrintUser

/-- What the calls of an iteration return, if they are made; `machineInfo` is `none` when
    the text does not fit its buffer. -/
structure CardOutcomes where
  info : Bool
  query : CardQuery
  boolGetBack : Bool
  machineInfo : Option MachineInfo
  select : Bool
  write : Bool
  insert : Bool

def emptyCStr : CStr := ⟨[], List.not_mem_nil⟩

/-- From the end of the wait on: whether the iteration ends with `_fConnected` TRUE. -/
def printAndInsert (s : Station) (o : CardOutcomes) : Ran Bool × Station :=
  match o.machineInfo with
  | none => (.stopped, s)
  | some m =>
    match userPrint m s.car s.table o.select o.write with
    -- isOK is assigned again before it is read
    | (.returned _, t) =>
      match (loginTableInsert m s.car).insert o.insert with
      | .returned true => (.returned true, ⟨⟨emptyCStr, emptyCStr, emptyCStr⟩, t⟩)
      | r => (r, ⟨s.car, t⟩)
    | (r, t) => (r, ⟨s.car, t⟩)

/-- Nobody was found. -/
def refuseCard (s : Station) (o : CardOutcomes) : Ran Bool × Station :=
  match o.machineInfo with
  | none => (.stopped, s)
  | some m =>
    match (loginFTableInsert m s.car).insert o.insert with
    | .returned _ => (.returned false, s)
    | r => (r, s)

/-- An iteration that found a card in Readinfo. -/
def cardIteration (s : Station) (readinfo : CStr) (o : CardOutcomes) : Ran Bool × Station :=
  if o.info then
    let q := userQueryFields readinfo s.car o.query
    if q.1 then
      -- Readinfo is cleared and the loop continues
      if o.boolGetBack then (.returned false, ⟨q.2, s.table⟩)
      else printAndInsert ⟨q.2, s.table⟩ o
    else refuseCard ⟨q.2, s.table⟩ o
  -- continue, with the card still in Readinfo
  else (.returned false, s)

/-- Unless the iteration ends with `_fConnected` TRUE, the machine's row names the user it
    named before. -/
def RefusedUnchanged (s : Station) (readinfo : CStr) (o : CardOutcomes) : Prop :=
  let r := cardIteration s readinfo o
  r.1 ≠ .undefined ∧ (r.1 ≠ .returned true →
    ∀ m, o.machineInfo = some m → viewOf m.sqlMAC r.2.table = viewOf m.sqlMAC s.table)

/-! What a write does to the machine's rows. -/

theorem rowsOf_updateWhere {f : PrintRow → PrintRow}
    (hf : ∀ row, (f row).machineMAC = row.machineMAC) (mac : CStr) :
    ∀ t : PrintUser, rowsOf mac (updateWhere mac f t) = (rowsOf mac t).map f
  | [] => rfl
  | row :: t => by
    have ih := rowsOf_updateWhere hf mac t
    unfold rowsOf updateWhere at ih ⊢
    rw [List.map_cons]
    by_cases h : row.machineMAC = mac
    · have hmac : (f row).machineMAC = mac := (hf row).trans h
      rw [if_pos h, List.filter_cons_of_pos (by simp [hmac]), List.filter_cons_of_pos (by simp [h]),
        List.map_cons, ih]
    · rw [if_neg h, List.filter_cons_of_neg (by simp [h]), List.filter_cons_of_neg (by simp [h]), ih]

/-- What the row of the machine is to say. -/
def PrintRow.written (r : CarRow) (row : PrintRow) : PrintView :=
  if r.getCarNumber.val = [] then { row.view with printMark := off }
  else ⟨on, some r.getCarNumber, some r.getNickNume, some r.getUserNames⟩

/-- The machine has one row, and it says so already. -/
def AlreadyWritten (m : MachineInfo) (r : CarRow) (t : PrintUser) : Prop :=
  ∃ row, rowsOf m.sqlMAC t = [row] ∧ row.written r = row.view

/-- One row is updated. -/
theorem viewOf_update {m : MachineInfo} {t : PrintUser} {row : PrintRow} (r : CarRow)
    (h : rowsOf m.sqlMAC t = [row]) :
    viewOf m.sqlMAC ((printWrite true m r).exec t) = [row.written r] := by
  unfold viewOf printWrite PrintRow.written
  rw [if_pos rfl]
  split
  · show (rowsOf m.sqlMAC (updateWhere m.sqlMAC (PrintRow.setOff m) t)).map PrintRow.view = _
    rw [rowsOf_updateWhere (f := PrintRow.setOff m) (fun _ => rfl), h]
    rfl
  · show (rowsOf m.sqlMAC (updateWhere m.sqlMAC (PrintRow.setOn m r) t)).map PrintRow.view = _
    rw [rowsOf_updateWhere (f := PrintRow.setOn m r) (fun _ => rfl), h]
    rfl

/-- A row is added. -/
theorem length_viewOf_insert (m : MachineInfo) (r : CarRow) (t : PrintUser) :
    (viewOf m.sqlMAC ((printWrite false m r).exec t)).length = (viewOf m.sqlMAC t).length + 1 := by
  unfold viewOf printWrite
  rw [if_neg Bool.false_ne_true, List.length_map, List.length_map]
  split
  · simp [PrintWrite.exec, rowsOf]
  · simp [PrintWrite.exec, rowsOf]

/-- The write of `user_Print` changes nothing exactly when it is of the one row there is,
    and of what it says. -/
theorem viewOf_write_iff (m : MachineInfo) (r : CarRow) (t : PrintUser) :
    viewOf m.sqlMAC ((printWrite (oneRow m t) m r).exec t) = viewOf m.sqlMAC t ↔
      AlreadyWritten m r t := by
  unfold oneRow
  by_cases hone : (rowsOf m.sqlMAC t).length = 1
  · obtain ⟨row, hrow⟩ := List.length_eq_one_iff.mp hone
    rw [decide_eq_true hone, viewOf_update r hrow]
    have hview : viewOf m.sqlMAC t = [row.view] := by
      unfold viewOf
      rw [hrow]
      rfl
    rw [hview]
    constructor
    · intro h
      exact ⟨row, hrow, List.head_eq_of_cons_eq h⟩
    · intro ⟨row', hrow', hw⟩
      rw [hrow] at hrow'
      obtain rfl : row = row' := List.head_eq_of_cons_eq hrow'
      rw [hw]
  -- no row, or more than one: the insert adds one to them
  · rw [decide_eq_false hone]
    constructor
    · intro h
      have hlen := length_viewOf_insert m r t
      rw [h] at hlen
      omega
    · intro ⟨row, hrow, _⟩
      rw [hrow] at hone
      exact absurd rfl hone

/-! What the inserts return. -/

/-- The text asks for no argument. -/
def Sql.InsertDefined (s : Sql) : Prop :=
  ∀ strSQL, s.text = some strSQL → (sprintf strSQL []).isSome = true

/-- The text fits strSQL and then the buffer of `user_insert`. -/
def Sql.InsertFits (s : Sql) : Prop :=
  ∃ strSQL query, s.text = some strSQL ∧ sprintf strSQL [] = some query ∧ query.length < 255

theorem insert_defined_iff (s : Sql) (ok : Bool) : s.insert ok ≠ .undefined ↔ s.InsertDefined := by
  unfold Sql.insert Sql.InsertDefined userInsert
  cases s.text with
  | none => simp
  | some strSQL =>
    cases hq : sprintf strSQL [] with
    | none => simp [hq]
    | some query =>
      simp only [Option.some.injEq, forall_eq', hq, Option.isSome_some, iff_true]
      split
      · intro h
        cases h
      · intro h
        cases h

theorem insert_true_iff (s : Sql) (ok : Bool) :
    s.insert ok = .returned true ↔ ok = true ∧ s.InsertFits := by
  unfold Sql.insert Sql.InsertFits userInsert
  cases s.text with
  | none => simp
  | some strSQL =>
    cases hq : sprintf strSQL [] with
    | none => simp [hq]
    | some query =>
      by_cases hlen : query.length < 255
      · simp [hq, hlen]
      · simp [hq, hlen]

/-! The iteration. -/

/-- All that `user_Print` can do: the select does not fit; it fails; the write does not
    fit; it is sent. -/
theorem userPrint_cases (m : MachineInfo) (r : CarRow) (t : PrintUser) (select write : Bool) :
    ((userPrintSelect m).text = none ∧ userPrint m r t select write = (.stopped, t)) ∨
    ((userPrintSelect m).text.isSome ∧ select = false ∧
      userPrint m r t select write = (.undefined, t)) ∨
    ((userPrintSelect m).text.isSome ∧ select = true ∧
      (userPrintWrite (oneRow m t) m r).text = none ∧
      userPrint m r t select write = (.stopped, t)) ∨
    ((userPrintSelect m).text.isSome ∧ select = true ∧
      (userPrintWrite (oneRow m t) m r).text.isSome ∧
      userPrint m r t select write =
        (.returned write, if write then (printWrite (oneRow m t) m r).exec t else t)) := by
  unfold userPrint
  cases hs : (userPrintSelect m).text with
  | none => exact .inl ⟨rfl, rfl⟩
  | some text =>
    cases select with
    | false => exact .inr (.inl ⟨rfl, rfl, rfl⟩)
    | true =>
      rw [← printWrite_sql]
      cases hw : (printWrite (oneRow m t) m r).sql.text with
      | none => simp [hw]
      | some text' => cases write <;> simp [hw]

/-- The condition from the end of the wait on, with `r` in the connection object. -/
def PrintSafe (m : MachineInfo) (r : CarRow) (t : PrintUser) (o : CardOutcomes) : Prop :=
  (userPrintSelect m).text.isSome →
    o.select = true ∧
      ((userPrintWrite (oneRow m t) m r).text.isSome →
        (loginTableInsert m r).InsertDefined ∧
          (o.write = false ∨ AlreadyWritten m r t ∨
            (o.insert = true ∧ (loginTableInsert m r).InsertFits)))

/-- The outcomes with which a refused login leaves the row as it was: the iteration does
    not reach the write of the mark, or it fails, or the mark is there already, or the login
    is inserted. -/
def RefusalSafe (s : Station) (readinfo : CStr) (o : CardOutcomes) : Prop :=
  o.info = true → ∀ m, o.machineInfo = some m →
    let q := userQueryFields readinfo s.car o.query
    if q.1 then o.boolGetBack = false → PrintSafe m q.2 s.table o
    else (loginFTableInsert m q.2).InsertDefined

/-- What becomes of the mark after `user_Print`. -/
theorem afterPrint_iff (m : MachineInfo) (r : CarRow) (t : PrintUser) (write ok : Bool)
    {x : Ran Bool × Station}
    (hx : x.1 = (loginTableInsert m r).insert ok)
    (ht : x.2.table = if write then (printWrite (oneRow m t) m r).exec t else t) :
    (x.1 ≠ .undefined ∧
      (x.1 ≠ .returned true → viewOf m.sqlMAC x.2.table = viewOf m.sqlMAC t)) ↔
    (loginTableInsert m r).InsertDefined ∧
      (write = false ∨ AlreadyWritten m r t ∨ (ok = true ∧ (loginTableInsert m r).InsertFits)) := by
  rw [hx, ht, insert_defined_iff, ← insert_true_iff, ← viewOf_write_iff]
  cases write with
  | false => simp
  | true =>
    rw [if_pos rfl]
    constructor
    · intro ⟨hdef, hview⟩
      refine ⟨hdef, .inr ?_⟩
      by_cases hok : (loginTableInsert m r).insert ok = .returned true
      · exact .inr hok
      · exact .inl (hview hok)
    · intro ⟨hdef, hcond⟩
      refine ⟨hdef, ?_⟩
      intro hno
      obtain hw | hview | hok := hcond
      · cases hw
      · exact hview
      · exact absurd hok hno

section
variable {m : MachineInfo} {o : CardOutcomes} {r : CarRow} {t t' : PrintUser}

/-- The iteration ends where `user_Print` does. -/
theorem printAndInsert_ends (hm : o.machineInfo = some m) {x : Ran Bool}
    (hx : x = .stopped ∨ x = .undefined) (hrun : userPrint m r t o.select o.write = (x, t')) :
    printAndInsert ⟨r, t⟩ o = (x, ⟨r, t'⟩) := by
  unfold printAndInsert
  rw [hm]
  dsimp only
  rw [hrun]
  obtain rfl | rfl := hx
  · rfl
  · rfl

theorem printAndInsert_inserts (hm : o.machineInfo = some m) {b : Bool}
    (hrun : userPrint m r t o.select o.write = (.returned b, t')) :
    (printAndInsert ⟨r, t⟩ o).1 = (loginTableInsert m r).insert o.insert ∧
      (printAndInsert ⟨r, t⟩ o).2.table = t' := by
  unfold printAndInsert
  rw [hm]
  dsimp only
  rw [hrun]
  dsimp only
  cases (loginTableInsert m r).insert o.insert with
  | returned c => cases c <;> exact ⟨rfl, rfl⟩
  | _ => exact ⟨rfl, rfl⟩

theorem printAndInsert_iff (hm : o.machineInfo = some m) :
    ((printAndInsert ⟨r, t⟩ o).1 ≠ .undefined ∧ ((printAndInsert ⟨r, t⟩ o).1 ≠ .returned true →
      viewOf m.sqlMAC (printAndInsert ⟨r, t⟩ o).2.table = viewOf m.sqlMAC t)) ↔
      PrintSafe m r t o := by
  unfold PrintSafe
  obtain ⟨hs, hrun⟩ | ⟨hs, hsel, hrun⟩ | ⟨hs, hsel, hw, hrun⟩ | ⟨hs, hsel, hw, hrun⟩ :=
    userPrint_cases m r t o.select o.write
  · rw [printAndInsert_ends hm (.inl rfl) hrun, hs]
    simp
  · rw [printAndInsert_ends hm (.inr rfl) hrun, hsel]
    simp [hs]
  · rw [printAndInsert_ends hm (.inl rfl) hrun, hw]
    simp [hsel]
  -- the write is sent: from here on the login decides
  · rw [hsel]
    simp only [hs, hw, true_implies, true_and]
    obtain ⟨hx, ht⟩ := printAndInsert_inserts hm hrun
    exact afterPrint_iff m r t o.write o.insert hx ht

end

theorem printAndInsert_stops {o : CardOutcomes} (hm : o.machineInfo = none) (s : Station) :
    printAndInsert s o = (.stopped, s) := by
  unfold printAndInsert
  rw [hm]

/-- A card of nobody writes nothing. -/
theorem refuseCard_iff (s : Station) (o : CardOutcomes) :
    (refuseCard s o).2 = s ∧ ((refuseCard s o).1 ≠ .undefined ↔
      ∀ m, o.machineInfo = some m → (loginFTableInsert m s.car).InsertDefined) := by
  unfold refuseCard
  cases hm : o.machineInfo with
  | none => simp
  | some m =>
    simp only [Option.some.injEq, forall_eq']
    rw [← insert_defined_iff _ o.insert]
    cases (loginFTableInsert m s.car).insert o.insert with
    | returned b => simp
    | stopped => simp
    | undefined => simp

/-- The logon thread alone, with the answers it gets. -/
def logonRun : State → List Answer → State
  | s, [] => s
  | s, a :: as => logonRun (logonStep s a s.logon) as

theorem logonRun_append (s : State) :
    ∀ as bs, logonRun s (as ++ bs) = logonRun (logonRun s as) bs := by
  intro as
  induction as generalizing s with
  | nil =>
    intro bs
    rfl
  | cons a as ih =>
    intro bs
    exact ih _ bs

/-- The connection object holds these fields. -/
def Holds (s : State) (car : CarRow) : Prop :=
  s.getCarNumber = car.getCarNumber.val ∧ s.getUserNames = car.getUserNames.val ∧
    s.getNickNume = car.getNickNume.val

/-- What the window leaves behind when the wait is over. -/
def State.waited (s : State) (boolGetBack : Bool) : State :=
  { s with empPWCT := false, boolGetBack := boolGetBack }

/-- The row as the terminal has it, with the password the wait is about. -/
def CardQuery.result (pw : Bytes) : CardQuery → QueryResult
  | .failed => .failed
  | .noRow => .noRow
  | .row r => .row ⟨r.getCarNumber.val, r.getUserNames.val, r.getNickNume.val, pw⟩

/-- An answer that says so, and nothing else. -/
def answer (ok : Bool) : Answer := ⟨ok, false, [], 0, .empty, .failed⟩

/-- The settings query. -/
theorem logon_info {s : State} (h : s.logon = .conn .card) (ok : Bool) :
    ∃ as, (logonRun s as).logon = (if ok then .query else .head) ∧
      (logonRun s as).fConnected = s.fConnected ∧ (logonRun s as).readinfo = s.readinfo ∧
      ∀ car, Holds s car → Holds (logonRun s as) car := by
  cases ok with
  | false =>
    refine ⟨List.replicate 3 (answer false), ?_⟩
    cases s
    cases h
    exact ⟨rfl, rfl, rfl, fun _ hc => hc⟩
  | true =>
    refine ⟨List.replicate 8 (answer true), ?_⟩
    cases s
    cases h
    exact ⟨rfl, rfl, rfl, fun _ hc => hc⟩

/-- The lookup, and for a row the way to the wait, whatever its password and whatever the
    login server answers. -/
theorem logon_query {s : State} (h : s.logon = .query) {readinfo : CStr} {car : CarRow}
    (hread : cstr s.readinfo = readinfo.val) (hcar : Holds s car) (q : CardQuery) (pw : Bytes)
    (post : Bool) :
    ∃ as, (logonRun s as).logon =
        (if (userQueryFields readinfo car q).1 then .wait else .refuse) ∧
      (logonRun s as).fConnected = s.fConnected ∧
      Holds (logonRun s as) (userQueryFields readinfo car q).2 := by
  cases q with
  | failed =>
    refine ⟨List.replicate 3 ⟨true, false, [], 0, .empty, .failed⟩, ?_⟩
    cases s
    cases h
    exact ⟨rfl, rfl, hcar⟩
  | noRow =>
    refine ⟨List.replicate 4 ⟨true, false, [], 0, .empty, .noRow⟩, ?_⟩
    cases s
    cases h
    exact ⟨rfl, rfl, hread, hcar.2⟩
  | row r =>
    cases pw with
    | nil =>
      refine ⟨List.replicate 11 ⟨true, false, [], 0, .empty, (CardQuery.row r).result []⟩, ?_⟩
      cases s
      cases h
      exact ⟨rfl, rfl, rfl, rfl, rfl⟩
    | cons c pw =>
      cases post with
      | true =>
        refine ⟨List.replicate 18 ⟨true, false, [], 0, .empty,
          (CardQuery.row r).result (c :: pw)⟩, ?_⟩
        cases s
        cases h
        exact ⟨rfl, rfl, rfl, rfl, rfl⟩
      | false =>
        refine ⟨List.replicate 16 ⟨false, false, [], 0, .empty,
          (CardQuery.row r).result (c :: pw)⟩, ?_⟩
        cases s
        cases h
        exact ⟨rfl, rfl, rfl, rfl, rfl⟩

/-- From the end of the wait. -/
theorem logon_waited {s : State} (h : s.logon = .wait) (b : Bool) :
    ∃ as, (logonRun (s.waited b) as).logon = (if b then .head else .print) ∧
      (logonRun (s.waited b) as).fConnected = s.fConnected ∧
      ∀ car, Holds s car → Holds (logonRun (s.waited b) as) car := by
  cases b with
  | true =>
    refine ⟨List.replicate 3 (answer true), ?_⟩
    cases s
    cases h
    exact ⟨rfl, rfl, fun _ hc => hc⟩
  | false =>
    refine ⟨List.replicate 2 (answer true), ?_⟩
    cases s
    cases h
    exact ⟨rfl, rfl, fun _ hc => hc⟩

/-- The print, the insert, and the end of the iteration. -/
theorem logon_print {s : State} (h : s.logon = .print) (ok : Bool) :
    ∃ as, (logonRun s as).logon = (if ok then .idle else .head) ∧
      (logonRun s as).fConnected = (ok || s.fConnected) ∧
      ∀ car, Holds s car →
        Holds (logonRun s as) (if ok then ⟨emptyCStr, emptyCStr, emptyCStr⟩ else car) := by
  cases ok with
  | true =>
    refine ⟨List.replicate 8 (answer true), ?_⟩
    cases s
    cases h
    exact ⟨rfl, rfl, fun _ _ => ⟨rfl, rfl, rfl⟩⟩
  | false =>
    refine ⟨List.replicate 4 (answer false), ?_⟩
    cases s
    cases h
    exact ⟨rfl, rfl, fun _ hc => hc⟩

/-- Nobody was found. -/
theorem logon_refuse {s : State} (h : s.logon = .refuse) :
    ∃ as, (logonRun s as).logon = .head ∧ (logonRun s as).fConnected = s.fConnected ∧
      ∀ car, Holds s car → Holds (logonRun s as) car := by
  refine ⟨List.replicate 2 (answer false), ?_⟩
  cases s
  cases h
  exact ⟨rfl, rfl, fun _ hc => hc⟩

/-- The fields are cleared at the end of a session, and kept otherwise. -/
theorem printAndInsert_car (s : Station) (o : CardOutcomes) (b : Bool) :
    (printAndInsert s o).1 = .returned b → (printAndInsert s o).2.car =
      if b then ⟨emptyCStr, emptyCStr, emptyCStr⟩ else s.car := by
  unfold printAndInsert
  cases o.machineInfo with
  | none =>
    intro h
    cases h
  | some m =>
    dsimp only
    cases userPrint m s.car s.table o.select o.write with
    | mk x t =>
      cases x with
      | returned c =>
        dsimp only
        cases (loginTableInsert m s.car).insert o.insert with
        | returned c' =>
          cases c' with
          | true =>
            intro h
            cases h
            rfl
          | false =>
            intro h
            cases h
            rfl
        | _ =>
          intro h
          cases h
      | _ =>
        intro h
        cases h

theorem refuseCard_returned (s : Station) (o : CardOutcomes) (b : Bool) :
    (refuseCard s o).1 = .returned b → b = false := by
  unfold refuseCard
  cases o.machineInfo with
  | none =>
    intro h
    cases h
  | some m =>
    dsimp only
    cases (loginFTableInsert m s.car).insert o.insert with
    | returned c =>
      intro h
      cases h
      rfl
    | _ =>
      intro h
      cases h

/-- An iteration that comes to its end is one of the logon thread: with the answers of its
    calls, and the window ending the wait, the thread gets to the end of the session or to
    the head of the loop, with the same fields of the connection object. -/
theorem cardIteration_logon {s : State} (h : s.logon = .conn .card) {readinfo : CStr}
    {car : CarRow} (hread : cstr s.readinfo = readinfo.val) (hcar : Holds s car) (t : PrintUser)
    (o : CardOutcomes) (pw : Bytes) (post b : Bool)
    (hrun : (cardIteration ⟨car, t⟩ readinfo o).1 = .returned b) :
    ∃ as bs, let s' := logonRun ((logonRun s as).waited o.boolGetBack) bs
      s'.logon = (if b then .idle else .head) ∧ s'.fConnected = (b || s.fConnected) ∧
        Holds s' (cardIteration ⟨car, t⟩ readinfo o).2.car := by
  obtain ⟨as, hpc, hconn, hcard, hkeep⟩ := logon_info h o.info
  revert hrun
  unfold cardIteration
  cases hinfo : o.info with
  | false =>
    intro hrun
    rw [hinfo] at hpc
    cases hrun
    exact ⟨as, [], hpc, hconn, hkeep car hcar⟩
  | true =>
    rw [hinfo, if_pos rfl] at hpc
    obtain ⟨as', hpc', hconn', hcar'⟩ :=
      logon_query hpc ((congrArg cstr hcard).trans hread) (hkeep car hcar) o.query pw post
    rw [← logonRun_append] at hpc' hconn' hcar'
    rw [hconn] at hconn'
    dsimp only
    rw [if_pos rfl]
    cases hq : (userQueryFields readinfo car o.query).1 with
    | false =>
      rw [hq] at hpc'
      rw [if_neg Bool.false_ne_true]
      intro hrun
      obtain rfl := refuseCard_returned _ o b hrun
      obtain ⟨as'', hpc'', hconn'', hcar''⟩ := logon_refuse hpc'
      rw [← logonRun_append] at hpc'' hconn'' hcar''
      refine ⟨as ++ as' ++ as'', [], hpc'', hconn''.trans hconn', ?_⟩
      rw [(refuseCard_iff _ o).1]
      exact hcar'' _ hcar'
    | true =>
      rw [hq] at hpc'
      rw [if_pos rfl]
      obtain ⟨bs, hpcb, hconnb, hcarb⟩ := logon_waited hpc' o.boolGetBack
      rw [hconn'] at hconnb
      cases hback : o.boolGetBack with
      | true =>
        rw [hback] at hpcb hconnb hcarb
        rw [if_pos rfl]
        intro hrun
        cases hrun
        exact ⟨as ++ as', bs, hpcb, hconnb.trans (Bool.false_or _).symm, hcarb _ hcar'⟩
      | false =>
        rw [hback] at hpcb hconnb hcarb
        rw [if_neg Bool.false_ne_true]
        intro hrun
        obtain ⟨bs', hpc₂, hconn₂, hcar₂⟩ := logon_print hpcb b
        rw [← logonRun_append] at hpc₂ hconn₂ hcar₂
        refine ⟨as ++ as', bs ++ bs', hpc₂, ?_, ?_⟩
        · rw [hconn₂, hconnb]
        · rw [printAndInsert_car _ o b hrun]
          exact hcar₂ _ (hcarb _ hcar')

/-! A login that cannot be inserted. -/

def someMachine : MachineInfo :=
  ⟨⟨lit "2019-6-24 9:22:51", by decide⟩, ⟨lit "PC-7", by decide⟩, ⟨lit "192.168.0.9", by decide⟩,
    ⟨lit "00-11-22-33-44-55", by decide⟩⟩

def ann : CarRow := ⟨card, userAnn, ⟨lit "Ann", by decide⟩⟩

/-- Nobody is logged in at the machine. -/
def offTable : PrintUser := (PrintWrite.insertOff someMachine).exec []

/-- Everything works but the insert. -/
def insertFails : CardOutcomes := ⟨true, .row ann, false, some someMachine, true, true, false⟩

end CardLogon
