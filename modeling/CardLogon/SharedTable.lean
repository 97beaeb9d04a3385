import CardLogon.PrintHistory
import CardLogon.SqlCall
import CardLogon.TwoStep

/- The PrintUser table under calls of `user_Print` that overlap.

   Every machine has a connection of its own, and a call sends two statements: the select,
   whose rows it counts, and the write that the count chooses. The server does one statement
   at a time, whichever machine sent it; so there may be any others between the two of a call.

   What is proved:
     1. `concurrent_print`. As long as calls of one MAC do not overlap, the table is that of
        the calls made one after the other, in the order of their writes, and each of them
        writes the row of its own MAC or nothing.
     2. `doubled_rows`. When they do overlap there may come to be two rows
        (`overlapping_calls`); from then on every call of the MAC adds a row, and none of its
        rows changes any more. -/
namespace CardLogon
open CText SqlLex SqlExec GuardedRun

open PrintColumn

/-! The two statements of a call. -/

section
variable (col : Collation)

/-- `user_Print` up to the count: the tokens of the machine line, and whether there is one
    row; unless the call ends here. -/
def userPrintCounted (strGetMachineInfo : CStr) (t : Records) : Ran (MachineInfo × Bool) :=
  if strGetMachineInfo.val.length < 250 then
    match machineTokens strGetMachineInfo with
    | none => .undefined
    | some (m, _) =>
      match (userPrintSelect m).text with
      | none => .stopped
      | some select_user =>
        match (readText select_user).bind fun s => s.rows col printUserTable t with
        | none => .undefined
        | some result => .returned (m, decide (result.length = 1))
  else .stopped

/-- The rest of it: the write. -/
def userPrintWritten (defaults : Record) (m : MachineInfo) (oneRow : Bool) (car : CarRow)
    (write : Bool) (t : Records) : Ran Bool × Records :=
  match (userPrintWrite oneRow m car).text with
  | none => (.stopped, t)
  | some select_user =>
    match (readText select_user).bind fun s => s.exec col printUserTable defaults t with
    | none => (.returned false, t)
    | some t' => if write then (.returned true, t') else (.returned false, t)

/-- The machine line of a call. -/
def MachineInfo.line (m : MachineInfo) : CStr := ⟨joinFields m, nul_notMem_joinFields m⟩

def PrintCall.line (c : PrintCall) : CStr := c.machine.line

abbrev ProperCall := { c : PrintCall // c.Proper }

def ProperCall.mac (c : ProperCall) : Bytes := c.val.machine.sqlMAC.val

/-- A call as an operation on the table. -/
def printOperation : TwoStep.Operation ProperCall Records (MachineInfo × Bool) (Ran Bool) where
  look c t :=
    match userPrintCounted col c.val.line t with
    | .returned x => .inl x
    | .stopped => .inr .stopped
    | .undefined => .inr .undefined
  write c x t := userPrintWritten col c.val.defaults x.1 x.2 c.val.car c.val.write t

/-- The MACs of two calls are not the same to the server. -/
def otherMac (c d : ProperCall) : Bool := !col.same c.mac d.mac

abbrev PrintTraffic := TwoStep.Traffic ProperCall Records (MachineInfo × Bool) (Ran Bool)

/-- A step of any of the calls. -/
abbrev printStep : PrintTraffic → TwoStep.Act ProperCall → Option PrintTraffic :=
  TwoStep.step (printOperation col)

/-- The two steps are `user_Print`. -/
theorem printOperation_run (c : ProperCall) (t : Records) :
    (printOperation col).run c t = c.val.run col t := by
  unfold TwoStep.Operation.run printOperation PrintCall.run userPrintSent userPrintCounted
    PrintCall.line MachineInfo.line
  dsimp only
  by_cases hline : (joinFields c.val.machine).length < 250
  · rw [if_pos hline, if_pos hline]
    cases machineTokens ⟨joinFields c.val.machine, nul_notMem_joinFields c.val.machine⟩ with
    | none => rfl
    | some p =>
      dsimp only
      cases (userPrintSelect p.1).text with
      | none => rfl
      | some select_user =>
        dsimp only
        cases (readText select_user).bind fun s => s.rows col printUserTable t with
        | none => rfl
        | some result => rfl
  · rw [if_neg hline, if_neg hline]

/-! What the two steps do. -/

/-- The count is of the rows of the MAC. -/
theorem printOperation_look (c : ProperCall) (t : Records) :
    (printOperation col).look c t =
      if c.val.line.val.length < 250 ∧ (userPrintSelect c.val.machine).text.isSome then
        .inl (c.val.machine, decide ((withKey col (machineMAC, c.mac) t).length = 1))
      else .inr .stopped := by
  have hc := c.property
  have htok : machineTokens c.val.line = some (c.val.machine, _) :=
    machineTokens_joinFields c.val.machine hc.sqlTime hc.sqlMachineName hc.sqlIP hc.sqlMAC
  have hrows : (selectStatement c.val.machine).rows col printUserTable t =
      some (withKey col (machineMAC, c.mac) t) := by
    show (if printUserTable = printUserTable then some _ else none) = _
    rw [if_pos rfl]
    rfl
  unfold printOperation userPrintCounted
  dsimp only
  by_cases hline : c.val.line.val.length < 250
  · rw [if_pos hline, htok]
    dsimp only
    cases hsel : (userPrintSelect c.val.machine).text with
    | none => simp
    | some select_user =>
      dsimp only
      rw [readText_select hc.machine hsel, Option.bind_some, hrows, if_pos ⟨hline, rfl⟩]
  · rw [if_neg hline, if_neg fun h => hline h.1]

/-- The write is the one that the count chooses. -/
theorem printOperation_write (c : ProperCall) (oneRow : Bool) (t : Records) :
    (printOperation col).write c (c.val.machine, oneRow) t =
      if (userPrintWrite oneRow c.val.machine c.val.car).text.isSome then
        (.returned c.val.write,
          if c.val.write then
            (printWrite oneRow c.val.machine c.val.car).onRows col c.val.defaults t
          else t)
      else (.stopped, t) := by
  have hc := c.property
  unfold printOperation userPrintWritten
  dsimp only
  cases hw : (userPrintWrite oneRow c.val.machine c.val.car).text with
  | none => rfl
  | some text =>
    dsimp only
    rw [readText_write hc.machine hc.car _ hw, Option.bind_some, exec_statement]
    cases c.val.write with
    | true => rfl
    | false => rfl

/-- An update is of the rows of the MAC, an insert adds a row. -/
theorem onRows_update (d : Record) (m : MachineInfo) (r : CarRow) (t : Records) :
    (printWrite true m r).onRows col d t =
      SqlCall.mapKey col (machineMAC, m.sqlMAC.val)
        (fun row => row.setAll (printWrite true m r).sets) t := by
  unfold printWrite
  rw [if_pos rfl]
  split
  · rfl
  · rfl

theorem onRows_insert (d : Record) (m : MachineInfo) (r : CarRow) (t : Records) :
    (printWrite false m r).onRows col d t = t ++ [Record.setAll d (printWrite false m r).sets] := by
  unfold printWrite
  rw [if_neg Bool.false_ne_true]
  split
  · rfl
  · rfl

variable {col}

/-- The row that is added has the MAC, as far as the server can tell. -/
theorem has_inserted (d : Record) (m : MachineInfo) (r : CarRow) (v : Bytes) :
    (Record.setAll d (printWrite false m r).sets).has col (machineMAC, v) =
      col.same m.sqlMAC.val v := by
  unfold Record.has
  rw [sets_get _ d insert_sets_mac]

/-- The rows of another MAC are as they were. -/
theorem withKey_onRows_other {m : MachineInfo} {v : Bytes} (hv : col.same m.sqlMAC.val v = false)
    (oneRow : Bool) (d : Record) (r : CarRow) (t : Records) :
    withKey col (machineMAC, v) ((printWrite oneRow m r).onRows col d t) =
      withKey col (machineMAC, v) t := by
  cases oneRow with
  | true =>
    rw [onRows_update]
    apply SqlCall.withKey_mapKey_other (machineMAC, m.sqlMAC.val) _ hv
    intro row
    exact Record.setAll_of_notMem _ row update_keeps_mac
  | false =>
    rw [onRows_insert]
    unfold withKey
    rw [List.filter_append, List.filter_cons_of_neg (by rw [has_inserted, hv]; exact Bool.false_ne_true),
      List.filter_nil, List.append_nil]

/-- Two strings that are the same have the same rows. -/
theorem withKey_congr {k v w : Bytes} (h : col.same v w = true) (t : Records) :
    withKey col (k, v) t = withKey col (k, w) t := by
  unfold withKey
  apply List.filter_congr
  intro row _
  unfold Record.has
  dsimp only
  cases row k with
  | none => rfl
  | some x =>
    apply Bool.eq_iff_iff.mpr
    exact ⟨fun hx => col.trans hx h, fun hx => col.trans hx (col.symm h)⟩

/-! Calls that do not overlap with one of their MAC. -/

theorem same_comm (col : Collation) (a b : Bytes) : col.same a b = col.same b a :=
  Bool.eq_iff_iff.mpr ⟨col.symm, col.symm⟩

/-- Calls of different MACs do not change each other's counts. -/
theorem printOperation_apart (col : Collation) :
    TwoStep.Apart (printOperation col) (otherMac col) where
  symm := by
    intro c d h
    unfold otherMac at h ⊢
    rwa [same_comm]
  look := by
    intro c d h t
    have hsame : col.same d.mac c.mac = false := by
      rw [same_comm]
      unfold otherMac at h
      rwa [Bool.not_eq_true'] at h
    have hrows : withKey col (machineMAC, c.mac) ((printOperation col).run d t).2 =
        withKey col (machineMAC, c.mac) t := by
      unfold TwoStep.Operation.run
      rw [printOperation_look]
      split_ifs
      · dsimp only
        rw [printOperation_write]
        split_ifs
        · exact withKey_onRows_other hsame _ _ _ t
        · rfl
        · rfl
      · rfl
    rw [printOperation_look, printOperation_look, hrows]

theorem printOperation_all (t : Records) (cs : List ProperCall) :
    (printOperation col).all t cs = history col t (cs.map Subtype.val) := by
  unfold TwoStep.Operation.all history
  rw [List.foldl_map]
  simp only [printOperation_run]

/-- The calls that have ended, in the order of their writes. -/
def endedCalls (es : List (ProperCall × Ran Bool)) : List PrintCall := es.map fun e => e.1.val

theorem endedCalls_eq (es : List (ProperCall × Ran Bool)) :
    endedCalls es = (es.map Prod.fst).map Subtype.val := by
  rw [List.map_map]
  rfl

/-- Whichever calls overlap, if none of them are of one MAC, the table is that of the calls
    one after the other. It keeps at most one row for each MAC, and every call returned what
    it does then, and wrote the row of its MAC or nothing. -/
theorem concurrent_print (t : Records) (ht : KeyUnique col machineMAC t) (s : PrintTraffic)
    (h : Reachable (printStep col) (TwoStep.beginsApart (otherMac col)) (TwoStep.start t) s) :
    s.store = history col t (endedCalls s.done) ∧ KeyUnique col machineMAC s.store ∧
      ∀ pre c r post, s.done = pre ++ (c, r) :: post →
        r = (c.val.run col (history col t (endedCalls pre))).1 ∧
          c.val.WritesItsRow col (history col t (endedCalls pre))
            (c.val.run col (history col t (endedCalls pre))) := by
  have hserial := TwoStep.serial (printOperation_apart col) h
  have hproper : ∀ es : List (ProperCall × Ran Bool), ∀ c ∈ endedCalls es, c.Proper := by
    intro es c hc
    obtain ⟨e, -, rfl⟩ := List.mem_map.mp hc
    exact e.1.property
  have hstore : s.store = history col t (endedCalls s.done) := by
    rw [hserial.store, printOperation_all, endedCalls_eq]
  refine ⟨hstore, ?_, ?_⟩
  · rw [hstore]
    exact history_unique (hproper s.done) ht
  · intro pre c r post hdone
    have hresult := hserial.result hdone
    rw [printOperation_all, printOperation_run, ← endedCalls_eq] at hresult
    exact ⟨hresult, (PrintCall.step c.property (history_unique (hproper pre) ht)).2⟩

/-! A MAC with two rows. -/

/-- No call of the MAC that is under way has counted one row. -/
def Uncounted (col : Collation) (v : Bytes) (s : PrintTraffic) : Prop :=
  ∀ p ∈ s.underWay, col.same p.1.mac v = true → p.2.2 = false

/-- A call of the MAC that has written. -/
def wroteFor (col : Collation) (v : Bytes) (e : ProperCall × Ran Bool) : Bool :=
  col.same e.1.mac v && decide (e.2 = .returned true)

/-- The row that a call adds. -/
def ProperCall.added (c : ProperCall) : Record :=
  Record.setAll c.val.defaults (printWrite false c.val.machine c.val.car).sets

theorem wroteFor_stopped (col : Collation) (v : Bytes) (c : ProperCall) :
    wroteFor col v (c, .stopped) = false := Bool.and_false _

/-- The rows of a MAC after a write: one more, if it was for the MAC and had not counted one
    row. -/
theorem withKey_write (c : ProperCall) {oneRow : Bool} {v : Bytes}
    (hone : col.same c.mac v = true → oneRow = false) (t : Records) :
    let r := (printOperation col).write c (c.val.machine, oneRow) t
    withKey col (machineMAC, v) r.2 =
      withKey col (machineMAC, v) t ++ if wroteFor col v (c, r.1) then [c.added] else [] := by
  rw [printOperation_write]
  dsimp only
  cases htext : (userPrintWrite oneRow c.val.machine c.val.car).text.isSome with
  | false => simp [wroteFor_stopped]
  | true =>
    rw [if_pos rfl]
    unfold wroteFor
    dsimp only
    cases hwrite : c.val.write with
    | false => simp
    | true =>
      cases hv : col.same c.mac v with
      | false =>
        rw [Bool.false_and, if_neg Bool.false_ne_true, List.append_nil]
        exact withKey_onRows_other hv _ _ _ t
      | true =>
        obtain rfl := hone hv
        rw [if_pos rfl, onRows_insert]
        unfold withKey
        rw [List.filter_append]
        congr 1
        exact List.filter_cons_of_pos
          ((has_inserted c.val.defaults c.val.machine c.val.car v).trans hv)

/-- Those under way write with the fields of their own machine. -/
def OwnMachine (s : PrintTraffic) : Prop := ∀ p ∈ s.underWay, p.2.1 = p.1.val.machine

/-- What a call finds. -/
theorem look_found {c : ProperCall} {t : Records} {x : MachineInfo × Bool}
    (h : (printOperation col).look c t = .inl x) :
    x = (c.val.machine, decide ((withKey col (machineMAC, c.mac) t).length = 1)) := by
  rw [printOperation_look] at h
  split at h
  · exact (Sum.inl.inj h).symm
  · cases h

theorem ownMachine_preserved (t : Records) :
    Preserved (printStep col) always (TwoStep.start t) OwnMachine where
  init := fun _ hp => (List.not_mem_nil hp).elim
  step := by
    intro s s' a hs _ h
    obtain ⟨c, r, rfl, -, rfl⟩ | ⟨c, x, rfl, hlook, rfl⟩ | ⟨n, c, x, rfl, -, rfl⟩ :=
      TwoStep.step_cases h
    · exact hs
    · intro p hp
      rcases List.mem_append.mp hp with hp | hp
      · exact hs p hp
      · obtain rfl := List.mem_singleton.mp hp
        exact congrArg Prod.fst (look_found hlook)
    · intro p hp
      exact hs p (List.mem_of_mem_eraseIdx hp)

/-- The rows that the calls of the MAC among some calls add. -/
def addedRows (col : Collation) (v : Bytes) (es : List (ProperCall × Ran Bool)) : Records :=
  (es.filter (wroteFor col v)).map fun e => e.1.added

theorem addedRows_concat (es : List (ProperCall × Ran Bool)) (e : ProperCall × Ran Bool) (v : Bytes) :
    addedRows col v (es ++ [e]) = addedRows col v es ++ if wroteFor col v e then [e.1.added] else [] := by
  unfold addedRows
  rw [List.filter_append, List.map_append, List.filter_singleton]
  cases wroteFor col v e with
  | true => rfl
  | false => rfl

/-- From `s` on, each call of the MAC that wrote has added its row, and the rows before are
    there as they were. -/
structure Doubled (col : Collation) (v : Bytes) (s s' : PrintTraffic) : Prop where
  added : ∃ es, s'.done = s.done ++ es ∧
    withKey col (machineMAC, v) s'.store = withKey col (machineMAC, v) s.store ++ addedRows col v es
  uncounted : Uncounted col v s'
  machine : OwnMachine s'

section
variable {v : Bytes} {s s₁ : PrintTraffic} (h : Doubled col v s s₁)
include h

/-- One more call has ended. -/
theorem Doubled.ends {e : ProperCall × Ran Bool} {t : Records}
    {ps : List (ProperCall × MachineInfo × Bool)} (hps : ∀ p ∈ ps, p ∈ s₁.underWay)
    (ht : withKey col (machineMAC, v) t = withKey col (machineMAC, v) s₁.store ++
      if wroteFor col v e then [e.1.added] else []) :
    Doubled col v s ⟨t, ps, s₁.done ++ [e]⟩ where
  added := by
    obtain ⟨es, hdone, hrows⟩ := h.added
    refine ⟨es ++ [e], ?_, ?_⟩
    · rw [← List.append_assoc, ← hdone]
    · rw [addedRows_concat, ← List.append_assoc, ← hrows]
      exact ht
  uncounted := fun p hp => h.uncounted p (hps p hp)
  machine := fun p hp => h.machine p (hps p hp)

/-- A call that looks finds two rows at least. -/
theorem Doubled.counts (htwo : 2 ≤ (withKey col (machineMAC, v) s.store).length) {c : ProperCall}
    {x : MachineInfo × Bool} (hlook : (printOperation col).look c s₁.store = .inl x) :
    Doubled col v s { s₁ with underWay := s₁.underWay ++ [(c, x)] } where
  added := h.added
  uncounted := by
    intro p hp hv
    rcases List.mem_append.mp hp with hp | hp
    · exact h.uncounted p hp hv
    · obtain rfl := List.mem_singleton.mp hp
      obtain ⟨es, -, hrows⟩ := h.added
      rw [look_found hlook]
      apply decide_eq_false
      rw [withKey_congr hv, hrows, List.length_append]
      omega
  machine := by
    intro p hp
    rcases List.mem_append.mp hp with hp | hp
    · exact h.machine p hp
    · obtain rfl := List.mem_singleton.mp hp
      exact congrArg Prod.fst (look_found hlook)

theorem Doubled.step (htwo : 2 ≤ (withKey col (machineMAC, v) s.store).length) {s₂ : PrintTraffic}
    {a : TwoStep.Act ProperCall} (hstep : printStep col s₁ a = some s₂) : Doubled col v s s₂ := by
  obtain ⟨c, r, rfl, hlook, rfl⟩ | ⟨c, x, rfl, hlook, rfl⟩ | ⟨n, c, ⟨m, oneRow⟩, rfl, hp, rfl⟩ :=
    TwoStep.step_cases hstep
  -- a call that ends with its select has not written
  · rw [printOperation_look] at hlook
    split at hlook
    · cases hlook
    · obtain rfl := Sum.inr.inj hlook
      apply h.ends fun _ hp => hp
      rw [wroteFor_stopped, if_neg Bool.false_ne_true, List.append_nil]
  · exact h.counts htwo hlook
  · have hmem := List.mem_of_getElem? hp
    obtain rfl : m = c.val.machine := h.machine _ hmem
    apply h.ends fun _ hp => List.mem_of_mem_eraseIdx hp
    exact withKey_write c (h.uncounted _ hmem) s₁.store

end

end

/-- Once a MAC has two rows, and no call under way has counted one, no row of it is ever
    changed, and each call of the MAC that returns true adds one that says what the call
    does. -/
theorem doubled_rows {col : Collation} {t : Records} {s : PrintTraffic}
    (h : Reachable (printStep col) always (TwoStep.start t) s) {v : Bytes}
    (htwo : 2 ≤ (withKey col (machineMAC, v) s.store).length) (hcount : Uncounted col v s)
    {s' : PrintTraffic} (h' : Reachable (printStep col) always s s') :
    ∃ es rows, s'.done = s.done ++ es ∧
      withKey col (machineMAC, v) s'.store = withKey col (machineMAC, v) s.store ++ rows ∧
      List.Forall₂ (fun e row => e.1.val.Says row) (es.filter (wroteFor col v)) rows := by
  have hfirst : Doubled col v s s := ⟨⟨[], by simp, by simp [addedRows]⟩, hcount, h.holds (ownMachine_preserved t)⟩
  have hpreserved : Preserved (printStep col) always s (Doubled col v s) :=
    ⟨hfirst, fun hd _ hstep => hd.step htwo hstep⟩
  obtain ⟨es, hdone, hrows⟩ := (h'.holds hpreserved).added
  refine ⟨es, _, hdone, hrows, ?_⟩
  unfold addedRows
  rw [List.forall₂_map_right_iff, List.forall₂_same]
  intro e _
  exact says_setAll e.1.val false e.1.val.defaults

/-! Some calls. -/

/-- Another machine. -/
def otherMachine : MachineInfo := { someMachine with sqlMAC := ⟨lit "00-11-22-33-44-66", by decide⟩ }

theorem proper_of {m : MachineInfo} {r : CarRow}
    (h : ∀ f ∈ [m.sqlTime, m.sqlMachineName, m.sqlIP, m.sqlMAC],
      (f.val ≠ [] ∧ (94 : UInt8) ∉ f.val) ∧ Unquoted f)
    (hr : ∀ f ∈ [r.getCarNumber, r.getUserNames, r.getNickNume], Unquoted f) (write : Bool) :
    PrintCall.Proper ⟨m, r, write, fun _ => none⟩ := by
  simp only [List.forall_mem_cons] at h hr
  obtain ⟨ht, hn, hi, hm, -⟩ := h
  obtain ⟨hc, hu, hk, -⟩ := hr
  exact ⟨ht.1, hn.1, hi.1, hm.1, ⟨ht.2, hn.2, hi.2, hm.2⟩, ⟨hc, hu, hk⟩⟩

instance (f : CStr) : Decidable (Unquoted f) :=
  inferInstanceAs (Decidable ((34 : UInt8) ∉ f.val ∧ (39 : UInt8) ∉ f.val ∧ (92 : UInt8) ∉ f.val))

/-- Ann logs on at the one, and nobody is at the other. -/
def annLogsOn : ProperCall :=
  ⟨⟨someMachine, ann, true, fun _ => none⟩, proper_of (by decide) (by decide) true⟩

def nobodyThere : ProperCall :=
  ⟨⟨otherMachine, ⟨emptyCStr, emptyCStr, emptyCStr⟩, true, fun _ => none⟩,
    proper_of (by decide) (by decide) true⟩

/-- Nobody is at Ann's machine. -/
def annLeft : ProperCall :=
  ⟨⟨someMachine, ⟨emptyCStr, emptyCStr, emptyCStr⟩, true, fun _ => none⟩,
    proper_of (by decide) (by decide) true⟩

/-- Both have counted before either writes. -/
def twoMachines : List (TwoStep.Act ProperCall) := [.look annLogsOn, .look nobodyThere, .write 1, .write 0]

theorem two_machines_apart :
    (final (printStep .binary) (TwoStep.beginsApart (otherMac .binary)) (TwoStep.start []) twoMachines).store =
      history .binary [] (endedCalls (final (printStep .binary)
        (TwoStep.beginsApart (otherMac .binary)) (TwoStep.start []) twoMachines).done) :=
  (concurrent_print [] (fun _ => Nat.zero_le 1) _ (reachable_final twoMachines)).1

/-- Two calls of one MAC, the second of which looks before the first has written. -/
def oneMachine : List (TwoStep.Act ProperCall) := [.look annLogsOn, .look annLeft, .write 0, .write 0]

def doubledTraffic : PrintTraffic := final (printStep .binary) always (TwoStep.start []) oneMachine

/-- They leave two rows. -/
theorem overlapping_calls : (withKey .binary (machineMAC, annLogsOn.mac) doubledTraffic.store).length = 2 := by
  decide +kernel

theorem doubledTraffic_uncounted : Uncounted .binary annLogsOn.mac doubledTraffic := by
  have hnone : doubledTraffic.underWay.isEmpty = true := by decide +kernel
  intro p hp
  rw [List.isEmpty_iff.mp hnone] at hp
  cases hp

/-- Nobody at the machine is a third row then. -/
def thirdCall : PrintTraffic := final (printStep .binary) always doubledTraffic [.look annLeft, .write 0]

theorem third_row : ∃ es rows, thirdCall.done = doubledTraffic.done ++ es ∧
    withKey .binary (machineMAC, annLogsOn.mac) thirdCall.store =
      withKey .binary (machineMAC, annLogsOn.mac) doubledTraffic.store ++ rows ∧
    List.Forall₂ (fun e row => e.1.val.Says row) (es.filter (wroteFor .binary annLogsOn.mac)) rows := by
  have h : Reachable (printStep .binary) always (TwoStep.start []) doubledTraffic :=
    reachable_final oneMachine
  have htwo : 2 ≤ (withKey .binary (machineMAC, annLogsOn.mac) doubledTraffic.store).length := by
    rw [overlapping_calls]
  have h' : Reachable (printStep .binary) always doubledTraffic thirdCall := reachable_final _
  exact doubled_rows h htwo doubledTraffic_uncounted h'

example : (withKey .binary (machineMAC, annLogsOn.mac) thirdCall.store).length = 3 := by decide +kernel

end CardLogon
