import CardLogon.ComAsy
import CardLogon.GuardedRun

/- One `ComAsy` under every interleaving: `InitCOM`, `UninitCOM` and the reader
   threads of `OnRecv`, one step for each access to what they share.

   The caller opens and closes the port any number of times. `InitCOM` creates
   the reader before it sets `m_IsOpen`; `UninitCOM` clears `m_IsOpen`, closes the
   port and waits for the reader at most a second, without looking at the result,
   so that a slow reader may live on. Readers look at `m_IsOpen` and `m_hCom` of
   the object each time, so they go on with whatever port is open then. The device
   sends bytes at any time; bytes for a closed port are lost and not counted.
   `Terminal.lean` has the same threads at a coarser grain, next to the rest. Left out:
   the `Readinfo = ""` of a new reader, before its loop; it is in `Terminal.lean` (`start`),
   and nothing here looks at the card that is waiting.

   What is proved:
     1. `one_reader_of_ordered`: while the port is open exactly one reader
        receives, in every run in which `InitCOM` creates its thread, this thread
        does not run before `m_IsOpen` is set, and by then no earlier reader is
        left. Without this none or two may receive (`no_reader_or_two`).
     2. `received_of_purges_empty`: what the device sent is what the reads
        returned and what is still queued, in every run in which each `PurgeComm`
        of a reader finds the queue empty. Bytes that arrive after the `ReadFile`
        and before the `PurgeComm` are lost (`purge_loses`). -/
namespace CardLogon.SerialPort
open CText GuardedRun

/-- Where a reader stands in `OnRecv`: at the test of the loop, or before the
    call that the place is named after. -/
inductive ReaderPc where
  | test
  | wait
  | clearError
  | readFile
  | append
  | purge
  | result
  | exited
  deriving DecidableEq

/-- A reader and its locals: `Status`, the `EV_RXCHAR` bit of `WaitEvent`,
    `cs.cbInQue`, the bytes in `ReadBuf` and `TempReadinfo`. -/
structure Reader where
  pc : ReaderPc
  status : Bool
  rxChar : Bool
  cbInQue : Nat
  data : Bytes
  tempReadinfo : Bytes
  deriving DecidableEq

/-- A thread that has just been created. -/
def Reader.fresh : Reader := ⟨.test, false, false, 0, [], []⟩

/-- Where the caller stands: `closed` before `InitCOM`, `opened` when it has
    returned true, otherwise inside one of the two calls. -/
inductive CallerPc where
  | closed
  | beginThread
  | setOpen
  | opened
  | closeHandle
  | waitThread
  deriving DecidableEq

/-- The object, its threads and the port. `hCom` says whether `m_hCom` is a valid
    handle; `sent` is what the device sent since the port was opened and `reads`
    what each `ReadFile` has returned since then. -/
structure State where
  caller : CallerPc
  hCom : Bool
  mIsOpen : Bool
  mThread : Bool
  readers : List Reader
  rx : Bytes
  sent : Bytes
  reads : List Bytes
  readinfo : Bytes
  isopenCOM : Bool

/-- `ComAsy::ComAsy`. -/
def initial : State := ⟨.closed, false, false, false, [], [], [], [], [], false⟩

/-- What the calls of a reader's step answer: whether the call succeeds, whether
    the event waited for is `EV_RXCHAR`, and the memory after `ReadBuf`. -/
structure Answer where
  ok : Bool
  rxChar : Bool
  beyond : Bytes

/-- A call that succeeds, an arrival if one is waited for. -/
def yes : Answer := ⟨true, true, [0]⟩

inductive Act where
  | initCOM (opens : Bool)
  | uninitCOM
  | caller (created : Bool)
  | reader (i : Nat) (a : Answer)
  | device (bytes : Bytes)

/-- `InitCOM` up to `_beginthreadex`: `CreateFile` and the purge of the new port. -/
def initCOM (s : State) (opens : Bool) : State :=
  if opens then { s with caller := .beginThread, hCom := true, rx := [], sent := [], reads := [] }
  else { s with hCom := false }

/-- The rest of the caller's code, one step at a time. -/
def callerStep (s : State) (created : Bool) : CallerPc → Option State
  | .closed => none
  | .beginThread =>
    some { s with
      caller := .setOpen
      mThread := created
      readers := if created then s.readers ++ [.fresh] else s.readers }
  | .setOpen => some { s with caller := .opened, mIsOpen := true }
  | .opened => none
  | .closeHandle => some { s with caller := .waitThread, hCom := false }
  -- WaitForSingleObject is left when the thread has ended or the second is over
  | .waitThread => some { s with caller := .closed, mThread := false }

/-- What a reader's step does to its own locals. -/
def Reader.next (s : State) (a : Answer) (r : Reader) : Reader :=
  match r.pc with
  | .test => { r with pc := if s.mIsOpen then .wait else .exited }
  | .wait => { r with pc := .clearError, status := s.hCom && a.ok, rxChar := a.rxChar }
  | .clearError =>
    -- a failing call leaves cs as it was
    let cbInQue := if s.hCom then s.rx.length else r.cbInQue
    { r with
      cbInQue := cbInQue
      pc := if r.status && r.rxChar && decide (0 < cbInQue) then .readFile else .result }
  | .readFile => { r with pc := .append, data := if s.hCom then s.rx.take readBufSize else [] }
  | .append =>
    { r with pc := .purge, tempReadinfo := (recvChunk r.tempReadinfo r.data a.beyond).1 }
  | .purge => { r with pc := .result }
  | .result => { r with pc := .test, status := s.hCom && a.ok }
  | .exited => r

/-- What it does to the object, the port and the globals. -/
def shared (s : State) (a : Answer) (r : Reader) : State :=
  match r.pc with
  | .readFile =>
    if s.hCom then
      { s with rx := s.rx.drop readBufSize, reads := s.reads ++ [s.rx.take readBufSize] }
    else s
  | .append =>
    match (recvChunk r.tempReadinfo r.data a.beyond).2 with
    | some card => { s with readinfo := card }
    | none => s
  | .purge => if s.hCom then { s with rx := [] } else s
  | .result => if s.hCom && a.ok then s else { s with isopenCOM := true }
  | _ => s

def readerStep (s : State) (i : Nat) (a : Answer) (r : Reader) : State :=
  { shared s a r with readers := s.readers.set i (r.next s a) }

def device (s : State) (bytes : Bytes) : State :=
  if s.hCom then { s with rx := s.rx ++ bytes, sent := s.sent ++ bytes } else s

/-- One step of the caller, of a reader that has not ended, or of the device. -/
def step (s : State) : Act → Option State
  | .initCOM opens => if s.caller = .closed then some (initCOM s opens) else none
  | .uninitCOM =>
    if s.caller = .closed ∨ s.caller = .opened then
      some { s with caller := .closeHandle, mIsOpen := false }
    else none
  | .caller created => callerStep s created s.caller
  | .reader i a =>
    match s.readers[i]? with
    | none => none
    | some r => if r.pc = .exited then none else some (readerStep s i a r)
  | .device bytes => some (device s bytes)

/-! What one reader's step leaves alone. -/

theorem shared_cases (s : State) (a : Answer) (r : Reader) :
    ∃ rx reads info lost, shared s a r =
      { s with rx := rx, reads := reads, readinfo := info, isopenCOM := lost } := by
  unfold shared
  split
  · split <;> exact ⟨_, _, _, _, rfl⟩
  · split <;> exact ⟨_, _, _, _, rfl⟩
  · split <;> exact ⟨_, _, _, _, rfl⟩
  · split <;> exact ⟨_, _, _, _, rfl⟩
  · exact ⟨_, _, _, _, rfl⟩

@[simp] theorem readerStep_caller (s : State) (i : Nat) (a : Answer) (r : Reader) :
    (readerStep s i a r).caller = s.caller := by
  obtain ⟨_, _, _, _, h⟩ := shared_cases s a r
  simp only [readerStep, h]

@[simp] theorem readerStep_mIsOpen (s : State) (i : Nat) (a : Answer) (r : Reader) :
    (readerStep s i a r).mIsOpen = s.mIsOpen := by
  obtain ⟨_, _, _, _, h⟩ := shared_cases s a r
  simp only [readerStep, h]

@[simp] theorem readerStep_hCom (s : State) (i : Nat) (a : Answer) (r : Reader) :
    (readerStep s i a r).hCom = s.hCom := by
  obtain ⟨_, _, _, _, h⟩ := shared_cases s a r
  simp only [readerStep, h]

@[simp] theorem readerStep_sent (s : State) (i : Nat) (a : Answer) (r : Reader) :
    (readerStep s i a r).sent = s.sent := by
  obtain ⟨_, _, _, _, h⟩ := shared_cases s a r
  simp only [readerStep, h]

@[simp] theorem readerStep_readers (s : State) (i : Nat) (a : Answer) (r : Reader) :
    (readerStep s i a r).readers = s.readers.set i (r.next s a) := rfl

/-- All that a step can be. -/
theorem step_cases {s s' : State} {act : Act} (h : step s act = some s') :
    (∃ opens, act = .initCOM opens ∧ s.caller = .closed ∧ s' = initCOM s opens) ∨
    (act = .uninitCOM ∧ s' = { s with caller := .closeHandle, mIsOpen := false }) ∨
    (∃ created, act = .caller created ∧ callerStep s created s.caller = some s') ∨
    (∃ i a r, act = .reader i a ∧ s.readers[i]? = some r ∧ r.pc ≠ .exited ∧
      s' = readerStep s i a r) ∨
    (∃ bytes, act = .device bytes ∧ s' = device s bytes) := by
  cases act with
  | initCOM opens =>
    simp only [step] at h
    split at h
    · next hc => exact .inl ⟨opens, rfl, hc, by simpa using h.symm⟩
    · cases h
  | uninitCOM =>
    simp only [step] at h
    split at h
    · exact .inr (.inl ⟨rfl, by simpa using h.symm⟩)
    · cases h
  | caller created => exact .inr (.inr (.inl ⟨created, rfl, h⟩))
  | reader i a =>
    simp only [step] at h
    split at h
    · cases h
    · next r hr =>
      split at h
      · cases h
      · next hx => exact .inr (.inr (.inr (.inl ⟨i, a, r, rfl, hr, hx, by simpa using h.symm⟩)))
  | device bytes => exact .inr (.inr (.inr (.inr ⟨bytes, rfl, by simpa [step] using h.symm⟩)))

/-- A property of runs from what each kind of step does. -/
theorem preserved_of_steps {guard : State → Act → Bool} {inv : State → Prop} (init : inv initial)
    (opening : ∀ s opens, inv s → s.caller = .closed → inv (initCOM s opens))
    (closing : ∀ s, inv s → inv { s with caller := .closeHandle, mIsOpen := false })
    (caller : ∀ {s s'} created, inv s → guard s (.caller created) = true →
      callerStep s created s.caller = some s' → inv s')
    (reader : ∀ {s r} i a, inv s → guard s (.reader i a) = true → s.readers[i]? = some r →
      r.pc ≠ .exited → inv (readerStep s i a r))
    (dev : ∀ s bytes, inv s → inv (device s bytes)) : Preserved step guard initial inv := by
  refine ⟨init, ?_⟩
  intro s s' act hi hg h
  obtain ⟨opens, rfl, hc, rfl⟩ | ⟨rfl, rfl⟩ | ⟨created, rfl, h⟩ | ⟨i, a, r, rfl, hr, hx, rfl⟩ |
    ⟨bytes, rfl, rfl⟩ := step_cases h
  · exact opening s opens hi hc
  · exact closing s hi
  · exact caller created hi hg h
  · exact reader i a hi hg hr hx
  · exact dev s bytes hi

/-! One reader while the port is open. -/

/-- The thread is in its receive loop or enters it with its next step. -/
def receiving (s : State) (r : Reader) : Bool :=
  match r.pc with
  | .test => s.mIsOpen
  | .exited => false
  | _ => true

/-- From `InitCOM`'s true to the next `UninitCOM` exactly one reader receives. -/
def OneReader (s : State) : Prop :=
  s.caller = .opened → s.readers.countP (receiving s) = 1

instance (s : State) : Decidable (OneReader s) :=
  inferInstanceAs (Decidable (_ → _))

/-- The thread has not returned. -/
def Reader.running (r : Reader) : Bool := decide (r.pc ≠ .exited)

/-- `InitCOM`'s steps in an order that works: the thread is created, it takes no
    step before `m_IsOpen` is set, and then every earlier reader has returned. -/
def ordered (s : State) : Act → Bool
  | .caller created =>
    match s.caller with
    | .beginThread => created
    | .setOpen => s.readers.dropLast.all fun r => !r.running
    | _ => true
  | .reader i _ => !(decide (s.caller = .setOpen) && decide (i + 1 = s.readers.length))
  | _ => true

/-- What holds at each place of the caller. -/
def callerOk (s : State) : CallerPc → Prop
  | .setOpen => ∃ rs, s.readers = rs ++ [.fresh]
  | .opened => s.mIsOpen = true ∧ s.readers.countP Reader.running = 1
  | _ => True

theorem receiving_of_open {s : State} (h : s.mIsOpen = true) (r : Reader) :
    receiving s r = r.running := by
  unfold receiving Reader.running
  cases hpc : r.pc <;> simp [h]

theorem running_next {s : State} (h : s.mIsOpen = true) (a : Answer) {r : Reader}
    (hr : r.running = true) : (r.next s a).running = true := by
  have hx : r.pc ≠ .exited := by simpa [Reader.running] using hr
  unfold Reader.running Reader.next
  split
  · simp [h]
  · simp
  · dsimp only
    split
    · split <;> simp
    · split <;> simp
  · simp
  · simp
  · simp
  · simp
  · next hpc => exact absurd hpc hx

/-- Replacing an element by one that counts alike does not change the count. -/
theorem countP_set {p : Reader → Bool} : ∀ {rs : List Reader} {i : Nat} {r r' : Reader},
    rs[i]? = some r → p r' = p r → (rs.set i r').countP p = rs.countP p
  | [], i, r, r', h, _ => by simp at h
  | x :: rs, 0, r, r', h, hp => by
    obtain rfl : x = r := by simpa using h
    simp only [List.set_cons_zero, List.countP_cons, hp]
  | x :: rs, i + 1, r, r', h, hp => by
    simp only [List.set_cons_succ, List.countP_cons, countP_set (by simpa using h) hp]

/-- A step of a reader that is not the last one keeps the last one. -/
theorem set_append_of_ne {rs : List Reader} {x r r' : Reader} {i : Nat}
    (h : (rs ++ [x])[i]? = some r) (hi : i + 1 ≠ (rs ++ [x]).length) :
    (rs ++ [x]).set i r' = rs.set i r' ++ [x] := by
  have hlt : i < (rs ++ [x]).length := (List.getElem?_eq_some_iff.mp h).1
  rw [List.length_append, List.length_singleton] at hlt hi
  exact List.set_append_left i r' (by omega)

theorem callerOk_reader {s : State} {r : Reader} (i : Nat) (a : Answer)
    (hi : callerOk s s.caller) (hg : ordered s (.reader i a) = true)
    (hr : s.readers[i]? = some r) (hx : r.pc ≠ .exited) :
    callerOk (readerStep s i a r) s.caller := by
  cases hpc : s.caller with
  | setOpen =>
    rw [hpc] at hi
    obtain ⟨rs, hrs⟩ := hi
    have hne : i + 1 ≠ s.readers.length := by simpa [ordered, hpc] using hg
    rw [hrs] at hr hne
    refine ⟨rs.set i (r.next s a), ?_⟩
    rw [readerStep_readers, hrs]
    exact set_append_of_ne hr hne
  | opened =>
    rw [hpc] at hi
    obtain ⟨ho, hc⟩ := hi
    have hrun : r.running = true := by simpa [Reader.running] using hx
    refine ⟨by rw [readerStep_mIsOpen, ho], ?_⟩
    rw [readerStep_readers, countP_set hr ?_, hc]
    rw [running_next ho a hrun, hrun]
  | _ => trivial

theorem callerOk_caller {s s' : State} (created : Bool) (hi : callerOk s s.caller)
    (hg : ordered s (.caller created) = true)
    (h : callerStep s created s.caller = some s') : callerOk s' s'.caller := by
  cases hpc : s.caller with
  | beginThread =>
    rw [hpc] at h
    have hc : created = true := by simpa [ordered, hpc] using hg
    cases h
    exact ⟨s.readers, by rw [hc]; rfl⟩
  | setOpen =>
    rw [hpc] at h hi
    obtain ⟨rs, hrs⟩ := hi
    cases h
    refine ⟨rfl, ?_⟩
    have hold : ∀ r ∈ rs, ¬ r.running = true := by simpa [ordered, hpc, hrs] using hg
    show s.readers.countP Reader.running = 1
    rw [hrs, List.countP_append, List.countP_eq_zero.mpr hold]
    rfl
  | closed => rw [hpc] at h; cases h
  | opened => rw [hpc] at h; cases h
  | closeHandle => rw [hpc] at h; cases h; trivial
  | waitThread => rw [hpc] at h; cases h; trivial

theorem callerOk_preserved : Preserved step ordered initial (fun s => callerOk s s.caller) := by
  refine preserved_of_steps trivial ?_ ?_ ?_ ?_ ?_
  · intro s opens _ hc
    unfold initCOM
    split
    · trivial
    · show callerOk _ s.caller
      rw [hc]
      trivial
  · intro s _
    trivial
  · intro s s' created hi hg h
    exact callerOk_caller created hi hg h
  · intro s r i a hi hg hr hx
    rw [readerStep_caller]
    exact callerOk_reader i a hi hg hr hx
  · intro s bytes hi
    unfold device
    split
    · cases hpc : s.caller <;> rw [hpc] at hi <;> exact hi
    · exact hi

/-- While the port is open exactly one reader receives, in every run in which
    `InitCOM`'s steps are ordered with those of the readers. -/
theorem one_reader_of_ordered (s : State) (h : Reachable step ordered initial s) :
    OneReader s := by
  intro hc
  have hi : callerOk s s.caller := h.holds callerOk_preserved
  rw [hc] at hi
  obtain ⟨ho, hcount⟩ := hi
  have hfun : receiving s = Reader.running := funext (receiving_of_open ho)
  rw [hfun, hcount]

/-- `InitCOM` to its end, its thread running only afterwards. -/
def openRun : List Act := [.initCOM true, .caller true, .caller true]

/-- The port is closed, its reader ends within the second, and the port is opened again. -/
def reopenRun : List Act :=
  openRun ++ [.reader 0 yes, .uninitCOM, .caller true] ++ List.replicate 4 (.reader 0 yes) ++
    [.caller true] ++ openRun ++ [.reader 1 yes, .reader 1 yes]

theorem open_one_reader :
    (final step ordered initial reopenRun).caller = .opened ∧
      (final step ordered initial reopenRun).readers.map Reader.pc = [.exited, .clearError] ∧
      OneReader (final step ordered initial reopenRun) :=
  ⟨by decide, by decide, one_reader_of_ordered _ (reachable_final reopenRun)⟩

/-- The new thread tests `m_IsOpen` before `InitCOM` sets it. -/
def earlyTestRun : List Act := [.initCOM true, .caller true, .reader 0 yes, .caller true]

/-- The reader is still in `WaitCommEvent` when `UninitCOM` gives up waiting, and
    the port is opened again. -/
def slowExitRun : List Act :=
  openRun ++ [.reader 0 yes, .uninitCOM, .caller true, .caller true] ++ openRun

/-- Right after `InitCOM` has returned true there may be no reader, or two. -/
theorem no_reader_or_two :
    (¬ ∀ s, Reachable step always initial s → OneReader s) ∧
      ∃ s, Reachable step always initial s ∧ s.caller = .opened ∧
        s.readers.countP (receiving s) = 2 :=
  ⟨not_forall_reachable earlyTestRun (by decide),
    _, reachable_final slowExitRun, by decide, by decide⟩

/-! The receive queue. -/

/-- What the device has sent is what the reads returned, in order, and then what
    is still in the queue. -/
def AllReceived (s : State) : Prop :=
  s.hCom = true → s.sent = s.reads.flatten ++ s.rx

instance (s : State) : Decidable (AllReceived s) :=
  inferInstanceAs (Decidable (_ → _))

/-- A reader's `PurgeComm` finds nothing to throw away. -/
def purgesEmpty (s : State) : Act → Bool
  | .reader i _ =>
    match s.readers[i]? with
    | some r => !decide (r.pc = .purge) || !s.hCom || s.rx.isEmpty
    | none => true
  | _ => true

theorem allReceived_reader {s : State} {r : Reader} (i : Nat) (a : Answer)
    (hi : AllReceived s) (hg : purgesEmpty s (.reader i a) = true)
    (hr : s.readers[i]? = some r) : AllReceived (readerStep s i a r) := by
  intro ho
  rw [readerStep_hCom] at ho
  rw [readerStep_sent, hi ho]
  show s.reads.flatten ++ s.rx = (shared s a r).reads.flatten ++ (shared s a r).rx
  unfold shared
  split
  · -- ReadFile: the bytes go from the queue to the result
    rw [if_pos ho]
    dsimp only
    rw [List.flatten_append, List.flatten_singleton, List.append_assoc, List.take_append_drop]
  · split <;> rfl
  · next hpc =>
    have hempty : s.rx = [] := by simpa [purgesEmpty, hr, hpc, ho] using hg
    rw [if_pos ho, hempty]
  · split <;> rfl
  · rfl

theorem allReceived_preserved : Preserved step purgesEmpty initial AllReceived := by
  refine preserved_of_steps (fun _ => rfl) ?_ ?_ ?_ ?_ ?_
  · intro s opens hi _ ho
    cases opens with
    | true => rfl
    | false => cases ho
  · intro s hi ho
    exact hi ho
  · intro s s' created hi _ h
    cases hpc : s.caller with
    | closed => rw [hpc] at h; cases h
    | opened => rw [hpc] at h; cases h
    | closeHandle => rw [hpc] at h; cases h; exact fun ho => (nomatch ho)
    | _ => rw [hpc] at h; cases h; exact hi
  · intro s r i a hi hg hr _
    exact allReceived_reader i a hi hg hr
  · intro s bytes hi ho
    unfold device at ho ⊢
    split
    · next hc =>
      show s.sent ++ bytes = s.reads.flatten ++ (s.rx ++ bytes)
      rw [hi hc, List.append_assoc]
    · next hc =>
      rw [if_neg hc] at ho
      exact hi ho

/-- No byte is lost while the port is open, in every run whose purges find the
    queue empty. -/
theorem received_of_purges_empty (s : State) (h : Reachable step purgesEmpty initial s) :
    AllReceived s :=
  h.holds allReceived_preserved

/-- The steps of a reader from the test to its `ReadFile`. -/
def readRun : List Act := List.replicate 4 (.reader 0 yes)

/-- A card comes in one piece. -/
def onePieceRun : List Act :=
  openRun ++ [.device (lit "11223344556677889900AABBCCDDEEFF")] ++ readRun ++ readRun

theorem one_piece_received :
    (final step purgesEmpty initial onePieceRun).readinfo =
        lit "11223344556677889900AABBCCDDEEFF" ∧
      AllReceived (final step purgesEmpty initial onePieceRun) :=
  ⟨by decide +kernel, received_of_purges_empty _ (reachable_final onePieceRun)⟩

/-- A card comes in two pieces, the second one after the `ReadFile` of the first. -/
def twoPiecesRun : List Act :=
  openRun ++ [.device (lit "1122334455667788")] ++ readRun ++
    [.device (lit "9900AABBCCDDEEFF")] ++ [.reader 0 yes, .reader 0 yes]

/-- The second piece is in the queue when the reader purges it. -/
theorem purge_loses : ¬ ∀ s, Reachable step always initial s → AllReceived s :=
  not_forall_reachable twoPiecesRun (by decide +kernel)

end CardLogon.SerialPort
