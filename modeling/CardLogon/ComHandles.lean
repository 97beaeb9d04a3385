import CardLogon.Ledger
import CardLogon.Terminal

/- The handles of the serial port.

   `ComAsy` keeps five: the port, an event for each of the three OVERLAPPEDs, and the reader
   thread. `InitCOM` writes them without a look at what is there, and `UninitCOM` closes
   those that are set. The one object of the process serves all its sessions: the port is
   opened in `Initialize` and again after each `UninitCOM` of the reconnect branch, and
   closed at the end of a session. Each call that makes a handle may fail.

   A session can also be given up before its loop begins: when CreateThread or the
   `Initialize` of a tile fails, `SetUsageScenario` deletes the window, and so does the
   provider's destructor. Nothing closes the port then, and the next `Initialize` opens it
   once more. No run of the terminal has such sessions; here they are steps of their own.

   What is proved: `com_handles`. In every run, whatever the other threads do, each handle
   is held by one member and not closed, or was closed once, or was written over; at most
   five are written over for each session given up, and none otherwise; and between two
   sessions all the others are closed, unless a session has been given up since. -/
namespace CardLogon
open GuardedRun Ledger

/-- The members of `ComAsy` that hold a handle. -/
inductive ComHandle where
  | hCom
  | ovRead
  | ovWrite
  | ovWait
  | thread
  deriving DecidableEq

instance : Fintype ComHandle where
  elems := {.hCom, .ovRead, .ovWrite, .ovWait, .thread}
  complete := by
    intro k
    cases k <;> decide

/-- `InitCOM` up to `SetCommMask`: whether CreateFile succeeds, and CreateEvent for each
    OVERLAPPED. -/
def openHandles (b : Book ComHandle) (opens : Bool) (creates : ComHandle → Bool) : Book ComHandle :=
  if opens then
    (((b.acquire .hCom true).acquire .ovRead (creates .ovRead)).acquire
      .ovWrite (creates .ovWrite)).acquire .ovWait (creates .ovWait)
  else b.acquire .hCom false

/-- One of the tests of `UninitCOM`. -/
def closeHandle (b : Book ComHandle) (k : ComHandle) : Book ComHandle :=
  if b.slots k = .empty then b else b.replace k false

def uninitHandles (b : Book ComHandle) : Book ComHandle :=
  [.hCom, .ovRead, .ovWrite, .ovWait, .thread].foldl closeHandle b

/-- What a step of the logon thread does to the handles. -/
def comStep (b : Book ComHandle) (a : Answer) (creates : ComHandle → Bool) :
    LogonPc → Book ComHandle
  | .openPort _ => openHandles b a.ok creates
  | .spawn _ => b.acquire .thread a.ok
  | .uninitAccepted | .uninitReconnect => uninitHandles b
  | _ => b

/-- The logon thread calls `UninitCOM`. -/
def closesPort : LogonPc → Bool
  | .uninitAccepted | .uninitReconnect => true
  | _ => false

/-- The terminal and the handles; how many sessions were given up, and whether one was since
    the last `UninitCOM`. -/
structure PortHandles where
  term : State
  com : Book ComHandle
  givenUp : Nat
  leftOpen : Bool

def PortHandles.initial : PortHandles := ⟨CardLogon.initial, .empty, 0, false⟩

/-- A step of the terminal, with what CreateEvent answers; or a session ends with the window
    deleted. -/
inductive PortAct where
  | term (act : Act) (creates : ComHandle → Bool)
  | giveUp

def PortHandles.step (p : PortHandles) : PortAct → Option PortHandles
  | .term act creates =>
    (CardLogon.step p.term act).map fun s =>
      match act with
      | .logon a =>
        { p with
          term := s
          com := comStep p.com a creates p.term.logon
          leftOpen := p.leftOpen && !closesPort p.term.logon }
      | _ => { p with term := s }
  -- after the InitCOM of `Initialize`, before the first look for a card
  | .giveUp =>
    if p.term.logon = .head ∧ p.term.initialization = true then
      some { p with
        term := { p.term with logon := .idle }
        givenUp := p.givenUp + 1
        leftOpen := true }
    else none

/-! What the two calls do. -/

section
variable {b : Book ComHandle}

theorem closeHandle_self (b : Book ComHandle) (k : ComHandle) : (closeHandle b k).slots k = .empty := by
  unfold closeHandle
  split
  · assumption
  · rw [replace_slots_self]
    rfl

theorem closeHandle_empty {j : ComHandle} (h : b.slots j = .empty) (k : ComHandle) :
    (closeHandle b k).slots j = .empty := by
  by_cases hj : j = k
  · rw [hj]
    exact closeHandle_self b k
  · unfold closeHandle
    split
    · exact h
    · rw [replace_slots_ne b k false hj, h]

/-- What `UninitCOM` goes through is empty afterwards. -/
theorem foldl_closeHandle (ks : List ComHandle) {k : ComHandle} :
    ∀ b : Book ComHandle, b.slots k = .empty ∨ k ∈ ks → (ks.foldl closeHandle b).slots k = .empty := by
  induction ks with
  | nil =>
    intro b h
    exact h.resolve_right List.not_mem_nil
  | cons j ks ih =>
    intro b h
    apply ih
    obtain h | h := h
    · exact .inl (closeHandle_empty h j)
    · obtain rfl | h := List.mem_cons.mp h
      · exact .inl (closeHandle_self b k)
      · exact .inr h

theorem uninitHandles_empty (b : Book ComHandle) (k : ComHandle) :
    (uninitHandles b).slots k = .empty := by
  apply foldl_closeHandle
  cases k <;> exact .inr (by decide)

theorem closeHandle_lost (b : Book ComHandle) (k : ComHandle) : (closeHandle b k).lost = b.lost := by
  unfold closeHandle
  split
  · rfl
  · exact replace_lost b k false

theorem uninitHandles_lost (b : Book ComHandle) : (uninitHandles b).lost = b.lost := by
  unfold uninitHandles
  simp only [List.foldl_cons, List.foldl_nil, closeHandle_lost]

/-- The law holds, and no handle has been given to anybody. -/
structure Tidy (b : Book ComHandle) : Prop where
  sound : b.Sound
  given : b.given = []

theorem Tidy.acquire (h : Tidy b) (k : ComHandle) (ok : Bool) : Tidy (b.acquire k ok) where
  sound := h.sound.acquire k ok
  given := h.given

theorem Tidy.closeHandle (h : Tidy b) (k : ComHandle) : Tidy (closeHandle b k) where
  sound := by
    unfold CardLogon.closeHandle
    split
    · exact h.sound
    · exact h.sound.replace k false
  given := by
    unfold CardLogon.closeHandle
    split
    · exact h.given
    · exact h.given

theorem Tidy.uninitHandles (h : Tidy b) : Tidy (uninitHandles b) :=
  ((((h.closeHandle .hCom).closeHandle .ovRead).closeHandle .ovWrite).closeHandle .ovWait).closeHandle
    .thread

theorem Tidy.openHandles (h : Tidy b) (opens : Bool) (creates : ComHandle → Bool) :
    Tidy (openHandles b opens creates) := by
  unfold CardLogon.openHandles
  split
  · exact (((h.acquire .hCom true).acquire .ovRead _).acquire .ovWrite _).acquire .ovWait _
  · exact h.acquire .hCom false

/-- How many handles are lost when the member is written. -/
def atStake (b : Book ComHandle) (k : ComHandle) : Nat := (b.slots k).held.length

theorem atStake_le (b : Book ComHandle) (k : ComHandle) : atStake b k ≤ 1 := by
  unfold atStake
  cases b.slots k with
  | live n => exact Nat.le_refl 1
  | empty => exact Nat.zero_le 1
  | stale n => exact Nat.zero_le 1

theorem atStake_of_empty {k : ComHandle} (h : b.slots k = .empty) : atStake b k = 0 := by
  unfold atStake
  rw [h]
  rfl

theorem acquire_lost_length (b : Book ComHandle) (k : ComHandle) (ok : Bool) :
    (b.acquire k ok).lost.length = atStake b k + b.lost.length := List.length_append

theorem atStake_acquire_ne (b : Book ComHandle) {j k : ComHandle} (ok : Bool) (h : j ≠ k) :
    atStake (b.acquire k ok) j = atStake b j := by
  unfold atStake
  rw [acquire_slots_ne b k ok h]

/-- `InitCOM` loses at most what four of the members hold, and leaves the fifth. -/
theorem openHandles_lost (b : Book ComHandle) (opens : Bool) (creates : ComHandle → Bool) :
    (openHandles b opens creates).lost.length ≤
        b.lost.length + atStake b .hCom + atStake b .ovRead + atStake b .ovWrite +
          atStake b .ovWait ∧
      atStake (openHandles b opens creates) .thread = atStake b .thread := by
  unfold openHandles
  cases opens with
  | false =>
    rw [if_neg Bool.false_ne_true, acquire_lost_length, atStake_acquire_ne b _ (by decide)]
    exact ⟨by omega, rfl⟩
  | true =>
    rw [if_pos rfl]
    simp only [acquire_lost_length]
    simp only [atStake_acquire_ne _ _ (show ComHandle.ovWait ≠ .ovWrite by decide),
      atStake_acquire_ne _ _ (show ComHandle.ovWait ≠ .ovRead by decide),
      atStake_acquire_ne _ _ (show ComHandle.ovWait ≠ .hCom by decide),
      atStake_acquire_ne _ _ (show ComHandle.ovWrite ≠ .ovRead by decide),
      atStake_acquire_ne _ _ (show ComHandle.ovWrite ≠ .hCom by decide),
      atStake_acquire_ne _ _ (show ComHandle.ovRead ≠ .hCom by decide),
      atStake_acquire_ne _ _ (show ComHandle.thread ≠ .ovWait by decide),
      atStake_acquire_ne _ _ (show ComHandle.thread ≠ .ovWrite by decide),
      atStake_acquire_ne _ _ (show ComHandle.thread ≠ .ovRead by decide),
      atStake_acquire_ne _ _ (show ComHandle.thread ≠ .hCom by decide)]
    exact ⟨by omega, trivial⟩

end

/-! The runs. -/

/-- Each session given up pays for five handles. -/
def Paid (b : Book ComHandle) (atRisk givenUp : Nat) : Prop := b.lost.length + atRisk ≤ 5 * givenUp

/-- What the members hold where the logon thread stands, and what may still be lost there:
    all of it where `InitCOM` comes next and a session was given up, the thread within. -/
def comOk (b : Book ComHandle) (leftOpen : Bool) (givenUp : Nat) : LogonPc → Prop
  | .idle | .openPort _ | .connect | .wipeCar | .wipeNames | .wipeNick =>
    (leftOpen = false → ∀ k, b.slots k = .empty) ∧ Paid b (if leftOpen then 5 else 0) givenUp
  | .spawn _ => Paid b (atStake b .thread) givenUp
  | _ => Paid b 0 givenUp

structure PortHandles.Inv (p : PortHandles) : Prop where
  tidy : Tidy p.com
  comOk : comOk p.com p.leftOpen p.givenUp p.term.logon
  leftOpen : p.leftOpen = true → p.givenUp ≠ 0
  connected : p.term.fConnected = true → pastLoop p.term.logon = true

/-- Wherever it stands, what is lost is paid. -/
theorem comOk.paid {b : Book ComHandle} {leftOpen : Bool} {givenUp : Nat} {pc : LogonPc}
    (h : CardLogon.comOk b leftOpen givenUp pc) : Paid b 0 givenUp := by
  have hle : ∀ n, Paid b n givenUp → Paid b 0 givenUp := by
    intro n hn
    unfold Paid at hn ⊢
    omega
  cases pc with
  | idle | openPort c | connect | wipeCar | wipeNames | wipeNick => exact hle _ h.2
  | spawn c => exact hle _ h
  | _ => exact h

/-- `InitCOM` up to the thread. -/
theorem comOk.openPort {b : Book ComHandle} {leftOpen : Bool} {givenUp : Nat} {c : Caller}
    (h : CardLogon.comOk b leftOpen givenUp (.openPort c)) (opens : Bool)
    (creates : ComHandle → Bool) :
    Paid (openHandles b opens creates) (atStake (openHandles b opens creates) .thread) givenUp := by
  obtain ⟨hempty, hpaid⟩ := h
  obtain ⟨hlost, hthread⟩ := openHandles_lost b opens creates
  unfold Paid at hpaid ⊢
  rw [hthread]
  cases leftOpen with
  | false =>
    have hnone : ∀ k, atStake b k = 0 := fun k => atStake_of_empty (hempty rfl k)
    simp only [hnone, Bool.false_eq_true, if_false] at hlost hpaid ⊢
    omega
  | true =>
    have h₁ := atStake_le b .hCom
    have h₂ := atStake_le b .ovRead
    have h₃ := atStake_le b .ovWrite
    have h₄ := atStake_le b .ovWait
    have h₅ := atStake_le b .thread
    simp only [if_true] at hpaid
    omega

theorem comOk_logon {s : State} {b : Book ComHandle} {leftOpen : Bool} {givenUp : Nat}
    (hb : Tidy b) (hok : comOk b leftOpen givenUp s.logon)
    (hconn : s.fConnected = true → pastLoop s.logon = true) (a : Answer)
    (creates : ComHandle → Bool) :
    Tidy (comStep b a creates s.logon) ∧
      comOk (comStep b a creates s.logon) (leftOpen && !closesPort s.logon) givenUp
        (logonStep s a s.logon).logon := by
  have hpaid := hok.paid
  cases hpc : s.logon with
  | idle =>
    rw [hpc] at hok
    refine ⟨hb, ?_⟩
    rw [show (leftOpen && !closesPort .idle) = leftOpen from Bool.and_true leftOpen]
    exact hok
  | openPort c =>
    rw [hpc] at hok
    have hpaid' := hok.openPort a.ok creates
    refine ⟨hb.openHandles a.ok creates, ?_⟩
    simp only [logonStep]
    split
    · exact hpaid'
    · exact (Nat.le_add_right _ _).trans hpaid'
  | spawn c =>
    rw [hpc] at hok
    refine ⟨hb.acquire .thread a.ok, ?_⟩
    show (b.acquire .thread a.ok).lost.length + 0 ≤ _
    rw [acquire_lost_length, Nat.add_zero, Nat.add_comm]
    exact hok
  | setOpen c =>
    refine ⟨hb, ?_⟩
    cases c <;> exact hpaid
  | head =>
    refine ⟨hb, ?_⟩
    have hno : s.fConnected = false := by
      cases hc : s.fConnected with
      | false => rfl
      | true =>
        have hpast := hconn hc
        rw [hpc] at hpast
        cases hpast
    simp only [logonStep, hno]
    exact hpaid
  | uninitAccepted | uninitReconnect =>
    refine ⟨hb.uninitHandles, ?_⟩
    simp only [comStep, closesPort, Bool.not_true, Bool.and_false, logonStep]
    refine ⟨fun _ k => uninitHandles_empty b k, ?_⟩
    unfold Paid
    rw [uninitHandles_lost]
    exact hpaid
  | connect | wipeCar | wipeNames | wipeNick =>
    rw [hpc] at hok
    refine ⟨hb, ?_⟩
    simp only [closesPort, Bool.not_false, Bool.and_true]
    exact hok
  | infoOk p =>
    refine ⟨hb, ?_⟩
    simp only [logonStep]
    split
    · exact hpaid
    · cases p <;> exact hpaid
  | copyAudit p k =>
    refine ⟨hb, ?_⟩
    simp only [logonStep]
    split
    · exact hpaid
    · cases p <;> exact hpaid
  | query =>
    refine ⟨hb, ?_⟩
    simp only [logonStep]
    split <;> exact hpaid
  | _ =>
    refine ⟨hb, ?_⟩
    simp only [logonStep]
    first
    | exact hpaid
    | (split <;> exact hpaid)

theorem portHandles_preserved : Preserved PortHandles.step always .initial PortHandles.Inv where
  init := ⟨⟨sound_empty, rfl⟩, ⟨fun _ _ => rfl, Nat.le_refl 0⟩, (fun h => nomatch h),
    (fun h => nomatch h)⟩
  step := by
    intro p p' x hi _ h
    cases x with
    | term act creates =>
      obtain ⟨s, hs, rfl⟩ := Option.map_eq_some_iff.mp h
      obtain ⟨a, rfl, rfl⟩ | ⟨a, rfl, hw⟩ | ⟨i, a, r, rfl, hr, rfl⟩ | ⟨m, rfl, rfl⟩ |
        ⟨bytes, rfl, rfl⟩ := step_cases hs
      · obtain ⟨htidy, hok⟩ := comOk_logon hi.tidy hi.comOk hi.connected a creates
        refine ⟨htidy, hok, fun hleft => hi.leftOpen ?_, pastLoop_logon hi.connected a⟩
        exact (Bool.and_eq_true_iff.mp hleft).1
      · have hlogon := (windowStep_frame hw).logon
        refine ⟨hi.tidy, ?_, hi.leftOpen, ?_⟩
        · show comOk p.com p.leftOpen p.givenUp s.logon
          rw [hlogon]
          exact hi.comOk
        · show s.fConnected = true → pastLoop s.logon = true
          rw [hlogon, windowStep_fConnected hw]
          exact hi.connected
      · obtain ⟨rx, rs, ht | ht | ht | ⟨card, ht⟩⟩ := readerStep_cases p.term a i r r.pc
        all_goals
          rw [ht]
          exact ⟨hi.tidy, hi.comOk, hi.leftOpen, hi.connected⟩
      · exact ⟨hi.tidy, hi.comOk, hi.leftOpen, hi.connected⟩
      · exact ⟨hi.tidy, hi.comOk, hi.leftOpen, hi.connected⟩
    | giveUp =>
      simp only [PortHandles.step] at h
      split at h
      · cases h
        have hpaid := hi.comOk.paid
        refine ⟨hi.tidy, ⟨(fun h => nomatch h), ?_⟩, fun _ => Nat.succ_ne_zero _, fun _ => rfl⟩
        unfold Paid at hpaid ⊢
        simp only [if_true]
        omega
      · cases h

/-- In every run each handle is held by one member, was closed once or was written over; at
    most five are written over for each session that was given up. Between two sessions all
    the others are closed, unless a session was given up since the last `UninitCOM`. -/
theorem com_handles (p : PortHandles) (h : Reachable PortHandles.step always .initial p) :
    (∀ n < p.com.next, holders p.com.slots n + p.com.released.count n + p.com.lost.count n = 1) ∧
      p.com.lost.length ≤ 5 * p.givenUp ∧
      (p.leftOpen = true → p.givenUp ≠ 0) ∧
      (p.term.logon = .idle → p.leftOpen = false →
        ∀ n < p.com.next, p.com.released.count n + p.com.lost.count n = 1) := by
  have hi : p.Inv := h.holds portHandles_preserved
  have hlaw : ∀ n < p.com.next,
      holders p.com.slots n + p.com.released.count n + p.com.lost.count n = 1 := by
    intro n hn
    have hacc := hi.tidy.sound.accounted n
    rw [hi.tidy.given, if_pos hn] at hacc
    simpa using hacc
  refine ⟨hlaw, hi.comOk.paid, hi.leftOpen, fun hidle hleft n hn => ?_⟩
  have hempty := hi.comOk
  rw [hidle] at hempty
  have hnone : holders p.com.slots n = 0 := by
    apply holders_of_none
    intro k
    rw [hempty.1 hleft k]
    rfl
  have hone := hlaw n hn
  rwa [hnone, Nat.zero_add] at hone

/-- A session with a reconnect, up to its end: CreateEvent fails once. -/
def reconnectRun : List PortAct :=
  (logons 18 yes ++ readers 4 0 no ++ logons 10 yes ++ cardRun 1 ++ logons 40 yes).map fun act =>
    .term act fun k => k != .ovWrite

theorem reconnect_closes_all :
    ((List.range (final PortHandles.step always .initial reconnectRun).com.next).all fun n =>
      (final PortHandles.step always .initial reconnectRun).com.released.count n == 1) = true := by
  obtain ⟨-, hlost, -, hclosed⟩ := com_handles _ (reachable_final reconnectRun)
  have hnone : (final PortHandles.step always .initial reconnectRun).com.lost = [] :=
    List.eq_nil_of_length_eq_zero (Nat.le_zero.mp (hlost.trans (by decide +kernel)))
  rw [List.all_eq_true]
  intro n hn
  rw [beq_iff_eq]
  have hone := hclosed (by decide +kernel) (by decide +kernel) n (List.mem_range.mp hn)
  rwa [hnone, List.count_nil, Nat.add_zero] at hone

/-- A session given up, and the next `Initialize`: the five handles are written over. -/
def givenUpRun : List PortAct :=
  (logons 4 yes).map (fun act => .term act fun _ => true) ++ [.giveUp] ++
    (logons 4 yes).map fun act => .term act fun _ => true

example : (final PortHandles.step always .initial givenUpRun).com.lost = [4, 3, 2, 1, 0] := by
  decide +kernel

end CardLogon
