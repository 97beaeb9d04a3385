import CardLogon.Simulation
import CardLogon.Terminal

/- The window threads: `_ThreadProc`, the message loop and `_WndProc`.

   The terminal has one window thread with a queue of three messages. Here is what is
   below: every `Initialize` starts a thread, which registers the class and makes the window
   or ends; messages are posted, or come from keyboard and mouse once nothing is posted;
   `_WndProc` and the controls post while a message is dispatched; the switch after it looks
   at the number of the message and at lParam, whatever window it was for. `RegisterClassEx`
   fails for a class that is registered, and nothing unregisters it.

   What else the controls, the system and other programs send is not restricted. Left out:
   text, drawing, what is shown and hidden, and a queue that is full. The windows are taken
   to have handles of their own.

   What is proved:
     1. `desktop_refines`. What the threads do is a run of the terminal: its queue is what
        the message in work and the posted ones come to.
     2. `one_window`. One thread of a process at most gets past the registration.
     3. `stays_locked`. When that thread has ended (`windowGone_of_ended`), no later one gets
        a window, in any continuation; a logon thread that waits for the window waits on. -/
namespace CardLogon
open CText GuardedRun

/-! Messages. -/

/-- The window and its controls. -/
inductive Hwnd where
  | window
  | label
  | edit
  | button
  | buttonBack
  deriving DecidableEq

/-- A message, with the parameters that are looked at; lParam is the handle of one of these,
    or something else. -/
inductive WindowMessage where
  | keyDown (hwnd : Hwnd) (wParam : Nat)
  | bmClick (hwnd : Hwnd) (lParam : Option Hwnd)
  | command (lParam : Option Hwnd)
  | close
  | exitThread
  | other (hwnd : Hwnd)
  deriving DecidableEq

def vkReturn : Nat := 13

/-- What the switch of `_ProcessNextMessage` takes a message for. -/
def WindowMessage.msg : WindowMessage → Option Msg
  | .keyDown _ wParam => if wParam = vkReturn then some .enter else none
  | .bmClick _ (some .button) => some .login
  | .bmClick _ (some .buttonBack) => some .back
  | _ => none

/-- What the system does while a message is dispatched: the controls that notify the window,
    and whether it is closed. -/
structure DispatchOutcome where
  notified : List Hwnd
  closed : Bool

/-- WM_COMMAND of a control, as `_WndProc` posts it on. -/
def commandPost (lParam : Option Hwnd) : WindowMessage := .bmClick .window lParam

/-- What is posted by `DispatchMessage`. -/
def dispatchMessage (o : DispatchOutcome) : WindowMessage → List WindowMessage
  | .command lParam => [commandPost lParam]
  | .close => [.exitThread]
  -- a button that is sent BM_CLICK notifies the window
  | .bmClick .button _ => [commandPost (some .button)]
  | .bmClick .buttonBack _ => [commandPost (some .buttonBack)]
  -- DefWindowProc, and the other messages to controls
  | .other .window => if o.closed then [.exitThread] else []
  | .keyDown .window _ => []
  | .other _ | .keyDown _ _ => o.notified.map fun c => commandPost (some c)
  | _ => []

/-- Keyboard and mouse. -/
def WindowMessage.hardware : WindowMessage → Bool
  | .keyDown _ _ | .other _ => true
  | _ => false

/-! Threads. -/

/-- Where a thread stands in `_ThreadProc`; the argument is the message it has got. An ended
    one had registered the class, or not. -/
inductive ThreadPc where
  | threadProc
  | registerClass
  | initInstance
  | getMessage
  | dispatch (msg : WindowMessage)
  | switch (msg : WindowMessage)
  | handler
  | ended (registered : Bool)
  deriving DecidableEq

/-- The thread has registered the class. -/
def ThreadPc.registered : ThreadPc → Bool
  | .threadProc | .registerClass => false
  | .ended registered => registered
  | _ => true

/-- It has a window. -/
def ThreadPc.open : ThreadPc → Bool
  | .threadProc | .registerClass | .ended _ => false
  | _ => true

/-- The message that it works on and that the switch has not seen yet. -/
def ThreadPc.pending : ThreadPc → List WindowMessage
  | .dispatch msg | .switch msg => [msg]
  | _ => []

/-- The terminal, with its window threads and their messages. There is at most one window
    (`one_window`), so there is one queue; that of `term` is not used. -/
structure Desktop where
  term : State
  starting : Bool
  classRegistered : Bool
  threads : List ThreadPc
  posted : List WindowMessage
  input : List WindowMessage

def Desktop.initial : Desktop where
  term := CardLogon.initial
  starting := false
  classRegistered := false
  threads := []
  posted := []
  input := []

def Desktop.setThread (d : Desktop) (i : Nat) (t : ThreadPc) : Desktop :=
  { d with threads := d.threads.set i t }

def Desktop.post (d : Desktop) (ms : List WindowMessage) : Desktop :=
  { d with posted := d.posted ++ ms }

/-- The end of InitCOM in `Initialize`; the thread is created next. -/
def endsInitCOM (a : Answer) : LogonPc → Bool
  | .openPort .boot => !a.ok
  | .setOpen .boot => true
  | _ => false

/-- The switch of `_ProcessNextMessage`, in thread `i`. -/
def switchStep (d : Desktop) (a : Answer) (i : Nat) : WindowMessage → Desktop
  | .exitThread => d.setThread i (.ended true)
  | .keyDown hwnd wParam =>
    if wParam = vkReturn then (d.post [.bmClick hwnd (some .button)]).setThread i .getMessage
    else d.setThread i .getMessage
  -- the handlers are those of the terminal
  | .bmClick _ (some .button) =>
    { d with term := { d.term with getUpw := (cstr a.text).take 1023, window := .click } }.setThread
      i .handler
  | .bmClick _ (some .buttonBack) =>
    { d with term := { d.term with window := .back1 } }.setThread i .handler
  | _ => d.setThread i .getMessage

/-- One step of thread `i`. -/
def threadStep (d : Desktop) (a : Answer) (o : DispatchOutcome) (i : Nat) : ThreadPc → Option Desktop
  | .threadProc => some (d.setThread i (if a.ok then .registerClass else .ended false))
  | .registerClass =>
    if a.ok ∧ d.classRegistered = false then
      some ({ d with classRegistered := true }.setThread i .initInstance)
    else some (d.setThread i (.ended false))
  | .initInstance => some (d.setThread i (if a.ok then .getMessage else .ended true))
  -- posted messages come before the input
  | .getMessage =>
    match d.posted, d.input with
    | msg :: posted, _ => some ({ d with posted := posted }.setThread i (.dispatch msg))
    | [], msg :: input => some ({ d with input := input }.setThread i (.dispatch msg))
    | [], [] => none
  | .dispatch msg => some ((d.post (dispatchMessage o msg)).setThread i (.switch msg))
  | .switch msg => some (switchStep d a i msg)
  -- the edit box notifies the window when its text is set
  | .handler =>
    (windowStep d.term a d.term.window).map fun s =>
      ({ d with term := s }.post (List.replicate a.count (commandPost (some .edit)))).setThread i
        (if s.window = WindowPc.idle then .getMessage else .handler)
  | .ended _ => none

inductive DesktopAct where
  | logon (a : Answer)
  | reader (i : Nat) (a : Answer)
  | arrive (bytes : Bytes)
  | createThread (ok : Bool)
  | thread (i : Nat) (a : Answer) (o : DispatchOutcome)
  | postMessage (msg : WindowMessage)
  | hardware (msg : WindowMessage)

def Desktop.step (d : Desktop) : DesktopAct → Option Desktop
  | .logon a =>
    if d.starting then none
    else some { d with
      term := logonStep d.term a d.term.logon
      starting := endsInitCOM a d.term.logon }
  | .reader i a => (CardLogon.step d.term (.reader i a)).map fun s => { d with term := s }
  | .arrive bytes => (CardLogon.step d.term (.arrive bytes)).map fun s => { d with term := s }
  | .createThread ok =>
    if d.starting then
      some { d with
        starting := false
        threads := if ok then d.threads ++ [.threadProc] else d.threads }
    else none
  | .thread i a o => (d.threads[i]?).bind fun t => threadStep d a o i t
  | .postMessage msg => if d.threads.any ThreadPc.open then some (d.post [msg]) else none
  | .hardware msg =>
    if d.threads.any ThreadPc.open ∧ msg.hardware = true then
      some { d with input := d.input ++ [msg] }
    else none

/-! The terminal that is seen. -/

/-- The messages that the switch has not seen. -/
def Desktop.unseen (d : Desktop) : List WindowMessage :=
  d.threads.flatMap ThreadPc.pending ++ d.posted

/-- The terminal with another queue. -/
def State.setQueue (s : State) (q : List Msg) : State := { s with queue := q }

/-- The terminal, with what the messages come to in its queue. -/
def Desktop.terminal (d : Desktop) : State :=
  d.term.setQueue (d.unseen.filterMap WindowMessage.msg)

/-! The invariant. -/

/-- Thread `i` has registered the class, and no other thread; in its handler the terminal's
    window thread is at work, and only there. -/
structure Desktop.Owned (d : Desktop) (i : Nat) (t : ThreadPc) : Prop where
  thread : d.threads[i]? = some t
  registered : t.registered = true
  handler : t = .handler ↔ d.term.window ≠ .idle
  others : ∀ j u, d.threads[j]? = some u → j ≠ i → u.registered = false

/-- Nobody has registered the class. -/
structure Desktop.Free (d : Desktop) : Prop where
  threads : ∀ (j : Nat) (u : ThreadPc), d.threads[j]? = some u → u.registered = false
  window : d.term.window = .idle

def Desktop.Inv (d : Desktop) : Prop :=
  (d.classRegistered = false ∧ d.Free) ∨ (d.classRegistered = true ∧ ∃ i t, d.Owned i t)

theorem pending_of_unregistered {t : ThreadPc} (h : t.registered = false) : t.pending = [] := by
  cases t with
  | dispatch msg => cases h
  | switch msg => cases h
  | _ => rfl

/-- What is gathered from a list of threads when only one has registered. -/
theorem flatMap_of_others {β : Type} {f : ThreadPc → List β}
    (hf : ∀ u : ThreadPc, u.registered = false → f u = []) {ts : List ThreadPc} {i : Nat}
    {t : ThreadPc} (ht : ts[i]? = some t)
    (h : ∀ j u, ts[j]? = some u → j ≠ i → u.registered = false) : ts.flatMap f = f t := by
  induction ts generalizing i with
  | nil => cases ht
  | cons u ts ih =>
    rw [List.flatMap_cons]
    cases i with
    | zero =>
      obtain rfl : u = t := Option.some.inj ht
      have hrest : ts.flatMap f = [] := by
        rw [List.flatMap_eq_nil_iff]
        intro v hv
        obtain ⟨j, hj⟩ := List.mem_iff_getElem?.mp hv
        exact hf v (h (j + 1) v hj (Nat.succ_ne_zero j))
      rw [hrest, List.append_nil]
    | succ i =>
      have hu : f u = [] := hf u (h 0 u rfl (Nat.succ_ne_zero i).symm)
      rw [hu, List.nil_append]
      apply ih ht
      intro j v hv hj
      exact h (j + 1) v hv (fun heq => hj (Nat.succ.inj heq))

/-- A thread goes on with the same message, or with none as before. -/
theorem flatMap_pending_set {ts : List ThreadPc} {i : Nat} {t t' : ThreadPc}
    (ht : ts[i]? = some t) (h : t'.pending = t.pending) :
    (ts.set i t').flatMap ThreadPc.pending = ts.flatMap ThreadPc.pending := by
  induction ts generalizing i with
  | nil => rfl
  | cons u ts ih =>
    cases i with
    | zero =>
      obtain rfl : u = t := Option.some.inj ht
      rw [List.set_cons_zero, List.flatMap_cons, List.flatMap_cons, h]
    | succ i => rw [List.set_cons_succ, List.flatMap_cons, List.flatMap_cons, ih ht]

/-- The others after a step of thread `i`. -/
theorem getElem?_set_other {ts : List ThreadPc} {i j : Nat} {t' u : ThreadPc}
    (h : (ts.set i t')[j]? = some u) (hj : j ≠ i) : ts[j]? = some u := by
  rwa [List.getElem?_set_ne hj.symm] at h

theorem getElem?_set_this {ts : List ThreadPc} {i : Nat} {t t' : ThreadPc}
    (ht : ts[i]? = some t) : (ts.set i t')[i]? = some t' := by
  obtain ⟨hlt, -⟩ := List.getElem?_eq_some_iff.mp ht
  exact List.getElem?_set_self hlt

section
variable {d d' : Desktop} {i : Nat} {t t' : ThreadPc}

/-- The thread that has registered goes on. -/
theorem Desktop.Owned.set (h : d.Owned i t) (hthreads : d'.threads = d.threads.set i t')
    (hregistered : t'.registered = true) (hhandler : t' = .handler ↔ d'.term.window ≠ .idle) :
    d'.Owned i t' where
  thread := by
    rw [hthreads]
    exact getElem?_set_this h.thread
  registered := hregistered
  handler := hhandler
  others := by
    intro j u hu hj
    rw [hthreads] at hu
    exact h.others j u (getElem?_set_other hu hj) hj

theorem Desktop.Inv.owned (h : d.Inv) (ht : d.threads[i]? = some t)
    (hregistered : t.registered = true) : d.classRegistered = true ∧ d.Owned i t := by
  obtain ⟨-, hfree⟩ | ⟨hclass, j, u, hown⟩ := h
  · have hno := hfree.threads i t ht
    rw [hregistered] at hno
    cases hno
  · by_cases hj : i = j
    · subst hj
      obtain rfl : u = t := Option.some.inj (hown.thread.symm.trans ht)
      exact ⟨hclass, hown⟩
    · have hno := hown.others i t ht hj
      rw [hregistered] at hno
      cases hno

/-- A thread that has not registered goes on without. -/
theorem Desktop.Inv.set_unregistered (h : d.Inv) (ht : d.threads[i]? = some t)
    (htr : t.registered = false) (htr' : t'.registered = false) : (d.setThread i t').Inv := by
  have hothers : ∀ j u, (d.threads.set i t')[j]? = some u →
      u.registered = false ∨ (j ≠ i ∧ d.threads[j]? = some u) := by
    intro j u hu
    by_cases hj : j = i
    · subst hj
      obtain rfl : t' = u := Option.some.inj ((getElem?_set_this ht).symm.trans hu)
      exact .inl htr'
    · exact .inr ⟨hj, getElem?_set_other hu hj⟩
  obtain ⟨hclass, hfree⟩ | ⟨hclass, j, u, hown⟩ := h
  · refine .inl ⟨hclass, ⟨?_, hfree.window⟩⟩
    intro k v hv
    obtain hv | ⟨-, hv⟩ := hothers k v hv
    · exact hv
    · exact hfree.threads k v hv
  · have hji : j ≠ i := by
      rintro rfl
      obtain rfl : u = t := Option.some.inj (hown.thread.symm.trans ht)
      rw [hown.registered] at htr
      cases htr
    refine .inr ⟨hclass, j, u, ?_, hown.registered, hown.handler, ?_⟩
    · show (d.threads.set i t')[j]? = some u
      rw [List.getElem?_set_ne hji.symm]
      exact hown.thread
    · intro k v hv hk
      obtain hv | ⟨-, hv⟩ := hothers k v hv
      · exact hv
      · exact hown.others k v hv hk

/-- The first thread to register. -/
theorem Desktop.Free.register (h : d.Free) (ht : d.threads[i]? = some t) :
    ({ d with classRegistered := true }.setThread i .initInstance).Owned i .initInstance where
  thread := getElem?_set_this ht
  registered := rfl
  handler := ⟨fun h => (nomatch h), fun hw => absurd h.window hw⟩
  others := by
    intro j u hu hj
    exact h.threads j u (getElem?_set_other hu hj)

/-- Nothing that the invariant looks at has changed. -/
theorem Desktop.Inv.congr (h : d.Inv) (hclass : d'.classRegistered = d.classRegistered)
    (hthreads : d'.threads = d.threads) (hwindow : d'.term.window = d.term.window) : d'.Inv := by
  unfold Desktop.Inv at h ⊢
  rw [hclass]
  refine h.imp (fun ⟨hc, hfree⟩ => ⟨hc, ?_, ?_⟩) (fun ⟨hc, i, t, hown⟩ => ⟨hc, i, t, ?_, hown.registered, ?_, ?_⟩)
  · rw [hthreads]
    exact hfree.threads
  · rw [hwindow]
    exact hfree.window
  · rw [hthreads]
    exact hown.thread
  · rw [hwindow]
    exact hown.handler
  · rw [hthreads]
    exact hown.others

end

/-! The steps of the terminal do not look at the queue, but for the next message. -/

theorem logonStep_queue (s : State) (a : Answer) (q : List Msg) (pc : LogonPc) :
    logonStep (s.setQueue q) a pc = (logonStep s a pc).setQueue q := by
  cases pc with
  | openPort c => cases h : a.ok <;> simp [logonStep, State.setQueue, h]
  | setOpen c => cases c <;> rfl
  | ping => cases h : a.ok <;> simp [logonStep, State.setQueue, h]
  | infoOk p => cases h : s.isOK <;> cases p <;> simp [logonStep, State.setQueue, h]
  | check =>
    by_cases h : (cstr s.readinfo).length = cardLen
    · simp [logonStep, State.setQueue, h]
    · simp [logonStep, State.setQueue, h]
  | _ => rfl

theorem readerStep_queue (s : State) (a : Answer) (q : List Msg) (i : Nat) (r : Reader)
    (pc : ReaderPc) :
    readerStep (s.setQueue q) a i r pc = (readerStep s a i r pc).setQueue q := by
  cases pc with
  | append data =>
    cases h : (recvChunk r.tempReadinfo data a.text).2 with
    | none => simp [readerStep, State.setQueue, State.setReader, h]
    | some card => simp [readerStep, State.setQueue, State.setReader, h]
  | _ => rfl

theorem windowStep_queue {s : State} {a : Answer} {pc : WindowPc} (h : pc ≠ .idle) (q : List Msg) :
    windowStep (s.setQueue q) a pc = (windowStep s a pc).map fun s' => s'.setQueue q := by
  cases pc with
  | idle => exact absurd rfl h
  | _ => rfl

/-- Messages that arrive one after the other. -/
theorem runFrom_messages (ms : List Msg) (s : State) :
    runFrom step always s (ms.map .message) = some (s.setQueue (s.queue ++ ms)) := by
  induction ms generalizing s with
  | nil =>
    rw [List.map_nil, List.append_nil]
    rfl
  | cons m ms ih =>
    show runFrom step always (s.setQueue (s.queue ++ [m])) (ms.map .message) = _
    rw [ih]
    show some (s.setQueue ((s.queue ++ [m]) ++ ms)) = _
    rw [List.append_assoc, List.singleton_append]

/-! What is seen of a step. -/

section
variable {d d' : Desktop} {i : Nat} {t t' : ThreadPc} {a : Answer} {o : DispatchOutcome}

theorem terminal_owned (h : d.Owned i t) :
    d.terminal = d.term.setQueue ((t.pending ++ d.posted).filterMap WindowMessage.msg) := by
  unfold Desktop.terminal Desktop.unseen
  rw [flatMap_of_others (fun _ => pending_of_unregistered) h.thread h.others]

theorem terminal_setThread (ht : d.threads[i]? = some t) (h : t'.pending = t.pending) :
    (d.setThread i t').terminal = d.terminal := by
  unfold Desktop.terminal Desktop.unseen Desktop.setThread
  rw [flatMap_pending_set ht h]

theorem terminal_post (ms : List WindowMessage) : (d.post ms).terminal =
    d.terminal.setQueue (d.terminal.queue ++ ms.filterMap WindowMessage.msg) := by
  unfold Desktop.terminal Desktop.unseen Desktop.post
  simp only [List.filterMap_append, List.append_assoc, State.setQueue]

/-- The steps of the terminal that a step of the desktop is. -/
def SeenAs (d d' : Desktop) : Prop := ∃ acts, runFrom CardLogon.step always d.terminal acts = some d'.terminal

theorem SeenAs.nothing (h : d'.terminal = d.terminal) : SeenAs d d' := by
  refine ⟨[], ?_⟩
  rw [h]
  rfl

theorem SeenAs.one {b : Act} (h : CardLogon.step d.terminal b = some d'.terminal) : SeenAs d d' :=
  ⟨[b], (runFrom_singleton rfl).trans h⟩

theorem SeenAs.messages (ms : List WindowMessage)
    (h : d'.terminal = d.terminal.setQueue (d.terminal.queue ++ ms.filterMap WindowMessage.msg)) :
    SeenAs d d' := by
  refine ⟨(ms.filterMap WindowMessage.msg).map .message, ?_⟩
  rw [runFrom_messages, h]

/-- The window thread of the terminal is idle, unless the thread is in its handler. -/
theorem Desktop.Owned.idle (h : d.Owned i t) (hne : t ≠ .handler) : d.term.window = .idle := by
  by_contra hw
  exact hne (h.handler.mpr hw)

/-- The thread goes on outside of its handler. -/
theorem Desktop.Owned.set_idle (h : d.Owned i t) (hne : t ≠ .handler)
    (hthreads : d'.threads = d.threads.set i t') (hregistered : t'.registered = true)
    (hne' : t' ≠ .handler) (hwindow : d'.term.window = d.term.window) : d'.Owned i t' := by
  apply h.set hthreads hregistered
  rw [hwindow, h.idle hne]
  exact ⟨fun h' => absurd h' hne', fun hw => absurd rfl hw⟩

/-- The switch, of a thread that has got a message. -/
theorem switchStep_spec {msg : WindowMessage} (h : d.Owned i (.switch msg)) :
    (∃ u, (switchStep d a i msg).Owned i u) ∧ SeenAs d (switchStep d a i msg) := by
  have hidle := h.idle (by simp)
  -- a message that the switch does nothing with
  have hskip : ∀ t' : ThreadPc, t'.registered = true → t' ≠ .handler → t'.pending = [] →
      msg.msg = none → (∃ u, (d.setThread i t').Owned i u) ∧ SeenAs d (d.setThread i t') := by
    intro t' hreg hne hpending hmsg
    have hown : (d.setThread i t').Owned i t' := h.set_idle (by simp) rfl hreg hne rfl
    refine ⟨⟨t', hown⟩, .nothing ?_⟩
    rw [terminal_owned hown, terminal_owned h, hpending]
    show d.term.setQueue (d.posted.filterMap _) = d.term.setQueue ((msg :: d.posted).filterMap _)
    rw [List.filterMap_cons_none hmsg]
  -- a click or Enter: the message is the next one in the queue
  have hclick : ∀ (d' : Desktop) (t' : ThreadPc) (m : Msg), d'.Owned i t' → t'.pending = [] →
      msg.msg = some m →
      windowStep (d.term.setQueue (m :: d.posted.filterMap WindowMessage.msg)) a .idle =
        some (d'.term.setQueue (d'.posted.filterMap WindowMessage.msg)) →
      (∃ u, d'.Owned i u) ∧ SeenAs d d' := by
    intro d' t' m hown hpending hmsg hstep
    refine ⟨⟨t', hown⟩, SeenAs.one (b := .window a) ?_⟩
    rw [terminal_owned hown, terminal_owned h, hpending]
    show windowStep (d.term.setQueue ((msg :: d.posted).filterMap _)) a d.term.window = _
    rw [List.filterMap_cons_some hmsg, hidle]
    exact hstep
  cases msg with
  | exitThread => exact hskip (.ended true) rfl (by simp) rfl rfl
  | close => exact hskip .getMessage rfl (by simp) rfl rfl
  | command lParam => exact hskip .getMessage rfl (by simp) rfl rfl
  | other hwnd => exact hskip .getMessage rfl (by simp) rfl rfl
  | keyDown hwnd wParam =>
    by_cases hkey : wParam = vkReturn
    · have hmsg : (WindowMessage.keyDown hwnd wParam).msg = some .enter := if_pos hkey
      simp only [switchStep, if_pos hkey]
      apply hclick _ .getMessage .enter _ rfl hmsg
      · simp [windowStep, Desktop.setThread, Desktop.post, State.setQueue, WindowMessage.msg, hidle]
      · exact h.set_idle (by simp) rfl rfl (by simp) rfl
    · simp only [switchStep, if_neg hkey]
      exact hskip .getMessage rfl (by simp) rfl (if_neg hkey)
  | bmClick hwnd lParam =>
    cases lParam with
    | none => exact hskip .getMessage rfl (by simp) rfl rfl
    | some c =>
      cases c with
      | button =>
        apply hclick _ .handler .login _ rfl rfl rfl
        exact h.set rfl rfl (by simp [switchStep, Desktop.setThread])
      | buttonBack =>
        apply hclick _ .handler .back _ rfl rfl rfl
        exact h.set rfl rfl (by simp [switchStep, Desktop.setThread])
      | _ => exact hskip .getMessage rfl (by simp) rfl rfl

theorem switchStep_class (d : Desktop) (a : Answer) (i : Nat) (msg : WindowMessage) :
    (switchStep d a i msg).classRegistered = d.classRegistered := by
  unfold switchStep
  split
  · rfl
  · split
    · rfl
    · rfl
  all_goals rfl

/-- The switch does nothing with the edit box's notices. -/
theorem filterMap_edit_notices (n : Nat) :
    (List.replicate n (commandPost (some .edit))).filterMap WindowMessage.msg = [] := by
  rw [List.filterMap_replicate_of_none]
  rfl

/-- A step of a thread keeps the invariant, and is steps of the terminal. -/
theorem threadStep_spec (hi : d.Inv) (ht : d.threads[i]? = some t)
    (h : threadStep d a o i t = some d') : d'.Inv ∧ SeenAs d d' := by
  cases t with
  | threadProc =>
    cases h
    have hpc : (if a.ok = true then ThreadPc.registerClass else .ended false).registered = false ∧
        (if a.ok = true then ThreadPc.registerClass else .ended false).pending = [] := by
      cases a.ok <;> exact ⟨rfl, rfl⟩
    exact ⟨hi.set_unregistered ht rfl hpc.1, .nothing (terminal_setThread ht hpc.2)⟩
  | registerClass =>
    simp only [threadStep] at h
    split at h
    · next hok =>
      cases h
      obtain ⟨-, hfree⟩ | ⟨hclass, -⟩ := hi
      · refine ⟨.inr ⟨rfl, i, .initInstance, hfree.register ht⟩, .nothing ?_⟩
        exact terminal_setThread (d := { d with classRegistered := true }) ht rfl
      · rw [hclass] at hok
        cases hok.2
    · cases h
      exact ⟨hi.set_unregistered ht rfl rfl, .nothing (terminal_setThread ht rfl)⟩
  | initInstance =>
    cases h
    obtain ⟨hclass, hown⟩ := hi.owned ht rfl
    have hpc : (if a.ok = true then ThreadPc.getMessage else .ended true).registered = true ∧
        (if a.ok = true then ThreadPc.getMessage else .ended true) ≠ .handler ∧
        (if a.ok = true then ThreadPc.getMessage else .ended true).pending = [] := by
      cases a.ok <;> exact ⟨rfl, by simp, rfl⟩
    refine ⟨.inr ⟨hclass, i, _, hown.set_idle (by simp) rfl hpc.1 hpc.2.1 rfl⟩, .nothing ?_⟩
    exact terminal_setThread ht hpc.2.2
  | getMessage =>
    obtain ⟨hclass, hown⟩ := hi.owned ht rfl
    have hbefore := terminal_owned hown
    simp only [threadStep] at h
    split at h
    · next msg posted hposted =>
      cases h
      have hown' : ({ d with posted := posted }.setThread i (.dispatch msg)).Owned i (.dispatch msg) :=
        hown.set_idle (by simp) rfl rfl (by simp) rfl
      refine ⟨.inr ⟨hclass, i, _, hown'⟩, .nothing ?_⟩
      rw [terminal_owned hown', hbefore, hposted]
      rfl
    -- from the input queue, when nothing is posted
    · next msg input hposted hinput =>
      cases h
      have hown' : ({ d with input := input }.setThread i (.dispatch msg)).Owned i (.dispatch msg) :=
        hown.set_idle (by simp) rfl rfl (by simp) rfl
      refine ⟨.inr ⟨hclass, i, _, hown'⟩, .messages [msg] ?_⟩
      rw [terminal_owned hown', hbefore]
      show d.term.setQueue ((msg :: d.posted).filterMap _) = _
      rw [hposted]
      rfl
    · cases h
  | dispatch msg =>
    cases h
    obtain ⟨hclass, hown⟩ := hi.owned ht rfl
    refine ⟨.inr ⟨hclass, i, _, hown.set_idle (by simp) rfl rfl (by simp) rfl⟩,
      .messages (dispatchMessage o msg) ?_⟩
    have hgoes : ((d.post (dispatchMessage o msg)).setThread i (.switch msg)).terminal =
        (d.post (dispatchMessage o msg)).terminal := terminal_setThread ht rfl
    rw [hgoes, terminal_post]
  | switch msg =>
    cases h
    obtain ⟨hclass, hown⟩ := hi.owned ht rfl
    obtain ⟨⟨u, hown'⟩, hseen⟩ := switchStep_spec (a := a) hown
    exact ⟨.inr ⟨(switchStep_class d a i msg).trans hclass, i, u, hown'⟩, hseen⟩
  | handler =>
    obtain ⟨hclass, hown⟩ := hi.owned ht rfl
    have hwindow := hown.handler.mp rfl
    obtain ⟨s, hs, rfl⟩ := Option.map_eq_some_iff.mp h
    have hown' : (({ d with term := s }.post (List.replicate a.count (commandPost (some .edit)))).setThread
        i (if s.window = WindowPc.idle then .getMessage else .handler)).Owned i
          (if s.window = WindowPc.idle then .getMessage else .handler) := by
      apply hown.set rfl
      · split <;> rfl
      · show _ ↔ s.window ≠ .idle
        split
        · next hidle => simp [hidle]
        · next hbusy => simp [hbusy]
    have hpending : (if s.window = WindowPc.idle then ThreadPc.getMessage else .handler).pending = [] := by
      split <;> rfl
    refine ⟨.inr ⟨hclass, i, _, hown'⟩, SeenAs.one (b := .window a) ?_⟩
    rw [terminal_owned hown', terminal_owned hown, hpending]
    show windowStep (d.term.setQueue _) a d.term.window = _
    rw [windowStep_queue hwindow, hs]
    show some (s.setQueue (d.posted.filterMap _)) =
      some (s.setQueue ((d.posted ++ List.replicate a.count (commandPost (some .edit))).filterMap _))
    rw [List.filterMap_append, filterMap_edit_notices, List.append_nil]
  | ended registered => cases h

theorem Desktop.Inv.create (h : d.Inv) :
    { d with starting := false, threads := d.threads ++ [.threadProc] : Desktop }.Inv := by
  have hnew : ∀ (j : Nat) (u : ThreadPc), (d.threads ++ [ThreadPc.threadProc])[j]? = some u →
      d.threads[j]? = some u ∨ u = .threadProc := by
    intro j u hu
    obtain hlt | hge := Nat.lt_or_ge j d.threads.length
    · rw [List.getElem?_append_left hlt] at hu
      exact .inl hu
    · rw [List.getElem?_append_right hge] at hu
      exact .inr (List.mem_singleton.mp (List.mem_of_getElem? hu))
  refine h.imp (fun ⟨hc, hfree⟩ => ⟨hc, ?_, hfree.window⟩)
    (fun ⟨hc, i, t, hown⟩ => ⟨hc, i, t, ?_, hown.registered, hown.handler, ?_⟩)
  · intro j u hu
    obtain hu | rfl := hnew j u hu
    · exact hfree.threads j u hu
    · rfl
  · obtain ⟨hlt, -⟩ := List.getElem?_eq_some_iff.mp hown.thread
    show (d.threads ++ [_])[i]? = some t
    rw [List.getElem?_append_left hlt]
    exact hown.thread
  · intro j u hu hj
    obtain hu | rfl := hnew j u hu
    · exact hown.others j u hu hj
    · rfl

/-- Every step keeps the invariant, and is steps of the terminal. -/
theorem desktopStep_spec (hi : d.Inv) {act : DesktopAct} (h : d.step act = some d') :
    d'.Inv ∧ SeenAs d d' := by
  cases act with
  | logon a =>
    simp only [Desktop.step] at h
    split at h
    · cases h
    · cases h
      refine ⟨hi.congr rfl rfl (logonStep_frame d.term a d.term.logon).window,
        SeenAs.one (b := .logon a) ?_⟩
      show some (logonStep (d.term.setQueue _) a d.term.logon) = _
      rw [logonStep_queue]
      rfl
  | reader i a =>
    obtain ⟨s, hs, rfl⟩ := Option.map_eq_some_iff.mp h
    obtain ⟨r, hr, rfl⟩ := Option.map_eq_some_iff.mp hs
    have hwindow : (readerStep d.term a i r r.pc).window = d.term.window := by
      obtain ⟨rx, rs, h | h | h | ⟨card, h⟩⟩ := readerStep_cases d.term a i r r.pc
      all_goals rw [h]
    refine ⟨hi.congr rfl rfl hwindow, SeenAs.one (b := .reader i a) ?_⟩
    show (d.term.readers[i]?).map _ = _
    rw [hr]
    show some (readerStep (d.term.setQueue _) a i r r.pc) = _
    rw [readerStep_queue]
    rfl
  | arrive bytes =>
    cases h
    exact ⟨hi.congr rfl rfl rfl, SeenAs.one (b := .arrive bytes) rfl⟩
  | createThread ok =>
    simp only [Desktop.step] at h
    split at h
    · cases h
      cases ok with
      | true =>
        refine ⟨hi.create, .nothing ?_⟩
        unfold Desktop.terminal Desktop.unseen
        simp [ThreadPc.pending]
      | false => exact ⟨hi.congr rfl rfl rfl, .nothing rfl⟩
    · cases h
  | thread i a o =>
    obtain ⟨t, ht, hstep⟩ := Option.bind_eq_some_iff.mp h
    exact threadStep_spec hi ht hstep
  | postMessage msg =>
    simp only [Desktop.step] at h
    split at h
    · cases h
      exact ⟨hi.congr rfl rfl rfl, .messages [msg] (terminal_post [msg])⟩
    · cases h
  | hardware msg =>
    simp only [Desktop.step] at h
    split at h
    · cases h
      exact ⟨hi.congr rfl rfl rfl, .nothing rfl⟩
    · cases h

end

theorem initial_inv : Desktop.initial.Inv :=
  .inl ⟨rfl, fun _ _ h => (nomatch h), rfl⟩

theorem desktop_simulation : Simulation Desktop.step always Desktop.initial CardLogon.step always
    CardLogon.initial Desktop.Inv Desktop.terminal where
  preserved := { init := initial_inv, step := fun hi _ h => (desktopStep_spec hi h).1 }
  init := rfl
  steps hi _ h := (desktopStep_spec hi h).2


/-- What is seen of the desktop in any run is a state of the terminal that a run of its own
    reaches. -/
theorem desktop_refines (d : Desktop) (h : Reachable Desktop.step always Desktop.initial d) :
    Reachable CardLogon.step always CardLogon.initial d.terminal :=
  desktop_simulation.reachable h

theorem desktop_inv {d : Desktop} (h : Reachable Desktop.step always Desktop.initial d) : d.Inv :=
  h.holds desktop_simulation.preserved

/-- Of all the threads of a process one gets past the registration of the class, once it is
    registered, and none before. -/
theorem one_window (d : Desktop) (h : Reachable Desktop.step always Desktop.initial d) :
    (d.threads.filter ThreadPc.registered).length = if d.classRegistered then 1 else 0 := by
  obtain ⟨hclass, hfree⟩ | ⟨hclass, i, t, hown⟩ := desktop_inv h
  · rw [hclass, List.filter_eq_nil_iff.mpr]
    · rfl
    · intro t ht
      obtain ⟨i, hi⟩ := List.mem_iff_getElem?.mp ht
      simp [hfree.threads i t hi]
  · have hfilter : d.threads.filter ThreadPc.registered =
        d.threads.flatMap fun t => if t.registered then [t] else [] := by
      generalize d.threads = ts
      induction ts with
      | nil => rfl
      | cons u ts ih =>
        rw [List.filter_cons, List.flatMap_cons, ← ih]
        split
        · rfl
        · rfl
    rw [hclass, hfilter, flatMap_of_others (fun u hu => by simp [hu]) hown.thread hown.others,
      if_pos hown.registered]
    rfl

/-! After the window. -/

/-- The thread that registered the class has ended. -/
def Desktop.WindowGone (d : Desktop) : Prop :=
  d.classRegistered = true ∧ ∀ t ∈ d.threads, t.open = false

/-- The logon thread waits for the window, or is about to; nobody has answered yet. -/
def waitsForWindow (s : State) : Prop :=
  s.logon = .arm ∨ s.logon = .fail ∨ (s.logon = .wait ∧ s.empPWCT = true)

instance (s : State) : Decidable (waitsForWindow s) :=
  inferInstanceAs (Decidable (_ ∨ _ ∨ _))

instance (d : Desktop) : Decidable d.WindowGone :=
  inferInstanceAs (Decidable (_ ∧ ∀ t ∈ d.threads, t.open = false))

/-- When the thread that registered the class has ended, none has a window. -/
theorem windowGone_of_ended {d : Desktop} {i : Nat}
    (h : Reachable Desktop.step always Desktop.initial d)
    (hended : d.threads[i]? = some (.ended true)) : d.WindowGone := by
  obtain ⟨hclass, hown⟩ := (desktop_inv h).owned hended rfl
  refine ⟨hclass, fun t ht => ?_⟩
  obtain ⟨j, hj⟩ := List.mem_iff_getElem?.mp ht
  by_cases hji : j = i
  · subst hji
    obtain rfl := Option.some.inj (hj.symm.trans hended)
    rfl
  · have hno := hown.others j t hj hji
    cases t with
    | threadProc | registerClass | ended registered => rfl
    | _ => cases hno

/-- The logon thread waits on. -/
theorem waitsForWindow_logon {s : State} (h : waitsForWindow s) (a : Answer) :
    waitsForWindow (logonStep s a s.logon) := by
  obtain h | h | ⟨h, hwait⟩ := h
  · rw [h]
    exact .inr (.inr ⟨rfl, rfl⟩)
  · rw [h]
    exact .inr (.inr ⟨rfl, rfl⟩)
  · rw [h]
    refine .inr (.inr ⟨?_, hwait⟩)
    simp [logonStep, hwait]

theorem waitsForWindow_reader {s : State} (h : waitsForWindow s) (a : Answer) (i : Nat) (r : Reader) :
    waitsForWindow (readerStep s a i r r.pc) := by
  obtain ⟨rx, rs, hs | hs | hs | ⟨card, hs⟩⟩ := readerStep_cases s a i r r.pc
  all_goals
    rw [hs]
    exact h

/-- A thread without a window, after the registration, gets none and touches nothing. -/
theorem threadStep_gone {d d' : Desktop} {i : Nat} {t : ThreadPc} {a : Answer} {o : DispatchOutcome}
    (hgone : d.WindowGone) (ht : d.threads[i]? = some t) (h : threadStep d a o i t = some d') :
    d'.WindowGone ∧ d'.term = d.term := by
  have hopen : t.open = false := hgone.2 t (List.mem_of_getElem? ht)
  have hset : ∀ t' : ThreadPc, t'.open = false → (d.setThread i t').WindowGone := by
    intro t' ht'
    refine ⟨hgone.1, ?_⟩
    intro u hu
    obtain hu | rfl := List.mem_or_eq_of_mem_set hu
    · exact hgone.2 u hu
    · exact ht'
  cases t with
  | threadProc =>
    cases h
    refine ⟨hset _ ?_, rfl⟩
    cases a.ok <;> rfl
  | registerClass =>
    have hno : ¬ (a.ok = true ∧ d.classRegistered = false) := by simp [hgone.1]
    simp only [threadStep, if_neg hno] at h
    cases h
    exact ⟨hset _ rfl, rfl⟩
  | ended registered => cases h
  | _ => cases hopen

/-- A step after the window's end: no thread gets one, and who waits for it waits on. -/
theorem windowGone_step {d d' : Desktop} {act : DesktopAct} (hgone : d.WindowGone)
    (h : d.step act = some d') :
    d'.WindowGone ∧ (waitsForWindow d.term → waitsForWindow d'.term) := by
  have hclosed : d.threads.any ThreadPc.open = false := by
    rw [List.any_eq_false]
    intro t ht
    simp [hgone.2 t ht]
  cases act with
  | logon a =>
    simp only [Desktop.step] at h
    split at h
    · cases h
    · cases h
      exact ⟨hgone, fun hwaits => waitsForWindow_logon hwaits a⟩
  | reader i a =>
    obtain ⟨s, hs, rfl⟩ := Option.map_eq_some_iff.mp h
    obtain ⟨r, -, rfl⟩ := Option.map_eq_some_iff.mp hs
    exact ⟨hgone, fun hwaits => waitsForWindow_reader hwaits a i r⟩
  | arrive bytes =>
    cases h
    exact ⟨hgone, id⟩
  | createThread ok =>
    simp only [Desktop.step] at h
    split at h
    · cases h
      refine ⟨⟨hgone.1, ?_⟩, id⟩
      intro t ht
      cases ok with
      | true =>
        obtain ht | ht := List.mem_append.mp ht
        · exact hgone.2 t ht
        · rw [List.mem_singleton.mp ht]
          rfl
      | false => exact hgone.2 t ht
    · cases h
  | thread i a o =>
    obtain ⟨t, ht, hthread⟩ := Option.bind_eq_some_iff.mp h
    obtain ⟨hgone', hterm⟩ := threadStep_gone hgone ht hthread
    rw [hterm]
    exact ⟨hgone', id⟩
  | postMessage msg => simp [Desktop.step, hclosed] at h
  | hardware msg => simp [Desktop.step, hclosed] at h

/-- Once the thread with the window has ended, no thread has one in any continuation, and a
    logon thread that waits for the window waits there. -/
theorem stays_locked (d d' : Desktop) (hgone : d.WindowGone)
    (h : Reachable Desktop.step always d d') :
    d'.WindowGone ∧ (waitsForWindow d.term → waitsForWindow d'.term) := by
  induction h with
  | init => exact ⟨hgone, id⟩
  | step _ _ hstep ih =>
    obtain ⟨hgone', hwaits⟩ := windowGone_step ih.1 hstep
    exact ⟨hgone', hwaits ∘ ih.2⟩

/-! Runs. -/

/-- The steps of the terminal's other threads. -/
def otherActs (acts : List Act) : List DesktopAct :=
  acts.filterMap fun act =>
    match act with
    | .logon a => some (.logon a)
    | .reader i a => some (.reader i a)
    | .arrive bytes => some (.arrive bytes)
    | _ => none

/-- The thread of the first session, `n` steps. -/
def windowActs (n : Nat) : List DesktopAct := List.replicate n (.thread 0 yes ⟨[], false⟩)

/-- The window is made, and the loop runs. -/
def windowRun : List DesktopAct :=
  otherActs (logons 4 yes) ++ [.createThread true] ++ windowActs 3

/-- The window is closed; then a card without a password is presented. -/
def closedRun : List DesktopAct :=
  windowRun ++ [.postMessage .close] ++ windowActs 6 ++
    otherActs (logons 14 yes ++ cardRun 0 ++ logons 30 { yes with result := .row { someRow with userPW := [] } })

/-- Whatever comes then. -/
def afterClosing : List DesktopAct :=
  otherActs (logons 3 yes ++ cardRun 0 ++ logons 3 no)

theorem closed_window_locks :
    (final Desktop.step always (final Desktop.step always Desktop.initial closedRun)
      afterClosing).WindowGone ∧
    waitsForWindow (final Desktop.step always
      (final Desktop.step always Desktop.initial closedRun) afterClosing).term := by
  have hended : (final Desktop.step always Desktop.initial closedRun).threads[0]? =
      some (.ended true) := by decide +kernel
  obtain ⟨hgone, hwaits⟩ := stays_locked _ _
    (windowGone_of_ended (reachable_final closedRun) hended) (reachable_final afterClosing)
  exact ⟨hgone, hwaits (by decide +kernel)⟩

/-- Enter in the edit box, and the click it becomes. -/
def enterRun : List DesktopAct :=
  windowRun ++ [.hardware (.keyDown .edit vkReturn)] ++ windowActs 5

theorem enter_is_seen :
    Reachable CardLogon.step always CardLogon.initial
      (final Desktop.step always Desktop.initial enterRun).terminal :=
  desktop_refines _ (reachable_final enterRun)

/-- A session, and the beginning of a second one in the same process. -/
def secondRun : List DesktopAct :=
  windowRun ++ otherActs (logons 14 yes ++ cardRun 0 ++ logons 41 yes) ++ [.createThread true] ++
    List.replicate 2 (.thread 1 yes ⟨[], false⟩)

/-- Its thread ends. -/
example : (final Desktop.step always Desktop.initial secondRun).threads =
    [.getMessage, .ended false] := by
  decide +kernel

theorem second_has_no_window :
    ((final Desktop.step always Desktop.initial secondRun).threads.filter
      ThreadPc.registered).length =
        if (final Desktop.step always Desktop.initial secondRun).classRegistered then 1 else 0 :=
  one_window _ (reachable_final secondRun)

end CardLogon
