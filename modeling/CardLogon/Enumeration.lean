import CardLogon.Provider
import CardLogon.Terminal

/- LogonUI enumerates the tiles: `GetFieldDescriptorCount`, `GetFieldDescriptorAt`,
   `GetCredentialCount` and `GetCredentialAt`.

   The logon thread of the terminal is the thread of LogonUI. `SetUsageScenario` runs
   `Initialize` on it and returns; `GetConnectedStatus` runs inside three of the calls,
   and the loop goes on only there. So the thread is outside of the provider, in
   `Initialize`, or in a call. LogonUI makes calls in any order, one at a time, on a
   provider that has its window, and may drop the provider between two calls.

   The log has LogonUI's side and, in between, what the threads log.

   What is proved: `enumeration_gate`. In every run, a call that asks for the connected
   status is answered when one card has been accepted for this window, with what the tile
   of a connected terminal has; cards are looked at inside such a call only, and none is
   looked at after the accepted one. The message tile is never handed out. -/
namespace CardLogon
open GuardedRun

/-! The calls. -/

def SFI_NUM_FIELDS : Nat := 4
def SMFI_NUM_FIELDS : Nat := 1

/-- A call of LogonUI; the pointer it passes is `false` for NULL. -/
inductive EnumCall where
  | getFieldDescriptorCount
  | getFieldDescriptorAt (dwIndex : UInt32) (ppcpfd : Bool)
  | getCredentialCount
  | getCredentialAt (dwIndex : UInt32) (ppcpc : Bool)
  deriving DecidableEq

/-- What a call finds: memory, a copy of the label, and the references to the tile. -/
structure CallOutcome where
  alloc : Bool
  label : StrDup
  cRef : Int32

/-- What a call returns and writes. -/
inductive EnumAnswer where
  | fieldCount (dwCount : Nat)
  | descriptor (hr : HRESULT) (pcpfd : Option FieldDescriptor)
  | credentialCount (dwCount dwDefault : Nat) (autoLogonWithDefault : Bool)
  | credential (tile : ComClass) (q : Option Queried)
  | failed (hr : HRESULT)

/-- `FieldDescriptorCoAllocCopy`: the result and `*ppcpfd`. -/
def fieldDescriptorCoAllocCopy (rcpfd : FieldDescriptor) (alloc : Bool) (o : StrDup) :
    HRESULT × Option FieldDescriptor :=
  if alloc then
    match rcpfd.pszLabel with
    | some label =>
      let d := shStrDupW (some label) o
      (d.1, if succeeded d.1 then some { rcpfd with pszLabel := d.2 } else none)
    | none => (S_OK, some { rcpfd with pszLabel := none })
  else (E_OUTOFMEMORY, none)

/-- The field `dwIndex` of a table. -/
def fieldDescriptorAt {n : Nat} (rgcpfd : Fin n → FieldDescriptor) (dwIndex : UInt32)
    (ppcpfd : Bool) (o : CallOutcome) : EnumAnswer :=
  if h : dwIndex.toNat < n then
    if ppcpfd then
      let r := fieldDescriptorCoAllocCopy (rgcpfd ⟨dwIndex.toNat, h⟩) o.alloc o.label
      .descriptor r.1 r.2
    else .failed E_INVALIDARG
  else .failed E_INVALIDARG

/-- `QueryInterface` of a tile. -/
def queryTile (tile : ComClass) (o : CallOutcome) : EnumAnswer :=
  .credential tile (tile.queryInterface o.cRef .credentialProviderCredential true)

/-- The call runs `GetConnectedStatus`. -/
def EnumCall.asks : EnumCall → Bool
  | .getFieldDescriptorCount | .getFieldDescriptorAt _ _ => true
  | .getCredentialCount => false
  | .getCredentialAt dwIndex ppcpc => decide (dwIndex = 0) && ppcpc

/-- What a call answers, given what `GetConnectedStatus` returns where it is asked. -/
def EnumCall.answer (connected : Bool) (o : CallOutcome) : EnumCall → EnumAnswer
  | .getFieldDescriptorCount => .fieldCount (if connected then SFI_NUM_FIELDS else SMFI_NUM_FIELDS)
  | .getFieldDescriptorAt dwIndex ppcpfd =>
    if connected then fieldDescriptorAt rgCredProvFieldDescriptors dwIndex ppcpfd o
    else fieldDescriptorAt rgMessageCredProvFieldDescriptors dwIndex ppcpfd o
  | .getCredentialCount => .credentialCount 1 0 false
  | .getCredentialAt dwIndex ppcpc =>
    if dwIndex = 0 ∧ ppcpc = true then
      if connected then queryTile .sampleCredential o else queryTile .messageCredential o
    else .failed E_INVALIDARG

/-! LogonUI and the terminal. -/

/-- Where LogonUI's thread is. -/
inductive EnumPc where
  | unset
  | creating
  | ready
  | asking (c : EnumCall)
  deriving DecidableEq

inductive EnumEvent where
  | created
  | deleted
  | asked (c : EnumCall)
  | answered (c : EnumCall) (o : CallOutcome) (a : EnumAnswer)
  | terminal (e : Event)

structure Enumeration where
  term : State
  pc : EnumPc
  log : List EnumEvent

def Enumeration.initial : Enumeration := ⟨CardLogon.initial, .unset, []⟩

inductive EnumAct where
  | setUsageScenario (a : Answer)
  | initialized (ok : Bool)
  | release
  | call (c : EnumCall) (o : CallOutcome)
  | answer (o : CallOutcome)
  | thread (act : Act)

/-- The window is deleted. -/
def Enumeration.deleteWindow (u : Enumeration) : Enumeration :=
  { u with term := { u.term with logon := .idle }, pc := .unset, log := .deleted :: u.log }

/-- `Initialize` up to the end of InitCOM, or the loop, is running. -/
def Enumeration.running (u : Enumeration) : Bool :=
  match u.pc with
  | .creating => decide (u.term.logon ≠ .head)
  | .asking _ => decide (u.term.logon ≠ .idle)
  | _ => false

/-- The events a step has logged. -/
def seen (before after : State) : List EnumEvent :=
  (after.log.take (after.log.length - before.log.length)).map .terminal

def Enumeration.threadStep (u : Enumeration) (act : Act) : Option Enumeration :=
  (CardLogon.step u.term act).map fun t => { u with term := t, log := seen u.term t ++ u.log }

def Enumeration.step (u : Enumeration) : EnumAct → Option Enumeration
  | .setUsageScenario a =>
    match u.pc with
    | .unset =>
      some { u with
        term := logonStep u.term a .idle
        pc := .creating
        log := .created :: u.log }
    -- "everything's already all set up"
    | .ready => some u
    | _ => none
  -- the rest of SetUsageScenario, with its cleaning up
  | .initialized ok =>
    if u.pc = .creating ∧ u.term.logon = .head then
      if ok then some { u with pc := .ready } else some u.deleteWindow
    else none
  | .release => if u.pc = .ready then some u.deleteWindow else none
  | .call c o =>
    if u.pc = .ready then
      if c.asks then
        some { u with
          term := { u.term with logon := .head }
          pc := .asking c
          log := .asked c :: u.log }
      else some { u with log := .answered c o (c.answer false o) :: .asked c :: u.log }
    else none
  -- `_fConnected = TRUE; return _fConnected;` and the rest of the call
  | .answer o =>
    match u.pc with
    | .asking c =>
      if u.term.logon = .idle then
        let term := { u.term with fConnected := true }
        some { u with
          term := term
          pc := .ready
          log := .answered c o (c.answer term.fConnected o) :: u.log }
      else none
    | _ => none
  | .thread act =>
    match act with
    | .logon a => if u.running then u.threadStep (.logon a) else none
    | act => u.threadStep act

/-! The law. -/

/-- The cards accepted since the window was created. -/
def accepts : List EnumEvent → Nat
  | [] => 0
  | .created :: _ => 0
  | .terminal .connected :: log => accepts log + 1
  | _ :: log => accepts log

/-- The call that is not answered yet. -/
def pending : List EnumEvent → Option EnumCall
  | [] => none
  | .asked c :: _ => some c
  | .answered _ _ _ :: _ => none
  | _ :: log => pending log

/-- What is so when an event comes after a log. -/
def Gated : EnumEvent → List EnumEvent → Prop
  | .answered c o a, log =>
    pending log = some c ∧ a = c.answer true o ∧ (c.asks = true → accepts log = 1)
  | .terminal e, log =>
    e.byLogon = true → (∃ c, pending log = some c ∧ c.asks = true) ∧ accepts log = 0
  | _, _ => True

/-- `Initialize`, and the loop before its first round. -/
def booting : LogonPc → Bool
  | .openPort .boot | .spawn .boot | .setOpen .boot | .head => true
  | _ => false

/-- What is so where LogonUI's thread is. -/
def Enumeration.At (u : Enumeration) : EnumPc → Prop
  | .unset => pending u.log = none
  | .creating => pending u.log = none ∧ booting u.term.logon = true ∧
      u.term.fConnected = false ∧ accepts u.log = 0
  | .ready => pending u.log = none ∧
      ((u.term.fConnected = false ∧ accepts u.log = 0) ∨
        (u.term.fConnected = true ∧ accepts u.log = 1))
  | .asking c => c.asks = true ∧ pending u.log = some c ∧
      ((u.term.fConnected = false ∧ pastLoop u.term.logon = false ∧ accepts u.log = 0) ∨
        (u.term.fConnected = true ∧ (u.term.logon = .head ∨ pastLoop u.term.logon = true) ∧
          accepts u.log = 1))

structure Enumeration.Inv (u : Enumeration) : Prop where
  gated : Throughout Gated u.log
  here : u.At u.pc

/-! The calls. -/

/-- A call that does not ask answers the same in both cases. -/
theorem EnumCall.answer_of_not_asks {c : EnumCall} (h : c.asks = false) (b : Bool) (o : CallOutcome) :
    c.answer b o = c.answer true o := by
  cases c with
  | getFieldDescriptorCount => cases h
  | getFieldDescriptorAt dwIndex ppcpfd => cases h
  | getCredentialCount => rfl
  | getCredentialAt dwIndex ppcpc =>
    have hno : ¬ (dwIndex = 0 ∧ ppcpc = true) := by simpa [EnumCall.asks] using h
    simp only [EnumCall.answer, if_neg hno]

/-! What a step of a thread adds to the log. -/

theorem seen_eq {s t : State} {es : List Event} (h : t.log = es ++ s.log) :
    seen s t = es.map .terminal := by
  unfold seen
  rw [h, List.length_append, Nat.add_sub_cancel, List.take_left]

theorem pending_terminal (es : List Event) (log : List EnumEvent) :
    pending (es.map .terminal ++ log) = pending log := by
  induction es with
  | nil => rfl
  | cons e es ih => exact ih

theorem accepts_terminal {e : Event} (h : e ≠ .connected) (log : List EnumEvent) :
    accepts (.terminal e :: log) = accepts log := by
  cases e with
  | connected => exact absurd rfl h
  | _ => rfl

/-- The other threads log nothing of the logon thread. -/
theorem accepts_others {es : List Event} (h : ∀ e ∈ es, e.byLogon = false)
    (log : List EnumEvent) : accepts (es.map .terminal ++ log) = accepts log := by
  induction es with
  | nil => rfl
  | cons e es ih =>
    have hne : e ≠ .connected := by
      rintro rfl
      cases h _ List.mem_cons_self
    rw [List.map_cons, List.cons_append, accepts_terminal hne]
    exact ih fun e' he' => h e' (List.mem_cons_of_mem e he')

theorem gated_others {es : List Event} (h : ∀ e ∈ es, e.byLogon = false)
    {log : List EnumEvent} (hlog : Throughout Gated log) :
    Throughout Gated (es.map .terminal ++ log) := by
  induction es with
  | nil => exact hlog
  | cons e es ih =>
    refine ⟨fun hby => ?_, ih fun e' he' => h e' (List.mem_cons_of_mem e he')⟩
    rw [h e List.mem_cons_self] at hby
    cases hby

/-- A step of another thread leaves everything as it is. -/
theorem Enumeration.Inv.elsewhere {u : Enumeration} {t : State} (hi : u.Inv)
    (h : Elsewhere u.term t) : Enumeration.Inv { u with term := t, log := seen u.term t ++ u.log } := by
  obtain ⟨es, hlog, hes⟩ := h.log
  rw [seen_eq hlog]
  refine ⟨gated_others hes hi.gated, ?_⟩
  have hat := hi.here
  show Enumeration.At _ u.pc
  cases hpc : u.pc with
  | _ =>
    rw [hpc] at hat
    simpa only [Enumeration.At, h.logon, h.fConnected, pending_terminal, accepts_others hes]
      using hat

/-! The logon thread in `Initialize` and in the loop. -/

/-- `Initialize` opens the port, and logs nothing. -/
theorem booting_logon {s : State} (h : booting s.logon = true) (hhead : s.logon ≠ .head) (a : Answer) :
    booting (logonStep s a s.logon).logon = true ∧
      (logonStep s a s.logon).fConnected = s.fConnected ∧
      logonEvent s a s.logon = none := by
  cases hpc : s.logon with
  | head => exact absurd hpc hhead
  | openPort c =>
    rw [hpc] at h
    cases c with
    | boot => simp only [logonStep]; split <;> exact ⟨rfl, rfl, rfl⟩
    | reconnect => cases h
  | spawn c =>
    rw [hpc] at h
    cases c with
    | boot => exact ⟨rfl, rfl, rfl⟩
    | reconnect => cases h
  | setOpen c =>
    rw [hpc] at h
    cases c with
    | boot => exact ⟨rfl, rfl, rfl⟩
    | reconnect => cases h
  | _ =>
    rw [hpc] at h
    cases h

/-- The loop is not left without the accepted card. -/
theorem pastLoop_logonStep {s : State} (h : pastLoop s.logon = false) (hconn : s.fConnected = false)
    (hne : s.logon ≠ .connect) (a : Answer) :
    pastLoop (logonStep s a s.logon).logon = false := by
  cases hpc : s.logon with
  | connect => exact absurd hpc hne
  | idle =>
    rw [hpc] at h
    cases h
  | wipeCar =>
    rw [hpc] at h
    cases h
  | wipeNames =>
    rw [hpc] at h
    cases h
  | wipeNick =>
    rw [hpc] at h
    cases h
  | openPort c => simp only [logonStep]; split <;> rfl
  | setOpen c => cases c <;> rfl
  | head => simp only [logonStep, hconn]; rfl
  | inner => simp only [logonStep]; split <;> rfl
  | ping => simp only [logonStep]; split <;> rfl
  | infoOk p =>
    simp only [logonStep]
    split
    · rfl
    · cases p <;> rfl
  | copyAudit p k =>
    simp only [logonStep]
    split
    · rfl
    · cases p <;> rfl
  | query => simp only [logonStep]; split <;> rfl
  | _ =>
    simp only [logonStep]
    first
    | rfl
    | (split <;> rfl)

/-- After the accepted card the loop ends, and logs nothing. -/
theorem connected_logon {s : State} (h : s.logon = .head ∨ pastLoop s.logon = true)
    (hconn : s.fConnected = true) (hidle : s.logon ≠ .idle) (a : Answer) :
    pastLoop (logonStep s a s.logon).logon = true ∧
      (logonStep s a s.logon).fConnected = true ∧ logonEvent s a s.logon = none := by
  cases hpc : s.logon with
  | idle => exact absurd hpc hidle
  | head => exact ⟨by simp only [logonStep, hconn]; rfl, hconn, rfl⟩
  | wipeCar => exact ⟨rfl, hconn, rfl⟩
  | wipeNames => exact ⟨rfl, hconn, rfl⟩
  | wipeNick => exact ⟨rfl, hconn, rfl⟩
  | _ =>
    rw [hpc] at h
    rcases h with h | h <;> cases h

/-- Only the end of a session logs an acceptance. -/
theorem logonEvent_connected {s : State} {a : Answer} {pc : LogonPc} {e : Event}
    (h : logonEvent s a pc = some e) (hne : pc ≠ .connect) : e ≠ .connected := by
  obtain ⟨-, rfl⟩ | ⟨body, -, rfl⟩ | ⟨t, -, rfl⟩ | ⟨hpc, -⟩ := logonEvent_cases h
  · exact fun h => nomatch h
  · exact fun h => nomatch h
  · exact fun h => nomatch h
  · exact absurd hpc hne

section
variable {u : Enumeration} {a : Answer}

/-- A step of the logon thread, with what it logs. -/
theorem seen_logon (s : State) (a : Answer) : seen s (logonStep s a s.logon) =
    (logonEvent s a s.logon).toList.map .terminal :=
  seen_eq (logonStep_log s a s.logon)

theorem Enumeration.Inv.logon_creating (hi : u.Inv) (hpc : u.pc = .creating)
    (hhead : u.term.logon ≠ .head) : Enumeration.Inv
      { u with term := logonStep u.term a u.term.logon
               log := seen u.term (logonStep u.term a u.term.logon) ++ u.log } := by
  have hat := hi.here
  rw [hpc] at hat
  obtain ⟨hpend, hboot, hconn, hacc⟩ := hat
  obtain ⟨hboot', hconn', hev⟩ := booting_logon hboot hhead a
  rw [seen_logon, hev]
  refine ⟨hi.gated, ?_⟩
  show Enumeration.At _ u.pc
  rw [hpc]
  exact ⟨hpend, hboot', hconn'.trans hconn, hacc⟩

theorem Enumeration.Inv.logon_asking (hi : u.Inv) {c : EnumCall} (hpc : u.pc = .asking c)
    (hidle : u.term.logon ≠ .idle) : Enumeration.Inv
      { u with term := logonStep u.term a u.term.logon
               log := seen u.term (logonStep u.term a u.term.logon) ++ u.log } := by
  have hat := hi.here
  rw [hpc] at hat
  obtain ⟨hasks, hpend, ⟨hconn, hpast, hacc⟩ | ⟨hconn, hlate, hacc⟩⟩ := hat
  · rw [seen_logon]
    by_cases hconnect : u.term.logon = .connect
    · -- the accepted card
      rw [hconnect]
      refine ⟨⟨fun _ => ⟨⟨c, hpend, hasks⟩, hacc⟩, hi.gated⟩, ?_⟩
      show Enumeration.At _ u.pc
      rw [hpc]
      exact ⟨hasks, hpend, .inr ⟨rfl, .inr rfl, congrArg (· + 1) hacc⟩⟩
    · have hconn' : (logonStep u.term a u.term.logon).fConnected = false :=
        (logonStep_fConnected u.term a hidle hconnect).trans hconn
      have hpast' := pastLoop_logonStep hpast hconn hconnect a
      cases hev : logonEvent u.term a u.term.logon with
      | none =>
        refine ⟨hi.gated, ?_⟩
        show Enumeration.At _ u.pc
        rw [hpc]
        exact ⟨hasks, hpend, .inl ⟨hconn', hpast', hacc⟩⟩
      | some e =>
        refine ⟨⟨fun _ => ⟨⟨c, hpend, hasks⟩, hacc⟩, hi.gated⟩, ?_⟩
        show Enumeration.At _ u.pc
        rw [hpc]
        refine ⟨hasks, hpend, .inl ⟨hconn', hpast', ?_⟩⟩
        exact (accepts_terminal (logonEvent_connected hev hconnect) u.log).trans hacc
  · obtain ⟨hpast', hconn', hev⟩ := connected_logon hlate hconn hidle a
    rw [seen_logon, hev]
    refine ⟨hi.gated, ?_⟩
    show Enumeration.At _ u.pc
    rw [hpc]
    exact ⟨hasks, hpend, .inr ⟨hconn', .inr hpast', hacc⟩⟩

end

/-! The runs. -/

theorem Enumeration.Inv.deleteWindow {u : Enumeration} (hi : u.Inv) (hpend : pending u.log = none) :
    u.deleteWindow.Inv :=
  ⟨⟨trivial, hi.gated⟩, hpend⟩

theorem Enumeration.Inv.thread {u u' : Enumeration} {act : Act} (hi : u.Inv)
    (hact : ∀ a, act ≠ .logon a) (h : u.threadStep act = some u') : u'.Inv := by
  obtain ⟨t, ht, rfl⟩ := Option.map_eq_some_iff.mp h
  exact hi.elsewhere (elsewhere_of_step hact ht)

theorem Enumeration.Inv.logon {u u' : Enumeration} {a : Answer} (hi : u.Inv)
    (hrun : u.running = true) (h : u.threadStep (.logon a) = some u') : u'.Inv := by
  obtain ⟨t, ht, rfl⟩ := Option.map_eq_some_iff.mp h
  obtain rfl := Option.some.inj ht
  unfold Enumeration.running at hrun
  split at hrun
  · next hpc => exact hi.logon_creating hpc (of_decide_eq_true hrun)
  · next hpc => exact hi.logon_asking hpc (of_decide_eq_true hrun)
  · cases hrun

theorem enumeration_preserved : Preserved Enumeration.step always .initial Enumeration.Inv where
  init := ⟨trivial, rfl⟩
  step := by
    intro u u' act hi _ h
    have hat := hi.here
    cases act with
    | setUsageScenario a =>
      simp only [Enumeration.step] at h
      split at h
      · next hpc =>
        rw [hpc] at hat
        cases h
        exact ⟨⟨trivial, hi.gated⟩, hat, rfl, rfl, rfl⟩
      · cases h
        exact hi
      · cases h
    | initialized ok =>
      simp only [Enumeration.step] at h
      split at h
      · next hpc =>
        rw [hpc.1] at hat
        obtain ⟨hpend, -, hconn, hacc⟩ := hat
        split at h
        · cases h
          exact ⟨hi.gated, hpend, .inl ⟨hconn, hacc⟩⟩
        · cases h
          exact hi.deleteWindow hpend
      · cases h
    | release =>
      simp only [Enumeration.step] at h
      split at h
      · next hpc =>
        rw [hpc] at hat
        cases h
        exact hi.deleteWindow hat.1
      · cases h
    | call c o =>
      simp only [Enumeration.step] at h
      split at h
      · next hpc =>
        rw [hpc] at hat
        obtain ⟨-, hready⟩ := hat
        split at h
        · next hasks =>
          cases h
          refine ⟨⟨trivial, hi.gated⟩, hasks, rfl, ?_⟩
          obtain ⟨hconn, hacc⟩ | ⟨hconn, hacc⟩ := hready
          · exact .inl ⟨hconn, rfl, hacc⟩
          · exact .inr ⟨hconn, .inl rfl, hacc⟩
        · next hasks =>
          have hno : c.asks = false := Bool.eq_false_iff.mpr hasks
          cases h
          refine ⟨⟨⟨rfl, EnumCall.answer_of_not_asks hno false o, fun hyes => absurd hyes hasks⟩,
            trivial, hi.gated⟩, ?_⟩
          show Enumeration.At _ u.pc
          rw [hpc]
          exact ⟨rfl, hready⟩
      · cases h
    | answer o =>
      simp only [Enumeration.step] at h
      split at h
      · next c hpc =>
        rw [hpc] at hat
        obtain ⟨hasks, hpend, hwhere⟩ := hat
        split at h
        · next hidle =>
          cases h
          rw [hidle] at hwhere
          obtain ⟨-, hpast, -⟩ | ⟨-, -, hacc⟩ := hwhere
          · cases hpast
          · exact ⟨⟨⟨hpend, rfl, fun _ => hacc⟩, hi.gated⟩, rfl, .inr ⟨rfl, hacc⟩⟩
        · cases h
      · cases h
    | thread act =>
      cases act with
      | logon a =>
        simp only [Enumeration.step] at h
        split at h
        · next hrun => exact hi.logon hrun h
        · cases h
      | _ =>
        refine hi.thread ?_ h
        exact fun _ hb => nomatch hb

/-- In every run, a call that asks is answered with the tile of a connected terminal when one
    card has been accepted since the window was created, and cards are looked at inside such a
    call only, before the accepted one. -/
theorem enumeration_gate (u : Enumeration) (h : Reachable Enumeration.step always .initial u) :
    Throughout Gated u.log :=
  (h.holds enumeration_preserved).gated

/-- A window, a call that waits for a card, and one that does not. -/
def twoCalls : List EnumAct :=
  let thread := fun act => EnumAct.thread act
  [.setUsageScenario yes] ++ (logons 3 yes).map thread ++ [.initialized true,
    .call .getFieldDescriptorCount ⟨true, none, 1⟩] ++
    (logons 14 yes ++ cardRun 0 ++ logons 37 yes).map thread ++ [.answer ⟨true, none, 1⟩,
    .call (.getCredentialAt 0 true) ⟨true, none, 1⟩] ++ (logons 1 yes).map thread ++
    [.answer ⟨true, none, 1⟩]

theorem two_calls_gated : Throughout Gated (final Enumeration.step always .initial twoCalls).log :=
  enumeration_gate _ (reachable_final twoCalls)

/-- Both are answered. -/
example : ((final Enumeration.step always .initial twoCalls).log.filterMap fun e =>
    match e with
    | .answered c _ _ => some c
    | _ => none) = [.getCredentialAt 0 true, .getFieldDescriptorCount] := by decide +kernel

end CardLogon
