import CardLogon.SerializationHistory

/- What a `CSampleCredential` tells LogonUI: `Advise`, `UnAdvise`, and the calls that call
   back.

   `Advise` hands over a callback; `SetSelected`, `SetDeselected` and `ReportResult` call
   it back. A tile keeps one callback and one reference to it. The destructor does not look
   at it. The calls on the fields are those of `SerializationHistory.lean`; here they come
   with the callback they find. A NULL callback is not passed.

   What is proved: `tile_events`. In every run of calls, from `Initialize` to the destructor,
   a callback is called while the tile holds a reference to it and is told nothing but that
   the password is empty or has the focus; references are taken and given back one at a
   time, so that at the end the one that is left is of a callback that was not unadvised;
   and no call changes what the tile answers about its fields' states. -/
namespace CardLogon
open GuardedRun

/-- `GetFieldState`: the result, and the pair it writes when both pointers are there. -/
def CSampleCredential.getFieldState (c : CSampleCredential) (dwFieldID : Nat)
    (pcpfs pcpfis : Bool) : HRESULT × Option FieldStatePair :=
  if h : dwFieldID < 4 then
    if pcpfs && pcpfis then (S_OK, some (c.fields.statePairs ⟨dwFieldID, h⟩))
    else (E_INVALIDARG, none)
  else (E_INVALIDARG, none)

/-! The calls. -/

/-- The calls on a callback. -/
inductive TileEvent where
  | addRef (pcpce : Nat)
  | release (pcpce : Nat)
  | setFieldString (pcpce : Nat) (field : Fin 4) (psz : Option WStr)
  | setFieldInteractiveState (pcpce : Nat) (field : Fin 4) (cpfis : FieldInteractiveState)
  deriving DecidableEq

inductive TileCall where
  | advise (pcpce : Nat)
  | unAdvise
  | setSelected
  | setDeselected (o : StrDup)
  | setStringValue (dwFieldID : Nat) (pwz : WStr) (o : StrDup)
  | getStringValue (dwFieldID : Nat) (ppwsz : Option (Option WStr)) (o : StrDup)
  | reportResult (ntsStatus ntsSubstatus : UInt32) (o : StrDup)
  | getSerialization (o : SerializationCalls) (pcpgsr : SerializationResponse)
      (pcpcs : CredentialSerialization)
  | destroy

/-- A tile with its callback; the log is newest first. -/
structure AdvisedTile where
  credential : CSampleCredential
  pCredProvCredentialEvents : Option Nat
  alive : Bool
  log : List TileEvent

/-- The constructor and `Initialize`. -/
def AdvisedTile.initialised (cpus : UsageScenario) (o : CredentialCopies) : AdvisedTile :=
  ⟨initialisedCredential cpus o, none, true, []⟩

/-- What the call does to the credential. -/
def TileCall.credentialCall (events : Bool) : TileCall → Option CredentialCall
  | .setDeselected o => some (.field (.setDeselected events o))
  | .setStringValue dwFieldID pwz o => some (.field (.setStringValue dwFieldID pwz o))
  | .getStringValue dwFieldID ppwsz o => some (.field (.getStringValue dwFieldID ppwsz o))
  | .reportResult ntsStatus ntsSubstatus o => some (.reportResult ntsStatus ntsSubstatus events o)
  | .getSerialization o pcpgsr pcpcs => some (.getSerialization o pcpgsr pcpcs)
  | _ => none

/-- What the callback is told of the password. -/
def tellPassword (pcpce : Option Nat) (psz : Option (Option WStr)) : List TileEvent :=
  match pcpce, psz with
  | some e, some s => [.setFieldString e SFI_PASSWORD s]
  | _, _ => []

/-- What the call does to callbacks, oldest first. -/
def TileCall.told (c : CSampleCredential) (pcpce : Option Nat) : TileCall → List TileEvent
  | .advise e => (pcpce.toList.map .release) ++ [.addRef e]
  | .unAdvise => pcpce.toList.map .release
  | .setSelected => pcpce.toList.map fun e => .setFieldInteractiveState e SFI_PASSWORD .focused
  | .setDeselected o => tellPassword pcpce (c.setDeselected pcpce.isSome o).setFieldString
  | .reportResult ntsStatus ntsSubstatus o =>
    tellPassword pcpce
      ((CardLogon.reportResult ntsStatus ntsSubstatus pcpce.isSome o).setFieldString.map some)
  | _ => []

/-- The callback after the call. -/
def TileCall.callback (pcpce : Option Nat) : TileCall → Option Nat
  | .advise e => some e
  | .unAdvise => none
  | _ => pcpce

/-- The credential after the call. -/
def TileCall.effect (c : CSampleCredential) (events : Bool) (call : TileCall) :
    Option CSampleCredential :=
  match call.credentialCall events with
  | some k => callStep c k
  | none => some c

def TileCall.destroys : TileCall → Bool
  | .destroy => true
  | _ => false

/-- A call on a tile that is still there. -/
def AdvisedTile.step (t : AdvisedTile) (call : TileCall) : Option AdvisedTile :=
  if t.alive then
    (call.effect t.credential t.pCredProvCredentialEvents.isSome).map fun c =>
      { credential := c
        pCredProvCredentialEvents := call.callback t.pCredProvCredentialEvents
        alive := !call.destroys
        log := (call.told t.credential t.pCredProvCredentialEvents).reverse ++ t.log }
  else none

/-! The law. -/

/-- The references to a callback that are held after a log. -/
def references (pcpce : Nat) : List TileEvent → Int
  | [] => 0
  | .addRef e :: log => references pcpce log + if e = pcpce then 1 else 0
  | .release e :: log => references pcpce log - if e = pcpce then 1 else 0
  | _ :: log => references pcpce log

/-- What is so when an event comes after a log. -/
def Proper : TileEvent → List TileEvent → Prop
  | .addRef _, log => ∀ e, references e log = 0
  | .release e, log => references e log = 1
  | .setFieldString e field psz, log =>
    references e log = 1 ∧ field = SFI_PASSWORD ∧ psz = some (wlit "")
  | .setFieldInteractiveState e field cpfis, log =>
    references e log = 1 ∧ field = SFI_PASSWORD ∧ cpfis = .focused

/-- The tile holds one reference, to its callback. -/
def HoldsOne (pcpce : Option Nat) (log : List TileEvent) : Prop :=
  ∀ e, references e log = if pcpce = some e then 1 else 0

/-! What the callback is told. -/

theorem setDeselected_tells {c : CSampleCredential} {events : Bool} {o : StrDup}
    {s : Option WStr} (h : (c.setDeselected events o).setFieldString = some s) :
    s = some (wlit "") := by
  unfold CSampleCredential.setDeselected at h
  cases hpw : c.fields.strings SFI_PASSWORD with
  | none =>
    rw [hpw] at h
    cases h
  | some pw =>
    rw [hpw] at h
    dsimp only at h
    obtain ⟨-, hlen⟩ | ⟨-, hlen⟩ := stringCchLengthW_cases pw 128
    · rw [hlen, if_pos (show succeeded S_OK = true from rfl)] at h
      dsimp only at h
      obtain ⟨-, hdup⟩ | ⟨e, -, hdup⟩ := shStrDupW_cases (wlit "") o
      · rw [hdup] at h
        split at h
        · exact (Option.some.inj h).symm
        · cases h
      · rw [hdup, e.property, Bool.false_and, if_neg Bool.false_ne_true] at h
        cases h
    · rw [hlen, if_neg (by decide)] at h
      cases h

theorem reportResult_tells {ntsStatus ntsSubstatus : UInt32} {events : Bool} {o : StrDup}
    {s : WStr} (h : (reportResult ntsStatus ntsSubstatus events o).setFieldString = some s) :
    s = wlit "" := by
  unfold reportResult at h
  dsimp only at h
  split at h
  · exact (Option.some.inj h).symm
  · cases h

/-! The references. -/

section
variable {pcpce : Option Nat} {log : List TileEvent}

/-- The callback is given back, if there is one. -/
theorem released (hlog : Throughout Proper log) (hone : HoldsOne pcpce log) :
    Throughout Proper ((pcpce.toList.map .release).reverse ++ log) ∧
      HoldsOne none ((pcpce.toList.map .release).reverse ++ log) := by
  cases pcpce with
  | none => exact ⟨hlog, hone⟩
  | some p =>
    refine ⟨⟨?_, hlog⟩, fun e => ?_⟩
    · exact (hone p).trans (if_pos rfl)
    · show references e log - (if p = e then 1 else 0) = if none = some e then 1 else 0
      rw [hone e]
      simp

/-- A callback is told something, and no reference moves. -/
theorem told_one (hlog : Throughout Proper log) (hone : HoldsOne pcpce log) {ev : TileEvent}
    (hrefs : ∀ e, references e (ev :: log) = references e log) (hev : Proper ev log) :
    Throughout Proper ([ev].reverse ++ log) ∧ HoldsOne pcpce ([ev].reverse ++ log) :=
  ⟨⟨hev, hlog⟩, fun e => (hrefs e).trans (hone e)⟩

theorem tellPassword_law (hlog : Throughout Proper log) (hone : HoldsOne pcpce log)
    {psz : Option (Option WStr)} (hpsz : ∀ s, psz = some s → s = some (wlit "")) :
    Throughout Proper ((tellPassword pcpce psz).reverse ++ log) ∧
      HoldsOne pcpce ((tellPassword pcpce psz).reverse ++ log) := by
  unfold tellPassword
  split
  · next e s =>
    exact told_one hlog hone (fun _ => rfl) ⟨(hone e).trans (if_pos rfl), rfl, hpsz s rfl⟩
  · exact ⟨hlog, hone⟩

/-- A call keeps the law. -/
theorem told_law (hlog : Throughout Proper log) (hone : HoldsOne pcpce log) (c : CSampleCredential)
    (call : TileCall) :
    Throughout Proper ((call.told c pcpce).reverse ++ log) ∧
      HoldsOne (call.callback pcpce) ((call.told c pcpce).reverse ++ log) := by
  cases call with
  | advise e =>
    obtain ⟨hlog', hnone⟩ := released hlog hone
    rw [TileCall.told, List.reverse_append, List.append_assoc]
    refine ⟨⟨fun e' => (hnone e').trans (if_neg nofun), hlog'⟩, fun e' => ?_⟩
    show references e' ((pcpce.toList.map .release).reverse ++ log) +
      (if e = e' then 1 else 0) = if some e = some e' then 1 else 0
    rw [hnone e']
    simp
  | unAdvise => exact released hlog hone
  | setSelected =>
    cases pcpce with
    | none => exact ⟨hlog, hone⟩
    | some e => exact told_one hlog hone (fun _ => rfl) ⟨(hone e).trans (if_pos rfl), rfl, rfl⟩
  | setDeselected o => exact tellPassword_law hlog hone fun s hs => setDeselected_tells hs
  | reportResult ntsStatus ntsSubstatus o =>
    refine tellPassword_law hlog hone fun s hs => ?_
    obtain ⟨w, hw, rfl⟩ := Option.map_eq_some_iff.mp hs
    exact congrArg some (reportResult_tells hw)
  | _ => exact ⟨hlog, hone⟩

end

/-! The states of the fields. -/

theorem setStringValue_statePairs (c : CSampleCredential) (dwFieldID : Nat) (pwz : WStr)
    (o : StrDup) :
    (c.setStringValue dwFieldID pwz o).2.fields.statePairs = c.fields.statePairs := by
  obtain ⟨-, hrun⟩ | ⟨i, -, -, hrun⟩ := setStringValue_cases c dwFieldID pwz o
  · rw [hrun]
  · rw [hrun]
    rfl

theorem fillStrings_statePairs (c : CSampleCredential) (o : SerializationCalls) :
    (c.fillStrings o).fields.statePairs = c.fields.statePairs := by
  unfold CSampleCredential.fillStrings
  dsimp only
  rw [setStringValue_statePairs, setStringValue_statePairs]

/-- No call writes them. -/
theorem callStep_statePairs {c c' : CSampleCredential} {k : CredentialCall}
    (h : callStep c k = some c') : c'.fields.statePairs = c.fields.statePairs := by
  cases k with
  | field f =>
    obtain rfl := Option.some.inj h
    cases f with
    | setStringValue dwFieldID pwz o => exact setStringValue_statePairs c dwFieldID pwz o
    | setDeselected events o =>
      simp only [CSampleCredential.call, CSampleCredential.setDeselected]
      split
      · rfl
      · split <;> rfl
    | getStringValue dwFieldID ppwsz o => rfl
  | reportResult ntsStatus ntsSubstatus events o =>
    obtain rfl := Option.some.inj h
    rfl
  | getSerialization o pcpgsr pcpcs =>
    obtain ⟨r, hr, rfl⟩ := Option.map_eq_some_iff.mp h
    rw [getSerialization_credential hr, fillStrings_statePairs]

theorem effect_statePairs {c c' : CSampleCredential} {events : Bool} {call : TileCall}
    (h : call.effect c events = some c') : c'.fields.statePairs = c.fields.statePairs := by
  unfold TileCall.effect at h
  split at h
  · exact callStep_statePairs h
  · obtain rfl := Option.some.inj h
    rfl

/-! The runs. -/

section
variable (cpus : UsageScenario) (o : CredentialCopies)

structure AdvisedTile.Inv (t : AdvisedTile) : Prop where
  proper : Throughout Proper t.log
  one : HoldsOne t.pCredProvCredentialEvents t.log
  statePairs : t.credential.fields.statePairs = (initialisedCredential cpus o).fields.statePairs

theorem advisedTile_preserved :
    Preserved AdvisedTile.step always (.initialised cpus o) (AdvisedTile.Inv cpus o) where
  init := ⟨trivial, fun _ => rfl, rfl⟩
  step := by
    intro t t' call hi _ h
    unfold AdvisedTile.step at h
    split at h
    · obtain ⟨c, hc, rfl⟩ := Option.map_eq_some_iff.mp h
      obtain ⟨hproper, hone⟩ := told_law hi.proper hi.one t.credential call
      exact ⟨hproper, hone, (effect_statePairs hc).trans hi.statePairs⟩
    · cases h

/-- In every run of calls, a callback is called while the tile holds its one reference to it,
    and is told only that the password is empty or has the focus; the reference that is held
    is of the callback advised last; and the states of the fields stay as they are. -/
theorem tile_events (t : AdvisedTile)
    (h : Reachable AdvisedTile.step always (.initialised cpus o) t) :
    Throughout Proper t.log ∧
      (∀ e, references e t.log = if t.pCredProvCredentialEvents = some e then 1 else 0) ∧
      ∀ dwFieldID pcpfs pcpfis, t.credential.getFieldState dwFieldID pcpfs pcpfis =
        (initialisedCredential cpus o).getFieldState dwFieldID pcpfs pcpfis := by
  have hi : t.Inv cpus o := h.holds (advisedTile_preserved cpus o)
  refine ⟨hi.proper, hi.one, fun dwFieldID pcpfs pcpfis => ?_⟩
  unfold CSampleCredential.getFieldState
  rw [hi.statePairs]

end

/-- Two callbacks; the second is still advised when the tile is destroyed. -/
def twoCallbacks : List TileCall :=
  [.advise 1, .setSelected, .setStringValue 2 (wlit "secret") none, .advise 2, .setDeselected none,
    .reportResult STATUS_LOGON_FAILURE STATUS_SUCCESS none, .destroy]

/-- Its reference is never given back. -/
theorem second_never_released :
    references 2 (final AdvisedTile.step always (.initialised .logon allCopied) twoCallbacks).log =
      if (final AdvisedTile.step always (.initialised .logon
        allCopied) twoCallbacks).pCredProvCredentialEvents = some 2 then 1 else 0 := by
  obtain ⟨-, hone, -⟩ := tile_events .logon allCopied _ (reachable_final twoCallbacks)
  exact hone 2

example : (final AdvisedTile.step always (.initialised .logon allCopied) twoCallbacks).log =
    [.setFieldString 2 SFI_PASSWORD (some (wlit "")), .setFieldString 2 SFI_PASSWORD (some (wlit "")),
      .addRef 2, .release 1, .setFieldInteractiveState 1 SFI_PASSWORD .focused, .addRef 1] := by
  decide +kernel

end CardLogon
