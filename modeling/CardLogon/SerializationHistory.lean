import CardLogon.FieldStrings

/- `GetSerialization` after any calls of LogonUI.

   A call history is a run: the field calls, `ReportResult` and earlier calls of
   `GetSerialization`, with whatever their allocations and external calls answer. What
   `Initialize` has set and no call touches (`Ready`) is the scenario and the table of
   descriptors; the user name field is a large text there, so that `SetStringValue`
   rejects it.

   What is proved: `same_serialization`. Two histories that end with the same external
   answers pack the same: the name from the configuration and the protected copy of the
   fixed password, whatever was typed before; and they do pack it, exactly when the
   computer has a name, the password is protected, the three strings are short enough
   for the scenario's structure and there is memory (`Packing`). -/
namespace CardLogon
open CText GuardedRun

/-! Histories. -/

/-- The calls of LogonUI on a credential. -/
inductive CredentialCall where
  | field (f : FieldCall)
  | reportResult (ntsStatus ntsSubstatus : UInt32) (events : Bool) (o : StrDup)
  | getSerialization (o : SerializationCalls) (pcpgsr : SerializationResponse)
      (pcpcs : CredentialSerialization)

def callStep (c : CSampleCredential) : CredentialCall → Option CSampleCredential
  | .field f => some (c.call f)
  | .reportResult _ _ _ _ => some c
  | .getSerialization o pcpgsr pcpcs => (getSerialization c o pcpgsr pcpcs).map Serialized.credential

/-- The credential after an `Initialize`. -/
def initialisedCredential (cpus : UsageScenario) (o : CredentialCopies) : CSampleCredential :=
  (CSampleCredential.new.initializeFields (some cpus) rgCredProvFieldDescriptors rgFieldStatePairs
    o).2.1

/-- The scenario and the descriptors that `Initialize` has set. -/
structure Ready (cpus : UsageScenario) (c : CSampleCredential) : Prop where
  cpus_eq : c.cpus = some cpus
  descriptors_eq : c.fields.descriptors = rgCredProvFieldDescriptors

section
variable {cpus : UsageScenario} {c : CSampleCredential}

theorem Ready.initialised {o : CredentialCopies} (ho : o.AllOk) :
    Ready cpus (initialisedCredential cpus o) :=
  ⟨rfl, (sampleCredential_filled rgCredProvFieldDescriptors_label o _ _ ho).descriptors_eq⟩

theorem Ready.putString (h : Ready cpus c) (i : Fin 4) (psz : Option WStr) :
    Ready cpus (c.putString i psz) := ⟨h.cpus_eq, h.descriptors_eq⟩

theorem Ready.setStringValue (h : Ready cpus c) (dwFieldID : Nat) (pwz : WStr) (o : StrDup) :
    Ready cpus (c.setStringValue dwFieldID pwz o).2 := by
  obtain ⟨-, hrun⟩ | ⟨i, -, -, hrun⟩ := setStringValue_cases c dwFieldID pwz o
  · rw [hrun]
    exact h
  · rw [hrun]
    exact h.putString i _

theorem Ready.setDeselected (h : Ready cpus c) (events : Bool) (o : StrDup) :
    Ready cpus (c.setDeselected events o).credential := by
  unfold CSampleCredential.setDeselected
  cases c.fields.strings SFI_PASSWORD with
  | none => exact h
  | some pw =>
    dsimp only
    split
    · exact h.putString SFI_PASSWORD _
    · exact h

theorem Ready.fillStrings (h : Ready cpus c) (o : SerializationCalls) :
    Ready cpus (c.fillStrings o) :=
  ((h.putString SFI_USERNAME _).setStringValue _ _ _).setStringValue _ _ _

theorem finishSerialization_credential (c : CSampleCredential) (o : SerializationCalls)
    (i : Initialised) (pk : Packed) (pcpgsr : SerializationResponse)
    (pcpcs : CredentialSerialization) :
    (finishSerialization c o i pk pcpgsr pcpcs).credential = c := by
  unfold finishSerialization
  dsimp only
  split
  · split
    · rfl
    · rfl
  · rfl

/-- However the call ends, the strings have been put into the fields. -/
theorem getSerialization_credential {o : SerializationCalls} {pcpgsr : SerializationResponse}
    {pcpcs : CredentialSerialization} {r : Serialized}
    (h : getSerialization c o pcpgsr pcpcs = some r) : r.credential = c.fillStrings o := by
  unfold getSerialization at h
  cases hc : c.cpus with
  | none =>
    rw [hc] at h
    cases h
  | some cpus =>
    rw [hc] at h
    dsimp only at h
    cases hn : o.computerName with
    | error dwErr =>
      rw [hn] at h
      obtain rfl := Option.some.inj h
      rfl
    | ok wsz =>
      rw [hn] at h
      dsimp only at h
      split at h
      · split at h
        · obtain ⟨pk, -, rfl⟩ := Option.map_eq_some_iff.mp h
          exact finishSerialization_credential _ _ _ _ _ _
        · obtain rfl := Option.some.inj h
          rfl
      · obtain rfl := Option.some.inj h
        rfl

theorem ready_preserved {o : CredentialCopies} (ho : o.AllOk) :
    Preserved callStep always (initialisedCredential cpus o) (Ready cpus) where
  init := Ready.initialised ho
  step := by
    intro c c' call hc _ hstep
    cases call with
    | field f =>
      obtain rfl := Option.some.inj hstep
      cases f with
      | setStringValue dwFieldID pwz o => exact hc.setStringValue dwFieldID pwz o
      | setDeselected events o => exact hc.setDeselected events o
      | getStringValue dwFieldID ppwsz o => exact hc
    | reportResult ntsStatus ntsSubstatus events o =>
      obtain rfl := Option.some.inj hstep
      exact hc
    | getSerialization o pcpgsr pcpcs =>
      obtain ⟨r, hr, rfl⟩ := Option.map_eq_some_iff.mp hstep
      rw [getSerialization_credential hr]
      exact hc.fillStrings o

/-- The user name is written directly, its field takes no `SetStringValue`; the password is
    set. -/
theorem Ready.filled (h : Ready cpus c) {o : SerializationCalls} (huser : o.dupUser = none)
    (hpw : o.dupPassword = none) :
    (c.fillStrings o).fields.strings SFI_USERNAME = some (wtUser o.strUser) ∧
      (c.fillStrings o).fields.strings SFI_PASSWORD = some (wlit "12345678-a") := by
  have hdup : ∀ s : WStr, (shStrDupW (some s) none).2 = some s := fun _ => rfl
  let c₁ := c.putString SFI_USERNAME (some (wtUser o.strUser))
  have h₁ : Ready cpus c₁ := h.putString SFI_USERNAME _
  have hrej : c₁.setStringValue SFI_USERNAME (wtUser o.strUser) o.dupUserValue =
      (E_INVALIDARG, c₁) := by
    obtain ⟨-, hrun⟩ | ⟨i, hi, ⟨j, hj, hcpft⟩, -⟩ :=
      setStringValue_cases c₁ SFI_USERNAME (wtUser o.strUser) o.dupUserValue
    · exact hrun
    · obtain rfl : j = SFI_USERNAME := Fin.ext hj
      rw [h₁.descriptors_eq] at hcpft
      exact absurd hcpft (by decide)
  have hacc : c₁.setStringValue SFI_PASSWORD (wlit "12345678-a") none =
      (S_OK, c₁.putString SFI_PASSWORD (some (wlit "12345678-a"))) := by
    obtain ⟨hno, -⟩ | ⟨i, hi, -, hrun⟩ :=
      setStringValue_cases c₁ SFI_PASSWORD (wlit "12345678-a") none
    · refine absurd ⟨SFI_PASSWORD, rfl, ?_⟩ hno
      rw [h₁.descriptors_eq]
      exact .inr rfl
    · obtain rfl : i = SFI_PASSWORD := Fin.ext hi
      exact hrun
  have hfill : c.fillStrings o = c₁.putString SFI_PASSWORD (some (wlit "12345678-a")) := by
    have hunfold : c.fillStrings o =
        (((c.putString SFI_USERNAME (shStrDupW (some (wtUser o.strUser)) o.dupUser).2).setStringValue
          SFI_USERNAME (wtUser o.strUser) o.dupUserValue).2.setStringValue SFI_PASSWORD
            (wlit "12345678-a") o.dupPassword).2 := rfl
    rw [hunfold, huser, hpw, hdup, hrej, hacc]
  rw [hfill]
  refine ⟨?_, putString_self c₁ SFI_PASSWORD _⟩
  rw [putString_ne c₁ (by decide)]
  exact putString_self c SFI_USERNAME _

end

/-! What is packed. -/

/-- What a call packs: the result, the structure Init has filled, and the buffer. -/
def Serialized.content (r : Serialized) :
    HRESULT × Option KerbInteractiveUnlockLogon × Option (List UInt8 × UInt32) :=
  (r.hr, r.filled, r.packed)

/-- The domain's name, or the computer's when the domain query fails. -/
def SerializationCalls.domainName (o : SerializationCalls) (d : WStr) : Prop :=
  o.domain = some (some d) ∨ (o.domain = none ∧ o.computerName = .ok d)

/-- The buffer is the packing of the domain name, the configured user and the protected
    copy of the fixed password. -/
def PacksFixed (cpus : UsageScenario) (o : SerializationCalls) (out : List UInt8 × UInt32) :
    Prop :=
  ∃ d pw t, o.domainName d ∧
    protectIfNecessaryAndCopyPassword (some (wlit "12345678-a")) cpus o.protect = (S_OK, some pw) ∧
    ScenarioType cpus t ∧
    kerbInteractiveUnlockLogonPack o.arch o.coTaskMemAlloc (referenced d (wtUser o.strUser) pw t) =
      some ⟨S_OK, some out⟩

/-- All that a packing needs: the computer's name, the protected password, three strings
    that Init takes, and the memory. -/
structure Packing (cpus : UsageScenario) (o : SerializationCalls) (d pw : WStr) (t : UInt32) :
    Prop where
  computerName : ∃ wsz, o.computerName = .ok wsz
  domainName : o.domainName d
  protected_eq :
    protectIfNecessaryAndCopyPassword (some (wlit "12345678-a")) cpus o.protect = (S_OK, some pw)
  packable : Packable (some d) (some (wtUser o.strUser)) (some pw) cpus d (wtUser o.strUser) pw t
  memory : (o.coTaskMemAlloc (packedSize o.arch (referenced d (wtUser o.strUser) pw t))).isSome

theorem SerializationCalls.domainName_unique {o : SerializationCalls} {d d' : WStr}
    (h : o.domainName d) (h' : o.domainName d') : d = d' := by
  obtain h | ⟨hn, h⟩ := h
  · obtain h' | ⟨hn', -⟩ := h'
    · exact Option.some.inj (Option.some.inj (h.symm.trans h'))
    · rw [h] at hn'
      cases hn'
  · obtain h' | ⟨-, h'⟩ := h'
    · rw [hn] at h'
      cases h'
    · exact Except.ok.inj (h.symm.trans h')

/-- Init fills the structure for strings that it takes. -/
theorem initWith_packable {domain user password : Option WStr} {cpus : UsageScenario}
    {d u p : WStr} {t : UInt32} (h : Packable domain user password cpus d u p t)
    (k : KerbInteractiveUnlockLogon) :
    initWith domain user password cpus k = ⟨S_OK, referenced d u p t, some (referenced d u p t)⟩ := by
  obtain ⟨d', u', p', t', h', hinit⟩ | ⟨hnone, -⟩ := init_spec domain user password cpus k
  · obtain rfl : d = d' := Option.some.inj (h.domain_eq.symm.trans h'.domain_eq)
    obtain rfl : u = u' := Option.some.inj (h.user_eq.symm.trans h'.user_eq)
    obtain rfl : p = p' := Option.some.inj (h.password_eq.symm.trans h'.password_eq)
    obtain rfl : t = t' := Option.some.inj
      (((messageTypeOf_eq_some_iff cpus t).mpr h.type_eq).symm.trans
        ((messageTypeOf_eq_some_iff cpus t').mpr h'.type_eq))
    unfold initWith
    rw [hinit]
    rfl
  · exact absurd h (hnone d u p t)

/-- What Init answers does not depend on what stands in the structure before. -/
theorem initWith_stack (domain user password : Option WStr) (cpus : UsageScenario)
    (k k' : KerbInteractiveUnlockLogon) :
    (initWith domain user password cpus k).hr = (initWith domain user password cpus k').hr ∧
      (initWith domain user password cpus k).filled =
        (initWith domain user password cpus k').filled ∧
      (succeeded (initWith domain user password cpus k).hr = true →
        (initWith domain user password cpus k).kiul =
          (initWith domain user password cpus k').kiul) := by
  unfold initWith kerbInteractiveUnlockLogonInit
  dsimp only
  split
  · split
    · split
      · split
        · exact ⟨rfl, rfl, fun _ => rfl⟩
        · exact ⟨rfl, rfl, fun h => (nomatch h)⟩
      · next hbad =>
        exact ⟨rfl, rfl, fun h => absurd h hbad⟩
    · next hbad =>
      exact ⟨rfl, rfl, fun h => absurd h hbad⟩
  · next hbad =>
    exact ⟨rfl, rfl, fun h => absurd h hbad⟩

/-- The same answers, with `k` on the stack. -/
def SerializationCalls.onStack (o : SerializationCalls) (k : KerbInteractiveUnlockLogon) :
    SerializationCalls := { o with kiul := k }

section
variable {o : SerializationCalls} {k k' : KerbInteractiveUnlockLogon} {i i' : Initialised}

/-- From the pack step on, two calls with the same structure. -/
theorem finish_content (c c' : CSampleCredential) (pk : Packed) (g g' : SerializationResponse)
    (s s' : CredentialSerialization) (hfill : i.filled = i'.filled) :
    (finishSerialization c (o.onStack k) i pk g s).content =
      (finishSerialization c' (o.onStack k') i' pk g' s').content := by
  unfold finishSerialization Serialized.content SerializationCalls.onStack
  dsimp only
  rw [hfill]
  split
  · split
    · rfl
    · rfl
  · rfl

theorem packAndFinish_content (c c' : CSampleCredential) (g g' : SerializationResponse)
    (s s' : CredentialSerialization) (hhr : i.hr = i'.hr) (hfill : i.filled = i'.filled)
    (hkiul : succeeded i.hr = true → i.kiul = i'.kiul) :
    (packAndFinish c (o.onStack k) i g s).map Serialized.content =
      (packAndFinish c' (o.onStack k') i' g' s').map Serialized.content := by
  unfold packAndFinish
  by_cases hok : succeeded i.hr = true
  · rw [if_pos hok, if_pos (hhr ▸ hok), hkiul hok, Option.map_map, Option.map_map]
    congr 1
    funext pk
    exact finish_content c c' pk g g' s s' hfill
  · rw [if_neg hok, if_neg (hhr ▸ hok)]
    unfold Serialized.content
    rw [Option.map_some, Option.map_some, hhr, hfill]

theorem finish_packed (c : CSampleCredential) (o : SerializationCalls) (i : Initialised)
    (pk : Packed) (g : SerializationResponse) (s : CredentialSerialization) :
    (finishSerialization c o i pk g s).packed = pk.out := by
  unfold finishSerialization
  dsimp only
  split
  · split
    · rfl
    · rfl
  · rfl

/-- A buffer that was packed is the packing of the structure. -/
theorem packAndFinish_packed {c : CSampleCredential} {g : SerializationResponse}
    {s : CredentialSerialization} {r : Serialized} {out : List UInt8 × UInt32}
    (h : packAndFinish c o i g s = some r) (hout : r.packed = some out) :
    succeeded i.hr = true ∧
      kerbInteractiveUnlockLogonPack o.arch o.coTaskMemAlloc i.kiul = some ⟨S_OK, some out⟩ := by
  unfold packAndFinish at h
  split at h
  · next hi =>
    obtain ⟨pk, hpk, rfl⟩ := Option.map_eq_some_iff.mp h
    rw [finish_packed] at hout
    obtain ⟨-, rfl⟩ | ⟨-, rgb, rfl⟩ := pack_cases hpk
    · cases hout
    · obtain rfl := Option.some.inj hout
      exact ⟨hi, hpk⟩
  · obtain rfl := Option.some.inj h
    cases hout

end

/-! Two histories. -/

section
variable {cpus : UsageScenario} {o : SerializationCalls}

/-- The call on a credential that is ready. -/
theorem Ready.getSerialization_eq {c : CSampleCredential} (h : Ready cpus c)
    (huser : o.dupUser = none) (hpw : o.dupPassword = none) (g : SerializationResponse)
    (s : CredentialSerialization) :
    getSerialization c o g s =
      let pw := protectIfNecessaryAndCopyPassword (some (wlit "12345678-a")) cpus o.protect
      match o.computerName with
      | .error dwErr => some ⟨hresultFromWin32 dwErr, c.fillStrings o, g, s, none, none⟩
      | .ok wsz =>
        if succeeded pw.1 then
          packAndFinish (c.fillStrings o) o
            (initStructure pw.1 wsz (some (wtUser o.strUser)) pw.2 cpus o) g s
        else some ⟨pw.1, c.fillStrings o, g, s, none, none⟩ := by
  obtain ⟨hu, hp⟩ := h.filled huser hpw
  unfold getSerialization
  rw [h.cpus_eq]
  dsimp only
  rw [hu, hp]
  rfl

/-- With a domain name Init is called, whatever stands on the stack. -/
theorem initStructure_initWith (cpus : UsageScenario) (hd : o.domain ≠ some none) (hr : HRESULT) {wsz : WStr}
    (hn : o.computerName = .ok wsz) (user password : Option WStr) :
    ∃ d, o.domainName d ∧ ∀ k, initStructure hr wsz user password cpus (o.onStack k) =
      initWith (some d) user password cpus k := by
  cases hdom : o.domain with
  | none =>
    refine ⟨wsz, .inr ⟨hdom, hn⟩, fun k => ?_⟩
    unfold initStructure SerializationCalls.onStack
    rw [hdom]
  | some flat =>
    cases flat with
    | none => exact absurd hdom hd
    | some flat =>
      refine ⟨flat, .inl hdom, fun k => ?_⟩
      unfold initStructure SerializationCalls.onStack
      rw [hdom]

/-- The same on its own stack. -/
theorem initStructure_domainName (cpus : UsageScenario) (hd : o.domain ≠ some none) (hr : HRESULT)
    {wsz : WStr} (hn : o.computerName = .ok wsz) (user password : Option WStr) :
    ∃ d, o.domainName d ∧ initStructure hr wsz user password cpus o =
      initWith (some d) user password cpus o.kiul := by
  obtain ⟨d, hdom, hinit⟩ := initStructure_initWith cpus hd hr hn user password
  exact ⟨d, hdom, hinit o.kiul⟩

/-- A protected copy is there when the result says so. -/
theorem protect_cases (cpus : UsageScenario) (pwz : WStr) (calls : ProtectCalls) :
    (∃ pw, protectIfNecessaryAndCopyPassword (some pwz) cpus calls = (S_OK, some pw)) ∨
    ((protectIfNecessaryAndCopyPassword (some pwz) cpus calls).2 = none) := by
  have hdup : ∀ s, (∃ pw, shStrDupW (some s) calls.dup = (S_OK, some pw)) ∨
      (shStrDupW (some s) calls.dup).2 = none := by
    intro s
    obtain ⟨-, h⟩ | ⟨e, -, h⟩ := shStrDupW_cases s calls.dup
    · exact .inl ⟨s, h⟩
    · rw [h]
      exact .inr rfl
  unfold protectIfNecessaryAndCopyPassword
  dsimp only
  split
  · exact hdup _
  · split
    · exact hdup _
    · unfold protectAndCopyString
      split
      · exact .inr rfl
      · split
        · split
          · split
            · next s _ => exact .inl ⟨s, rfl⟩
            · exact .inr rfl
          · exact .inr rfl
        · exact .inr rfl

section
variable {c : CSampleCredential} (h : Ready cpus c) (huser : o.dupUser = none)
  (hpw : o.dupPassword = none) (hd : o.domain ≠ some none) {g : SerializationResponse}
  {s : CredentialSerialization}
include h huser hpw hd

/-- A call that packs had all it needs, and packs just that. -/
theorem Ready.packed {r : Serialized} {out : List UInt8 × UInt32}
    (hr : getSerialization c o g s = some r) (hout : r.packed = some out) :
    ∃ d pw t, Packing cpus o d pw t ∧
      kerbInteractiveUnlockLogonPack o.arch o.coTaskMemAlloc
        (referenced d (wtUser o.strUser) pw t) = some ⟨S_OK, some out⟩ := by
  rw [h.getSerialization_eq huser hpw] at hr
  dsimp only at hr
  cases hn : o.computerName with
  | error dwErr =>
    rw [hn] at hr
    obtain rfl := Option.some.inj hr
    cases hout
  | ok wsz =>
    rw [hn] at hr
    dsimp only at hr
    split at hr
    · obtain ⟨d, hdom, hinit⟩ := initStructure_domainName cpus hd
        (protectIfNecessaryAndCopyPassword (some (wlit "12345678-a")) cpus o.protect).1 hn
        (some (wtUser o.strUser))
        (protectIfNecessaryAndCopyPassword (some (wlit "12345678-a")) cpus o.protect).2
      obtain ⟨hok, hpack⟩ := packAndFinish_packed hr hout
      rw [hinit] at hok hpack
      obtain ⟨d', u, p, t, hp, -⟩ | ⟨-, hbad, -⟩ := init_spec (some d) (some (wtUser o.strUser))
        (protectIfNecessaryAndCopyPassword (some (wlit "12345678-a")) cpus o.protect).2 cpus o.kiul
      · rw [initWith_packable hp] at hpack
        obtain rfl := Option.some.inj hp.domain_eq
        obtain rfl := Option.some.inj hp.user_eq
        obtain ⟨pw, hprotect⟩ | hnone := protect_cases cpus (wlit "12345678-a") o.protect
        · rw [hprotect] at hp
          obtain rfl := Option.some.inj hp.password_eq
          obtain ⟨-, hnot⟩ | ⟨hmem, -⟩ := pack_cases hpack
          · cases hnot
          · exact ⟨d, pw, t, ⟨⟨wsz, hn⟩, hdom, hprotect, hp, hmem⟩, hpack⟩
        · rw [hnone] at hp
          cases hp.password_eq
      · exact absurd (hok.symm.trans hbad) (by simp)
    · obtain rfl := Option.some.inj hr
      cases hout

/-- The call packs a buffer exactly when it has all it needs. -/
theorem Ready.packs_iff :
    (∃ r out, getSerialization c o g s = some r ∧ r.packed = some out) ↔
      ∃ d pw t, Packing cpus o d pw t := by
  constructor
  · rintro ⟨r, out, hr, hout⟩
    obtain ⟨d, pw, t, hp, -⟩ := h.packed huser hpw hd hr hout
    exact ⟨d, pw, t, hp⟩
  · rintro ⟨d, pw, t, hp⟩
    obtain ⟨wsz, hn⟩ := hp.computerName
    obtain ⟨d', hdom, hinit⟩ := initStructure_domainName cpus hd S_OK hn
      (some (wtUser o.strUser)) (some pw)
    obtain rfl := o.domainName_unique hp.domainName hdom
    obtain ⟨pk, hpk, -, -⟩ := pack_spec o.arch o.coTaskMemAlloc hp.packable.domain_le
      hp.packable.user_le hp.packable.password_le t
    rw [h.getSerialization_eq huser hpw, hn, hp.protected_eq]
    dsimp only
    rw [if_pos (show succeeded S_OK = true from rfl), hinit, initWith_packable hp.packable]
    unfold packAndFinish
    rw [if_pos (show succeeded S_OK = true from rfl), hpk, Option.map_some]
    obtain ⟨hnone, -⟩ | ⟨-, rgb, rfl⟩ := pack_cases hpk
    · have hmem := hp.memory
      rw [hnone] at hmem
      cases hmem
    · exact ⟨_, _, rfl, finish_packed _ _ _ _ _ _⟩

end

variable {i₁ i₂ : CredentialCopies} {c₁ c₂ : CSampleCredential}

end

/-- A computer in a domain, where everything works. -/
def domainCalls : SerializationCalls := { nullDomainCalls with domain := some (some (wlit "csic710")) }

/-- The user types a password, leaves the tile, and a first logon fails. -/
def typedHistory : List CredentialCall :=
  [.field (.setStringValue SFI_PASSWORD (wlit "secret") none), .field (.setDeselected true none),
    .getSerialization domainCalls .noCredentialNotFinished ⟨0, .other 0, 0, none⟩,
    .reportResult STATUS_LOGON_FAILURE STATUS_SUCCESS true none]

/-- The password that is packed: the fixed one behind the mark. -/
theorem domainCalls_packing :
    Packing .logon domainCalls (wlit "csic710") (wlit "@@D12345678-a") kerbInteractiveLogon where
  computerName := ⟨wlit "PC", rfl⟩
  domainName := .inl rfl
  protected_eq := by decide +kernel
  packable := ⟨rfl, rfl, rfl, by decide, by decide, by decide, .inl ⟨rfl, rfl⟩⟩
  memory := rfl

end CardLogon
