import CardLogon.GuardedRun
import CardLogon.Provider
import CardLogon.Serialization

/- Sequences of `SetUsageScenario` calls on one provider, and what a logon attempt
   finds after them.

   A run starts at the constructor, in any world, and makes any calls with any
   outcome of the calls they make in turn. A scenario value outside the enumeration
   takes the default branch, as CPUS_INVALID does.

   What is proved:
     1. `objects_all_or_none`: the three pointers are all NULL or all set, NULL
        after a failed logon or unlock call, set after S_OK, to objects of their
        classes, and never change again.
     2. `copies_reported_iff`: S_OK after a creation means complete tiles, and a
        failed string copy is what the call returns, exactly when no copy fails.
        The two `Initialize` methods return S_OK whatever happened
        (`label_copy_swallowed`).
     3. `last_scenario_packed_iff`: a logon attempt packs the message type of the
        scenario of the first call, the one that created the credential, so that of
        the last call only where the two agree (`unlock_packed_as_logon`). -/
namespace CardLogon
open CText GuardedRun ByteImage

/-- A provider and the world it runs in. -/
abbrev Session := CSampleProvider × World

/-- A `SetUsageScenario` call. -/
abbrev ScenarioCall := UsageScenario × Outcomes

def scenarioStep (s : Session) (a : ScenarioCall) : Option Session :=
  (setUsageScenario s.1 a.1 a.2 s.2).map fun r => (r.1.2, r.2)

/-! The three pointers. -/

/-- All three pointers are set. -/
def CSampleProvider.allSet (p : CSampleProvider) : Bool :=
  p.pCredential.isSome && p.pMessageCredential.isSome && p.pCommandWindow.isSome

/-- The two hold the same objects. -/
def SameObjects (p p' : CSampleProvider) : Prop :=
  p'.pCredential = p.pCredential ∧ p'.pMessageCredential = p.pMessageCredential ∧
    p'.pCommandWindow = p.pCommandWindow

/-- The pointers are to a credential, a message credential and a window that has the
    provider. -/
structure HoldsObjects (p : CSampleProvider) (w : World) : Prop where
  credential : ∃ a c, p.pCredential = some a ∧ w.lookup a = some (.credential c)
  message : ∃ a m, p.pMessageCredential = some a ∧ w.lookup a = some (.message m)
  window : ∃ a, p.pCommandWindow = some a ∧ w.lookup a = some (.window ⟨true⟩)

/-- What a call returns, and the pointers it leaves. -/
structure PointersAfter (cpus : UsageScenario) (hr : HRESULT) (p' : CSampleProvider) : Prop where
  together : p'.unset = true ∨ p'.allSet = true
  failed : cpus.supported = true → succeeded hr = false → p'.unset = true
  ok : hr = S_OK → p'.allSet = true

/-- The provider is as constructed but for the scenario, or it holds all three objects. -/
def PointersOk (p : CSampleProvider) : Prop := (p.unset = true ∧ p.cRef = 1) ∨ p.allSet = true

theorem unset_of_allSet {p : CSampleProvider} (h : p.allSet = true) : p.unset = false := by
  simp only [CSampleProvider.allSet, Bool.and_eq_true] at h
  obtain ⟨⟨hc, -⟩, -⟩ := h
  obtain ⟨a, ha⟩ := Option.isSome_iff_exists.mp hc
  simp [CSampleProvider.unset, ha]

/-- One call, from a provider whose pointers are together. -/
theorem pointers_call {p p' : CSampleProvider} {cpus : UsageScenario} {o : Outcomes}
    {w w' : World} {hr : HRESULT} (hp : PointersOk p)
    (h : setUsageScenario p cpus o w = some ((hr, p'), w')) :
    PointersOk p' ∧ PointersAfter cpus hr p' ∧ (p.allSet = true → SameObjects p p') := by
  obtain ⟨hs, hbad, rfl, -⟩ | ⟨hs, hu, rfl, rfl, -⟩ | ⟨hs, hu, -, rfl, rfl, -⟩ |
    ⟨hs, hu, -, hbad, rfl, -⟩ := setUsageScenario_cases h
  · refine ⟨hp, ⟨?_, ?_, ?_⟩, fun _ => ⟨rfl, rfl, rfl⟩⟩
    · exact hp.imp And.left id
    · intro hs'
      rw [hs] at hs'
      cases hs'
    · intro hok
      rw [hok] at hbad
      cases hbad
  · have hset : p.allSet = true := by
      obtain ⟨hu', -⟩ | hset := hp
      · rw [hu] at hu'
        cases hu'
      · exact hset
    exact ⟨.inr hset, ⟨.inr hset, fun _ h => (nomatch h), fun _ => hset⟩, fun _ => ⟨rfl, rfl, rfl⟩⟩
  · refine ⟨.inr rfl, ⟨.inr rfl, fun _ h => (nomatch h), fun _ => rfl⟩, ?_⟩
    intro hset
    rw [unset_of_allSet hset] at hu
    cases hu
  · have hone : p.cRef = 1 := by
      obtain ⟨-, hone⟩ | hset := hp
      · exact hone
      · rw [unset_of_allSet hset] at hu
        cases hu
    refine ⟨.inl ⟨hu, hone⟩, ⟨.inl hu, fun _ _ => hu, ?_⟩, fun _ => ⟨rfl, rfl, rfl⟩⟩
    intro hok
    rw [hok] at hbad
    cases hbad

/-- The objects of a creation, and those that were there. -/
theorem holdsObjects_call {p p' : CSampleProvider} {cpus : UsageScenario} {o : Outcomes}
    {w w' : World} {hr : HRESULT} (hp : p.allSet = true → HoldsObjects p w)
    (h : setUsageScenario p cpus o w = some ((hr, p'), w')) (hset : p'.allSet = true) :
    HoldsObjects p' w' := by
  obtain ⟨-, -, rfl, rfl⟩ | ⟨-, -, -, rfl, rfl⟩ | ⟨-, -, -, -, rfl, rfl⟩ | ⟨-, hu, -, -, rfl, -⟩ :=
    setUsageScenario_cases h
  · exact hp hset
  · obtain ⟨hc, hm, hw⟩ := hp hset
    exact ⟨hc, hm, hw⟩
  · exact
      { credential := ⟨_, _, rfl, lookup_tail w.objs (createdObjs (some cpus) o) _ _ 0⟩
        message := ⟨_, _, rfl, lookup_tail w.objs (createdObjs (some cpus) o) _ _ 1⟩
        window := ⟨_, rfl, lookup_tail w.objs (createdObjs (some cpus) o) _ _ 2⟩ }
  · have hno := unset_of_allSet hset
    rw [show CSampleProvider.unset { p with cpus := some cpus } = p.unset from rfl, hu] at hno
    cases hno

theorem pointersOk_defined {p : CSampleProvider} (hp : PointersOk p) (cpus : UsageScenario)
    (o : Outcomes) (w : World) :
    ∃ hr p' w', setUsageScenario p cpus o w = some ((hr, p'), w') := by
  apply setUsageScenario_defined
  intro hu
  obtain ⟨-, hone⟩ | hset := hp
  · rw [hone]
    decide
  · rw [unset_of_allSet hset] at hu
    cases hu

theorem scenarioStep_eq_some {s s' : Session} {a : ScenarioCall} (h : scenarioStep s a = some s') :
    ∃ hr, setUsageScenario s.1 a.1 a.2 s.2 = some ((hr, s'.1), s'.2) := by
  obtain ⟨⟨⟨hr, p'⟩, w'⟩, hcall, rfl⟩ := Option.map_eq_some_iff.mp h
  exact ⟨hr, hcall⟩

theorem pointersOk_preserved (w₀ : World) :
    Preserved scenarioStep always (CSampleProvider.new, w₀)
      (fun s => PointersOk s.1 ∧ (s.1.allSet = true → HoldsObjects s.1 s.2)) where
  init := ⟨.inl ⟨rfl, rfl⟩, fun h => nomatch h⟩
  step hi _ h := by
    obtain ⟨hr, hcall⟩ := scenarioStep_eq_some h
    exact ⟨(pointers_call hi.1 hcall).1, holdsObjects_call hi.2 hcall⟩

/-- Objects that are there stay. -/
theorem sameObjects_preserved {s : Session} (hset : s.1.allSet = true)
    (hold : HoldsObjects s.1 s.2) :
    Preserved scenarioStep always s
      (fun s' => s'.1.allSet = true ∧ SameObjects s.1 s'.1 ∧ HoldsObjects s'.1 s'.2) where
  init := ⟨hset, ⟨rfl, rfl, rfl⟩, hold⟩
  step {s₁ s₂ a} hi _ h := by
    obtain ⟨hset₁, ⟨h₁, h₂, h₃⟩, hold₁⟩ := hi
    obtain ⟨hr, hcall⟩ := scenarioStep_eq_some h
    obtain ⟨-, -, hsame⟩ := pointers_call (.inr hset₁) hcall
    obtain ⟨k₁, k₂, k₃⟩ := hsame hset₁
    have hset₂ : s₂.1.allSet = true := by
      unfold CSampleProvider.allSet at hset₁ ⊢
      rw [k₁, k₂, k₃, hset₁]
    exact ⟨hset₂, ⟨k₁.trans h₁, k₂.trans h₂, k₃.trans h₃⟩,
      holdsObjects_call (fun _ => hold₁) hcall hset₂⟩

/-- After any calls: the three pointers are all NULL or all set, to objects of their
    classes; the next call has a result, keeps it so, leaves NULL when it fails and objects
    when it returns S_OK; and objects that are there stay the same in all later calls. -/
theorem objects_all_or_none (w₀ : World) (s : Session)
    (h : Reachable scenarioStep always (CSampleProvider.new, w₀) s) :
    (s.1.unset = true ∨ s.1.allSet = true) ∧ (s.1.allSet = true → HoldsObjects s.1 s.2) ∧
    (∀ cpus o, ∃ hr p' w', setUsageScenario s.1 cpus o s.2 = some ((hr, p'), w') ∧
      PointersAfter cpus hr p' ∧ (p'.allSet = true → HoldsObjects p' w')) ∧
    (s.1.allSet = true → ∀ s', Reachable scenarioStep always s s' →
      SameObjects s.1 s'.1 ∧ HoldsObjects s'.1 s'.2) := by
  obtain ⟨hp, hold⟩ := h.holds (pointersOk_preserved w₀)
  refine ⟨hp.imp And.left id, hold, ?_, ?_⟩
  · intro cpus o
    obtain ⟨hr, p', w', hcall⟩ := pointersOk_defined hp cpus o s.2
    exact ⟨hr, p', w', hcall, (pointers_call hp hcall).2.1, holdsObjects_call hold hcall⟩
  · intro hset s' hs'
    exact (hs'.holds (sameObjects_preserved hset (hold hset))).2

/-- Every call and every copy succeeds. -/
def allWell : Outcomes := ⟨true, true, true, none, allCopied, ⟨fun _ => none, none⟩⟩

/-- Before anything has happened. -/
def emptyWorld : World := ⟨[], 0, []⟩

/-- No memory for the message credential, then a creation that goes through. -/
def retryCalls : List ScenarioCall :=
  [(.logon, { allWell with newMessage := false }), (.unlockWorkstation, allWell)]

theorem retry_keeps_objects :
    let s := final scenarioStep always (CSampleProvider.new, emptyWorld) retryCalls
    s.1.allSet = true ∧ ∀ s', Reachable scenarioStep always s s' →
      SameObjects s.1 s'.1 ∧ HoldsObjects s'.1 s'.2 :=
  have hset : (final scenarioStep always (CSampleProvider.new, emptyWorld) retryCalls).1.allSet =
      true := by decide +kernel
  ⟨hset, (objects_all_or_none emptyWorld _ (reachable_final retryCalls)).2.2.2 hset⟩

/-! The string copies of a creation. -/

/-- The credential and the message credential of the provider are complete. -/
def TilesFilled (p : CSampleProvider) (w : World) : Prop :=
  (∃ a c, p.pCredential = some a ∧ w.lookup a = some (.credential c) ∧
    c.Filled rgCredProvFieldDescriptors rgFieldStatePairs) ∧
  (∃ a m, p.pMessageCredential = some a ∧ w.lookup a = some (.message m) ∧
    m.Filled rgMessageCredProvFieldDescriptors rgMessageFieldStatePairs)

/-- S_OK after a creation means complete tiles, and a string copy that failed during the
    call is what the call returns. -/
def CopiesReported (p : CSampleProvider) (cpus : UsageScenario) (o : Outcomes) (w : World) :
    Prop :=
  ∀ hr p' w', setUsageScenario p cpus o w = some ((hr, p'), w') →
    (hr = S_OK → p.unset = true → TilesFilled p' w') ∧
    ∀ ds e, w'.log = w.log ++ ds → .copied e ∈ ds → succeeded e = false → hr = e

/-- The call gets as far as the copies. -/
def reachesCopies (p : CSampleProvider) (cpus : UsageScenario) (o : Outcomes) : Bool :=
  cpus.supported && p.unset && o.creates

/-- All nine copies succeed, if they are made. -/
def Outcomes.AllCopied (o : Outcomes) : Prop := o.credential.AllOk ∧ o.message.AllOk

theorem createdCopies_eq (cpus : Option UsageScenario) (o : Outcomes) :
    createdCopies cpus o =
      (CSampleCredential.new.copyIn rgCredProvFieldDescriptors rgFieldStatePairs
        o.credential).copies ++
      (CMessageCredential.new.copyIn rgMessageCredProvFieldDescriptors rgMessageFieldStatePairs
        (some (wlit "请连接")) o.message).copies := by
  simp only [createdCopies, CSampleCredential.initializeFields, CMessageCredential.initializeFields]

/-- The copies of a creation, by the running `hr` of the two `Initialize` methods. -/
theorem createdCopies_spec (cpus : Option UsageScenario) (o : Outcomes) :
    (o.AllCopied → ∀ e ∈ createdCopies cpus o, e = S_OK) ∧
    (¬ o.AllCopied → ∃ e ∈ createdCopies cpus o, succeeded e = false) := by
  obtain ⟨t₁, h₁⟩ := @sampleCredential_hr_iff rgFieldStatePairs _
    rgCredProvFieldDescriptors_label o.credential .new
  obtain ⟨t₂, h₂⟩ := @messageCredential_hr_iff rgMessageFieldStatePairs _
    rgMessageCredProvFieldDescriptors_label (wlit "请连接") o.message .new
  rw [createdCopies_eq]
  constructor
  · intro ⟨ho₁, ho₂⟩ e he
    obtain he | he := List.mem_append.mp he
    · obtain ⟨-, hall⟩ | ⟨hbad, -⟩ := t₁
      · exact hall e he
      · rw [h₁.mpr ho₁] at hbad
        cases hbad
    · obtain ⟨-, hall⟩ | ⟨hbad, -⟩ := t₂
      · exact hall e he
      · rw [h₂.mpr ho₂] at hbad
        cases hbad
  · intro hno
    obtain ⟨hok₁, -⟩ | ⟨hbad, hmem⟩ := t₁
    · obtain ⟨hok₂, -⟩ | ⟨hbad, hmem⟩ := t₂
      · exact absurd ⟨h₁.mp hok₁, h₂.mp hok₂⟩ hno
      · exact ⟨_, List.mem_append.mpr (.inr hmem), hbad⟩
    · exact ⟨_, List.mem_append.mpr (.inl hmem), hbad⟩

/-- What a creation notes about its copies. -/
theorem copied_mem_iff (n : Addr) (es : List HRESULT) (e : HRESULT) :
    Deed.copied e ∈ acquiredAt n 3 ++ es.map .copied ↔ e ∈ es := by
  simp [acquiredAt]

/-- Copies that all succeed fill the tiles. -/
theorem tilesFilled_of_allCopied {cpus : UsageScenario} {o : Outcomes} (ho : o.AllCopied)
    (p : CSampleProvider) (w : World) (g : Int32) (ds : List Deed) :
    TilesFilled (p.withObjects w.objs.length) ⟨w.objs ++ createdObjs (some cpus) o, g, ds⟩ := by
  have hl₁ := lookup_tail w.objs (createdObjs (some cpus) o) g ds 0
  rw [Nat.add_zero] at hl₁
  have hl₂ := lookup_tail w.objs (createdObjs (some cpus) o) g ds 1
  exact ⟨⟨_, _, rfl, hl₁, sampleCredential_filled rgCredProvFieldDescriptors_label _ _ _ ho.1⟩,
    ⟨_, _, rfl, hl₂, messageCredential_filled rgMessageCredProvFieldDescriptors_label _ _ _ ho.2⟩⟩

/-- In any state of the provider and the world: the copies are reported exactly when the
    call does not reach them or none of them fails. -/
theorem copies_reported_iff (p : CSampleProvider) (cpus : UsageScenario) (o : Outcomes)
    (w : World) :
    CopiesReported p cpus o w ↔ (reachesCopies p cpus o = true → o.AllCopied) := by
  unfold reachesCopies
  constructor
  · intro h hreach
    simp only [Bool.and_eq_true] at hreach
    obtain ⟨⟨hs, hp⟩, ho⟩ := hreach
    obtain ⟨-, hfail⟩ := h _ _ _ (setUsageScenario_creates hs hp ho w)
    by_contra hno
    obtain ⟨e, he, hbad⟩ := (createdCopies_spec (some cpus) o).2 hno
    have hr := hfail _ e (List.append_assoc _ _ _) ((copied_mem_iff _ _ _).mpr he) hbad
    rw [← hr] at hbad
    cases hbad
  · intro hall hr p' w' h
    obtain ⟨-, hbad, -, rfl⟩ | ⟨-, hu, -, -, rfl⟩ | ⟨hs, hu, ho, rfl, rfl, rfl⟩ |
      ⟨-, -, -, hbad, -, hundo⟩ := setUsageScenario_cases h
    · refine ⟨fun hok => ?_, fun ds e hds hmem => ?_⟩
      · rw [hok] at hbad
        cases hbad
      · rw [List.self_eq_append_right.mp hds] at hmem
        cases hmem
    · refine ⟨fun _ hu' => ?_, fun ds e hds hmem => ?_⟩
      · rw [hu] at hu'
        cases hu'
      · rw [List.self_eq_append_right.mp hds] at hmem
        cases hmem
    · have hcopied : o.AllCopied := hall (by rw [hs, hu, ho]; rfl)
      refine ⟨fun _ _ => tilesFilled_of_allCopied hcopied _ _ _ _, fun ds e hds hmem hbad => ?_⟩
      obtain rfl := List.append_cancel_left ((List.append_assoc _ _ _).symm.trans hds)
      exact ((createdCopies_spec (some cpus) o).1 hcopied e
        ((copied_mem_iff _ _ _).mp hmem)).symm
    · refine ⟨fun hok => ?_, fun ds e hds hmem => ?_⟩
      · rw [hok] at hbad
        cases hbad
      · obtain ⟨ds', hlog, -, hno⟩ := hundo.log
        rw [hlog] at hds
        obtain rfl := List.append_cancel_left hds
        exact absurd hmem (hno e)

/-- The copy of the first label runs out of memory. -/
def noLabelMemory : Outcomes :=
  { allWell with
    credential := { allCopied with label := fun _ => some ⟨E_OUTOFMEMORY, rfl⟩ } }

/-- The provider answers S_OK over a credential without fields. -/
theorem label_copy_swallowed : ¬ ∀ p cpus o w, CopiesReported p cpus o w := by
  intro hall
  obtain ⟨-, hfail⟩ := hall .new .logon noLabelMemory emptyWorld _ _ _
    (setUsageScenario_creates rfl rfl rfl emptyWorld)
  have hmem : E_OUTOFMEMORY ∈ createdCopies (some .logon) noLabelMemory := by decide +kernel
  have hr := hfail _ E_OUTOFMEMORY (List.append_assoc _ _ _) ((copied_mem_iff _ _ _).mpr hmem) rfl
  exact absurd hr (by decide)

/-! The scenario a logon attempt is for. -/

/-- A call for logon or unlock that returns S_OK. -/
def okScenarioStep (s : Session) (a : ScenarioCall) : Option Session :=
  match setUsageScenario s.1 a.1 a.2 s.2 with
  | some ((hr, p'), w') =>
    if a.1.supported = true ∧ hr = S_OK then some (p', w') else none
  | none => none

/-- The scenario of the last call. -/
def lastScenario (first : ScenarioCall) (calls : List ScenarioCall) : UsageScenario :=
  ((first :: calls).getLast (List.cons_ne_nil _ _)).1

/-- The buffer packed by the call begins with the message type of the scenario. -/
def PacksTypeOf (cpus : UsageScenario) (r : Serialized) : Prop :=
  ∃ rgb cb t, r.packed = some (rgb, cb) ∧ ScenarioType cpus t ∧ peekVal rgb 0 4 = some t.toNat

/-- The provider's objects are set, and its credential is for this scenario. -/
structure CredentialFor (first : UsageScenario) (s : Session) : Prop where
  set : s.1.allSet = true
  credential : ∃ a c, s.1.pCredential = some a ∧ s.2.lookup a = some (.credential c) ∧
    c.cpus = some first

theorem okScenarioStep_cases {s s' : Session} {a : ScenarioCall}
    (h : okScenarioStep s a = some s') :
    a.1.supported = true ∧ setUsageScenario s.1 a.1 a.2 s.2 = some ((S_OK, s'.1), s'.2) := by
  unfold okScenarioStep at h
  split at h
  · next hr p' w' hcall =>
    split at h
    · next hok =>
      obtain rfl := Option.some.inj h
      exact ⟨hok.1, by rw [hcall, hok.2]⟩
    · cases h
  · cases h

/-- The first call creates the credential for its scenario. -/
theorem credentialFor_first {w₀ : World} {s : Session} {a : ScenarioCall}
    (h : okScenarioStep (CSampleProvider.new, w₀) a = some s) : CredentialFor a.1 s := by
  obtain ⟨hs, hcall⟩ := okScenarioStep_cases h
  obtain ⟨hs', -⟩ | ⟨-, hu, -⟩ | ⟨-, -, -, -, hp, hw⟩ | ⟨-, -, -, hbad, -⟩ :=
    setUsageScenario_cases hcall
  · rw [hs] at hs'
    cases hs'
  · cases hu
  · have hl := lookup_tail w₀.objs (createdObjs (some a.1) a.2) (w₀.gRef + 1 + 1)
      (w₀.log ++ acquiredAt w₀.objs.length 3 ++ (createdCopies (some a.1) a.2).map .copied) 0
    rw [Nat.add_zero] at hl
    refine ⟨by rw [hp]; rfl, w₀.objs.length, _, by rw [hp]; rfl, by rw [hw]; exact hl, rfl⟩
  · cases hbad

/-- A later call changes the provider's scenario only. -/
theorem credentialFor_later {first : UsageScenario} {s s' : Session} {a : ScenarioCall}
    (hi : CredentialFor first s) (h : okScenarioStep s a = some s') : CredentialFor first s' := by
  obtain ⟨hs, hcall⟩ := okScenarioStep_cases h
  have hu := unset_of_allSet hi.set
  rw [setUsageScenario_set hs hu] at hcall
  obtain ⟨hp, hw⟩ := Prod.mk.inj (Option.some.inj hcall)
  obtain ⟨-, hp⟩ := Prod.mk.inj hp
  exact ⟨by rw [← hp]; exact hi.set, by rw [← hp, ← hw]; exact hi.credential⟩

theorem credentialFor_run {first : UsageScenario} : ∀ (calls : List ScenarioCall) {s s' : Session},
    CredentialFor first s → runFrom okScenarioStep always s calls = some s' →
    CredentialFor first s'
  | [], s, s', hi, h => by
    obtain rfl : s = s' := by simpa [runFrom] using h
    exact hi
  | a :: calls, s, s', hi, h => by
    simp only [runFrom, always, if_true] at h
    obtain ⟨s₁, h₁, h₂⟩ := Option.bind_eq_some_iff.mp h
    exact credentialFor_run calls (credentialFor_later hi h₁) h₂

theorem okScenarioStep_supported {s s' : Session} {a : ScenarioCall}
    (h : okScenarioStep s a = some s') : a.1 = .logon ∨ a.1 = .unlockWorkstation := by
  obtain ⟨hs, -⟩ := okScenarioStep_cases h
  revert hs
  cases a.1 with
  | logon => exact fun _ => .inl rfl
  | unlockWorkstation => exact fun _ => .inr rfl
  | _ => exact fun hs => (nomatch hs)

/-- Every call of a run of such calls is for logon or unlock. -/
theorem run_supported : ∀ (calls : List ScenarioCall) {s s' : Session},
    runFrom okScenarioStep always s calls = some s' →
    ∀ a ∈ calls, a.1 = .logon ∨ a.1 = .unlockWorkstation
  | [], _, _, _ => fun _ ha => (nomatch ha)
  | a :: calls, s, s', h => by
    simp only [runFrom, always, if_true] at h
    obtain ⟨s₁, h₁, h₂⟩ := Option.bind_eq_some_iff.mp h
    exact List.forall_mem_cons.mpr ⟨okScenarioStep_supported h₁, run_supported calls h₂⟩

/-- The two scenarios have different message types. -/
theorem scenarioType_iff {a b : UsageScenario} {t : UInt32}
    (ha : a = .logon ∨ a = .unlockWorkstation) (hb : b = .logon ∨ b = .unlockWorkstation)
    (ht : ScenarioType a t) : ScenarioType b t ↔ a = b := by
  rw [← messageTypeOf_eq_some_iff] at ht ⊢
  obtain rfl | rfl := ha
  · obtain rfl | rfl := hb
    · exact ⟨fun _ => rfl, fun _ => ht⟩
    · obtain rfl := Option.some.inj ht
      decide
  · obtain rfl | rfl := hb
    · obtain rfl := Option.some.inj ht
      decide
    · exact ⟨fun _ => rfl, fun _ => ht⟩

/-- A buffer that begins with `t` packs the type of a scenario exactly when `t` is it. -/
theorem packsTypeOf_iff {cpus : UsageScenario} {r : Serialized} {rgb : List UInt8} {cb t : UInt32}
    (hp : r.packed = some (rgb, cb)) (ht : peekVal rgb 0 4 = some t.toNat) :
    PacksTypeOf cpus r ↔ ScenarioType cpus t := by
  constructor
  · intro ⟨rgb', cb', t', hp', hst, ht'⟩
    rw [hp] at hp'
    obtain ⟨rfl, -⟩ := Prod.mk.inj (Option.some.inj hp')
    rw [ht] at ht'
    rw [UInt32.toNat_inj.mp (Option.some.inj ht')]
    exact hst
  · intro hst
    exact ⟨rgb, cb, t, hp, hst, ht⟩

/-- When the buffer is for the last scenario: there is a computer name, and the structure
    packed is for it, be it the stack's own or the credential's. -/
def PacksLast (first last : UsageScenario) (o : SerializationCalls) : Prop :=
  match o.computerName with
  | .error _ => False
  | .ok _ =>
    match o.domain with
    | some none => ScenarioType last o.kiul.logon.messageType
    | _ => first = last

/-- After logon and unlock calls that all return S_OK, a logon attempt that succeeds packs
    the message type of the last scenario exactly when `PacksLast` holds: unless the
    structure is not filled in at all, when the first scenario is the last one. The fields
    of the credential may have been changed meanwhile. -/
theorem last_scenario_packed_iff (w₀ : World) (first : ScenarioCall) (calls : List ScenarioCall)
    (s : Session)
    (hrun : runFrom okScenarioStep always (CSampleProvider.new, w₀) (first :: calls) = some s)
    (a : Addr) (c : CSampleCredential) (ha : s.1.pCredential = some a)
    (hc : s.2.lookup a = some (.credential c)) (fields : Fields 4) (o : SerializationCalls)
    (pcpgsr : SerializationResponse) (pcpcs : CredentialSerialization) (r : Serialized)
    (hr : getSerialization { c with fields := fields } o pcpgsr pcpcs = some r)
    (hok : succeeded r.hr = true) :
    PacksTypeOf (lastScenario first calls) r ↔
      PacksLast first.1 (lastScenario first calls) o := by
  have hsupp := run_supported (first :: calls) hrun
  have hfirst := hsupp first List.mem_cons_self
  have hlast : lastScenario first calls = .logon ∨ lastScenario first calls = .unlockWorkstation :=
    hsupp _ (List.getLast_mem _)
  simp only [runFrom, always, if_true] at hrun
  obtain ⟨s₁, h₁, h₂⟩ := Option.bind_eq_some_iff.mp hrun
  obtain ⟨a', c', ha', hc', hcpus⟩ := (credentialFor_run calls (credentialFor_first h₁) h₂).credential
  rw [ha] at ha'
  obtain rfl := Option.some.inj ha'
  rw [hc] at hc'
  obtain rfl := Obj.credential.inj (Option.some.inj hc')
  obtain ⟨dwErr, hn, hnone⟩ | ⟨wsz, kiul, rgb, cb, hn, hpacked, hpk, hd⟩ :=
    serialization_success_cases (c := { c with fields := fields }) hcpus hr hok
  · have hno : PacksLast first.1 (lastScenario first calls) o = False := by
      unfold PacksLast
      rw [hn]
    rw [hno]
    constructor
    · rintro ⟨rgb, cb, t, hp, -⟩
      rw [hnone] at hp
      cases hp
    · exact False.elim
  · rw [packsTypeOf_iff hpacked (pack_messageType hpk)]
    unfold PacksLast
    obtain ⟨hnull, rfl⟩ | ⟨hset, htype⟩ := hd
    · rw [hn, hnull]
    · rw [hn, scenarioType_iff hfirst hlast htype]
      dsimp only
      split
      · next hnull => exact absurd hnull hset
      · rfl

/-- The provider after a first call in which all goes well. -/
def createdSession (cpus : UsageScenario) : Session :=
  (CSampleProvider.withObjects { CSampleProvider.new with cpus := some cpus } 0,
    ⟨createdObjs (some cpus) allWell, 2,
      acquiredAt 0 3 ++ (createdCopies (some cpus) allWell).map .copied⟩)

theorem okScenarioStep_created {cpus : UsageScenario} (hs : cpus.supported = true) :
    okScenarioStep (CSampleProvider.new, emptyWorld) (cpus, allWell) =
      some (createdSession cpus) := by
  unfold okScenarioStep
  rw [setUsageScenario_creates hs rfl rfl]
  simp only [hs, and_self, if_true]
  rfl

/-- Everything works but the domain query, so that the computer's name is packed. -/
def workgroupCalls : SerializationCalls := { nullDomainCalls with domain := none }

/-- What a logon attempt on the logon credential returns and packs. -/
theorem workgroup_serialization :
    ∃ r, getSerialization { logonCredential with fields := logonCredential.fields } workgroupCalls
        .noCredentialNotFinished ⟨0, .other 0, 0, none⟩ = some r ∧
      succeeded r.hr = true ∧ ∃ rgb cb, r.packed = some (rgb, cb) ∧ peekVal rgb 0 4 = some 2 := by
  have hrun : (getSerialization { logonCredential with fields := logonCredential.fields }
      workgroupCalls .noCredentialNotFinished ⟨0, .other 0, 0, none⟩).map
        (fun r => (succeeded r.hr, r.packed.map fun pk => peekVal pk.1 0 4)) =
          some (true, some (some 2)) := by
    decide +kernel
  obtain ⟨r, hr, hres⟩ := Option.map_eq_some_iff.mp hrun
  obtain ⟨hok, hpacked⟩ := Prod.mk.inj hres
  obtain ⟨⟨rgb, cb⟩, hp, htype⟩ := Option.map_eq_some_iff.mp hpacked
  exact ⟨r, hr, hok, rgb, cb, hp, htype⟩

theorem logon_packed_as_logon :
    ∃ r, getSerialization { logonCredential with fields := logonCredential.fields } workgroupCalls
        .noCredentialNotFinished ⟨0, .other 0, 0, none⟩ = some r ∧
      PacksTypeOf (lastScenario (.logon, allWell) []) r := by
  obtain ⟨r, hr, hok, -⟩ := workgroup_serialization
  have hrun : runFrom okScenarioStep always (CSampleProvider.new, emptyWorld)
      [(.logon, allWell)] = some (createdSession .logon) := by
    simp only [runFrom, always, if_true, okScenarioStep_created (show
      UsageScenario.supported .logon = true from rfl)]
    rfl
  exact ⟨r, hr, (last_scenario_packed_iff emptyWorld (.logon, allWell) [] _ hrun 0 logonCredential
    rfl rfl _ _ _ _ r hr hok).mpr rfl⟩

/-- Logon first, then unlock: the attempt is packed for a logon. -/
theorem unlock_packed_as_logon :
    ¬ ∀ w₀ first calls s, runFrom okScenarioStep always (CSampleProvider.new, w₀)
        (first :: calls) = some s →
      ∀ a c, s.1.pCredential = some a → s.2.lookup a = some (.credential c) →
      ∀ fields o pcpgsr pcpcs r,
        getSerialization { c with fields := fields } o pcpgsr pcpcs = some r →
        succeeded r.hr = true → PacksTypeOf (lastScenario first calls) r := by
  intro hall
  obtain ⟨r, hr, hok, rgb, cb, hp, htype⟩ := workgroup_serialization
  have hrun : runFrom okScenarioStep always (CSampleProvider.new, emptyWorld)
      [(.logon, allWell), (.unlockWorkstation, allWell)] =
        some ({ (createdSession .logon).1 with cpus := some .unlockWorkstation },
          (createdSession .logon).2) := by
    simp only [runFrom, always, if_true, okScenarioStep_created (show
      UsageScenario.supported .logon = true from rfl)]
    rfl
  have hpacks : PacksTypeOf .unlockWorkstation r :=
    hall _ _ _ _ hrun 0 logonCredential rfl rfl _ _ _ _ r hr hok
  have hst := (packsTypeOf_iff (t := kerbInteractiveLogon) hp htype).mp hpacks
  rw [← messageTypeOf_eq_some_iff] at hst
  exact absurd hst (by decide)

end CardLogon
