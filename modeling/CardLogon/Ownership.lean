import CardLogon.GuardedRun
import CardLogon.Release
import CardLogon.UsageScenarios

/- What a provider acquires over its life, and what it has given back when its
   destructor is through.

   A run starts at the constructor and ends with the `Release` that destroys the
   provider; in between come any calls, with any outcomes. What the provider still
   owes (`outstanding`) is read off its pointers: `Accounted` says that the log, from
   the start of the run, has everything acquired given back but that. Every call
   keeps it; the destructor gives back the credential and the window only.

   What is proved: `destroyed_balanced_iff`. In the end everything is given back
   exactly when no call created the tiles and the last callback advised has been
   unadvised: the message credential and the callback are never released by the
   destructor (`destroyed_unbalanced`). -/
namespace CardLogon
open GuardedRun StateOption

/-- The calls on a provider. -/
inductive ProviderCall where
  | setUsageScenario (cpus : UsageScenario) (o : Outcomes)
  | advise (pcpe : Option Nat) (upAdviseContext : Nat)
  | unAdvise
  | addRef
  | release

/-- A call on a provider that is still there (`none` after its destruction). -/
def providerStep (s : Option CSampleProvider × World) (a : ProviderCall) :
    Option (Option CSampleProvider × World) :=
  match s.1 with
  | none => none
  | some p =>
    match a with
    | .setUsageScenario cpus o =>
      (setUsageScenario p cpus o s.2).map fun r => (some r.1.2, r.2)
    | .advise pcpe upAdviseContext =>
      (CardLogon.advise p pcpe upAdviseContext s.2).map fun r => (some r.1.2, r.2)
    | .unAdvise => (CardLogon.unAdvise p s.2).map fun r => (some r.1.2, r.2)
    | .addRef => some (some { p with cRef := (CSampleProvider.addRef p.cRef).2 }, s.2)
    | .release => (p.releaseCall s.2).map fun r => (r.1.2, r.2)

/-- The call creates the tiles, if they are not there. -/
def ProviderCall.creates : ProviderCall → Bool
  | .setUsageScenario cpus o => cpus.supported && o.creates
  | _ => false

/-- The callback advised last and not unadvised. -/
def advisedAfter : Option Nat → List ProviderCall → Option Nat
  | e, [] => e
  | _, .advise pcpe _ :: cs => advisedAfter pcpe cs
  | _, .unAdvise :: cs => advisedAfter none cs
  | e, _ :: cs => advisedAfter e cs

/-! What the provider owes. -/

/-- What the destructor does not give back. -/
def CSampleProvider.kept (p : CSampleProvider) : List Resource :=
  p.pMessageCredential.toList.map .message ++ p.pcpe.toList.map .callback

def CSampleProvider.outstanding (p : CSampleProvider) : List Resource := p.returned ++ p.kept

/-- From `l` on, everything acquired has been given back but `rs`. -/
def AccountedBut (l : List Deed) (rs : List Resource) (w : World) : Prop :=
  ∃ ds, w.log = l ++ ds ∧ ∀ r, ds.count (.acquired r) = ds.count (.givenBack r) + rs.count r

def Accounted (l : List Deed) (p : CSampleProvider) (w : World) : Prop :=
  AccountedBut l p.outstanding w

/-- The log grows by `ds`. -/
theorem AccountedBut.extend {l : List Deed} {rs rs' : List Resource} {w w' : World} {ds : List Deed}
    (h : AccountedBut l rs w) (hw : w'.log = w.log ++ ds)
    (hds : ∀ r, ds.count (.acquired r) + rs.count r = ds.count (.givenBack r) + rs'.count r) :
    AccountedBut l rs' w' := by
  obtain ⟨es, hes, hcount⟩ := h
  refine ⟨es ++ ds, by rw [hw, hes, List.append_assoc], ?_⟩
  intro r
  have h₁ := hcount r
  have h₂ := hds r
  rw [List.count_append, List.count_append]
  omega

/-- A creation: three objects acquired, and copies that do not count. -/
theorem count_creation (n : Addr) (es : List HRESULT) (r : Resource) :
    (acquiredAt n 3 ++ es.map Deed.copied).count (Deed.acquired r) = (resourcesAt n 3).count r ∧
    (acquiredAt n 3 ++ es.map Deed.copied).count (Deed.givenBack r) = 0 := by
  have h₁ : Deed.acquired r ∉ es.map Deed.copied := by simp
  have h₂ : Deed.givenBack r ∉ es.map Deed.copied := by simp
  have ha := count_acquired (resourcesAt n 3) [] r
  have hb := count_givenBack (resourcesAt n 3) [] r
  rw [List.map_nil, List.append_nil] at ha hb
  constructor
  · rw [List.count_append, List.count_eq_zero.mpr h₁, Nat.add_zero]
    exact ha
  · rw [List.count_append, List.count_eq_zero.mpr h₂, Nat.add_zero]
    exact hb

/-! What one call keeps. -/

section
variable {l : List Deed} {p p' : CSampleProvider} {w w' : World} {a : ProviderCall}

/-- All that a call can do; `AddRef` and most `Release` calls move the count alone. -/
theorem providerStep_cases {q : Option CSampleProvider}
    (h : providerStep (some p, w) a = some (q, w')) :
    (∃ cpus o hr p', a = .setUsageScenario cpus o ∧ q = some p' ∧
      setUsageScenario p cpus o w = some ((hr, p'), w')) ∨
    (∃ pcpe c hr p', a = .advise pcpe c ∧ q = some p' ∧
      CardLogon.advise p pcpe c w = some ((hr, p'), w')) ∨
    (∃ hr p', a = .unAdvise ∧ q = some p' ∧ CardLogon.unAdvise p w = some ((hr, p'), w')) ∨
    (∃ n, (a = .addRef ∨ a = .release) ∧ q = some { p with cRef := n } ∧ w' = w) ∨
    (∃ n, a = .release ∧ q = none ∧
      CSampleProvider.destroy { p with cRef := n } w = some ((), w')) := by
  cases a with
  | setUsageScenario cpus o =>
    obtain ⟨⟨⟨hr, p₁⟩, w₁⟩, hcall, heq⟩ := Option.map_eq_some_iff.mp h
    cases heq
    exact .inl ⟨cpus, o, hr, p₁, rfl, rfl, hcall⟩
  | advise pcpe c =>
    obtain ⟨⟨⟨hr, p₁⟩, w₁⟩, hcall, heq⟩ := Option.map_eq_some_iff.mp h
    cases heq
    exact .inr (.inl ⟨pcpe, c, hr, p₁, rfl, rfl, hcall⟩)
  | unAdvise =>
    obtain ⟨⟨⟨hr, p₁⟩, w₁⟩, hcall, heq⟩ := Option.map_eq_some_iff.mp h
    cases heq
    exact .inr (.inr (.inl ⟨hr, p₁, rfl, rfl, hcall⟩))
  | addRef =>
    cases h
    exact .inr (.inr (.inr (.inl ⟨_, .inl rfl, rfl, rfl⟩)))
  | release =>
    obtain ⟨⟨⟨ret, p₁⟩, w₁⟩, hcall, heq⟩ := Option.map_eq_some_iff.mp h
    cases heq
    obtain ⟨rfl, rfl⟩ | ⟨rfl, hdestroy⟩ := releaseCall_cases hcall
    · exact .inr (.inr (.inr (.inl ⟨_, .inr rfl, rfl, rfl⟩)))
    · exact .inr (.inr (.inr (.inr ⟨_, rfl, rfl, hdestroy⟩)))

/-- The provider's pointers are together, and the log has all but what they say. -/
structure Owes (l : List Deed) (p : CSampleProvider) (w : World) : Prop where
  together : p.unset = true ∨ p.allSet = true
  accounted : Accounted l p w

/-- What a call does to the tiles and to the callback. -/
structure Follows (p p' : CSampleProvider) (a : ProviderCall) : Prop where
  tiles : p'.unset = true ↔ p.unset = true ∧ a.creates = false
  callback : p'.pcpe = advisedAfter p.pcpe [a]

/-- A call that leaves the tiles alone. -/
theorem follows_of_same (hu : p'.unset = p.unset) (ha : a.creates = false)
    (he : p'.pcpe = advisedAfter p.pcpe [a]) : Follows p p' a := by
  refine ⟨?_, he⟩
  rw [hu, ha]
  simp

/-- What is owed apart from the callback. -/
def CSampleProvider.tiles (p : CSampleProvider) : List Resource :=
  p.returned ++ p.pMessageCredential.toList.map .message

theorem count_outstanding (p : CSampleProvider) (r : Resource) :
    p.outstanding.count r = p.tiles.count r + (p.pcpe.toList.map Resource.callback).count r := by
  show (p.returned ++ (p.pMessageCredential.toList.map Resource.message ++ _)).count r = _
  rw [← List.append_assoc, List.count_append]
  rfl

theorem tiles_unset (h : p.unset = true) : p.tiles = [] := by
  obtain ⟨h₁, h₂, h₃⟩ := (unset_iff p).mp h
  simp [CSampleProvider.tiles, CSampleProvider.returned, h₁, h₂, h₃]

theorem count_tiles_withObjects (p : CSampleProvider) (n : Addr) (r : Resource) :
    (p.withObjects n).tiles.count r = (resourcesAt n 3).count r := by
  have hperm : (p.withObjects n).tiles.Perm (resourcesAt n 3) :=
    List.Perm.cons _ (List.Perm.swap (Resource.message (n + 1)) (.window (n + 2)) [])
  exact hperm.count_eq r

theorem owes_setUsageScenario {cpus : UsageScenario} {o : Outcomes} {hr : HRESULT}
    (ho : Owes l p w) (h : setUsageScenario p cpus o w = some ((hr, p'), w')) :
    Owes l p' w' ∧ Follows p p' (.setUsageScenario cpus o) := by
  obtain ⟨hs, -, rfl, rfl⟩ | ⟨-, hu, -, rfl, rfl⟩ | ⟨hs, hu, hc, -, rfl, rfl⟩ |
    ⟨hs, hu, hc, -, rfl, hundone⟩ := setUsageScenario_cases h
  · refine ⟨ho, follows_of_same rfl ?_ rfl⟩
    simp [ProviderCall.creates, hs]
  · refine ⟨⟨ho.together, ho.accounted⟩, ⟨?_, rfl⟩⟩
    show p.unset = true ↔ _
    simp [hu]
  -- the three creation references come on top of the callback
  · refine ⟨⟨.inr rfl, ?_⟩, ⟨?_, rfl⟩⟩
    · apply AccountedBut.extend ho.accounted (List.append_assoc _ _ _)
      intro r
      obtain ⟨ha, hb⟩ := count_creation w.objs.length (createdCopies (some cpus) o) r
      rw [ha, hb, count_outstanding, count_outstanding, count_tiles_withObjects, tiles_unset hu]
      show _ = _ + (_ + (p.pcpe.toList.map Resource.callback).count r)
      rw [List.count_nil]
      omega
    · simp [ProviderCall.creates, hs, hc, CSampleProvider.unset, CSampleProvider.withObjects]
  -- a creation undone has given back what it acquired
  · refine ⟨⟨ho.together, ?_⟩, follows_of_same rfl ?_ rfl⟩
    · obtain ⟨ds, hlog, hbal, -⟩ := hundone.log
      apply AccountedBut.extend ho.accounted hlog
      intro r
      rw [hbal r]
      rfl
    · simp [ProviderCall.creates, hc]

/-- Releasing the callback takes it off what is owed. -/
theorem giveBackCallback_apply (e : Option Nat) (w : World) :
    giveBackCallback e w =
      some ((), { w with log := w.log ++ (e.toList.map Resource.callback).map .givenBack }) := by
  cases e with
  | none => simp [giveBackCallback]
  | some e => rfl

/-- The callback is given back, and another one taken. -/
theorem owes_callback (ho : Owes l p w) (e : Option Nat) (c : Option Nat) :
    Owes l { p with pcpe := e, upAdviseContext := c }
      { w with log := w.log ++ ((p.pcpe.toList.map Resource.callback).map .givenBack ++
        (e.toList.map Resource.callback).map .acquired) } := by
  refine ⟨ho.together, ho.accounted.extend rfl ?_⟩
  intro r
  have hswap : ∀ d, ((p.pcpe.toList.map Resource.callback).map Deed.givenBack ++
      (e.toList.map Resource.callback).map Deed.acquired).count d =
      ((e.toList.map Resource.callback).map Deed.acquired ++
      (p.pcpe.toList.map Resource.callback).map Deed.givenBack).count d :=
    fun d => List.perm_append_comm.count_eq d
  rw [hswap, hswap, count_acquired, count_givenBack, count_outstanding, count_outstanding]
  show _ + (p.tiles.count r + _) = _ + (p.tiles.count r + (e.toList.map Resource.callback).count r)
  omega

theorem owes_advise {pcpe : Option Nat} {c : Nat} {hr : HRESULT} (ho : Owes l p w)
    (h : CardLogon.advise p pcpe c w = some ((hr, p'), w')) :
    Owes l p' w' ∧ Follows p p' (.advise pcpe c) := by
  unfold CardLogon.advise at h
  rw [bind_of_eq (giveBackCallback_apply p.pcpe w)] at h
  cases pcpe with
  | none => cases h
  | some e =>
    cases h
    refine ⟨?_, follows_of_same rfl rfl rfl⟩
    have hcall := owes_callback ho (some e) (some c)
    rw [← List.append_assoc] at hcall
    exact hcall

theorem owes_unAdvise {hr : HRESULT} (ho : Owes l p w)
    (h : CardLogon.unAdvise p w = some ((hr, p'), w')) :
    Owes l p' w' ∧ Follows p p' .unAdvise := by
  unfold CardLogon.unAdvise at h
  rw [bind_of_eq (giveBackCallback_apply p.pcpe w)] at h
  cases h
  refine ⟨?_, follows_of_same rfl rfl rfl⟩
  have hcall := owes_callback ho none p.upAdviseContext
  rw [Option.toList_none, List.map_nil, List.map_nil, List.append_nil] at hcall
  exact hcall

/-- A call that leaves the provider there. -/
theorem owes_call (ho : Owes l p w) (h : providerStep (some p, w) a = some (some p', w')) :
    Owes l p' w' ∧ Follows p p' a := by
  obtain ⟨cpus, o, hr, p₁, rfl, heq, hcall⟩ | ⟨pcpe, c, hr, p₁, rfl, heq, hcall⟩ |
    ⟨hr, p₁, rfl, heq, hcall⟩ | ⟨n, hcount, heq, rfl⟩ | ⟨n, -, heq, -⟩ := providerStep_cases h
  · cases heq
    exact owes_setUsageScenario ho hcall
  · cases heq
    exact owes_advise ho hcall
  · cases heq
    exact owes_unAdvise ho hcall
  · cases heq
    refine ⟨⟨ho.together, ho.accounted⟩, ?_⟩
    obtain rfl | rfl := hcount
    · exact follows_of_same rfl rfl rfl
    · exact follows_of_same rfl rfl rfl
  · cases heq

/-- The call that destroys the provider is a `Release`, and what the destructor does
    not give back stays owed. -/
theorem owes_destroyed (ho : Owes l p w) (h : providerStep (some p, w) a = some (none, w')) :
    a = .release ∧ AccountedBut l p.kept w' := by
  obtain ⟨_, _, _, _, -, heq, -⟩ | ⟨_, _, _, _, -, heq, -⟩ | ⟨_, _, -, heq, -⟩ |
    ⟨_, -, heq, -⟩ | ⟨n, rfl, -, hdestroy⟩ := providerStep_cases h
  · cases heq
  · cases heq
  · cases heq
  · cases heq
  · have hlog := (destroy_steady _ w.log w _ w _ _ (steady_refl (counter_self w)) hdestroy).log
    refine ⟨rfl, ho.accounted.extend hlog ?_⟩
    intro r
    have hback := count_givenBack [] p.returned r
    have hgot := count_acquired [] p.returned r
    rw [List.map_nil, List.nil_append] at hback hgot
    show _ = (p.returned.map Deed.givenBack).count (.givenBack r) + _
    rw [hback]
    show (p.returned.map Deed.givenBack).count (.acquired r) + _ = _
    rw [hgot, CSampleProvider.outstanding, List.count_append]
    simp

end

/-! A whole run. -/

/-- Everything is given back exactly when nothing is owed. -/
theorem AccountedBut.balanced_iff {l : List Deed} {rs : List Resource} {w : World}
    (h : AccountedBut l rs w) : (∃ ds, w.log = l ++ ds ∧ Balanced ds) ↔ rs = [] := by
  obtain ⟨ds, hlog, hcount⟩ := h
  constructor
  · intro ⟨es, hes, hbal⟩
    obtain rfl : ds = es := List.append_cancel_left (hlog.symm.trans hes)
    apply List.eq_nil_iff_forall_not_mem.mpr
    intro r hr
    have hpos := List.count_pos_iff.mpr hr
    have h₁ := hcount r
    have h₂ := hbal r
    omega
  · intro hnil
    refine ⟨ds, hlog, ?_⟩
    intro r
    rw [hcount r, hnil, List.count_nil, Nat.add_zero]

theorem kept_eq_nil {p : CSampleProvider} (h : p.unset = true ∨ p.allSet = true) :
    p.kept = [] ↔ p.unset = true ∧ p.pcpe = none := by
  have hkept : p.kept = [] ↔ p.pMessageCredential = none ∧ p.pcpe = none := by
    simp [CSampleProvider.kept]
  rw [hkept]
  obtain hu | hset := h
  · obtain ⟨-, hm, -⟩ := (unset_iff p).mp hu
    simp [hu, hm]
  · rw [unset_of_allSet hset]
    simp only [CSampleProvider.allSet, Bool.and_eq_true] at hset
    obtain ⟨⟨-, hm⟩, -⟩ := hset
    obtain ⟨a, ha⟩ := Option.isSome_iff_exists.mp hm
    simp [ha]

theorem advisedAfter_cons (e : Option Nat) (a : ProviderCall) (cs : List ProviderCall) :
    advisedAfter e (a :: cs) = advisedAfter (advisedAfter e [a]) cs := by
  cases a <;> rfl

/-- Induction over the calls: all but the last leave the provider there. -/
theorem balanced_run {l : List Deed} : ∀ (cs : List ProviderCall) {p : CSampleProvider}
    {w w' : World}, Owes l p w → runFrom providerStep always (some p, w) cs = some (none, w') →
    ((∃ ds, w'.log = l ++ ds ∧ Balanced ds) ↔
      (p.unset = true ∧ ∀ a ∈ cs, a.creates = false) ∧ advisedAfter p.pcpe cs = none)
  | [], p, w, w', _, h => by cases h
  | a :: cs, p, w, w', ho, h => by
    obtain ⟨⟨p₁, w₁⟩, hstep, hrest⟩ := Option.bind_eq_some_iff.mp h
    cases p₁ with
    -- the provider is gone, so this was the last call
    | none =>
      obtain ⟨rfl, hacc⟩ := owes_destroyed ho hstep
      cases cs with
      | nil =>
        cases hrest
        rw [hacc.balanced_iff, kept_eq_nil ho.together]
        simp [ProviderCall.creates, advisedAfter]
      | cons b cs => cases hrest
    | some p₁ =>
      obtain ⟨ho₁, hf⟩ := owes_call ho hstep
      rw [balanced_run cs ho₁ hrest, hf.tiles, hf.callback, ← advisedAfter_cons,
        List.forall_mem_cons]
      simp only [and_assoc]

/-- Everything the provider acquired has been given back when the destructor is through,
    exactly when no call created the tiles and the last callback was unadvised. -/
theorem destroyed_balanced_iff (w₀ : World) (cs : List ProviderCall) (w : World)
    (h : runFrom providerStep always (some .new, w₀) cs = some (none, w)) :
    (∃ ds, w.log = w₀.log ++ ds ∧ Balanced ds) ↔
      (∀ a ∈ cs, a.creates = false) ∧ advisedAfter none cs = none := by
  have ho : Owes w₀.log .new w₀ := by
    refine ⟨.inl rfl, [], (List.append_nil _).symm, ?_⟩
    intro r
    rfl
  rw [balanced_run cs ho h]
  simp [CSampleProvider.unset, CSampleProvider.new]

/-- A creation whose thread cannot be started, a callback advised and unadvised, and the
    two `Release` calls that destroy the provider. -/
def tidyRun : List ProviderCall :=
  [.setUsageScenario .logon { allWell with thread := some 8 }, .advise (some 0) 0, .unAdvise,
    .release, .release]

theorem tidyRun_balanced : ∃ w ds,
    runFrom providerStep always (some .new, emptyWorld) tidyRun = some (none, w) ∧
    w.log = emptyWorld.log ++ ds ∧ Balanced ds := by
  obtain ⟨w, hw⟩ : ∃ w,
      runFrom providerStep always (some .new, emptyWorld) tidyRun = some (none, w) := ⟨_, rfl⟩
  obtain ⟨ds, hds⟩ := (destroyed_balanced_iff emptyWorld tidyRun w hw).mpr (by decide)
  exact ⟨w, ds, hw, hds⟩

/-- The tiles are created and a callback is advised; then the provider is released until
    it is gone. -/
def untidyRun : List ProviderCall :=
  [.setUsageScenario .logon allWell, .advise (some 0) 0, .release, .release, .release]

/-- The message credential and the callback are never released. -/
theorem destroyed_unbalanced :
    ¬ ∀ (w₀ : World) (cs : List ProviderCall) (w : World),
      runFrom providerStep always (some .new, w₀) cs = some (none, w) →
      ∃ ds, w.log = w₀.log ++ ds ∧ Balanced ds := by
  intro hall
  obtain ⟨w, hw, hlog⟩ : ∃ w,
      runFrom providerStep always (some .new, emptyWorld) untidyRun = some (none, w) ∧
      w.log.count (.acquired (.message 1)) ≠ w.log.count (.givenBack (.message 1)) :=
    ⟨_, rfl, by decide⟩
  obtain ⟨ds, hds, hbal⟩ := hall _ _ w hw
  rw [hds] at hlog
  exact hlog (hbal (.message 1))

end CardLogon
