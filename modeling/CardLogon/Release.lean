import CardLogon.Provider

/- What `Release`, `delete` and the destructors do to the objects, to `g_cRef` and to the
   log.

   `g_cRef` counts objects, but not at every moment: between the `DllRelease` of a
   destructor and the end of its object it is one less than there are. `Counter d` says
   that it exceeds the number by `d`. `Steady` adds what else stays the same while objects
   are released: the log is known, and no provider is touched, so that the provider whose
   destructor runs is still there when it is through.

   What is proved: `destroy_steady`. The destructor of a provider gives back what it has
   to (`returned`) and takes one off `g_cRef`. -/
namespace CardLogon
open StateOption

/-! The number of objects. -/

@[simp] theorem aliveIn_append (os os' : List (Option Obj)) :
    aliveIn (os ++ os') = aliveIn os + aliveIn os' := by
  unfold aliveIn
  rw [List.map_append, List.sum_append]

@[simp] theorem aliveIn_cons (o : Option Obj) (os : List (Option Obj)) :
    aliveIn (o :: os) = counted o + aliveIn os := by
  unfold aliveIn
  rw [List.map_cons, List.sum_cons]

/-- One object is replaced. -/
theorem aliveIn_set : ∀ {os : List (Option Obj)} {a : Addr} {o : Obj},
    (os[a]?).join = some o → ∀ x,
    aliveIn (os.set a x) + counted (some o) = aliveIn os + counted x
  | [], a, o, h, x => by
    rw [List.getElem?_nil] at h
    cases h
  | y :: os, 0, o, h, x => by
    obtain rfl : y = some o := h
    rw [List.set_cons_zero, aliveIn_cons, aliveIn_cons]
    omega
  | y :: os, a + 1, o, h, x => by
    have htail : (os[a]?).join = some o := h
    have ih := aliveIn_set htail x
    rw [List.set_cons_succ, aliveIn_cons, aliveIn_cons]
    omega

theorem lookup_append {w w' : World} {os : List (Option Obj)} {a : Addr} {o : Obj}
    (hw : w'.objs = w.objs ++ os) (h : w.lookup a = some o) : w'.lookup a = some o := by
  unfold World.lookup at h ⊢
  have hlt : a < w.objs.length := by
    by_contra hge
    rw [List.getElem?_eq_none (Nat.le_of_not_lt hge)] at h
    cases h
  rw [hw, List.getElem?_append_left hlt]
  exact h

theorem lookup_set_ne {w w' : World} {a b : Addr} {x : Option Obj}
    (hw : w'.objs = w.objs.set a x) (hne : a ≠ b) : w'.lookup b = w.lookup b := by
  unfold World.lookup
  rw [hw, List.getElem?_set_ne hne]

/-! `g_cRef` and the objects. -/

/-- `g_cRef` is `d` more than the number of objects. -/
def Counter (d : Int32) (w : World) : Prop := w.gRef = Int32.ofNat (aliveIn w.objs) + d

theorem counter_self (w : World) : Counter (w.gRef - Int32.ofNat (aliveIn w.objs)) w := by
  unfold Counter
  grind

/-- What stands at `a` is replaced by something that counts alike. -/
theorem Counter.replace {d : Int32} {w w' : World} {a : Addr} {o : Obj} {x : Option Obj}
    (h : Counter d w) (ha : w.lookup a = some o) (hobjs : w'.objs = w.objs.set a x)
    (hg : w'.gRef = w.gRef) (hcount : counted x = counted (some o)) : Counter d w' := by
  have hset := aliveIn_set ha x
  have hsame : aliveIn w'.objs = aliveIn w.objs := by
    rw [hobjs]
    omega
  show w'.gRef = _
  rw [hg, hsame]
  exact h

/-- A counted object goes away. -/
theorem Counter.drop {d : Int32} {w w' : World} {a : Addr} {o : Obj} (h : Counter (d - 1) w)
    (ha : w.lookup a = some o) (hobjs : w'.objs = w.objs.set a none) (hg : w'.gRef = w.gRef)
    (hcount : counted (some o) = 1) : Counter d w' := by
  have hset := aliveIn_set ha none
  have hless : aliveIn w.objs = aliveIn w'.objs + 1 := by
    rw [hobjs]
    have hnone : counted none = 0 := rfl
    omega
  show w'.gRef = _
  rw [hg, show w.gRef = _ from h, hless, Int32.ofNat_add]
  show _ + 1 + (d - 1) = _
  grind

/-- `DllRelease`. -/
theorem Counter.less {d : Int32} {w w' : World} (h : Counter d w) (hobjs : w'.objs = w.objs)
    (hg : w'.gRef = w.gRef - 1) : Counter (d - 1) w' := by
  show w'.gRef = _
  rw [hg, hobjs, show w.gRef = _ from h]
  grind

/-- Objects are added at the end, and counted. -/
theorem Counter.append {d : Int32} {w w' : World} {os : List (Option Obj)} (h : Counter d w)
    (hobjs : w'.objs = w.objs ++ os) (hg : w'.gRef = w.gRef + Int32.ofNat (aliveIn os)) :
    Counter d w' := by
  show w'.gRef = _
  rw [hg, hobjs, aliveIn_append, Int32.ofNat_add, show w.gRef = _ from h]
  grind

/-- The end of a `Release`, the destructor being no more than a step of `g_cRef`. -/
theorem finishRelease_apply (a : Addr) (r : Released) (o : Obj) (dtor : M Unit)
    (f : Int32 → Int32) (hd : ∀ w, dtor w = some ((), { w with gRef := f w.gRef })) (w : World) :
    finishRelease a r o dtor w = some (r.ret,
      if r.deleted then { w with objs := w.objs.set a none, gRef := f w.gRef }
      else { w with objs := w.objs.set a (some o) }) := by
  unfold finishRelease
  rw [bind_of_eq (putObj_apply w a o)]
  cases r.deleted with
  | false => rfl
  | true =>
    rw [if_pos rfl, bind_of_eq (hd _), bind_of_eq (dropObj_apply _ a)]
    simp only [List.set_set, if_true]
    rfl

/-! Releasing. -/

/-- `g_cRef` is `d` more than the number of objects, the log is `l`, and the providers of
    `w₀` are where they were. -/
structure Steady (d : Int32) (l : List Deed) (w₀ w : World) : Prop where
  counter : Counter d w
  log : w.log = l
  providers : ∀ b p, w₀.lookup b = some (.provider p) → w.lookup b = some (.provider p)

theorem steady_refl {d : Int32} {w : World} (h : Counter d w) : Steady d w.log w w :=
  ⟨h, rfl, fun _ _ hb => hb⟩

section
variable {d : Int32} {l : List Deed} {w₀ w w' : World} {a : Addr} {o : Obj}

/-- What stands at the address of another object is no matter of the providers. -/
theorem Steady.providers_set {x : Option Obj} (h : Steady d l w₀ w) (ha : w.lookup a = some o)
    (hno : ∀ p, o ≠ .provider p) (hobjs : w'.objs = w.objs.set a x) :
    ∀ b p, w₀.lookup b = some (.provider p) → w'.lookup b = some (.provider p) := by
  intro b p hb
  have hw := h.providers b p hb
  have hne : a ≠ b := by
    intro heq
    rw [← heq, ha] at hw
    exact hno p (Option.some.inj hw)
  rw [lookup_set_ne hobjs hne]
  exact hw

/-- `Release` on a credential or message credential. -/
theorem finishRelease_steady {o' : Obj} {r : Released} {ret : UInt32} (h : Steady d l w₀ w)
    (ha : w.lookup a = some o) (hno : ∀ p, o ≠ .provider p) (ho : counted (some o) = 1)
    (ho' : counted (some o') = 1) (hrun : finishRelease a r o' dllRelease w = some (ret, w')) :
    Steady d l w₀ w' := by
  rw [finishRelease_apply a r o' dllRelease (· - 1) (fun _ => rfl)] at hrun
  cases hrun
  split
  -- the destructor's DllRelease, and then the object goes
  · refine ⟨?_, h.log, h.providers_set ha hno rfl⟩
    have hless : Counter (d - 1) { w with gRef := w.gRef - 1 } := h.counter.less rfl rfl
    exact hless.drop ha rfl rfl ho
  · exact ⟨h.counter.replace ha rfl rfl (ho'.trans ho.symm), h.log, h.providers_set ha hno rfl⟩

end

section
variable (d : Int32) (l : List Deed) (w₀ : World)

theorem releaseCredential_steady (a : Addr) :
    Triple (Steady d l w₀) (releaseCredential a) (fun _ => Steady d l w₀) := by
  intro w ret w' hk h
  obtain ⟨c, w₁, hget, hrest⟩ := bind_eq_some h
  obtain ⟨rfl, ha⟩ := getCredential_eq_some.mp hget
  exact finishRelease_steady hk ha (fun _ => Obj.noConfusion) rfl rfl hrest

theorem releaseMessage_steady (a : Addr) :
    Triple (Steady d l w₀) (releaseMessage a) (fun _ => Steady d l w₀) := by
  intro w ret w' hk h
  obtain ⟨m, w₁, hget, hrest⟩ := bind_eq_some h
  obtain ⟨rfl, ha⟩ := getMessage_eq_some.mp hget
  exact finishRelease_steady hk ha (fun _ => Obj.noConfusion) rfl rfl hrest

theorem record_steady (ds : List Deed) :
    Triple (Steady d l w₀) (record ds) (fun _ => Steady d (l ++ ds) w₀) := by
  apply Triple.modify'
  intro w h
  exact ⟨h.counter, congrArg (· ++ ds) h.log, h.providers⟩

theorem giveBackCredential_steady (c : Option Addr) :
    Triple (Steady d l w₀) (giveBackCredential c)
      (fun _ => Steady d (l ++ (c.toList.map .credential).map .givenBack) w₀) := by
  cases c with
  | none =>
    apply Triple.pure'
    intro w h
    exact ⟨h.counter, h.log.trans (List.append_nil l).symm, h.providers⟩
  | some a =>
    unfold giveBackCredential
    refine Triple.bind' (releaseCredential_steady d l w₀ a) ?_
    intro _
    exact record_steady d l w₀ _

/-- The window's destructor changes no more than the provider's own count. -/
theorem deleteWindow_steady (p : CSampleProvider) (a : Addr) :
    Triple (Steady d l w₀) (deleteWindow p a) (fun _ => Steady d l w₀) := by
  intro w p' w' hk h
  obtain ⟨cw, w₁, hget, hrest⟩ := bind_eq_some h
  obtain ⟨rfl, ha⟩ := getWindow_eq_some.mp hget
  rw [bind_of_eq (dropObj_apply _ a)] at hrest
  have hdrop : Steady d l w₀ { w₁ with objs := w₁.objs.set a none } :=
    ⟨hk.counter.replace ha rfl rfl rfl, hk.log,
      hk.providers_set ha (fun _ => Obj.noConfusion) rfl⟩
  unfold CCommandWindow.releaseProvider at hrest
  dsimp only at hrest
  split at hrest
  · split at hrest
    -- the provider's last reference: its destructor would delete this window again
    · cases hrest
    · cases hrest
      exact hdrop
  · cases hrest
    exact hdrop

theorem giveBackWindow_steady (p : CSampleProvider) :
    Triple (Steady d l w₀) (giveBackWindow p)
      (fun _ => Steady d (l ++ (p.pCommandWindow.toList.map .window).map .givenBack) w₀) := by
  unfold giveBackWindow
  cases p.pCommandWindow with
  | none =>
    apply Triple.pure'
    intro w h
    exact ⟨h.counter, h.log.trans (List.append_nil l).symm, h.providers⟩
  | some a =>
    refine Triple.bind' (deleteWindow_steady d l w₀ p a) ?_
    intro p'
    refine Triple.bind' (record_steady d l w₀ _) ?_
    intro _
    exact Triple.pure' fun _ h => h

/-- What the destructor gives back. -/
def CSampleProvider.returned (p : CSampleProvider) : List Resource :=
  p.pCredential.toList.map .credential ++ p.pCommandWindow.toList.map .window

/-- The destructor takes one off `g_cRef`; the provider itself goes after it. -/
theorem destroy_steady (p : CSampleProvider) :
    Triple (Steady d l w₀) p.destroy
      (fun _ => Steady (d - 1) (l ++ p.returned.map .givenBack) w₀) := by
  unfold CSampleProvider.destroy
  refine Triple.bind' (giveBackCredential_steady d l w₀ p.pCredential) ?_
  intro _
  refine Triple.bind' (giveBackWindow_steady d _ w₀ p) ?_
  intro _
  apply Triple.modify'
  intro w h
  refine ⟨h.counter.less rfl rfl, ?_, h.providers⟩
  show w.log = _
  rw [h.log, CSampleProvider.returned, List.map_append, List.append_assoc]

end

/-- A `Release` on a provider stores the new count or runs the destructor. -/
theorem releaseCall_cases {p : CSampleProvider} {ret : UInt32} {p' : Option CSampleProvider}
    {w w' : World} (h : p.releaseCall w = some ((ret, p'), w')) :
    (p' = some { p with cRef := (CSampleProvider.release p.cRef).cRef } ∧ w' = w) ∨
    (p' = none ∧ CSampleProvider.destroy { p with
      cRef := (CSampleProvider.release p.cRef).cRef } w = some ((), w')) := by
  unfold CSampleProvider.releaseCall at h
  split at h
  · obtain ⟨_, w₁, hdestroy, hpure⟩ := bind_eq_some h
    cases hpure
    exact .inr ⟨rfl, hdestroy⟩
  · cases h
    exact .inl ⟨rfl, rfl⟩

end CardLogon
