import CardLogon.GuardedRun
import Mathlib.Data.List.Basic

/- Operations that look at a shared store and write to it later.

   An operation is two steps: a look, which ends it or says what it goes on with, and a
   write with that. Any number of operations may be under way, and between the two steps of
   one the others take theirs. Two operations are apart when neither changes what the look
   of the other finds (`Apart`).

   What is proved: `serial`. Where each operation begins apart from all that are under way,
   a run is one of whole operations: those that have ended, one after the other, in the order
   of their ends, with the results they had. -/
namespace TwoStep
open GuardedRun

structure Operation (ι σ κ ρ : Type*) where
  look : ι → σ → κ ⊕ ρ
  write : ι → κ → σ → ρ × σ

variable {ι σ κ ρ : Type*}

namespace Operation

/-- The two steps in one. -/
def run (op : Operation ι σ κ ρ) (c : ι) (t : σ) : ρ × σ :=
  match op.look c t with
  | .inl k => op.write c k t
  | .inr r => (r, t)

/-- The store after some operations, one after the other, and what each of them gives. -/
def all (op : Operation ι σ κ ρ) (t : σ) (cs : List ι) : σ := cs.foldl (fun t c => (op.run c t).2) t

def results (op : Operation ι σ κ ρ) : σ → List ι → List (ι × ρ)
  | _, [] => []
  | t, c :: cs => (c, (op.run c t).1) :: op.results (op.run c t).2 cs

theorem all_append (op : Operation ι σ κ ρ) (t : σ) (cs ds : List ι) :
    op.all t (cs ++ ds) = op.all (op.all t cs) ds := List.foldl_append

theorem results_append (op : Operation ι σ κ ρ) (t : σ) (cs ds : List ι) :
    op.results t (cs ++ ds) = op.results t cs ++ op.results (op.all t cs) ds := by
  induction cs generalizing t with
  | nil => rfl
  | cons c cs ih =>
    rw [List.cons_append, results, ih]
    rfl

theorem length_results (op : Operation ι σ κ ρ) (t : σ) (cs : List ι) :
    (op.results t cs).length = cs.length := by
  induction cs generalizing t with
  | nil => rfl
  | cons c cs ih => rw [results, List.length_cons, ih, List.length_cons]

end Operation

/-! Operations under way. -/

structure Traffic (ι σ κ ρ : Type*) where
  store : σ
  underWay : List (ι × κ)
  done : List (ι × ρ)

inductive Act (ι : Type*) where
  | look (c : ι)
  | write (n : Nat)

/-- Nothing has begun. -/
def start (t : σ) : Traffic ι σ κ ρ := ⟨t, [], []⟩

/-- An operation looks, or the one at place `n` writes. -/
def step (op : Operation ι σ κ ρ) (s : Traffic ι σ κ ρ) : Act ι → Option (Traffic ι σ κ ρ)
  | .look c =>
    match op.look c s.store with
    | .inl k => some { s with underWay := s.underWay ++ [(c, k)] }
    | .inr r => some { s with done := s.done ++ [(c, r)] }
  | .write n =>
    (s.underWay[n]?).map fun p =>
      let r := op.write p.1 p.2 s.store
      ⟨r.2, s.underWay.eraseIdx n, s.done ++ [(p.1, r.1)]⟩

/-- All that a step can do: an operation ends with its look, goes under way, or writes. -/
theorem step_cases {op : Operation ι σ κ ρ} {s s' : Traffic ι σ κ ρ} {a : Act ι}
    (h : step op s a = some s') :
    (∃ c r, a = .look c ∧ op.look c s.store = .inr r ∧ s' = { s with done := s.done ++ [(c, r)] }) ∨
    (∃ c k, a = .look c ∧ op.look c s.store = .inl k ∧
      s' = { s with underWay := s.underWay ++ [(c, k)] }) ∨
    ∃ n c k, a = .write n ∧ s.underWay[n]? = some (c, k) ∧
      s' = ⟨(op.write c k s.store).2, s.underWay.eraseIdx n,
        s.done ++ [(c, (op.write c k s.store).1)]⟩ := by
  cases a with
  | look c =>
    simp only [step] at h
    cases hlook : op.look c s.store with
    | inl k =>
      rw [hlook] at h
      exact .inr (.inl ⟨c, k, rfl, hlook, (Option.some.inj h).symm⟩)
    | inr r =>
      rw [hlook] at h
      exact .inl ⟨c, r, rfl, hlook, (Option.some.inj h).symm⟩
  | write n =>
    obtain ⟨⟨c, k⟩, hp, rfl⟩ := Option.map_eq_some_iff.mp h
    exact .inr (.inr ⟨n, c, k, rfl, hp, rfl⟩)

/-! Operations that are apart. -/

/-- Neither of two operations that are apart changes what the other one's look finds. -/
structure Apart (op : Operation ι σ κ ρ) (apart : ι → ι → Bool) : Prop where
  symm : ∀ {c d : ι}, apart c d = true → apart d c = true
  look : ∀ {c d : ι}, apart c d = true → ∀ t, op.look c (op.run d t).2 = op.look c t

/-- An operation begins apart from all that are under way. -/
def beginsApart (apart : ι → ι → Bool) (s : Traffic ι σ κ ρ) : Act ι → Bool
  | .look c => s.underWay.all fun p => apart c p.1
  | .write _ => true

/-- The operations that have ended are a run of whole ones from `t`; those under way find
    what they found. -/
structure Serial (op : Operation ι σ κ ρ) (apart : ι → ι → Bool) (t : σ) (s : Traffic ι σ κ ρ) :
    Prop where
  store : s.store = op.all t (s.done.map Prod.fst)
  done : s.done = op.results t (s.done.map Prod.fst)
  found : ∀ p ∈ s.underWay, op.look p.1 s.store = .inl p.2
  apart : s.underWay.Pairwise fun p q => apart p.1 q.1 = true

/-- The others are apart from the one that is taken out. -/
theorem pairwise_eraseIdx {α : Type*} {r : α → α → Prop} (hsymm : ∀ {x y}, r x y → r y x) {l : List α}
    (h : l.Pairwise r) {n : Nat} {y : α} (hy : l[n]? = some y) : ∀ x ∈ l.eraseIdx n, r x y := by
  intro x hx
  obtain ⟨i, hi, hix⟩ := List.mem_eraseIdx_iff_getElem?.mp hx
  obtain ⟨hn, rfl⟩ := List.getElem?_eq_some_iff.mp hy
  obtain ⟨hlt, rfl⟩ := List.getElem?_eq_some_iff.mp hix
  rw [List.pairwise_iff_getElem] at h
  obtain hin | hni := Nat.lt_or_gt_of_ne hi
  · exact h i n hlt hn hin
  · exact hsymm (h n i hn hlt hni)

section
variable {op : Operation ι σ κ ρ} {apart : ι → ι → Bool} {t : σ} {s : Traffic ι σ κ ρ}

/-- An operation that ends is one more whole operation. -/
theorem Serial.ends (h : Serial op apart t s) {c : ι} {r : ρ × σ} (hr : op.run c s.store = r)
    {ps : List (ι × κ)} (hfound : ∀ p ∈ ps, op.look p.1 r.2 = .inl p.2)
    (hapart : ps.Pairwise fun p q => apart p.1 q.1 = true) :
    Serial op apart t ⟨r.2, ps, s.done ++ [(c, r.1)]⟩ where
  store := by
    show r.2 = op.all t ((s.done ++ [(c, r.1)]).map Prod.fst)
    rw [List.map_append, op.all_append, ← h.store, ← hr]
    rfl
  done := by
    show s.done ++ [(c, r.1)] = op.results t ((s.done ++ [(c, r.1)]).map Prod.fst)
    rw [List.map_append, op.results_append, ← h.store, ← h.done, ← hr]
    rfl
  found := hfound
  apart := hapart

theorem serial_preserved (hop : Apart op apart) (t : σ) :
    Preserved (step op) (beginsApart apart) (start t) (Serial op apart t) where
  init := ⟨rfl, rfl, fun _ hp => (List.not_mem_nil hp).elim, .nil⟩
  step := by
    intro s s' a hs hg h
    obtain ⟨c, r, rfl, hlook, rfl⟩ | ⟨c, k, rfl, hlook, rfl⟩ | ⟨n, c, k, rfl, hp, rfl⟩ := step_cases h
    · have hrun : op.run c s.store = (r, s.store) := by
        unfold Operation.run
        rw [hlook]
      exact hs.ends hrun hs.found hs.apart
    · refine ⟨hs.store, hs.done, fun p hp => ?_, ?_⟩
      · rcases List.mem_append.mp hp with hp | hp
        · exact hs.found p hp
        · obtain rfl := List.mem_singleton.mp hp
          exact hlook
      · rw [List.pairwise_append]
        refine ⟨hs.apart, List.pairwise_singleton _ _, fun p hp q hq => ?_⟩
        obtain rfl := List.mem_singleton.mp hq
        exact hop.symm (List.all_eq_true.mp hg p hp)
    · have hrun : op.run c s.store = op.write c k s.store := by
        unfold Operation.run
        rw [hs.found _ (List.mem_of_getElem? hp)]
      apply hs.ends hrun
      · intro p hmem
        have hpc : apart p.1 c = true := pairwise_eraseIdx hop.symm hs.apart hp p hmem
        rw [← hrun, hop.look hpc]
        exact hs.found p (List.mem_of_mem_eraseIdx hmem)
      · exact hs.apart.sublist (List.eraseIdx_sublist _ n)

/-- Each operation had the result that it has after those before it. -/
theorem Serial.result (h : Serial op apart t s) {pre post : List (ι × ρ)} {c : ι} {r : ρ}
    (hdone : s.done = pre ++ (c, r) :: post) : r = (op.run c (op.all t (pre.map Prod.fst))).1 := by
  have hresults := h.done
  rw [hdone, List.map_append, op.results_append] at hresults
  obtain ⟨-, hrest⟩ := List.append_inj hresults (by rw [op.length_results, List.length_map])
  exact (Prod.mk.inj (List.cons.inj hrest).1).2

/-- A run whose operations begin apart from all that are under way is one of whole
    operations. -/
theorem serial (hop : Apart op apart)
    (h : Reachable (step op) (beginsApart apart) (start t) s) : Serial op apart t s :=
  h.holds (serial_preserved hop t)

end

end TwoStep
