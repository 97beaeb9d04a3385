import Mathlib.Algebra.BigOperators.Group.Finset.Basic
import Mathlib.Algebra.BigOperators.Group.Finset.Piecewise
import Mathlib.Data.Fintype.Basic

/- Where the resources are that a program obtains.

   A resource is a number, in the order in which they are obtained. A program keeps pointers
   to them in slots. It frees what a slot points to, and the pointer is stale from then on,
   until the slot is written; freeing a stale pointer frees the resource once more. It gives
   a resource to somebody else, or writes over the slot that holds it, and then it is lost.

   What is proved: the law of `Book.Accounted`, that each resource is in exactly one of these
   places and only once there. Writing a slot keeps it (`Book.Accounted.acquire`), and freeing
   and giving away keep it when the pointer is not stale (`Book.Accounted.free`,
   `Book.Accounted.give`). So a program that keeps it frees nothing twice, and what it has
   lost is what a slot held when it was written over. -/
namespace Ledger

variable {κ : Type*}

/-- A slot: no pointer, a pointer to a resource, or to one that has been freed. -/
inductive Cell where
  | empty
  | live (n : Nat)
  | stale (n : Nat)
  deriving DecidableEq

/-- The resource that the slot holds. -/
def Cell.held : Cell → List Nat
  | .live n => [n]
  | _ => []

/-- What it points to. -/
def Cell.pointer : Cell → List Nat
  | .empty => []
  | .live n | .stale n => [n]

/-- The pointer after the resource is freed. -/
def Cell.freed : Cell → Cell
  | .empty => .empty
  | .live n | .stale n => .stale n

def Cell.isStale : Cell → Bool
  | .stale _ => true
  | _ => false

/-- The slots, how many resources have been obtained, and where the others went. -/
structure Book (κ : Type*) where
  slots : κ → Cell
  next : Nat
  released : List Nat
  given : List Nat
  lost : List Nat

/-- Nothing has been obtained. -/
def Book.empty : Book κ := ⟨fun _ => .empty, 0, [], [], []⟩

section
variable [DecidableEq κ]

/-- A slot is written: with a new resource, or with no pointer when there is none. -/
def Book.acquire (b : Book κ) (k : κ) (ok : Bool) : Book κ where
  slots := Function.update b.slots k (if ok then .live b.next else .empty)
  next := if ok then b.next + 1 else b.next
  released := b.released
  given := b.given
  lost := (b.slots k).held ++ b.lost

/-- What the slot points to is freed. -/
def Book.free (b : Book κ) (k : κ) : Book κ :=
  { b with
    slots := Function.update b.slots k (b.slots k).freed
    released := (b.slots k).pointer ++ b.released }

/-- It is given away, and the slot is not used any more. -/
def Book.give (b : Book κ) (k : κ) : Book κ :=
  { b with
    slots := Function.update b.slots k .empty
    given := (b.slots k).pointer ++ b.given }

/-- Free, and write the slot. -/
def Book.replace (b : Book κ) (k : κ) (ok : Bool) : Book κ := (b.free k).acquire k ok

end

/-! The law. -/

section
variable [Fintype κ]

/-- How many slots hold resource `n`. -/
def holders (slots : κ → Cell) (n : Nat) : Nat :=
  ∑ k, if slots k = .live n then 1 else 0

/-- Each resource is in one place, and what has not been obtained is nowhere. -/
def Book.Accounted (b : Book κ) : Prop :=
  ∀ n, holders b.slots n + b.released.count n + b.given.count n + b.lost.count n =
    if n < b.next then 1 else 0

theorem accounted_empty : (Book.empty : Book κ).Accounted := by
  intro n
  simp [Book.empty, holders]

/-- No slot holds anything. -/
theorem holders_of_none {slots : κ → Cell} (h : ∀ k, (slots k).held = []) (n : Nat) :
    holders slots n = 0 := by
  unfold holders
  apply Finset.sum_eq_zero
  intro k _
  have hk := h k
  split
  · next hlive =>
    rw [hlive] at hk
    cases hk
  · rfl

end

theorem count_held (c : Cell) (n : Nat) : c.held.count n = if c = .live n then 1 else 0 := by
  cases c with
  | live m =>
    rw [Cell.held, List.count_singleton]
    by_cases h : m = n
    · simp [h]
    · simp [h]
  | _ => simp [Cell.held]

theorem pointer_of_fresh {c : Cell} (h : c.isStale = false) : c.pointer = c.held := by
  cases c with
  | stale n => cases h
  | _ => rfl

theorem freed_held (c : Cell) : c.freed.held = [] := by
  cases c <;> rfl

section
variable [DecidableEq κ] [Fintype κ]

/-- A slot is written over. -/
theorem holders_update (slots : κ → Cell) (k : κ) (c : Cell) (n : Nat) :
    holders (Function.update slots k c) n + (slots k).held.count n =
      holders slots n + c.held.count n := by
  have hsplit : ∀ f : κ → Cell, holders f n =
      (if f k = .live n then 1 else 0) +
        ∑ j ∈ Finset.univ.erase k, if f j = .live n then 1 else 0 := by
    intro f
    exact (Finset.add_sum_erase _ _ (Finset.mem_univ k)).symm
  have hrest : (∑ j ∈ Finset.univ.erase k,
      if Function.update slots k c j = .live n then 1 else 0) =
        ∑ j ∈ Finset.univ.erase k, if slots j = .live n then 1 else 0 := by
    apply Finset.sum_congr rfl
    intro j hj
    rw [Function.update_of_ne (Finset.ne_of_mem_erase hj)]
  rw [hsplit, hsplit, hrest, Function.update_self, count_held, count_held]
  omega

variable {b : Book κ} (h : b.Accounted) (k : κ)
include h

theorem Book.Accounted.acquire (ok : Bool) : (b.acquire k ok).Accounted := by
  intro n
  have hn := h n
  have hslot := holders_update b.slots k (if ok then .live b.next else .empty) n
  show holders (Function.update b.slots k _) n + b.released.count n + b.given.count n +
    ((b.slots k).held ++ b.lost).count n = if n < (if ok then b.next + 1 else b.next) then 1 else 0
  rw [List.count_append]
  cases ok with
  | false =>
    rw [if_neg Bool.false_ne_true, show Cell.empty.held = [] from rfl, List.count_nil] at hslot
    simp only [Bool.false_eq_true, if_false]
    omega
  | true =>
    have hcell := count_held (.live b.next) n
    simp only [if_true, Cell.live.injEq] at hslot hcell ⊢
    -- the new resource, the earlier ones, and those still to come
    obtain hlt | rfl | hgt := Nat.lt_trichotomy n b.next
    · rw [if_pos hlt] at hn
      rw [if_neg (Nat.ne_of_gt hlt)] at hcell
      rw [if_pos (Nat.lt_succ_of_lt hlt)]
      omega
    · rw [if_neg (Nat.lt_irrefl _)] at hn
      rw [if_pos rfl] at hcell
      rw [if_pos (Nat.lt_succ_self _)]
      omega
    · rw [if_neg (Nat.lt_asymm hgt)] at hn
      rw [if_neg (Nat.ne_of_lt hgt)] at hcell
      rw [if_neg (Nat.not_lt.mpr hgt)]
      omega

theorem Book.Accounted.free (hk : (b.slots k).isStale = false) : (b.free k).Accounted := by
  intro n
  have hn := h n
  have hslot := holders_update b.slots k (b.slots k).freed n
  show holders (Function.update b.slots k _) n + ((b.slots k).pointer ++ b.released).count n +
    b.given.count n + b.lost.count n = if n < b.next then 1 else 0
  rw [List.count_append, pointer_of_fresh hk, ← hn]
  rw [freed_held, List.count_nil] at hslot
  omega

theorem Book.Accounted.give (hk : (b.slots k).isStale = false) : (b.give k).Accounted := by
  intro n
  have hn := h n
  have hslot := holders_update b.slots k .empty n
  show holders (Function.update b.slots k _) n + b.released.count n +
    ((b.slots k).pointer ++ b.given).count n + b.lost.count n = if n < b.next then 1 else 0
  rw [List.count_append, pointer_of_fresh hk, ← hn]
  rw [show Cell.empty.held = [] from rfl, List.count_nil] at hslot
  omega

end

/-! Programs that keep the law, and no stale pointer. -/

/-- The law, and no slot is stale. -/
structure Book.Sound [Fintype κ] (b : Book κ) : Prop where
  accounted : b.Accounted
  fresh : ∀ k, (b.slots k).isStale = false

theorem sound_empty [Fintype κ] : (Book.empty : Book κ).Sound := ⟨accounted_empty, fun _ => rfl⟩

section
variable [DecidableEq κ] (b : Book κ) (k : κ) (ok : Bool)

theorem acquire_slots_self :
    (b.acquire k ok).slots k = if ok then .live b.next else .empty :=
  Function.update_self ..

theorem acquire_slots_ne {j : κ} (h : j ≠ k) : (b.acquire k ok).slots j = b.slots j :=
  Function.update_of_ne h ..

/-- Nothing is lost when the slot held nothing. -/
theorem acquire_lost (h : (b.slots k).held = []) : (b.acquire k ok).lost = b.lost := by
  show (b.slots k).held ++ b.lost = b.lost
  rw [h, List.nil_append]

theorem replace_slots_self :
    (b.replace k ok).slots k = if ok then .live b.next else .empty :=
  Function.update_self ..

theorem replace_slots_ne {j : κ} (h : j ≠ k) : (b.replace k ok).slots j = b.slots j := by
  show Function.update (Function.update b.slots k _) k _ j = _
  rw [Function.update_of_ne h, Function.update_of_ne h]

theorem replace_lost : (b.replace k ok).lost = b.lost := by
  refine acquire_lost (b.free k) k ok ?_
  show (Function.update b.slots k _ k).held = []
  rw [Function.update_self, freed_held]

theorem give_slots_self : (b.give k).slots k = .empty := Function.update_self ..

theorem give_slots_ne {j : κ} (h : j ≠ k) : (b.give k).slots j = b.slots j :=
  Function.update_of_ne h ..

variable [Fintype κ] {b}

theorem Book.Sound.acquire (h : b.Sound) : (b.acquire k ok).Sound where
  accounted := h.accounted.acquire k ok
  fresh j := by
    by_cases hj : j = k
    · rw [hj, acquire_slots_self]
      cases ok <;> rfl
    · rw [acquire_slots_ne b k ok hj]
      exact h.fresh j

theorem Book.Sound.replace (h : b.Sound) : (b.replace k ok).Sound where
  accounted := (h.accounted.free k (h.fresh k)).acquire k ok
  fresh j := by
    by_cases hj : j = k
    · rw [hj, replace_slots_self]
      cases ok <;> rfl
    · rw [replace_slots_ne b k ok hj]
      exact h.fresh j

theorem Book.Sound.give (h : b.Sound) : (b.give k).Sound where
  accounted := h.accounted.give k (h.fresh k)
  fresh j := by
    by_cases hj : j = k
    · rw [hj, give_slots_self]
      rfl
    · rw [give_slots_ne b k hj]
      exact h.fresh j

end

/-- What one cell holds. -/
theorem length_held {c : Cell} (h : c.isStale = false) :
    c.held.length = if c = .empty then 0 else 1 := by
  cases c with
  | stale n => cases h
  | _ => rfl

/-! The end of a program: it frees its slots and writes them no more. -/

section
variable [DecidableEq κ]

theorem free_slots_ne (b : Book κ) {j k : κ} (h : j ≠ k) : (b.free k).slots j = b.slots j :=
  Function.update_of_ne h ..

theorem free_held (b : Book κ) (j k : κ) (h : j = k ∨ (b.slots j).held = []) :
    ((b.free k).slots j).held = [] := by
  by_cases hj : j = k
  · rw [hj]
    show (Function.update b.slots k _ k).held = []
    rw [Function.update_self, freed_held]
  · rw [free_slots_ne b hj]
    exact h.resolve_left hj

theorem free_all_held (ks : List κ) {j : κ} : ∀ b : Book κ, j ∈ ks ∨ (b.slots j).held = [] →
    ((ks.foldl Book.free b).slots j).held = [] := by
  induction ks with
  | nil =>
    intro b h
    exact h.resolve_left List.not_mem_nil
  | cons k ks ih =>
    intro b h
    apply ih
    obtain h | h := h
    · obtain rfl | h := List.mem_cons.mp h
      · exact .inr (free_held b j j (.inl rfl))
      · exact .inl h
    · exact .inr (free_held b j k (.inr h))

@[simp] theorem free_all_lost (ks : List κ) : ∀ b : Book κ, (ks.foldl Book.free b).lost = b.lost := by
  induction ks with
  | nil => exact fun _ => rfl
  | cons k ks ih => exact fun b => ih (b.free k)

/-- Each slot is freed once. -/
theorem Book.Accounted.free_all [Fintype κ] {ks : List κ} (hks : ks.Nodup) :
    ∀ {b : Book κ}, b.Accounted → (∀ k ∈ ks, (b.slots k).isStale = false) →
      (ks.foldl Book.free b).Accounted := by
  induction ks with
  | nil => exact fun h _ => h
  | cons k ks ih =>
    intro b h hfresh
    obtain ⟨hk, hks⟩ := List.nodup_cons.mp hks
    apply ih hks (h.free k (hfresh k List.mem_cons_self))
    intro j hj
    have hne : j ≠ k := fun heq => hk (heq ▸ hj)
    rw [free_slots_ne b hne]
    exact hfresh j (List.mem_cons_of_mem k hj)

end

end Ledger
