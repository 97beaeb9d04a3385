import Mathlib.Algebra.Order.Group.Nat
import Mathlib.Data.List.Basic

/- Cutting a stream into blocks of `n` elements.

   `blocks n s` are the consecutive full blocks of `s`, `rest n s` what is left
   after them. An incremental framer sees the stream in pieces: `blocks_append`
   says that the blocks of `s ++ t` are the blocks of `s` followed by the blocks
   of `rest n s ++ t`, so a framer that keeps `rest n s` needs nothing else.
   `Fits n r cs` says that no piece of `cs` crosses a block border when `r`
   elements of the current block have arrived already. -/
namespace Framing

variable {α : Type*}

/-- The consecutive full blocks of `n` elements of a list. -/
def blocks (n : Nat) (s : List α) : List (List α) :=
  (List.range (s.length / n)).map fun i => (s.drop (i * n)).take n

/-- What is left of a list after its full blocks. -/
def rest (n : Nat) (s : List α) : List α := s.drop (s.length / n * n)

theorem rest_length (n : Nat) (s : List α) : (rest n s).length = s.length % n := by
  have := Nat.div_add_mod' s.length n
  simp only [rest, List.length_drop]
  omega

theorem blocks_of_short {n : Nat} {s : List α} (h : s.length < n) : blocks n s = [] := by
  simp [blocks, Nat.div_eq_of_lt h]

theorem rest_of_short {n : Nat} {s : List α} (h : s.length < n) : rest n s = s := by
  simp [rest, Nat.div_eq_of_lt h]

theorem blocks_of_length {n : Nat} {s : List α} (hn : 0 < n) (h : s.length = n) :
    blocks n s = [s] := by
  simp [blocks, h, Nat.div_self hn, List.take_of_length_le (Nat.le_of_eq h)]

theorem rest_of_length {n : Nat} {s : List α} (hn : 0 < n) (h : s.length = n) :
    rest n s = [] := by
  simp [rest, h, Nat.div_self hn]

/-- Peeling the first block off. -/
theorem blocks_cons {n : Nat} (hn : 0 < n) {s : List α} (h : n ≤ s.length) :
    blocks n s = s.take n :: blocks n (s.drop n) := by
  have hd : s.length / n = (s.length - n) / n + 1 := by
    rw [Nat.div_eq_sub_div hn h]
  simp only [blocks, hd, List.length_drop, List.range_succ_eq_map, List.map_cons, List.map_map,
    Nat.zero_mul, List.drop_zero]
  congr 1
  apply List.map_congr_left
  intro i _
  simp only [Function.comp, List.drop_drop, Nat.succ_mul]
  rw [Nat.add_comm]

theorem rest_drop {n : Nat} (hn : 0 < n) {s : List α} (h : n ≤ s.length) :
    rest n (s.drop n) = rest n s := by
  have hd : s.length / n = (s.length - n) / n + 1 := by
    rw [Nat.div_eq_sub_div hn h]
  simp only [rest, List.length_drop, List.drop_drop, hd, Nat.succ_mul]
  rw [Nat.add_comm]

/-- The blocks of a longer stream: the blocks seen so far, then those of what
    was left followed by the new part. -/
theorem blocks_append {n : Nat} (hn : 0 < n) (s t : List α) :
    blocks n (s ++ t) = blocks n s ++ blocks n (rest n s ++ t) := by
  induction hl : s.length using Nat.strong_induction_on generalizing s with
  | _ l ih =>
    by_cases h : n ≤ s.length
    · have hlen : n ≤ (s ++ t).length := by rw [List.length_append]; omega
      have hdrop := ih (s.drop n).length (by rw [List.length_drop]; omega) (s.drop n) rfl
      calc blocks n (s ++ t)
          = s.take n :: blocks n (s.drop n ++ t) := by
            rw [blocks_cons hn hlen, List.take_append_of_le_length h,
              List.drop_append_of_le_length h]
        _ = s.take n :: (blocks n (s.drop n) ++ blocks n (rest n s ++ t)) := by
            rw [hdrop, rest_drop hn h]
        _ = blocks n s ++ blocks n (rest n s ++ t) := by
            rw [blocks_cons hn h, List.cons_append]
    · rw [blocks_of_short (s := s) (by omega), rest_of_short (by omega)]
      rfl

/-- No piece crosses a block border, when `r` elements of the current block
    have arrived. -/
def Fits (n : Nat) : Nat → List (List α) → Prop
  | _, [] => True
  | r, c :: cs => r + c.length ≤ n ∧ Fits n ((r + c.length) % n) cs

instance Fits.decidable (n : Nat) : ∀ (r : Nat) (cs : List (List α)), Decidable (Fits n r cs)
  | _, [] => inferInstanceAs (Decidable True)
  | r, c :: cs =>
    have := Fits.decidable n ((r + c.length) % n) cs
    inferInstanceAs (Decidable (r + c.length ≤ n ∧ Fits n ((r + c.length) % n) cs))

/-- `Fits`, piece by piece: each piece ends inside the block it starts in. -/
theorem fits_iff {n r : Nat} (hr : r < n) {cs : List (List α)} :
    Fits n r cs ↔ ∀ pre c post, cs = pre ++ c :: post → (r + pre.flatten.length) % n + c.length ≤ n := by
  induction cs generalizing r with
  | nil => simp [Fits]
  | cons c cs ih =>
    have hn : 0 < n := by omega
    have hmod : (r + c.length) % n < n := Nat.mod_lt _ hn
    simp only [Fits, ih hmod]
    constructor
    · intro hfit pre d post he
      obtain ⟨h0, h⟩ := hfit
      cases pre with
      | nil =>
        obtain ⟨rfl, rfl⟩ := List.cons.inj he
        simpa [Nat.mod_eq_of_lt hr] using h0
      | cons p pre =>
        obtain ⟨rfl, rfl⟩ := List.cons.inj he
        have := h pre d post rfl
        simp only [Nat.mod_add_mod] at this
        simpa [Nat.add_assoc] using this
    · intro h
      refine ⟨by simpa [Nat.mod_eq_of_lt hr] using h [] c cs rfl, ?_⟩
      intro pre d post he
      have := h (c :: pre) d post (by rw [he]; rfl)
      simp only [Nat.mod_add_mod]
      simpa [Nat.add_assoc] using this

end Framing
