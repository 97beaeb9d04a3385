import Mathlib.Logic.Basic

/- Loops `while (c) body`.

   A loop is given by its round: `none` where the condition does not hold, and the state
   after the body where it does. `Ends round s n r` says that from `s` the loop makes `n`
   rounds and ends with `r`; a loop that goes on for ever ends nowhere. `ends_of_count` is
   the rule for termination, with a number that every round makes smaller by one,
   `Ends.keeps` the one for what no round changes; `runFor` executes a loop for so many
   rounds at most. -/
namespace WhileLoop

variable {σ τ : Type*}

inductive Ends (round : σ → Option σ) : σ → Nat → σ → Prop where
  | stop {s : σ} : round s = none → Ends round s 0 s
  | step {s s' r : σ} {n : Nat} : round s = some s' → Ends round s' n r → Ends round s (n + 1) r

/-- At most `n` rounds. -/
def runFor (round : σ → Option σ) : Nat → σ → σ
  | 0, s => s
  | n + 1, s =>
    match round s with
    | none => s
    | some s' => runFor round n s'

variable {round : σ → Option σ} {s r r' : σ} {n n' : Nat}

/-- There is one end. -/
theorem Ends.unique (h : Ends round s n r) (h' : Ends round s n' r') : n = n' ∧ r = r' := by
  induction h generalizing n' with
  | stop hs =>
    cases h' with
    | stop _ => exact ⟨rfl, rfl⟩
    | step hs' _ =>
      rw [hs] at hs'
      cases hs'
  | step hs _ ih =>
    cases h' with
    | stop hs' =>
      rw [hs] at hs'
      cases hs'
    | step hs' h' =>
      rw [hs] at hs'
      obtain rfl := Option.some.inj hs'
      obtain ⟨rfl, rfl⟩ := ih h'
      exact ⟨rfl, rfl⟩

/-- At the end the condition does not hold. -/
theorem Ends.exit (h : Ends round s n r) : round r = none := by
  induction h with
  | stop hs => exact hs
  | step _ _ ih => exact ih

/-- What no round changes is the same at the end. -/
theorem Ends.keeps {f : σ → τ} (hround : ∀ s s', round s = some s' → f s' = f s)
    (h : Ends round s n r) : f r = f s := by
  induction h with
  | stop _ => rfl
  | @step s s' r n hs _ ih =>
    calc f r = f s' := ih
      _ = f s := hround s s' hs

/-- A loop whose rounds count down ends after so many of them. -/
theorem ends_of_count {μ : σ → Nat} (hround : ∀ s s', round s = some s' → μ s = μ s' + 1)
    (hstop : ∀ s, round s = none → μ s = 0) (s : σ) : ∃ r, Ends round s (μ s) r := by
  induction hn : μ s generalizing s with
  | zero =>
    cases hs : round s with
    | none => exact ⟨s, .stop hs⟩
    | some s' =>
      have hμ := hround s s' hs
      omega
  | succ n ih =>
    cases hs : round s with
    | none =>
      have hμ := hstop s hs
      omega
    | some s' =>
      have hμ := hround s s' hs
      obtain ⟨r, hr⟩ := ih s' (by omega)
      exact ⟨r, .step hs hr⟩

/-- Rounds enough lead to the end. -/
theorem Ends.runFor (h : Ends round s n r) {m : Nat} (hm : n ≤ m) :
    WhileLoop.runFor round m s = r := by
  induction h generalizing m with
  | @stop s hs =>
    cases m with
    | zero => rfl
    | succ m =>
      unfold WhileLoop.runFor
      rw [hs]
  | step hs _ ih =>
    obtain ⟨m, rfl⟩ := Nat.exists_eq_succ_of_ne_zero (by omega : m ≠ 0)
    unfold WhileLoop.runFor
    rw [hs]
    exact ih (by omega)

end WhileLoop
