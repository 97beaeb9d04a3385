import Mathlib.Logic.Basic

/- Computations on a state that may have no result.

   `Prog σ α` reads and writes a state `σ` and returns an `α`, or has no result
   where the program it models does something undefined. `Triple P x Q` says that
   from a state meeting `P` every result of `x` meets `Q`; a run without a result
   meets every triple. The rules follow the program text: one for a value, for an
   update, for a sequence, for a branch. -/
namespace StateOption

variable {σ α β : Type}

/-- A computation on a state `σ` that returns an `α` or has no result. -/
abbrev Prog (σ α : Type) := StateT σ Option α

/-- No result. -/
def undefined : Prog σ α := fun _ => none

@[simp] theorem pure_apply (a : α) (s : σ) : (pure a : Prog σ α) s = some (a, s) := rfl

theorem bind_apply (x : Prog σ α) (f : α → Prog σ β) (s : σ) :
    (x >>= f) s = (x s).bind fun r => f r.1 r.2 := rfl

/-- A first step with a known result. -/
theorem bind_of_eq {x : Prog σ α} {s s' : σ} {a : α} (h : x s = some (a, s'))
    (f : α → Prog σ β) : (x >>= f) s = f a s' := by
  rw [bind_apply, h]
  rfl

/-- The result of a sequence comes from a result of each part. -/
theorem bind_eq_some {x : Prog σ α} {f : α → Prog σ β} {s s'' : σ} {b : β}
    (h : (x >>= f) s = some (b, s'')) :
    ∃ a s', x s = some (a, s') ∧ f a s' = some (b, s'') := by
  rw [bind_apply] at h
  obtain ⟨⟨a, s'⟩, hx, hf⟩ := Option.bind_eq_some_iff.mp h
  exact ⟨a, s', hx, hf⟩

/-- From `P`, every result of `x` meets `Q`. -/
def Triple (P : σ → Prop) (x : Prog σ α) (Q : α → σ → Prop) : Prop :=
  ∀ s a s', P s → x s = some (a, s') → Q a s'

namespace Triple

variable {P : σ → Prop} {Q : α → σ → Prop} {R : β → σ → Prop}

theorem pure' {a : α} (h : ∀ s, P s → Q a s) : Triple P (pure a) Q := by
  intro s b s' hP hx
  cases hx
  exact h s hP

theorem modify' {f : σ → σ} {Q : Unit → σ → Prop} (h : ∀ s, P s → Q () (f s)) :
    Triple P (modify f) Q := by
  intro s a s' hP hx
  cases hx
  exact h s hP

theorem bind' {x : Prog σ α} {f : α → Prog σ β} (hx : Triple P x Q)
    (hf : ∀ a, Triple (Q a) (f a) R) : Triple P (x >>= f) R := by
  intro s b s'' hP h
  obtain ⟨a, s', ha, hb⟩ := bind_eq_some h
  exact hf a s' b s'' (hx s a s' hP ha) hb

theorem ite' {c : Prop} [Decidable c] {x y : Prog σ α} (hx : c → Triple P x Q)
    (hy : ¬ c → Triple P y Q) : Triple P (if c then x else y) Q := by
  by_cases h : c
  · rw [if_pos h]
    exact hx h
  · rw [if_neg h]
    exact hy h

end Triple

end StateOption
