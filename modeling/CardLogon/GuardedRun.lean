import Mathlib.Logic.Basic

/- Runs of a partial step function under a condition on steps.

   A system is a step function `step : σ → α → Option σ`: `none` when the action
   is not enabled in the state. `guard s a` is a condition on the state before
   the step and on the action. `Reachable step guard init s` says that `s` ends a
   run from `init` whose steps all meet `guard`; with the guard `always` it is
   plain reachability. `Preserved` packages the one induction every safety proof
   needs (`Reachable.holds`), and `runFrom` executes a concrete list of actions,
   so that a concrete run is a reachable state by evaluation (`reachable_final`) and
   can refute what is said of all of them (`not_forall_reachable`). A measure bounds how often
   some of the actions occur (`runFrom_countP_le`).

   A state may keep a log of events, newest first; `Throughout p log` says that at
   every event of the log `p` holds of the event and of the log before it. -/
namespace GuardedRun

variable {σ α : Type*}

/-- The guard that every step meets. -/
def always : σ → α → Bool := fun _ _ => true

/-- The states reached by runs whose steps all meet the guard. -/
inductive Reachable (step : σ → α → Option σ) (guard : σ → α → Bool) (init : σ) : σ → Prop where
  | init : Reachable step guard init init
  | step {s s' : σ} {a : α} : Reachable step guard init s → guard s a = true →
      step s a = some s' → Reachable step guard init s'

/-- `inv` holds at the start and every step that meets the guard keeps it. -/
structure Preserved (step : σ → α → Option σ) (guard : σ → α → Bool) (init : σ)
    (inv : σ → Prop) : Prop where
  init : inv init
  step : ∀ {s s' : σ} {a : α}, inv s → guard s a = true → step s a = some s' → inv s'

section
variable {step : σ → α → Option σ} {guard : σ → α → Bool} {init : σ}

theorem Reachable.holds {inv : σ → Prop} (h : Preserved step guard init inv) {s : σ}
    (hs : Reachable step guard init s) : inv s := by
  induction hs with
  | init => exact h.init
  | step _ hg hstep ih => exact h.step ih hg hstep

/-- A run goes on. -/
theorem Reachable.trans {s s' : σ} (h : Reachable step guard init s)
    (h' : Reachable step guard s s') : Reachable step guard init s' := by
  induction h' with
  | init => exact h
  | step _ hg hstep ih => exact ih.step hg hstep

/-- Execute a list of actions, stopping at the first that is not enabled or
    does not meet the guard. -/
def runFrom (step : σ → α → Option σ) (guard : σ → α → Bool) : σ → List α → Option σ
  | s, [] => some s
  | s, a :: as => if guard s a then (step s a).bind fun s' => runFrom step guard s' as else none

/-- The state a list of actions leads to (the start, if the list is not a run). -/
def final (step : σ → α → Option σ) (guard : σ → α → Bool) (init : σ) (as : List α) : σ :=
  (runFrom step guard init as).getD init

theorem reachable_runFrom : ∀ (as : List α) {s s' : σ}, Reachable step guard init s →
    runFrom step guard s as = some s' → Reachable step guard init s'
  | [], s, s', hs, h => by
    obtain rfl : s = s' := by simpa [runFrom] using h
    exact hs
  | a :: as, s, s', hs, h => by
    simp only [runFrom] at h
    split at h
    · next hg =>
      obtain ⟨s₁, h₁, h₂⟩ := Option.bind_eq_some_iff.mp h
      exact reachable_runFrom as (hs.step hg h₁) h₂
    · cases h

theorem reachable_final (as : List α) : Reachable step guard init (final step guard init as) := by
  unfold final
  cases h : runFrom step guard init as with
  | none => exact .init
  | some s => exact reachable_runFrom as .init h

/-- A measure that no step of a run raises and the steps counted by `own` lower bounds their
    number. -/
theorem runFrom_countP_le {own : α → Bool} {left : σ → Nat}
    (h : ∀ {s s' : σ} {a : α}, guard s a = true → step s a = some s' →
      left s' + (if own a then 1 else 0) ≤ left s) :
    ∀ (as : List α) {s s' : σ}, runFrom step guard s as = some s' →
      as.countP own + left s' ≤ left s
  | [], s, s', hrun => by
    obtain rfl : s = s' := by simpa [runFrom] using hrun
    simp
  | a :: as, s, s', hrun => by
    simp only [runFrom] at hrun
    split at hrun
    · next hg =>
      obtain ⟨s₁, h₁, h₂⟩ := Option.bind_eq_some_iff.mp hrun
      have hfirst := h hg h₁
      have hrest := runFrom_countP_le h as h₂
      rw [List.countP_cons]
      omega
    · cases hrun

/-- A concrete run refutes what is said of all reachable states. -/
theorem not_forall_reachable {p : σ → Prop} (as : List α) (h : ¬ p (final step guard init as)) :
    ¬ ∀ s, Reachable step guard init s → p s :=
  fun hall => h (hall _ (reachable_final as))

end

/-! Logs. -/

section
variable {ε : Type*} {p : ε → List ε → Prop}

/-- Every event of the log meets `p` together with the log before it. -/
def Throughout (p : ε → List ε → Prop) : List ε → Prop
  | [] => True
  | e :: log => p e log ∧ Throughout p log

instance Throughout.decidable [∀ e log, Decidable (p e log)] :
    ∀ log, Decidable (Throughout p log)
  | [] => inferInstanceAs (Decidable True)
  | e :: log =>
    have := Throughout.decidable log
    inferInstanceAs (Decidable (p e log ∧ Throughout p log))

end

end GuardedRun
