import CardLogon.GuardedRun

/- One system seen as another.

   The state of the one is seen through `abs`; each of its steps is then some steps of the
   other, possibly none. So what holds of all reachable states of the other holds of what is
   seen of this one (`Simulation.reachable`). Both systems have a guard; a run that meets the
   first is seen as one that meets the second. -/
namespace GuardedRun

variable {σ τ α β : Type*}

section
variable {step : σ → α → Option σ} {guard : σ → α → Bool}

/-- One step. -/
theorem runFrom_singleton {s : σ} {a : α} (hg : guard s a = true) :
    runFrom step guard s [a] = step s a := by
  simp only [runFrom, if_pos hg]
  exact Option.bind_fun_some _

end

/-- Every step of the one system that keeps to its guard is some steps of the other that
    keep to theirs; the invariant is what may be used of the state before. -/
structure Simulation (step : σ → α → Option σ) (guard : σ → α → Bool) (init : σ)
    (step' : τ → β → Option τ) (guard' : τ → β → Bool) (init' : τ) (inv : σ → Prop) (abs : σ → τ) :
    Prop where
  preserved : Preserved step guard init inv
  init : abs init = init'
  steps : ∀ {s s' : σ} {a : α}, inv s → guard s a = true → step s a = some s' →
    ∃ bs, runFrom step' guard' (abs s) bs = some (abs s')

section
variable {step : σ → α → Option σ} {guard : σ → α → Bool} {init : σ} {step' : τ → β → Option τ}
  {guard' : τ → β → Bool} {init' : τ} {inv : σ → Prop} {abs : σ → τ}

/-- A reachable state is seen as a reachable one. -/
theorem Simulation.reachable (h : Simulation step guard init step' guard' init' inv abs) {s : σ}
    (hs : Reachable step guard init s) : Reachable step' guard' init' (abs s) := by
  induction hs with
  | init =>
    rw [h.init]
    exact .init
  | step hs hg hstep ih =>
    obtain ⟨bs, hbs⟩ := h.steps (hs.holds h.preserved) hg hstep
    exact reachable_runFrom bs ih hbs

end

end GuardedRun
