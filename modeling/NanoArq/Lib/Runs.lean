import Mathlib.Tactic.Common

/-!
# Guarded runs

`Run step ok s₀ s`: the state `s` is reached from `s₀` by steps `step s a`, each taken in a state
in which `ok s a` holds. `Run.invariant` is the induction rule, `Run.exec` runs a list of actions,
`Run.trans` and `Run.mono` compose and weaken runs, `Run.map` maps them to another system, and
`Run.related` follows them in one that a relation ties to the first.
-/

namespace Lib

variable {σ α : Type*} {step : σ → α → σ} {ok ok' : σ → α → Prop} {s₀ s t : σ}

inductive Run (step : σ → α → σ) (ok : σ → α → Prop) (s₀ : σ) : σ → Prop
  | start : Run step ok s₀ s₀
  | next {s : σ} (hrun : Run step ok s₀ s) (a : α) (hok : ok s a) : Run step ok s₀ (step s a)

/-- What holds at the start and is kept by every step holds after every run. -/
theorem Run.invariant {I : σ → Prop} (h0 : I s₀) (hstep : ∀ s a, I s → ok s a → I (step s a))
    (h : Run step ok s₀ s) : I s := by
  induction h with
  | start => exact h0
  | next _ a hok ih => exact hstep _ a ih hok

theorem Run.mono (hok : ∀ s a, ok s a → ok' s a) (h : Run step ok s₀ s) :
    Run step ok' s₀ s := by
  induction h with
  | start => exact .start
  | next _ a ha ih => exact .next ih a (hok _ a ha)

theorem Run.trans (h : Run step ok s₀ s) (h' : Run step ok s t) : Run step ok s₀ t := by
  induction h' with
  | start => exact h
  | next _ a ha ih => exact .next ih a ha

/-- Where every step of one system is a run of another, so is every run. -/
theorem Run.map {τ β : Type*} {step' : τ → β → τ} {ok' : τ → β → Prop} (f : σ → τ)
    (hstep : ∀ s a, ok s a → Run step' ok' (f s) (f (step s a))) (h : Run step ok s₀ s) :
    Run step' ok' (f s₀) (f s) := by
  induction h with
  | start => exact .start
  | next _ a ha ih => exact ih.trans (hstep _ a ha)

/-- Where the same action takes related states to related states, a run is followed by a run. -/
theorem Run.related {τ : Type*} {step' : τ → α → τ} {ok' : τ → α → Prop} {t₀ : τ} (R : σ → τ → Prop)
    (h0 : R s₀ t₀) (hstep : ∀ s t a, R s t → ok s a → ok' t a ∧ R (step s a) (step' t a))
    (h : Run step ok s₀ s) : ∃ t, Run step' ok' t₀ t ∧ R s t := by
  induction h with
  | start => exact ⟨t₀, .start, h0⟩
  | next _ a ha ih =>
    obtain ⟨t, hrun, hrel⟩ := ih
    obtain ⟨ha', hrel'⟩ := hstep _ t a hrel ha
    exact ⟨step' t a, .next hrun a ha', hrel'⟩

/-- Every action of the list meets the guard when its turn comes. -/
def Guarded (step : σ → α → σ) (ok : σ → α → Prop) : σ → List α → Prop
  | _, [] => True
  | s, a :: as => ok s a ∧ Guarded step ok (step s a) as

instance Guarded.decidable [∀ s a, Decidable (ok s a)] :
    ∀ (s : σ) (as : List α), Decidable (Guarded step ok s as)
  | _, [] => inferInstanceAs (Decidable True)
  | s, a :: as =>
    have := Guarded.decidable (step s a) as
    inferInstanceAs (Decidable (_ ∧ _))

theorem Run.exec {as : List α} (h : Guarded step ok s as) : Run step ok s (as.foldl step s) := by
  induction as generalizing s with
  | nil => exact .start
  | cons a as ih => exact (Run.next .start a h.1).trans (ih h.2)

end Lib
