import CustomModels.Lib.Run

/-!
# Refinement

A machine refines another one if each of its steps is, for what it stands for, some steps of the other. Then so is
every run, and what the runs answer is the same.
-/

namespace CustomModels.Lib

section Collect

variable {σ ε α : Type*} {step : σ → ε → σ} {f : σ → ε → List α}

theorem collect_append (s : σ) (xs ys : List ε) :
    collect step f s (xs ++ ys) = collect step f s xs ++ collect step f (run step s xs) ys := by
  induction xs generalizing s with
  | nil => rfl
  | cons x xs ih => rw [List.cons_append, collect, ih, collect, run_cons, List.append_assoc]

end Collect

variable {σ ε τ φ α : Type*} {step : σ → ε → σ} {spec : τ → φ → τ} {stands : σ → τ} {emits : σ → ε → List φ}
  {I : σ → Prop} {C : σ → ε → Prop}

/-- Under the invariant `I`, a step that meets `C` is the steps that it emits. -/
structure Refines (step : σ → ε → σ) (spec : τ → φ → τ) (stands : σ → τ) (emits : σ → ε → List φ) (I : σ → Prop)
    (C : σ → ε → Prop) : Prop where
  keeps : ∀ s e, I s → C s e → I (step s e)
  commutes : ∀ s e, I s → C s e → stands (step s e) = run spec (stands s) (emits s e)

namespace Refines

variable {s : σ} {events : List ε}

theorem run (h : Refines step spec stands emits I C) (hi : I s) (hc : Along step C s events) :
    stands (Lib.run step s events) = Lib.run spec (stands s) (collect step emits s events) := by
  induction events generalizing s with
  | nil => rfl
  | cons e events ih =>
      rw [run_cons, ih (h.keeps s e hi hc.1) hc.2, h.commutes s e hi hc.1, collect, run_append]

/-- The answers of the run are those of the steps that it emits, when a step answers as they do. -/
theorem answers (h : Refines step spec stands emits I C) {f : σ → ε → List α} {g : τ → φ → List α}
    (agree : ∀ s e, I s → C s e → f s e = collect spec g (stands s) (emits s e)) (hi : I s)
    (hc : Along step C s events) :
    collect step f s events = collect spec g (stands s) (collect step emits s events) := by
  induction events generalizing s with
  | nil => rfl
  | cons e events ih =>
      rw [collect, collect, collect_append, agree s e hi hc.1, ih (h.keeps s e hi hc.1) hc.2,
        h.commutes s e hi hc.1]

end Refines

end CustomModels.Lib
