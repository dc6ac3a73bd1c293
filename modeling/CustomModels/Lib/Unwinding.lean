import Mathlib.Data.List.Infix
import CustomModels.Lib.Run

/-!
# Runs that look alike

An observer hears of some events and sees a part of the state. If the other events leave that part alone, and those
that it hears of change it alike, then what it sees of a run is determined by what it hears. A step may also ask the
surroundings: then they must have answered both runs alike.
-/

namespace CustomModels.Lib

/-! ## Sequences that agree -/

section Agree

variable {α : Type*} {xs ys : List α}

/-- One of the two is the start of the other. -/
def Agree (xs ys : List α) : Prop := xs <+: ys ∨ ys <+: xs

theorem Agree.symm (h : Agree xs ys) : Agree ys xs := Or.symm h

theorem Agree.of_start {front : List α} (h : Agree xs ys) (hf : front <+: xs) : Agree front ys := by
  rcases h with h | h
  · exact .inl (hf.trans h)
  · exact List.prefix_or_prefix_of_prefix hf h

theorem Agree.of_append {front : List α} (h : Agree (front ++ xs) (front ++ ys)) : Agree xs ys := by
  rwa [Agree, List.prefix_append_right_inj, List.prefix_append_right_inj] at h

/-- Where both go on behind the same start, they go on alike. -/
theorem Agree.eq_of_append {x y : α} (h : Agree (xs ++ [x]) (xs ++ [y])) : x = y := by
  rcases h with h | h
  · simpa using h
  · have heq : y = x := by simpa using h
    exact heq.symm

end Agree

/-! ## Steps that write a log -/

section Logged

variable {σ ε α : Type*} (step : σ → ε → σ) (f : σ → ε → List α)

/-- The step, with what it gives appended to a log. -/
def logged (state : σ × List α) (e : ε) : σ × List α := (step state.1 e, state.2 ++ f state.1 e)

theorem run_logged (s : σ) (log : List α) (events : List ε) :
    run (logged step f) (s, log) events = (run step s events, log ++ collect step f s events) := by
  induction events generalizing s log with
  | nil => simp [collect]
  | cons e events ih =>
      rw [run_cons, logged, ih, collect, List.append_assoc]
      rfl

end Logged

/-! ## Unwinding -/

variable {σ ε κ ν : Type*} {step : σ → ε → σ} {hears : ε → Option κ} {view : σ → ν} {Alike : σ → σ → Prop}

/-- `Alike` says of two states that the surroundings have answered the runs to them alike. -/
structure Unwinds (step : σ → ε → σ) (hears : ε → Option κ) (view : σ → ν) (Alike : σ → σ → Prop) : Prop where
  unheard : ∀ s e, hears e = none → view (step s e) = view s
  heard : ∀ s t e f what, view s = view t → hears e = some what → hears f = some what →
    Alike (step s e) (step t f) → view (step s e) = view (step t f)
  symm : ∀ s t, Alike s t → Alike t s
  before : ∀ s t e, Alike (step s e) t → Alike s t

namespace Unwinds

variable {s t : σ} {xs ys : List ε}

theorem run_unheard (h : Unwinds step hears view Alike) (hx : ∀ x ∈ xs, hears x = none) :
    view (run step s xs) = view s := by
  induction xs generalizing s with
  | nil => rfl
  | cons x xs ih =>
      rw [run_cons, ih fun y hy => hx y (List.mem_cons_of_mem x hy)]
      exact h.unheard s x (hx x List.mem_cons_self)

theorem before_runs (h : Unwinds step hears view Alike) (ha : Alike (run step s xs) (run step t ys)) :
    Alike s t := by
  have hleft : ∀ {s t : σ} {xs : List ε}, Alike (run step s xs) t → Alike s t := by
    intro s t xs ha
    induction xs generalizing s with
    | nil => exact ha
    | cons x xs ih => exact h.before s t x (ih ha)
  exact h.symm t s (hleft (h.symm _ _ (hleft ha)))

/-- From states that look alike, runs with the same heard events end in states that look alike. -/
theorem run (h : Unwinds step hears view Alike) (hv : view s = view t)
    (hheard : xs.filterMap hears = ys.filterMap hears) (ha : Alike (run step s xs) (run step t ys)) :
    view (Lib.run step s xs) = view (Lib.run step t ys) := by
  induction xs generalizing s t ys with
  | nil =>
      have hnone : ∀ y ∈ ys, hears y = none := List.filterMap_eq_nil_iff.mp hheard.symm
      rw [run_nil, h.run_unheard hnone, hv]
  | cons x xs ih =>
      rw [run_cons] at ha ⊢
      cases hx : hears x with
      | none =>
          rw [List.filterMap_cons_none hx] at hheard
          exact ih ((h.unheard s x hx).trans hv) hheard ha
      | some what =>
          -- the other run gets to the same heard event behind some that are not heard
          rw [List.filterMap_cons_some hx] at hheard
          obtain ⟨front, y, back, rfl, hfront, hy, hback⟩ := List.filterMap_eq_cons_iff.mp hheard.symm
          rw [run_append, run_cons] at ha ⊢
          have hmiddle : view s = view (Lib.run step t front) := hv.trans (h.run_unheard hfront).symm
          exact ih (h.heard _ _ x y what hmiddle hx hy (h.before_runs ha)) hback.symm ha

end Unwinds

end CustomModels.Lib
