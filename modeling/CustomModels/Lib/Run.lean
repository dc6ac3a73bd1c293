import Mathlib.Logic.Relation
import Mathlib.Tactic.ByContra

/-!
# Runs

A machine is a step function over a state; a run folds it over a list of events. Invariants of one step
are carried to every state that a run visits, also when the step keeps them only under a side condition
on the event and on the state it meets. Where the steps are a relation, a walk is a run with its events.
-/

namespace CustomModels.Lib

variable {σ ε : Type*} (step : σ → ε → σ)

/-- The state that a run over `events` ends in. -/
def run (s : σ) (events : List ε) : σ := events.foldl step s

@[simp] theorem run_nil (s : σ) : run step s [] = s := rfl

@[simp] theorem run_cons (s : σ) (e : ε) (events : List ε) :
    run step s (e :: events) = run step (step s e) events := rfl

theorem run_append (s : σ) (xs ys : List ε) :
    run step s (xs ++ ys) = run step (run step s xs) ys := List.foldl_append

/-- `C` holds of every event of the run and of the state that the event meets. -/
def Along (C : σ → ε → Prop) : σ → List ε → Prop
  | _, [] => True
  | s, e :: events => C s e ∧ Along C (step s e) events

instance Along.decidable (C : σ → ε → Prop) [∀ s e, Decidable (C s e)] :
    (s : σ) → (events : List ε) → Decidable (Along step C s events)
  | _, [] => .isTrue trivial
  | s, e :: events =>
      have := Along.decidable C (step s e) events
      inferInstanceAs (Decidable (C s e ∧ Along step C (step s e) events))

/-- `P` holds of every state that the run visits, its first and its last one included. -/
def Always (P : σ → Prop) (s : σ) (events : List ε) : Prop :=
  ∀ visited, visited <+: events → P (run step s visited)

/-- What the steps of a run give, in order. -/
def collect {α : Type*} (f : σ → ε → List α) : σ → List ε → List α
  | _, [] => []
  | s, e :: events => f s e ++ collect f (step s e) events

variable {step}

theorem Along.append {C : σ → ε → Prop} {s : σ} {xs ys : List ε} :
    Along step C s (xs ++ ys) ↔ Along step C s xs ∧ Along step C (run step s xs) ys := by
  induction xs generalizing s with
  | nil => simp [Along]
  | cons x xs ih => simp only [List.cons_append, Along, ih, run_cons, and_assoc]

theorem run_invariant {I : σ → Prop} (hstep : ∀ s e, I s → I (step s e)) {s : σ} (h : I s)
    (events : List ε) : I (run step s events) := by
  induction events generalizing s with
  | nil => exact h
  | cons e events ih => exact ih (hstep s e h)

/-- An invariant that a step keeps under the condition `C` holds at the end of every run along `C`. -/
theorem run_invariant_along {I : σ → Prop} {C : σ → ε → Prop}
    (hstep : ∀ s e, I s → C s e → I (step s e)) {s : σ} (h : I s) {events : List ε}
    (hc : Along step C s events) : I (run step s events) := by
  induction events generalizing s with
  | nil => exact h
  | cons e events ih => exact ih (hstep s e h hc.1) hc.2

theorem Along.of_prefix {C : σ → ε → Prop} {s : σ} {xs ys : List ε} (h : xs <+: ys)
    (hc : Along step C s ys) : Along step C s xs := by
  obtain ⟨zs, rfl⟩ := h
  exact (Along.append.mp hc).1

theorem always_of_along {I : σ → Prop} {C : σ → ε → Prop}
    (hstep : ∀ s e, I s → C s e → I (step s e)) {s : σ} (h : I s) {events : List ε}
    (hc : Along step C s events) : Always step I s events :=
  fun _ hv => run_invariant_along hstep h (hc.of_prefix hv)

theorem Always.mono {P Q : σ → Prop} (hpq : ∀ s, P s → Q s) {s : σ} {events : List ε}
    (h : Always step P s events) : Always step Q s events := fun v hv => hpq _ (h v hv)

/-- A run that stays good has met the condition at every step, when a step that breaks the condition
leaves the good states. -/
theorem along_of_always {I P : σ → Prop} {C : σ → ε → Prop}
    (hstep : ∀ s e, I s → C s e → I (step s e)) (hbreak : ∀ s e, I s → ¬ C s e → ¬ P (step s e))
    {s : σ} (h : I s) {events : List ε} (hp : Always step P s events) : Along step C s events := by
  induction events generalizing s with
  | nil => trivial
  | cons e events ih =>
      have hc : C s e := by
        by_contra hc
        exact hbreak s e h hc (hp [e] ⟨events, rfl⟩)
      refine ⟨hc, ih (hstep s e h hc) ?_⟩
      rintro visited ⟨rest, rfl⟩
      exact hp (e :: visited) ⟨rest, rfl⟩

/-- A run with the invariant `I` has `C` throughout exactly if it has `D`, when they agree under the invariant and
steps with `C` keep it. -/
theorem along_congr_of_invariant {I : σ → Prop} {C D : σ → ε → Prop} (hcd : ∀ s e, I s → (C s e ↔ D s e))
    (hstep : ∀ s e, I s → C s e → I (step s e)) {s : σ} (h : I s) {events : List ε} :
    Along step C s events ↔ Along step D s events := by
  induction events generalizing s with
  | nil => exact Iff.rfl
  | cons e events ih =>
      constructor
      · intro ⟨hc, hrest⟩
        exact ⟨(hcd s e h).mp hc, (ih (hstep s e h hc)).mp hrest⟩
      · intro ⟨hd, hrest⟩
        have hc := (hcd s e h).mpr hd
        exact ⟨hc, (ih (hstep s e h hc)).mpr hrest⟩

/-- An invariant of a step relation holds in every state it reaches. -/
theorem reachable_invariant {R : σ → σ → Prop} {I : σ → Prop} (hstep : ∀ s s', I s → R s s' → I s')
    {s s' : σ} (h : I s) (hr : Relation.ReflTransGen R s s') : I s' := by
  induction hr with
  | refl => exact h
  | tail _ hlast ih => exact hstep _ _ ih hlast

/-! ## Walks -/

/-- The relation leads from the first state to the last one through the events. -/
inductive Walk (R : σ → ε → σ → Prop) : σ → List ε → σ → Prop where
  | nil {s : σ} : Walk R s [] s
  | cons {s s' last : σ} {e : ε} {events : List ε} (first : R s e s') (rest : Walk R s' events last) :
      Walk R s (e :: events) last

namespace Walk

variable {R : σ → ε → σ → Prop} {s last : σ} {xs ys : List ε}

theorem append_iff : Walk R s (xs ++ ys) last ↔ ∃ middle, Walk R s xs middle ∧ Walk R middle ys last := by
  induction xs generalizing s with
  | nil =>
      refine ⟨fun h => ⟨s, .nil, h⟩, ?_⟩
      intro ⟨middle, hx, hy⟩
      cases hx
      exact hy
  | cons x xs ih =>
      constructor
      · intro h
        cases h with
        | cons first rest =>
            obtain ⟨middle, hx, hy⟩ := ih.mp rest
            exact ⟨middle, .cons first hx, hy⟩
      · intro ⟨middle, hx, hy⟩
        cases hx with
        | cons first rest => exact .cons first (ih.mpr ⟨middle, rest, hy⟩)

theorem single {e : ε} (h : R s e last) : Walk R s [e] last := .cons h .nil

theorem append {middle : σ} (hx : Walk R s xs middle) (hy : Walk R middle ys last) : Walk R s (xs ++ ys) last :=
  append_iff.mpr ⟨middle, hx, hy⟩

end Walk

end CustomModels.Lib
