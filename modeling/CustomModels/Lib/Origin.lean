import Mathlib.Data.List.Induction
import CustomModels.Lib.Run

/-!
# Origins

What a state shows may come from an earlier one. If each step either finds it there or makes it out of something that
held right before, then that something has held in the run, and no event has wiped it out since.
-/

namespace CustomModels.Lib

variable {σ ε : Type*} (step : σ → ε → σ)

/-- `P` held in a state that the run visits, and no event was of the kind `B` since. -/
def Since (B : ε → Prop) (P : σ → Prop) (s : σ) (events : List ε) : Prop :=
  ∃ early late, events = early ++ late ∧ (∀ e ∈ late, ¬ B e) ∧ P (run step s early)

variable {step} {B : ε → Prop} {P Q : σ → Prop} {s : σ} {events : List ε}

theorem Since.now (h : P (run step s events)) : Since step B P s events :=
  ⟨events, [], (List.append_nil events).symm, nofun, h⟩

/-- An event that is not of the kind makes no difference. -/
theorem Since.snoc {e : ε} (h : Since step B P s events) (he : ¬ B e) : Since step B P s (events ++ [e]) := by
  obtain ⟨early, late, rfl, hlate, hp⟩ := h
  refine ⟨early, late ++ [e], List.append_assoc early late [e], fun other ho => ?_, hp⟩
  rcases List.mem_append.mp ho with ho | ho
  · exact hlate other ho
  · rwa [List.mem_singleton.mp ho]

/-- What a run shows at its end has an origin in it. -/
theorem since_of_origin (hstart : ¬ Q s)
    (hstep : ∀ front e, front ++ [e] <+: events → Q (step (run step s front) e) →
      ¬ B e ∧ (Q (run step s front) ∨ P (run step s front)))
    (h : Q (run step s events)) : Since step B P s events := by
  induction events using List.reverseRecOn with
  | nil => exact absurd h hstart
  | append_singleton front e ih =>
      rw [run_append] at h
      obtain ⟨he, hq | hp⟩ := hstep front e (List.prefix_refl _) h
      · have hfront := ih (fun front' e' hp => hstep front' e' (hp.trans (List.prefix_append front [e]))) hq
        exact hfront.snoc he
      · exact (Since.now hp).snoc he

end CustomModels.Lib
