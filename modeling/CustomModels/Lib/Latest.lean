import Mathlib.Data.List.Induction
import CustomModels.Lib.Run

/-!
# The latest value

Among the elements of a list that give a value, the last one wins. A state that takes over every value as it
comes ends with the latest ones.
-/

namespace CustomModels.Lib

variable {α β κ σ : Type*}

/-- The value that the last element with one gives. -/
def latest (f : α → Option β) (xs : List α) : Option β := (xs.filterMap f).getLast?

variable {f : α → Option β}

theorem latest_append_singleton (xs : List α) (x : α) : latest f (xs ++ [x]) = (f x).or (latest f xs) := by
  rw [latest, latest, List.filterMap_append]
  cases hx : f x with
  | none => simp [List.filterMap_cons_none hx]
  | some value => simp [List.filterMap_cons_some hx]

/-- Values for different keys may come in either order. -/
theorem or_left_comm {a b : Option β} (h : a = none ∨ b = none) (last : Option β) :
    b.or (a.or last) = a.or (b.or last) := by
  rcases h with rfl | rfl <;> simp

/-- A relation to the values by key that every step takes along holds of the latest values. -/
theorem run_latest {step : σ → α → σ} {I : σ → (κ → Option β) → Prop} (f : κ → α → Option β)
    (hstep : ∀ s last x, I s last → I (step s x) fun key => (f key x).or (last key)) {s : σ}
    (h : I s fun _ => none) (xs : List α) : I (run step s xs) fun key => latest (f key) xs := by
  induction xs using List.reverseRecOn with
  | nil => exact h
  | append_singleton xs x ih =>
      rw [run_append]
      simp only [latest_append_singleton]
      exact hstep _ _ x ih

end CustomModels.Lib
