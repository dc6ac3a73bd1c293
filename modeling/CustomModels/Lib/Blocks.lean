import Mathlib.Data.List.Basic
import Mathlib.Algebra.GroupWithZero.Nat

/-!
# Data in blocks

A machine that takes its data block by block, as much of it as fills blocks, and holds the rest back. What it
has taken and what it holds back depend on the data only, not on the chunks that the data came in.
-/

namespace CustomModels.Lib

variable {σ α : Type*}

/-- The full blocks at the head of `data` are taken; the state then, and what is left of the data. -/
def absorb (size : Nat) (step : σ → List α → σ) (s : σ) (data : List α) : σ × List α :=
  if 0 < size ∧ size ≤ data.length then absorb size step (step s (data.take size)) (data.drop size)
  else (s, data)
termination_by data.length
decreasing_by
  simp only [List.length_drop]
  omega

variable {size : Nat} {step : σ → List α → σ} {s : σ} {data more : List α}

theorem absorb_of_lt (short : data.length < size) : absorb size step s data = (s, data) := by
  rw [absorb, if_neg (by omega)]

theorem absorb_of_le (full : 0 < size ∧ size ≤ data.length) :
    absorb size step s data = absorb size step (step s (data.take size)) (data.drop size) := by
  rw [absorb, if_pos full]

theorem absorb_block [NeZero size] {block : List α} (full : block.length = size) :
    absorb size step s (block ++ data) = absorb size step (step s block) data := by
  rw [absorb_of_le ⟨Nat.pos_of_neZero size, by simp [full]⟩, ← full]
  simp

variable [NeZero size]

theorem absorb_one {block : List α} (full : block.length = size) :
    (absorb size step s block).1 = step s block := by
  have last := @absorb_block _ _ size step s [] _ block full
  rw [List.append_nil] at last
  rw [last, absorb_of_lt (Nat.pos_of_neZero size)]

theorem absorb_rest_length : (absorb size step s data).2.length = data.length % size := by
  have positive := Nat.pos_of_neZero size
  induction s, data using absorb.induct size step with
  | case1 s data full ih =>
      rw [absorb_of_le full, ih, List.length_drop, ← Nat.mod_eq_sub_mod full.2]
  | case2 s data short =>
      have below : data.length < size := by omega
      rw [absorb_of_lt below]
      exact (Nat.mod_eq_of_lt below).symm

/-- What is held back does not fill a block. -/
theorem absorb_rest_lt : (absorb size step s data).2.length < size := by
  rw [absorb_rest_length]
  exact Nat.mod_lt _ (Nat.pos_of_neZero size)

/-- Data that comes in two parts is taken as if it had come at once. -/
theorem absorb_append : absorb size step s (data ++ more) =
    absorb size step (absorb size step s data).1 ((absorb size step s data).2 ++ more) := by
  have positive := Nat.pos_of_neZero size
  induction s, data using absorb.induct size step with
  | case1 s data full ih =>
      have longer : 0 < size ∧ size ≤ (data ++ more).length := by simp; omega
      rw [absorb_of_le longer, absorb_of_le full, List.take_append_of_le_length full.2,
        List.drop_append_of_le_length full.2]
      exact ih
  | case2 s data short =>
      have below : data.length < size := by omega
      rw [@absorb_of_lt _ _ _ step s _ below]

end CustomModels.Lib
