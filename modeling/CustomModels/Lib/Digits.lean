import Mathlib.Data.Nat.Digits.Defs
import Mathlib.Data.Nat.ModEq

/-!
# Numbers of a fixed count of digits

A number in a fixed count of digits, the least significant one first, is its value modulo a power of the
base. Adding to it and multiplying it digit by digit, with the carry handed on, keep to that.
-/

namespace CustomModels.Lib

/-- The carry is added, and handed on only as long as a digit overflows. -/
def ripple (base : Nat) : (carry : Nat) → List Nat → List Nat
  | _, [] => []
  | carry, digit :: digits =>
      if base ≤ digit + carry then (digit + carry) % base :: ripple base ((digit + carry) / base) digits
      else (digit + carry) :: digits

/-- Every digit is multiplied, the carry added. -/
def scale (base factor : Nat) : (carry : Nat) → List Nat → List Nat
  | _, [] => []
  | carry, digit :: digits =>
      (digit * factor + carry) % base :: scale base factor ((digit * factor + carry) / base) digits

variable {base factor carry : Nat} {digits : List Nat}

@[simp] theorem scale_length : (scale base factor carry digits).length = digits.length := by
  induction digits generalizing carry with
  | nil => rfl
  | cons digit digits ih => simp [scale, ih]

theorem scale_lt [NeZero base] : ∀ digit ∈ scale base factor carry digits, digit < base := by
  induction digits generalizing carry with
  | nil => simp [scale]
  | cons digit digits ih =>
      intro d h
      cases List.mem_cons.mp h with
      | inl h => rw [h]; exact Nat.mod_lt _ (Nat.pos_of_neZero base)
      | inr h => exact ih d h

/-- The lowest digit of `value` in front of digits that stand for `high` and the carry. -/
theorem ofDigits_cons_modEq {value high count : Nat} {rest : List Nat}
    (agree : Nat.ofDigits base rest ≡ high + value / base [MOD base ^ count]) :
    Nat.ofDigits base (value % base :: rest) ≡ value + base * high [MOD base ^ (count + 1)] := by
  rw [Nat.ofDigits_cons, Nat.pow_succ']
  calc value % base + base * Nat.ofDigits base rest
      ≡ value % base + base * (high + value / base) [MOD base * base ^ count] := (agree.mul_left' base).add_left _
    _ = value % base + base * (value / base) + base * high := by rw [Nat.mul_add]; omega
    _ = value + base * high := by rw [Nat.mod_add_div]

theorem ofDigits_ripple : Nat.ofDigits base (ripple base carry digits) ≡
    Nat.ofDigits base digits + carry [MOD base ^ digits.length] := by
  induction digits generalizing carry with
  | nil => simp [Nat.modEq_one]
  | cons digit digits ih =>
      have total : Nat.ofDigits base (digit :: digits) + carry =
          digit + carry + base * Nat.ofDigits base digits := by
        rw [Nat.ofDigits_cons, Nat.add_right_comm]
      rw [ripple, List.length_cons, total]
      split
      · exact ofDigits_cons_modEq ih
      · rw [Nat.ofDigits_cons]

theorem ofDigits_scale : Nat.ofDigits base (scale base factor carry digits) ≡
    Nat.ofDigits base digits * factor + carry [MOD base ^ digits.length] := by
  induction digits generalizing carry with
  | nil => simp [Nat.modEq_one]
  | cons digit digits ih =>
      have total : Nat.ofDigits base (digit :: digits) * factor + carry =
          digit * factor + carry + base * (Nat.ofDigits base digits * factor) := by
        rw [Nat.ofDigits_cons, Nat.add_mul, Nat.mul_assoc, Nat.add_right_comm]
      rw [scale, List.length_cons, total]
      exact ofDigits_cons_modEq ih

end CustomModels.Lib
