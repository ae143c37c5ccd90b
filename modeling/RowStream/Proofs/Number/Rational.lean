import Mathlib.Algebra.Order.Round
import Mathlib.Data.Rat.Floor
import Mathlib.Tactic.FieldSimp
import Mathlib.Tactic.Linarith
import Mathlib.Tactic.Positivity
import Mathlib.Tactic.Ring
import RowStream.Proofs.Number.Rescaled
import RowStream.Proofs.Text.Digits

/-! The rational numbers that numerals and decimals stand for, and decimals rounded among them. -/
namespace RowStream

/-- The factor that a sign stands for. -/
def signFactor (negative : Bool) : ℚ := if negative then -1 else 1

/-- A whole number and a fraction behind it, times a power of ten. -/
def Numeral.value (n : Numeral) : ℚ :=
  signFactor n.negative *
    (Text.numberOf n.whole + Text.numberOf n.fraction / 10 ^ n.fraction.length) * 10 ^ n.exponent

/-- The number that a finite decimal stands for. -/
def Decimal.value? : Decimal → Option ℚ
  | .finite negative c e => some (signFactor negative * c * 10 ^ e)
  | _ => none

/-- The nearest integer, away from zero where two are as near. -/
def halfAway (x : ℚ) : ℤ := if x < 0 then -round (-x) else round x

theorem abs_signFactor (negative : Bool) : |signFactor negative| = 1 := by
  cases negative <;> simp [signFactor]

theorem Numeral.cast_signed (negative : Bool) (n : ℕ) :
    (signed negative n : ℚ) = signFactor negative * n := by
  cases negative <;> simp [signed, signFactor]

theorem Numeral.abs_signed (negative : Bool) (n : ℕ) : |signed negative n| = n := by
  cases negative <;> simp [signed]

/-- The sign has no part in rounding. -/
theorem halfAway_signed (negative : Bool) {x : ℚ} {n : ℕ} (above : 0 ≤ x) (rounded : round x = n) :
    halfAway (signFactor negative * x) = Numeral.signed negative n := by
  cases negative with
  | false =>
    have positive : ¬x < 0 := not_lt.2 above
    simp [halfAway, signFactor, positive, rounded, Numeral.signed]
  | true =>
    rcases above.eq_or_lt with rfl | positive
    · rw [round_zero] at rounded
      simp [halfAway, signFactor, Numeral.signed, ← rounded]
    · simp [halfAway, signFactor, positive, rounded, Numeral.signed]

theorem cast_pow_ten (k : ℕ) : ((Nat.pow 10 k : ℕ) : ℚ) = 10 ^ k := Nat.cast_pow 10 k

namespace Numeral

theorem numberOf_append (digits more : List ℕ) :
    Text.numberOf (digits ++ more) =
      Text.numberOf digits * Nat.pow 10 more.length + Text.numberOf more := by
  induction more using List.reverseRecOn with
  | nil => simp [Text.numberOf]
  | append_singleton more d ih =>
    have tens : Nat.pow 10 (more ++ [d]).length = Nat.pow 10 more.length * 10 := by
      rw [List.length_append]
      rfl
    rw [← List.append_assoc, Text.numberOf_concat, Text.numberOf_concat, ih, tens]
    ring

theorem value_eq (n : Numeral) :
    n.value = signFactor n.negative * n.coefficient * 10 ^ n.scale := by
  have ten : (10 : ℚ) ≠ 0 := by norm_num
  rw [value, coefficient, numberOf_append, scale, zpow_sub₀ ten, zpow_natCast]
  push_cast
  rw [cast_pow_ten]
  field_simp

theorem abs_value (n : Numeral) : |n.value| = n.coefficient * 10 ^ n.scale := by
  have above : (0 : ℚ) ≤ n.coefficient * 10 ^ n.scale :=
    mul_nonneg (Nat.cast_nonneg _) (zpow_nonneg (by norm_num) _)
  rw [value_eq, mul_assoc, abs_mul, abs_signFactor, one_mul, abs_of_nonneg above]

theorem value_eq_zero_iff (n : Numeral) : n.value = 0 ↔ n.coefficient = 0 := by
  have ten : (10 : ℚ) ^ n.scale ≠ 0 := zpow_ne_zero _ (by norm_num)
  rw [← abs_eq_zero, abs_value, mul_eq_zero, or_iff_left ten, Nat.cast_eq_zero]

end Numeral

namespace Decimal

variable {ties : Ties} {c : ℕ} {e target : ℤ}

/-- Nothing is rounded where the new exponent is not greater. -/
theorem rescaled_of_le (h : target ≤ e) :
    (rescaled ties c e target : ℚ) = c * 10 ^ (e - target) := by
  have shift : e - target = ((e - target).toNat : ℤ) := by omega
  rw [rescaled, if_pos h, Nat.cast_mul, cast_pow_ten, shift, zpow_natCast, Int.toNat_natCast]

theorem value?_rescaled (negative : Bool) (h : target ≤ e) :
    (finite negative (rescaled ties c e target) target).value? =
      some (signFactor negative * c * 10 ^ e) := by
  have ten : (10 : ℚ) ≠ 0 := by norm_num
  rw [value?, rescaled_of_le h, mul_assoc, mul_assoc, mul_assoc, ← zpow_add₀ ten,
    sub_add_cancel]

theorem round_rescaled (c : ℕ) (e target : ℤ) :
    round ((c : ℚ) * 10 ^ (e - target)) = rescaled .away c e target := by
  by_cases h : target ≤ e
  · rw [← rescaled_of_le h]
    exact round_natCast _
  · rw [rescaled, if_neg h]
    have shift : e - target = -((target - e).toNat : ℤ) := by omega
    rw [shift, zpow_neg, zpow_natCast]
    generalize (target - e).toNat = count
    obtain ⟨low, high⟩ := dropDigits_away c count
    have some : (0 : ℚ) < 10 ^ count := by positivity
    have low' : 2 * ((dropDigits .away c count : ℚ) * 10 ^ count) ≤ 2 * c + 10 ^ count := by
      rw [← cast_pow_ten]
      exact_mod_cast low
    have high' : 2 * (c : ℚ) < 2 * (dropDigits .away c count * 10 ^ count) + 10 ^ count := by
      rw [← cast_pow_ten]
      exact_mod_cast high
    rw [round_eq_iff, Set.mem_Ico, ← div_eq_mul_inv, le_div_iff₀ some, div_lt_iff₀ some]
    push_cast
    constructor <;> linarith

/-- To drop digits is to round the number on their places. -/
theorem halfAway_rescaled (negative : Bool) (c : ℕ) (e : ℤ) (places : ℕ) :
    halfAway (signFactor negative * c * 10 ^ e * 10 ^ places) =
      Numeral.signed negative (rescaled .away c e (-(places : ℤ))) := by
  have ten : (10 : ℚ) ≠ 0 := by norm_num
  have shifted : signFactor negative * c * 10 ^ e * 10 ^ places =
      signFactor negative * (c * 10 ^ (e - -(places : ℤ))) := by
    rw [sub_neg_eq_add, zpow_add₀ ten, zpow_natCast]
    ring
  have above : (0 : ℚ) ≤ c * 10 ^ (e - -(places : ℤ)) :=
    mul_nonneg (Nat.cast_nonneg c) (zpow_nonneg (by norm_num) _)
  rw [shifted]
  exact halfAway_signed negative above (round_rescaled c e _)

end Decimal

end RowStream
