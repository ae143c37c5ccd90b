import RowStream.Proofs.Number.Grammar
import RowStream.Proofs.Number.Rational
import RowStream.Proofs.Value.Scalar

/-! Decimals of a declared precision and scale: which texts have one, and that it is the number they
spell. -/
namespace RowStream

/-- There are no more digits behind the point than the scale, and the size is below what the
precision leaves in front of it. -/
structure Numeral.Fits (n : Numeral) (p s : ℕ) : Prop where
  places : (n.fraction.length - n.exponent : ℤ) ≤ s
  size : |n.value| < 10 ^ (p - s)

namespace ColumnType

variable {a : Attributes} {p s : ℕ} {text : Text} {n : Numeral}

/-- To fit the precision under the scale is to be small enough. -/
theorem rescaled_lt_iff (below : -(s : ℤ) ≤ n.scale) (within : s ≤ p) :
    Decimal.rescaled .even n.coefficient n.scale (-(s : ℤ)) < Nat.pow 10 p ↔
      |n.value| < 10 ^ (p - s) := by
  have shifted : (Decimal.rescaled .even n.coefficient n.scale (-(s : ℤ)) : ℚ) =
      |n.value| * 10 ^ s := by
    rw [Decimal.rescaled_of_le below, Numeral.abs_value, sub_neg_eq_add,
      zpow_add₀ (by norm_num), zpow_natCast, mul_assoc]
  have split : (10 : ℚ) ^ p = 10 ^ (p - s) * 10 ^ s := by
    rw [← pow_add, Nat.sub_add_cancel within]
  rw [← Nat.cast_lt (α := ℚ), cast_pow_ten, shifted, split]
  exact mul_lt_mul_iff_left₀ (by positivity)

/-- A text that spells a number is refused for more digits than the scale allows, and then for more
than are worked with. -/
theorem decodeDecimal_of_working (fixed : a.scale = some (s : ℤ))
    (low : s ≤ ScalarFamily.largestPrecision) (some : 1 ≤ p)
    (small : p ≤ ScalarFamily.largestPrecision) (spelled : Numeral.Spelled text n)
    (reach : Decimal.Exists n.coefficient n.scale)
    (working : workingPrecision a.precision (Decimal.digitCount n.coefficient) = .ok p) :
    decodeDecimal a text =
      if (s : ℤ) < -n.scale then .error (failed text (.scalar .decimal a) (.fractionDigits s))
      else if Decimal.rescaled .even n.coefficient n.scale (-(s : ℤ)) < Nat.pow 10 p then
        .ok (.finite n.negative (Decimal.rescaled .even n.coefficient n.scale (-(s : ℤ)))
          (-(s : ℤ)))
      else .error (failed text (.scalar .decimal a) (.precision a.precision)) := by
  have made : Decimal.ofNumeral n = .ok (.finite n.negative n.coefficient n.scale) := by
    obtain ⟨least, most⟩ := reach
    rw [Decimal.ofNumeral, if_neg (by omega)]
  rw [decodeDecimal, Numeral.parse?_eq_some_iff.2 spelled]
  simp only [made, fixed]
  rw [scaledDecimal_of_working text low working, withExponent_declared .even _ _ _ some small low]
  congr 1
  split <;> rfl

section Declared

variable (bounded : a.precision = some (p : ℤ)) (fixed : a.scale = some (s : ℤ)) (some : 1 ≤ p)
  (small : p ≤ ScalarFamily.largestPrecision) (within : s ≤ p)

include bounded fixed some small within

theorem decodeDecimal_eq (spelled : Numeral.Spelled text n)
    (reach : Decimal.Exists n.coefficient n.scale) :
    decodeDecimal a text =
      if (s : ℤ) < -n.scale then .error (failed text (.scalar .decimal a) (.fractionDigits s))
      else if Decimal.rescaled .even n.coefficient n.scale (-(s : ℤ)) < Nat.pow 10 p then
        .ok (.finite n.negative (Decimal.rescaled .even n.coefficient n.scale (-(s : ℤ)))
          (-(s : ℤ)))
      else .error (failed text (.scalar .decimal a) (.precision a.precision)) :=
  decodeDecimal_of_working fixed (le_trans within small) some small spelled reach
    (workingPrecision_declared some bounded _)

/-- Every value has the declared scale. -/
theorem of_decodeDecimal_eq_ok {d : Decimal} (h : decodeDecimal a text = .ok d) :
    ∃ negative c, d = .finite negative c (-(s : ℤ)) := by
  cases read : Numeral.parse? text with
  | none =>
    rw [decodeDecimal, read] at h
    cases h
  | some n =>
    by_cases reach : Decimal.Exists n.coefficient n.scale
    · rw [decodeDecimal_eq bounded fixed some small within (Numeral.parse?_eq_some_iff.1 read)
        reach] at h
      split at h
      · cases h
      · split at h
        · cases h
          exact ⟨_, _, rfl⟩
        · cases h
    · have beyond : Decimal.ofNumeral n = .error .invalid := by
        rw [Decimal.Exists] at reach
        rw [Decimal.ofNumeral, if_pos (by omega)]
      rw [decodeDecimal, read] at h
      simp only [beyond] at h
      cases h

/-- A number that fits is kept as it is, and every other text is refused. -/
theorem decodeDecimal_cases_of_declared
    (reach : ∀ n, Numeral.Spelled text n → Decimal.Exists n.coefficient n.scale) :
    (∃ n c, Numeral.Spelled text n ∧ n.Fits p s ∧
      decodeDecimal a text = .ok (.finite n.negative c (-(s : ℤ))) ∧
        (Decimal.finite n.negative c (-(s : ℤ))).value? = .some n.value) ∨
    ((∀ n, Numeral.Spelled text n → ¬n.Fits p s) ∧
      ∃ reason, decodeDecimal a text = .error (failed text (.scalar .decimal a) reason)) := by
  cases read : Numeral.parse? text with
  | none =>
    refine .inr ⟨?_, .malformed, ?_⟩
    · intro n spelled
      rw [Numeral.parse?_eq_some_iff.2 spelled] at read
      cases read
    · rw [decodeDecimal, read]
  | some n =>
    have spelled := Numeral.parse?_eq_some_iff.1 read
    have eq := decodeDecimal_eq bounded fixed some small within spelled (reach n spelled)
    have misfits (misfit : ¬n.Fits p s) (m : Numeral) (other : Numeral.Spelled text m) :
        ¬m.Fits p s := by
      have same := Numeral.parse?_eq_some_iff.2 other
      rw [read] at same
      rwa [← Option.some.inj same]
    have places : (n.fraction.length - n.exponent : ℤ) = -n.scale := by
      rw [Numeral.scale, neg_sub]
    by_cases long : (s : ℤ) < -n.scale
    · rw [if_pos long] at eq
      refine .inr ⟨misfits ?_, _, eq⟩
      rintro ⟨few, -⟩
      omega
    · rw [if_neg long] at eq
      have below : -(s : ℤ) ≤ n.scale := by omega
      have size := rescaled_lt_iff below within
      by_cases low : |n.value| < 10 ^ (p - s)
      · rw [if_pos (size.2 low)] at eq
        refine .inl ⟨n, _, spelled, ⟨by omega, low⟩, eq, ?_⟩
        rw [Decimal.value?_rescaled _ below, Numeral.value_eq]
      · rw [if_neg (mt size.1 low)] at eq
        exact .inr ⟨misfits fun fits => low fits.size, _, eq⟩

/-- Under a declared precision and scale exactly the texts that spell a number that fits have a
value. It has that scale, the sign that is written and the very number; for any other text it is
the value that is at fault. -/
theorem decodeText_decimal [ZoneDatabase]
    (reach : ∀ n, Numeral.Spelled text n → Decimal.Exists n.coefficient n.scale) :
    ((decodeText (.scalar .decimal a) text).isOk ↔ ∃ n, Numeral.Spelled text n ∧ n.Fits p s) ∧
    (∀ n v, Numeral.Spelled text n → decodeText (.scalar .decimal a) text = .ok v →
      ∃ c, v = .decimal (.finite n.negative c (-(s : ℤ))) ∧
        (Decimal.finite n.negative c (-(s : ℤ))).value? = .some n.value) ∧
    ∀ e, decodeText (.scalar .decimal a) text = .error e → ∃ fault, e = .value fault := by
  have scalar : decodeText (.scalar .decimal a) text = .decimal <$> decodeDecimal a text := rfl
  rw [scalar]
  obtain ⟨n, c, spelled, fits, eq, value⟩ | ⟨misfits, reason, eq⟩ :=
    decodeDecimal_cases_of_declared bounded fixed some small within reach
  · rw [eq]
    refine ⟨⟨fun _ => ⟨n, spelled, fits⟩, fun _ => rfl⟩, ?_, ?_⟩
    · rintro m v other ⟨⟩
      have same := (Numeral.parse?_eq_some_iff.2 other).symm.trans
        (Numeral.parse?_eq_some_iff.2 spelled)
      rw [Option.some.inj same]
      exact ⟨c, rfl, value⟩
    · rintro e ⟨⟩
  · rw [eq]
    refine ⟨⟨?_, ?_⟩, ?_, ?_⟩
    · rintro ⟨⟩
    · rintro ⟨n, spelled, fits⟩
      exact absurd fits (misfits n spelled)
    · rintro n v spelled ⟨⟩
    · rintro e ⟨⟩
      exact ⟨_, rfl⟩

end Declared

/-- An exponent that moves the point by as much as the scale allows. -/
theorem decodeText_decimal_exponent :
    let type := ColumnType.scalar .decimal { precision := some 3, scale := some 2 }
    let text := "-012.5e-1".toList
    ((type.decodeText text).isOk ↔ ∃ n, Numeral.Spelled text n ∧ n.Fits 3 2) ∧
    (∀ n v, Numeral.Spelled text n → type.decodeText text = .ok v →
      ∃ c, v = .decimal (.finite n.negative c (-2)) ∧
        (Decimal.finite n.negative c (-2)).value? = some n.value) ∧
    ∀ e, type.decodeText text = .error e → ∃ fault, e = .value fault := by
  intro type text
  refine decodeText_decimal rfl rfl (by decide) (by decide) (by decide) ?_
  intro n spelled
  have read : Numeral.parse? text = some ⟨true, [0, 1, 2], [5], -1⟩ := rfl
  rw [Numeral.parse?_eq_some_iff.2 spelled] at read
  rw [Option.some.inj read]
  constructor <;> decide

end ColumnType

end RowStream
