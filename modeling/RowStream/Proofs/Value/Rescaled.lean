import RowStream.Cursor.Access
import RowStream.Proofs.Value.Decimal

/-! Decimals of a column asked for with fewer digits behind the point. -/
namespace RowStream

/-- With places that can be declared only the digits that arithmetic works with can be too few. -/
theorem Value.toDecimal_declared {k : ℕ} (small : k ≤ ScalarFamily.largestPrecision)
    (negative : Bool) (c : ℕ) (e : ℤ) :
    (Value.decimal (.finite negative c e)).toDecimal (some (k : ℤ)) =
      if Decimal.rescaled .away c e (-(k : ℤ)) < Nat.pow 10 Decimal.defaultPrecision then
        .ok (.finite negative (Decimal.rescaled .away c e (-(k : ℤ))) (-(k : ℤ)))
      else .error (.value (.rescale (.finite negative c e) k)) := by
  have scaled := ColumnType.withExponent_declared .away negative c e
    (show 1 ≤ Decimal.defaultPrecision by decide) (by decide) small
  have rescale : Decimal.rescale Decimal.defaultPrecision .away (.finite negative c e) (k : ℤ) =
      Decimal.withExponent Decimal.defaultPrecision .away (.finite negative c e) (-(k : ℤ)) := by
    rw [Decimal.rescale, ColumnType.unitExponent_of_le small]
    rfl
  have exact : (Value.decimal (.finite negative c e)).exactDecimal =
      .ok (.finite negative c e) := rfl
  rw [toDecimal, exact]
  simp only [bind, Except.bind, rescale]
  by_cases fits : Decimal.rescaled .away c e (-(k : ℤ)) < Nat.pow 10 Decimal.defaultPrecision
  · rw [scaled, if_pos fits, if_pos fits]
    rfl
  · rw [scaled, if_neg fits, if_neg fits]
    rfl

namespace ColumnType

variable {a : Attributes} {p s k : ℕ} {raw null : Text} {v : Value}

/-- A token that is not null is read as a decimal of the declared scale. -/
theorem of_decode_decimal [ZoneDatabase] (bounded : a.precision = some (p : ℤ))
    (fixed : a.scale = some (s : ℤ)) (some : 1 ≤ p) (small : p ≤ ScalarFamily.largestPrecision)
    (within : s ≤ p) (read : (scalar .decimal a).decode raw null = .ok v) (present : v ≠ .null) :
    ∃ negative c, v = .decimal (.finite negative c (-(s : ℤ))) := by
  have unfolded : (scalar .decimal a).decode raw null =
      if raw = null then .ok .null else .decimal <$> decodeDecimal a (Token.unescape raw) := rfl
  rw [unfolded] at read
  split at read
  · cases read
    exact absurd rfl present
  · obtain ⟨d, decoded, rfl⟩ := Except.of_map_eq_ok read
    obtain ⟨negative, c, rfl⟩ := of_decodeDecimal_eq_ok bounded fixed some small within decoded
    exact ⟨negative, c, rfl⟩

/-- A decimal of a column comes out rounded with halves away from zero, unless it has then more
digits than arithmetic works with, however many its type declares. Then it is refused. -/
theorem toDecimal_of_decode [ZoneDatabase] (bounded : a.precision = some (p : ℤ))
    (fixed : a.scale = some (s : ℤ)) (some : 1 ≤ p) (small : p ≤ ScalarFamily.largestPrecision)
    (within : s ≤ p) (inside : k ≤ s) (read : (scalar .decimal a).decode raw null = .ok v)
    (present : v ≠ .null) :
    ∃ negative c x, v = .decimal (.finite negative c (-(s : ℤ))) ∧
      (Decimal.finite negative c (-(s : ℤ))).value? = .some x ∧
      (|halfAway (x * 10 ^ k)| < 10 ^ Decimal.defaultPrecision →
        ∃ r, v.toDecimal (.some (k : ℤ)) = .ok (.finite negative r (-(k : ℤ))) ∧
          (Decimal.finite negative r (-(k : ℤ))).value? =
            .some (halfAway (x * 10 ^ k) / 10 ^ k)) ∧
      (10 ^ Decimal.defaultPrecision ≤ |halfAway (x * 10 ^ k)| →
        v.toDecimal (.some (k : ℤ)) =
          .error (.value (.rescale (.finite negative c (-(s : ℤ))) k))) ∧
      ∀ {σ : Type} (d : Cursor σ) (ref : ColumnRef), (d.readRef ref).1 = .ok v →
        (d.getDecimal ref (.some (k : ℤ))).1 = .some <$> v.toDecimal (.some (k : ℤ)) := by
  obtain ⟨negative, c, rfl⟩ := of_decode_decimal bounded fixed some small within read present
  have declared : k ≤ ScalarFamily.largestPrecision := le_trans inside (le_trans within small)
  have scaled := Value.toDecimal_declared declared negative c (-(s : ℤ))
  have rounded := Decimal.halfAway_rescaled negative c (-(s : ℤ)) k
  have fits : |halfAway (signFactor negative * c * 10 ^ (-(s : ℤ)) * 10 ^ k)| <
        10 ^ Decimal.defaultPrecision ↔
      Decimal.rescaled .away c (-(s : ℤ)) (-(k : ℤ)) < Nat.pow 10 Decimal.defaultPrecision := by
    rw [rounded, Numeral.abs_signed]
    exact_mod_cast Iff.rfl
  refine ⟨negative, c, _, rfl, rfl, ?_, ?_, ?_⟩
  · intro few
    rw [if_pos (fits.1 few)] at scaled
    refine ⟨_, scaled, ?_⟩
    rw [Decimal.value?, rounded, Numeral.cast_signed, zpow_neg, zpow_natCast, div_eq_mul_inv]
  · intro many
    rwa [if_neg (mt fits.2 (not_lt.2 many))] at scaled
  · intro σ cursor ref found
    rw [Cursor.getDecimal, Cursor.readAs]
    generalize cursor.readRef ref = x at found ⊢
    obtain ⟨answer, after⟩ := x
    cases found
    rfl

/-- A half that carries into a new digit. -/
theorem toDecimal_of_decode_carry :
    let type := ColumnType.scalar .decimal { precision := some 4, scale := some 2 }
    let v := Value.decimal (.finite true 9950 (-2))
    type.decode "-99.50".toList = .ok v ∧
    ∃ negative c x, v = .decimal (.finite negative c (-2)) ∧
      (Decimal.finite negative c (-2)).value? = some x ∧
      (|halfAway (x * 10 ^ 0)| < 10 ^ Decimal.defaultPrecision →
        ∃ r, v.toDecimal (some 0) = .ok (.finite negative r 0) ∧
          (Decimal.finite negative r 0).value? =
            some ((halfAway (x * 10 ^ 0) : ℚ) / 10 ^ 0)) ∧
      (10 ^ Decimal.defaultPrecision ≤ |halfAway (x * 10 ^ 0)| →
        v.toDecimal (some 0) = .error (.value (.rescale (.finite negative c (-2)) 0))) ∧
      ∀ {σ : Type} (d : Cursor σ) (ref : ColumnRef), (d.readRef ref).1 = .ok v →
        (d.getDecimal ref (some 0)).1 = some <$> v.toDecimal (some 0) := by
  intro type v
  have read : type.decode "-99.50".toList = .ok v := rfl
  have present : v ≠ .null := by simp [v]
  exact ⟨read, toDecimal_of_decode rfl rfl (by decide) (by decide) (by decide) (Nat.zero_le 2) read
    present⟩

/-- A number of 29 digits, which the type declares room for, cannot be asked for with the very
digits that it has. -/
theorem toDecimal_of_long :
    ∃ type v, ColumnType.ofTag "decimal(38, 0)".toList = .ok type ∧
      type.decode "12345678901234567890123456789".toList = .ok v ∧
      v = .decimal (.finite false 12345678901234567890123456789 0) ∧
      v.toDecimal (some 0) = .error (.value (.rescale
        (.finite false 12345678901234567890123456789 0) 0)) := by
  have declared : (ColumnType.ofTag "decimal(38, 0)".toList).toOption =
      some (.scalar .decimal { precision := some 38, scale := some 0 }) := by decide +kernel
  exact ⟨_, _, Except.of_toOption_eq_some declared, rfl, rfl, rfl⟩

end ColumnType

end RowStream
