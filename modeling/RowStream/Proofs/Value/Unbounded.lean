import RowStream.Proofs.Value.Decimal

/-! Decimals of a declared scale and no precision. The digits that are written then are all the
digits that the decimal may have, so that there is no room for more places behind the point. -/
namespace RowStream

namespace Numeral

variable {body : Text} {whole fraction : List ℕ}

theorem Mantissa.exists_writes (h : Mantissa body whole fraction) :
    ∃ t, Text.Writes t (Text.numberOf (whole ++ fraction)) ∧
      t.length = (whole ++ fraction).length ∧ t ≠ [] := by
  cases h with
  | whole some digits =>
    refine ⟨body, ⟨digits, by rw [List.append_nil]⟩, ?_, some⟩
    rw [List.append_nil, Text.length_filterMap_digit? digits]
  | @pointed front back some digits digits' =>
    have all : ∀ c ∈ front ++ back, c.isDigit := List.forall_mem_append.2 ⟨digits, digits'⟩
    refine ⟨front ++ back, ⟨all, by rw [List.filterMap_append]⟩, ?_, ?_⟩
    · rw [← List.filterMap_append, Text.length_filterMap_digit? all]
    · intro none
      obtain ⟨rfl, rfl⟩ := List.append_eq_nil_iff.1 none
      rcases some with some | some <;> exact some rfl

/-- Zeros in front are not counted among the digits of a number. -/
theorem Mantissa.digitCount_le (h : Mantissa body whole fraction) :
    Decimal.digitCount (Text.numberOf (whole ++ fraction)) ≤ (whole ++ fraction).length := by
  obtain ⟨t, writes, length, some⟩ := h.exists_writes
  rw [← length, Decimal.digitCount_le_iff (List.length_pos_iff.2 some)]
  exact writes.lt

end Numeral

namespace ColumnType

variable {a : Attributes} {s : ℕ} {sign body : Text} {negative : Bool} {whole fraction : List ℕ}

section Unbounded

variable (free : a.precision = none) (fixed : a.scale = some (s : ℤ))
  (low : s ≤ ScalarFamily.largestPrecision)
  (signs : Numeral.Sign sign negative) (mantissa : Numeral.Mantissa body whole fraction)
  (few : (whole ++ fraction).length ≤ ScalarFamily.largestPrecision)

include free fixed low signs mantissa few

theorem decodeDecimal_unbounded :
    let n : Numeral := ⟨negative, whole, fraction, 0⟩
    decodeDecimal a (sign ++ body) =
      if s < fraction.length then
        .error (failed (sign ++ body) (.scalar .decimal a) (.fractionDigits s))
      else if fraction.length = s ∨ n.value = 0 then
        .ok (.finite negative (Decimal.rescaled .even n.coefficient n.scale (-(s : ℤ))) (-(s : ℤ)))
      else .error (failed (sign ++ body) (.scalar .decimal a) (.precision none)) := by
  intro n
  have spelled : Numeral.Spelled (sign ++ body) n := by
    have spelled := Numeral.Spelled.mk signs mantissa .none
    rwa [List.append_nil] at spelled
  have scale : n.scale = -(fraction.length : ℤ) := zero_sub _
  have digits : Decimal.digitCount n.coefficient ≤ ScalarFamily.largestPrecision :=
    le_trans mantissa.digitCount_le few
  have reach : Decimal.Exists n.coefficient n.scale := by
    have places : fraction.length ≤ ScalarFamily.largestPrecision := by
      rw [List.length_append] at few
      omega
    rw [scale]
    exact exists_of_fits le_rfl places digits
  -- The digits worked with are those of the number itself, without zeros in front.
  have working : workingPrecision a.precision (Decimal.digitCount n.coefficient) =
      .ok (Decimal.digitCount n.coefficient) := by rw [free, workingPrecision]
  rw [decodeDecimal_of_working fixed low (Decimal.digitCount_pos _) digits spelled reach working,
    free]
  by_cases long : s < fraction.length
  · rw [if_pos (by omega), if_pos long]
  · rw [if_neg (by omega), if_neg long]
    have below : -(s : ℤ) ≤ n.scale := by omega
    have room := Decimal.rescaled_lt_pow_digitCount_iff (c := n.coefficient) .even below
    have places : n.scale = -(s : ℤ) ↔ fraction.length = s := by omega
    rw [places, ← Numeral.value_eq_zero_iff] at room
    exact if_congr room rfl rfl

/-- Without a precision a decimal is scaled to the declared places only if that adds no digit to it.
It is refused for more places than the scale has, and for fewer unless it is zero. -/
theorem decodeText_decimal_unbounded [ZoneDatabase] :
    let n : Numeral := ⟨negative, whole, fraction, 0⟩
    let type := ColumnType.scalar .decimal a
    ((type.decodeText (sign ++ body)).isOk ↔
      fraction.length ≤ s ∧ (fraction.length = s ∨ n.value = 0)) ∧
    (∀ v, type.decodeText (sign ++ body) = .ok v →
      ∃ c, v = .decimal (.finite negative c (-(s : ℤ))) ∧
        (Decimal.finite negative c (-(s : ℤ))).value? = some n.value) ∧
    (s < fraction.length → type.decodeText (sign ++ body) =
      .error (failed (sign ++ body) type (.fractionDigits s))) ∧
    (fraction.length < s → n.value ≠ 0 → type.decodeText (sign ++ body) =
      .error (failed (sign ++ body) type (.precision none))) := by
  intro n type
  have read : type.decodeText (sign ++ body) = .decimal <$> decodeDecimal a (sign ++ body) := rfl
  rw [read, decodeDecimal_unbounded free fixed low signs mantissa few]
  by_cases long : s < fraction.length
  · rw [if_pos long]
    refine ⟨iff_of_false nofun fun both => absurd both.1 (by omega), nofun, fun _ => rfl, ?_⟩
    intro short
    omega
  · rw [if_neg long]
    by_cases room : fraction.length = s ∨ n.value = 0
    · rw [if_pos room]
      refine ⟨iff_of_true rfl ⟨by omega, room⟩, ?_, fun more => absurd more long, ?_⟩
      · rintro v ⟨⟩
        have below : -(s : ℤ) ≤ n.scale := by
          have scale : n.scale = -(fraction.length : ℤ) := zero_sub _
          omega
        refine ⟨_, rfl, ?_⟩
        rw [Decimal.value?_rescaled _ below, Numeral.value_eq]
      · intro short some
        rcases room with same | zero
        · omega
        · exact absurd zero some
    · rw [if_neg room]
      exact ⟨iff_of_false nofun fun both => room both.2, nofun, fun more => absurd more long,
        fun _ _ => rfl⟩

end Unbounded

/-- A zero takes on any places. -/
theorem decodeText_decimal_unbounded_zero :
    let n : Numeral := ⟨true, [0], [0], 0⟩
    let type := ColumnType.scalar .decimal { scale := some 2 }
    (type.decodeText "-0.0".toList).isOk ∧
    ∀ v, type.decodeText "-0.0".toList = .ok v →
      ∃ c, v = .decimal (.finite true c (-2)) ∧
        (Decimal.finite true c (-2)).value? = some n.value := by
  intro n type
  have digits : ∀ c ∈ ['0'], c.isDigit := List.forall_mem_singleton.2 rfl
  have mantissa : Numeral.Mantissa ['0', '.', '0'] [0] [0] :=
    .pointed (.inl (List.cons_ne_nil _ _)) digits digits
  obtain ⟨succeeds, number, -⟩ := decodeText_decimal_unbounded (a := { scale := some 2 })
    (s := 2) rfl rfl (by decide) .minus mantissa (by decide)
  have zero : n.value = 0 := (Numeral.value_eq_zero_iff n).2 rfl
  exact ⟨succeeds.2 ⟨by decide, .inr zero⟩, number⟩

/-- One place fewer than the scale, which a declared precision has room for. -/
theorem decodeText_decimal_without_room :
    decodeText (.scalar .decimal { scale := some 2 }) "1.5".toList =
      .error (failed "1.5".toList (.scalar .decimal { scale := some 2 }) (.precision none)) ∧
    decodeText (.scalar .decimal { precision := some 3, scale := some 2 }) "1.5".toList =
      .ok (.decimal (.finite false 150 (-2))) :=
  ⟨rfl, rfl⟩

end ColumnType

end RowStream
