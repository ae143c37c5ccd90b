import RowStream.Number.Decimal

/-! Decimals under another exponent: the coefficient they come to, and where it fits. -/
namespace RowStream.Decimal

variable {n k precision : Nat} {c : Nat} {e target : Int}

theorem digitCount_pos (n : Nat) : 0 < digitCount n := Nat.length_toDigits_pos

theorem digitCount_le_iff (some : 0 < k) : digitCount n ≤ k ↔ n < Nat.pow 10 k :=
  Nat.length_toDigits_le_iff (by decide) some

theorem lt_pow_of_digitCount_le (h : digitCount n ≤ k) : n < Nat.pow 10 k :=
  (digitCount_le_iff (Nat.lt_of_lt_of_le (digitCount_pos n) h)).1 h

theorem pow_le_of_lt_digitCount (h : k < digitCount n) (some : n ≠ 0) : Nat.pow 10 k ≤ n := by
  by_cases none : k = 0
  · rw [none]
    exact Nat.pos_of_ne_zero some
  · by_cases short : n < Nat.pow 10 k
    · exact absurd ((digitCount_le_iff (Nat.pos_of_ne_zero none)).2 short) (Nat.not_le.2 h)
    · exact Nat.not_lt.1 short

theorem div_le_roundQuotient (ties : Ties) (n d : Nat) : n / d ≤ roundQuotient ties n d := by
  simp only [roundQuotient]
  split
  · exact Nat.le_refl _
  · split
    · exact Nat.le_succ _
    · cases ties
      · exact Nat.le_succ _
      · exact Nat.le_add_right _ _

/-- The coefficient that a number has under another exponent. -/
def rescaled (ties : Ties) (c : Nat) (e target : Int) : Nat :=
  if target ≤ e then c * Nat.pow 10 (e - target).toNat
  else dropDigits ties c (target - e).toNat

theorem roundQuotient_zero (ties : Ties) {d : Nat} (some : 0 < d) :
    roundQuotient ties 0 d = 0 := by
  simp only [roundQuotient, Nat.zero_div, Nat.zero_mod, Nat.mul_zero, if_pos some]

theorem rescaled_zero (ties : Ties) (e target : Int) : rescaled ties 0 e target = 0 := by
  rw [rescaled]
  split
  · exact Nat.zero_mul _
  · rw [dropDigits]
    split
    · rfl
    · exact roundQuotient_zero ties (Nat.pow_pos (by decide))

theorem rescaled_self (ties : Ties) (c : Nat) (e : Int) : rescaled ties c e e = c := by
  rw [rescaled, if_pos (Int.le_refl e), Int.sub_self]
  exact Nat.mul_one c

/-- A number that has too many digits before the new last one has too many digits in all. -/
theorem pow_le_rescaled (ties : Ties) (some : c ≠ 0)
    (long : (precision : Int) < digitCount c + (e - target)) :
    Nat.pow 10 precision ≤ rescaled ties c e target := by
  rw [rescaled]
  split
  · have few : digitCount c - 1 < digitCount c := Nat.sub_lt (digitCount_pos c) (by decide)
    have first := pow_le_of_lt_digitCount few some
    calc Nat.pow 10 precision
        ≤ Nat.pow 10 (digitCount c - 1 + (e - target).toNat) :=
          Nat.pow_le_pow_right (by decide) (by omega)
      _ = Nat.pow 10 (digitCount c - 1) * Nat.pow 10 (e - target).toNat := Nat.pow_add ..
      _ ≤ c * Nat.pow 10 (e - target).toNat := Nat.mul_le_mul_right _ first
  · have first : Nat.pow 10 (precision + (target - e).toNat) ≤ c :=
      pow_le_of_lt_digitCount (by omega) some
    have kept : ¬digitCount c < (target - e).toNat := by omega
    rw [dropDigits, if_neg kept]
    have split : Nat.pow 10 (precision + (target - e).toNat) =
        Nat.pow 10 precision * Nat.pow 10 (target - e).toNat := Nat.pow_add ..
    rw [split] at first
    exact Nat.le_trans ((Nat.le_div_iff_mul_le (Nat.pow_pos (by decide))).2 first)
      (div_le_roundQuotient ties _ _)

/-- Its own number of digits is enough for a number only where it gets no new digit. -/
theorem rescaled_lt_pow_digitCount_iff (ties : Ties) (below : target ≤ e) :
    rescaled ties c e target < Nat.pow 10 (digitCount c) ↔ e = target ∨ c = 0 := by
  constructor
  · intro fits
    by_cases zero : c = 0
    · exact .inr zero
    · left
      have few : ¬(digitCount c : Int) < digitCount c + (e - target) := fun long =>
        absurd (pow_le_rescaled ties zero long) (Nat.not_le.2 fits)
      omega
  · rintro (rfl | rfl)
    · rw [rescaled_self]
      exact lt_pow_of_digitCount_le (Nat.le_refl _)
    · rw [rescaled_zero]
      exact Nat.pow_pos (by decide)

/-- What a number becomes under another exponent, told by its coefficient there: it only has to fit
the precision, as long as the exponents are not at their limits. -/
theorem withExponent_eq (ties : Ties) (negative : Bool) (c : Nat) (e : Int)
    (some : 0 < precision) (low : smallestScale precision ≤ target)
    (high : target + precision ≤ emax) :
    withExponent precision ties (.finite negative c e) target =
      if rescaled ties c e target < Nat.pow 10 precision then
        .ok (.finite negative (rescaled ties c e target) target)
      else .error .invalid := by
  have inside : ¬(emax < target ∨ target < smallestScale precision) := by omega
  rw [withExponent, if_neg inside]
  by_cases zero : c = 0
  · have fits : 0 < Nat.pow 10 precision := Nat.pow_pos (by decide)
    rw [if_pos zero, zero, rescaled_zero, if_pos fits]
  · rw [if_neg zero]
    by_cases long : (precision : Int) < digitCount c + (e - target)
    · rw [if_pos long, if_neg (Nat.not_lt.2 (pow_le_rescaled ties zero long))]
    · rw [if_neg long]
      dsimp only
      rw [← rescaled]
      generalize rescaled ties c e target = scaled
      by_cases fits : scaled < Nat.pow 10 precision
      · have short := (digitCount_le_iff some).2 fits
        have lead : adjusted scaled target = target + digitCount scaled - 1 := rfl
        have inside : ¬(precision < digitCount scaled ∨ emax < adjusted scaled target) := by omega
        rw [if_pos fits, if_neg inside]
      · have long := mt (digitCount_le_iff some).1 fits
        rw [if_neg fits, if_pos (.inl (Nat.not_le.1 long))]

/-- Only what fits the precision gets a new exponent. -/
theorem of_withExponent_eq_ok {ties : Ties} {negative : Bool} {d : Decimal}
    (h : withExponent precision ties (.finite negative c e) target = .ok d) :
    ∃ c, d = .finite negative c target ∧ c < Nat.pow 10 precision := by
  simp only [withExponent] at h
  split at h
  · cases h
  · split at h
    · obtain rfl := Except.ok.inj h
      exact ⟨0, rfl, Nat.pow_pos (by decide)⟩
    · split at h
      · cases h
      · generalize (if target ≤ e then _ else _ : Nat) = scaled at h
        split at h
        · cases h
        · rename_i fits
          obtain rfl := Except.ok.inj h
          exact ⟨scaled, rfl, lt_pow_of_digitCount_le (by omega)⟩

/-- A quotient rounded with halves away from zero is within a half of what is divided. -/
theorem roundQuotient_away (n : Nat) {d : Nat} (some : 0 < d) :
    2 * (roundQuotient .away n d * d) ≤ 2 * n + d ∧
      2 * n < 2 * (roundQuotient .away n d * d) + d := by
  have whole := Nat.div_add_mod n d
  have part := Nat.mod_lt n some
  simp only [roundQuotient]
  generalize n / d = q, n % d = r at whole part ⊢
  rw [Nat.mul_comm] at whole
  split
  · omega
  · split
    · rw [Nat.add_one_mul q d]
      omega
    · rw [Nat.add_one_mul q d]
      omega

theorem dropDigits_away (c : Nat) (count : Nat) :
    2 * (dropDigits .away c count * Nat.pow 10 count) ≤ 2 * c + Nat.pow 10 count ∧
      2 * c < 2 * (dropDigits .away c count * Nat.pow 10 count) + Nat.pow 10 count := by
  have some : 0 < Nat.pow 10 count := Nat.pow_pos (by decide)
  rw [dropDigits]
  split
  · rename_i short
    have small : c < Nat.pow 10 (count - 1) := lt_pow_of_digitCount_le (by omega)
    have tens : Nat.pow 10 count = Nat.pow 10 (count - 1) * 10 := by
      rw [← Nat.succ_pred_eq_of_pos (Nat.zero_lt_of_lt short)]
      rfl
    omega
  · exact roundQuotient_away c some

end RowStream.Decimal
