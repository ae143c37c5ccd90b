import RowStream.Number.Decimal
import RowStream.Proofs.Number.Grammar
import RowStream.Proofs.Text.Bare

/-! Integers and decimals are read back from the texts that write them. -/
namespace RowStream

namespace Numeral

open Text (digit?)

theorem signed_natAbs (i : Int) : signed (i < 0) i.natAbs = i := by
  by_cases negative : i < 0
  · simp only [signed, negative, decide_true, if_true]
    omega
  · simp only [signed, negative, decide_false, Bool.false_eq_true, if_false]
    omega

theorem sign_of (negative : Bool) : Sign (if negative then ['-'] else []) negative := by
  cases negative with
  | true => exact .minus
  | false => exact .none

theorem integerDigits?_signed (negative : Bool) {t : Text} (some : t ≠ [])
    (h : ∀ c ∈ t, c.isDigit) :
    integerDigits? ((if negative then ['-'] else []) ++ t) =
      .some (negative, t.filterMap digit?) := by
  obtain ⟨d, more, values⟩ := List.exists_cons_of_ne_nil (digits_ne_nil some h)
  rw [integerDigits?, takeSign_of (sign_of negative) (unsigned_of_digits h)]
  simp only [takeDigits_all h, values]

theorem parse?_signed (negative : Bool) {t : Text} (some : t ≠ []) (h : ∀ c ∈ t, c.isDigit) :
    parse? ((if negative then ['-'] else []) ++ t) =
      .some ⟨negative, t.filterMap digit?, [], 0⟩ := by
  have spelled := Spelled.mk (sign_of negative) (.whole some h) .none
  rw [List.append_nil] at spelled
  exact parse?_eq_some_iff.2 spelled

theorem parse?_point (negative : Bool) {front back : Text} (some : front ≠ [])
    (h : ∀ c ∈ front, c.isDigit) (h' : ∀ c ∈ back, c.isDigit) :
    parse? ((if negative then ['-'] else []) ++ (front ++ '.' :: back)) =
      .some ⟨negative, front.filterMap digit?, back.filterMap digit?, 0⟩ := by
  have spelled := Spelled.mk (sign_of negative) (.pointed (.inl some) h h') .none
  rw [List.append_nil] at spelled
  exact parse?_eq_some_iff.2 spelled

end Numeral

theorem Text.ofInt_eq (i : Int) :
    ofInt i = (if decide (i < 0) then ['-'] else []) ++ ofNat i.natAbs := by
  cases i with
  | ofNat n => simp [ofInt]
  | negSucc n => simp [ofInt]

theorem Text.bare_ofInt (i : Int) : Bare (ofInt i) := by
  rw [ofInt_eq]
  exact (bare_ofNat _).signed _

namespace Decimal

/-- Digits with a point among them, if there is one to be. -/
theorem pointed_eq (c places : Nat) : ∃ front back : Text, front ≠ [] ∧ back.length = places ∧
    Text.Writes (front ++ back) c ∧
    pointed (Text.ofNat c) places = if places = 0 then front else front ++ '.' :: back := by
  have written := (Text.writes_ofNat c).zeros (places + 1 - (Text.ofNat c).length)
  have long : places < (List.replicate (places + 1 - (Text.ofNat c).length) '0' ++
      Text.ofNat c).length := by
    rw [List.length_append, List.length_replicate]
    omega
  rw [pointed]
  generalize List.replicate (places + 1 - (Text.ofNat c).length) '0' ++ Text.ofNat c = digits
    at written long
  refine ⟨digits.take (digits.length - places), digits.drop (digits.length - places), ?_, ?_, ?_,
    ?_⟩
  · intro empty
    have := congrArg List.length empty
    rw [List.length_take, List.length_nil] at this
    omega
  · rw [List.length_drop]
    omega
  · rwa [List.take_append_drop]
  · by_cases none : places = 0
    · simp [none]
    · simp [none]

theorem parse?_fixedText (negative : Bool) (c places : Nat) :
    ∃ n : Numeral, Numeral.parse? (fixedText (.finite negative c (-(places : Int)))) = some n ∧
      n.negative = negative ∧ n.coefficient = c ∧ n.scale = -(places : Int) := by
  obtain ⟨front, back, some, length, written, eq⟩ := pointed_eq c places
  have digits (t : Text) (h : t ⊆ front ++ back) (d : Char) (mem : d ∈ t) : d.isDigit :=
    written.digits d (h mem)
  have value := written.value
  have text : fixedText (.finite negative c (-(places : Int))) =
      (if negative then ['-'] else []) ++ pointed (Text.ofNat c) places := by
    rw [fixedText, if_neg (by omega), Int.neg_neg, Int.toNat_natCast, signText]
  rw [text, eq]
  by_cases none : places = 0
  · obtain rfl := List.length_eq_zero_iff.1 (length.trans none)
    rw [List.append_nil] at value
    rw [if_pos none, Numeral.parse?_signed negative some (digits front (by simp))]
    refine ⟨_, rfl, rfl, ?_, ?_⟩
    · rw [Numeral.coefficient, List.append_nil, value]
    · simp [Numeral.scale, none]
  · have back_digits := digits back (by simp)
    rw [List.filterMap_append] at value
    rw [if_neg none, Numeral.parse?_point negative some (digits front (by simp)) back_digits]
    refine ⟨_, rfl, rfl, value, ?_⟩
    simp [Numeral.scale, Text.length_filterMap_digit? back_digits, length]

theorem bare_fixedText (negative : Bool) (c places : Nat) :
    Text.Bare (fixedText (.finite negative c (-(places : Int)))) := by
  obtain ⟨front, back, some, length, written, eq⟩ := pointed_eq c places
  have front_bare := Text.bare_of_digits some fun d mem => written.digits d (by simp [mem])
  rw [fixedText, if_neg (by omega), Int.neg_neg, Int.toNat_natCast, signText, eq]
  refine Text.Bare.signed ?_ negative
  by_cases none : places = 0
  · rwa [if_pos none]
  · rw [if_neg none]
    have present : back ≠ [] := by
      rintro rfl
      exact none length.symm
    exact front_bare.separated (by decide)
      (Text.bare_of_digits present fun d mem => written.digits d (by simp [mem]))

end Decimal

end RowStream
