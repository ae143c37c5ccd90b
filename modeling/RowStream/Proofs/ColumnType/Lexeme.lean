import RowStream.ColumnType.Tag.Token
import RowStream.Proofs.Text.Bare

/-! The lexemes of a tag, written one after the other and scanned again. -/
namespace RowStream

namespace Text

theorem forall_ascii {P : Char → Prop} (all : ∀ n < 128, P (Char.ofNat n)) {c : Char}
    (ascii : c.toNat < 128) : P c := by
  have one := all c.toNat ascii
  rwa [Char.ofNat_toNat] at one

/-- In ASCII the decimal digits are the usual ones. -/
theorem decimalDigit?_ascii {c : Char} (h : c.toNat < 128) : decimalDigit? c = digit? c :=
  forall_ascii (P := fun c => decimalDigit? c = digit? c) (by decide +kernel) h

theorem toNat_lt_of_isDigit {c : Char} (h : c.isDigit) : c.toNat < 128 := by
  simp only [Char.isDigit, Bool.and_eq_true, decide_eq_true_eq, ge_iff_le, UInt32.le_iff_toNat_le]
    at h
  change 48 ≤ c.toNat ∧ c.toNat ≤ 57 at h
  omega

theorem toNat_lt_of_isAlpha {c : Char} (h : c.isAlpha) : c.toNat < 128 := by
  rcases Bool.or_eq_true_iff.1 h with upper | lower
  · exact Nat.lt_of_le_of_lt (of_decide_eq_true upper).2 (by decide)
  · have most : c.val ≤ 'z'.val := of_decide_eq_true (Bool.and_eq_true_iff.1 lower).2
    exact Nat.lt_of_le_of_lt most (by decide)

theorem isDecimalDigit_of_isDigit {c : Char} (h : c.isDigit) : isDecimalDigit c = true := by
  rw [isDecimalDigit, decimalDigit?_ascii (toNat_lt_of_isDigit h), digit?, if_pos h]
  rfl

theorem filterMap_decimalDigit? {t : Text} (h : ∀ c ∈ t, c.isDigit) :
    t.filterMap decimalDigit? = t.filterMap digit? := by
  induction t with
  | nil => rfl
  | cons c t ih =>
    obtain ⟨first, others⟩ := List.forall_mem_cons.1 h
    rw [List.filterMap_cons, List.filterMap_cons, decimalDigit?_ascii (toNat_lt_of_isDigit first),
      ih others]

theorem decimalNumber_ofNat (n : Nat) : decimalNumber (ofNat n) = n := by
  have digits : ∀ c ∈ ofNat n, c.isDigit := fun _ => isDigit_of_mem_ofNat
  rw [decimalNumber, filterMap_decimalDigit? digits, numberOf_ofNat]

/-- What is true of the blanks one by one is true of each. -/
theorem forall_isBlank {P : Char → Prop}
    (all : ∀ n ∈ List.range' 0x09 5 ++ List.range' 0x1c 5 ++ List.range' 0x2000 11 ++
      [0x85, 0xa0, 0x1680, 0x2028, 0x2029, 0x202f, 0x205f, 0x3000], P (Char.ofNat n))
    {c : Char} (blank : isBlank c) : P c := by
  have one := all c.toNat (by
    simp only [isBlank, Bool.or_eq_true, Bool.and_eq_true, decide_eq_true_eq, beq_iff_eq] at blank
    simp only [List.mem_append, List.mem_range'_1, List.mem_cons, List.not_mem_nil, or_false]
    omega)
  rwa [Char.ofNat_toNat] at one

end Text

namespace TagToken

open Text (isBlank isDecimalDigit trimLeft)

variable {t rest : Text} {token : TagToken}

/-- A word or a number ends in front of the text. -/
def Stops (rest : Text) : Prop :=
  ∀ c ∈ rest.head?, isWordRest c = false ∧ isDecimalDigit c = false

/-- The scanner takes the token off the text, which does not begin with a blank. -/
structure Opens (t : Text) (token : TagToken) (rest : Text) : Prop where
  unblank : trimLeft t = t
  taken : take? t = some (token, rest)

theorem scan_of_taken (taken : take? (trimLeft t) = some (token, rest)) :
    scan t = (token :: ·) <$> scan rest := by
  fun_cases scan t with
  | case1 => simp [trimLeft, take?] at taken
  | case2 c t refused =>
    rw [refused] at taken
    cases taken
  | case3 c t token' rest' found =>
    rw [found] at taken
    cases taken
    rfl

theorem Opens.scan_eq (h : Opens t token rest) : scan t = (token :: ·) <$> scan rest :=
  scan_of_taken (by rw [h.unblank, h.taken])

theorem Opens.scan_blank (h : Opens t token rest) : scan (' ' :: t) = (token :: ·) <$> scan rest :=
  scan_of_taken (by
    have skipped : trimLeft (' ' :: t) = trimLeft t := rfl
    rw [skipped, h.unblank, h.taken])

/-- A word as it is scanned: in lower case, and begun by nothing else. -/
def isWritten : Text → Bool
  | [] => false
  | c :: t =>
    !isBlank c && c ≠ '\'' && !isDecimalDigit c && isWordStart c && t.all isWordRest
      && Text.lower (c :: t) = c :: t

theorem isBlank_of_isWordRest {c : Char} (h : isWordRest c) : isBlank c = false := by
  have outside {c : Char} (blank : isBlank c) : isWordRest c = false :=
    Text.forall_isBlank (P := (isWordRest · = false)) (by decide) blank
  cases blank : isBlank c with
  | false => rfl
  | true =>
    rw [outside blank] at h
    cases h

theorem solid_of_isWritten (written : isWritten t) : Text.Solid t := by
  cases t with
  | nil => cases written
  | cons c t =>
    simp only [isWritten, Bool.and_eq_true, Bool.not_eq_true', decide_eq_true_eq,
      List.all_eq_true] at written
    obtain ⟨⟨⟨⟨⟨unblank, -⟩, -⟩, -⟩, others⟩, -⟩ := written
    refine ⟨⟨c, rfl, unblank⟩, (c :: t).getLast (List.cons_ne_nil c t),
      List.getLast?_eq_some_getLast _, ?_⟩
    rcases List.mem_cons.1 (List.getLast_mem (List.cons_ne_nil c t)) with first | later
    · rw [first, unblank]
    · exact isBlank_of_isWordRest (others _ later)

theorem opens_word (written : isWritten t) (stops : Stops rest) :
    Opens (t ++ rest) (.word t) rest := by
  cases t with
  | nil => cases written
  | cons c t =>
    simp only [isWritten, Bool.and_eq_true, Bool.not_eq_true', decide_eq_true_eq,
      List.all_eq_true] at written
    obtain ⟨⟨⟨⟨⟨unblank, unquoted⟩, undigit⟩, start⟩, others⟩, lower⟩ := written
    obtain ⟨taken, left⟩ := Text.takeWhile_of_stops others fun d next => (stops d next).1
    refine ⟨Text.trimLeft_of_not_isBlank unblank, ?_⟩
    rw [List.cons_append, take?, if_neg unquoted, if_neg (by simp [undigit]), if_pos start, taken,
      left, lower]

theorem opens_number (some : t ≠ []) (digits : ∀ c ∈ t, c.isDigit) (stops : Stops rest) :
    Opens (t ++ rest) (.number t) rest := by
  cases t with
  | nil => exact absurd rfl some
  | cons c t =>
    obtain ⟨first, others⟩ := List.forall_mem_cons.1 digits
    have decimal : ∀ d ∈ t, isDecimalDigit d := fun d mem =>
      Text.isDecimalDigit_of_isDigit (others d mem)
    obtain ⟨taken, left⟩ := Text.takeWhile_of_stops decimal fun d next => (stops d next).2
    have unquoted : c ≠ '\'' := by
      rintro rfl
      cases first
    refine ⟨Text.trimLeft_of_not_isBlank (Text.isBlank_of_isDigit first), ?_⟩
    rw [List.cons_append, take?, if_neg unquoted, if_pos (Text.isDecimalDigit_of_isDigit first),
      taken, left]

theorem opens_mark {c : Char} (mark : isMark c) (rest : Text) :
    Opens (c :: rest) (.mark c) rest := by
  have cases : c = '(' ∨ c = ')' ∨ c = ',' := by simpa [isMark, or_assoc] using mark
  rcases cases with rfl | rfl | rfl <;> exact ⟨rfl, rfl⟩

/-- Texts that stand between quotes as they are. -/
def Quotable (t : Text) : Prop := ∀ c ∈ t, c ≠ '\'' ∧ c ≠ '\\'

theorem takeQuoted?_of_quotable (quotable : Quotable t) (rest : Text) :
    takeQuoted? (t ++ '\'' :: rest) = some (t, rest) := by
  induction t with
  | nil => simp [takeQuoted?]
  | cons c t ih =>
    obtain ⟨⟨unquoted, unescaped⟩, others⟩ := List.forall_mem_cons.1 quotable
    rw [List.cons_append, takeQuoted?, if_neg unquoted, if_neg unescaped, ih others]
    · rfl
    · rintro d after rfl
      exact absurd rfl unescaped

theorem unescapeQuotes_of_quotable (quotable : Quotable t) : unescapeQuotes t = t := by
  induction t with
  | nil => rfl
  | cons c t ih =>
    obtain ⟨⟨-, unescaped⟩, others⟩ := List.forall_mem_cons.1 quotable
    rw [unescapeQuotes, ih others]
    rintro rest rfl
    exact absurd rfl unescaped

theorem opens_quoted (quotable : Quotable t) (rest : Text) :
    Opens ('\'' :: (t ++ '\'' :: rest)) (.quoted t) rest := by
  refine ⟨rfl, ?_⟩
  rw [take?, if_pos rfl, takeQuoted?_of_quotable quotable rest]
  change some (TagToken.quoted (unescapeQuotes t), rest) = _
  rw [unescapeQuotes_of_quotable quotable]

end TagToken

end RowStream
