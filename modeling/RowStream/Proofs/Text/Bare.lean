import RowStream.Proofs.Text.Digits
import RowStream.Proofs.Token.Spelling

/-! Texts that need neither quotes nor escapes: those of numbers, truth values, dates and times. -/
namespace RowStream.Text

/-- The characters of numbers, truth values, dates and times. -/
def isPlain (c : Char) : Bool :=
  c.isDigit || c = '-' || c = '+' || c = '.' || c = ':' || c = ' ' || c = 't' || c = 'f'

/-- Trimming leaves the text as it is, and something is left of it. -/
structure Solid (t : Text) : Prop where
  first : ∃ c ∈ t.head?, isBlank c = false
  last : ∃ c ∈ t.getLast?, isBlank c = false

structure Bare (t : Text) : Prop where
  plain : ∀ c ∈ t, isPlain c
  solid : Solid t

theorem ne_of_isPlain {c d : Char} (h : isPlain c) (h' : isPlain d = false) : c ≠ d := by
  intro same
  rw [same, h'] at h
  exact absurd h (by decide)

theorem isPlain_of_isDigit {c : Char} (h : c.isDigit) : isPlain c := by
  simp [isPlain, h]

theorem isBlank_of_isDigit {c : Char} (h : c.isDigit) : isBlank c = false := by
  simp only [Char.isDigit, Bool.and_eq_true, decide_eq_true_eq, ge_iff_le, UInt32.le_iff_toNat_le]
    at h
  change 48 ≤ c.toNat ∧ c.toNat ≤ 57 at h
  simp only [isBlank, Bool.or_eq_false_iff, Bool.and_eq_false_iff, decide_eq_false_iff_not,
    beq_eq_false_iff_ne]
  omega

theorem Solid.ne_nil {t : Text} (h : Solid t) : t ≠ [] := by
  rintro rfl
  obtain ⟨c, mem, -⟩ := h.first
  exact absurd mem (by simp)

theorem trimLeft_eq {t : Text} (h : ∃ c ∈ t.head?, isBlank c = false) : trimLeft t = t := by
  obtain ⟨c, first, opens⟩ := h
  cases t with
  | nil => cases first
  | cons a t =>
    obtain rfl := Option.some.inj first
    exact trimLeft_of_not_isBlank opens

theorem Solid.trim_eq {t : Text} (h : Solid t) : trim t = t := by
  obtain ⟨d, last, ends⟩ := h.last
  rw [trim, trimLeft_eq h.first, trimRight]
  rw [← List.head?_reverse] at last
  cases back : t.reverse with
  | nil => rw [List.dropWhile_nil, ← back, List.reverse_reverse]
  | cons a rest =>
    rw [back] at last
    obtain rfl := Option.some.inj last
    rw [List.dropWhile_cons_of_neg (by simp [ends]), ← back, List.reverse_reverse]

/-- Trimming takes one blank off the end, and then nothing more. -/
theorem Solid.trim_concat {t : Text} (h : Solid t) {c : Char} (blank : isBlank c) :
    trim (t ++ [c]) = t := by
  have left : trimLeft (t ++ [c]) = t ++ [c] := by
    obtain ⟨d, first, opens⟩ := h.first
    apply trimLeft_eq
    refine ⟨d, ?_, opens⟩
    rw [List.head?_append, first]
    rfl
  have right : trimRight (t ++ [c]) = trimRight t := by simp [trimRight, blank]
  have kept := h.trim_eq
  rw [trim, trimLeft_eq h.first] at kept
  rw [trim, left, right, kept]

theorem Solid.between {t u : Text} (h : Solid t) (h' : Solid u) (middle : Text) :
    Solid (t ++ (middle ++ u)) := by
  obtain ⟨c, first, opens⟩ := h.first
  obtain ⟨d, last, ends⟩ := h'.last
  refine ⟨⟨c, ?_, opens⟩, d, ?_, ends⟩
  · rw [List.head?_append, first]
    rfl
  · rw [List.getLast?_append, List.getLast?_append, last]
    rfl

theorem mem_of_mem_trim_or_isBlank {t : Text} {c : Char} (mem : c ∈ t) :
    c ∈ trim t ∨ isBlank c := by
  have dropped (u : Text) (h : c ∈ u) : c ∈ u.dropWhile isBlank ∨ isBlank c := by
    rw [← List.takeWhile_append_dropWhile (p := isBlank) (l := u), List.mem_append] at h
    rcases h with h | h
    · exact .inr (List.all_eq_true.1 List.all_takeWhile c h)
    · exact .inl h
  rcases dropped t mem with left | blank
  · rcases dropped _ (List.mem_reverse.2 left) with right | blank
    · exact .inl (List.mem_reverse.2 right)
    · exact .inr blank
  · exact .inr blank

theorem isBlank_of_trim_eq_nil {t : Text} (h : trim t = []) : ∀ c ∈ t, isBlank c := by
  intro c mem
  rcases mem_of_mem_trim_or_isBlank mem with inside | blank
  · rw [h] at inside
    cases inside
  · exact blank

theorem Bare.between {t u : Text} (h : Bare t) (h' : Bare u) (middle : Text)
    (plain : ∀ c ∈ middle, isPlain c) : Bare (t ++ (middle ++ u)) := by
  refine ⟨?_, h.solid.between h'.solid middle⟩
  intro c mem
  rcases List.mem_append.1 mem with mem | mem
  · exact h.plain c mem
  · rcases List.mem_append.1 mem with mem | mem
    · exact plain c mem
    · exact h'.plain c mem

/-- With one character between, as in dates. -/
theorem Bare.separated {t u : Text} (h : Bare t) {c : Char} (plain : isPlain c) (h' : Bare u) :
    Bare (t ++ c :: u) :=
  h.between h' [c] fun d mem => by rwa [List.mem_singleton.1 mem]

theorem bare_singleton {c : Char} (plain : isPlain c) (solid : isBlank c = false) : Bare [c] := by
  refine ⟨?_, ⟨c, rfl, solid⟩, c, rfl, solid⟩
  intro d mem
  rwa [List.mem_singleton.1 mem]

theorem solid_of_forall {t : Text} (some : t ≠ []) (h : ∀ c ∈ t, isBlank c = false) : Solid t :=
  ⟨⟨t.head some, List.head?_eq_some_head some, h _ (List.head_mem some)⟩,
    t.getLast some, List.getLast?_eq_some_getLast some, h _ (List.getLast_mem some)⟩

theorem bare_of_digits {t : Text} (some : t ≠ []) (h : ∀ c ∈ t, c.isDigit) : Bare t := by
  constructor
  · intro c mem
    exact isPlain_of_isDigit (h c mem)
  · apply solid_of_forall some
    intro c mem
    exact isBlank_of_isDigit (h c mem)

theorem bare_ofNat (n : Nat) : Bare (ofNat n) :=
  bare_of_digits (ofNat_ne_nil n) fun _ => isDigit_of_mem_ofNat

theorem bare_padded (width n : Nat) : Bare (padded width n) := by
  refine bare_of_digits ?_ (writes_padded width n).digits
  rw [padded]
  exact List.append_ne_nil_of_right_ne_nil _ (ofNat_ne_nil n)

theorem Bare.signed {t : Text} (h : Bare t) (negative : Bool) :
    Bare ((if negative then ['-'] else []) ++ t) := by
  have minus : Bare ['-'] := bare_singleton (by decide) (by decide)
  cases negative with
  | false => exact h
  | true => exact minus.between h [] (by simp)

theorem escape_of_isPlain {t : Text} (h : ∀ c ∈ t, isPlain c) : Token.escape t = t := by
  apply Token.escape_eq_self
  intro c mem
  have plain := h c mem
  unfold Token.escapeChar
  split
  case h_10 => rfl
  all_goals exact absurd plain (by decide)

end RowStream.Text
