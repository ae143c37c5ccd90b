import RowStream.Proofs.Value.RoundTrip

/-! Elements without quotes: they are read as the same text is outside of arrays, unless trimming
cuts their last escape pair. -/
namespace RowStream.ColumnType

open ArrayLiteral (isOrdinary isQuote isQuote_of_isOrdinary unquote)
open Text (isBlank Solid)
open Token (Paired unescape)

/-- A text that can stand without quotes: plain characters and escape pairs, no blanks around them
but those that a backslash takes along, and none of the nulls. -/
structure Unquoted (t : Text) : Prop where
  paired : Paired (isOrdinary ·) t
  present : t ≠ []
  named : t ≠ Token.null ∧ t ≠ nullElement
  opening : ∀ c ∈ t.head?, isBlank c = false
  ending : ∀ front c, Paired (isOrdinary ·) front → t = front ++ [c] → isBlank c = false

/-- The last character is a blank, which a backslash takes along. -/
def EndsInBlankPair (t : Text) : Prop :=
  ∃ front c, Paired (isOrdinary ·) front ∧ isBlank c ∧ t = front ++ ['\\', c]

namespace Unquoted

variable {t : Text}

theorem exists_head (h : Unquoted t) : ∃ c ∈ t.head?, isBlank c = false := by
  obtain ⟨c, rest, rfl⟩ := List.exists_cons_of_ne_nil h.present
  exact ⟨c, rfl, h.opening c rfl⟩

theorem isQuote_head (h : Unquoted t) : ∀ c ∈ t.head?, isQuote c = false := by
  intro c mem
  have first := h.paired
  cases first with
  | nil => cases mem
  | plain slash ordinary more =>
    obtain rfl := Option.some.inj mem
    exact isQuote_of_isOrdinary ordinary
  | pair d more =>
    obtain rfl := Option.some.inj mem
    decide

/-- Trimming leaves the text as it is, or it takes off the last blank and leaves its backslash. -/
theorem solid_or_cut (h : Unquoted t) : Solid t ∨ ∃ front c, Paired (isOrdinary ·) front ∧
    isBlank c ∧ t = front ++ ['\\', c] ∧ Solid (front ++ ['\\']) := by
  obtain ⟨front, c, paired, ⟨rfl, -, -⟩ | rfl⟩ := h.paired.exists_last h.present
  · left
    exact ⟨h.exists_head, c, by simp, h.ending front c paired rfl⟩
  · by_cases blank : isBlank c = true
    · right
      refine ⟨front, c, paired, blank, rfl, ?_, '\\', by simp, by decide⟩
      -- The first character is that of the front, or else the backslash.
      cases front with
      | nil => exact ⟨'\\', rfl, by decide⟩
      | cons d front => exact ⟨d, rfl, h.opening d rfl⟩
    · left
      exact ⟨h.exists_head, c, by simp, by simpa using blank⟩

end Unquoted

theorem not_endsInBlankPair_of_solid {t : Text} (h : Solid t) : ¬ EndsInBlankPair t := by
  rintro ⟨front, c, -, blank, rfl⟩
  obtain ⟨d, last, ends⟩ := h.last
  obtain rfl : c = d := by simpa using last
  rw [blank] at ends
  cases ends

theorem eq_backslash_of_unescapeChar? {c : Char} (h : Token.unescapeChar? c = some '\\') :
    c = '\\' := by
  unfold Token.unescapeChar? at h
  split at h
  case h_8 => rfl
  all_goals simp at h

/-- A pair is more than its backslash, unless it is one of two. -/
theorem unescape_pair_ne {c : Char} (slash : c ≠ '\\') : unescape ['\\', c] ≠ ['\\'] := by
  rw [unescape]
  cases denoted : Token.unescapeChar? c with
  | none => simp
  | some d =>
    intro same
    obtain rfl : d = '\\' := by simpa [unescape] using same
    exact slash (eq_backslash_of_unescapeChar? denoted)

/-- The list of one text that is written without quotes. -/
theorem decode_single [ZoneDatabase] {t token : Text} (a b : Attributes)
    (passes : ArrayLiteral.Passes .outside t .outside) (trimmed : Text.trim t = token)
    (present : token ≠ []) (plain : ∀ c ∈ token.head?, isQuote c = false)
    (named : token ≠ Token.null ∧ token ≠ nullElement) :
    decode (.array (.scalar .text a) b) ('\x7b' :: (t ++ ['\x7d'])) =
      .ok (.list [.text (unescape token)]) := by
  have divided : ArrayLiteral.split ('\x7b' :: (t ++ ['\x7d'])) = .ok [unquote t] := by
    apply ArrayLiteral.split_single rfl passes
    rwa [trimmed]
  have element : unquote t = ⟨token, false⟩ := by
    rw [unquote, trimmed]
    cases token with
    | nil => exact absurd rfl present
    | cons c rest => simp [plain c rfl]
  have notNull : isNullElement token = false := by
    rw [isNullElement, decide_eq_false named.1]
    exact decide_eq_false named.2
  apply decodeAs_eq_list_iff.2
  refine ⟨by simp [Form.nullToken, Token.null], [⟨token, false⟩], ?_, ?_⟩
  · rw [divided, element]
  · simp [decodeElementAs, Form.nullToken, named.1, notNull, decodeAs, decodeScalar]

/-- Where the last pair is cut, its backslash is left at the end. -/
theorem decode_of_cut [ZoneDatabase] {front : Text} {c : Char} (h : Unquoted (front ++ ['\\', c]))
    (blank : isBlank c) (solid : Solid (front ++ ['\\'])) (a b : Attributes) :
    decode (.array (.scalar .text a) b) ('\x7b' :: (front ++ ['\\', c] ++ ['\x7d'])) =
      .ok (.list [.text (unescape (front ++ ['\\']))]) := by
  have passes := ArrayLiteral.passes_paired 0 h.paired
  have trimmed : Text.trim (front ++ ['\\', c]) = front ++ ['\\'] := by
    rw [← solid.trim_concat blank, List.append_assoc]
    rfl
  apply decode_single a b passes trimmed solid.ne_nil
  · intro d mem
    cases front with
    | nil =>
      obtain rfl := Option.some.inj mem
      decide
    | cons e front => exact h.isQuote_head d mem
  · constructor
    · intro same
      have last := congrArg List.getLast? same
      simp [Token.null] at last
    · intro same
      have last := congrArg List.getLast? same
      simp [nullElement] at last

/-- In a list of texts an unquoted element is the text that its token is as a field, unless it ends
in a blank that a backslash takes along: then the blank is lost. -/
theorem decode_unquoted [ZoneDatabase] {t : Text} (h : Unquoted t) (a b : Attributes) :
    decode (.scalar .text a) t = .ok (.text (unescape t)) ∧
    (decode (.array (.scalar .text a) b) ('\x7b' :: (t ++ ['\x7d'])) =
        .ok (.list [.text (unescape t)]) ↔ ¬ EndsInBlankPair t) ∧
    (EndsInBlankPair t → decode (.array (.scalar .text a) b) ('\x7b' :: (t ++ ['\x7d'])) =
        .ok (.list [.text (unescape t.dropLast)])) := by
  constructor
  · rw [decode, decodeAs, if_neg h.named.1]
    rfl
  · rcases h.solid_or_cut with solid | ⟨front, c, paired, blank, rfl, solid⟩
    · have whole := not_endsInBlankPair_of_solid solid
      have passes := ArrayLiteral.passes_paired 0 h.paired
      have read := decode_single a b passes solid.trim_eq h.present h.isQuote_head h.named
      exact ⟨iff_of_true read whole, fun cut => absurd cut whole⟩
    · have read := decode_of_cut h blank solid a b
      have shorter : (front ++ ['\\', c]).dropLast = front ++ ['\\'] := by simp
      constructor
      · apply iff_of_false
        · intro same
          rw [read] at same
          simp only [Except.ok.injEq, Value.list.injEq, List.cons.injEq, Value.text.injEq, and_true,
            paired.unescape_append] at same
          apply unescape_pair_ne (c := c) _ (List.append_cancel_left same).symm
          rintro rfl
          exact absurd blank (by decide)
        · intro whole
          exact whole ⟨front, c, paired, blank, rfl⟩
      · intro _
        rw [shorter]
        exact read

/-- An escaped comma, tab and bracket, and a blank between them. -/
theorem decode_unquoted_pairs :
    Unquoted ['a', '\\', ',', ' ', '\\', '\t', '\\', '\x7d'] ∧
    decode (.array (.scalar .text {}) {})
        ['\x7b', 'a', '\\', ',', ' ', '\\', '\t', '\\', '\x7d', '\x7d'] =
      .ok (.list [.text ['a', ',', ' ', '\t', '\x7d']]) := by
  have last {front : Text} {c : Char}
      (same : ['a', '\\', ',', ' ', '\\', '\t', '\\', '\x7d'] = front ++ [c]) :
      isBlank c = false := by
    have eq := congrArg List.getLast? same
    rw [List.getLast?_concat] at eq
    obtain rfl := Option.some.inj eq
    decide
  have stands : Unquoted ['a', '\\', ',', ' ', '\\', '\t', '\\', '\x7d'] :=
    { paired := .plain (by decide) (by decide) (.pair _ (.plain (by decide) (by decide)
        (.pair _ (.pair _ .nil))))
      present := by decide
      named := by decide
      opening := by
        rintro c mem
        obtain rfl := Option.some.inj mem
        decide
      ending := fun _ _ _ same => last same }
  refine ⟨stands, (decode_unquoted stands {} {}).2.1.2 ?_⟩
  rintro ⟨front, c, -, blank, same⟩
  have whole : isBlank c = false := by
    apply @last (front ++ ['\\'])
    rw [same, List.append_assoc]
    rfl
  rw [blank] at whole
  cases whole

/-- An escaped tab at the end of an element loses the tab, which as a field it would keep. -/
theorem decode_unquoted_tab :
    Unquoted ['a', '\\', '\t'] ∧
    decode (.scalar .text {}) ['a', '\\', '\t'] = .ok (.text ['a', '\t']) ∧
    decode (.array (.scalar .text {}) {}) ['\x7b', 'a', '\\', '\t', '\x7d'] =
      .ok (.list [.text ['a', '\\']]) := by
  refine ⟨?_, rfl, rfl⟩
  refine ⟨.plain (by decide) (by decide) (.pair _ .nil), by decide, by decide, ?_, ?_⟩
  · rintro c mem
    obtain rfl := Option.some.inj mem
    decide
  · rintro front c paired same
    -- The front would end in the backslash, without the tab.
    have eq : ['a', '\\'] = front := by
      have shorter := congrArg List.dropLast same
      rwa [List.dropLast_concat] at shorter
    subst eq
    cases paired with
    | plain _ _ more => cases more with
      | plain slash => exact absurd rfl slash

end RowStream.ColumnType
