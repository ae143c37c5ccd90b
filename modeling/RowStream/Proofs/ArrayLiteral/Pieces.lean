import Mathlib.Data.List.Forall2
import Mathlib.Data.List.TakeWhile
import RowStream.Proofs.ArrayLiteral.Accepted

/-! The pieces between the commas of a literal: cutting undoes joining, and joining undoes
cutting. -/
namespace RowStream

namespace Text

/-- The text with blanks in front of it and behind it. -/
def Padded (t padded : Text) : Prop :=
  ∃ left right, (∀ c ∈ left, isBlank c) ∧ (∀ c ∈ right, isBlank c) ∧ padded = left ++ (t ++ right)

theorem trimRight_append {t blanks : Text} (h : ∀ c ∈ blanks, isBlank c) :
    trimRight (t ++ blanks) = trimRight t := by
  have back : ∀ c ∈ blanks.reverse, isBlank c := fun c mem => h c (List.mem_reverse.1 mem)
  rw [trimRight, trimRight, List.reverse_append, List.dropWhile_append_of_pos back]

theorem Padded.trim_eq {t padded : Text} (h : Padded t padded) : trim padded = trim t := by
  obtain ⟨left, right, front, back, rfl⟩ := h
  rw [trim, trim, trimLeft, trimLeft, List.dropWhile_append_of_pos front, List.dropWhile_append]
  by_cases blank : (t.dropWhile isBlank).isEmpty = true
  · have rest : right.dropWhile isBlank = [] := List.dropWhile_eq_nil_iff.2 back
    rw [if_pos blank, rest, List.isEmpty_iff.1 blank]
  · rw [if_neg blank, trimRight_append back]

end Text

namespace ArrayLiteral

namespace Nesting

/-- Where the scan of one piece ends. A comma outside everything ends the piece before, and every
backslash has to take a character along. -/
def scan? : Nesting → Text → Option Nesting
  | s, '\\' :: _ :: rest => s.scan? rest
  | _, ['\\'] => none
  | s, c :: rest => if c = ',' ∧ s = .outside then none else (s.step c).scan? rest
  | s, [] => some s

/-- No backslash is waited for, so that one alone changes nothing. -/
structure Unslashed (s : Nesting) : Prop where
  quote : s.quote ≠ some '\\'
  awaited : '\\' ∉ s.awaited

theorem Unslashed.step_backslash {s : Nesting} (h : s.Unslashed) : s.step '\\' = s := by
  obtain ⟨_ | q, awaited⟩ := s
  · have other : awaited.head? ≠ some '\\' := fun first => h.awaited (List.mem_of_head? first)
    simp [step, isQuote, closing?, other]
  · have other : '\\' ≠ q := fun same => h.quote (congrArg some same.symm)
    simp [step, other]

theorem Unslashed.step {s : Nesting} (h : s.Unslashed) (c : Char) : (s.step c).Unslashed := by
  obtain ⟨_ | q, awaited⟩ := s
  · by_cases quote : isQuote c = true
    · have other : c ≠ '\\' := by
        rintro rfl
        cases quote
      simpa [Nesting.step, quote] using ⟨by simpa using other, h.awaited⟩
    · cases opened : closing? c with
      | some close =>
        have closes := (closing?_spec opened).2.2
        have other : '\\' ≠ close := by
          rintro rfl
          cases closes
        simpa [Nesting.step, quote, opened] using ⟨by simp, by simp [other, h.awaited]⟩
      | none =>
        by_cases awaits : awaited.head? = some c
        · simpa [Nesting.step, quote, opened, awaits] using
            ⟨by simp, fun mem => h.awaited (List.mem_of_mem_tail mem)⟩
        · simpa [Nesting.step, quote, opened, awaits] using h
  · by_cases same : c = q
    · simpa [Nesting.step, same] using ⟨by simp, h.awaited⟩
    · simpa [Nesting.step, same] using h

theorem unslashed_outside : outside.Unslashed := ⟨by simp [outside], by simp [outside]⟩

end Nesting

/-- A text that a scan comes through from outside to outside, as one piece. -/
def IsPiece (t : Text) : Prop := Nesting.outside.scan? t = some .outside

instance (t : Text) : Decidable (IsPiece t) := inferInstanceAs (Decidable (_ = _))

theorem passes_of_scan? {s s' : Nesting} {t : Text} (h : s.scan? t = some s') : Passes s t s' := by
  fun_induction Nesting.scan? s t with
  | case1 s c rest ih => exact (passes_pair s c).append (ih h)
  | case2 s => cases h
  | case3 s c rest single whole cut => cases h
  | case4 s c rest single whole inside ih =>
    have slash := Nesting.ne_backslash single whole
    exact (passes_char slash fun comma out => inside ⟨comma, out⟩).append (ih h)
  | case5 =>
    cases h
    exact .nil _

/-- A scan inside of a bracket that the last character closes comes through to outside. -/
theorem Nesting.Unslashed.scan?_of_closesLast {s : Nesting} (h : s.Unslashed)
    (inside : s ≠ .outside) {t : Text} (closes : s.closesLast t = true) :
    s.scan? t = some .outside := by
  fun_induction Nesting.closesLast s t with
  | case1 s c rest ih => exact ih h inside closes
  | case2 s c rest single next =>
    have left := s.step_eq c
    rw [next, Option.getD_some] at left
    -- A backslash with nothing to take along leads nowhere, and so not to outside.
    have slash : c ≠ '\\' := by
      rintro rfl
      exact inside (h.step_backslash.symm.trans left)
    obtain rfl := List.isEmpty_iff.1 closes
    rw [Nesting.scan?, if_neg fun both => inside both.2, left]
    · rfl
    · simp
    · exact fun same _ => slash same
  | case3 s c rest single s' next within ih =>
    have left := s.step_eq c
    rw [next, Option.getD_some] at left
    subst left
    rw [Nesting.scan?, if_neg fun both => inside both.2]
    · exact ih (h.step c) within closes
    · exact single
    · rintro rfl rfl
      cases closes
  | case4 s c rest single next => cases closes
  | case5 s => cases closes

theorem isPiece_of_isWellFormed {t : Text} (h : isWellFormed t = true) : IsPiece t := by
  cases t with
  | nil => cases h
  | cons opening rest =>
    rw [isWellFormed] at h
    split at h
    · rename_i closing opens
      have plain : isQuote opening = false ∧ opening ≠ '\\' ∧ opening ≠ ',' ∧ '\\' ≠ closing := by
        unfold closing? at opens
        split at opens <;> cases opens <;> decide
      obtain ⟨quote, slash, comma, other⟩ := plain
      have enters : Nesting.outside.step opening = ⟨none, [closing]⟩ := by
        simp [Nesting.step, Nesting.outside, quote, opens]
      have clear : Nesting.Unslashed ⟨none, [closing]⟩ := ⟨by simp, by simpa using other⟩
      rw [IsPiece, Nesting.scan?, if_neg fun both => comma both.1, enters]
      · exact clear.scan?_of_closesLast (by simp [Nesting.outside]) h
      · exact fun _ _ same => absurd same slash
      · exact fun same => absurd same slash
    · cases h

theorem solid_of_isWellFormed {t : Text} (h : isWellFormed t = true) : Text.Solid t := by
  obtain ⟨body, ⟨opening, closing, opens, rfl⟩, -, -⟩ := (isWellFormed_iff t).1 h
  have shown : Text.isBlank opening = false ∧ Text.isBlank closing = false := by
    unfold closing? at opens
    split at opens <;> cases opens <;> decide
  refine ⟨⟨opening, rfl, shown.1⟩, closing, ?_, shown.2⟩
  rw [← List.cons_append, List.getLast?_concat]
  rfl

/-- Joining undoes cutting, whatever the scan comes across. -/
theorem joined_pieces (s : Nesting) (t : Text) : Text.joined [','] (pieces s t).1 = t := by
  fun_induction pieces s t with
  | case1 s c rest found last eq ih =>
    have some := pieces_ne_nil s rest
    rw [eq] at ih some
    rw [Record.joined_extend _ _ some, ih]
    rfl
  | case2 s c rest single cut found last eq ih =>
    have some := pieces_ne_nil s rest
    rw [eq] at ih some
    rw [cut.1]
    obtain ⟨first, more, rfl⟩ := List.exists_cons_of_ne_nil some
    rw [Text.joined_cons_cons, ih]
    rfl
  | case3 s c rest single inside found last eq ih =>
    have some := pieces_ne_nil (s.step c) rest
    rw [eq] at ih some
    rw [Record.joined_extend _ _ some, ih]
    rfl
  | case4 => rfl

/-- The pieces of a text that a scan comes through from `s` to outside. Only behind the last one a
backslash may be left that takes nothing along. -/
inductive Cut : Nesting → List Text → Prop where
  | last {s : Nesting} {t : Text} (h : s.scan? t = some .outside) : Cut s [t]
  | dangling {s : Nesting} {t : Text} (h : s.scan? t = some .outside) : Cut s [t ++ ['\\']]
  | cons {s : Nesting} {t : Text} {rest : List Text} (h : s.scan? t = some .outside)
      (more : Cut .outside rest) : Cut s (t :: rest)

namespace Cut

variable {s s' : Nesting} {found : List Text}

/-- A first piece may begin earlier. -/
theorem extend {front : Text} (h : Cut s' found)
    (leads : ∀ t, s'.scan? t = some .outside → s.scan? (front ++ t) = some .outside) :
    Cut s (Record.extend front found) := by
  cases h with
  | last h => exact .last (leads _ h)
  | dangling h =>
    rw [Record.extend, ← List.append_assoc]
    exact .dangling (leads _ h)
  | cons h more => exact .cons (leads _ h) more

theorem exists_last (h : Cut .outside found) : ∃ front last, found = front ++ [last] ∧
    (∀ t ∈ front, IsPiece t) ∧
      (IsPiece last ∨ ∃ whole, last = whole ++ ['\\'] ∧ IsPiece whole) := by
  generalize start : Nesting.outside = s at h
  induction h with
  | last h =>
    subst start
    exact ⟨[], _, rfl, by simp, .inl h⟩
  | dangling h =>
    subst start
    exact ⟨[], _, rfl, by simp, .inr ⟨_, rfl, h⟩⟩
  | @cons s t rest h more ih =>
    subst start
    obtain ⟨front, last, rfl, whole, ending⟩ := ih rfl
    exact ⟨t :: front, last, rfl, List.forall_mem_cons.2 ⟨h, whole⟩, ending⟩

end Cut

theorem cut_pieces {s : Nesting} {t : Text} (clear : s.Unslashed)
    (ends : (pieces s t).2 = .outside) : Cut s (pieces s t).1 := by
  fun_induction pieces s t with
  | case1 s c rest found last eq ih =>
    rw [eq] at ih
    exact (ih clear ends).extend fun t h => h
  | case2 s c rest single cut found last eq ih =>
    obtain ⟨rfl, rfl⟩ := cut
    rw [eq] at ih
    exact .cons rfl (ih clear ends)
  | case3 s c rest single inside found last eq ih =>
    rw [eq] at ih
    by_cases slash : c = '\\'
    · -- Only the end of the text leaves a backslash without a character to take along.
      subst slash
      cases rest with
      | cons d tail => exact absurd rfl (single d tail rfl)
      | nil =>
        rw [pieces, clear.step_backslash] at eq
        cases eq
        obtain rfl : s = .outside := ends
        exact .dangling (t := []) rfl
    · refine (ih (clear.step c) ends).extend fun t h => ?_
      rw [List.singleton_append, Nesting.scan?, if_neg inside]
      · exact h
      · rintro d tail rfl
        exact absurd rfl slash
      · rintro rfl
        exact absurd rfl slash
  | case4 s =>
    obtain rfl : s = .outside := ends
    exact .last rfl

theorem unquote_padded {t padded : Text} (h : Text.Padded t padded) :
    unquote padded = unquote t := by
  rw [unquote, unquote, h.trim_eq]

theorem passes_padded {t padded : Text} (pad : Text.Padded t padded)
    (h : Passes .outside t .outside) : Passes .outside padded .outside := by
  obtain ⟨left, right, front, back, rfl⟩ := pad
  have blanks {u : Text} (blank : ∀ c ∈ u, Text.isBlank c) : Passes .outside u .outside :=
    passes_ordinary 0 fun c mem => isOrdinary_of_isBlank (blank c mem)
  exact (blanks front).append (h.append (blanks back))

theorem passes_of_padded {parts padded : List Text} (pads : List.Forall₂ Text.Padded parts padded)
    (h : ∀ t ∈ parts, Passes .outside t .outside) : ∀ t ∈ padded, Passes .outside t .outside := by
  induction pads with
  | nil => exact h
  | cons pad pads ih =>
    obtain ⟨first, others⟩ := List.forall_mem_cons.1 h
    exact List.forall_mem_cons.2 ⟨passes_padded pad first, ih others⟩

theorem of_split_eq_ok {opening closing : Char} (opens : closing? opening = some closing)
    {body : Text} {elements : List Element} (shown : Text.trim body ≠ [])
    (accepted : split (opening :: (body ++ [closing])) = .ok elements) :
    (pieces .outside body).2 = .outside ∧ elements = (pieces .outside body).1.map unquote := by
  have given : body? (opening :: (body ++ [closing])) = some body :=
    body?_eq_some_iff.2 ⟨opening, closing, opens, rfl⟩
  simp only [split, given, if_neg (mt List.isEmpty_iff.1 shown)] at accepted
  generalize pieces .outside body = found at accepted ⊢
  obtain ⟨parts, _ | q, _ | ⟨close, awaited⟩⟩ := found
  · cases accepted
    exact ⟨rfl, rfl⟩
  all_goals cases accepted

/-- Where brackets stand around pieces, splitting gives back just these, with blanks around them or
without. Conversely, what it cuts are pieces that make up all that stands between the brackets. -/
theorem split_pieces {opening closing : Char} (opens : closing? opening = some closing) :
    (∀ parts : List Text, parts ≠ [] → (∀ t ∈ parts, IsPiece t) →
      (∀ t, parts = [t] → Text.trim t ≠ []) →
        split (opening :: (Text.joined [','] parts ++ [closing])) = .ok (parts.map unquote) ∧
        ∀ padded, List.Forall₂ Text.Padded parts padded →
          split (opening :: (Text.joined [','] padded ++ [closing])) = .ok (parts.map unquote)) ∧
    ∀ body elements, Text.trim body ≠ [] →
      split (opening :: (body ++ [closing])) = .ok elements →
        ∃ front last, (pieces .outside body).1 = front ++ [last] ∧
          elements = (front ++ [last]).map unquote ∧ Text.joined [','] (front ++ [last]) = body ∧
          (∀ t ∈ front, IsPiece t) ∧
          (IsPiece last ∨ ∃ whole, last = whole ++ ['\\'] ∧ IsPiece whole) := by
  constructor
  · intro parts some whole present
    have passes : ∀ t ∈ parts, Passes .outside t .outside :=
      fun t mem => passes_of_scan? (whole t mem)
    refine ⟨split_joined opens some passes present, ?_⟩
    intro padded pads
    have same : parts.map unquote = padded.map unquote := by
      rw [← List.forall₂_eq_eq_eq, List.forall₂_map_left_iff, List.forall₂_map_right_iff]
      exact pads.imp fun t p pad => (unquote_padded pad).symm
    rw [same]
    apply split_joined opens
    · rintro rfl
      cases pads
      exact some rfl
    · exact passes_of_padded pads passes
    · rintro p rfl
      cases pads with
      | cons pad pads =>
        cases pads
        rw [pad.trim_eq]
        exact present _ rfl
  · intro body elements shown accepted
    obtain ⟨ends, rfl⟩ := of_split_eq_ok opens shown accepted
    obtain ⟨front, last, found, whole, ending⟩ :=
      (cut_pieces Nesting.unslashed_outside ends).exists_last
    have all := joined_pieces .outside body
    rw [found] at all ⊢
    exact ⟨front, last, rfl, rfl, all, whole, ending⟩

/-- A quoted comma, a nested literal with an escaped bracket, an empty piece, and blanks. -/
theorem split_pieces_nested :
    split "[ '1,2' ,\x7b3,\\\x7d\x7d,,a b ]".toList =
      .ok [⟨"1,2".toList, true⟩, ⟨"\x7b3,\\\x7d\x7d".toList, false⟩, ⟨[], false⟩,
        ⟨"a b".toList, false⟩] := by
  let parts : List Text := ["'1,2'".toList, "\x7b3,\\\x7d\x7d".toList, [], "a b".toList]
  let padded : List Text := [" '1,2' ".toList, "\x7b3,\\\x7d\x7d".toList, [], "a b ".toList]
  have blank : ∀ c ∈ [' '], Text.isBlank c := List.forall_mem_singleton.2 rfl
  have none : ∀ c ∈ ([] : Text), Text.isBlank c := List.forall_mem_nil _
  have pads : List.Forall₂ Text.Padded parts padded :=
    .cons ⟨[' '], [' '], blank, blank, rfl⟩ (.cons ⟨[], [], none, none, rfl⟩
      (.cons ⟨[], [], none, none, rfl⟩ (.cons ⟨[], [' '], none, blank, rfl⟩ .nil)))
  exact ((split_pieces rfl).1 parts (by simp [parts]) (by decide) (by simp [parts])).2 padded pads

end ArrayLiteral

end RowStream
