import RowStream.ColumnType.Tag
import RowStream.Proofs.Token.Spelling

/-! The words at the front of a tag and behind its parentheses, with the marker they end in. -/
namespace RowStream.ColumnType

/-- The words of a marker of nullability. -/
def markerWords : Option Bool → List Text
  | none => []
  | some true => ["null".toList]
  | some false => ["not".toList, "null".toList]

/-- The type with the nullability of a marker behind it. -/
def marked (t : ColumnType) (marker : Option Bool) : ColumnType :=
  (marker.map t.withNullable).getD t

variable {words names : List Text} {marker : Option Bool} {tokens rest : List TagToken}

theorem splitMarker_spec (words : List Text) :
    words = (splitMarker words).1 ++ markerWords (splitMarker words).2 := by
  unfold splitMarker
  split
  · rename_i last before others reversed
    have spelled : words = others.reverse ++ [before, last] := by
      rw [← List.reverse_reverse words, reversed]
      simp
    split
    · rename_i ends
      split
      · rename_i negated
        rw [spelled, ends, negated]
        rfl
      · rw [spelled, ends]
        simp [markerWords]
    · exact (List.append_nil words).symm
  · rename_i last reversed
    have spelled : words = [last] := by
      rw [← List.reverse_reverse words, reversed]
      rfl
    split
    · rename_i ends
      rw [spelled, ends]
      rfl
    · exact (List.append_nil words).symm
  · rename_i reversed
    exact List.reverse_eq_nil_iff.1 reversed

/-- A name whose last word cannot be taken for a part of a marker. -/
def Unmarked (names : List Text) : Prop :=
  ∀ last ∈ names.getLast?, last ≠ "null".toList ∧ last ≠ "not".toList

theorem splitMarker_append (unmarked : Unmarked names) :
    splitMarker (names ++ markerWords marker) = (names, marker) := by
  obtain rfl | ⟨init, last, rfl⟩ := List.eq_nil_or_concat names
  · match marker with
    | none => rfl
    | some true => rfl
    | some false => rfl
  · rw [List.concat_eq_append] at *
    obtain ⟨notNull, notNot⟩ := unmarked last (by simp)
    match marker with
    | none =>
      have reversed : (init ++ [last]).reverse = last :: init.reverse := List.reverse_append
      simp only [splitMarker, markerWords, List.append_nil, reversed]
      cases init.reverse <;> simp only [if_neg notNull]
    | some true =>
      have reversed : (init ++ [last] ++ ["null".toList]).reverse =
          "null".toList :: last :: init.reverse := by
        rw [List.reverse_append, List.reverse_append]
        rfl
      simp only [splitMarker, markerWords, reversed, if_neg notNot, if_true, List.reverse_cons,
        List.reverse_reverse]
    | some false => simp [splitMarker, markerWords]

theorem suffix_joined {last : Text} (h : last ∈ words.getLast?) :
    last <:+ Text.joined [' '] words := by
  induction words with
  | nil => cases h
  | cons word others ih =>
    cases others with
    | nil =>
      obtain rfl : word = last := by simpa using h
      exact ⟨[], (Text.joined_singleton _ _).symm⟩
    | cons next others =>
      rw [Text.joined_cons_cons]
      have inner := ih (by simpa using h)
      exact (inner.trans (List.suffix_append _ _)).trans (List.suffix_append _ _)

theorem eq_singleton_of_joined {name : Text} (unspaced : ' ' ∉ name) (some : name ≠ [])
    (h : Text.joined [' '] words = name) : words = [name] := by
  match words with
  | [] => exact absurd h.symm some
  | [word] => rw [← h, Text.joined_singleton]
  | word :: next :: others =>
    rw [Text.joined_cons_cons] at h
    exact absurd (by simp [← h]) unspaced

/-- What may follow the words of a type: no further word. -/
def Wordless (tokens : List TagToken) : Prop := ∀ token ∈ tokens.head?, token.isWord = false

theorem takeWords_word (name : Text) (tokens : List TagToken) :
    takeWords (.word name :: tokens) = (name :: (takeWords tokens).1, (takeWords tokens).2) := rfl

theorem takeWords_of_wordless (wordless : Wordless rest) : takeWords rest = ([], rest) := by
  cases rest with
  | nil => rfl
  | cons token rest =>
    cases token with
    | word => cases wordless _ rfl
    | number | quoted | mark => rfl

theorem takeWords_append (words : List Text) (wordless : Wordless rest) :
    takeWords (words.map .word ++ rest) = (words, rest) := by
  induction words with
  | nil => exact takeWords_of_wordless wordless
  | cons word words ih => rw [List.map_cons, List.cons_append, takeWords_word, ih]

theorem takeWords_spec (tokens : List TagToken) :
    tokens = (takeWords tokens).1.map .word ++ (takeWords tokens).2 := by
  induction tokens with
  | nil => rfl
  | cons token tokens ih =>
    cases token with
    | word name =>
      rw [takeWords_word]
      exact congrArg _ ih
    | number | quoted | mark => rfl

theorem of_withTrailingMarker {t t' : ColumnType}
    (h : withTrailingMarker marker t tokens = .ok (t', rest)) :
    ∃ trailing, tokens = (markerWords trailing).map .word ++ rest ∧
      (marker = none ∨ trailing = none) ∧ t' = t.marked (marker.or trailing) := by
  have spelled := takeWords_spec tokens
  simp only [withTrailingMarker] at h
  split at h
  · rename_i none
    cases h
    rw [none] at spelled
    exact ⟨.none, spelled, .inr rfl, by simp [marked]⟩
  · split at h
    · cases h
    · rename_i alone
      cases h
      have alone : (splitMarker (takeWords tokens).1).1 = [] ∧ marker = .none := by
        simpa using alone
      have words := splitMarker_spec (takeWords tokens).1
      rw [alone.1, List.nil_append] at words
      rw [words] at spelled
      exact ⟨_, spelled, .inl alone.2, by simp [marked, alone.2]⟩

theorem withTrailingMarker_marker (t : ColumnType) (marker : Option Bool)
    (wordless : Wordless rest) :
    withTrailingMarker none t ((markerWords marker).map .word ++ rest) =
      .ok (t.marked marker, rest) := by
  have split : splitMarker ([] ++ markerWords marker) = ([], marker) :=
    splitMarker_append fun _ h => nomatch h
  rw [List.nil_append] at split
  simp only [withTrailingMarker, takeWords_append _ wordless, split]
  match marker with
  | none => rfl
  | some true => rfl
  | some false => rfl

theorem withTrailingMarker_rest (t : ColumnType) (marker : Option Bool) (wordless : Wordless rest) :
    withTrailingMarker marker t rest = .ok (t.marked marker, rest) := by
  simp only [withTrailingMarker, takeWords_of_wordless wordless]
  rfl

theorem front_of_splitMarker (h : splitMarker (takeWords tokens).1 = (names, marker)) :
    tokens = names.map .word ++ ((markerWords marker).map .word ++ (takeWords tokens).2) := by
  have words := splitMarker_spec (takeWords tokens).1
  rw [h] at words
  have spelled := takeWords_spec tokens
  rwa [words, List.map_append, List.append_assoc] at spelled

theorem withTrailingMarker_ne_digitLimit (marker : Option Bool) (t : ColumnType)
    (tokens : List TagToken) (n : Nat) :
    withTrailingMarker marker t tokens ≠ .error (.digitLimit n) := by
  intro h
  simp only [withTrailingMarker] at h
  split at h
  · cases h
  · split at h <;> cases h

theorem inner_of_opened {c : Char} {inner : List TagToken}
    (opened : (takeWords tokens).2 = .mark c :: inner) : inner <:+: tokens := by
  have behind : (takeWords tokens).2 <:+ tokens := List.dropWhile_suffix _
  rw [opened] at behind
  exact ((List.suffix_cons _ inner).trans behind).isInfix

end RowStream.ColumnType
