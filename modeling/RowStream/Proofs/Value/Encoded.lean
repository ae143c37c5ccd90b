import RowStream.Proofs.ArrayLiteral.Split
import RowStream.Proofs.Value.Elements

/-! Every token that a value has stays a whole token of its line. -/
namespace RowStream.ColumnType

open Token (Whole)

/-- The tokens of a row, one for each value under its type. -/
def RowTokens (types : List ColumnType) (values : List Value) (tokens : List Text) : Prop :=
  values.length = types.length ∧
    List.zipWith (fun v type => encode type v) values types = tokens.map .ok

theorem whole_quotedElement (t : Text) : Whole (quotedElement (Token.escape t)) := by
  rw [quotedElement_escape]
  have body := Token.whole_flatMap spells_quoteChar t
  have quote : Whole ['"'] := .plain (by decide) .nil
  exact quote.append (body.append quote)

theorem whole_encodeElements {encode : Value → Except Error Text}
    (h : ∀ {v : Value} {t : Text}, encode v = .ok t → Whole t) {values : List Value}
    {parts : List Text} (encoded : encodeElements encode values = .ok parts) :
    ∀ t ∈ parts, Whole t := by
  intro t mem
  have given : (.ok t : Except Error Text) ∈ parts.map .ok := List.mem_map_of_mem mem
  rw [← encodeElements_eq_ok_iff.1 encoded] at given
  obtain ⟨v, -, written⟩ := List.mem_map.1 given
  exact h written

theorem whole_encodeElement {type : ColumnType} {v : Value} {token : Text}
    (h : type.encodeElement v = .ok token) : Whole token := by
  have null : Whole nullElement :=
    .plain (by decide) (.plain (by decide) (.plain (by decide) (.plain (by decide) .nil)))
  induction type generalizing v token with
  | scalar kind a =>
    by_cases absent : v = .null
    · subst absent
      obtain rfl := Except.ok.inj h
      exact null
    · rw [encodeElement] at h
      · obtain ⟨t, -, h⟩ := Except.of_bind_eq_ok h
        obtain rfl := Except.ok.inj h
        by_cases text : kind = .text
        · rw [if_pos text]
          exact whole_quotedElement t
        · rw [if_neg text]
          exact Token.whole_escape t
      · exact absent
  | array element a ih =>
    cases v with
    | null =>
      obtain rfl := Except.ok.inj h
      exact null
    | list values =>
      rw [encodeElement] at h
      obtain ⟨parts, encoded, h⟩ := Except.of_bind_eq_ok h
      obtain rfl := Except.ok.inj h
      have comma : Whole [','] := .plain (by decide) .nil
      have closing : Whole ['\x7d'] := .plain (by decide) .nil
      have inner := Text.joined_of_append .nil Whole.append comma (whole_encodeElements ih encoded)
      exact .plain (by decide) (inner.append closing)
    | _ => cases h

/-- No value writes a tab or a line feed, or a backslash that takes what follows the token. -/
theorem whole_encode {type : ColumnType} {v : Value} {token : Text}
    (h : type.encode v = .ok token) : Whole token := by
  by_cases absent : v = .null
  · subst absent
    have : token = Token.null := by
      cases type <;> exact (Except.ok.inj h).symm
    rw [this]
    exact .pair (by decide) .nil
  · cases type with
    | scalar kind a =>
      rw [encode] at h
      · obtain ⟨t, -, rfl⟩ := Except.of_map_eq_ok h
        exact Token.whole_escape t
      · exact absent
    | array element a =>
      rw [encode] at h
      · exact whole_encodeElement h
      · simp
      · exact absent

theorem rowTokens_of_tokens {types : List ColumnType} {values : List Value} {tokens : List Text}
    (h : encodeRow.tokens values types = .ok tokens) : RowTokens types values tokens := by
  induction values generalizing types tokens with
  | nil =>
    cases types with
    | nil =>
      obtain rfl := Except.ok.inj h
      exact ⟨rfl, rfl⟩
    | cons => cases h
  | cons v values ih =>
    cases types with
    | nil => cases h
    | cons type types =>
      rw [encodeRow.tokens] at h
      split at h
      · cases h
      · rename_i token first
        obtain ⟨more, others, rfl⟩ := Except.of_map_eq_ok h
        obtain ⟨length, rest⟩ := ih others
        refine ⟨congrArg (· + 1) length, ?_⟩
        rw [List.zipWith_cons_cons, first, rest]
        rfl

theorem rowTokens_of_encodeRow {types : List ColumnType} {values : List Value} {line : Text}
    (h : encodeRow values types = .ok line) :
    ∃ tokens, RowTokens types values tokens ∧ line = Record.join tokens := by
  rw [encodeRow] at h
  obtain ⟨tokens, given, joined⟩ := Except.of_map_eq_ok h
  exact ⟨tokens, rowTokens_of_tokens given, joined.symm⟩

theorem RowTokens.length_eq {types : List ColumnType} {values : List Value} {tokens : List Text}
    (h : RowTokens types values tokens) : tokens.length = types.length := by
  obtain ⟨length, each⟩ := h
  have count := congrArg List.length each
  rw [List.length_zipWith, List.length_map, length, Nat.min_self] at count
  exact count.symm

theorem RowTokens.whole {types : List ColumnType} {values : List Value} {tokens : List Text}
    (h : RowTokens types values tokens) : ∀ t ∈ tokens, Whole t := by
  intro t mem
  obtain ⟨-, each⟩ := h
  have encoded : (.ok t : Except Error Text) ∈ tokens.map .ok := List.mem_map_of_mem mem
  rw [← each] at encoded
  obtain ⟨i, small, eq⟩ := List.getElem_of_mem encoded
  rw [List.getElem_zipWith] at eq
  exact whole_encode eq

end RowStream.ColumnType
