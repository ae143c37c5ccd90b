import RowStream.Token

/-! How characters are written inside tokens, and texts put together. -/
namespace RowStream

namespace Text

@[simp] theorem joined_singleton (separator t : Text) : joined separator [t] = t := by
  simp [joined, List.intercalate]

@[simp] theorem joined_cons_cons (separator t u : Text) (rest : List Text) :
    joined separator (t :: u :: rest) = t ++ (separator ++ joined separator (u :: rest)) := by
  simp [joined, List.intercalate]

variable {P : Text → Prop}

/-- What parts keep when they are put together is kept by all of a text's parts. -/
theorem joined_of_append (nil : P []) (append : ∀ {t u : Text}, P t → P u → P (t ++ u))
    {separator : Text} (between : P separator) {parts : List Text} (h : ∀ t ∈ parts, P t) :
    P (joined separator parts) := by
  induction parts with
  | nil => exact nil
  | cons t rest ih =>
    obtain ⟨first, others⟩ := List.forall_mem_cons.1 h
    cases rest with
    | nil => rwa [joined_singleton]
    | cons u rest =>
      rw [joined_cons_cons]
      apply append first
      apply append between
      exact ih others

theorem flatMap_of_append (nil : P []) (append : ∀ {t u : Text}, P t → P u → P (t ++ u))
    {spell : Char → Text} (h : ∀ c, P (spell c)) (t : Text) : P (t.flatMap spell) := by
  induction t with
  | nil => exact nil
  | cons c t ih =>
    rw [List.flatMap_cons]
    exact append (h c) ih

end Text

namespace Token

/-- A character is written as it is or as an escape pair; never so that it ends a token. -/
inductive Spells (c : Char) : Text → Prop where
  | plain (h : c ≠ '\\' ∧ c ≠ '\t' ∧ c ≠ '\n') : Spells c [c]
  | pair {d : Char} (denotes : unescapeChar? d = some c) (h : d ≠ '\t' ∧ d ≠ '\n') :
    Spells c ['\\', d]

/-- All backslashes take a character along, and no tab or line feed is left. -/
inductive Whole : Text → Prop where
  | nil : Whole []
  | plain {c : Char} {t : Text} (h : c ≠ '\\' ∧ c ≠ '\t' ∧ c ≠ '\n') (more : Whole t) :
    Whole (c :: t)
  | pair {d : Char} {t : Text} (h : d ≠ '\t' ∧ d ≠ '\n') (more : Whole t) :
    Whole ('\\' :: d :: t)

theorem unescape_cons {c : Char} (h : c ≠ '\\') (rest : Text) :
    unescape (c :: rest) = c :: unescape rest := by
  rw [unescape]
  intro d tail slash
  exact absurd slash h

theorem unescape_of_forall {t : Text} (plain : ∀ c ∈ t, c ≠ '\\') : unescape t = t := by
  induction t with
  | nil => rfl
  | cons c t ih =>
    obtain ⟨first, others⟩ := List.forall_mem_cons.1 plain
    rw [unescape_cons first, ih others]

theorem unescape_spells {c : Char} {w : Text} (h : Spells c w) (rest : Text) :
    unescape (w ++ rest) = c :: unescape rest := by
  cases h with
  | plain h => exact unescape_cons h.1 rest
  | pair denotes h =>
    rw [List.cons_append, List.cons_append, unescape, denotes]
    rfl

theorem unescape_flatMap_append {spell : Char → Text} (h : ∀ c, Spells c (spell c))
    (t rest : Text) : unescape (t.flatMap spell ++ rest) = t ++ unescape rest := by
  induction t with
  | nil => rfl
  | cons c t ih =>
    rw [List.flatMap_cons, List.append_assoc, unescape_spells (h c), ih, List.cons_append]

theorem unescape_flatMap {spell : Char → Text} (h : ∀ c, Spells c (spell c)) (t : Text) :
    unescape (t.flatMap spell) = t := by
  have whole := unescape_flatMap_append h t []
  rwa [List.append_nil, unescape, List.append_nil] at whole

theorem spells_escapeChar (c : Char) : Spells c (escapeChar c) := by
  unfold escapeChar
  split
  case h_10 slash _ _ feed _ tab _ _ _ => exact .plain ⟨slash, tab, feed⟩
  all_goals exact .pair rfl (by decide)

theorem escape_eq_self {t : Text} (h : ∀ c ∈ t, escapeChar c = [c]) : escape t = t := by
  induction t with
  | nil => rfl
  | cons c t ih =>
    obtain ⟨first, others⟩ := List.forall_mem_cons.1 h
    rw [escape, List.flatMap_cons, first]
    exact congrArg (c :: ·) (ih others)

@[simp] theorem unescape_escape (t : Text) : unescape (escape t) = t :=
  unescape_flatMap spells_escapeChar t

/-- A text is never taken for null. -/
@[simp] theorem escape_ne_null (t : Text) : escape t ≠ null := by
  intro h
  have denoted := unescape_escape t
  rw [h] at denoted
  rw [← denoted] at h
  exact absurd h (by decide)

theorem Whole.append {t u : Text} (h : Whole t) (h' : Whole u) : Whole (t ++ u) := by
  induction h with
  | nil => exact h'
  | plain h _ ih => exact .plain h ih
  | pair h _ ih => exact .pair h ih

theorem Spells.whole {c : Char} {w : Text} (h : Spells c w) : Whole w := by
  cases h with
  | plain h => exact .plain h .nil
  | pair _ h => exact .pair h .nil

theorem whole_flatMap {spell : Char → Text} (h : ∀ c, Spells c (spell c)) (t : Text) :
    Whole (t.flatMap spell) := by
  apply Text.flatMap_of_append .nil Whole.append
  intro c
  exact (h c).whole

theorem whole_escape (t : Text) : Whole (escape t) := whole_flatMap spells_escapeChar t

end Token

end RowStream
