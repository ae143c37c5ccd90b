import RowStream.Proofs.Record.Split
import RowStream.Proofs.Text.Bare
import RowStream.Value.Encoding

/-! An array literal put together from elements is split into the same elements again. -/
namespace RowStream

/-- What is written for a character between double quotes. -/
def quoteChar (c : Char) : Text := if c = '"' then ['\\', '"'] else Token.escapeChar c

theorem spells_quoteChar (c : Char) : Token.Spells c (quoteChar c) := by
  by_cases quote : c = '"'
  · rw [quoteChar, if_pos quote, quote]
    exact .pair rfl (by decide)
  · rw [quoteChar, if_neg quote]
    exact Token.spells_escapeChar c

theorem quotedElement_escape (t : Text) :
    ColumnType.quotedElement (Token.escape t) = '"' :: (t.flatMap quoteChar ++ ['"']) := by
  rw [ColumnType.quotedElement, Token.escape, List.flatMap_assoc, List.cons_append]
  congr 3
  funext c
  unfold quoteChar Token.escapeChar
  split <;> simp

namespace ArrayLiteral

/-- Scanning over `t` leads from `s` to `s'`, and all of `t` is part of one element. -/
def Passes (s : Nesting) (t : Text) (s' : Nesting) : Prop :=
  ∀ rest, pieces s (t ++ rest) = (Record.extend t (pieces s' rest).1, (pieces s' rest).2)

/-- Outside quotes, with so many braces still to be closed. -/
def Nesting.within (depth : Nat) : Nesting := ⟨none, List.replicate depth '\x7d'⟩

theorem pieces_ne_nil (s : Nesting) (t : Text) : (pieces s t).1 ≠ [] := by
  fun_cases pieces s t <;> simp_all [Record.extend] <;> split <;> simp

theorem Passes.nil (s : Nesting) : Passes s [] s := by
  intro rest
  have some := pieces_ne_nil s rest
  rw [List.nil_append]
  generalize pieces s rest = found at some ⊢
  obtain ⟨_ | ⟨first, more⟩, last⟩ := found
  · exact absurd rfl some
  · rfl

theorem Passes.append {s s' s'' : Nesting} {t u : Text} (h : Passes s t s')
    (h' : Passes s' u s'') : Passes s (t ++ u) s'' := by
  intro rest
  rw [List.append_assoc, h, h', Record.extend_extend _ _ (pieces_ne_nil s'' rest)]

theorem passes_pair (s : Nesting) (c : Char) : Passes s ['\\', c] s := by
  intro rest
  rw [List.cons_append, List.cons_append, pieces]
  rfl

theorem passes_char {s : Nesting} {c : Char} (slash : c ≠ '\\')
    (inside : c = ',' → s ≠ .outside) : Passes s [c] (s.step c) := by
  intro rest
  rw [List.singleton_append, pieces, if_neg fun both => inside both.1 both.2]
  intro d tail pair
  exact absurd pair slash

theorem ne_backslash_of_isQuote {q : Char} (quote : isQuote q) : q ≠ '\\' := by
  rintro rfl
  cases quote

/-- Where the quote itself only stands in pairs, no text ends the quotes that it is written
between. -/
theorem passes_between {q : Char} (quote : isQuote q) (depth : Nat) {t : Text}
    (h : Token.Paired (· ≠ q) t) :
    Passes (.within depth) (q :: (t ++ [q])) (.within depth) := by
  have slash := ne_backslash_of_isQuote quote
  have comma : q ≠ ',' := by
    rintro rfl
    cases quote
  let inside : Nesting := ⟨some q, List.replicate depth '\x7d'⟩
  have opening : Passes (.within depth) [q] ((Nesting.within depth).step q) :=
    passes_char slash fun same => absurd same comma
  have opened : (Nesting.within depth).step q = inside := by
    simp [Nesting.step, Nesting.within, quote, inside]
  have closing : Passes inside [q] (inside.step q) :=
    passes_char slash fun same => absurd same comma
  have closed : inside.step q = .within depth := by simp [Nesting.step, Nesting.within, inside]
  have middle : Passes inside t inside := by
    induction h with
    | nil => exact .nil _
    | @plain c t slash other _ ih =>
      have stays : inside.step c = inside := if_neg other
      have first : Passes inside [c] (inside.step c) :=
        passes_char slash fun _ => by simp [inside, Nesting.outside]
      rw [stays] at first
      exact first.append ih
    | pair c _ ih => exact (passes_pair _ c).append ih
  rw [opened] at opening
  rw [closed] at closing
  exact opening.append (middle.append closing)

/-- Every double quote that is written is the second of a pair. -/
theorem paired_quoted (t : Text) : Token.Paired (· ≠ '"') (t.flatMap quoteChar) := by
  refine Text.flatMap_of_append (P := Token.Paired (· ≠ '"')) .nil .append (fun c => ?_) t
  by_cases quote : c = '"'
  · rw [quoteChar, if_pos quote]
    exact .pair _ .nil
  · rw [quoteChar, if_neg quote]
    have spelled := Token.spells_escapeChar c
    generalize Token.escapeChar c = w at spelled
    cases spelled with
    | plain h => exact .plain h.1 quote .nil
    | pair => exact .pair _ .nil

/-- Neither a bracket, a quote, a comma nor a backslash. -/
def isOrdinary (c : Char) : Bool := c ∉ ['\\', ',', '"', '\'', '\x7b', '\x7d', '[', ']']

/-- Whatever none of the special characters is. -/
theorem isOrdinary_of_forall {p : Char → Bool}
    (special : ['\\', ',', '"', '\'', '\x7b', '\x7d', '[', ']'].all (!p ·) = true) {c : Char}
    (h : p c) : isOrdinary c := by
  apply decide_eq_true
  intro mem
  have other := List.all_eq_true.1 special c mem
  rw [h] at other
  cases other

theorem isOrdinary_of_isPlain {c : Char} (h : Text.isPlain c) : isOrdinary c :=
  isOrdinary_of_forall (by decide) h

theorem isOrdinary_of_isBlank {c : Char} (h : Text.isBlank c) : isOrdinary c :=
  isOrdinary_of_forall (by decide) h

theorem isQuote_of_isOrdinary {c : Char} (h : isOrdinary c) : isQuote c = false := by
  simp only [isOrdinary, List.mem_cons, not_or, decide_eq_true_eq] at h
  simp [isQuote, h]

theorem step_ordinary {c : Char} (h : isOrdinary c) (depth : Nat) :
    (Nesting.within depth).step c = .within depth := by
  simp only [isOrdinary, List.mem_cons, List.not_mem_nil, or_false, not_or, decide_eq_true_eq] at h
  obtain ⟨-, -, double, single, brace, closer, bracket, -⟩ := h
  have noQuote : isQuote c = false := by simp [isQuote, double, single]
  have noBracket : closing? c = none := by
    unfold closing?
    split
    · exact absurd rfl brace
    · exact absurd rfl bracket
    · rfl
  have stays : (List.replicate depth '\x7d').head? ≠ some c := by
    rw [List.head?_replicate]
    split
    · simp
    · simp [Ne.symm closer]
  simp [Nesting.step, Nesting.within, noQuote, noBracket, stays]

theorem passes_paired (depth : Nat) {t : Text} (h : Token.Paired (isOrdinary ·) t) :
    Passes (.within depth) t (.within depth) := by
  induction h with
  | nil => exact .nil _
  | @plain c t slash ordinary _ ih =>
    have first : Passes (.within depth) [c] ((Nesting.within depth).step c) := by
      apply passes_char slash
      rintro rfl
      exact absurd ordinary (by decide)
    rw [step_ordinary ordinary] at first
    exact first.append ih
  | pair c _ ih => exact (passes_pair _ c).append ih

theorem passes_ordinary (depth : Nat) {t : Text} (h : ∀ c ∈ t, isOrdinary c) :
    Passes (.within depth) t (.within depth) := by
  apply passes_paired
  apply Token.Paired.of_forall
  intro c mem
  refine ⟨?_, h c mem⟩
  rintro rfl
  exact absurd (h _ mem) (by decide)

/-- Inside braces a comma is like any character. -/
theorem passes_joined (depth : Nat) {parts : List Text}
    (h : ∀ t ∈ parts, Passes (.within (depth + 1)) t (.within (depth + 1))) :
    Passes (.within (depth + 1)) (Text.joined [','] parts) (.within (depth + 1)) := by
  have comma : Passes (.within (depth + 1)) [','] (.within (depth + 1)) := by
    apply passes_char (by decide)
    intro _
    simp [Nesting.within, Nesting.outside, List.replicate_succ]
  exact Text.joined_of_append (P := fun t => Passes (.within (depth + 1)) t (.within (depth + 1)))
    (.nil _) Passes.append comma h

theorem passes_braced (depth : Nat) {inner : Text}
    (h : Passes (.within (depth + 1)) inner (.within (depth + 1))) :
    Passes (.within depth) ('\x7b' :: inner ++ ['\x7d']) (.within depth) := by
  have opening : Passes (.within depth) ['\x7b'] (.within (depth + 1)) :=
    passes_char (by decide) (by simp)
  have closing : Passes (.within (depth + 1)) ['\x7d'] (.within depth) :=
    passes_char (by decide) (by simp)
  exact opening.append (h.append closing)

theorem pieces_joined {parts : List Text} (some : parts ≠ [])
    (h : ∀ t ∈ parts, Passes (.within 0) t (.within 0)) :
    pieces .outside (Text.joined [','] parts) = (parts, .outside) := by
  induction parts with
  | nil => exact absurd rfl some
  | cons t rest ih =>
    obtain ⟨first, others⟩ := List.forall_mem_cons.1 h
    change Passes .outside t .outside at first
    cases rest with
    | nil =>
      rw [Text.joined_singleton, ← List.append_nil t, first]
      simp [pieces, Record.extend]
    | cons u rest =>
      have later := ih (List.cons_ne_nil u rest) others
      rw [Text.joined_cons_cons, first, List.singleton_append, pieces, if_pos ⟨rfl, rfl⟩, later]
      · simp [Record.extend]
      · intro d tail pair
        exact absurd pair (by decide)

/-- An element as encoding writes it: it passes at any depth, and has no blanks around it. -/
structure Sealed (t : Text) : Prop where
  passes : ∀ depth, Passes (.within depth) t (.within depth)
  solid : Text.Solid t

theorem passes_of_part {t : Text} (h : t = [] ∨ Sealed t) (depth : Nat) :
    Passes (.within depth) t (.within depth) := by
  rcases h with rfl | whole
  · exact .nil _
  · exact whole.passes depth

theorem sealed_braced {parts : List Text} (h : ∀ t ∈ parts, t = [] ∨ Sealed t) :
    Sealed ('\x7b' :: Text.joined [','] parts ++ ['\x7d']) := by
  refine ⟨?_, ⟨'\x7b', rfl, by decide⟩, '\x7d', ?_, by decide⟩
  · intro depth
    apply passes_braced
    apply passes_joined
    intro t mem
    exact passes_of_part (h t mem) (depth + 1)
  · rw [List.getLast?_append]
    rfl

theorem sealed_bare {t : Text} (h : Text.Bare t) : Sealed t :=
  ⟨fun depth => passes_ordinary depth fun c mem => isOrdinary_of_isPlain (h.plain c mem), h.solid⟩

theorem sealed_nullElement : Sealed ColumnType.nullElement :=
  have ordinary : ColumnType.nullElement.all isOrdinary = true := by decide
  ⟨fun depth => passes_ordinary depth (List.all_eq_true.1 ordinary), ⟨'N', rfl, by decide⟩, 'L',
    rfl, by decide⟩

theorem sealed_quoted (t : Text) : Sealed ('"' :: (t.flatMap quoteChar ++ ['"'])) := by
  refine ⟨fun depth => passes_between rfl depth (paired_quoted t), ⟨'"', rfl, by decide⟩, '"', ?_,
    by decide⟩
  rw [← List.cons_append, List.getLast?_append]
  rfl

/-- Texts that pass outside are the elements again. A blank one alone stands for no element. -/
theorem split_joined {opening closing : Char} (opens : closing? opening = some closing)
    {parts : List Text} (some : parts ≠ []) (h : ∀ t ∈ parts, Passes .outside t .outside)
    (present : ∀ t, parts = [t] → Text.trim t ≠ []) :
    split (opening :: (Text.joined [','] parts ++ [closing])) = .ok (parts.map unquote) := by
  have body : body? (opening :: (Text.joined [','] parts ++ [closing])) =
      .some (Text.joined [','] parts) := by
    simp [body?, opens]
  have shown : (Text.trim (Text.joined [','] parts)).isEmpty = false := by
    rw [List.isEmpty_eq_false_iff]
    cases parts with
    | nil => exact absurd rfl some
    | cons t rest =>
      cases rest with
      | nil =>
        rw [Text.joined_singleton]
        exact present t rfl
      | cons u rest =>
        intro blank
        have comma := Text.isBlank_of_trim_eq_nil blank ',' (by simp)
        exact absurd comma (by decide)
  rw [split, body]
  simp only [shown, pieces_joined some h]
  rfl

theorem split_single {opening closing : Char} (opens : closing? opening = some closing) {t : Text}
    (h : Passes .outside t .outside) (present : Text.trim t ≠ []) :
    split (opening :: (t ++ [closing])) = .ok [unquote t] := by
  have joined : split (opening :: (Text.joined [','] [t] ++ [closing])) = .ok [unquote t] :=
    split_joined opens (List.cons_ne_nil t []) (by simpa using h) (by simpa using present)
  rwa [Text.joined_singleton] at joined

theorem split_braced {parts : List Text} (h : ∀ t ∈ parts, t = [] ∨ Sealed t)
    (lone : parts ≠ [[]]) :
    split ('\x7b' :: Text.joined [','] parts ++ ['\x7d']) = .ok (parts.map unquote) := by
  cases parts with
  | nil => rfl
  | cons t rest =>
    apply split_joined rfl (List.cons_ne_nil t rest)
    · intro u mem
      exact passes_of_part (h u mem) 0
    · rintro u single
      rcases h u (single ▸ List.mem_singleton_self u) with rfl | whole
      · exact absurd single lone
      · rw [whole.solid.trim_eq]
        exact whole.solid.ne_nil

theorem isBlank_of_isQuote {q : Char} (quote : isQuote q) : Text.isBlank q = false := by
  rcases (by simpa [isQuote] using quote : q = '"' ∨ q = '\'') with rfl | rfl <;> decide

@[simp] theorem unquote_quoted {q : Char} (quote : isQuote q) (body : Text) :
    unquote (q :: (body ++ [q])) = ⟨body, true⟩ := by
  have blank := isBlank_of_isQuote quote
  have solid : Text.Solid (q :: (body ++ [q])) := by
    refine ⟨⟨q, rfl, blank⟩, q, ?_, blank⟩
    rw [← List.cons_append, List.getLast?_append]
    rfl
  rw [unquote, solid.trim_eq]
  simp [quote]

theorem unquote_of_solid {c : Char} {t : Text} (h : Text.Solid (c :: t))
    (plain : isQuote c = false) : unquote (c :: t) = ⟨c :: t, false⟩ := by
  rw [unquote, h.trim_eq]
  simp [plain]

end ArrayLiteral

end RowStream
