import Mathlib.Data.List.TakeWhile
import RowStream.Proofs.ColumnType.Lexeme
import RowStream.Proofs.Success

/-! The tokens of a tag as they are written: each as long as it can be, with blanks between them. -/
namespace RowStream.TagToken

open Text (isBlank isDecimalDigit trimLeft)

/-- What may stand between quotes. A backslash takes a character along, which is no line feed. -/
inductive Enclosed : Text → Prop where
  | nil : Enclosed []
  | plain {c : Char} {t : Text} (h : c ≠ '\'' ∧ c ≠ '\\') (more : Enclosed t) : Enclosed (c :: t)
  | pair {c : Char} {t : Text} (h : c ≠ '\n') (more : Enclosed t) : Enclosed ('\\' :: c :: t)

/-- The text of a token, and what follows it, which is nothing that would make it longer. -/
inductive Lexeme : Text → TagToken → Text → Prop where
  | word {c : Char} {t rest : Text} (start : isWordStart c) (others : ∀ d ∈ t, isWordRest d)
      (ends : ∀ d ∈ rest.head?, isWordRest d = false) :
    Lexeme (c :: t) (.word (Text.lower (c :: t))) rest
  | number {c : Char} {t rest : Text} (digits : ∀ d ∈ c :: t, isDecimalDigit d)
      (ends : ∀ d ∈ rest.head?, isDecimalDigit d = false) :
    Lexeme (c :: t) (.number (c :: t)) rest
  | mark {c : Char} {rest : Text} (h : isMark c) : Lexeme [c] (.mark c) rest
  | quoted {t rest : Text} (inside : Enclosed t) :
    Lexeme ('\'' :: (t ++ ['\''])) (.quoted (unescapeQuotes t)) rest

/-- The text is made up of the tokens and of blanks between and around them. -/
inductive Lexes : Text → List TagToken → Prop where
  | nil : Lexes [] []
  | blank {c : Char} {t : Text} {tokens : List TagToken} (h : isBlank c) (more : Lexes t tokens) :
    Lexes (c :: t) tokens
  | token {w rest : Text} {token : TagToken} {tokens : List TagToken}
      (lexeme : Lexeme w token rest) (more : Lexes rest tokens) :
    Lexes (w ++ rest) (token :: tokens)

variable {c : Char} {t w rest : Text} {token : TagToken} {tokens : List TagToken}

theorem takeQuoted?_plain (h : c ≠ '\'' ∧ c ≠ '\\') (t : Text) :
    takeQuoted? (c :: t) = (takeQuoted? t).map fun (body, after) => (c :: body, after) := by
  rw [takeQuoted?, if_neg h.1, if_neg h.2]
  rintro d after rfl
  exact absurd rfl h.2

theorem takeQuoted?_enclosed (inside : Enclosed t) (rest : Text) :
    takeQuoted? (t ++ '\'' :: rest) = some (t, rest) := by
  induction inside with
  | nil => simp [takeQuoted?]
  | plain h _ ih =>
    rw [List.cons_append, takeQuoted?_plain h, ih]
    rfl
  | pair h _ ih =>
    rw [List.cons_append, List.cons_append, takeQuoted?, if_neg h, ih]
    rfl

theorem of_takeQuoted? {body : Text} (taken : takeQuoted? t = some (body, rest)) :
    t = body ++ '\'' :: rest ∧ Enclosed body := by
  fun_induction takeQuoted? t generalizing body rest with
  | case1 => cases taken
  | case2 c more feed ih =>
    obtain ⟨⟨inner, after⟩, found, same⟩ := Option.map_eq_some_iff.1 taken
    cases same
    obtain ⟨rfl, inside⟩ := ih found
    exact ⟨rfl, .pair feed inside⟩
  | case3 more =>
    cases taken
    exact ⟨rfl, .nil⟩
  | case4 => cases taken
  | case5 c more _ quote slash ih =>
    obtain ⟨⟨inner, after⟩, found, same⟩ := Option.map_eq_some_iff.1 taken
    cases same
    obtain ⟨rfl, inside⟩ := ih found
    exact ⟨rfl, .plain ⟨quote, slash⟩ inside⟩
  | case6 => cases taken

theorem isDecimalDigit_of_isWordStart (h : isWordStart c) : isDecimalDigit c = false := by
  have ascii : c.toNat < 128 := by
    rcases Bool.or_eq_true_iff.1 h with letter | underscore
    · exact Text.toNat_lt_of_isAlpha letter
    · rw [of_decide_eq_true underscore]
      decide
  exact Text.forall_ascii (P := fun c => isWordStart c → isDecimalDigit c = false)
    (by decide +kernel) ascii h

theorem take?_of_lexeme (lexeme : Lexeme w token rest) :
    take? (w ++ rest) = some (token, rest) := by
  cases lexeme with
  | @word c t _ start others ends =>
    have unquoted : c ≠ '\'' := by
      rintro rfl
      cases start
    have undigit : isDecimalDigit c = false := isDecimalDigit_of_isWordStart start
    obtain ⟨taken, left⟩ := Text.takeWhile_of_stops others ends
    rw [List.cons_append, take?, if_neg unquoted, if_neg (by simp [undigit]), if_pos start, taken,
      left]
  | @number c t _ digits ends =>
    obtain ⟨first, others⟩ := List.forall_mem_cons.1 digits
    have unquoted : c ≠ '\'' := by
      rintro rfl
      exact absurd first (by decide)
    obtain ⟨taken, left⟩ := Text.takeWhile_of_stops others ends
    rw [List.cons_append, take?, if_neg unquoted, if_pos first, taken, left]
  | @mark c _ h => exact (opens_mark h rest).taken
  | @quoted t _ inside =>
    have whole : '\'' :: (t ++ ['\'']) ++ rest = '\'' :: (t ++ '\'' :: rest) := by simp
    rw [whole, take?, if_pos rfl, takeQuoted?_enclosed inside]
    rfl

theorem takeWhile_ends {p : Char → Bool} (t : Text) :
    (∀ d ∈ t.takeWhile p, p d) ∧ ∀ d ∈ (t.dropWhile p).head?, p d = false := by
  constructor
  · exact List.all_eq_true.1 List.all_takeWhile
  · intro d next
    have stops := List.head?_dropWhile_not p t
    rw [next] at stops
    simpa using stops

theorem lexeme_of_take? (taken : take? t = some (token, rest)) :
    ∃ w, t = w ++ rest ∧ Lexeme w token rest := by
  cases t with
  | nil => cases taken
  | cons c t =>
    rw [take?] at taken
    by_cases quote : c = '\''
    · rw [if_pos quote] at taken
      obtain ⟨⟨body, after⟩, found, same⟩ := Option.map_eq_some_iff.1 taken
      cases same
      obtain ⟨rfl, inside⟩ := of_takeQuoted? found
      exact ⟨_, by simp [quote], .quoted inside⟩
    rw [if_neg quote] at taken
    by_cases digit : isDecimalDigit c
    · rw [if_pos digit] at taken
      cases taken
      obtain ⟨others, ends⟩ := takeWhile_ends (p := isDecimalDigit) t
      refine ⟨c :: t.takeWhile isDecimalDigit, ?_, .number ?_ ends⟩
      · rw [List.cons_append, List.takeWhile_append_dropWhile]
      · exact List.forall_mem_cons.2 ⟨digit, others⟩
    rw [if_neg digit] at taken
    by_cases start : isWordStart c
    · rw [if_pos start] at taken
      cases taken
      obtain ⟨others, ends⟩ := takeWhile_ends (p := isWordRest) t
      refine ⟨c :: t.takeWhile isWordRest, ?_, .word start others ends⟩
      rw [List.cons_append, List.takeWhile_append_dropWhile]
    rw [if_neg start] at taken
    by_cases mark : isMark c
    · rw [if_pos mark] at taken
      cases taken
      exact ⟨[c], rfl, .mark mark⟩
    · rw [if_neg mark] at taken
      cases taken

theorem take?_append_iff : take? (w ++ rest) = some (token, rest) ↔ Lexeme w token rest := by
  refine ⟨fun taken => ?_, take?_of_lexeme⟩
  obtain ⟨w', same, lexeme⟩ := lexeme_of_take? taken
  rwa [List.append_cancel_right same]

theorem take?_eq_none_iff :
    take? t = none ↔ ∀ w token rest, t = w ++ rest → ¬ Lexeme w token rest := by
  constructor
  · rintro refused w token rest rfl lexeme
    rw [take?_of_lexeme lexeme] at refused
    cases refused
  · intro none
    cases taken : take? t with
    | none => rfl
    | some found =>
      obtain ⟨w, eq, lexeme⟩ := lexeme_of_take? taken
      exact absurd lexeme (none w _ _ eq)

/-- No token begins with the character, unless it is a quote. -/
def isForeign (c : Char) : Bool := !isDecimalDigit c && !isWordStart c && !isMark c

theorem take?_cons_eq_none_iff (t : Text) : take? (c :: t) = none ↔
    if c = '\'' then takeQuoted? t = none else isForeign c := by
  rw [take?]
  by_cases quote : c = '\''
  · rw [if_pos quote, if_pos quote, Option.map_eq_none_iff]
  · rw [if_neg quote, if_neg quote, isForeign]
    cases isDecimalDigit c <;> cases isWordStart c <;> cases isMark c <;> simp

theorem take?_blank (blank : isBlank c) (t : Text) : take? (c :: t) = none := by
  obtain ⟨unquoted, foreign⟩ := Text.forall_isBlank (P := fun c => c ≠ '\'' ∧ isForeign c)
    (by decide +kernel) blank
  rw [take?_cons_eq_none_iff, if_neg unquoted]
  exact foreign

theorem lexes_nil_iff : Lexes [] tokens ↔ tokens = [] := by
  constructor
  · intro lexed
    generalize none : ([] : Text) = u at lexed
    cases lexed with
    | nil => rfl
    | blank => cases none
    | token lexeme more =>
      have taken := take?_of_lexeme lexeme
      rw [← none] at taken
      cases taken
  · rintro rfl
    exact .nil

theorem lexes_blank_iff (blank : isBlank c) : Lexes (c :: t) tokens ↔ Lexes t tokens := by
  refine ⟨fun lexed => ?_, .blank blank⟩
  generalize whole : c :: t = u at lexed
  cases lexed with
  | nil => cases whole
  | blank h more =>
    cases whole
    exact more
  | token lexeme more =>
    have taken := take?_of_lexeme lexeme
    rw [← whole, take?_blank blank] at taken
    cases taken

theorem lexes_append_iff {blanks : Text} (blank : ∀ c ∈ blanks, isBlank c) :
    Lexes (blanks ++ t) tokens ↔ Lexes t tokens := by
  induction blanks with
  | nil => exact Iff.rfl
  | cons c blanks ih =>
    obtain ⟨first, others⟩ := List.forall_mem_cons.1 blank
    exact (lexes_blank_iff first).trans (ih others)

theorem lexes_token_iff (lexeme : Lexeme w token rest) :
    Lexes (w ++ rest) tokens ↔ ∃ more, tokens = token :: more ∧ Lexes rest more := by
  constructor
  · intro lexed
    have taken := take?_of_lexeme lexeme
    generalize w ++ rest = u at taken lexed
    cases lexed with
    | nil => cases taken
    | blank h more =>
      rw [take?_blank h] at taken
      cases taken
    | token lexeme' more =>
      rw [take?_of_lexeme lexeme'] at taken
      cases taken
      exact ⟨_, rfl, more⟩
  · rintro ⟨more, rfl, lexed⟩
    exact .token lexeme lexed

theorem not_lexes (refused : take? (c :: t) = none) (solid : isBlank c = false) :
    ¬ Lexes (c :: t) tokens := by
  intro lexed
  generalize whole : c :: t = u at lexed
  cases lexed with
  | nil => cases whole
  | blank h more =>
    cases whole
    rw [h] at solid
    cases solid
  | token lexeme more => exact take?_eq_none_iff.1 refused _ _ _ whole lexeme

theorem lexes_trimLeft : Lexes (trimLeft t) tokens ↔ Lexes t tokens := by
  have front : ∀ c ∈ t.takeWhile isBlank, isBlank c := (takeWhile_ends t).1
  rw [trimLeft, ← lexes_append_iff front, List.takeWhile_append_dropWhile]

/-- Where the last character is no blank, scanning finds the tokens that the text is made up of. -/
theorem scan_eq_ok_iff (ending : ∀ c ∈ t.getLast?, isBlank c = false) :
    scan t = .ok tokens ↔ Lexes t tokens := by
  fun_induction scan t generalizing tokens with
  | case1 =>
    rw [lexes_nil_iff, Except.ok.injEq]
    exact eq_comm
  | case2 c t refused =>
    refine iff_of_false (fun found => nomatch found) ?_
    rw [← lexes_trimLeft]
    have solid := (takeWhile_ends (p := isBlank) (c :: t)).2
    cases left : trimLeft (c :: t) with
    | nil =>
      -- all characters would be blanks, the last one too
      have blank := List.dropWhile_eq_nil_iff.1 left _ (List.getLast_mem (List.cons_ne_nil c t))
      rw [ending _ (List.getLast?_eq_some_getLast _)] at blank
      cases blank
    | cons d more =>
      rw [left] at refused
      rw [show (c :: t).dropWhile isBlank = d :: more from left] at solid
      exact not_lexes refused (solid d rfl)
  | case3 c t token rest taken _ _ ih =>
    obtain ⟨w, whole, lexeme⟩ := lexeme_of_take? taken
    have suffix : rest <:+ c :: t := by
      refine List.IsSuffix.trans ⟨w, whole.symm⟩ (List.dropWhile_suffix isBlank)
    have later : ∀ d ∈ rest.getLast?, isBlank d = false := by
      obtain ⟨front, same⟩ := suffix
      intro d last
      apply ending d
      rw [← same, List.getLast?_append, last]
      rfl
    rw [← lexes_trimLeft, whole, lexes_token_iff lexeme]
    constructor
    · intro found
      obtain ⟨more, scanned, rfl⟩ := Except.of_map_eq_ok found
      exact ⟨more, rfl, (ih later).1 scanned⟩
    · rintro ⟨more, rfl, lexed⟩
      rw [(ih later).2 lexed]
      rfl

end RowStream.TagToken
