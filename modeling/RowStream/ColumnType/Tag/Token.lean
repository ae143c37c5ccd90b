import RowStream.Text.Basic

/-! The lexemes of type tags: words in lower case, numbers, quoted texts and punctuation, with
blanks allowed before each. -/
namespace RowStream

inductive TagToken where
  | word (name : Text)
  | number (digits : Text)
  | quoted (text : Text)
  | mark (c : Char)
  deriving DecidableEq, Repr

namespace TagToken

/-- The token's text, for messages. -/
def text : TagToken → Text
  | .word name => name
  | .number digits => digits
  | .quoted t => t
  | .mark c => [c]

def isWord : TagToken → Bool
  | .word _ => true
  | _ => false

def word? : TagToken → Option Text
  | .word name => some name
  | _ => none

def isWordStart (c : Char) : Bool := c.isAlpha || c = '_'

def isWordRest (c : Char) : Bool := c.isAlphanum || c = '_'

def isMark (c : Char) : Bool := c = '(' || c = ')' || c = ','

/-- The text up to the closing quote, escapes kept, and what follows the quote. A backslash takes
any character but a line feed along. -/
def takeQuoted? : Text → Option (Text × Text)
  | '\\' :: c :: rest =>
    if c = '\n' then none
    else (takeQuoted? rest).map fun (t, after) => ('\\' :: c :: t, after)
  | c :: rest =>
    if c = '\'' then some ([], rest)
    else if c = '\\' then none
    else (takeQuoted? rest).map fun (t, after) => (c :: t, after)
  | [] => none

/-- Resolves escaped quotes and no other escape. -/
def unescapeQuotes : Text → Text
  | '\\' :: '\'' :: rest => '\'' :: unescapeQuotes rest
  | c :: rest => c :: unescapeQuotes rest
  | [] => []

/-- The token at the front of a text without leading blanks, and what follows it. -/
def take? : Text → Option (TagToken × Text)
  | [] => none
  | c :: rest =>
    if c = '\'' then
      (takeQuoted? rest).map fun (t, after) => (.quoted (unescapeQuotes t), after)
    else if Text.isDecimalDigit c then
      some (.number (c :: rest.takeWhile Text.isDecimalDigit), rest.dropWhile Text.isDecimalDigit)
    else if isWordStart c then
      some (.word (Text.lower (c :: rest.takeWhile isWordRest)), rest.dropWhile isWordRest)
    else if isMark c then some (.mark c, rest)
    else none

theorem length_of_takeQuoted? {t body after : Text} (h : takeQuoted? t = some (body, after)) :
    after.length < t.length := by
  fun_induction takeQuoted? t generalizing body after with
  | case1 => simp at h
  | case2 c rest _ ih =>
    obtain ⟨⟨b, a⟩, hb, heq⟩ := Option.map_eq_some_iff.1 h
    simp only [Prod.mk.injEq] at heq
    have := ih hb
    simp only [List.length_cons]
    rw [← heq.2]
    omega
  | case3 => simp_all
  | case4 => simp at h
  | case5 c rest _ _ _ ih =>
    obtain ⟨⟨b, a⟩, hb, heq⟩ := Option.map_eq_some_iff.1 h
    simp only [Prod.mk.injEq] at heq
    have := ih hb
    simp only [List.length_cons]
    rw [← heq.2]
    omega
  | case6 => simp at h

theorem length_dropWhile_le (p : Char → Bool) (t : Text) : (t.dropWhile p).length ≤ t.length :=
  (List.dropWhile_suffix p).length_le

theorem length_of_take? {t rest : Text} {token : TagToken} (h : take? t = some (token, rest)) :
    rest.length < t.length := by
  cases t with
  | nil => simp [take?] at h
  | cons c s =>
    simp only [take?] at h
    split at h
    · obtain ⟨⟨body, after⟩, hb, heq⟩ := Option.map_eq_some_iff.1 h
      simp only [Prod.mk.injEq] at heq
      have := length_of_takeQuoted? hb
      simp only [List.length_cons, ← heq.2]
      omega
    · split at h
      · obtain ⟨-, rfl⟩ : _ ∧ s.dropWhile Text.isDecimalDigit = rest := by simpa using h
        have := length_dropWhile_le Text.isDecimalDigit s
        simp only [List.length_cons]
        omega
      · split at h
        · obtain ⟨-, rfl⟩ : _ ∧ s.dropWhile isWordRest = rest := by simpa using h
          have := length_dropWhile_le isWordRest s
          simp only [List.length_cons]
          omega
        · split at h
          · obtain ⟨-, rfl⟩ : _ ∧ s = rest := by simpa using h
            simp
          · simp at h

/-- The tokens of a text, or the character at which none begins: a blank, where what follows
the blanks is no token. -/
def scan (t : Text) : Except Char (List TagToken) :=
  match t with
  | [] => .ok []
  | c :: t =>
    match taken : take? (Text.trimLeft (c :: t)) with
    | none => .error c
    | some (token, rest) =>
      have := length_of_take? taken
      have := length_dropWhile_le Text.isBlank (c :: t)
      (token :: ·) <$> scan rest
termination_by t.length
decreasing_by
  simp only [Text.trimLeft, List.length_cons] at *
  omega

/-- The tokens of a tag. -/
def ofTag (tag : Text) : Except Char (List TagToken) := scan (Text.trim tag)

end TagToken

end RowStream
