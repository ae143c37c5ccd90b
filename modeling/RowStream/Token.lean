import RowStream.Text.Basic

/-! Field tokens: a backslash takes the character after it along, so that a field can hold the
characters that would end it. A record is a line of them, separated by tabs that no backslash
precedes. -/
namespace RowStream

namespace Token

/-- The token of a null field. -/
def null : Text := ['\\', 'N']

/-- The character that a backslash before `c` denotes; for most characters, none. -/
def unescapeChar? : Char → Option Char
  | 'b' => some '\x08'
  | 'f' => some '\x0c'
  | 'n' => some '\n'
  | 'r' => some '\r'
  | 't' => some '\t'
  | 'v' => some '\x0b'
  | '0' => some '\x00'
  | '\\' => some '\\'
  | '\'' => some '\''
  | '"' => some '"'
  | '\t' => some '\t'
  | '\n' => some '\n'
  | ',' => some ','
  | '\x7b' => some '\x7b'
  | '\x7d' => some '\x7d'
  | '[' => some '['
  | ']' => some ']'
  | _ => none

/-- Resolves every escape pair. A pair that denotes nothing is kept as it is, and so is a
backslash at the end. -/
def unescape : Text → Text
  | '\\' :: c :: rest =>
    match unescapeChar? c with
    | some d => d :: unescape rest
    | none => '\\' :: c :: unescape rest
  | c :: rest => c :: unescape rest
  | [] => []

/-- The written form of one character. -/
def escapeChar : Char → Text
  | '\\' => ['\\', '\\']
  | '\x08' => ['\\', 'b']
  | '\x0c' => ['\\', 'f']
  | '\n' => ['\\', 'n']
  | '\r' => ['\\', 'r']
  | '\t' => ['\\', 't']
  | '\x0b' => ['\\', 'v']
  | '\x00' => ['\\', '0']
  | '\'' => ['\\', '\'']
  | c => [c]

def escape (t : Text) : Text := t.flatMap escapeChar

end Token

namespace Record

/-- Puts `t` in front of the first token. -/
def extend (t : Text) : List Text → List Text
  | [] => [t]
  | first :: rest => (t ++ first) :: rest

/-- Cuts a line at its unescaped tabs; the tokens keep their escapes. -/
def split : Text → List Text
  | '\\' :: c :: rest => extend ['\\', c] (split rest)
  | '\t' :: rest => [] :: split rest
  | c :: rest => extend [c] (split rest)
  | [] => [[]]

def join (tokens : List Text) : Text := Text.joined ['\t'] tokens

theorem split_ne_nil (line : Text) : split line ≠ [] := by
  fun_cases split line <;> simp [extend] <;> split <;> simp

end Record

end RowStream
