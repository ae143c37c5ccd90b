import RowStream.Token
import RowStream.Text.Basic
import RowStream.Text.Quoted

/-! Array literals: elements between brackets, separated by commas outside quotes, nested brackets
and escape pairs. A nested literal stays one element, to be split again by its reader. -/
namespace RowStream.ArrayLiteral

/-- The bracket that closes one opened by `c`. -/
def closing? : Char → Option Char
  | '{' => some '}'
  | '[' => some ']'
  | _ => none

def isQuote (c : Char) : Bool := c = '"' || c = '\''

/-- An element as written: its text without surrounding blanks and, where it was quoted, without
its quotes. Escapes stay. -/
structure Element where
  token : Text
  quoted : Bool
  deriving DecidableEq, Repr

inductive Fault where
  | notLiteral (raw : Text)
  | unterminatedQuote (raw : Text)
  | unbalanced (raw : Text)
  deriving DecidableEq, Repr

def Fault.message : Fault → Text
  | .notLiteral raw => "Not an array literal: ".toList ++ Text.quoted raw
  | .unterminatedQuote raw => "Unterminated quote in array literal: ".toList ++ Text.quoted raw
  | .unbalanced raw => "Unbalanced brackets in array literal: ".toList ++ Text.quoted raw

/-- Where a scan stands between two characters: the quote it is inside of, and the closing
brackets awaited, innermost first. -/
structure Nesting where
  quote : Option Char
  awaited : List Char
  deriving DecidableEq, Repr

def Nesting.outside : Nesting := ⟨none, []⟩

/-- The scan after one character that is not part of an escape pair. A closing bracket other than
the one awaited is a plain character, and so is every bracket inside quotes. -/
def Nesting.step (s : Nesting) (c : Char) : Nesting :=
  match s.quote with
  | some q => if c = q then { s with quote := none } else s
  | none =>
    if isQuote c then { s with quote := some c }
    else match closing? c with
      | some close => { s with awaited := close :: s.awaited }
      | none => if s.awaited.head? = some c then { s with awaited := s.awaited.tail } else s

/-- The pieces between top-level commas, and where the scan ends. -/
def pieces : Nesting → Text → List Text × Nesting
  | s, '\\' :: c :: rest =>
    let (found, last) := pieces s rest
    (Record.extend ['\\', c] found, last)
  | s, c :: rest =>
    if c = ',' ∧ s = .outside then
      let (found, last) := pieces s rest
      ([] :: found, last)
    else
      let (found, last) := pieces (s.step c) rest
      (Record.extend [c] found, last)
  | s, [] => ([[]], s)

/-- Takes quotes off a text that begins and ends with the same one. -/
def unquote (piece : Text) : Element :=
  match Text.trim piece with
  | first :: rest =>
    if isQuote first && rest.getLast? = some first then ⟨rest.dropLast, true⟩
    else ⟨first :: rest, false⟩
  | [] => ⟨[], false⟩

/-- What stands between the brackets of a literal. -/
def body? : Text → Option Text
  | first :: rest =>
    match closing? first with
    | some close => if rest.getLast? = some close then some rest.dropLast else none
    | none => none
  | [] => none

def split (raw : Text) : Except Fault (List Element) :=
  match body? raw with
  | none => .error (.notLiteral raw)
  | some body =>
    if (Text.trim body).isEmpty then .ok []
    else
      let (found, last) := pieces .outside body
      if last.quote.isSome then .error (.unterminatedQuote raw)
      else if !last.awaited.isEmpty then .error (.unbalanced raw)
      else .ok (found.map unquote)

end RowStream.ArrayLiteral
