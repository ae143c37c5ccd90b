import RowStream.Text.Basic

/-! Arguments of the command line, each told by its look: flags, texts and the terminator. -/
namespace RowStream

/-- The flags there are. All but the one for help are followed by a value. -/
inductive Flag where
  | help
  | zone
  | table
  deriving DecidableEq, Repr

/-- No spelling begins another one. -/
def Flag.spellings : List (Text × Flag) :=
  [("--help".toList, .help), ("--tz".toList, .zone), ("--table".toList, .table)]

inductive Argument where
  | plain (text : Text)
  | terminator
  | flag (flag : Flag) (attached : Option Text)
  | ambiguous
  | unknown
  deriving DecidableEq, Repr

namespace Argument

def terminatorText : Text := ['-', '-']

/-- The part before the first equals sign, and the part after it if there is one. -/
def splitAssignment (t : Text) : Text × Option Text :=
  match t.dropWhile (· ≠ '=') with
  | [] => (t, none)
  | _ :: value => (t.takeWhile (· ≠ '='), some value)

/-- What is attached to the letter that asks for help. That letter itself may follow it, as often as
one likes and behind an equals sign too, and is nothing attached. -/
def attachedToLetter : Text → Option Text
  | [] => none
  | c :: rest =>
    let letters := if c = '=' then rest else c :: rest
    if letters ≠ [] ∧ letters.all (· = 'h') then none else some letters

/-- The flags that a text may mean, each with what is attached to it. Spellings may be cut short,
and a single dash and a letter ask for help. -/
def meanings : Text → List (Flag × Option Text)
  | '-' :: '-' :: name =>
    let (name, attached) := splitAssignment ('-' :: '-' :: name)
    (Flag.spellings.filter fun s => name.isPrefixOf s.1).map fun s => (s.2, attached)
  | '-' :: 'h' :: letters => [(.help, attachedToLetter letters)]
  | _ => []

/-- A minus sign and digits, perhaps with a point among them. A line feed may follow. -/
def isNegativeNumber (t : Text) : Bool :=
  match if t.getLast? = some '\n' then t.dropLast else t with
  | '-' :: rest =>
    let isDigit (c : Char) : Bool := (Text.decimalDigit? c).isSome
    match rest.dropWhile isDigit with
    | [] => !rest.isEmpty
    | '.' :: fraction => !fraction.isEmpty && fraction.all isDigit
    | _ => false
  | _ => false

/-- Tells flags from texts. A flag may be cut short as long as only one can be meant. What begins
with a dash and is no flag is a text if it is a number or holds a space. -/
def ofText (t : Text) : Argument :=
  if t.head? ≠ some '-' ∨ t = ['-'] then .plain t
  else if t = terminatorText then .terminator
  else
    match meanings t with
    | [(f, attached)] => .flag f attached
    | _ :: _ :: _ => .ambiguous
    | [] => if isNegativeNumber t || t.contains ' ' then .plain t else .unknown

end Argument

end RowStream
