import RowStream.ColumnType.ScalarName

/-! Type tags: names with arguments, array and nullable types around them, and markers of
nullability behind them. -/
namespace RowStream

namespace ColumnType

/-- Takes a trailing marker of nullability off a run of words. -/
def splitMarker (words : List Text) : List Text × Option Bool :=
  match words.reverse with
  | last :: before :: rest =>
    if last = "null".toList then
      if before = "not".toList then (rest.reverse, some false)
      else ((before :: rest).reverse, some true)
    else (words, none)
  | [last] => if last = "null".toList then ([], some true) else (words, none)
  | [] => ([], none)

/-- The words that a list of tokens begins with, and what follows them. -/
def takeWords (tokens : List TagToken) : List Text × List TagToken :=
  ((tokens.takeWhile TagToken.isWord).filterMap TagToken.word?, tokens.dropWhile TagToken.isWord)

/-- The text of the next token; empty at the end. -/
def nextText (tokens : List TagToken) : Text := (tokens.head?.map TagToken.text).getD []

def parseArgument : TagToken → Except TagFault TagArgument
  | .number digits =>
    if Text.digitLimit < digits.length then .error (.digitLimit digits.length)
    else .ok (.number (Text.decimalNumber digits))
  | .quoted t => .ok (.text t)
  | token => .error (.badArgument token.text)

/-- The arguments up to the closing parenthesis, and what follows it. -/
def parseArguments : List TagToken → Except TagFault (List TagArgument × List TagToken)
  | [] => .error (.badArgument [])
  | token :: rest =>
    match parseArgument token, rest with
    | .error fault, _ => .error fault
    | .ok argument, .mark ')' :: rest => .ok ([argument], rest)
    | .ok argument, .mark ',' :: rest =>
      match parseArguments rest with
      | .error fault => .error fault
      | .ok (arguments, rest) => .ok (argument :: arguments, rest)
    | .ok _, rest => .error (.missingSeparator (nextText rest))

def expectClosing : List TagToken → Except TagFault (List TagToken)
  | .mark ')' :: rest => .ok rest
  | rest => .error (.expected ')' (nextText rest))

/-- The marker behind a type, which is only read where no marker stood before its arguments. -/
def withTrailingMarker (marker : Option Bool) (t : ColumnType) (tokens : List TagToken) :
    Except TagFault (ColumnType × List TagToken) :=
  let marked (marker : Option Bool) : ColumnType := (marker.map t.withNullable).getD t
  let (trailing, rest) := takeWords tokens
  match trailing with
  | [] => .ok (marked marker, rest)
  | _ :: _ =>
    let (others, trailingMarker) := splitMarker trailing
    if others ≠ [] ∨ marker ≠ none then
      .error (.unexpected (Text.joined [' '] trailing))
    else .ok (marked trailingMarker, rest)

theorem length_takeWords_le (tokens : List TagToken) :
    (takeWords tokens).2.length ≤ tokens.length :=
  (List.dropWhile_suffix TagToken.isWord).length_le

/-- The types that are written around another one. -/
def isWrapper (name : Text) : Bool := name = "array".toList || name = "nullable".toList

def wrap (name : Text) (inner : ColumnType) : ColumnType :=
  if name = "array".toList then .array inner {} else inner.withNullable true

variable [ZoneDatabase]

def scalarOfName (name : Text) (arguments : List TagArgument) : Except TagFault ColumnType :=
  match ScalarFamily.ofName? name with
  | none => .error (.unknownName name)
  | some family => family.build name arguments

/-- One type at the front of a list of tokens, and what follows it. -/
def parse (tokens : List TagToken) : Except TagFault (ColumnType × List TagToken) :=
  let (names, marker) := splitMarker (takeWords tokens).1
  let name := Text.joined [' '] names
  if names.isEmpty then .error .missingName
  else
    match marker, opened : (takeWords tokens).2 with
    | none, .mark '(' :: inner =>
      if isWrapper name then do
        have : inner.length < tokens.length := by
          have := length_takeWords_le tokens
          rw [opened, List.length_cons] at this
          omega
        let (element, rest) ← parse inner
        withTrailingMarker none (wrap name element) (← expectClosing rest)
      else do
        let (arguments, rest) ← parseArguments inner
        withTrailingMarker none (← scalarOfName name arguments) rest
    | marker, rest =>
      if isWrapper name then .error (.missingElement name)
      else do withTrailingMarker marker (← scalarOfName name []) rest
termination_by tokens.length

/-- The type of all the tokens. -/
def ofTokens : List TagToken → Except TagFault ColumnType
  | [] => .error .empty
  | tokens => do
    match ← parse tokens with
    | (t, []) => pure t
    | (_, token :: _) => throw (.unexpected token.text)

/-- The type that a tag names. -/
def ofTag (tag : Text) : Except Error ColumnType :=
  match (TagToken.ofTag tag).mapError TagFault.unexpectedCharacter >>= ofTokens with
  | .ok t => .ok t
  | .error (.digitLimit digits) => .error (.digitLimit digits)
  | .error fault => .error (.unsupportedType tag fault)

end ColumnType

end RowStream
