import RowStream.ColumnType.Tag

/-! Encoding: the token that writes a value as a field of a column's type. -/
namespace RowStream

namespace ColumnType

/-- The text of a value that the scalar kind admits, without escapes. Integers stand for floats
and decimals too, a timestamp for its date, and truth values for nothing but booleans. -/
def renderScalar (kind : ScalarKind) (a : Attributes) (value : Value) : Except Error Text :=
  match kind, value with
  | .boolean, .bool b => .ok [if b then 't' else 'f']
  | .integer, .int i => if Text.isWritable i then .ok (Text.ofInt i) else .error .unwritable
  | .float, .float x => .ok x.text
  | .float, .int i =>
    match Binary64.ofInt? i with
    | some x => .ok x.text
    | none => .error .beyondFloat
  | .decimal, .decimal d => .ok d.fixedText
  | .decimal, .int i => .ok (Text.ofInt i)
  | .text, .text t => .ok t
  | .bytea, .bytes bytes | .bytea, .buffer bytes =>
    .ok (if bytes.isEmpty then [] else '\\' :: 'x' :: Text.hexOfBytes bytes)
  | .date, .date d => .ok d.isoText
  | .date, .timestamp t => .ok t.date.isoText
  | .time, .time t _ => .ok t.isoText
  | .timestamp, .timestamp t | .timestamptz, .timestamp t => .ok (t.isoText ' ')
  | kind, value => .error (value.refusal (.encode value (.scalar kind a)))

/-- An element that is null. -/
def nullElement : Text := "NULL".toList

/-- A text between double quotes, those inside it escaped. -/
def quotedElement (escaped : Text) : Text :=
  '"' :: escaped.flatMap (fun c => if c = '"' then ['\\', '"'] else [c]) ++ ['"']

/-- The texts of elements, the leftmost failure first. -/
def encodeElements (encode : Value → Except Error Text) : List Value → Except Error (List Text)
  | [] => .ok []
  | v :: rest =>
    match encode v with
    | .error err => .error err
    | .ok t => (t :: ·) <$> encodeElements encode rest

/-- The text of an element of an array. Texts stand in quotes, everything else without. -/
def encodeElement : ColumnType → Value → Except Error Text
  | _, .null => .ok nullElement
  | .scalar kind a, value => do
    let escaped := Token.escape (← renderScalar kind a value)
    return if kind = .text then quotedElement escaped else escaped
  | .array element _, .list values => do
    let parts ← encodeElements element.encodeElement values
    return '{' :: Text.joined [','] parts ++ ['}']
  | type@(.array ..), value => .error (value.refusal (.encodeArray value type))

/-- The token of a value. -/
def encode (type : ColumnType) (value : Value) : Except Error Text :=
  match type, value with
  | _, .null => .ok Token.null
  | .scalar kind a, value => Token.escape <$> renderScalar kind a value
  | type, value => type.encodeElement value

/-- The line of a row, its values and types taken in pairs. -/
def encodeRow (values : List Value) (types : List ColumnType) : Except Error Text :=
  Record.join <$> tokens values types
where
  tokens : List Value → List ColumnType → Except Error (List Text)
    | [], [] => .ok []
    | [], _ :: _ => .error (.rowLength true)
    | _ :: _, [] => .error (.rowLength false)
    | v :: values, t :: types =>
      match t.encode v with
      | .error err => .error err
      | .ok token => (token :: ·) <$> tokens values types

end ColumnType

end RowStream
