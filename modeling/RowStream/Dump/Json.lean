import RowStream.Cursor.Access

/-! JSON documents for rows, and their text, which is ASCII on one line. -/
namespace RowStream.Dump

inductive Json where
  | null
  | bool (b : Bool)
  | int (i : Int)
  | float (x : Binary64)
  | text (t : Text)
  | list (items : List Json)
  | object (fields : List (Text × Json))

namespace Json

/-- The UTF-16 units of a character. -/
def units (c : Char) : List Nat :=
  if c.toNat < 0x10000 then [c.toNat]
  else
    let rest := c.toNat - 0x10000
    [0xd800 + rest / 0x400, 0xdc00 + rest % 0x400]

/-- A character inside quotes. Printable ASCII stands for itself. -/
def escapeChar (c : Char) : Text :=
  if c = '"' || c = '\\' then ['\\', c]
  else if c = '\n' then ['\\', 'n']
  else if c = '\r' then ['\\', 'r']
  else if c = '\t' then ['\\', 't']
  else if c.toNat = 0x08 then ['\\', 'b']
  else if c.toNat = 0x0c then ['\\', 'f']
  else if ' ' ≤ c && c ≤ '~' then [c]
  else (units c).flatMap fun u => '\\' :: 'u' :: Text.hex 4 u

def quoted (t : Text) : Text := '"' :: t.flatMap escapeChar ++ ['"']

def separator : Text := [',', ' ']

mutual

def print : Json → Text
  | .null => "null".toList
  | .bool b => (if b then "true" else "false").toList
  | .int i => Text.ofInt i
  | .float x => x.textAs .long
  | .text t => quoted t
  | .list items => '[' :: Text.joined separator (printAll items) ++ [']']
  | .object fields => '{' :: Text.joined separator (printFields fields) ++ ['}']

def printAll : List Json → List Text
  | [] => []
  | item :: rest => item.print :: printAll rest

def printFields : List (Text × Json) → List Text
  | [] => []
  | (name, item) :: rest => (quoted name ++ ':' :: ' ' :: item.print) :: printFields rest

end

mutual

/-- Bytes become hexadecimal text with a marker, decimals and calendar values their own text. -/
def ofValue : Value → Json
  | .null => .null
  | .bool b => .bool b
  | .int i => .int i
  | .float x => .float x
  | .decimal d => .text d.text
  | .text t => .text t
  | .bytes b => .text ('\\' :: 'x' :: Text.hexOfBytes b)
  | .buffer b => .text ('\\' :: 'x' :: Text.hexOfBytes b)
  | .date d => .text d.isoText
  | .time t offset =>
    .text (t.isoText ++ (offset.map fun o => UtcOffset.isoText o.seconds).getD [])
  | .timestamp t => .text (t.isoText 'T')
  | .list values => .list (ofValues values)

def ofValues : List Value → List Json
  | [] => []
  | v :: rest => ofValue v :: ofValues rest

end

def ofRow (row : Cursor.Row) : Json := .object (row.map fun field => (field.1, ofValue field.2))

end Json

end RowStream.Dump
