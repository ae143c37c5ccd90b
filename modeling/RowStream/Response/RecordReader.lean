import RowStream.Response.LineBuffer
import RowStream.Source.Basic

/-! Reading a response: a line of column names, a line of type tags, then a line for each row. -/
namespace RowStream

/-- The column names and type tags of a response, as many of one as of the other. -/
structure Header where
  names : List Text
  tags : List Text
  deriving DecidableEq, Repr

/-- A source being read. One record may have been looked at ahead of its turn, or the end seen. -/
structure RecordReader (σ : Type) where
  source : σ
  buffer : LineBuffer
  atEnd : Bool
  header : Option Header
  peeked : Option (Option (List Text))
  recordsRead : Nat
  deriving DecidableEq, Repr

namespace RecordReader

variable {σ : Type} [Source σ]

def of (source : σ) : RecordReader σ := ⟨source, .empty, false, none, none, 0⟩

/-- The text of a line's bytes. -/
def lineText (bytes : Bytes) : Except Error (Option Text) :=
  match Utf8.decode bytes with
  | .ok line => .ok (some line)
  | .error fault => .error (.format (.notUtf8 fault))

/-- What the end of the source means: no more lines, or a line cut short. -/
def endOfLines (buffer : LineBuffer) : Except Error (Option Text) :=
  if buffer.line.isEmpty then .ok none
  else .error (.format (.unterminated buffer.line.length))

/-- The next line. The source is read only while no whole line is there, and never again once it
has ended. -/
def readLine (r : RecordReader σ) : Except Error (Option Text) × RecordReader σ :=
  match r.buffer.takeLine with
  | (some bytes, buffer) => (lineText bytes, { r with buffer })
  | (none, buffer) =>
    if r.atEnd then (endOfLines buffer, { r with buffer })
    else
      match given : Source.read r.source with
      | (.error fault, source) => (.error (.ofSource fault), { r with source, buffer })
      | (.ok [], source) => (endOfLines buffer, { r with source, buffer, atEnd := true })
      | (.ok (b :: piece), source) =>
        have := Source.size_lt_of_read given
        readLine { r with source, buffer := buffer.feed (b :: piece) }
termination_by Source.size r.source

/-- The header that two lines make up. -/
def headerOf (namesLine tagsLine : Text) : Except Error Header :=
  let names := (Record.split namesLine).map Token.unescape
  let tags := (Record.split tagsLine).map Token.unescape
  if names.length = tags.length then .ok ⟨names, tags⟩
  else .error (.format (.headerMismatch names.length tags.length))

/-- The header, read once. A source without any bytes has one without columns. -/
def readHeader (r : RecordReader σ) : Except Error Header × RecordReader σ :=
  match r.header with
  | some header => (.ok header, r)
  | none =>
    match r.readLine with
    | (.error e, r) => (.error e, r)
    | (.ok none, r) => (.ok ⟨[], []⟩, { r with header := some ⟨[], []⟩ })
    | (.ok (some namesLine), r) =>
      match r.readLine with
      | (.error e, r) => (.error e, r)
      | (.ok none, r) => (.error (.format .missingTypeLine), r)
      | (.ok (some tagsLine), r) =>
        match headerOf namesLine tagsLine with
        | .error e => (.error e, r)
        | .ok header => (.ok header, { r with header := some header })

/-- The tokens of a line, one for each column. -/
def recordOf (row columns : Nat) (line : Text) : Except Error (Option (List Text)) :=
  let tokens := Record.split line
  if tokens.length = columns then .ok (some tokens)
  else .error (.format (.fieldCount row tokens.length columns))

/-- The record after those read; none at the end. -/
def readRecord (r : RecordReader σ) : Except Error (Option (List Text)) × RecordReader σ :=
  match r.readHeader with
  | (.error e, r) => (.error e, r)
  | (.ok header, r) =>
    match r.readLine with
    | (.error e, r) => (.error e, r)
    | (.ok none, r) => (.ok none, r)
    | (.ok (some line), r) => (recordOf (r.recordsRead + 1) header.names.length line, r)

/-- The peeked record if there is one, else the next. -/
def takeRecord (r : RecordReader σ) : Except Error (Option (List Text)) × RecordReader σ :=
  match r.peeked with
  | some record => (.ok record, { r with peeked := none })
  | none => r.readRecord

/-- The next record; none at the end. -/
def next (r : RecordReader σ) : Except Error (Option (List Text)) × RecordReader σ :=
  match r.takeRecord with
  | (.ok (some record), r) => (.ok (some record), { r with recordsRead := r.recordsRead + 1 })
  | (result, r) => (result, r)

/-- The next record, kept for its turn. -/
def peek (r : RecordReader σ) : Except Error (Option (List Text)) × RecordReader σ :=
  match r.peeked with
  | some record => (.ok record, r)
  | none =>
    match r.readRecord with
    | (.ok record, r) => (.ok record, { r with peeked := some record })
    | (.error e, r) => (.error e, r)

end RecordReader

end RowStream
