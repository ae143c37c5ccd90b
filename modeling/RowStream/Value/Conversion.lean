import RowStream.Value.Decoding

/-! Conversions of a value that is not null to the type a reader asks for. Texts are read
strictly, as fields of that type. -/
namespace RowStream

namespace Value

def unsupported (value : Value) (target : Target) : Error :=
  value.refusal (.convert value target)

def longInteger : Attributes := { width := some 64 }

def doubleFloat : Attributes := { width := some 64 }

/-- Numbers lose their fraction, truth values count as one and zero. -/
def toInt (value : Value) : Except Error Int :=
  match value with
  | .bool b => .ok (if b then 1 else 0)
  | .int i => .ok i
  | .float x => truncated x.truncate?
  | .decimal d => truncated d.truncate?
  | .text t => ColumnType.decodeInteger longInteger (Text.trim t)
  | value => .error (value.unsupported .int)
where
  truncated : Option Int → Except Error Int
    | some i => .ok i
    | none => .error (value.unsupported .int)

def toFloat (value : Value) : Except Error Binary64 :=
  match value with
  | .bool b => ofInt (if b then 1 else 0)
  | .int i => ofInt i
  | .float x => .ok x
  | .decimal d =>
    match Binary64.ofDecimal? d with
    | some x => .ok x
    | none => .error .signalingNan
  | .text t => ColumnType.decodeFloat doubleFloat (Text.trim t)
  | value => .error (value.unsupported .float)
where
  ofInt (i : Int) : Except Error Binary64 :=
    match Binary64.ofInt? i with
    | some x => .ok x
    | none => .error .beyondFloat

/-- The decimal of a number, with the digits that it is written with. -/
def exactDecimal (value : Value) : Except Error Decimal :=
  match value with
  | .bool b => .ok (Decimal.ofInt (if b then 1 else 0))
  | .int i => .ok (Decimal.ofInt i)
  | .decimal d => .ok d
  | .float x =>
    match x.toDecimal? with
    | some d => .ok d
    | none => .error (value.unsupported .decimal)
  | .text t => ColumnType.decodeDecimal {} (Text.trim t)
  | value => .error (value.unsupported .decimal)

/-- A decimal, with the given number of digits after the point where one is given. A half is
rounded away from zero. -/
def toDecimal (value : Value) (places : Option Int) : Except Error Decimal := do
  let d ← value.exactDecimal
  match places with
  | none => return d
  | some places =>
    match d.rescale Decimal.defaultPrecision .away places with
    | .ok d => return d
    | .error .invalid => throw (.value (.rescale d places))
    | .error .overflow => throw (.decimal .overflow)

/-- Spellings of truth values, in any letter case. -/
def truth? (t : Text) : Option Bool :=
  let t := Text.lower t
  if t = "t".toList ∨ t = "true".toList ∨ t = "1".toList then some true
  else if t = "f".toList ∨ t = "false".toList ∨ t = "0".toList then some false
  else none

/-- Numbers are true unless they are zero. -/
def toBool (value : Value) : Except Error Bool :=
  match value with
  | .bool b => .ok b
  | .int i => .ok (i ≠ 0)
  | .float x => .ok !x.isZero
  | .decimal (.finite _ c _) => .ok (c ≠ 0)
  | .decimal (.nan _ true) => .error (.decimal .invalid)
  | .decimal _ => .ok true
  | .text t =>
    match truth? (Text.trim t) with
    | some b => .ok b
    | none => .error (value.unsupported .boolean)
  | value => .error (value.unsupported .boolean)

def toBytes (value : Value) : Except Error Bytes :=
  match value with
  | .bytes b => .ok b
  | .text t => .ok (Utf8.encode t)
  | value => .error (value.unsupported .bytes)

variable [ZoneDatabase]

/-- The date in the value's own frame. The caller's zone has to be known, but moves nothing. -/
def toDate (value : Value) (choice : ZoneChoice) : Except Error Date := do
  match value with
  | .date d => inZone d
  | .timestamp t => inZone t.date
  | .text t => inZone (← ColumnType.decodeDate {} (Text.trim t))
  | value => throw (value.unsupported .date)
where
  inZone (d : Date) : Except Error Date :=
    match choice.zone with
    | .ok _ => .ok d
    | .error fault => .error (.calendar fault)

/-- The time of day in UTC. A time without a date is that of the first of January 1970. -/
def toTime (value : Value) (choice : ZoneChoice) : Except Error TimeOfDay := do
  match value with
  | .time t offset => inUtc ⟨.epoch, t, offset.map .fixed, false⟩
  | .timestamp t => inUtc t
  | .text t => inUtc (Timestamp.naive .epoch (← ColumnType.decodeTime {} (Text.trim t)))
  | value => throw (value.unsupported .time)
where
  inUtc (t : Timestamp) : Except Error TimeOfDay :=
    (t.utcTime choice).mapError Error.calendar

/-- A text as a timestamp without a zone or, failing that, with one. -/
def textTimestamp (t : Text) : Except Error Timestamp :=
  match ColumnType.decodeTimestamp false {} t with
  | .ok t => .ok t
  | .error _ => ColumnType.decodeTimestamp true {} t

/-- The instant in UTC. A date stands for its midnight. -/
def toTimestamp (value : Value) (choice : ZoneChoice) : Except Error Timestamp := do
  match value with
  | .timestamp t => inUtc t
  | .date d => inUtc (Timestamp.naive d .midnight)
  | .text t => inUtc (← textTimestamp (Text.trim t))
  | value => throw (value.unsupported .timestamp)
where
  inUtc (t : Timestamp) : Except Error Timestamp := (t.inUtc choice).mapError Error.calendar

def toList (value : Value) : Except Error (List Value) :=
  match value with
  | .list values => .ok values
  | value => .error (value.unsupported .array)

end Value

end RowStream
