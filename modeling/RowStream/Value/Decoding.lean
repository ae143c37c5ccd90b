import RowStream.Calendar.Literal
import RowStream.ColumnType.Tag

/-! Decoding: the value that a token of a record has under its column's type. -/
namespace RowStream

namespace ColumnType

def failed (text : Text) (type : ColumnType) (reason : DecodeReason) : Error :=
  .value (.decode text type reason)

/-- The least and the greatest integer of a width; no width and zero mean 64 bits. -/
def integerRange (a : Attributes) : Except Error (Int × Int) :=
  let width := match a.width with
    | some w => if w = 0 then 64 else w
    | none => 64
  if a.signed then
    if width < 1 then .error .negativeWidth
    else .ok (-(Nat.pow 2 (width - 1).toNat : Int), (Nat.pow 2 (width - 1).toNat : Int) - 1)
  else if width < 0 then .error .negativeWidth
  else .ok (0, (Nat.pow 2 width.toNat : Int) - 1)

def decodeInteger (a : Attributes) (text : Text) : Except Error Int :=
  let type := scalar .integer a
  match Numeral.integerDigits? text with
  | none => .error (failed text type .malformed)
  | some (negative, digits) =>
    if Text.digitLimit < digits.length then .error (.digitLimit digits.length)
    else do
      let i := Numeral.signed negative (Text.numberOf digits)
      let (low, high) ← integerRange a
      if low ≤ i ∧ i ≤ high then .ok i
      else if Text.isWritable low && Text.isWritable high then
        .error (failed text type (.range low high))
      else .error .unwritable

def decodeFloat (a : Attributes) (text : Text) : Except Error Binary64 :=
  match Binary64.parse? text with
  | some x => .ok x
  | none => .error (failed text (scalar .float a) .malformed)

/-- The digits that a decimal may have; the type's precision, or as many as are written. -/
def workingPrecision (precision : Option Int) (written : Nat) : Except Error Nat :=
  match precision with
  | some p => if p = 0 then .ok written else if p < 0 then .error .precisionLimit else .ok p.toNat
  | none => .ok written

/-- A decimal with the scale of its type, which has to hold every digit written. -/
def scaledDecimal (a : Attributes) (text : Text) (coefficient : Nat) (exponent scale : Int)
    (d : Decimal) : Except Error Decimal :=
  let type := scalar .decimal a
  if scale < -exponent then .error (failed text type (.fractionDigits scale))
  else
    match Decimal.unitExponent scale with
    | .error .invalid => .error (failed text type (.precision a.precision))
    | .error .overflow => .error (.decimal .overflow)
    | .ok target => do
      let precision ← workingPrecision a.precision (Decimal.digitCount coefficient)
      match d.withExponent precision .even target with
      | .ok d => .ok d
      | .error _ => .error (failed text type (.precision a.precision))

def decodeDecimal (a : Attributes) (text : Text) : Except Error Decimal :=
  match Numeral.parse? text with
  | none => .error (failed text (scalar .decimal a) .malformed)
  | some n =>
    match Decimal.ofNumeral n with
    | .error fault => .error (.decimal fault)
    | .ok d =>
      match a.scale with
      | none => .ok d
      | some scale => scaledDecimal a text n.coefficient n.scale scale d

def decodeBoolean (a : Attributes) (text : Text) : Except Error Bool :=
  match text with
  | ['t'] => .ok true
  | ['f'] => .ok false
  | _ => .error (failed text (scalar .boolean a) .malformed)

/-- The octets that pairs of hexadecimal digits denote. -/
def hexBytes? : Text → Option Bytes
  | [] => some []
  | high :: low :: rest =>
    if Text.isHexDigit high && Text.isHexDigit low then
      (hexBytes? rest).map fun bytes =>
        UInt8.ofNat (16 * Text.hexValue high + Text.hexValue low) :: bytes
    else none
  | [_] => none

def decodeBytes (a : Attributes) (text : Text) : Except Error Bytes :=
  let type := scalar .bytea a
  match text with
  | [] => .ok []
  | '\\' :: 'x' :: digits =>
    match hexBytes? digits with
    | some bytes => .ok bytes
    | none => .error (failed text type .oddHex)
  | _ => .error (failed text type .noHexMarker)

/-- The value of fields that a calendar accepts. -/
def accepted {α : Type} (text : Text) (type : ColumnType) (value : Except Calendar.Fault α) :
    Except Error α :=
  value.mapError fun fault => failed text type (.calendar fault)

def decodeDate (a : Attributes) (text : Text) : Except Error Date :=
  let type := scalar .date a
  match Calendar.date? text with
  | some fields => accepted text type fields.date
  | none => .error (failed text type .malformed)

def decodeTime (a : Attributes) (text : Text) : Except Error TimeOfDay :=
  let type := scalar .time a
  match Calendar.clock? text with
  | some fields => accepted text type fields.time
  | none => .error (failed text type .malformed)

variable [ZoneDatabase]

/-- The zone of a zoned timestamp: its own offset, else the one its type names, else UTC. -/
def timestampZone (offset : Option Int) (timezone : Option Text) : Except Calendar.Fault Zone :=
  match offset, timezone with
  | some seconds, _ => (UtcOffset.ofSeconds seconds).map .fixed
  | none, some name => Zone.ofName name
  | none, none => .ok .utc

def decodeTimestamp (zoned : Bool) (a : Attributes) (text : Text) : Except Error Timestamp :=
  let type := scalar (if zoned then .timestamptz else .timestamp) a
  match Calendar.timestamp? text with
  | none => .error (failed text type .malformed)
  | some fields =>
    if fields.offset.isSome ∧ ¬ zoned then .error (failed text type .offset)
    else accepted text type do
      let (date, time) ← fields.wall
      if zoned then
        let zone ← timestampZone fields.offset a.timezone
        return ⟨date, time, some zone, false⟩
      else return Timestamp.naive date time

/-- The value of a text without escapes. -/
def decodeScalar (kind : ScalarKind) (a : Attributes) (text : Text) : Except Error Value :=
  match kind with
  | .integer => .int <$> decodeInteger a text
  | .float => .float <$> decodeFloat a text
  | .decimal => .decimal <$> decodeDecimal a text
  | .text => .ok (.text text)
  | .boolean => .bool <$> decodeBoolean a text
  | .bytea => .bytes <$> decodeBytes a text
  | .date => .date <$> decodeDate a text
  | .time => (.time · none) <$> decodeTime a text
  | .timestamp => .timestamp <$> decodeTimestamp false a text
  | .timestamptz => .timestamp <$> decodeTimestamp true a text

/-- What a text to decode is: a token, which may be the one that stands for null, or a text
whose escapes are resolved already. -/
inductive Form where
  | token (null : Text)
  | text
  deriving DecidableEq, Repr

/-- The token that stands for null. A nested literal without a say of its own takes the usual. -/
def Form.nullToken : Form → Text
  | .token null => null
  | .text => Token.null

/-- An unquoted element that is null, whatever else stands for null. -/
def isNullElement (token : Text) : Bool := token = Token.null || token = "NULL".toList

/-- The elements' values, the leftmost failure first. -/
def decodeElements (decode : ArrayLiteral.Element → Except Error Value) :
    List ArrayLiteral.Element → Except Error (List Value)
  | [] => .ok []
  | e :: rest =>
    match decode e with
    | .error err => .error err
    | .ok v => (v :: ·) <$> decodeElements decode rest

/-- Decodes a text under a type. Arrays split their literal: a quoted element is a text of the
element type once its escapes are resolved, an unquoted one is a token. -/
def decodeAs : ColumnType → Form → Text → Except Error Value
  | .scalar kind a, .token null, raw =>
    if raw = null then .ok .null else decodeScalar kind a (Token.unescape raw)
  | .scalar kind a, .text, text => decodeScalar kind a text
  | .array element _, form, raw =>
    if raw = form.nullToken then .ok .null
    else
      match ArrayLiteral.split raw with
      | .error fault => .error (.value (.literal fault))
      | .ok elements =>
        .list <$> decodeElements
          (fun e =>
            if e.quoted then element.decodeAs .text (Token.unescape e.token)
            else if e.token = form.nullToken ∨ isNullElement e.token then .ok .null
            else element.decodeAs (.token form.nullToken) e.token)
          elements

/-- The value of a field's token. -/
def decode (type : ColumnType) (raw : Text) (null : Text := Token.null) : Except Error Value :=
  type.decodeAs (.token null) raw

/-- The value of a text whose escapes are resolved. -/
def decodeText (type : ColumnType) (text : Text) : Except Error Value := type.decodeAs .text text

end ColumnType

end RowStream
