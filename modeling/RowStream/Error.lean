import RowStream.ArrayLiteral
import RowStream.ColumnType.Basic
import RowStream.ColumnType.Tag.Token
import RowStream.Text.Utf8
import RowStream.Value.Basic

/-! What can go wrong, by cause, and the wording of each cause. -/
namespace RowStream

/-- The structure of a response is wrong. -/
inductive FormatFault where
  | missingTypeLine
  | headerMismatch (names tags : Nat)
  | fieldCount (row found expected : Nat)
  | unterminated (bytes : Nat)
  | notUtf8 (fault : Utf8.Fault)
  | reported (message : Text)
  deriving DecidableEq, Repr

inductive TagArgument where
  | number (n : Nat)
  | text (t : Text)
  deriving DecidableEq, Repr

/-- A type tag is unknown or malformed. A token found is empty at the end of the tag. -/
inductive TagFault where
  | empty
  | unexpectedCharacter (c : Char)
  | unexpected (found : Text)
  | expected (wanted : Char) (found : Text)
  | missingName
  | missingElement (name : Text)
  | badArgument (found : Text)
  | missingSeparator (found : Text)
  | unknownName (name : Text)
  | noArguments (name : Text)
  | integersOnly (name : Text)
  | atMostTwo (name : Text)
  | atMostOne (name : Text)
  | precision (precision : Nat)
  | scale (scale precision : Nat)
  | timestampArguments (name : Text) (arguments : List TagArgument)
  | fractionDigits (digits : Nat)
  | calendar (fault : Calendar.Fault)
  | digitLimit (digits : Nat)
  deriving DecidableEq, Repr

/-- Why a token is not a value of its type. -/
inductive DecodeReason where
  | malformed
  | range (low high : Int)
  | fractionDigits (scale : Int)
  | precision (precision : Option Int)
  | noHexMarker
  | oddHex
  | offset
  | calendar (fault : Calendar.Fault)
  deriving DecidableEq, Repr

/-- The types that accessors ask for. -/
inductive Target where
  | int
  | float
  | decimal
  | boolean
  | bytes
  | date
  | time
  | timestamp
  | array
  deriving DecidableEq, Repr

/-- A token or a value does not fit the type it is to have. -/
inductive ValueFault where
  | decode (text : Text) (type : ColumnType) (reason : DecodeReason)
  | literal (fault : ArrayLiteral.Fault)
  | encode (value : Value) (type : ColumnType)
  | encodeArray (value : Value) (type : ColumnType)
  | convert (value : Value) (target : Target)
  | rescale (value : Decimal) (places : Int)
  deriving Repr

/-- The cursor is not where the operation needs it. -/
inductive StateFault where
  | closed
  | beforeFirst
  | afterLast
  | nothingRead
  deriving DecidableEq, Repr

inductive LookupFault where
  | flag (b : Bool)
  | position (position : Int) (count : Nat)
  | unknownName (name : Text)
  deriving DecidableEq, Repr

/-- The classes of the engine's own errors, but for those of the format. -/
inductive EngineClass where
  | stream
  | unsupportedType
  | value
  | state
  | lookup
  | general
  deriving DecidableEq, Repr

/-- An error of the engine's own that a source reports. Without a word of its class it is one of the
stream. -/
structure Reported where
  message : Text
  errorClass : EngineClass := .stream
  deriving DecidableEq, Repr

instance : Coe Text Reported := ⟨fun message => { message }⟩

/-- What a source of bytes reports when a read or a close fails: an error of the engine's own, for
which the first two cases stand, or one of another kind. A size may be no index, negative where that
means nothing, or larger than a piece or the memory can be. -/
inductive SourceFault where
  | format (message : Text)
  | stream (reported : Reported)
  | connectionReset (message : Text)
  | runtime (message : Text)
  | closed
  | emptyPieces
  | negativePieces
  | sizeBeyondIndex
  | negativeSize
  | pieceTooLarge
  | outOfMemory
  | closeFailed
  deriving DecidableEq, Repr

/-- A file that could not be opened. -/
inductive FileFault where
  | notFound
  | isDirectory
  | notPermitted
  | nulInPath
  | pathTooLong
  deriving DecidableEq, Repr

/-- `unwritable` is an integer with too many digits to be written. -/
inductive Error where
  | format (fault : FormatFault)
  | unsupportedType (tag : Text) (fault : TagFault)
  | value (fault : ValueFault)
  | state (fault : StateFault)
  | lookup (fault : LookupFault)
  | stream (reported : Reported)
  | digitLimit (digits : Nat)
  | unwritable
  | calendar (fault : Calendar.Fault)
  | decimal (fault : Decimal.Fault)
  | negativeWidth
  | precisionLimit
  | signalingNan
  | beyondFloat
  | rowLength (tooFewValues : Bool)
  | bufferSize (text : Text)
  | logLevel (name : Text)
  | unreadable (kind : Text)
  | source (fault : SourceFault)
  | file (fault : FileFault)
  | namelessTable
  | statement
  deriving Repr

/-- The error of a fault whose message shows the value, which has to be writable for that. -/
def Value.refusal (value : Value) (fault : ValueFault) : Error :=
  if value.isWritable then .value fault else .unwritable

def FormatFault.message : FormatFault → Text
  | .missingTypeLine => "Response ended after the column names, type line missing".toList
  | .headerMismatch names tags =>
    "Header has ".toList ++ Text.ofNat names ++ " column names but ".toList ++ Text.ofNat tags
      ++ " type tags".toList
  | .fieldCount row found expected =>
    "Row ".toList ++ Text.ofNat row ++ " has ".toList ++ Text.ofNat found
      ++ " fields, expected ".toList ++ Text.ofNat expected
  | .unterminated bytes =>
    "Response ended mid-record (".toList ++ Text.ofNat bytes ++ " bytes unterminated)".toList
  | .notUtf8 fault => "Record is not valid UTF-8: ".toList ++ fault.message
  | .reported message => message

/-- The number of digits is said of an integer that is read. -/
def digitLimitMessage (digits : Option Nat) : Text :=
  "Exceeds the limit (".toList ++ Text.ofNat Text.digitLimit
    ++ " digits) for integer string conversion".toList
    ++ (digits.map fun n => ": value has ".toList ++ Text.ofNat n ++ " digits".toList).getD []
    ++ "; use sys.set_int_max_str_digits() to increase the limit".toList

def TagArgument.quoted : TagArgument → Text
  | .number n => Text.ofNat n
  | .text t => Text.quoted t

/-- The quoted form of a token found, which is empty at the end. -/
def foundText (found : Text) : Text :=
  Text.quoted (if found.isEmpty then "end".toList else found)

def TagFault.message : TagFault → Text
  | .empty => "empty type tag".toList
  | .unexpectedCharacter c => "unexpected character ".toList ++ Text.quoted [c]
  | .unexpected found => "unexpected ".toList ++ Text.quoted found
  | .expected wanted found =>
    "expected ".toList ++ Text.quoted [wanted] ++ ", got ".toList ++ foundText found
  | .missingName => "missing type name".toList
  | .missingElement name => name ++ " needs a type argument".toList
  | .badArgument found => "bad type argument ".toList ++ foundText found
  | .missingSeparator found => "expected ',' or ')', got ".toList ++ foundText found
  | .unknownName name => "unknown type ".toList ++ Text.quoted name
  | .noArguments name => name ++ " takes no arguments".toList
  | .integersOnly name => name ++ " arguments must be integers".toList
  | .atMostTwo name => name ++ " takes at most precision and scale".toList
  | .atMostOne name => name ++ " takes at most a length".toList
  | .precision p => "precision ".toList ++ Text.ofNat p ++ " out of range 1..76".toList
  | .scale s p =>
    "scale ".toList ++ Text.ofNat s ++ " out of range 0..".toList ++ Text.ofNat p
  | .timestampArguments name arguments =>
    "bad arguments for ".toList ++ name ++ ": [".toList
      ++ Text.joined [',', ' '] (arguments.map TagArgument.quoted) ++ [']']
  | .fractionDigits d =>
    "timestamp precision ".toList ++ Text.ofNat d ++ " out of range 0..9".toList
  | .calendar fault => fault.message
  | .digitLimit digits => digitLimitMessage (some digits)

/-- The text after the colon, where there is one. -/
def DecodeReason.message : DecodeReason → Option Text
  | .malformed => none
  | .range low high =>
    some ("out of range ".toList ++ Text.ofInt low ++ "..".toList ++ Text.ofInt high)
  | .fractionDigits scale =>
    some ("more than ".toList ++ Text.ofInt scale ++ " fractional digits".toList)
  | .precision p => some ("exceeds precision ".toList ++ ColumnType.numberText p)
  | .noHexMarker => some "missing '\\\\x' prefix".toList
  | .oddHex => some "not an even run of hex digits".toList
  | .offset => some "unexpected timezone offset".toList
  | .calendar fault => some fault.message

def Target.name : Target → Text
  | .int => "int".toList
  | .float => "float".toList
  | .decimal => "decimal".toList
  | .boolean => "boolean".toList
  | .bytes => "bytes".toList
  | .date => "date".toList
  | .time => "time".toList
  | .timestamp => "timestamp".toList
  | .array => "array".toList

def ValueFault.message : ValueFault → Text
  | .decode text type reason =>
    "Cannot decode ".toList ++ Text.quoted text ++ " as ".toList ++ type.name
      ++ (reason.message.map (": ".toList ++ ·)).getD []
  | .literal fault => fault.message
  | .encode value type =>
    "Cannot encode ".toList ++ value.kindName ++ " value ".toList ++ value.quoted
      ++ " as ".toList ++ type.name
  | .encodeArray value type =>
    "Cannot encode ".toList ++ value.quoted ++ " as ".toList ++ type.name
  | .convert value target =>
    "Cannot convert ".toList ++ value.kindName ++ " value ".toList ++ value.quoted
      ++ " to ".toList ++ target.name
  | .rescale value places =>
    "Cannot rescale ".toList ++ value.text ++ " to ".toList ++ Text.ofInt places
      ++ " digits".toList

def StateFault.message : StateFault → Text
  | .closed => "Cursor is closed".toList
  | .beforeFirst => "Cursor is before the first row; call advance() first".toList
  | .afterLast => "Cursor is after the last row".toList
  | .nothingRead => "No column value has been read successfully yet".toList

def LookupFault.message : LookupFault → Text
  | .flag b => "Invalid column reference ".toList ++ (Value.bool b).quoted
  | .position i count =>
    "Column index ".toList ++ Text.ofInt i ++ " out of range 1..".toList ++ Text.ofNat count
  | .unknownName name => "No column named ".toList ++ Text.quoted name

def SourceFault.message : SourceFault → Text
  | .format message => message
  | .stream reported => reported.message
  | .connectionReset message => message
  | .runtime message => message
  | .closed => "I/O operation on closed file.".toList
  | .emptyPieces => "range() arg 3 must not be zero".toList
  | .negativePieces => "list index out of range".toList
  | .sizeBeyondIndex => "cannot fit 'int' into an index-sized integer".toList
  | .negativeSize => "read length must be non-negative or -1".toList
  | .pieceTooLarge => "byte string is too large".toList
  | .outOfMemory => []
  | .closeFailed => []

def FileFault.message : FileFault → Text
  | .notFound => "There is no such file".toList
  | .isDirectory => "The file is a directory".toList
  | .notPermitted => "The file may not be read".toList
  | .nulInPath => "embedded null byte".toList
  | .pathTooLong => "The path is too long".toList

/-- The error that a reader of records reports for a failed read of its source. The engine's own
errors pass as they are. -/
def Error.ofSource : SourceFault → Error
  | .format message => .format (.reported message)
  | .stream reported => .stream reported
  | fault => .stream ("Failed to read response stream: ".toList ++ fault.message)

/-- The message of an error. Faults of decimal arithmetic have none. -/
def Error.message : Error → Text
  | .format fault => fault.message
  | .unsupportedType tag fault =>
    "Unsupported type tag ".toList ++ Text.quoted tag ++ ": ".toList ++ fault.message
  | .value fault => fault.message
  | .state fault => fault.message
  | .lookup fault => fault.message
  | .stream reported => reported.message
  | .digitLimit digits => digitLimitMessage (some digits)
  | .unwritable => digitLimitMessage none
  | .calendar fault => fault.message
  | .decimal _ => []
  | .negativeWidth => "negative shift count".toList
  | .precisionLimit => "valid range for prec is [1, MAX_PREC]".toList
  | .signalingNan => "cannot convert signaling NaN to float".toList
  | .beyondFloat => "int too large to convert to float".toList
  | .rowLength tooFewValues =>
    "zip() argument 2 is ".toList ++ (if tooFewValues then "longer" else "shorter").toList
      ++ " than argument 1".toList
  | .bufferSize text => "invalid literal for int() with base 10: ".toList ++ text
  | .logLevel name => "There is no log level ".toList ++ Text.quoted name
  | .unreadable kind => "Cannot read a result stream from ".toList ++ kind
  | .source fault => fault.message
  | .file fault => fault.message
  | .namelessTable => "A table has to have a name".toList
  | .statement => "statement close failed".toList

/-- The errors that the engine names itself; the others come from the arithmetic, the calendar,
the configuration and the collaborators. -/
def Error.isEngine : Error → Bool
  | .format _ | .unsupportedType .. | .value _ | .state _ | .lookup _ | .stream _ => true
  | .source (.format _) | .source (.stream _) => true
  | _ => false

end RowStream
