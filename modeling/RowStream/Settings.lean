import RowStream.Error

/-! Settings taken from environment variables. -/
namespace RowStream

/-! The names that the logging facility defines. -/

namespace Logging

def levelNames : List Text :=
  ["CRITICAL", "DEBUG", "ERROR", "FATAL", "INFO", "NOTSET", "WARN", "WARNING"].map String.toList

/-- Switches that count as levels when they are named in the place of one. -/
def switchNames : List Text :=
  ["logMultiprocessing", "logProcesses", "logThreads", "raiseExceptions"].map String.toList

/-- The parts of the facility and its operations. They may be named too and set no level. -/
def partNames : List Text :=
  ["BASIC_FORMAT", "BufferingFormatter", "FileHandler", "Filter", "Filterer", "Formatter",
    "GenericAlias", "Handler", "LogRecord", "Logger", "LoggerAdapter", "Manager", "NullHandler",
    "PercentStyle", "PlaceHolder", "RootLogger", "StrFormatStyle", "StreamHandler",
    "StringTemplateStyle", "Template", "addLevelName", "atexit", "basicConfig", "captureWarnings",
    "collections", "critical", "currentframe", "debug", "disable", "error", "exception", "fatal",
    "getLevelName", "getLevelNamesMapping", "getLogRecordFactory", "getLogger", "getLoggerClass",
    "info", "io", "lastResort", "log", "makeLogRecord", "os", "re", "root",
    "setLogRecordFactory", "setLoggerClass", "shutdown", "sys", "threading", "time",
    "traceback", "warn", "warning", "warnings", "weakref"].map String.toList

/-- Whether a level may be asked for by a name. -/
def isName (t : Text) : Bool :=
  levelNames.contains t || switchNames.contains t || partNames.contains t

end Logging

/-- The variables that are looked at, where they are set. -/
structure Environment where
  bufferSize : Option Text := none
  logStream : Option Text := none
  logLevel : Option Text := none
  deriving DecidableEq, Repr, Inhabited

namespace Environment

/-- Blanks that may surround an integer; information separators may not. -/
def isPadding (c : Char) : Bool := Text.isBlank c && !(0x1c ≤ c.toNat && c.toNat ≤ 0x1f)

/-- Digits of any script, a single underscore allowed between two of them, and nothing else. -/
def integerDigits? : Text → Option (List Nat)
  | [] => none
  | [c] => (Text.decimalDigit? c).map ([·])
  | c :: '_' :: rest => do
    let d ← Text.decimalDigit? c
    return d :: (← integerDigits? rest)
  | c :: rest => do
    let d ← Text.decimalDigit? c
    return d :: (← integerDigits? rest)

/-- What the digits of an integer are written with. -/
def isNumeric (c : Char) : Bool := (Text.decimalDigit? c).isSome || c = '_'

/-- An integer with an optional sign and blanks around it. Too many digits are a fault whatever
follows them. -/
def integer (text : Text) : Except Error Int :=
  let invalid : Error := .bufferSize ((Text.quoted text).take 200)
  let (negative, rest) := Numeral.takeSign (text.dropWhile isPadding)
  match integerDigits? (rest.takeWhile isNumeric) with
  | none => .error invalid
  | some digits =>
    if Text.digitLimit < digits.length then .error (.digitLimit digits.length)
    else if (rest.dropWhile isNumeric).all isPadding then
      .ok (Numeral.signed negative (Text.numberOf digits))
    else .error invalid

def defaultBufferSize : Int := 65536

/-- The number of bytes to read at a time. -/
def readSize (e : Environment) : Except Error Int :=
  match e.bufferSize with
  | some text => integer text
  | none => .ok defaultBufferSize

/-- The size asked for, unless it is zero or none is. -/
def pieceSize (e : Environment) (asked : Option Int) : Except Error Int :=
  match asked with
  | some n => if n = 0 then e.readSize else .ok n
  | none => e.readSize

/-- Whether the bytes read are logged. -/
def logsStream (e : Environment) : Bool :=
  Text.upper (e.logStream.getD []) = "TRUE".toList

def level (e : Environment) : Text := e.logLevel.getD "WARNING".toList

def checkLevel (e : Environment) : Except Error Unit :=
  if Logging.isName e.level then .ok () else .error (.logLevel e.level)

end Environment

end RowStream
