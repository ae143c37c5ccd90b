import RowStream.Calendar.RegionTable
import RowStream.CommandLine.Basic
import RowStream.Dump

/-! What a run of the command reports. -/
namespace RowStream

/-- How a run of the command ends. Expected errors are reported, and the others escape. -/
inductive Ending where
  | done
  | misused
  | reported (e : Error)
  | escaped (e : Error)

/-- What a run prints, and how it ends. -/
structure Report where
  output : Text
  ending : Ending

namespace Report

/-- Errors that are expected of data, of settings and of files. -/
def isExpected : Error → Bool
  | .calendar .beyondCalendar | .calendar .namelessZone | .decimal _ | .beyondFloat | .logLevel _
  | .unreadable _ | .statement => false
  | .source (.runtime _) | .source .negativePieces => false
  | _ => true

def ofError (e : Error) : Ending := if isExpected e then .reported e else .escaped e

def ofDump (dump : Dump) : Report :=
  ⟨dump.lines.flatMap (· ++ ['\n']), match dump.failure with
    | none => .done
    | some e => ofError e⟩

end Report

namespace Command

def helpText (program : Text) : Text :=
  "usage: ".toList ++ program ++ " [-h] [--tz TZ] [--table TABLE] file

Decode a captured result stream and print one JSON object per row.

positional arguments:
  file           captured TabSeparatedWithNamesAndTypes response

options:
  -h, --help     show this help message and exit
  --tz TZ        zone for naive timestamps (default UTC)
  --table TABLE  table name reported in column metadata
".toList

/-- What opening a path gives. The name of a file holds no NUL. -/
def opened (path : Text) (content : Except FileFault Bytes) : Except FileFault Bytes :=
  if path.contains '\x00' then .error .nulInPath else content

/-- Runs a command on the content of its file. -/
def run [ZoneDatabase] (program : Text) (env : Environment) (content : Except FileFault Bytes) :
    Command → Report
  | .help => ⟨helpText program, .done⟩
  | .misuse => ⟨[], .misused⟩
  | .dump request =>
    match env.checkLevel, opened request.file content with
    | .error e, _ => ⟨[], Report.ofError e⟩
    | .ok _, .error fault => ⟨[], Report.ofError (.file fault)⟩
    | .ok _, .ok content => .ofDump (.ofContent env request.zone request.table content)

end Command

/-- The exit code. An error that escapes leaves none. -/
def Ending.exitCode? : Ending → Option Nat
  | .done => some 0
  | .reported _ => some 1
  | .misused => some 2
  | .escaped _ => none

end RowStream
