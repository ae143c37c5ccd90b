import RowStream.Calendar.Zone
import RowStream.CommandLine.Argument

/-! The command that a list of arguments makes up. -/
namespace RowStream

/-- The file to dump, the zone of timestamps that carry none, and the table's name. The table may
be asked for without a name. -/
structure Request where
  file : Text
  zone : ZoneChoice
  table : Option Text
  deriving DecidableEq, Repr

inductive Command where
  | help
  | misuse
  | dump (request : Request)
  deriving DecidableEq, Repr

namespace Command

/-- What the arguments read so far say. `stray` holds once one of them is of no use. -/
structure Draft where
  file : Option Text := none
  zone : ZoneChoice := .unspecified
  table : Option Text := some []
  stray : Bool := false

/-- The first text is the file, and there is no use for another. -/
def Draft.addText (d : Draft) (t : Text) : Draft :=
  match d.file with
  | none => { d with file := some t }
  | some _ => { d with stray := true }

/-- All arguments left are texts. -/
def Draft.addTexts (d : Draft) (ts : List Text) : Draft := ts.foldl Draft.addText d

def Draft.command (d : Draft) : Command :=
  match d.file with
  | some file => if d.stray then .misuse else .dump ⟨file, d.zone, d.table⟩
  | none => .misuse

/-- The text that is attached to a flag. A terminator stands for none. -/
def attachedText (t : Text) : Option Text :=
  if t = Argument.terminatorText then none else some t

def Draft.setValue (d : Draft) (flag : Flag) (value : Option Text) : Draft :=
  match flag, value with
  | .help, _ => d
  | .zone, none => { d with zone := .nameless }
  | .zone, some name => { d with zone := .named name }
  | .table, name => { d with table := name }

/-- Takes the arguments one by one. Help is given as soon as it is asked for. A terminator has to
stand next to the file, before or after it. -/
def take (d : Draft) : List Text → Command
  | [] => d.command
  | t :: rest =>
    match Argument.ofText t with
    | .plain t =>
      match d.file, rest with
      | none, ['-', '-'] :: rest => ((d.addText t).addTexts rest).command
      | _, rest => take (d.addText t) rest
    | .terminator =>
      match d.file with
      | none => (d.addTexts rest).command
      | some _ => .misuse
    | .ambiguous => .misuse
    | .unknown => take { d with stray := true } rest
    | .flag .help attached => if attached.isSome then .misuse else .help
    | .flag flag (some value) => take (d.setValue flag (attachedText value)) rest
    | .flag flag none =>
      match rest with
      | [] => .misuse
      | value :: rest =>
        match Argument.ofText value with
        | .plain value => take (d.setValue flag (some value)) rest
        | _ => .misuse

/-- Up to a terminator, nothing may be ambiguous. -/
def hasAmbiguity (arguments : List Text) : Bool :=
  (arguments.takeWhile (· ≠ Argument.terminatorText)).any fun t => Argument.ofText t = .ambiguous

def ofArguments (arguments : List Text) : Command :=
  if hasAmbiguity arguments then .misuse else take {} arguments

/-- The file that a command reads. -/
def file? : Command → Option Text
  | .dump request => some request.file
  | _ => none

end Command

end RowStream
