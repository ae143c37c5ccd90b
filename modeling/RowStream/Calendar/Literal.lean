import RowStream.Calendar.Timestamp

/-! The written form of dates, times and offsets, field by field. Whether the fields are those of
an existing date or time is left open. -/
namespace RowStream.Calendar

/-- Exactly `count` ASCII digits as a number, and what follows them. -/
def takeNumber? (count : Nat) (t : Text) : Option (Nat × Text) :=
  let digits := (t.take count).filterMap Text.digit?
  if digits.length = count then some (Text.numberOf digits, t.drop count) else none

def takeChar? (c : Char) : Text → Option Text
  | d :: rest => if d = c then some rest else none
  | [] => none

structure DateFields where
  year : Nat
  month : Nat
  day : Nat
  deriving DecidableEq, Repr

structure ClockFields where
  hour : Nat
  minute : Nat
  second : Nat
  microsecond : Nat
  deriving DecidableEq, Repr

def takeDate? (t : Text) : Option (DateFields × Text) := do
  let (year, t) ← takeNumber? 4 t
  let (month, t) ← takeNumber? 2 (← takeChar? '-' t)
  let (day, t) ← takeNumber? 2 (← takeChar? '-' t)
  return (⟨year, month, day⟩, t)

/-- Microseconds of a fraction's digits; further digits are cut off. -/
def microseconds (digits : List Nat) : Nat :=
  Text.numberOf ((digits ++ List.replicate 6 0).take 6)

/-- An optional fraction of one to nine digits. -/
def takeFraction? : Text → Option (Nat × Text)
  | '.' :: t =>
    let digits := (t.takeWhile Char.isDigit).filterMap Text.digit?
    if digits.length < 1 ∨ 9 < digits.length then none
    else some (microseconds digits, t.dropWhile Char.isDigit)
  | t => some (0, t)

def takeClock? (t : Text) : Option (ClockFields × Text) := do
  let (hour, t) ← takeNumber? 2 t
  let (minute, t) ← takeNumber? 2 (← takeChar? ':' t)
  let (second, t) ← takeNumber? 2 (← takeChar? ':' t)
  let (microsecond, t) ← takeFraction? t
  return (⟨hour, minute, second, microsecond⟩, t)

def date? (t : Text) : Option DateFields := do
  let (fields, []) ← takeDate? t | none
  return fields

def clock? (t : Text) : Option ClockFields := do
  let (fields, []) ← takeClock? t | none
  return fields

def skipColon : Text → Text
  | ':' :: t => t
  | t => t

/-- Hours with optional minutes and seconds, with or without colons, as seconds. -/
def offsetSize? (t : Text) : Option Nat := do
  let (hours, t) ← takeNumber? 2 t
  if t.isEmpty then return 3600 * hours
  let (minutes, t) ← takeNumber? 2 (skipColon t)
  if t.isEmpty then return 3600 * hours + 60 * minutes
  let (seconds, []) ← takeNumber? 2 (skipColon t) | none
  return 3600 * hours + 60 * minutes + seconds

/-- An offset that is the whole text: a `Z`, or a sign and a size. -/
def offset? : Text → Option Int
  | ['Z'] => some 0
  | '+' :: t => (offsetSize? t).map fun n => (n : Int)
  | '-' :: t => (offsetSize? t).map fun n => -(n : Int)
  | _ => none

structure TimestampFields where
  date : DateFields
  clock : ClockFields
  offset : Option Int
  deriving DecidableEq, Repr

/-- A date and a time, with a space or a `T` between them, and an optional offset. -/
def timestamp? (t : Text) : Option TimestampFields := do
  let (date, separator :: t) ← takeDate? t | none
  if separator ≠ ' ' ∧ separator ≠ 'T' then none
  let (clock, t) ← takeClock? t
  if t.isEmpty then return ⟨date, clock, none⟩
  return ⟨date, clock, some (← offset? t)⟩

def DateFields.date (f : DateFields) : Except Fault Date := Date.ofFields f.year f.month f.day

def ClockFields.time (f : ClockFields) : Except Fault TimeOfDay :=
  TimeOfDay.ofFields f.hour f.minute f.second f.microsecond

/-- The date and the time, the date checked first. -/
def TimestampFields.wall (f : TimestampFields) : Except Fault (Date × TimeOfDay) := do
  return (← f.date.date, ← f.clock.time)

end RowStream.Calendar
