import RowStream.Text.Basic

/-! Bytes received and not yet delivered, cut at line feeds that no backslash takes along. -/
namespace RowStream

def lineFeed : UInt8 := 0x0a

def backslash : UInt8 := 0x5c

/-- The bytes of the line under way, the latest first; whether the latest is a backslash that
takes the next byte along; and the bytes not looked at yet. -/
structure LineBuffer where
  line : Bytes
  escaped : Bool
  ahead : Bytes
  deriving DecidableEq, Repr

namespace LineBuffer

def empty : LineBuffer := ⟨[], false, []⟩

def length (b : LineBuffer) : Nat := b.line.length + b.ahead.length

/-- Looks at bytes until a line ends, and gives that line without its line feed. -/
def scan (line : Bytes) (escaped : Bool) : Bytes → Option Bytes × LineBuffer
  | [] => (none, ⟨line, escaped, []⟩)
  | b :: rest =>
    if escaped then scan (b :: line) false rest
    else if b = lineFeed then (some line.reverse, ⟨[], false, rest⟩)
    else scan (b :: line) (b = backslash) rest

def takeLine (b : LineBuffer) : Option Bytes × LineBuffer := scan b.line b.escaped b.ahead

def feed (b : LineBuffer) (piece : Bytes) : LineBuffer := { b with ahead := b.ahead ++ piece }

theorem length_scan (line : Bytes) (escaped : Bool) (ahead : Bytes) :
    (scan line escaped ahead).2.length + (if (scan line escaped ahead).1.isSome then 1 else 0)
      ≤ line.length + ahead.length := by
  induction ahead generalizing line escaped with
  | nil => simp [scan, length]
  | cons b rest ih =>
    simp only [scan]
    split
    · have := ih (b :: line) false
      simp only [List.length_cons] at this ⊢
      omega
    · split
      · simp [length]
      · have := ih (b :: line) (b = backslash)
        simp only [List.length_cons] at this ⊢
        omega

theorem length_takeLine_of_some {b b' : LineBuffer} {line : Bytes}
    (h : b.takeLine = (some line, b')) : b'.length < b.length := by
  have := length_scan b.line b.escaped b.ahead
  rw [takeLine] at h
  simp only [h, Option.isSome_some, if_true] at this
  simp only [length] at this ⊢
  omega

theorem length_takeLine_of_none {b b' : LineBuffer} (h : b.takeLine = (none, b')) :
    b'.length ≤ b.length := by
  have := length_scan b.line b.escaped b.ahead
  rw [takeLine] at h
  simp only [h] at this
  simp only [length] at this ⊢
  omega

end LineBuffer

end RowStream
