import RowStream.Response.LineBuffer

/-! The lines of a whole response, cut without a buffer, and a line buffer as a view of them. -/
namespace RowStream

/-- Lines without their line feeds, and the bytes behind the last line feed. -/
structure Lines where
  ended : List Bytes
  rest : Bytes
  deriving DecidableEq, Repr

namespace Lines

def nil : Lines := ⟨[], []⟩

/-- Puts bytes in front of the first line. -/
def extend (bytes : Bytes) : Lines → Lines
  | ⟨[], rest⟩ => ⟨[], bytes ++ rest⟩
  | ⟨line :: more, rest⟩ => ⟨(bytes ++ line) :: more, rest⟩

/-- Puts a line in front. -/
def cons (line : Bytes) (l : Lines) : Lines := ⟨line :: l.ended, l.rest⟩

/-- From left to right, a backslash takes the next byte along, and every other line feed ends a
line. -/
def cut : Bytes → Lines
  | [] => nil
  | b :: more =>
    if b = backslash then
      match more with
      | [] => ⟨[], [b]⟩
      | c :: more => (cut more).extend [b, c]
    else if b = lineFeed then cons [] (cut more)
    else (cut more).extend [b]

/-- The cut of bytes whose first one a backslash takes along or not. -/
def resume : (escaped : Bool) → Bytes → Lines
  | false, bytes => cut bytes
  | true, [] => nil
  | true, b :: more => (cut more).extend [b]

@[simp] theorem extend_append (a b : Bytes) (l : Lines) :
    l.extend (a ++ b) = (l.extend b).extend a := by
  obtain ⟨ended, rest⟩ := l
  cases ended <;> simp [extend]

theorem extend_nil (l : Lines) : l.extend [] = l := by
  obtain ⟨ended, rest⟩ := l
  cases ended <;> rfl

theorem extend_cons (bytes line : Bytes) (l : Lines) :
    (cons line l).extend bytes = cons (bytes ++ line) l := rfl

theorem resume_escaped (b : UInt8) (more : Bytes) :
    resume true (b :: more) = (resume false more).extend [b] := rfl

theorem resume_lineFeed (more : Bytes) :
    resume false (lineFeed :: more) = cons [] (resume false more) := by
  rw [resume, cut.eq_def]
  rfl

theorem resume_plain {b : UInt8} (h : b ≠ lineFeed) (more : Bytes) :
    resume false (b :: more) = (resume (b = backslash) more).extend [b] := by
  by_cases hb : b = backslash
  · cases more with
    | nil => simp [resume, cut, hb, nil, extend]
    | cons c more =>
      rw [resume, cut.eq_def]
      simp only [hb, if_true, decide_true, resume]
      exact extend_append [backslash] [c] (cut more)
  · rw [resume, cut.eq_def]
    simp [hb, h, resume]

end Lines

namespace LineBuffer

/-- The lines that the buffer comes to once `more` has arrived. -/
def lines (b : LineBuffer) (more : Bytes) : Lines :=
  (Lines.resume b.escaped (b.ahead ++ more)).extend b.line.reverse

theorem lines_empty (bytes : Bytes) : empty.lines bytes = Lines.cut bytes :=
  Lines.extend_nil _

theorem lines_feed (b : LineBuffer) (piece more : Bytes) :
    (b.feed piece).lines more = b.lines (piece ++ more) := by
  simp [lines, feed]

/-- Looking at bytes changes nothing about what they come to. -/
theorem lines_scan (line : Bytes) (escaped : Bool) (ahead more : Bytes) :
    (⟨line, escaped, ahead⟩ : LineBuffer).lines more =
      match scan line escaped ahead with
      | (some ended, b) => .cons ended (b.lines more)
      | (none, b) => b.lines more := by
  induction ahead generalizing line escaped with
  | nil => rfl
  | cons b rest ih =>
    have step (e : Bool) : ((Lines.resume e (rest ++ more)).extend [b]).extend line.reverse =
        (⟨b :: line, e, rest⟩ : LineBuffer).lines more := by
      rw [lines, List.reverse_cons, Lines.extend_append]
    cases escaped with
    | true =>
      rw [scan, if_pos rfl, ← ih, ← step, lines, List.cons_append, Lines.resume_escaped]
    | false =>
      by_cases hb : b = lineFeed
      · subst hb
        simp [scan, lines, Lines.resume_lineFeed, Lines.extend_cons, Lines.extend_nil]
      · simp only [scan, Bool.false_eq_true, if_false, hb]
        rw [← ih, ← step, lines, List.cons_append, Lines.resume_plain hb]

theorem ahead_scan_of_none {line ahead : Bytes} {escaped : Bool} {b : LineBuffer}
    (h : scan line escaped ahead = (none, b)) : b.ahead = [] := by
  induction ahead generalizing line escaped with
  | nil =>
    simp only [scan, Prod.mk.injEq, true_and] at h
    rw [← h]
  | cons c rest ih =>
    simp only [scan] at h
    split at h
    · exact ih h
    · split at h
      · simp at h
      · exact ih h

theorem lines_of_takeLine_some {b b' : LineBuffer} {line : Bytes}
    (h : b.takeLine = (some line, b')) (more : Bytes) :
    b.lines more = .cons line (b'.lines more) := by
  have := lines_scan b.line b.escaped b.ahead more
  rw [show scan b.line b.escaped b.ahead = (some line, b') from h] at this
  exact this

theorem lines_of_takeLine_none {b b' : LineBuffer} (h : b.takeLine = (none, b'))
    (more : Bytes) : b.lines more = b'.lines more := by
  have := lines_scan b.line b.escaped b.ahead more
  rw [show scan b.line b.escaped b.ahead = (none, b') from h] at this
  exact this

/-- With nothing more to come, the bytes looked at are the rest. -/
theorem lines_nil_of_takeLine_none {b b' : LineBuffer} (h : b.takeLine = (none, b')) :
    b.lines [] = ⟨[], b'.line.reverse⟩ := by
  rw [lines_of_takeLine_none h, lines, ahead_scan_of_none h]
  cases b'.escaped <;> simp [Lines.resume, Lines.cut, Lines.nil, Lines.extend]

end LineBuffer

end RowStream
