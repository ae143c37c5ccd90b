import RowStream.Proofs.Response.Arrival

/-! Lines found by searching a buffer for line feeds, each of which is held to the run of
backslashes before it. A search that comes to the end of the buffer is taken up again from there.
Such a buffer gives the lines that a line buffer gives, whatever is asked of the two. -/
namespace RowStream

/-- One byte after the other, the flag tells the run of backslashes that the line under way ends
with. -/
theorem LineBuffer.escaped_scan {line : Bytes} {escaped : Bool}
    (flag : escaped = Lines.escapes line) (ahead : Bytes) :
    (scan line escaped ahead).2.escaped = Lines.escapes (scan line escaped ahead).2.line := by
  fun_induction scan line escaped ahead with
  | case1 line escaped => exact flag
  | case2 line b rest ih => exact ih (by simp [← flag])
  | case3 line escaped rest free => rfl
  | case4 line escaped b rest free other ih => exact ih (by simp [← flag, free])

/-- Bytes received and not yet delivered, and the place from where they are to be searched. -/
structure SearchBuffer where
  bytes : Bytes
  start : Nat
  deriving DecidableEq, Repr

namespace SearchBuffer

def empty : SearchBuffer := ⟨[], 0⟩

/-- The place of the first line feed from `start` on. -/
def find? (bytes : Bytes) (start : Nat) : Option Nat :=
  ((bytes.drop start).findIdx? (· = lineFeed)).map (start + ·)

/-- The length of the run of backslashes that ends before a place, counted backwards from there. -/
def slashesBefore (bytes : Bytes) : Nat → Nat
  | 0 => 0
  | i + 1 => if bytes[i]? = some backslash then slashesBefore bytes i + 1 else 0

def isEscaped (bytes : Bytes) (i : Nat) : Bool := slashesBefore bytes i % 2 = 1

theorem bounds_of_find? {bytes : Bytes} {start i : Nat} (found : find? bytes start = some i) :
    start ≤ i ∧ i < bytes.length := by
  obtain ⟨k, place, rfl⟩ := Option.map_eq_some_iff.1 found
  obtain ⟨inside, -⟩ := List.findIdx?_eq_some_iff_getElem.1 place
  rw [List.length_drop] at inside
  omega

/-- Cuts a line off at the first line feed that is not escaped. -/
def takeLine (s : SearchBuffer) : Option Bytes × SearchBuffer :=
  match found : find? s.bytes s.start with
  | none => (none, { s with start := s.bytes.length })
  | some i =>
    have := bounds_of_find? found
    if isEscaped s.bytes i then takeLine { s with start := i + 1 }
    else (some (s.bytes.take i), ⟨s.bytes.drop (i + 1), 0⟩)
termination_by s.bytes.length - s.start

theorem takeLine_eq (s : SearchBuffer) :
    s.takeLine =
      match find? s.bytes s.start with
      | none => (none, { s with start := s.bytes.length })
      | some i =>
        if isEscaped s.bytes i then takeLine { s with start := i + 1 }
        else (some (s.bytes.take i), ⟨s.bytes.drop (i + 1), 0⟩) := by
  rw [takeLine]
  split <;> simp only [*]

def feed (s : SearchBuffer) (piece : Bytes) : SearchBuffer := { s with bytes := s.bytes ++ piece }

section Step

variable (line : Bytes) (b : UInt8) (rest : Bytes)

@[simp] theorem slashesBefore_reverse :
    slashesBefore (line.reverse ++ rest) line.length =
      (line.takeWhile (· = backslash)).length := by
  induction line generalizing rest with
  | nil => rfl
  | cons b line ih =>
    have before : (line.reverse ++ b :: rest)[line.length]? = some b := by
      rw [List.getElem?_append_right (by simp), List.length_reverse, Nat.sub_self]
      rfl
    rw [List.reverse_cons, List.append_assoc, List.singleton_append, List.length_cons,
      slashesBefore, before, ih]
    by_cases slash : b = backslash <;> simp [slash]

/-- The run counted backwards tells whether the bytes before a place take the byte there along. -/
@[simp] theorem isEscaped_reverse :
    isEscaped (line.reverse ++ rest) line.length = Lines.escapes line := by
  rw [isEscaped, slashesBefore_reverse, Lines.escapes]

@[simp] theorem find?_lineFeed :
    find? (line.reverse ++ lineFeed :: rest) line.length = some line.length := by
  simp [find?, List.findIdx?_cons]

theorem find?_other (other : b ≠ lineFeed) :
    find? (line.reverse ++ b :: rest) line.length =
      find? ((b :: line).reverse ++ rest) (b :: line).length := by
  rw [find?, find?, List.drop_left' line.length_reverse, List.drop_left' (b :: line).length_reverse,
    List.findIdx?_cons, if_neg (by simpa using other), Option.map_map]
  refine congrArg (fun f => Option.map f _) (funext fun k => ?_)
  rw [Function.comp_apply, List.length_cons]
  omega

theorem takeLine_end :
    takeLine ⟨line.reverse, line.length⟩ = (none, ⟨line.reverse, line.length⟩) := by
  have empty : line.reverse.drop line.length = [] := List.drop_eq_nil_of_le (by simp)
  rw [takeLine_eq, find?, empty, line.length_reverse]
  rfl

theorem takeLine_escaped (taken : Lines.escapes line = true) :
    takeLine ⟨line.reverse ++ lineFeed :: rest, line.length⟩ =
      takeLine ⟨(lineFeed :: line).reverse ++ rest, (lineFeed :: line).length⟩ := by
  rw [← isEscaped_reverse line (lineFeed :: rest)] at taken
  simp only [takeLine_eq ⟨line.reverse ++ lineFeed :: rest, line.length⟩, find?_lineFeed, taken,
    if_true, List.reverse_cons, List.append_assoc, List.singleton_append, List.length_cons]

theorem takeLine_lineFeed (free : Lines.escapes line = false) :
    takeLine ⟨line.reverse ++ lineFeed :: rest, line.length⟩ = (some line.reverse, ⟨rest, 0⟩) := by
  rw [← isEscaped_reverse line (lineFeed :: rest)] at free
  have left : (line.reverse ++ lineFeed :: rest).take line.length = line.reverse :=
    List.take_left' line.length_reverse
  have right : (line.reverse ++ lineFeed :: rest).drop (line.length + 1) = rest := by
    rw [← List.drop_drop, List.drop_left' line.length_reverse]
    rfl
  simp only [takeLine_eq ⟨line.reverse ++ lineFeed :: rest, line.length⟩, find?_lineFeed, free,
    Bool.false_eq_true, if_false, left, right]

/-- A byte that is no line feed is passed over. -/
theorem takeLine_other (other : b ≠ lineFeed) :
    takeLine ⟨line.reverse ++ b :: rest, line.length⟩ =
      takeLine ⟨(b :: line).reverse ++ rest, (b :: line).length⟩ := by
  have same := find?_other line b rest other
  have bytes : (b :: line).reverse ++ rest = line.reverse ++ b :: rest := by simp
  rw [bytes] at same ⊢
  rw [takeLine_eq, takeLine_eq]
  dsimp only
  rw [same]

end Step

/-- The bytes of both buffers are the same, and the search begins behind the line under way. -/
structure Mirrors (s : SearchBuffer) (b : LineBuffer) : Prop where
  bytes : s.bytes = b.line.reverse ++ b.ahead
  start : s.start = b.line.length
  escaped : b.escaped = Lines.escapes b.line

theorem mirrors_empty : Mirrors empty .empty := ⟨rfl, rfl, rfl⟩

theorem Mirrors.length_eq {s : SearchBuffer} {b : LineBuffer} (h : s.Mirrors b) :
    s.bytes.length = b.length := by
  rw [h.bytes, List.length_append, List.length_reverse, LineBuffer.length]

theorem Mirrors.feed {s : SearchBuffer} {b : LineBuffer} (h : s.Mirrors b) (piece : Bytes) :
    (s.feed piece).Mirrors (b.feed piece) := by
  refine ⟨?_, h.start, h.escaped⟩
  rw [SearchBuffer.feed, h.bytes, List.append_assoc]
  rfl

/-- One byte after the other: the search stops at a line feed only, which it takes for an end
exactly if the flag is down. -/
theorem takeLine_eq_scan {line : Bytes} {escaped : Bool} (flag : escaped = Lines.escapes line)
    (ahead : Bytes) :
    takeLine ⟨line.reverse ++ ahead, line.length⟩ =
      ((LineBuffer.scan line escaped ahead).1,
        ⟨(LineBuffer.scan line escaped ahead).2.line.reverse ++
            (LineBuffer.scan line escaped ahead).2.ahead,
          (LineBuffer.scan line escaped ahead).2.line.length⟩) := by
  fun_induction LineBuffer.scan line escaped ahead with
  | case1 line escaped =>
    rw [List.append_nil]
    exact takeLine_end line
  | case2 line b rest ih =>
    have passed : false = Lines.escapes (b :: line) := by simp [← flag]
    rw [← ih passed]
    by_cases feed : b = lineFeed
    · subst feed
      exact takeLine_escaped line rest flag.symm
    · exact takeLine_other line b rest feed
  | case3 line escaped rest free =>
    exact takeLine_lineFeed line rest (flag.symm.trans (eq_false_of_ne_true free))
  | case4 line escaped b rest free other ih =>
    have passed : decide (b = backslash) = Lines.escapes (b :: line) := by simp [← flag, free]
    rw [← ih passed]
    exact takeLine_other line b rest other

theorem Mirrors.takeLine {s : SearchBuffer} {b : LineBuffer} (h : s.Mirrors b) :
    s.takeLine.1 = b.takeLine.1 ∧ s.takeLine.2.Mirrors b.takeLine.2 := by
  obtain ⟨bytes, start⟩ := s
  obtain rfl : bytes = _ := h.bytes
  obtain rfl : start = _ := h.start
  rw [takeLine_eq_scan h.escaped]
  exact ⟨rfl, rfl, rfl, LineBuffer.escaped_scan h.escaped b.ahead⟩

end SearchBuffer

/-- What is done with a buffer: bytes are added to it, or it is asked for a line. -/
inductive BufferStep where
  | feed (piece : Bytes)
  | takeLine
  deriving DecidableEq, Repr

/-- The lines that a buffer gives when it is asked, and how many bytes it then still holds. -/
def LineBuffer.answers : LineBuffer → List BufferStep → List (Option Bytes × Nat)
  | _, [] => []
  | b, .feed piece :: steps => (b.feed piece).answers steps
  | b, .takeLine :: steps => (b.takeLine.1, b.takeLine.2.length) :: b.takeLine.2.answers steps

namespace SearchBuffer

@[inherit_doc LineBuffer.answers]
def answers : SearchBuffer → List BufferStep → List (Option Bytes × Nat)
  | _, [] => []
  | s, .feed piece :: steps => (s.feed piece).answers steps
  | s, .takeLine :: steps =>
    (s.takeLine.1, s.takeLine.2.bytes.length) :: s.takeLine.2.answers steps

/-- Whether bytes are searched for line feeds or looked at one after the other, the same lines are
cut off them. -/
theorem answers_eq (steps : List BufferStep) :
    empty.answers steps = LineBuffer.empty.answers steps := by
  suffices h : ∀ {s : SearchBuffer} {b : LineBuffer}, s.Mirrors b →
      s.answers steps = b.answers steps from h mirrors_empty
  induction steps with
  | nil => exact fun _ => rfl
  | cons step steps ih =>
    intro s b h
    cases step with
    | feed piece => exact ih (h.feed piece)
    | takeLine =>
      obtain ⟨same, after⟩ := h.takeLine
      rw [answers, LineBuffer.answers, same, after.length_eq, ih after]

end SearchBuffer

end RowStream
