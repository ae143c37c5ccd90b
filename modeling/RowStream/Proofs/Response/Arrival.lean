import Mathlib.Order.Bounds.Defs
import RowStream.Proofs.Response.Transcript
import RowStream.Proofs.Response.Calls

/-! A line is waited for only as long as its line feed is not there. -/
namespace RowStream

namespace Lines

/-- Whether bytes, the latest first, take the next one along: by the number of backslashes that they
end with. -/
def escapes (before : Bytes) : Bool := (before.takeWhile (· = backslash)).length % 2 = 1

/-- How many line feeds end a line, each told by the bytes before it. -/
def terminatorsAfter (before : Bytes) : Bytes → Nat
  | [] => 0
  | b :: more =>
    (if b = lineFeed ∧ ¬escapes before then 1 else 0) + terminatorsAfter (b :: before) more

def terminators (bytes : Bytes) : Nat := terminatorsAfter [] bytes

@[simp] theorem escapes_cons (b : UInt8) (before : Bytes) :
    escapes (b :: before) = (decide (b = backslash) && !escapes before) := by
  by_cases slash : b = backslash
  · have grown : ((b :: before).takeWhile (· = backslash)).length =
        (before.takeWhile (· = backslash)).length + 1 := by
      simp [slash]
    rw [escapes, escapes, grown, decide_eq_true slash, Bool.true_and, ← decide_not]
    apply decide_eq_decide.2
    omega
  · simp [escapes, slash]

theorem length_ended_extend (bytes : Bytes) (l : Lines) :
    (l.extend bytes).ended.length = l.ended.length := by
  obtain ⟨_ | ⟨line, more⟩, rest⟩ := l <;> rfl

/-- The cut from left to right ends a line at the same line feeds. -/
theorem length_ended_resume (before bytes : Bytes) :
    (resume (escapes before) bytes).ended.length = terminatorsAfter before bytes := by
  induction bytes generalizing before with
  | nil => cases escapes before <;> rfl
  | cons b more ih =>
    rw [terminatorsAfter, ← ih]
    cases taken : escapes before with
    | true =>
      have free : escapes (b :: before) = false := by simp [taken]
      rw [resume_escaped, length_ended_extend, free, if_neg (by simp), Nat.zero_add]
    | false =>
      have next : escapes (b :: before) = (b = backslash : Bool) := by simp [taken]
      by_cases ends : b = lineFeed
      · have plain : escapes (lineFeed :: before) = false := by rw [escapes_cons]; rfl
        rw [ends, resume_lineFeed, plain, if_pos (by simp)]
        exact Nat.add_comm _ _
      · rw [resume_plain ends, length_ended_extend, next, if_neg (by simp [ends]), Nat.zero_add]

theorem length_ended_cut (bytes : Bytes) : (cut bytes).ended.length = terminators bytes :=
  length_ended_resume [] bytes

theorem extend_ne_nil {bytes : Bytes} (some : bytes ≠ []) (l : Lines) : l.extend bytes ≠ nil := by
  intro none
  obtain ⟨_ | ⟨line, more⟩, rest⟩ := l
  · exact some (List.append_eq_nil_iff.1 (congrArg Lines.rest none)).1
  · cases congrArg Lines.ended none

theorem eq_nil_of_cut {bytes : Bytes} (none : cut bytes = nil) : bytes = [] := by
  cases bytes with
  | nil => rfl
  | cons b more =>
    exfalso
    by_cases ends : b = lineFeed
    · have cons := resume_lineFeed more
      rw [← ends] at cons
      cases congrArg Lines.ended (cons.symm.trans none)
    · exact extend_ne_nil (List.cons_ne_nil b []) _ ((resume_plain ends more).symm.trans none)

end Lines

namespace Watched

def reads {σ : Type} (s : Watched σ) : Nat :=
  s.calls.countP fun
    | .read _ => true
    | .close _ | .statement => false

/-- The piece that is read is the first one left. -/
theorem read_pieces {s s' : Watched ScriptSource} {left : List Bytes} {b : UInt8} {piece : Bytes}
    (script : s.inner.script = left.map .ok) (given : Source.read s = (.ok (b :: piece), s')) :
    ∃ rest, left = (b :: piece) :: rest ∧ s'.inner.script = rest.map .ok ∧
      s'.reads = s.reads + 1 := by
  have grown : s'.reads = s.reads + 1 := by
    rw [reads, calls_read given, List.countP_append]
    rfl
  obtain ⟨⟨script, closeFails, closed⟩, calls⟩ := s
  dsimp only at script
  subst script
  cases left with
  | nil => cases given
  | cons first rest =>
    cases given
    exact ⟨rest, rfl, rfl, grown⟩

theorem drain_pieces {pieces : List Bytes} (nonempty : [] ∉ pieces) (closeFails : Bool) :
    Source.drain (of (ScriptSource.ofScript (pieces.map .ok) closeFails)) =
      (pieces.flatten, none) := by
  rw [← preserves_inner.drain_eq, of, ScriptSource.ofScript, ScriptSource.drain_eq,
    ScriptSource.content_pieces nonempty]

end Watched

namespace RecordReader

/-- The pieces of `done` have been read and `taken` lines given; the buffer has what else the pieces
come to. -/
structure Reading (pieces : List Bytes) (taken : Nat) (done left : List Bytes)
    (r : RecordReader (Watched ScriptSource)) : Prop where
  split : pieces = done ++ left
  script : r.source.inner.script = left.map .ok
  reads : r.source.reads = done.length
  atEnd : r.atEnd = false
  count : ∀ more,
    Lines.terminators (done.flatten ++ more) = taken + (r.buffer.lines more).ended.length

/-- How many lines end in the first so many pieces. -/
def arrived (pieces : List Bytes) (m : Nat) : Nat := Lines.terminators (pieces.take m).flatten

/-- So many lines were given, and no read was made that they did not need. -/
def Prompt (pieces : List Bytes) (taken : Nat) (r : RecordReader (Watched ScriptSource)) : Prop :=
  ∃ done left, Reading pieces taken done left r ∧ ∀ m < done.length, arrived pieces m < taken

variable {pieces done left : List Bytes} {taken : Nat} {r : RecordReader (Watched ScriptSource)}

theorem Reading.arrived_eq (h : Reading pieces taken done left r) :
    arrived pieces done.length = taken + (r.buffer.lines []).ended.length := by
  rw [arrived, h.split, List.take_left, ← h.count, List.append_nil]

theorem isLeast_of_prompt (h : Prompt pieces taken r) :
    IsLeast {m | taken ≤ arrived pieces m} r.source.reads := by
  obtain ⟨done, left, reading, needed⟩ := h
  rw [reading.reads]
  constructor
  · change taken ≤ arrived pieces done.length
    rw [reading.arrived_eq]
    exact Nat.le_add_right _ _
  · intro m enough
    rcases Nat.lt_or_ge m done.length with fewer | others
    · exact absurd enough (Nat.not_le.2 (needed m fewer))
    · exact others

theorem prompt_of (pieces : List Bytes) (closeFails : Bool) :
    Prompt pieces 0 (.of (.of (.ofScript (pieces.map .ok) closeFails))) := by
  refine ⟨[], pieces, ⟨rfl, rfl, rfl, rfl, ?_⟩, ?_⟩
  · intro more
    rw [of, LineBuffer.lines_empty, Lines.length_ended_cut, Nat.zero_add]
    rfl
  · intro m fewer
    cases fewer

/-- Until a line is given, all line ends that came in are those of the lines before. -/
theorem prompt_of_reading {text : Text} (h : Reading pieces taken done left r)
    (needed : ∀ m < done.length, arrived pieces m ≤ taken)
    (answer : r.readLine.1 = .ok (some text)) : Prompt pieces (taken + 1) r.readLine.2 := by
  fun_induction readLine r generalizing done left with
  | case1 r bytes buffer found =>
    refine ⟨done, left, ⟨h.split, h.script, h.reads, h.atEnd, ?_⟩, ?_⟩
    · intro more
      rw [h.count, LineBuffer.lines_of_takeLine_some found, Lines.cons, List.length_cons,
        Nat.add_right_comm]
      rfl
    · intro m fewer
      exact Nat.lt_succ_of_le (needed m fewer)
  | case2 r buffer found ended =>
    rw [h.atEnd] at ended
    cases ended
  | case3 => cases answer
  | case4 r buffer => exact absurd answer (endOfLines_ne_some buffer text)
  | case5 r buffer found going b piece source given _ ih =>
    obtain ⟨rest, rfl, script, reads⟩ := Watched.read_pieces h.script given
    have fed : Reading pieces taken (done ++ [b :: piece]) rest
        { r with source, buffer := buffer.feed (b :: piece) } := by
      refine ⟨?_, script, ?_, h.atEnd, ?_⟩
      · rw [h.split, List.append_assoc]
        rfl
      · rw [reads, h.reads, List.length_append]
        rfl
      · intro more
        rw [List.flatten_append, List.append_assoc, h.count,
          LineBuffer.lines_of_takeLine_none found, LineBuffer.lines_feed, List.flatten_singleton]
    refine ih fed ?_ answer
    -- the read was needed, since no line end has come in after those of the lines given
    intro m fewer
    rw [List.length_append, List.length_singleton] at fewer
    rcases Nat.lt_succ_iff_lt_or_eq.1 fewer with fewer | rfl
    · exact needed m fewer
    · rw [h.arrived_eq, LineBuffer.lines_nil_of_takeLine_none found]
      exact Nat.le_refl _

theorem prompt_readLine {text : Text} (h : Prompt pieces taken r)
    (answer : r.readLine.1 = .ok (some text)) : Prompt pieces (taken + 1) r.readLine.2 := by
  obtain ⟨done, left, reading, needed⟩ := h
  exact prompt_of_reading reading (fun m fewer => Nat.le_of_lt (needed m fewer)) answer

/-- A record past the header is one line. -/
theorem prompt_next {header : Header} {tokens : List Text} (ready : r.Ready header)
    (h : Prompt pieces taken r) (answer : r.next.1 = .ok (some tokens)) :
    r.next.2.Ready header ∧ Prompt pieces (taken + 1) r.next.2 := by
  have after := ready_readLine ready
  rw [next, takeRecord_of_ready ready] at answer ⊢
  cases line : r.readLine.1 with
  | error e =>
    rw [line] at answer
    cases answer
  | ok text =>
    cases text with
    | none =>
      rw [line] at answer
      cases answer
    | some text =>
      obtain ⟨done, left, reading, needed⟩ := prompt_readLine h line
      by_cases fits : (Record.split text).length = header.names.length
      · simp only [recordOf, if_pos fits]
        exact ⟨⟨after.header_eq, after.peeked_eq⟩, done, left,
          ⟨reading.split, reading.script, reading.reads, reading.atEnd, reading.count⟩, needed⟩
      · simp only [line, recordOf, if_neg fits] at answer
        cases answer

/-- A header that is not read yet is made up of two lines, unless the response is empty. -/
theorem readHeader_cases {σ : Type} [Source σ] {r : RecordReader σ} {header : Header}
    (unread : r.header = none) (answer : r.readHeader.1 = .ok header) :
    (r.readLine.1 = .ok none ∧ header = ⟨[], []⟩) ∨
      ∃ names tags, r.readLine.1 = .ok (some names) ∧ r.readLine.2.readLine.1 = .ok (some tags) ∧
        headerOf names tags = .ok header ∧
        r.readHeader.2 = { r.readLine.2.readLine.2 with header := some header } := by
  rw [readHeader, unread] at answer ⊢
  generalize r.readLine = x at answer ⊢
  rcases x with ⟨e | _ | names, r'⟩
  · cases answer
  · exact .inl ⟨rfl, (Except.ok.inj answer).symm⟩
  · right
    dsimp only at answer ⊢
    generalize r'.readLine = x at answer ⊢
    rcases x with ⟨e | _ | tags, r''⟩
    · cases answer
    · cases answer
    · dsimp only at answer ⊢
      cases made : headerOf names tags with
      | error e =>
        rw [made] at answer
        cases answer
      | ok found =>
        rw [made] at answer
        cases answer
        exact ⟨names, tags, rfl, rfl, made, rfl⟩

theorem ready_readHeader {σ : Type} [Source σ] {r : RecordReader σ} {header : Header}
    (fresh : r.Fresh) (answer : r.readHeader.1 = .ok header) : r.readHeader.2.Ready header := by
  have read := headerRead_readHeader fresh
  rw [answer] at read
  cases read with
  | given ready => exact ready

/-- There is no line where all bytes are used up. -/
theorem lines_of_readLine_none {σ : Type} [Source σ] {r : RecordReader σ}
    (answer : r.readLine.1 = .ok none) : r.lines = .nil := by
  have read := lineRead_readLine r
  rw [texts, answer] at read
  generalize r.lines = lines at read ⊢
  rcases lines with ⟨_ | ⟨line, more⟩, rest⟩
  · rcases rest with _ | ⟨b, rest⟩
    · rfl
    · rcases failure : r.incoming.2 with _ | fault <;> rw [failure] at read <;> cases read
  · rw [Transcript.texts] at read
    cases text : Utf8.decode line with
    | error malformed =>
      rw [text] at read
      cases read
    | ok text' =>
      rw [text] at read
      cases read.1

theorem prompt_readHeader {header : Header} {closeFails : Bool} (nonempty : [] ∉ pieces)
    (some : pieces ≠ []) (answer : (of (Watched.of
      (ScriptSource.ofScript (pieces.map .ok) closeFails))).readHeader.1 = .ok header) :
    Prompt pieces 2 (of (Watched.of
      (ScriptSource.ofScript (pieces.map .ok) closeFails))).readHeader.2 := by
  rcases readHeader_cases rfl answer with ⟨none, -⟩ | ⟨names, tags, first, second, -, eq⟩
  · have drained := Watched.drain_pieces nonempty closeFails
    have empty : Lines.cut pieces.flatten = .nil := by
      have lines := lines_of_readLine_none none
      rwa [RecordReader.lines, incoming, of, drained, LineBuffer.lines_empty] at lines
    obtain ⟨piece, rest, rfl⟩ := List.exists_cons_of_ne_nil some
    obtain ⟨rfl, -⟩ := List.append_eq_nil_iff.1 (Lines.eq_nil_of_cut empty)
    exact absurd List.mem_cons_self nonempty
  · obtain ⟨done, left, reading, needed⟩ :=
      prompt_readLine (prompt_readLine (prompt_of pieces closeFails) first) second
    rw [eq]
    exact ⟨done, left,
      ⟨reading.split, reading.script, reading.reads, reading.atEnd, reading.count⟩, needed⟩

/-- The end of a response without pieces is found with the first read. -/
theorem reads_of_no_pieces (closeFails : Bool) :
    (of (Watched.of (ScriptSource.ofScript [] closeFails))).readHeader.2.source.reads = 1 := by
  rw [readHeader, readLine]
  rfl

end RecordReader

end RowStream
