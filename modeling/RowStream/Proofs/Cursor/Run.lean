import RowStream.Calendar.RegionTable
import RowStream.Proofs.Cursor.Course
import RowStream.Proofs.Response.Ending
import RowStream.Proofs.Success

/-! Runs of a cursor over the records of its source, from opening to closing. -/
namespace RowStream

namespace Cursor

/-- The answer to a move. -/
def Event.moveAnswer? (e : Event) : Option (Except Error Answer) :=
  match e.operation with
  | .move _ => some e.answer
  | .access _ => none

/-- The row that a successful `advance` came to. -/
def Event.visited? (e : Event) : Option (List Text) :=
  match e.operation, e.answer with
  | .move .advance, .ok (.truth true) => e.row
  | _, _ => none

/-- The error with which `advance` or `isLast` ended the rows. -/
def Event.ending? (e : Event) : Option Error :=
  match e.operation, e.answer with
  | .move .advance, .error (.state _) | .move .isLast, .error (.state _) => none
  | .move .advance, .error fault | .move .isLast, .error fault => some fault
  | _, _ => none

/-- Neither a row nor the end of the rows shows in the answer. -/
def Quiet (op : Operation) (answer : Except Error Answer) : Prop :=
  ∀ row, Event.visited? ⟨op, answer, row⟩ = none ∧ Event.ending? ⟨op, answer, row⟩ = none

end Cursor

namespace Course

open Cursor (Move Answer Operation Quiet)

/-- An access leaves the course alone. -/
def after (a : Course) : Operation → Course
  | .move m => (a.move m).2
  | .access _ => a

theorem closed_after {a : Course} (h : a.place = .closed) (op : Operation) :
    (a.after op).place = .closed := by
  cases op with
  | access q => exact h
  | move m => cases m <;> simp [after, move, ask, h]

theorem closed_foldl {a : Course} (h : a.place = .closed) (ops : List Operation) :
    (ops.foldl after a).place = .closed := by
  induction ops generalizing a with
  | nil => exact h
  | cons op rest ih => exact ih (closed_after h op)

theorem ahead_of_closed {a : Course} (h : a.place = .closed) : a.ahead = [] := by
  rw [ahead, h]

/-- A failure is behind all rows, and it is one of the response or its source. -/
structure Sound (a : Course) : Prop where
  behind : a.failed = true → a.place = .afterLast ∨ a.place = .closed
  cause : a.failed = true → ∃ e, a.fault = some e
  ends : ∀ e, a.fault = some e → e.EndsRecords

/-- The error that the course has still to come to. -/
def toRaise (a : Course) : List Error := if a.failed then [] else a.fault.toList

/-- Everything that an operation can do to a course. -/
inductive Shift (a : Course) : Operation → Except Error Answer → Course → Prop where
  | stay {op : Operation} {answer : Except Error Answer} (quiet : Quiet op answer) :
    Shift a op answer a
  | visit {n : Nat} {passed more : List (List Text)} {tokens : List Text}
      (split : a.records = passed ++ tokens :: more) (number : n = passed.length + 1)
      (ahead : a.ahead = tokens :: more) (going : a.place ≠ .closed) :
    Shift a (.move .advance) (.ok (.truth true)) { a with place := .row n }
  | finish (ahead : a.ahead = []) (going : a.place ≠ .closed) :
    Shift a (.move .advance) (.ok (.truth false)) { a with place := .afterLast }
  | fail {m : Move} {e : Error} (asked : m = .advance ∨ m = .isLast) (ahead : a.ahead = [])
      (fault : a.fault = some e) (going : a.place ≠ .afterLast ∧ a.place ≠ .closed) :
    Shift a (.move m) (.error e) { a with place := .afterLast, failed := true }
  | close {answer : Except Error Answer} :
    Shift a (.move .close) answer { a with place := .closed }

namespace Shift

variable {a b : Course} {op : Operation} {answer : Except Error Answer}

theorem fault_eq (shift : Shift a op answer b) : b.fault = a.fault := by
  cases shift <;> rfl

theorem records_eq (shift : Shift a op answer b) : b.records = a.records := by
  cases shift <;> rfl

theorem failed_mono (shift : Shift a op answer b) (failed : a.failed = true) :
    b.failed = true := by
  cases shift <;> first | exact failed | rfl

theorem sound (shift : Shift a op answer b) (h : a.Sound) : b.Sound := by
  refine ⟨?_, ?_, ?_⟩
  · intro failed
    cases shift with
    | stay quiet => exact h.behind failed
    | visit split number ahead going =>
      rcases h.behind failed with place | place
      · simp [Course.ahead, place] at ahead
      · exact absurd place going
    | finish ahead going => exact .inl rfl
    | fail asked ahead fault going => exact .inl rfl
    | close => exact .inr rfl
  · intro failed
    cases shift with
    | fail asked ahead fault going => exact ⟨_, fault⟩
    | stay | visit | finish | close => exact h.cause failed
  · intro e fault
    rw [shift.fault_eq] at fault
    exact h.ends e fault

theorem ending (shift : Shift a op answer b) (h : a.Sound) (row : Option (List Text)) :
    (Cursor.Event.ending? ⟨op, answer, row⟩).toList = if b.failed then a.toRaise else [] := by
  have raised : [] = if a.failed then a.toRaise else [] := by
    split
    · rename_i failed
      rw [toRaise, if_pos failed]
    · rfl
  cases shift with
  | stay silent =>
    rw [(silent row).2]
    exact raised
  | fail asked ahead fault going =>
    rename_i m e
    have notYet : a.failed ≠ true := fun failed => by
      rcases h.behind failed with place | place
      · exact going.1 place
      · exact going.2 place
    rw [toRaise, if_neg notYet, fault, if_pos rfl]
    rcases h.ends e fault with ⟨_, rfl⟩ | ⟨_, rfl⟩ <;> rcases asked with rfl | rfl <;> rfl
  | visit | finish | close => exact raised

end Shift

theorem shift_forward {a : Course} {passed : Nat} (ahead : a.ahead = a.records.drop passed)
    (going : a.place ≠ .afterLast ∧ a.place ≠ .closed) :
    Shift a (.move .advance) (a.forward passed).1 (a.forward passed).2 := by
  rw [forward]
  split
  · rename_i inside
    have split := (List.take_append_drop passed a.records).symm
    rw [List.drop_eq_getElem_cons inside] at split ahead
    have := List.length_take_of_le (Nat.le_of_lt inside)
    exact .visit split (by rw [this]) ahead going.2
  · rename_i outside
    rw [List.drop_of_length_le (by omega)] at ahead
    split
    · rename_i e fault
      exact .fail (.inl rfl) ahead fault going
    · exact .finish ahead going.2

theorem shift_move (a : Course) (m : Move) : Shift a (.move m) (a.move m).1 (a.move m).2 := by
  cases m with
  | advance =>
    cases place : a.place with
    | beforeFirst =>
      simp only [move, place]
      exact shift_forward (by simp [ahead, place]) (by simp [place])
    | row n =>
      simp only [move, place]
      exact shift_forward (by simp [ahead, place]) (by simp [place])
    | afterLast =>
      simp only [move, place]
      exact .stay fun row => ⟨rfl, rfl⟩
    | closed =>
      simp only [move, place]
      exact .stay fun row => ⟨rfl, rfl⟩
  | isLast =>
    cases place : a.place with
    | row n =>
      simp only [move, place]
      split
      · exact .stay fun row => ⟨rfl, rfl⟩
      · rename_i outside
        cases fault : a.fault with
        | some e =>
          have nothing : a.ahead = [] := by
            rw [ahead, place]
            exact List.drop_of_length_le (by omega)
          exact .fail (.inr rfl) nothing fault (by simp [place])
        | none => exact .stay fun row => ⟨rfl, rfl⟩
    | beforeFirst | afterLast | closed =>
      simp only [move, place]
      exact .stay fun row => ⟨rfl, rfl⟩
  | close =>
    rw [move]
    split
    · exact .stay fun row => ⟨rfl, rfl⟩
    · exact .close
  | isBeforeFirst | isFirst | isAfterLast | rowNumber => exact .stay fun row => ⟨rfl, rfl⟩

theorem shift_after (a : Course) (op : Operation) : ∃ answer, Shift a op answer (a.after op) := by
  cases op with
  | access q => exact ⟨.ok .done, .stay fun row => ⟨rfl, rfl⟩⟩
  | move m => exact ⟨_, shift_move a m⟩

theorem sound_foldl {a : Course} (h : a.Sound) (ops : List Operation) :
    (ops.foldl after a).Sound := by
  induction ops generalizing a with
  | nil => exact h
  | cons op ops ih =>
    obtain ⟨answer, shift⟩ := shift_after a op
    exact ih (shift.sound h)

theorem fixed_foldl (a : Course) (ops : List Operation) :
    (ops.foldl after a).records = a.records ∧ (ops.foldl after a).fault = a.fault := by
  induction ops generalizing a with
  | nil => exact ⟨rfl, rfl⟩
  | cons op ops ih =>
    obtain ⟨answer, shift⟩ := shift_after a op
    obtain ⟨records, fault⟩ := ih (a.after op)
    exact ⟨records.trans shift.records_eq, fault.trans shift.fault_eq⟩

theorem run_eq_foldl (a : Course) (ops : List Operation) :
    (a.run (ops.filterMap Operation.move?)).2 = ops.foldl after a := by
  induction ops generalizing a with
  | nil => rfl
  | cons op ops ih =>
    cases op with
    | access q => exact ih a
    | move m => exact ih (a.move m).2

theorem failed_foldl {a : Course} (failed : a.failed = true) (ops : List Operation) :
    (ops.foldl after a).failed = true := by
  induction ops generalizing a with
  | nil => exact failed
  | cons op ops ih =>
    apply ih
    obtain ⟨answer, shift⟩ := shift_after a op
    exact shift.failed_mono failed

end Course

namespace Cursor

variable {σ : Type} [Source σ] {c : Cursor σ} {a : Course}

section

variable [ZoneDatabase]

def event (c : Cursor σ) (op : Operation) : Event :=
  ⟨op, (c.perform op).1, (c.perform op).2.currentRow.toOption⟩

@[simp] theorem run_cons (c : Cursor σ) (op : Operation) (rest : List Operation) :
    (c.run (op :: rest)).1 = c.event op :: ((c.perform op).2.run rest).1 := rfl

theorem filterMap_run_cons {β : Type} (f : Event → Option β) (c : Cursor σ) (op : Operation)
    (rest : List Operation) :
    (c.run (op :: rest)).1.filterMap f =
      (f (c.event op)).toList ++ ((c.perform op).2.run rest).1.filterMap f := by
  change (c.event op :: ((c.perform op).2.run rest).1).filterMap f = _
  rw [List.filterMap_cons]
  cases f (c.event op) <;> rfl

theorem follows_perform (h : c.Follows a) (op : Operation) :
    (c.perform op).2.Follows (a.after op) ∧ Course.Shift a op (c.perform op).1 (a.after op) := by
  cases op with
  | access q => exact ⟨follows_access h q, .stay fun row => ⟨rfl, rfl⟩⟩
  | move m =>
    obtain ⟨answer, follows⟩ := follows_move h m
    refine ⟨follows, ?_⟩
    rw [perform, answer]
    exact Course.shift_move a m

theorem follows_run (h : c.Follows a) (ops : List Operation) :
    (c.run ops).2.Follows (ops.foldl Course.after a) := by
  induction ops generalizing c a with
  | nil => exact h
  | cons op ops ih => exact ih (follows_perform h op).1

/-- The row in hand is the record of the place; off a row there is none. -/
theorem currentRow_iff (h : c.Follows a) (tokens : List Text) :
    c.currentRow = .ok tokens ↔ ∃ n, a.place = .row (n + 1) ∧ a.records[n]? = some tokens := by
  have stands := h.stands
  rw [currentRow]
  generalize c.position = position, a.place = place at stands
  cases stands with
  | onRow split ahead => simp [split]
  | beforeFirst | afterLast | closed => simp

theorem visited_event (h : c.Follows a) (op : Operation) :
    ∃ rest, (c.event op).visited?.toList ++ rest = a.ahead ∧
      ((a.after op).place ≠ .closed → rest = (a.after op).ahead) := by
  obtain ⟨follows, shift⟩ := follows_perform h op
  rw [event]
  generalize (c.perform op).1 = answer at shift
  generalize a.after op = b at shift follows
  cases shift with
  | stay quiet => exact ⟨a.ahead, by rw [(quiet _).1]; rfl, fun _ => rfl⟩
  | visit split number ahead going =>
    rename_i n passed more tokens
    subst number
    have row := (currentRow_iff follows tokens).2 ⟨passed.length, rfl, by simp [split]⟩
    refine ⟨more, ?_, ?_⟩
    · rw [ahead, row]
      rfl
    · intro
      simp [Course.ahead, split]
  | finish ahead going => exact ⟨[], by rw [ahead]; rfl, fun _ => rfl⟩
  | fail asked ahead fault going =>
    rename_i m e
    refine ⟨[], ?_, fun _ => rfl⟩
    rw [ahead]
    rcases asked with rfl | rfl <;> rfl
  | close => exact ⟨a.ahead, rfl, fun stillOpen => absurd rfl stillOpen⟩

/-- The rows that a run visits are those ahead of it, in order. -/
theorem visited_run (h : c.Follows a) (ops : List Operation) :
    ∃ rest, (c.run ops).1.filterMap Event.visited? ++ rest = a.ahead ∧
      ((ops.foldl Course.after a).place ≠ .closed → rest = (ops.foldl Course.after a).ahead) := by
  induction ops generalizing c a with
  | nil => exact ⟨a.ahead, rfl, fun _ => rfl⟩
  | cons op ops ih =>
    obtain ⟨more, first, onward⟩ := visited_event h op
    obtain ⟨last, later, final⟩ := ih (follows_perform h op).1
    rw [filterMap_run_cons, List.foldl_cons]
    by_cases closed : (a.after op).place = .closed
    · rw [Course.ahead_of_closed closed, List.append_eq_nil_iff] at later
      refine ⟨more, ?_, ?_⟩
      · rw [later.1, List.append_nil, first]
      · intro stillOpen
        exact absurd (Course.closed_foldl closed ops) stillOpen
    · rw [← onward closed] at later
      exact ⟨last, by rw [List.append_assoc, later, first], final⟩

/-- The error at the end shows in a run that came to it, and only once. -/
theorem ending_run (h : c.Follows a) (sound : a.Sound) (ops : List Operation) :
    (c.run ops).1.filterMap Event.ending? =
      if (ops.foldl Course.after a).failed then a.toRaise else [] := by
  induction ops generalizing c a with
  | nil =>
    rw [Course.toRaise]
    cases failed : a.failed <;> simp [run, failed]
  | cons op ops ih =>
    obtain ⟨follows, shift⟩ := follows_perform h op
    rw [filterMap_run_cons, List.foldl_cons, ih follows (shift.sound sound), event,
      shift.ending sound]
    cases failed : (a.after op).failed with
    | true => simp [Course.failed_foldl failed ops, Course.toRaise, failed]
    | false =>
      have notYet : a.failed ≠ true := fun already => by
        simp [shift.failed_mono already] at failed
      simp [Course.toRaise, failed, notYet, shift.fault_eq]

theorem moveAnswers_run (h : c.Follows a) (ops : List Operation) :
    (c.run ops).1.filterMap Event.moveAnswer? = (a.run (ops.filterMap Operation.move?)).1 := by
  induction ops generalizing c a with
  | nil => rfl
  | cons op ops ih =>
    rw [filterMap_run_cons, ih (follows_perform h op).1]
    cases op with
    | access q => rfl
    | move m =>
      have answer := (follows_move h m).1
      simp only [event, perform, answer]
      rfl

@[simp] theorem columns_perform (c : Cursor σ) (op : Operation) :
    (c.perform op).2.columns = c.columns := by
  cases op with
  | access q =>
    obtain ⟨cache, wasNull, frame⟩ := access_frame c q
    rw [perform, frame]
  | move m => exact (move_frame c m).1

@[simp] theorem columns_run (c : Cursor σ) (ops : List Operation) :
    (c.run ops).2.columns = c.columns := by
  induction ops generalizing c with
  | nil => rfl
  | cons op ops ih => exact (ih _).trans (columns_perform c op)

theorem names_ofPairs {origin : Origin} {position : Nat} {pairs : List (Text × Text)}
    {columns : List Column} (h : Column.ofPairs origin position pairs = .ok columns) :
    columns.map Column.name = pairs.map Prod.fst := by
  induction pairs generalizing position columns with
  | nil =>
    obtain rfl := Except.ok.inj h
    rfl
  | cons pair rest ih =>
    rw [Column.ofPairs] at h
    split at h
    · simp at h
    · simp at h
    · cases others : Column.ofPairs origin (position + 1) rest with
      | error e =>
        rw [others] at h
        simp [Functor.map, Except.map] at h
      | ok found =>
        rw [others] at h
        obtain rfl := Except.ok.inj h
        rw [List.map_cons, List.map_cons, ih others]

/-- There is a column for each name of the header. -/
theorem names_ofHeader {origin : Origin} {header : Header} {columns : List Column}
    (same : header.names.length = header.tags.length)
    (h : Column.ofHeader origin header = .ok columns) :
    columns.map Column.name = header.names := by
  rw [names_ofPairs h, List.map_fst_zip (Nat.le_of_eq same)]

/-- The transcript of a source, whatever its pieces. -/
def transcriptOf (source : σ) : Transcript :=
  .ofBytes (Source.drain source).1 (Source.drain source).2

/-- What opening takes: a header whose tags are types. -/
theorem of_openOn_eq_ok {source : σ} {origin : Origin} {statement : Option Statement}
    (opened : openOn source origin statement = .ok c) :
    ∃ header columns, (RecordReader.of source).readHeader.1 = .ok header ∧
      Column.ofHeader origin header = .ok columns ∧ c = ⟨(RecordReader.of source).readHeader.2,
        columns, statement, false, .beforeFirst, false, [], none⟩ := by
  rw [openOn] at opened
  rcases read : (RecordReader.of source).readHeader with ⟨e | header, reader⟩
  · simp [read, bind, Except.bind] at opened
  · cases resolved : Column.ofHeader origin header with
    | error e => simp [read, resolved, bind, Except.bind] at opened
    | ok columns =>
      simp only [read, resolved, bind, Except.bind, Except.ok.injEq] at opened
      exact ⟨header, columns, rfl, resolved, opened.symm⟩

/-- The columns of an opened cursor have the names in the header of its source. -/
theorem header_openOn {source : σ} {origin : Origin} {statement : Option Statement}
    (opened : openOn source origin statement = .ok c) :
    ∃ header, (transcriptOf source).header = some header ∧
      c.columns.map Column.name = header.names := by
  obtain ⟨header, columns, read, resolved, rfl⟩ := of_openOn_eq_ok opened
  have whole := RecordReader.transcript_of_source source
  rw [RecordReader.transcript_of_header read] at whole
  have header_eq : (transcriptOf source).header = some header := by
    rw [transcriptOf, ← whole]
  obtain ⟨same, -⟩ := Transcript.length_of_mem_records header_eq
  exact ⟨header, header_eq, names_ofHeader same resolved⟩

/-- An opened cursor is before the first of its source's records, which have a token for each
column. -/
theorem follows_openOn {source : σ} {origin : Origin} {statement : Option Statement}
    (opened : openOn source origin statement = .ok c) :
    c.Follows (.start (transcriptOf source).records (transcriptOf source).fault
      (closing statement)) ∧
    ∀ tokens ∈ (transcriptOf source).records, tokens.length = c.columns.length := by
  obtain ⟨header, header_eq, names⟩ := header_openOn opened
  obtain ⟨-, width⟩ := Transcript.length_of_mem_records header_eq
  obtain ⟨found, columns, read, resolved, rfl⟩ := of_openOn_eq_ok opened
  have whole := RecordReader.transcript_of_source source
  rw [RecordReader.transcript_of_header read] at whole
  refine ⟨⟨.beforeFirst ?_, rfl, fun _ => ⟨rfl, rfl⟩, cached_of_empty rfl⟩, ?_⟩
  · rw [transcriptOf, ← whole]
    rfl
  · intro tokens mem
    rw [width tokens mem, ← names, List.length_map]

omit [ZoneDatabase] in
/-- An opened cursor has failed at nothing yet, and what its source is to fail with is known. -/
theorem sound_start (source : σ) (statement : Option Statement) :
    (Course.start (transcriptOf source).records (transcriptOf source).fault
      (closing statement)).Sound :=
  ⟨by simp [Course.start], by simp [Course.start], fun _ => Transcript.endsRecords_ofBytes⟩

/-- What a run shows of the records of a transcript, told by the course of its moves. -/
structure Traversal (t : Transcript) (course : List (Except Error Answer) × Course)
    (run : List Event × Cursor σ) : Prop where
  answers : run.1.filterMap Event.moveAnswer? = course.1
  /-- Rows are visited once and in order, and all of them before the end. -/
  visited : run.1.filterMap Event.visited? <+: t.records
  visited_all : course.2.place = .afterLast → run.1.filterMap Event.visited? = t.records
  /-- The error that ends the records is raised once, and nothing comes after it. -/
  ending : (run.2.failed = false ∧ run.1.filterMap Event.ending? = []) ∨
    (run.2.failed = true ∧ (course.2.place = .afterLast ∨ course.2.place = .closed) ∧
      ∃ e, t.fault = some e ∧ e.EndsRecords ∧ run.1.filterMap Event.ending? = [e])
  /-- The cursor has a row exactly on a row: the one of its number, a token for each column. -/
  row : ∀ tokens, run.2.currentRow = .ok tokens ↔
    ∃ n, course.2.place = .row (n + 1) ∧ t.records[n]? = some tokens
  width : ∀ tokens, run.2.currentRow = .ok tokens → tokens.length = run.2.columns.length
  /-- A closed cursor stays closed and tells nothing of where it is. -/
  closed : run.2.isClosed = true ↔ course.2.place = .closed
  closed_final : run.2.isClosed = true → (∀ op, (run.2.perform op).2.isClosed = true) ∧
    ∀ m, m ≠ .close → (run.2.move m).1 = .error (.state .closed)

theorem closed_final (h : c.Follows a) (closed : c.isClosed = true) :
    (∀ op, (c.perform op).2.isClosed = true) ∧
      ∀ m, m ≠ .close → (c.move m).1 = .error (.state .closed) := by
  have place := (isClosed_iff h).1 closed
  constructor
  · intro op
    exact (isClosed_iff (follows_perform h op).1).2 (Course.closed_after place op)
  · intro m moves
    rw [(follows_move h m).1]
    cases m <;> simp_all [Course.move, Course.ask]

/-- A cursor opened on any source runs the course of the records that its bytes have. -/
theorem traversal_run {source : σ} {origin : Origin} {statement : Option Statement}
    (opened : openOn source origin statement = .ok c) (ops : List Operation) :
    Traversal (transcriptOf source)
      ((Course.start (transcriptOf source).records (transcriptOf source).fault
        (closing statement)).run (ops.filterMap Operation.move?))
      (c.run ops) := by
  obtain ⟨start, width⟩ := follows_openOn opened
  have sound : (Course.start (transcriptOf source).records (transcriptOf source).fault
      (closing statement)).Sound :=
    ⟨by simp [Course.start], by simp [Course.start], fun e => Transcript.endsRecords_ofBytes⟩
  have last := follows_run start ops
  have kept := Course.sound_foldl sound ops
  obtain ⟨records, fault⟩ := Course.fixed_foldl (.start (transcriptOf source).records
    (transcriptOf source).fault (closing statement)) ops
  obtain ⟨rest, visited, left⟩ := visited_run start ops
  have ending := ending_run start sound ops
  have row := currentRow_iff last
  refine ⟨moveAnswers_run start ops, ⟨rest, visited⟩, ?_, ?_, ?_, ?_, ?_, closed_final last⟩
  all_goals try rw [Course.run_eq_foldl]
  · intro place
    have nothing := left (by simp [place])
    rw [Course.ahead, place] at nothing
    rwa [nothing, List.append_nil] at visited
  · rw [ending, last.failed]
    cases failed : (ops.foldl Course.after _).failed with
    | false => exact .inl ⟨rfl, rfl⟩
    | true =>
      obtain ⟨e, cause⟩ := kept.cause failed
      refine .inr ⟨rfl, kept.behind failed, e, fault.symm.trans cause, kept.ends e cause, ?_⟩
      rw [Course.toRaise, show Course.fault _ = _ from fault.symm.trans cause]
      rfl
  · intro tokens
    rw [row, records]
    rfl
  · intro tokens current
    obtain ⟨n, -, found⟩ := (row tokens).1 current
    rw [records] at found
    rw [columns_run]
    exact width tokens (List.mem_of_getElem? found)
  · exact isClosed_iff last

end

/-- One row, and a connection that is lost when `isLast` looks for another. -/
theorem traversal_run_failing_peek :
    ∃ c, openOn (ScriptSource.ofScript [.ok [0x6e, 0x0a, 0x69, 0x6e, 0x74, 0x0a, 0x31, 0x0a],
        .error .closed] false) {} none = .ok c ∧
      Traversal ⟨some ⟨[['n']], [['i', 'n', 't']]⟩, [[['1']]], some (.ofSource .closed)⟩
        ([.ok (.truth true), .error (.ofSource .closed), .ok (.truth false), .ok (.number 0)],
          ⟨[[['1']]], some (.ofSource .closed), .ok (), .afterLast, true⟩)
        (c.run [.move .advance, .access (.int (.position 1)), .move .isLast, .move .advance,
          .move .rowNumber]) := by
  refine Except.exists_of_isOk (by decide +kernel) fun c opened => ?_
  have run := traversal_run opened [.move .advance, .access (.int (.position 1)), .move .isLast,
    .move .advance, .move .rowNumber]
  rw [transcriptOf, ScriptSource.ofScript, ScriptSource.drain_eq] at run
  exact run

end Cursor

end RowStream
