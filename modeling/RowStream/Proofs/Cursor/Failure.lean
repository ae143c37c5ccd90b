import RowStream.Proofs.ColumnType.Grammar
import RowStream.Proofs.Cursor.Run
import RowStream.Proofs.Value.Failure
import RowStream.Source.Basic

/-! What the operations of a cursor can fail with. -/
namespace RowStream

/-- What an access fails with: it is made at the wrong time or of no column, or a text cannot be
read. -/
inductive Error.OfAccess : Error → Prop where
  | state (fault : StateFault) : OfAccess (.state fault)
  | lookup (fault : LookupFault) : OfAccess (.lookup fault)
  | reading {e : Error} (h : e.OfReading) : OfAccess e

/-- What a move fails with: it is made at the wrong time, or the response ends early. -/
inductive Error.OfMove : Error → Prop where
  | state (fault : StateFault) : OfMove (.state fault)
  | ending {e : Error} (h : e.EndsRecords) : OfMove e

/-- What opening fails with: the response ends early, a type tag is refused, or a number in one has
more digits than are read. -/
inductive Error.OfOpening : Error → Prop where
  | ending {e : Error} (h : e.EndsRecords) : OfOpening e
  | tag (tag : Text) (fault : TagFault) : OfOpening (.unsupportedType tag fault)
  | digits {n : Nat} (long : Text.digitLimit < n) : OfOpening (.digitLimit n)

namespace Course

open Cursor (Move Answer)

variable {a : Course}

theorem move_failsOnly (sound : a.Sound) (closes : a.closing = .ok ()) (m : Move) :
    (a.move m).1.FailsOnly Error.OfMove := by
  have closed {α : Type} : (.error (.state .closed) : Except Error α).FailsOnly Error.OfMove :=
    Except.failsOnly_error (.state _)
  have raised {e : Error} (fault : a.fault = some e) : (a.fail e).1.FailsOnly Error.OfMove :=
    Except.failsOnly_error (.ending (sound.ends e fault))
  have asked (answer : Answer) : (a.ask answer).1.FailsOnly Error.OfMove := by
    rw [ask]
    split
    · exact closed
    · exact Except.failsOnly_ok _
  have forward (passed : Nat) : (a.forward passed).1.FailsOnly Error.OfMove := by
    rw [Course.forward]
    split
    · exact Except.failsOnly_ok _
    · split
      · exact raised ‹_›
      · exact Except.failsOnly_ok _
  cases m with
  | advance =>
    simp only [move]
    split
    · exact closed
    · exact Except.failsOnly_ok _
    · exact forward 0
    · exact forward _
  | isLast =>
    simp only [move]
    split
    · exact closed
    · split
      · exact Except.failsOnly_ok _
      · split
        · exact raised ‹_›
        · exact Except.failsOnly_ok _
    · exact Except.failsOnly_ok _
  | close =>
    simp only [move, closes]
    split <;> exact Except.failsOnly_ok _
  | isBeforeFirst | isFirst | isAfterLast | rowNumber => exact asked _

theorem closing_after (a : Course) (op : Cursor.Operation) : (a.after op).closing = a.closing := by
  obtain ⟨answer, shift⟩ := shift_after a op
  generalize a.after op = b at shift
  cases shift <;> rfl

end Course

namespace Cursor

variable {σ : Type} {c : Cursor σ}

/-- Every column's type is one that a tag can name. -/
def Formed [ZoneDatabase] (c : Cursor σ) : Prop := ∀ column ∈ c.columns, column.type.WellFormed

/-- What a read of a field may fail with, and what it may give. -/
def Reads (result : Except Error Value) : Prop :=
  result.FailsOnly Error.OfAccess ∧ ∀ v, result = .ok v → v.Ordinary

theorem reads_error {e : Error} (h : e.OfAccess) : Reads (.error e) :=
  ⟨Except.failsOnly_error h, fun _ h => nomatch h⟩

theorem reads_fieldValue [ZoneDatabase] (formed : c.Formed) (tokens : List Text) (i : Nat) :
    Reads (fieldValue c.columns tokens i) := by
  rw [fieldValue]
  split
  · rename_i column token found _
    have known := formed column (List.mem_of_getElem? found)
    exact ⟨(ColumnType.decodeAs_failsOnly known _).mono fun _ => .reading,
      fun v read => Value.ordinary_of_hasType known (ColumnType.hasType_of_decodeAs known read)⟩
  · refine ⟨Except.failsOnly_ok _, ?_⟩
    rintro v ⟨⟩
    exact Value.ordinary_null

theorem currentRow_failsOnly (c : Cursor σ) : c.currentRow.FailsOnly Error.OfAccess := by
  rw [currentRow]
  split
  · exact Except.failsOnly_error (.state _)
  · exact Except.failsOnly_error (.state _)
  · exact Except.failsOnly_error (.state _)
  · exact Except.failsOnly_ok _

theorem indexOf_failsOnly (columns : List Column) (ref : ColumnRef) :
    (Column.indexOf columns ref).FailsOnly Error.OfAccess := by
  cases ref with
  | flag b => exact Except.failsOnly_error (.lookup _)
  | position n =>
    rw [Column.indexOf]
    split
    · exact Except.failsOnly_ok _
    · exact Except.failsOnly_error (.lookup _)
  | name t =>
    rw [Column.indexOf]
    split
    · exact Except.failsOnly_ok _
    · exact Except.failsOnly_error (.lookup _)

theorem checkOpen_failsOnly (c : Cursor σ) : c.checkOpen.FailsOnly Error.OfAccess := by
  rw [checkOpen]
  split
  · exact Except.failsOnly_error (.state _)
  · exact Except.failsOnly_ok _

theorem reads_readField [ZoneDatabase] (formed : c.Formed) (cached : c.Cached) (i : Nat) :
    Reads (c.readField i).1 := by
  cases row : c.currentRow with
  | error e =>
    rw [readField_of_refused row]
    exact reads_error (currentRow_failsOnly c e row)
  | ok tokens =>
    obtain ⟨cache, eq, -⟩ := readField_of_row cached row i
    rw [eq]
    exact reads_fieldValue formed tokens i

theorem reads_readRef [ZoneDatabase] (formed : c.Formed) (cached : c.Cached) (ref : ColumnRef) :
    Reads (c.readRef ref).1 := by
  rw [readRef]
  split
  · rename_i e refused
    exact reads_error (indexOf_failsOnly c.columns ref e refused)
  · exact reads_readField formed cached _

theorem readAs_failsOnly [ZoneDatabase] {α : Type} {P : Error → Prop} (formed : c.Formed)
    (cached : c.Cached) (ref : ColumnRef) (absent : α) {convert : Value → Except Error α}
    (reading : ∀ e, e.OfAccess → P e) (converts : ∀ v, v.Ordinary → (convert v).FailsOnly P) :
    (c.readAs ref absent convert).1.FailsOnly P := by
  obtain ⟨failsOnly, ordinary⟩ := reads_readRef formed cached ref
  rw [readAs]
  split
  · rename_i e _ found
    exact Except.failsOnly_error (reading e (failsOnly e (by rw [found])))
  · exact Except.failsOnly_ok _
  · rename_i v _ _ found
    exact converts v (ordinary v (by rw [found]))

theorem getText_failsOnly [ZoneDatabase] (formed : c.Formed) (cached : c.Cached) (ref : ColumnRef) :
    (c.getText ref).1.FailsOnly Error.OfAccess := by
  rw [getText]
  split
  · rename_i e refused
    exact Except.failsOnly_error (indexOf_failsOnly c.columns ref e refused)
  · rename_i i _
    obtain ⟨failsOnly, -⟩ := reads_readField formed cached i
    split
    · rename_i e _ found
      exact Except.failsOnly_error (failsOnly e (by rw [found]))
    · exact Except.failsOnly_ok _
    · exact Except.failsOnly_ok _

theorem readFields_failsOnly [ZoneDatabase] (formed : c.Formed) (cached : c.Cached) (i : Nat)
    (row : Row) (columns : List Column) :
    (readFields i row columns c).1.FailsOnly Error.OfAccess := by
  induction columns generalizing c i row with
  | nil => exact Except.failsOnly_ok _
  | cons column columns ih =>
    obtain ⟨failsOnly, -⟩ := reads_readField formed cached i
    have kept := cached_readField cached i
    obtain ⟨cache, wasNull, frame⟩ := readField_frame c i
    rw [readFields]
    split
    · rename_i e _ found
      exact Except.failsOnly_error (failsOnly e (by rw [found]))
    · rename_i v c' found
      rw [found] at frame kept
      have formed' : c'.Formed := by
        rw [show c' = _ from frame]
        exact formed
      exact ih formed' kept _ _

/-- Whether the access asks for an instant, which has to be within the calendar. -/
def Access.asksInstant : Access → Bool
  | .time .. | .timestamp .. => true
  | _ => false

/-- Whether the access leaves the zone and the number of places to the engine. -/
def Access.isPlain : Access → Bool
  | .decimal _ places => places.isNone
  | .date _ zone | .time _ zone | .timestamp _ zone => zone = .unspecified
  | _ => true

/-- What an access may fail with. -/
def Access.MayFail (q : Access) (e : Error) : Prop :=
  e.OfAccess ∨ (q.asksInstant = true ∧ e = .calendar .beyondCalendar)

theorem access_failsOnly [ZoneDatabase] (formed : c.Formed) (cached : c.Cached) {q : Access}
    (plain : q.isPlain) : (c.access q).1.FailsOnly q.MayFail := by
  have access {α : Type} {x : Except Error α} (h : x.FailsOnly Error.OfAccess) :
      x.FailsOnly q.MayFail := h.mono fun _ => .inl
  have reading {α : Type} {x : Except Error α} (h : x.FailsOnly Error.OfReading) :
      x.FailsOnly q.MayFail := access (h.mono fun _ => .reading)
  have instant {α : Type} {x : Except Error α} (asked : q.asksInstant = true)
      (h : x.FailsOnly Value.OfInstant) : x.FailsOnly q.MayFail :=
    h.mono fun _ => Or.imp .reading fun past => ⟨asked, past⟩
  have convert {α : Type} {ref : ColumnRef} {absent : α} {f : Value → Except Error α}
      {answer : α → Answer} (h : ∀ v, v.Ordinary → (f v).FailsOnly q.MayFail) :
      (answered answer (c.readAs ref absent f)).1.FailsOnly q.MayFail :=
    (readAs_failsOnly formed cached ref absent (fun _ => .inl) h).map answer
  have opened := access (checkOpen_failsOnly c)
  cases q with
  | columns => exact (opened.bind fun _ _ => Except.failsOnly_ok c.columns).map _
  | column ref =>
    refine (opened.bind fun _ _ => ?_).map _
    refine (access (indexOf_failsOnly c.columns ref)).bind fun i _ => ?_
    split
    · exact Except.failsOnly_ok _
    · exact Except.failsOnly_error (.inl (.lookup _))
  | findColumn ref =>
    refine (opened.bind fun _ _ => ?_).map _
    exact (access (indexOf_failsOnly c.columns ref)).bind fun i _ => Except.failsOnly_ok (i + 1)
  | wasNull =>
    refine (opened.bind fun _ _ => ?_).map _
    split
    · exact Except.failsOnly_ok _
    · exact Except.failsOnly_error (.inl (.state _))
  | value ref => exact (access (reads_readRef formed cached ref).1).map _
  | text ref => exact (access (getText_failsOnly formed cached ref)).map _
  | row =>
    refine Except.FailsOnly.map ?_ _
    rw [row]
    split
    · rename_i e refused
      exact Except.failsOnly_error (.inl (currentRow_failsOnly c e refused))
    · exact access (readFields_failsOnly formed cached 0 [] c.columns)
  | int ref => exact convert fun v h => reading (Value.toInt_failsOnly h)
  | float ref => exact convert fun v h => reading (Value.toFloat_failsOnly h)
  | bool ref => exact convert fun v h => reading (Value.toBool_failsOnly h)
  | decimal ref places =>
    obtain rfl := Option.isNone_iff_eq_none.1 plain
    exact convert fun v h => (reading (Value.toDecimal_failsOnly h)).map _
  | bytes ref => exact convert fun v h => (reading (Value.toBytes_failsOnly h)).map _
  | list ref => exact convert fun v h => (reading (Value.toList_failsOnly h)).map _
  | date ref zone =>
    obtain rfl := of_decide_eq_true plain
    exact convert fun v h => (reading (Value.toDate_failsOnly h)).map _
  | time ref zone =>
    obtain rfl := of_decide_eq_true plain
    exact convert fun v h => (instant rfl (Value.toTime_failsOnly h)).map _
  | timestamp ref zone =>
    obtain rfl := of_decide_eq_true plain
    exact convert fun v h => (instant rfl (Value.toTimestamp_failsOnly h)).map _

/-- No caller's zone and no number of places is given. -/
def Operation.isPlain : Operation → Bool
  | .move _ => true
  | .access q => q.isPlain

def Operation.MayFail : Operation → Error → Prop
  | .move _, e => e.OfMove
  | .access q, e => q.MayFail e

variable [Source σ] {a : Course}

theorem perform_failsOnly [ZoneDatabase] (h : c.Follows a) (sound : a.Sound)
    (closes : a.closing = .ok ()) (formed : c.Formed) {op : Operation} (plain : op.isPlain) :
    (c.perform op).1.FailsOnly op.MayFail := by
  cases op with
  | move m =>
    rw [perform, (follows_move h m).1]
    exact Course.move_failsOnly sound closes m
  | access q => exact access_failsOnly formed h.cached plain

theorem formed_perform [ZoneDatabase] (formed : c.Formed) (op : Operation) :
    (c.perform op).2.Formed := by
  rw [Formed, columns_perform]
  exact formed

theorem run_failsOnly [ZoneDatabase] (h : c.Follows a) (sound : a.Sound)
    (closes : a.closing = .ok ()) (formed : c.Formed) {ops : List Operation}
    (plain : ∀ op ∈ ops, op.isPlain) :
    ∀ event ∈ (c.run ops).1, event.answer.FailsOnly event.operation.MayFail := by
  induction ops generalizing c a with
  | nil => exact fun _ h => nomatch h
  | cons op ops ih =>
    obtain ⟨first, others⟩ := List.forall_mem_cons.1 plain
    obtain ⟨follows, shift⟩ := follows_perform h op
    rw [run_cons]
    refine List.forall_mem_cons.2 ⟨perform_failsOnly h sound closes formed first, ?_⟩
    exact ih follows (shift.sound sound) ((Course.closing_after a op).trans closes)
      (formed_perform formed op) others

theorem ofPairs_failsOnly [ZoneDatabase] {origin : Origin} (named : origin.tableName.isSome)
    (position : Nat) (pairs : List (Text × Text)) :
    (Column.ofPairs origin position pairs).FailsOnly Error.OfOpening := by
  induction pairs generalizing position with
  | nil => exact Except.failsOnly_ok _
  | cons pair rest ih =>
    obtain ⟨name, tag⟩ := pair
    rw [Column.ofPairs]
    split
    · rename_i e refused
      refine Except.failsOnly_error ?_
      obtain ⟨fault, rfl⟩ | ⟨tokens, n, -, ⟨-, -, -, long⟩, rfl⟩ :=
        ColumnType.of_ofTag_eq_error refused
      · exact .tag _ _
      · exact .digits long
    · rename_i nameless
      rw [nameless] at named
      cases named
    · exact (ih _).map _

theorem formed_ofPairs [ZoneDatabase] {origin : Origin} {position : Nat}
    {pairs : List (Text × Text)} {columns : List Column}
    (h : Column.ofPairs origin position pairs = .ok columns) :
    ∀ column ∈ columns, column.type.WellFormed := by
  induction pairs generalizing position columns with
  | nil =>
    cases h
    exact fun _ h => nomatch h
  | cons pair rest ih =>
    obtain ⟨name, tag⟩ := pair
    rw [Column.ofPairs] at h
    split at h
    · cases h
    · cases h
    · rename_i known _
      obtain ⟨others, found, rfl⟩ := Except.of_map_eq_ok h
      exact List.forall_mem_cons.2 ⟨ColumnType.wellFormed_ofTag known, ih found⟩

theorem readHeader_failsOnly (source : σ) :
    (RecordReader.of source).readHeader.1.FailsOnly Error.EndsRecords := by
  intro e failed
  have whole := RecordReader.transcript_of_source source
  rw [RecordReader.transcript, ← Prod.eta (RecordReader.of source).readHeader, failed] at whole
  exact Transcript.endsRecords_ofBytes (congrArg Transcript.fault whole).symm

variable {source : σ} {origin : Origin} {statement : Option Statement}

theorem openOn_failsOnly [ZoneDatabase] (named : origin.tableName.isSome) :
    (openOn source origin statement).FailsOnly fun failure => failure.1.OfOpening := by
  have columns : ((RecordReader.of source).readHeader.1 >>= Column.ofHeader origin).FailsOnly
      Error.OfOpening :=
    ((readHeader_failsOnly source).mono fun _ => .ending).bind fun header _ =>
      ofPairs_failsOnly named 1 _
  intro failure failed
  simp only [openOn] at failed
  split at failed
  · rename_i e refused
    cases failed
    exact columns e refused
  · cases failed

theorem formed_openOn [ZoneDatabase] (opened : openOn source origin statement = .ok c) :
    c.Formed := by
  simp only [openOn] at opened
  split at opened
  · cases opened
  · rename_i columns resolved
    cases opened
    obtain ⟨header, -, found⟩ := Except.of_bind_eq_ok resolved
    exact formed_ofPairs found

/-- Whatever a source holds, a cursor that is used without a caller's zone or number of places
fails with errors of the engine, but for numbers that are not read and instants past the
calendar. -/
theorem failures_run [ZoneDatabase] (named : origin.tableName.isSome)
    (closes : closing statement = .ok ()) :
    ((openOn source origin statement).FailsOnly fun failure => failure.1.OfOpening) ∧
      ∀ c, openOn source origin statement = .ok c → ∀ ops : List Operation,
        (∀ op ∈ ops, op.isPlain) →
          ∀ event ∈ (c.run ops).1, event.answer.FailsOnly event.operation.MayFail := by
  refine ⟨openOn_failsOnly named, fun c opened ops plain => ?_⟩
  exact run_failsOnly (follows_openOn opened).1 (sound_start source statement) closes
    (formed_openOn opened) plain

/-- A decimal that the arithmetic refuses to make. -/
theorem failures_run_decimal :
    ∃ c, openOn (ScriptSource.ofScript
        [.ok (Utf8.encode "d\ndecimal\n1e9999999999999999999\n".toList)] false) {} none = .ok c ∧
      ∀ event ∈ (c.run [.move .advance, .access (.value (.position 1))]).1,
        event.answer.FailsOnly event.operation.MayFail :=
  Except.exists_of_isOk (by decide +kernel) fun c opened =>
    (failures_run rfl rfl).2 c opened _ (by decide)

/-- Whether a response raises an error that is not the engine's when it is opened and used. -/
def escapes [ZoneDatabase] (response : Text) (ops : List Operation) : Bool :=
  match openOn (ScriptSource.ofScript [.ok (Utf8.encode response)] false) {} none with
  | .error (e, _) => !e.isEngine
  | .ok c => (c.run ops).1.any fun event =>
    match event.answer with
    | .ok _ => false
    | .error e => !e.isEngine

/-- A decimal with an exponent out of reach, and an instant of the year before the first. -/
theorem escapes_exponent_and_instant :
    escapes "d\ndecimal\n1e9999999999999999999\n".toList
        [.move .advance, .access (.value (.position 1))] ∧
      escapes "t\ntimestamptz\n0001-01-01 00:00:00+01\n".toList
        [.move .advance, .access (.timestamp (.position 1) .unspecified)] := by
  decide +kernel

end Cursor

end RowStream
