import RowStream.Proofs.Cursor.Run
import RowStream.Proofs.Value.Null

/-! Whether the last field read was null, told by the history of a cursor alone. -/
namespace RowStream

namespace Course

open Cursor (Operation)

theorem closed_after_iff (a : Course) (op : Operation) :
    (a.after op).place = .closed ↔ a.place = .closed ∨ op = .move .close := by
  constructor
  · intro closed
    obtain ⟨answer, shift⟩ := shift_after a op
    generalize a.after op = b at shift closed
    cases shift with
    | stay quiet => exact .inl closed
    | visit | finish | fail => cases closed
    | close => exact .inr rfl
  · rintro (closed | rfl)
    · exact closed_after closed op
    · by_cases closed : a.place = .closed
      · exact closed_after closed _
      · rw [after, move, if_neg closed]

theorem closed_foldl_iff (a : Course) (ops : List Operation) :
    (ops.foldl after a).place = .closed ↔ a.place = .closed ∨ .move .close ∈ ops := by
  induction ops generalizing a with
  | nil => simp
  | cons op ops ih =>
    rw [List.foldl_cons, ih, closed_after_iff, List.mem_cons, or_assoc, eq_comm (a := op)]

end Course

namespace Cursor

section

variable [ZoneDatabase]

/-- Of fields that are read one after the other, the last one that is come to: the first that
fails, or else the last of all. -/
def lastAttempt (columns : List Column) (tokens : List Text) : List Nat → Option Nat
  | [] => none
  | i :: rest =>
    match fieldValue columns tokens i with
    | .error _ => some i
    | .ok _ => (lastAttempt columns tokens rest).or (some i)

/-- The field that an event read or failed to read last, by its row and its index in it. Where there
is no row, or the reference means no column, no field is read. -/
def Event.attempt? (columns : List Column) (e : Event) : Option (List Text × Nat) :=
  match e.operation, e.row with
  | .access q, some tokens => (lastAttempt columns tokens (q.fields columns)).map (tokens, ·)
  | _, _ => none

/-- The field that was attempted last in all of a history. -/
def lastRead (columns : List Column) (events : List Event) : Option (List Text × Nat) :=
  (events.filterMap (Event.attempt? columns)).getLast?

/-- Whether the token of a field that decodes is the one that stands for null. -/
def nullToken? (columns : List Column) (field : List Text × Nat) : Option Bool :=
  match fieldValue columns field.1 field.2 with
  | .error _ => none
  | .ok _ => some (field.1[field.2]? = some Token.null)

variable {columns : List Column} {tokens : List Text}

omit [ZoneDatabase] in
theorem lt_of_mem_fields {q : Access} {i : Nat} (mem : i ∈ q.fields columns) :
    i < columns.length := by
  have bound {ref : ColumnRef} (mem : i ∈ (Column.indexOf columns ref).toOption.toList) :
      i < columns.length := by
    cases found : Column.indexOf columns ref with
    | error e =>
      rw [found] at mem
      cases mem
    | ok j =>
      rw [found] at mem
      obtain rfl := List.mem_singleton.1 mem
      cases ref with
      | flag b => cases found
      | position n =>
        rw [Column.indexOf] at found
        split at found
        · cases found
          omega
        · cases found
      | name t =>
        rw [Column.indexOf, Column.lookup_byName] at found
        split at found
        · rename_i first
          cases found
          exact (List.findIdx?_eq_some_iff_getElem.1 first).1
        · cases found
  cases q with
  | columns | column | findColumn | wasNull => cases mem
  | row => exact List.mem_range.1 mem
  | value | text | int | float | bool | decimal | bytes | date | time | timestamp | list =>
    exact bound mem

theorem isNull_fieldValue {i : Nat} {v : Value} (width : tokens.length = columns.length)
    (inside : i < columns.length) (h : fieldValue columns tokens i = .ok v) :
    isNull v = decide (tokens[i]? = some Token.null) := by
  have inside' : i < tokens.length := by omega
  rw [fieldValue, List.getElem?_eq_getElem inside, List.getElem?_eq_getElem inside'] at h
  have null : tokens[i]? = some Token.null ↔ v = .null := by
    rw [ColumnType.decode_eq_null_iff h, List.getElem?_eq_getElem inside', Option.some.injEq]
  rw [Bool.eq_iff_iff, decide_eq_true_iff, null]
  cases v <;> simp [isNull]

/-- What is remembered of reads is what the last one of them shows. -/
theorem remembered_eq (width : tokens.length = columns.length) {indices : List Nat}
    (inside : ∀ i ∈ indices, i < columns.length) (before : Option Bool) :
    remembered columns tokens indices before =
      match lastAttempt columns tokens indices with
      | none => before
      | some i => nullToken? columns (tokens, i) := by
  induction indices generalizing before with
  | nil => rfl
  | cons i rest ih =>
    obtain ⟨first, others⟩ := List.forall_mem_cons.1 inside
    rw [remembered, lastAttempt]
    cases read : fieldValue columns tokens i with
    | error e => simp only [nullToken?, read]
    | ok v =>
      simp only [ih others]
      -- the field that has just been read is the last one if none is come to behind it
      cases lastAttempt columns tokens rest with
      | some j => rfl
      | none =>
        simp only [Option.none_or, nullToken?, read]
        rw [isNull_fieldValue width first read]

variable {σ : Type} [Source σ] {c : Cursor σ} {a : Course}

/-- Every record has a token for each column. -/
def Wide (a : Course) (columns : List Column) : Prop :=
  ∀ tokens ∈ a.records, tokens.length = columns.length

theorem wasNull_perform (h : c.Follows a) (wide : Wide a c.columns) (op : Operation) :
    (c.perform op).2.wasNull =
      match (c.event op).attempt? c.columns with
      | none => c.wasNull
      | some field => nullToken? c.columns field := by
  cases op with
  | move m => exact (move_frame c m).2
  | access q =>
    obtain ⟨cache, wasNull, frame⟩ := access_frame c q
    have stays : (c.access q).2.currentRow = c.currentRow := by
      rw [frame]
      rfl
    rw [event, perform, stays, Event.attempt?]
    cases row : c.currentRow with
    | error e =>
      rw [access_of_refused row]
      rfl
    | ok tokens =>
      obtain ⟨n, -, record⟩ := (currentRow_iff h tokens).1 row
      have width := wide tokens (List.mem_of_getElem? record)
      rw [wasNull_access h.cached row, remembered_eq width fun i => lt_of_mem_fields]
      dsimp only [Except.toOption]
      cases lastAttempt c.columns tokens (q.fields c.columns) <;> rfl

/-- By induction over the run: a later attempt is remembered in the place of an earlier one. -/
theorem wasNull_run_eq (h : c.Follows a) (wide : Wide a c.columns) (ops : List Operation) :
    (c.run ops).2.wasNull =
      match lastRead c.columns (c.run ops).1 with
      | none => c.wasNull
      | some field => nullToken? c.columns field := by
  induction ops generalizing c a with
  | nil => rfl
  | cons op ops ih =>
    obtain ⟨follows, shift⟩ := follows_perform h op
    have wide' : Wide (a.after op) (c.perform op).2.columns := by
      rw [Wide, shift.records_eq, columns_perform]
      exact wide
    have later := ih follows wide'
    rw [columns_perform, wasNull_perform h wide op] at later
    change ((c.perform op).2.run ops).2.wasNull = _
    rw [later, lastRead, lastRead, filterMap_run_cons, List.getLast?_append]
    cases (((c.perform op).2.run ops).1.filterMap (Event.attempt? c.columns)).getLast? with
    | some field => rfl
    | none => cases (c.event op).attempt? c.columns <;> rfl

omit [Source σ] in
theorem access_wasNull (c : Cursor σ) :
    (c.access .wasNull).1 =
      if c.isClosed then .error (.state .closed)
      else
        match c.wasNull with
        | some b => .ok (.truth b)
        | none => .error (.state .nothingRead) := by
  simp only [access, answered, lastWasNull, checkOpen]
  split
  · rfl
  · cases c.wasNull <;> rfl

/-- Only closing and reading a field change whether the last value was null. -/
structure KeepsNullness (c : Cursor σ) : Prop where
  move : ∀ m, m ≠ .close → ((c.move m).2.access .wasNull).1 = (c.access .wasNull).1
  /-- An access that has no row or no column, or asks for no field, reads none. -/
  refused : ∀ q, (∀ tokens, c.currentRow ≠ .ok tokens) ∨ q.fields c.columns = [] →
    ((c.access q).2.access .wasNull).1 = (c.access .wasNull).1

theorem keepsNullness (h : c.Follows a) : KeepsNullness c := by
  constructor
  · intro m moves
    have closed : (c.move m).2.isClosed = c.isClosed := by
      rw [Bool.eq_iff_iff, isClosed_iff h, isClosed_iff (follows_move h m).2]
      have after : (a.move m).2.place = .closed ↔ _ := Course.closed_after_iff a (.move m)
      simpa [moves] using after
    rw [access_wasNull, access_wasNull, closed, (move_frame c m).2]
  · intro q nothing
    have same : (c.access q).2 = c := by
      rcases nothing with off | none
      · cases row : c.currentRow with
        | ok tokens => exact absurd row (off tokens)
        | error e => exact access_of_refused row q
      · rw [access_eq_readAll, none]
        rfl
    rw [same]

theorem wasNull_openOn {source : σ} {origin : Origin} {statement : Option Statement}
    (opened : openOn source origin statement = .ok c) : c.wasNull = none := by
  simp only [openOn] at opened
  split at opened
  · cases opened
  · cases opened
    rfl

/-- Whatever was done with a cursor, `wasNull` tells of the field that was attempted last: whether
its token is the one that stands for null, if it could be decoded, and nothing otherwise. -/
theorem wasNull_run {source : σ} {origin : Origin} {statement : Option Statement}
    (opened : openOn source origin statement = .ok c) (ops : List Operation) :
    ((c.run ops).2.access .wasNull).1 =
        (if .move .close ∈ ops then .error (.state .closed)
        else
          match lastRead c.columns (c.run ops).1 with
          | none => .error (.state .nothingRead)
          | some (tokens, i) =>
            match fieldValue c.columns tokens i with
            | .error _ => .error (.state .nothingRead)
            | .ok _ => .ok (.truth (tokens[i]? = some Token.null))) ∧
      KeepsNullness (c.run ops).2 := by
  obtain ⟨start, wide⟩ := follows_openOn opened
  have last := follows_run start ops
  refine ⟨?_, keepsNullness last⟩
  have closed : (c.run ops).2.isClosed = true ↔ .move .close ∈ ops := by
    rw [isClosed_iff last, Course.closed_foldl_iff]
    simp [Course.start]
  have fresh : c.wasNull = none := wasNull_openOn opened
  rw [access_wasNull, wasNull_run_eq start wide, fresh]
  by_cases within : .move .close ∈ ops
  · rw [if_pos within, if_pos (closed.2 within)]
  · rw [if_neg within, if_neg (mt closed.1 within)]
    cases lastRead c.columns (c.run ops).1 with
    | none => rfl
    | some field =>
      dsimp only [nullToken?]
      cases fieldValue c.columns field.1 field.2 <;> rfl

end

/-- A bad field leaves nothing to tell of. A null read after it is told of still when a column that
is not there has been asked for, and when the end has come and a read has been refused. -/
theorem wasNull_run_null :
    let source := ScriptSource.ofScript
      [.ok (Utf8.encode "a\tb\narray(int)\tbool\n\\N\tx\n".toList)] false
    let ops : List Operation := [.move .advance, .access .row, .access (.list (.position 1)),
      .move .isLast, .access (.bool (.position 3)), .move .advance, .access (.bool (.position 2))]
    ∃ c, openOn source {} none = .ok c ∧
      lastRead c.columns (c.run ops).1 = some ([['\\', 'N'], ['x']], 0) ∧
      ((c.run ops).2.access .wasNull).1 = .ok (.truth true) := by
  intro source ops
  have history : (openOn source {} none).toOption.map (fun c =>
      (lastRead c.columns (c.run ops).1, (fieldValue c.columns [['\\', 'N'], ['x']] 0).isOk)) =
        some (some ([['\\', 'N'], ['x']], 0), true) := by decide +kernel
  obtain ⟨c, opened, facts⟩ := Except.exists_of_toOption_map_eq_some history
  obtain ⟨read, decodes⟩ := Prod.mk.inj facts
  obtain ⟨told, -⟩ := wasNull_run opened ops
  refine ⟨c, opened, read, ?_⟩
  rw [told, if_neg (by decide), read]
  cases value : fieldValue c.columns [['\\', 'N'], ['x']] 0 with
  | error e =>
    rw [value] at decodes
    cases decodes
  | ok v =>
    simp only [value]
    rfl

end Cursor

end RowStream
