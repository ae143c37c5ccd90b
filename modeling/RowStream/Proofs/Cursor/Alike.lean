import RowStream.Proofs.Cursor.Run

/-! Cursors that answer alike: in the fields that are read the same, or in all that can be asked. -/
namespace RowStream.Cursor

variable [ZoneDatabase]

section View

variable {σ τ : Type} {c : Cursor σ} {d : Cursor τ} {fields : List Nat}

/-- Two rows with the same tokens in the fields, or none for the same reason. -/
inductive SameTokens (fields : List Nat) :
    Except Error (List Text) → Except Error (List Text) → Prop where
  | row {tokens tokens' : List Text} (same : ∀ i ∈ fields, tokens[i]? = tokens'[i]?) :
    SameTokens fields (.ok tokens) (.ok tokens')
  | refused (e : Error) : SameTokens fields (.error e) (.error e)

omit [ZoneDatabase] in
theorem sameTokens_refl (fields : List Nat) (row : Except Error (List Text)) :
    SameTokens fields row row := by
  cases row with
  | error e => exact .refused e
  | ok tokens => exact .row fun _ _ => rfl

/-- What the fields are read from is the same. The values that are kept may be others, as long as
they are values of the row. -/
structure SameView (fields : List Nat) (c : Cursor σ) (d : Cursor τ) : Prop where
  columns : c.columns = d.columns
  row : SameTokens fields c.currentRow d.currentRow
  left : c.Cached
  right : d.Cached

/-- Two reads have the same answer, and leave the same view behind. -/
def Agree {α : Type} (fields : List Nat) (x : Except Error α × Cursor σ)
    (y : Except Error α × Cursor τ) : Prop := x.1 = y.1 ∧ SameView fields x.2 y.2

theorem Agree.pairs {α : Type} {x : Except Error α × Cursor σ} {y : Except Error α × Cursor τ}
    (h : Agree fields x y) :
    ∃ result c d, x = (result, c) ∧ y = (result, d) ∧ SameView fields c d :=
  ⟨x.1, x.2, y.2, rfl, Prod.ext h.1.symm rfl, h.2⟩

omit [ZoneDatabase] in
theorem isClosed_iff_refused : c.isClosed = true ↔ c.currentRow = .error (.state .closed) := by
  rw [isClosed, currentRow, decide_eq_true_iff]
  cases c.position <;> simp

namespace SameView

theorem refused_iff (h : SameView fields c d) (e : Error) :
    c.currentRow = .error e ↔ d.currentRow = .error e := by
  have row := h.row
  generalize c.currentRow = r, d.currentRow = r' at row
  cases row <;> simp

theorem checkOpen (h : SameView fields c d) : c.checkOpen = d.checkOpen := by
  have same : c.isClosed = d.isClosed := by
    rw [Bool.eq_iff_iff, isClosed_iff_refused, isClosed_iff_refused]
    exact h.refused_iff _
  rw [Cursor.checkOpen, Cursor.checkOpen, same]

theorem readField {i : Nat} (h : SameView fields c d) (mem : i ∈ fields) :
    Agree fields (c.readField i) (d.readField i) := by
  cases row : c.currentRow with
  | error e =>
    have row' := (h.refused_iff e).1 row
    rw [readField_of_refused row, readField_of_refused row']
    exact ⟨rfl, h⟩
  | ok tokens =>
    obtain ⟨columns, rows, left, right⟩ := id h
    rw [row] at rows
    generalize row' : d.currentRow = r at rows
    cases rows with
    | @row _ tokens' same =>
      obtain ⟨cache, eq, kept⟩ := readField_of_row left row i
      obtain ⟨cache', eq', kept'⟩ := readField_of_row right row' i
      rw [eq] at kept ⊢
      rw [eq'] at kept' ⊢
      refine ⟨?_, columns, h.row, kept, kept'⟩
      rw [fieldValue, fieldValue, columns, same i mem]

theorem readRef {ref : ColumnRef} (h : SameView fields c d)
    (mem : ∀ i, Column.indexOf c.columns ref = .ok i → i ∈ fields) :
    Agree fields (c.readRef ref) (d.readRef ref) := by
  rw [Cursor.readRef, Cursor.readRef, ← h.columns]
  cases found : Column.indexOf c.columns ref with
  | error e => exact ⟨rfl, h⟩
  | ok i => exact h.readField (mem i found)

theorem readAs {α : Type} {ref : ColumnRef} (h : SameView fields c d)
    (mem : ∀ i, Column.indexOf c.columns ref = .ok i → i ∈ fields) (absent : α)
    (convert : Value → Except Error α) :
    (c.readAs ref absent convert).1 = (d.readAs ref absent convert).1 := by
  obtain ⟨result, c', d', eq, eq', -⟩ := (h.readRef mem).pairs
  rw [Cursor.readAs, Cursor.readAs, eq, eq']
  cases result with
  | error e => rfl
  | ok v => cases v <;> rfl

theorem readFields {i : Nat} {columns : List Column} (h : SameView fields c d)
    (mem : ∀ j ∈ List.range' i columns.length, j ∈ fields) (row : Row) :
    (readFields i row columns c).1 = (readFields i row columns d).1 := by
  induction columns generalizing c d i row with
  | nil => rfl
  | cons column columns ih =>
    rw [List.length_cons, List.range'_succ] at mem
    obtain ⟨first, others⟩ := List.forall_mem_cons.1 mem
    obtain ⟨result, c', d', eq, eq', view⟩ := (h.readField first).pairs
    rw [Cursor.readFields, Cursor.readFields, eq, eq']
    cases result with
    | error e => rfl
    | ok v => exact ih view others (Row.insert row column.name v)

theorem getText {ref : ColumnRef} (h : SameView fields c d)
    (mem : ∀ i, Column.indexOf c.columns ref = .ok i → i ∈ fields) :
    (c.getText ref).1 = (d.getText ref).1 := by
  rw [Cursor.getText, Cursor.getText, ← h.columns]
  cases found : Column.indexOf c.columns ref with
  | error e => rfl
  | ok i =>
    obtain ⟨result, c', d', eq, eq', view⟩ := (h.readField (mem i found)).pairs
    -- the text is that of the token, not of the value, and is taken once the field has been read
    have token : c'.currentRow.toOption.bind (·[i]?) = d'.currentRow.toOption.bind (·[i]?) := by
      have row := view.row
      generalize c'.currentRow = r, d'.currentRow = r' at row
      cases row with
      | refused e => rfl
      | row same => exact same i (mem i found)
    dsimp only
    rw [eq, eq']
    cases result with
    | error e => rfl
    | ok v => cases v <;> simp only [token]

/-- The fields that an access reads, and no others, decide its answer. -/
theorem access {q : Access} (h : SameView (q.fields c.columns) c d) (other : q ≠ .wasNull) :
    (c.access q).1 = (d.access q).1 := by
  have mem {ref : ColumnRef} (i : Nat) (found : Column.indexOf c.columns ref = .ok i) :
      i ∈ (Column.indexOf c.columns ref).toOption.toList := by
    rw [found]
    exact List.mem_singleton_self i
  cases q with
  | columns =>
    refine congrArg (Except.map _) ?_
    rw [openColumns, openColumns, h.checkOpen, h.columns]
  | column ref =>
    refine congrArg (Except.map _) ?_
    rw [Cursor.column, Cursor.column, h.checkOpen, h.columns]
  | findColumn ref =>
    refine congrArg (Except.map _) ?_
    rw [Cursor.findColumn, Cursor.findColumn, h.checkOpen, h.columns]
  | wasNull => exact absurd rfl other
  | value ref => exact congrArg (Except.map _) (h.readRef mem).1
  | text ref => exact congrArg (Except.map _) (h.getText mem)
  | row =>
    refine congrArg (Except.map _) ?_
    rw [Cursor.row, Cursor.row, ← h.columns]
    cases row : c.currentRow with
    | error e => rw [(h.refused_iff e).1 row]
    | ok tokens =>
      cases row' : d.currentRow with
      | error e =>
        rw [(h.refused_iff e).2 row'] at row
        cases row
      | ok tokens' => exact h.readFields (fun j within => by
          rwa [Access.fields, List.range_eq_range']) []
  | int | float | bool | decimal | bytes | date | time | timestamp | list =>
    exact congrArg (Except.map _) (h.readAs mem _ _)

end SameView

end View

variable {σ : Type} [Source σ] {c d : Cursor σ} {a : Course}

/-- Both cursors follow one course, and nothing they can be asked tells them apart. -/
structure Alike (c d : Cursor σ) (a : Course) : Prop where
  left : c.Follows a
  right : d.Follows a
  columns : c.columns = d.columns
  wasNull : c.wasNull = d.wasNull

theorem position_of_follows (left : c.Follows a) (right : d.Follows a) :
    c.position = d.position := by
  have one := left.stands
  have other := right.stands
  generalize c.position = p, d.position = q, a.place = place at one other
  cases one with
  | beforeFirst | afterLast | closed =>
    cases other
    rfl
  | onRow split _ =>
    generalize number : Place.row _ = place at other
    cases other with
    | onRow split' _ =>
      rename_i passed _ _ _ passed' _ _ _
      have count : passed.length = passed'.length := by simpa using number
      rw [split] at split'
      obtain ⟨rfl, -⟩ := List.cons.inj (List.append_inj_right split' count)
      rw [count]
    | beforeFirst | afterLast | closed => cases number

theorem Alike.currentRow (h : Alike c d a) : c.currentRow = d.currentRow := by
  rw [Cursor.currentRow, Cursor.currentRow, position_of_follows h.left h.right]

theorem Alike.view (h : Alike c d a) (fields : List Nat) : SameView fields c d :=
  ⟨h.columns, h.currentRow ▸ sameTokens_refl fields _, h.left.cached, h.right.cached⟩

theorem Alike.access (h : Alike c d a) (q : Access) :
    (c.access q).1 = (d.access q).1 ∧ (c.access q).2.wasNull = (d.access q).2.wasNull := by
  constructor
  · by_cases asked : q = .wasNull
    · rw [asked]
      refine congrArg (Except.map _) ?_
      rw [lastWasNull, lastWasNull, (h.view []).checkOpen, h.wasNull]
    · exact (h.view _).access asked
  · have row' := h.currentRow
    cases row : c.currentRow with
    | error e =>
      rw [access_of_refused row, access_of_refused (row'.symm.trans row)]
      exact h.wasNull
    | ok tokens =>
      rw [wasNull_access h.left.cached row, wasNull_access h.right.cached (row'.symm.trans row),
        h.columns, h.wasNull]

theorem alike_perform (h : Alike c d a) (op : Operation) :
    (c.perform op).1 = (d.perform op).1 ∧ Alike (c.perform op).2 (d.perform op).2 (a.after op) := by
  have left := (follows_perform h.left op).1
  have right := (follows_perform h.right op).1
  have columns : (c.perform op).2.columns = (d.perform op).2.columns := by
    rw [columns_perform, columns_perform, h.columns]
  cases op with
  | access q =>
    obtain ⟨answer, wasNull⟩ := h.access q
    exact ⟨answer, left, right, columns, wasNull⟩
  | move m =>
    obtain ⟨-, kept⟩ := move_frame c m
    obtain ⟨-, kept'⟩ := move_frame d m
    have answers := (follows_move h.left m).1.trans (follows_move h.right m).1.symm
    exact ⟨answers, left, right, columns, kept.trans (h.wasNull.trans kept'.symm)⟩

theorem event_eq (h : Alike c d a) (op : Operation) : c.event op = d.event op := by
  obtain ⟨answer, after⟩ := alike_perform h op
  rw [event, event, answer, after.currentRow]

end RowStream.Cursor
