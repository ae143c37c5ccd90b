import RowStream.Proofs.Cursor.Alike
import RowStream.Proofs.Success

/-! Reading the current row: nothing that was read before has a part in the answer. -/
namespace RowStream

namespace Course

variable {a : Course} {n : Nat}

/-- Moving on from the start comes to each row there is. -/
theorem place_of_advances (start : a.place = .beforeFirst) (within : n < a.records.length) :
    ((List.replicate (n + 1) (Cursor.Operation.move .advance)).foldl after a).place =
      .row (n + 1) := by
  induction n with
  | zero => simp [after, move, forward, start, within]
  | succ n ih =>
    have before := ih (Nat.lt_of_succ_lt within)
    have records := (fixed_foldl a (List.replicate (n + 1) (.move .advance))).1
    rw [List.replicate_succ', List.foldl_append, List.foldl_cons, List.foldl_nil]
    simp only [after, move, before, forward, records, if_pos within]

end Course

namespace Cursor

section

variable [ZoneDatabase]

section Position

variable {σ : Type} [Source σ] {c : Cursor σ} {a : Course} {n : Nat} {tokens : List Text}

theorem row_of_position (h : c.Follows a) (position : c.position = .onRow n tokens) :
    ∃ k, n = k + 1 ∧ a.place = .row (k + 1) ∧ a.records[k]? = some tokens := by
  have stands := h.stands
  generalize a.place = place at stands ⊢
  rw [position] at stands
  cases stands with
  | onRow split ahead =>
    rename_i passed more
    exact ⟨passed.length, rfl, rfl, by simp [split]⟩

theorem position_of_row (h : c.Follows a) (place : a.place = .row (n + 1))
    (record : a.records[n]? = some tokens) : c.position = .onRow (n + 1) tokens := by
  have stands := h.stands
  rw [place] at stands
  generalize c.position = position at stands ⊢
  generalize number : Place.row (n + 1) = place at stands
  cases stands with
  | onRow split ahead =>
    rename_i passed more found
    obtain rfl : n = passed.length := by simpa using number
    obtain rfl : found = tokens := by simpa [split] using record
    rfl
  | beforeFirst | afterLast | closed => cases number

/-- Whatever was done to come to a row, moving on as often as its number says comes there too. -/
theorem position_of_advances (start : c.Follows a) (first : a.place = .beforeFirst)
    {ops : List Operation} (position : (c.run ops).2.position = .onRow n tokens) :
    (c.run (List.replicate n (.move .advance))).2.position = .onRow n tokens := by
  obtain ⟨k, rfl, -, record⟩ := row_of_position (follows_run start ops) position
  rw [(Course.fixed_foldl a ops).1] at record
  obtain ⟨within, -⟩ := List.getElem?_eq_some_iff.1 record
  refine position_of_row (follows_run start _) (Course.place_of_advances first within) ?_
  rwa [(Course.fixed_foldl a _).1]

end Position

/-- A cursor on a row answers as if nothing had been read. Its columns are those it was opened
with. -/
structure ReadsAnew {σ : Type} (columns : List Column) (tokens : List Text) (c fresh : Cursor σ) :
    Prop where
  /-- A fresh cursor has come to the same row. -/
  row : c.currentRow = .ok tokens ∧ fresh.position = c.position
  /-- The value of a field is that of its token in this row. -/
  value : ∀ ref i, Column.indexOf columns ref = .ok i →
    (c.getValue ref).1 = fieldValue columns tokens i
  answer : ∀ q, q ≠ .wasNull → (c.access q).1 = (fresh.access q).1
  /-- On any other row with the same tokens in the fields that are read, from whatever source and
  after whatever was done, the answer is the same. -/
  fields : ∀ {τ : Type} [Source τ] {source : τ} {origin : Origin} {statement : Option Statement}
    {d : Cursor τ}, openOn source origin statement = .ok d → d.columns = columns →
    ∀ ops tokens' q, q ≠ .wasNull → (d.run ops).2.currentRow = .ok tokens' →
      (∀ i ∈ q.fields columns, tokens[i]? = tokens'[i]?) →
        (c.access q).1 = ((d.run ops).2.access q).1

variable {σ : Type} [Source σ] {c : Cursor σ} {source : σ} {origin : Origin}
  {statement : Option Statement}

/-- However a cursor came to a row, and whatever was read or refused or failed on the way, what is
read there is decoded from the tokens of that row, and from those that are asked for only. -/
theorem readsAnew_run (opened : openOn source origin statement = .ok c) (ops : List Operation)
    {n : Nat} {tokens : List Text} (position : (c.run ops).2.position = .onRow n tokens) :
    ReadsAnew c.columns tokens (c.run ops).2 (c.run (List.replicate n (.move .advance))).2 := by
  obtain ⟨start, -⟩ := follows_openOn opened
  have row : (c.run ops).2.currentRow = .ok tokens := by rw [currentRow, position]
  have cached := (follows_run start ops).cached
  have columns := columns_run c ops
  have anywhere {τ : Type} [Source τ] {source : τ} {origin : Origin} {statement : Option Statement}
      {d : Cursor τ} (opened' : openOn source origin statement = .ok d)
      (same : d.columns = c.columns) (ops' : List Operation) (tokens' : List Text) (q : Access)
      (other : q ≠ .wasNull) (row' : (d.run ops').2.currentRow = .ok tokens')
      (agree : ∀ i ∈ q.fields c.columns, tokens[i]? = tokens'[i]?) :
      ((c.run ops).2.access q).1 = ((d.run ops').2.access q).1 := by
    refine SameView.access ⟨?_, ?_, cached, (follows_run (follows_openOn opened').1 ops').cached⟩
      other
    · rw [columns, columns_run, same]
    · rw [row, row', columns]
      exact .row agree
  have fresh := position_of_advances start rfl position
  refine ⟨⟨row, fresh.trans position.symm⟩, ?_, ?_, anywhere⟩
  · intro ref i found
    obtain ⟨cache, eq, -⟩ := readField_of_row cached row i
    rw [columns] at eq
    rw [getValue, readRef, columns, found]
    exact congrArg Prod.fst eq
  · intro q other
    exact anywhere opened rfl _ tokens q other (by rw [currentRow, fresh]) fun _ _ => rfl

end

/-- Two rows of which the first has a bad field, read in all ways before the second is read. -/
theorem readsAnew_run_bad_field :
    let source := ScriptSource.ofScript
      [.ok (Utf8.encode "a\tb\nint\ttext\nx\thi\n7\t\\N\n".toList)] false
    let ops : List Operation := [.move .advance, .access .row, .access (.text (.position 2)),
      .move .isLast, .access (.bool (.position 2)), .move .advance, .access (.int (.position 1)),
      .access (.date (.position 1) .unspecified), .access (.text (.position 3))]
    ∃ c, openOn source {} none = .ok c ∧ ReadsAnew c.columns [['7'], ['\\', 'N']] (c.run ops).2
      (c.run [.move .advance, .move .advance]).2 := by
  intro source ops
  have stands : (openOn source {} none).toOption.map (fun c => (c.run ops).2.position) =
      some (.onRow 2 [['7'], ['\\', 'N']]) := by decide +kernel
  obtain ⟨c, opened, position⟩ := Except.exists_of_toOption_map_eq_some stands
  exact ⟨c, opened, readsAnew_run opened ops position⟩

end Cursor

end RowStream
