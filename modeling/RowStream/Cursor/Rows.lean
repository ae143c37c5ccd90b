import RowStream.Cursor.Access
import RowStream.Response.Remaining

/-! All the rows that a cursor has left. -/
namespace RowStream.Cursor

variable {σ : Type} [ZoneDatabase]

theorem reader_readField (c : Cursor σ) (i : Nat) : (c.readField i).2.reader = c.reader := by
  simp only [readField]
  split
  · rfl
  · split
    · rfl
    · split <;> rfl

theorem reader_readFields (columns : List Column) (i : Nat) (row : Row) (c : Cursor σ) :
    (readFields i row columns c).2.reader = c.reader := by
  induction columns generalizing i row c with
  | nil => rfl
  | cons column rest ih =>
    have := reader_readField c i
    simp only [readFields]
    split
    · simp_all
    · simp_all

theorem reader_row (c : Cursor σ) : c.row.2.reader = c.reader := by
  simp only [row]
  split
  · rfl
  · exact reader_readFields c.columns 0 [] c

variable [Source σ]

omit [ZoneDatabase] in
theorem remaining_lt_of_advance {c : Cursor σ} (h : c.advance.1 = .ok true) :
    c.advance.2.reader.remaining < c.reader.remaining := by
  simp only [advance] at h ⊢
  split at h
  · simp at h
  · simp at h
  · split at h
    · simp at h
    · simp at h
    · rename_i tokens reader given
      have := RecordReader.remaining_lt_of_next
        (show c.reader.next.1 = .ok (some tokens) by rw [given])
      simpa [given] using this

/-- Moves from row to row and uses each, until there is none or an error stops it. -/
def forRows {α : Type} (use : Cursor σ → Except Error α × Cursor σ)
    (keeps : ∀ c, (use c).2.reader = c.reader) (c : Cursor σ) :
    List α × Except Error Unit × Cursor σ :=
  match moved : c.advance with
  | (.error e, c) => ([], .error e, c)
  | (.ok false, c) => ([], .ok (), c)
  | (.ok true, next) =>
    have := remaining_lt_of_advance (c := c) (by rw [moved])
    have := keeps next
    match used : use next with
    | (.error e, c) => ([], .error e, c)
    | (.ok a, after) =>
      let (found, result, c) := forRows use keeps after
      (a :: found, result, c)
termination_by c.reader.remaining
decreasing_by simp_all

/-- The rows left, and how their reading ended. -/
def rest (c : Cursor σ) : List Row × Except Error Unit × Cursor σ := c.forRows row reader_row

end RowStream.Cursor
