import RowStream.Cursor.Rows
import RowStream.Proofs.Cursor.Run
import RowStream.Proofs.Success

/-! Loops over the rows of a cursor, and what every cursor reads that is on the same row. -/
namespace RowStream

theorem Course.place_advances {a : Course} (start : a.place = .beforeFirst) {n : Nat}
    (inside : n < a.records.length) :
    ((List.replicate (n + 1) (.move .advance)).foldl after a).place = .row (n + 1) := by
  induction n with
  | zero => simp [after, move, forward, start, inside]
  | succ n ih =>
    have records := (fixed_foldl a (List.replicate (n + 1) (.move .advance))).1
    rw [List.replicate_succ', List.foldl_append, List.foldl_cons, List.foldl_nil, after, move,
      ih (Nat.lt_of_succ_lt inside)]
    change (forward _ (n + 1)).2.place = _
    rw [forward, records, if_pos inside]

namespace Cursor

variable {σ : Type} {c d : Cursor σ} {columns : List Column} {tokens : List Text}

section

variable [Source σ] {α : Type} {use : Cursor σ → Except Error α × Cursor σ}

theorem forRows_of_error {keeps : ∀ c, (use c).2.reader = c.reader} {e : Error}
    (moved : c.advance = (.error e, d)) : c.forRows use keeps = ([], .error e, d) := by
  rw [forRows]
  split <;> simp_all

theorem forRows_of_end {keeps : ∀ c, (use c).2.reader = c.reader}
    (moved : c.advance = (.ok false, d)) : c.forRows use keeps = ([], .ok (), d) := by
  rw [forRows]
  split <;> simp_all

theorem forRows_of_row {keeps : ∀ c, (use c).2.reader = c.reader}
    (moved : c.advance = (.ok true, d)) : c.forRows use keeps = match use d with
      | (.error e, after) => ([], .error e, after)
      | (.ok a, after) => (a :: (after.forRows use keeps).1, (after.forRows use keeps).2) := by
  rw [forRows]
  split
  · simp_all
  · simp_all
  · rename_i next same
    obtain rfl : d = next := by simpa [same] using moved.symm
    split <;> simp_all

end

variable [ZoneDatabase]

/-- The cursor is on a row of these tokens, whatever has been read of it. -/
structure OnTokens (columns : List Column) (tokens : List Text) (c : Cursor σ) : Prop where
  columns_eq : c.columns = columns
  row : c.currentRow = .ok tokens
  cached : c.Cached

theorem OnTokens.access (h : c.OnTokens columns tokens) (q : Access) :
    (c.access q).2.OnTokens columns tokens := by
  have cached := cached_access h.cached q
  obtain ⟨cache, wasNull, frame⟩ := access_frame c q
  rw [frame] at cached ⊢
  exact ⟨h.columns_eq, h.row, cached⟩

theorem OnTokens.readField (h : c.OnTokens columns tokens) (i : Nat) :
    (c.readField i).1 = fieldValue columns tokens i ∧
      (c.readField i).2.OnTokens columns tokens := by
  obtain ⟨rfl, row, cached⟩ := h
  obtain ⟨cache, eq, kept⟩ := readField_of_row cached row i
  rw [eq] at kept ⊢
  exact ⟨rfl, rfl, row, kept⟩

theorem OnTokens.readRef (h : c.OnTokens columns tokens) (ref : ColumnRef) :
    (c.readRef ref).1 = (Column.indexOf columns ref >>= fieldValue columns tokens) ∧
      (c.readRef ref).2.OnTokens columns tokens := by
  rw [Cursor.readRef, h.columns_eq]
  cases Column.indexOf columns ref with
  | error e => exact ⟨rfl, h⟩
  | ok i => exact h.readField i

/-- The conversion of a value that may be null. -/
def converted {α : Type} (absent : α) (convert : Value → Except Error α) : Value → Except Error α
  | .null => .ok absent
  | v => convert v

theorem OnTokens.readAs (h : c.OnTokens columns tokens) {α : Type} (ref : ColumnRef) (absent : α)
    (convert : Value → Except Error α) :
    (c.readAs ref absent convert).1 =
        (Column.indexOf columns ref >>= fieldValue columns tokens >>= converted absent convert) ∧
      (c.readAs ref absent convert).2.OnTokens columns tokens := by
  obtain ⟨answer, after⟩ := h.readRef ref
  rw [Cursor.readAs, ← answer]
  generalize c.readRef ref = x at after ⊢
  obtain ⟨e | v, d⟩ := x
  · exact ⟨rfl, after⟩
  · cases v <;> exact ⟨rfl, after⟩

/-- Whatever is done with rows of the tokens, up to the end or to the first failure. -/
inductive Each {α : Type} (use : Cursor σ → Except Error α × Cursor σ) (columns : List Column)
    (fault : Option Error) : List (List Text) → List α → Except Error Unit → Prop where
  | finished : Each use columns fault [] [] (match fault with
    | none => .ok ()
    | some e => .error e)
  | stopped {d : Cursor σ} {tokens : List Text} {more : List (List Text)} {e : Error}
    (here : d.OnTokens columns tokens) (failed : (use d).1 = .error e) :
    Each use columns fault (tokens :: more) [] (.error e)
  | used {d : Cursor σ} {tokens : List Text} {more : List (List Text)} {a : α} {found : List α}
    {result : Except Error Unit} (here : d.OnTokens columns tokens) (gave : (use d).1 = .ok a)
    (others : Each use columns fault more found result) :
    Each use columns fault (tokens :: more) (a :: found) result

/-- The results are those of the records in order, all of them unless a failure is there first. -/
theorem Each.places {α : Type} {use : Cursor σ → Except Error α × Cursor σ} {fault : Option Error}
    {records : List (List Text)} {found : List α} {result : Except Error Unit}
    (each : Each use columns fault records found result) :
    (∀ (n : Nat) (a : α), found[n]? = some a → ∃ tokens d, records[n]? = some tokens ∧
      d.OnTokens columns tokens ∧ (use d).1 = .ok a) ∧
    ((found.length = records.length ∧ ∀ e, fault = some e ↔ result = .error e) ∨
      ∃ tokens d e, records[found.length]? = some tokens ∧ d.OnTokens columns tokens ∧
        (use d).1 = .error e ∧ result = .error e) := by
  induction each with
  | finished =>
    refine ⟨(fun n a place => nomatch place), .inl ⟨rfl, ?_⟩⟩
    intro e
    cases fault <;> simp
  | stopped here failed =>
    exact ⟨(fun n a place => nomatch place), .inr ⟨_, _, _, rfl, here, failed, rfl⟩⟩
  | used here gave others ih =>
    obtain ⟨placed, ending⟩ := ih
    constructor
    · intro n a place
      cases n with
      | zero =>
        cases place
        exact ⟨_, _, rfl, here, gave⟩
      | succ n => exact placed n a place
    · rcases ending with ⟨all, ended⟩ | stopped
      · exact .inl ⟨congrArg Nat.succ all, ended⟩
      · exact .inr stopped

variable [Source σ] {α : Type} {use : Cursor σ → Except Error α × Cursor σ}

/-- A use of rows that only reads them. -/
def ReadsOnly (use : Cursor σ → Except Error α × Cursor σ) : Prop :=
  ∀ c : Cursor σ, ∃ cache wasNull, (use c).2 = { c with cache, wasNull }

/-- A loop comes to the records left one after the other. -/
theorem each_forRows (readsOnly : ReadsOnly use) (keeps : ∀ c, (use c).2.reader = c.reader)
    {records : List (List Text)} {fault : Option Error}
    (place : c.position = .beforeFirst ∨ ∃ n tokens, c.position = .onRow n tokens)
    (ahead : c.reader.records = (records, fault)) :
    Each use c.columns fault records (c.forRows use keeps).1 (c.forRows use keeps).2.1 := by
  induction records generalizing c with
  | nil =>
    have moved := advance_eq place
    cases fault with
    | some e =>
      rw [← Prod.eta c.reader.next, RecordReader.next_of_fault_left ahead] at moved
      rw [forRows_of_error moved]
      exact .finished
    | none =>
      rw [← Prod.eta c.reader.next, RecordReader.next_of_no_records ahead] at moved
      rw [forRows_of_end moved]
      exact .finished
  | cons tokens more ih =>
    have moved := advance_eq place
    obtain ⟨answer, after⟩ := RecordReader.next_of_record_left ahead
    rw [← Prod.eta c.reader.next, answer] at moved
    have here : c.advance.2.OnTokens c.columns tokens := by
      rw [moved]
      exact ⟨rfl, rfl, cached_of_empty rfl⟩
    obtain ⟨cache, wasNull, frame⟩ := readsOnly c.advance.2
    have next : c.advance = (.ok true, c.advance.2) := by rw [moved]
    rw [forRows_of_row next]
    rcases used : use c.advance.2 with ⟨e | a, d⟩
    · exact .stopped here (congrArg Prod.fst used)
    · rw [used, moved] at frame
      change d = _ at frame
      have columns : d.columns = c.columns := by rw [frame]
      have place : d.position = .onRow (rowsPassed c.position + 1) tokens := by rw [frame]
      have ahead : d.reader.records = (more, fault) := by rw [frame, ← after]
      rw [← columns] at here ⊢
      exact .used here (congrArg Prod.fst used) (ih (.inr ⟨_, _, place⟩) ahead)

variable {source : σ} {origin : Origin} {statement : Option Statement}

/-- From an opened cursor, a loop comes to the records of the transcript. -/
theorem each_of_openOn (opened : openOn source origin statement = .ok c)
    (readsOnly : ReadsOnly use) (keeps : ∀ c, (use c).2.reader = c.reader) :
    Each use c.columns (transcriptOf source).fault (transcriptOf source).records
      (c.forRows use keeps).1 (c.forRows use keeps).2.1 := by
  have stands := (follows_openOn opened).1.stands
  generalize position : c.position = p at stands
  cases stands with
  | beforeFirst ahead => exact each_forRows readsOnly keeps (.inl position) ahead

/-- On the row of a number, a cursor has the tokens of the record of that number. -/
theorem onTokens_of_rowNumber (opened : openOn source origin statement = .ok c)
    (ops : List Operation) {n : Nat} (number : (c.run ops).2.rowNumber = .ok (n + 1)) :
    ∃ tokens, (transcriptOf source).records[n]? = some tokens ∧
      (c.run ops).2.OnTokens c.columns tokens := by
  have follows := follows_run (follows_openOn opened).1 ops
  have records := (Course.fixed_foldl (.start (transcriptOf source).records
    (transcriptOf source).fault (closing statement)) ops).1
  obtain ⟨-, -, passed⟩ := Except.of_bind_eq_ok number
  have passed := Except.ok.inj passed
  have stands := follows.stands
  generalize position : (c.run ops).2.position = p,
    (ops.foldl Course.after (.start _ _ _)).place = place at stands passed
  cases stands with
  | onRow split ahead =>
    rename_i before more tokens
    obtain rfl : before.length = n := Nat.succ.inj passed
    refine ⟨tokens, ?_, columns_run c ops, ?_, follows.cached⟩
    · rw [records] at split
      change (transcriptOf source).records = _ at split
      simp [split]
    · rw [currentRow, position]
  | beforeFirst | afterLast | closed => cases passed

theorem onTokens_of_record (opened : openOn source origin statement = .ok c) {n : Nat}
    (stands : (transcriptOf source).records[n]? = some tokens) (ops : List Operation)
    (number : (c.run ops).2.rowNumber = .ok (n + 1)) :
    (c.run ops).2.OnTokens c.columns tokens := by
  obtain ⟨tokens', same, here⟩ := onTokens_of_rowNumber opened ops number
  obtain rfl := Option.some.inj (stands.symm.trans same)
  exact here

/-- Advancing comes to every row. -/
theorem exists_rowNumber (opened : openOn source origin statement = .ok c) {n : Nat}
    (inside : n < (transcriptOf source).records.length) :
    ∃ ops, (c.run ops).2.rowNumber = .ok (n + 1) := by
  have place := Course.place_advances (a := .start (transcriptOf source).records
    (transcriptOf source).fault (closing statement)) rfl inside
  have follows := follows_run (follows_openOn opened).1 (List.replicate (n + 1) (.move .advance))
  have stillOpen := mt (isClosed_iff follows).1 (by simp [place])
  refine ⟨List.replicate (n + 1) (.move .advance), ?_⟩
  rw [rowNumber, checkOpen, if_neg stillOpen, (position_eq follows).2.2.2, place]
  rfl

end Cursor

end RowStream
