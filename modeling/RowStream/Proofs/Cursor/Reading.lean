import RowStream.Proofs.Cursor.Operation

/-! What the accesses read of a row, and the values of it that a cursor keeps. -/
namespace RowStream.Cursor

variable {σ : Type} {c d : Cursor σ} {tokens : List Text}

/-- The indices of the fields that an access reads, one after the other until one fails. -/
def Access.fields (columns : List Column) : Access → List Nat
  | .columns | .column _ | .findColumn _ | .wasNull => []
  | .row => List.range columns.length
  | .value ref | .text ref | .int ref | .float ref | .bool ref | .decimal ref _ | .bytes ref
  | .date ref _ | .time ref _ | .timestamp ref _ | .list ref =>
    (Column.indexOf columns ref).toOption.toList

variable [ZoneDatabase]

/-- The cursor that has read the fields up to the first one that fails. -/
def readAll : List Nat → Cursor σ → Cursor σ
  | [], c => c
  | i :: rest, c =>
    match c.readField i with
    | (.error _, c) => c
    | (.ok _, c) => readAll rest c

theorem readAll_singleton (i : Nat) (c : Cursor σ) : readAll [i] c = (c.readField i).2 := by
  rw [readAll]
  rcases c.readField i with ⟨e | v, d⟩ <;> rfl

theorem readField_of_refused {e : Error} (refused : c.currentRow = .error e) (i : Nat) :
    c.readField i = (.error e, c) := by
  rw [readField, refused]

theorem readAll_of_refused {e : Error} (refused : c.currentRow = .error e) (indices : List Nat) :
    readAll indices c = c := by
  cases indices with
  | nil => rfl
  | cons i rest => rw [readAll, readField_of_refused refused i]

theorem readFields_eq_readAll (columns : List Column) (i : Nat) (row : Row) (c : Cursor σ) :
    (readFields i row columns c).2 = readAll (List.range' i columns.length) c := by
  induction columns generalizing i row c with
  | nil => rfl
  | cons column rest ih =>
    rw [readFields, List.length_cons, List.range'_succ, readAll]
    rcases c.readField i with ⟨e | v, d⟩
    · rfl
    · exact ih ..

theorem readRef_eq_readAll (c : Cursor σ) (ref : ColumnRef) :
    (c.readRef ref).2 = readAll (Column.indexOf c.columns ref).toOption.toList c := by
  rw [readRef]
  cases Column.indexOf c.columns ref with
  | error e => rfl
  | ok i => exact (readAll_singleton i c).symm

theorem readAs_eq_readAll {α : Type} (c : Cursor σ) (ref : ColumnRef) (absent : α)
    (convert : Value → Except Error α) :
    (c.readAs ref absent convert).2 = readAll (Column.indexOf c.columns ref).toOption.toList c := by
  rw [← readRef_eq_readAll, readAs]
  rcases c.readRef ref with ⟨e | v, d⟩
  · rfl
  · cases v <;> rfl

/-- All that an access does to a cursor is reading its fields. -/
theorem access_eq_readAll (c : Cursor σ) (q : Access) :
    (c.access q).2 = readAll (q.fields c.columns) c := by
  cases q with
  | columns | column | findColumn | wasNull => rfl
  | value ref => exact readRef_eq_readAll c ref
  | text ref =>
    simp only [access, answered, getText, Access.fields]
    cases Column.indexOf c.columns ref with
    | error e => rfl
    | ok i =>
      change _ = readAll [i] c
      rw [readAll_singleton]
      dsimp only
      rcases c.readField i with ⟨e | v, d⟩
      · rfl
      · cases v <;> rfl
  | row =>
    simp only [access, answered, row, Access.fields]
    split
    · rename_i refused
      exact (readAll_of_refused refused _).symm
    · rw [List.range_eq_range']
      exact readFields_eq_readAll c.columns 0 [] c
  | int | float | bool | decimal | bytes | date | time | timestamp | list =>
    simp only [access, answered, getInt, getFloat, getBool, getDecimal, getBytes, getDate, getTime,
      getTimestamp, getList, Access.fields]
    exact readAs_eq_readAll c _ _ _

/-- A field of a row has the value that is kept of it, or else it is decoded. -/
theorem readField_cases (row : c.currentRow = .ok tokens) (i : Nat) :
    (∃ v, c.cache.lookup i = some v ∧
      c.readField i = (.ok v, { c with wasNull := some (isNull v) })) ∨
    (∃ e, fieldValue c.columns tokens i = .error e ∧
      c.readField i = (.error e, { c with wasNull := none })) ∨
    ∃ v, fieldValue c.columns tokens i = .ok v ∧ c.readField i =
      (.ok v, { c with wasNull := some (isNull v), cache := (i, v) :: c.cache }) := by
  simp only [readField, row]
  cases found : c.cache.lookup i with
  | some v => exact .inl ⟨v, rfl, rfl⟩
  | none =>
    cases read : fieldValue c.columns tokens i with
    | error e => exact .inr (.inl ⟨e, rfl, rfl⟩)
    | ok v => exact .inr (.inr ⟨v, rfl, rfl⟩)

theorem readField_frame (c : Cursor σ) (i : Nat) :
    ∃ cache wasNull, (c.readField i).2 = { c with cache, wasNull } := by
  cases row : c.currentRow with
  | error e => exact ⟨_, _, congrArg Prod.snd (readField_of_refused row i)⟩
  | ok tokens =>
    rcases readField_cases row i with ⟨_, _, eq⟩ | ⟨_, _, eq⟩ | ⟨_, _, eq⟩
    all_goals exact ⟨_, _, congrArg Prod.snd eq⟩

theorem readAll_frame (indices : List Nat) (c : Cursor σ) :
    ∃ cache wasNull, readAll indices c = { c with cache, wasNull } := by
  induction indices generalizing c with
  | nil => exact ⟨_, _, rfl⟩
  | cons i rest ih =>
    obtain ⟨cache, wasNull, frame⟩ := readField_frame c i
    rw [readAll]
    generalize c.readField i = x at frame ⊢
    obtain ⟨e | v, d⟩ := x
    · exact ⟨cache, wasNull, frame⟩
    · obtain rfl : d = _ := frame
      exact ih _

/-- Only `wasNull` and the values that are kept remember an access. -/
theorem access_frame (c : Cursor σ) (q : Access) :
    ∃ cache wasNull, (c.access q).2 = { c with cache, wasNull } := by
  rw [access_eq_readAll]
  exact readAll_frame _ c

/-- What is kept is what decoding the fields of the current row gives. -/
def Cached (c : Cursor σ) : Prop :=
  ∀ i v, c.cache.lookup i = some v →
    ∃ tokens, c.currentRow = .ok tokens ∧ fieldValue c.columns tokens i = .ok v

theorem cached_of_empty (h : c.cache = []) : c.Cached := by
  intro i v found
  rw [h] at found
  cases found

/-- What `wasNull` remembers of a read: nothing, if it failed. -/
def nullness : Except Error Value → Option Bool
  | .ok v => some (isNull v)
  | .error _ => none

/-- A field of a row reads as its token decodes, whether its value was kept or not. -/
theorem readField_of_row (cached : c.Cached) (row : c.currentRow = .ok tokens) (i : Nat) :
    ∃ cache, c.readField i = (fieldValue c.columns tokens i,
        { c with cache, wasNull := nullness (fieldValue c.columns tokens i) }) ∧
      (c.readField i).2.Cached := by
  obtain ⟨v, found, eq⟩ | ⟨e, refused, eq⟩ | ⟨v, read, eq⟩ := readField_cases row i
  · obtain ⟨tokens', row', read⟩ := cached i v found
    rw [row] at row'
    cases row'
    refine ⟨c.cache, ?_, ?_⟩
    · rw [eq, read]
      rfl
    · rw [eq]
      exact cached
  · refine ⟨c.cache, ?_, ?_⟩
    · rw [eq, refused]
      rfl
    · rw [eq]
      exact cached
  · refine ⟨(i, v) :: c.cache, ?_, ?_⟩
    · rw [eq, read]
      rfl
    · rw [eq]
      intro j w found
      rw [List.lookup_cons] at found
      split at found
      · rename_i same
        cases found
        rw [beq_iff_eq] at same
        exact ⟨tokens, row, same ▸ read⟩
      · exact cached j w found

/-- A field of a row that is not null is converted from its value, whatever has been read before. -/
theorem readAs_of_row {α : Type} {v : Value} (cached : c.Cached) (row : c.currentRow = .ok tokens)
    {ref : ColumnRef} {i : Nat} (found : Column.indexOf c.columns ref = .ok i)
    (value : fieldValue c.columns tokens i = .ok v) (present : v ≠ .null) (absent : α)
    (convert : Value → Except Error α) :
    (c.readAs ref absent convert).1 = convert v := by
  obtain ⟨cache, eq, -⟩ := readField_of_row cached row i
  rw [readAs, readRef, found]
  simp only [eq, value]

theorem cached_readField (cached : c.Cached) (i : Nat) : (c.readField i).2.Cached := by
  cases row : c.currentRow with
  | error e => rwa [readField_of_refused row]
  | ok tokens =>
    obtain ⟨_, _, kept⟩ := readField_of_row cached row i
    exact kept

theorem cached_readAll (cached : c.Cached) (indices : List Nat) : (readAll indices c).Cached := by
  induction indices generalizing c with
  | nil => exact cached
  | cons i rest ih =>
    have kept := cached_readField cached i
    rw [readAll]
    generalize c.readField i = x at kept ⊢
    obtain ⟨e | v, d⟩ := x
    · exact kept
    · exact ih kept

theorem cached_access (cached : c.Cached) (q : Access) : (c.access q).2.Cached := by
  rw [access_eq_readAll]
  exact cached_readAll cached _

/-- What `wasNull` remembers once the fields have been read: of the first that fails nothing, or
else the last one. -/
def remembered (columns : List Column) (tokens : List Text) : List Nat → Option Bool → Option Bool
  | [], before => before
  | i :: rest, _ =>
    match fieldValue columns tokens i with
    | .error _ => none
    | .ok v => remembered columns tokens rest (some (isNull v))

theorem wasNull_readAll (cached : c.Cached) (row : c.currentRow = .ok tokens) (indices : List Nat) :
    (readAll indices c).wasNull = remembered c.columns tokens indices c.wasNull := by
  induction indices generalizing c with
  | nil => rfl
  | cons i rest ih =>
    obtain ⟨cache, eq, kept⟩ := readField_of_row cached row i
    rw [eq] at kept
    rw [readAll, remembered, eq]
    cases read : fieldValue c.columns tokens i with
    | error e => rfl
    | ok v =>
      rw [read] at kept
      exact ih kept row

theorem wasNull_access (cached : c.Cached) (row : c.currentRow = .ok tokens) (q : Access) :
    (c.access q).2.wasNull = remembered c.columns tokens (q.fields c.columns) c.wasNull := by
  rw [access_eq_readAll]
  exact wasNull_readAll cached row _

/-- Off a row, an access leaves the cursor as it is. -/
theorem access_of_refused {e : Error} (refused : c.currentRow = .error e) (q : Access) :
    (c.access q).2 = c := by
  rw [access_eq_readAll]
  exact readAll_of_refused refused _

end RowStream.Cursor
