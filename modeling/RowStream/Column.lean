import RowStream.ColumnType.Tag
import RowStream.Response.RecordReader

/-! The columns of a result: names, types, and where they come from. -/
namespace RowStream

structure Column where
  name : Text
  position : Nat
  type : ColumnType
  tag : Text
  tableName : Text
  catalogName : Text
  deriving DecidableEq, Repr

/-- The table and catalog that columns are said to belong to. A table without a name can be asked
for, but no column belongs to it. -/
structure Origin where
  tableName : Option Text := some []
  catalogName : Text := []
  deriving DecidableEq, Repr

/-- How a column is asked for. A truth value is refused although it would count as a number. -/
inductive ColumnRef where
  | position (n : Int)
  | name (t : Text)
  | flag (b : Bool)
  deriving DecidableEq, Repr

namespace Column

/-- Columns for names and tags taken in pairs, positions counted on from `position`. -/
def ofPairs [ZoneDatabase] (origin : Origin) (position : Nat) :
    List (Text × Text) → Except Error (List Column)
  | [] => .ok []
  | (name, tag) :: rest =>
    match ColumnType.ofTag tag, origin.tableName with
    | .error e, _ => .error e
    | .ok _, none => .error .namelessTable
    | .ok type, some tableName =>
      (⟨name, position, type, tag, tableName, origin.catalogName⟩ :: ·)
        <$> ofPairs origin (position + 1) rest

def ofHeader [ZoneDatabase] (origin : Origin) (header : Header) : Except Error (List Column) :=
  ofPairs origin 1 (header.names.zip header.tags)

/-- Gives a name an index, unless it has one. -/
def setDefault (indices : List (Text × Nat)) (name : Text) (i : Nat) : List (Text × Nat) :=
  if (indices.lookup name).isSome then indices else indices ++ [(name, i)]

/-- The indices that names have, each that of its first column. -/
def byName (columns : List Column) : List (Text × Nat) :=
  columns.zipIdx.foldl (fun indices (column, i) => setDefault indices column.name i) []

/-- The index of the column a reference means: that of the position, or that which the name has. -/
def indexOf (columns : List Column) : ColumnRef → Except Error Nat
  | .flag b => .error (.lookup (.flag b))
  | .position n =>
    if 1 ≤ n ∧ n ≤ columns.length then .ok (n - 1).toNat
    else .error (.lookup (.position n columns.length))
  | .name t =>
    match (byName columns).lookup t with
    | some i => .ok i
    | none => .error (.lookup (.unknownName t))

@[simp] theorem lookup_setDefault (indices : List (Text × Nat)) (name : Text) (i : Nat) (t : Text) :
    (setDefault indices name i).lookup t =
      (indices.lookup t).or (if name = t then some i else none) := by
  rw [setDefault]
  by_cases same : name = t
  · subst same
    cases found : indices.lookup name <;> simp [found, List.lookup_append]
  · have other : (t == name) = false := by simpa using Ne.symm same
    split <;> simp [List.lookup_append, List.lookup_cons, other]

/-- Of the columns counted on from an index, the first of a name gives it its index. -/
theorem lookup_foldl (columns : List Column) (start : Nat) (indices : List (Text × Nat))
    (t : Text) :
    ((columns.zipIdx start).foldl (fun indices (column, i) => setDefault indices column.name i)
      indices).lookup t =
        (indices.lookup t).or ((columns.findIdx? fun c => c.name = t).map (· + start)) := by
  induction columns generalizing start indices with
  | nil => simp
  | cons column columns ih =>
    rw [List.zipIdx_cons, List.foldl_cons, ih, lookup_setDefault, Option.or_assoc,
      List.findIdx?_cons]
    by_cases same : column.name = t
    · simp [same]
    · cases columns.findIdx? fun c => c.name = t <;> simp [same, Nat.add_comm, Nat.add_left_comm]

/-- A name means the first of its columns. -/
theorem lookup_byName (columns : List Column) (t : Text) :
    (byName columns).lookup t = columns.findIdx? fun c => c.name = t := by
  rw [byName, lookup_foldl]
  simp

end Column

end RowStream
