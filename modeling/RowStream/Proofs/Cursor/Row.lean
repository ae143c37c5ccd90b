import RowStream.Proofs.Cursor.Loop

/-! Rows by the names of their columns: the first column of a name has its field. -/
namespace RowStream

namespace Column

/-- The column is at the index, and none before it has its name. -/
def First (columns : List Column) (i : Nat) (column : Column) : Prop :=
  columns[i]? = some column ∧
    ∀ j other, columns[j]? = some other → other.name = column.name → i ≤ j

/-- The names of the columns, each where it comes first. -/
def names (columns : List Column) : List Text := (columns.map Column.name).eraseDups

variable {columns before rest : List Column} {i j : Nat} {column other : Column}

theorem First.ne_before (first : First columns i column) {j : Nat} (before : j < i)
    (inside : j < columns.length) : columns[j].name ≠ column.name := fun same =>
  absurd (first.2 j _ (List.getElem?_eq_getElem inside) same) (Nat.not_le_of_lt before)

theorem First.indexOf_name (first : First columns i column) :
    indexOf columns (.name column.name) = .ok i := by
  obtain ⟨inside, eq⟩ := List.getElem?_eq_some_iff.1 first.1
  have found : (columns.findIdx? fun c => c.name = column.name) = some i := by
    refine List.findIdx?_eq_some_iff_getElem.2 ⟨inside, by simp [eq], ?_⟩
    intro j before same
    exact first.ne_before before (by omega) (of_decide_eq_true same)
  rw [indexOf, lookup_byName, found]

theorem First.find?_name (first : First columns i column) :
    columns.find? (fun c => c.name = column.name) = some column := by
  obtain ⟨inside, eq⟩ := List.getElem?_eq_some_iff.1 first.1
  refine List.find?_eq_some_iff_getElem.2 ⟨decide_eq_true rfl, i, inside, eq, ?_⟩
  intro j before
  simpa using first.ne_before before (by omega)

theorem First.indexOf_position (first : First columns i column) :
    indexOf columns (.position (i + 1)) = .ok i := by
  obtain ⟨inside, -⟩ := List.getElem?_eq_some_iff.1 first.1
  rw [indexOf, if_pos (by omega)]
  simp

theorem exists_first (mem : other ∈ columns) :
    ∃ i column, First columns i column ∧ column.name = other.name := by
  cases found : columns.findIdx? fun c => c.name = other.name with
  | none => simpa using List.findIdx?_eq_none_iff.1 found other mem
  | some i =>
    obtain ⟨inside, same, least⟩ := List.findIdx?_eq_some_iff_getElem.1 found
    have same : columns[i].name = other.name := of_decide_eq_true same
    refine ⟨i, columns[i], ⟨List.getElem?_eq_getElem inside, ?_⟩, same⟩
    intro j earlier stands alike
    obtain ⟨_, rfl⟩ := List.getElem?_eq_some_iff.1 stands
    apply Nat.le_of_not_lt
    intro before
    exact least j before (decide_eq_true (alike.trans same))

theorem first_of_not_mem (fresh : column.name ∉ before.map Column.name) :
    First (before ++ column :: rest) before.length column := by
  refine ⟨by simp, ?_⟩
  intro j other stands same
  apply Nat.le_of_not_lt
  intro inside
  rw [List.getElem?_append_left inside] at stands
  exact fresh (same ▸ List.mem_map_of_mem (List.mem_of_getElem? stands))

theorem mem_names {name : Text} : name ∈ names columns ↔ name ∈ columns.map Column.name :=
  List.mem_eraseDups

theorem names_concat (columns : List Column) (column : Column) :
    names (columns ++ [column]) =
      if column.name ∈ columns.map Column.name then names columns
      else names columns ++ [column.name] := by
  rw [names, names, List.map_append, List.eraseDups_append, List.map_singleton]
  generalize columns.map Column.name = earlier
  by_cases known : column.name ∈ earlier
  · simp [known, List.removeAll]
  · simp [known, List.removeAll, List.eraseDups_cons]

end Column

namespace Cursor

open Column (First names)

variable {columns before rest : List Column} {column : Column} {value : Text → Value}

/-- A row with a field for each name. -/
def keyed (columns : List Column) (value : Text → Value) : Row :=
  (names columns).map fun name => (name, value name)

theorem insert_keyed {v : Value} (agree : column.name ∉ columns.map Column.name →
    value column.name = v) :
    Row.insert (keyed columns value) column.name v = keyed (columns ++ [column]) value := by
  have present : ((keyed columns value).any fun field => field.1 = column.name) =
      decide (column.name ∈ columns.map Column.name) := by
    rw [Bool.eq_iff_iff, List.any_eq_true, decide_eq_true_iff, ← Column.mem_names]
    constructor
    · rintro ⟨field, mem, same⟩
      obtain ⟨name, listed, rfl⟩ := List.mem_map.1 mem
      exact of_decide_eq_true same ▸ listed
    · intro listed
      exact ⟨_, List.mem_map_of_mem listed, decide_eq_true rfl⟩
  rw [Row.insert, present, keyed, keyed, Column.names_concat]
  by_cases known : column.name ∈ columns.map Column.name
  · simp [known]
  · simp [known, agree known]

theorem replace_keyed (columns : List Column) (value : Text → Value) (name : Text) (v : Value) :
    Row.replace (keyed columns value) name v =
      keyed columns fun other => if other = name then v else value other := by
  rw [Row.replace, keyed, keyed, List.map_map]
  apply List.map_congr_left
  intro other mem
  by_cases same : other = name
  · simp [same]
  · simp [same]

theorem mem_keyed (value : Text → Value) (mem : column ∈ columns) :
    (column.name, value column.name) ∈ keyed columns value :=
  List.mem_map_of_mem (Column.mem_names.2 (List.mem_map_of_mem mem))

theorem keys_keyed (columns : List Column) (value : Text → Value) :
    (keyed columns value).map Prod.fst = names columns := by
  rw [keyed, List.map_map]
  exact List.map_id _

variable [ZoneDatabase]

/-- The value in the first column of the name. -/
def valueOf (columns : List Column) (tokens : List Text) (name : Text) : Value :=
  ((Column.indexOf columns (.name name) >>= fieldValue columns tokens).toOption).getD .null

/-- Every field has a value. -/
def Decodes (columns : List Column) (tokens : List Text) : Prop :=
  ∀ i < columns.length, ∃ v, fieldValue columns tokens i = .ok v

variable {tokens : List Text} {i : Nat}

theorem valueOf_first (first : First columns i column) {v : Value}
    (read : fieldValue columns tokens i = .ok v) : valueOf columns tokens column.name = v := by
  rw [valueOf, first.indexOf_name]
  change (fieldValue columns tokens i).toOption.getD .null = v
  rw [read]
  rfl

variable {σ : Type} {c : Cursor σ}

/-- The field of the index has no value for the error, and every field in front of it has one. -/
structure FailsAt (columns : List Column) (tokens : List Text) (i : Nat) (e : Error) : Prop where
  inside : i < columns.length
  refused : fieldValue columns tokens i = .error e
  front : ∀ j < i, ∃ v, fieldValue columns tokens j = .ok v

theorem FailsAt.not_decodes {e : Error} (failed : FailsAt columns tokens i e) :
    ¬ Decodes columns tokens := by
  intro decodes
  obtain ⟨v, read⟩ := decodes i failed.inside
  rw [failed.refused] at read
  cases read

theorem readFields_cases (here : c.OnTokens columns tokens) (split : columns = before ++ rest)
    (front : ∀ j < before.length, ∃ v, fieldValue columns tokens j = .ok v) :
    (∃ i e, FailsAt columns tokens i e ∧
      (readFields before.length (keyed before (valueOf columns tokens)) rest c).1 = .error e) ∨
    (readFields before.length (keyed before (valueOf columns tokens)) rest c).1 =
        .ok (keyed columns (valueOf columns tokens)) ∧ Decodes columns tokens := by
  induction rest generalizing before c with
  | nil =>
    obtain rfl : columns = before := by rw [split, List.append_nil]
    exact .inr ⟨rfl, front⟩
  | cons column rest ih =>
    obtain ⟨answer, after⟩ := here.readField before.length
    have further : columns = (before ++ [column]) ++ rest := by simp [split]
    rw [readFields]
    cases read : fieldValue columns tokens before.length with
    | error e =>
      rw [← Prod.eta (c.readField before.length), answer, read]
      exact .inl ⟨before.length, e, ⟨by simp [split], read, front⟩, rfl⟩
    | ok v =>
      have insert : Row.insert (keyed before (valueOf columns tokens)) column.name v =
          keyed (before ++ [column]) (valueOf columns tokens) := by
        apply insert_keyed
        intro fresh
        exact valueOf_first (split ▸ Column.first_of_not_mem fresh) read
      rw [← Prod.eta (c.readField before.length), answer, read]
      dsimp only
      rw [insert]
      have later := ih after further
      rw [List.length_append, List.length_singleton] at later
      apply later
      intro j inside
      rcases Nat.lt_succ_iff_lt_or_eq.1 inside with earlier | rfl
      · exact front j earlier
      · exact ⟨v, read⟩

/-- A row is refused for the leftmost field without a value, or holds the value in the first column
of each name. -/
theorem OnTokens.row_cases (here : c.OnTokens columns tokens) :
    (∃ i e, FailsAt columns tokens i e ∧ c.row.1 = .error e) ∨
      c.row.1 = .ok (keyed columns (valueOf columns tokens)) ∧ Decodes columns tokens := by
  have read : c.row = readFields ([] : List Column).length (keyed [] (valueOf columns tokens))
      columns c := by
    rw [Cursor.row, here.row, here.columns_eq]
    rfl
  rw [read]
  exact readFields_cases here (List.nil_append columns).symm fun j inside =>
    absurd inside (Nat.not_lt_zero j)

theorem readsOnly_row : ReadsOnly (row : Cursor σ → Except Error Row × Cursor σ) :=
  fun c => access_frame c .row

/-- Where all rows left can be read, they are those of the records, with a value in every field. -/
theorem rows_of_rest [Source σ] {source : σ} {origin : Origin} {statement : Option Statement}
    (opened : openOn source origin statement = .ok c) (read : c.rest.2.1 = .ok ()) :
    (transcriptOf source).fault = none ∧
      c.rest.1.length = (transcriptOf source).records.length ∧
      ∀ (n : Nat) (tokens : List Text), (transcriptOf source).records[n]? = some tokens →
        Decodes c.columns tokens ∧
          c.rest.1[n]? = some (keyed c.columns (valueOf c.columns tokens)) := by
  obtain ⟨placed, ending⟩ := (each_of_openOn opened readsOnly_row reader_row).places
  change ((c.rest.1.length = _ ∧ ∀ e, _ ↔ c.rest.2.1 = .error e) ∨
    ∃ tokens d e, _ ∧ _ ∧ _ ∧ c.rest.2.1 = .error e) at ending
  rw [read] at ending
  rcases ending with ⟨all, fault⟩ | ⟨_, _, e, -, -, -, failed⟩
  · refine ⟨?_, all, ?_⟩
    · cases cause : (transcriptOf source).fault with
      | none => rfl
      | some e => cases (fault e).1 cause
    · intro n tokens stands
      obtain ⟨inside, -⟩ := List.getElem?_eq_some_iff.1 stands
      have found : c.rest.1[n]? = some c.rest.1[n] := List.getElem?_eq_getElem (all ▸ inside)
      obtain ⟨tokens', d, same, here, gave⟩ := placed n _ found
      obtain rfl := Option.some.inj (stands.symm.trans same)
      rcases here.row_cases with ⟨_, e, -, refused⟩ | ⟨whole, decodes⟩
      · rw [refused] at gave
        cases gave
      · rw [whole] at gave
        exact ⟨decodes, found.trans (congrArg some (Except.ok.inj gave).symm)⟩
  · cases failed

end Cursor

end RowStream
