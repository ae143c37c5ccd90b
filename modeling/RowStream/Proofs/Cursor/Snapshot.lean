import Mathlib.Data.List.Basic
import Mathlib.Order.Bounds.Defs
import RowStream.Proofs.Cursor.Row
import RowStream.Source.Basic

/-! Rows by names and fields one by one: both go by the first column of a name, and a row is refused
for whatever field it has that cannot be decoded. -/
namespace RowStream

theorem Column.indexOf_name_eq_ok_iff {columns : List Column} {name : Text} {i : Nat} :
    indexOf columns (.name name) = .ok i ↔
      IsLeast {i | (columns.map Column.name)[i]? = some name} i := by
  have found : indexOf columns (.name name) = .ok i ↔
      (columns.findIdx? fun c => c.name = name) = some i := by
    rw [indexOf, lookup_byName]
    cases columns.findIdx? fun c => c.name = name <;> simp
  have named (j : Nat) : (columns.map Column.name)[j]? = some name ↔
      ∃ inside : j < columns.length, columns[j].name = name := by
    rw [List.getElem?_map, Option.map_eq_some_iff]
    simp only [List.getElem?_eq_some_iff]
    constructor
    · rintro ⟨column, ⟨inside, rfl⟩, same⟩
      exact ⟨inside, same⟩
    · rintro ⟨inside, same⟩
      exact ⟨_, ⟨inside, rfl⟩, same⟩
  rw [found, List.findIdx?_eq_some_iff_getElem]
  constructor
  · rintro ⟨inside, same, least⟩
    refine ⟨(named i).2 ⟨inside, of_decide_eq_true same⟩, ?_⟩
    intro j stands
    obtain ⟨_, other⟩ := (named j).1 stands
    apply Nat.le_of_not_lt
    intro before
    exact least j before (decide_eq_true other)
  · rintro ⟨stands, least⟩
    obtain ⟨inside, same⟩ := (named i).1 stands
    refine ⟨inside, decide_eq_true same, ?_⟩
    intro j before other
    have earlier := (named j).2 ⟨Nat.lt_trans before inside, of_decide_eq_true other⟩
    exact absurd (least earlier) (Nat.not_le_of_lt before)

namespace Cursor

open Column (First names)

variable {σ : Type} {c : Cursor σ} {columns : List Column} {tokens : List Text} {i j : Nat}
  {e e' : Error}

section

variable [ZoneDatabase]

/-- The error is that of the leftmost field whose token cannot be decoded. -/
def LeftmostFailure (columns : List Column) (tokens : List Text) (e : Error) : Prop :=
  ∃ (i : Nat) (column : Column) (token : Text), columns[i]? = some column ∧
    tokens[i]? = some token ∧ column.type.decode token = .error e ∧
    ∀ j < i, ∀ (column : Column) (token : Text), columns[j]? = some column →
      tokens[j]? = some token → ∃ v, column.type.decode token = .ok v

theorem FailsAt.unique (failed : FailsAt columns tokens i e)
    (failed' : FailsAt columns tokens j e') : e = e' := by
  have first {i j : Nat} {e e' : Error} (failed : FailsAt columns tokens i e)
      (failed' : FailsAt columns tokens j e') : i ≤ j := by
    apply Nat.le_of_not_lt
    intro before
    obtain ⟨v, read⟩ := failed.front j before
    rw [failed'.refused] at read
    cases read
  obtain rfl := Nat.le_antisymm (first failed failed') (first failed' failed)
  exact Except.error.inj (failed.refused.symm.trans failed'.refused)

theorem fieldValue_eq {column : Column} {token : Text} (stands : columns[i]? = some column)
    (given : tokens[i]? = some token) :
    fieldValue columns tokens i = column.type.decode token := by
  rw [fieldValue, stands, given]

theorem leftmostFailure_iff (width : tokens.length = columns.length) :
    LeftmostFailure columns tokens e ↔ ∃ i, FailsAt columns tokens i e := by
  have place {i : Nat} (inside : i < columns.length) :
      ∃ column token, columns[i]? = some column ∧ tokens[i]? = some token :=
    ⟨_, _, List.getElem?_eq_getElem inside, List.getElem?_eq_getElem (width ▸ inside)⟩
  constructor
  · rintro ⟨i, column, token, stands, given, refused, front⟩
    obtain ⟨inside, -⟩ := List.getElem?_eq_some_iff.1 stands
    refine ⟨i, inside, (fieldValue_eq stands given).trans refused, ?_⟩
    intro j before
    obtain ⟨column', token', stands', given'⟩ := place (Nat.lt_trans before inside)
    rw [fieldValue_eq stands' given']
    exact front j before column' token' stands' given'
  · rintro ⟨i, inside, refused, front⟩
    obtain ⟨column, token, stands, given⟩ := place inside
    refine ⟨i, column, token, stands, given, (fieldValue_eq stands given).symm.trans refused, ?_⟩
    intro j before column' token' stands' given'
    rw [← fieldValue_eq stands' given']
    exact front j before

/-- A row is refused exactly where a field cannot be decoded. -/
theorem OnTokens.row_eq_error_iff (here : c.OnTokens columns tokens)
    (width : tokens.length = columns.length) :
    c.row.1 = .error e ↔ LeftmostFailure columns tokens e := by
  rw [leftmostFailure_iff width]
  rcases here.row_cases with ⟨i, e', failed, refused⟩ | ⟨whole, decodes⟩
  · rw [refused]
    constructor
    · rintro ⟨⟩
      exact ⟨i, failed⟩
    · rintro ⟨j, failed'⟩
      rw [failed.unique failed']
  · rw [whole]
    refine iff_of_false (fun same => nomatch same) ?_
    rintro ⟨i, failed⟩
    exact failed.not_decodes decodes

omit [ZoneDatabase] in
theorem findColumn_eq_ok_iff (stillOpen : c.isClosed = false) {name : Text} {k : Nat} :
    c.findColumn (.name name) = .ok k ↔
      ∃ i, k = i + 1 ∧ IsLeast {i | (c.columns.map Column.name)[i]? = some name} i := by
  have found : c.findColumn (.name name) = (· + 1) <$> Column.indexOf c.columns (.name name) := by
    rw [findColumn, checkOpen, if_neg (by simp [stillOpen])]
    rfl
  rw [found]
  constructor
  · intro h
    obtain ⟨i, place, rfl⟩ := Except.of_map_eq_ok h
    exact ⟨i, rfl, Column.indexOf_name_eq_ok_iff.1 place⟩
  · rintro ⟨i, rfl, least⟩
    rw [Column.indexOf_name_eq_ok_iff.2 least]
    rfl

/-- The row has just the names, each where it comes first, and under every name the value that is
read under it, and under the position of its first column. -/
structure ShowsFields (names : List Text) (c : Cursor σ) (row : Row) : Prop where
  keys : row.map Prod.fst = names.eraseDups
  value : ∀ name ∈ names, ∃ v k, row.lookup name = some v ∧ c.findColumn (.name name) = .ok k ∧
    (c.getValue (.name name)).1 = .ok v ∧ (c.getValue (.position k)).1 = .ok v

theorem OnTokens.isClosed_eq (here : c.OnTokens columns tokens) : c.isClosed = false := by
  have row := here.row
  rw [isClosed]
  cases position : c.position with
  | closed =>
    rw [currentRow, position] at row
    cases row
  | beforeFirst | onRow | afterLast => rfl

/-- A row that is given shows what every cursor reads that is on it. -/
theorem OnTokens.showsFields {d : Cursor σ} (here : c.OnTokens columns tokens) {row : Row}
    (given : c.row.1 = .ok row) (there : d.OnTokens columns tokens) :
    ShowsFields (columns.map Column.name) d row := by
  obtain ⟨_, e, -, refused⟩ | ⟨whole, decodes⟩ := here.row_cases
  · rw [refused] at given
    cases given
  rw [whole] at given
  obtain rfl := Except.ok.inj given
  refine ⟨keys_keyed columns _, ?_⟩
  intro name mem
  obtain ⟨other, listed, rfl⟩ := List.mem_map.1 mem
  obtain ⟨i, column, first, same⟩ := Column.exists_first listed
  obtain ⟨inside, -⟩ := List.getElem?_eq_some_iff.1 first.1
  obtain ⟨v, read⟩ := decodes i inside
  have byName := first.indexOf_name
  have value := valueOf_first first read
  rw [same] at byName value
  refine ⟨v, i + 1, ?_, ?_, ?_, ?_⟩
  · rw [← value]
    exact List.lookup_graph _ (Column.mem_names.2 mem)
  · rw [findColumn_eq_ok_iff there.isClosed_eq, there.columns_eq]
    exact ⟨i, rfl, Column.indexOf_name_eq_ok_iff.1 byName⟩
  · rw [getValue, (there.readRef _).1, byName]
    exact read
  · rw [getValue, (there.readRef _).1, Int.natCast_succ, first.indexOf_position]
    exact read

variable [Source σ] {source : σ} {origin : Origin} {statement : Option Statement}

/-- While the cursor is open, a name means the first column that the header gives it to. On a row,
the row as a whole is refused exactly if a field of any column cannot be decoded, with the error of
the leftmost one. Otherwise it shows the fields by the header's names, and each of them is what
reading it by itself gives on that row, by name or by position, whatever else is done there. -/
theorem row_by_names (opened : openOn source origin statement = .ok c) :
    ∃ header, (transcriptOf source).header = some header ∧
      (∀ ops, (c.run ops).2.isClosed = false → ∀ name k,
        (c.run ops).2.findColumn (.name name) = .ok k ↔
          ∃ i, k = i + 1 ∧ IsLeast {i | header.names[i]? = some name} i) ∧
      ∀ ops n, (c.run ops).2.rowNumber = .ok (n + 1) →
        ∃ tokens, (transcriptOf source).records[n]? = some tokens ∧
          (∀ e, (c.run ops).2.row.1 = .error e ↔ LeftmostFailure c.columns tokens e) ∧
          ∀ row, (c.run ops).2.row.1 = .ok row →
            ∀ ops', (c.run ops').2.rowNumber = .ok (n + 1) →
              ShowsFields header.names (c.run ops').2 row := by
  obtain ⟨header, header_eq, names⟩ := header_openOn opened
  refine ⟨header, header_eq, ?_, ?_⟩
  · intro ops stillOpen name k
    rw [findColumn_eq_ok_iff stillOpen, columns_run, names]
  · intro ops n number
    obtain ⟨tokens, stands, here⟩ := onTokens_of_rowNumber opened ops number
    have width := (follows_openOn opened).2 tokens (List.mem_of_getElem? stands)
    refine ⟨tokens, stands, fun e => here.row_eq_error_iff width, ?_⟩
    intro row given ops' number'
    rw [← names]
    exact here.showsFields given (onTokens_of_record opened stands ops' number')

end

/-- A name given twice: the second column of it is not shown, and yet the next row is refused for
what that column has there. -/
theorem row_by_names_shadowed :
    let source := ScriptSource.ofScript
      [.ok (Utf8.encode "a\tb\ta\nint\ttext\tint\n1\tx\t2\n3\ty\tz\n".toList)] false
    ∃ c, openOn source {} none = .ok c ∧
      (∃ row, (c.run [.move .advance]).2.row.1 = .ok row ∧
        ShowsFields [['a'], ['b'], ['a']] (c.run [.move .advance]).2 row) ∧
      ∃ e, (c.run [.move .advance, .move .advance]).2.row.1 = .error e ∧
        LeftmostFailure c.columns [['3'], ['y'], ['z']] e := by
  intro source
  have content : (transcriptOf source).header =
        some ⟨[['a'], ['b'], ['a']], ["int".toList, "text".toList, "int".toList]⟩ ∧
      (transcriptOf source).records[1]? = some [['3'], ['y'], ['z']] := by
    rw [transcriptOf, ScriptSource.drain_eq]
    decide +kernel
  obtain ⟨header_eq, second⟩ := content
  have facts : (openOn source {} none).toOption.map (fun c =>
      ((c.run [.move .advance]).2.rowNumber.toOption, (c.run [.move .advance]).2.row.1.isOk,
        (c.run [.move .advance, .move .advance]).2.rowNumber.toOption,
        (c.run [.move .advance, .move .advance]).2.row.1.error?.isSome)) =
      some (some 1, true, some 2, true) := by decide +kernel
  obtain ⟨c, opened, facts⟩ := Except.exists_of_toOption_map_eq_some facts
  simp only [Prod.mk.injEq] at facts
  obtain ⟨number, given, number', refused⟩ := facts
  refine ⟨c, opened, ?_⟩
  obtain ⟨header, same, -, rows⟩ := row_by_names opened
  obtain rfl := Option.some.inj (header_eq.symm.trans same)
  constructor
  · obtain ⟨-, -, -, shown⟩ := rows _ 0 (Except.of_toOption_eq_some number)
    refine Except.exists_of_isOk given fun row eq => ?_
    exact shown row eq _ (Except.of_toOption_eq_some number)
  · obtain ⟨tokens, stands, failure, -⟩ := rows _ 1 (Except.of_toOption_eq_some number')
    obtain rfl := Option.some.inj (second.symm.trans stands)
    obtain ⟨e, found⟩ := Option.isSome_iff_exists.1 refused
    have failed := Except.of_error?_eq_some found
    exact ⟨e, failed, (failure e).1 failed⟩

end Cursor

end RowStream
