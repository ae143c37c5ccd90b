import RowStream.CommandLine.Report
import RowStream.Proofs.Calendar.Instant
import RowStream.Proofs.Cursor.Row

/-! The rows that are dumped: those of the response, with instants in the places of timestamps. -/
namespace RowStream

variable [ZoneDatabase]

namespace Dump

open Column (First names)
open Cursor (OnTokens Decodes keyed valueOf fieldValue)

variable {σ : Type} {c d : Cursor σ} {columns : List Column} {tokens : List Text} {i : Nat}
  {column : Column} {zone : ZoneChoice}

/-- What is shown for the instant of a timestamp. -/
def shownInstant (instant : Option Timestamp) : Value := (instant.map Value.timestamp).getD .null

/-- What every cursor on these tokens reads as the timestamp of a column. -/
def instantOf (zone : ZoneChoice) (columns : List Column) (tokens : List Text) (ref : ColumnRef) :
    Except Error (Option Timestamp) :=
  Column.indexOf columns ref >>= fieldValue columns tokens >>=
    Cursor.converted none fun v => some <$> v.toTimestamp zone

theorem getTimestamp_eq (here : c.OnTokens columns tokens) (ref : ColumnRef) (zone : ZoneChoice) :
    (c.getTimestamp ref zone).1 = instantOf zone columns tokens ref ∧
      (c.getTimestamp ref zone).2.OnTokens columns tokens :=
  here.readAs ref none _

theorem instantOf_first (first : First columns i column) :
    instantOf zone columns tokens (.name column.name) =
      instantOf zone columns tokens (.position (i + 1)) := by
  rw [instantOf, instantOf, first.indexOf_name, first.indexOf_position]

/-- Of the columns named, each is shown as an instant unless one of them cannot be. -/
theorem withInstants_cases (here : c.OnTokens columns tokens) (zone : ZoneChoice)
    (stamps : List Text) (value : Text → Value) :
    (∃ name e, name ∈ stamps ∧ instantOf zone columns tokens (.name name) = .error e ∧
      (withInstants zone (keyed columns value) stamps c).1 = .error e) ∨
    ∃ shown : Text → Value,
      (withInstants zone (keyed columns value) stamps c).1 = .ok (keyed columns shown) ∧
      (∀ name, name ∉ stamps → shown name = value name) ∧
      ∀ name, name ∈ stamps → ∃ instant,
        instantOf zone columns tokens (.name name) = .ok instant ∧
          shown name = shownInstant instant := by
  induction stamps generalizing value c with
  | nil => exact .inr ⟨value, rfl, fun _ _ => rfl, fun _ mem => nomatch mem⟩
  | cons name rest ih =>
    obtain ⟨answer, after⟩ := getTimestamp_eq here (.name name) zone
    rw [withInstants]
    cases read : instantOf zone columns tokens (.name name) with
    | error e =>
      rw [← Prod.eta (c.getTimestamp _ _), answer, read]
      exact .inl ⟨name, e, List.mem_cons_self, read, rfl⟩
    | ok instant =>
      rw [← Prod.eta (c.getTimestamp _ _), answer, read]
      dsimp only
      rw [Cursor.replace_keyed]
      rcases ih after _ with ⟨other, e, mem, refused, failed⟩ | ⟨shown, done, others, stamped⟩
      · exact .inl ⟨other, e, List.mem_cons_of_mem _ mem, refused, failed⟩
      · refine .inr ⟨shown, done, ?_, ?_⟩
        · intro other fresh
          obtain ⟨differs, later⟩ := List.ne_and_not_mem_of_not_mem_cons fresh
          rw [others other later, if_neg differs]
        · intro other mem
          by_cases later : other ∈ rest
          · exact stamped other later
          · obtain rfl := (List.mem_cons.1 mem).resolve_right later
            exact ⟨instant, read, by rw [others other later, if_pos rfl, shownInstant]⟩

/-- A timestamp is among the columns of its name. -/
def Stamped (columns : List Column) (column : Column) : Prop :=
  ∃ other ∈ columns, other.name = column.name ∧ isTimestamp other

omit [ZoneDatabase] in
theorem mem_timestampNames : column.name ∈ timestampNames columns ↔ Stamped columns column := by
  simp only [timestampNames, List.mem_map, List.mem_filter, Stamped]
  constructor
  · rintro ⟨other, ⟨mem, stamp⟩, same⟩
    exact ⟨other, mem, same, stamp⟩
  · rintro ⟨other, mem, same, stamp⟩
    exact ⟨other, ⟨mem, stamp⟩, same⟩

/-- How a row is dumped that the cursor is on: the names of the columns, each once, with the value
of the first column of the name or, for some of them, with its instant. -/
structure Dumped (zone : ZoneChoice) (stamped : Column → Prop) (c : Cursor σ) (shown : Cursor.Row) :
    Prop where
  names : shown.map Prod.fst = Column.names c.columns
  value : ∀ i column, First c.columns i column → ¬ stamped column → ∃ row v,
    c.row.1 = .ok row ∧ (c.getValue (.position (i + 1))).1 = .ok v ∧ (column.name, v) ∈ row ∧
      (column.name, v) ∈ shown
  instant : ∀ i column, First c.columns i column → stamped column → ∃ instant,
    (c.getTimestamp (.position (i + 1)) zone).1 = .ok instant ∧
      (column.name, shownInstant instant) ∈ shown

theorem getValue_first (here : c.OnTokens columns tokens) (first : First columns i column) :
    (c.getValue (.position (i + 1))).1 = fieldValue columns tokens i := by
  rw [Cursor.getValue, (here.readRef _).1, first.indexOf_position]
  rfl

/-- A row with values in all its fields is dumped unless an instant is asked for that there is
not. -/
theorem row_cases (here : c.OnTokens columns tokens) (decodes : Decodes columns tokens)
    (zone : ZoneChoice) :
    (∃ i column e, First columns i column ∧ Stamped columns column ∧
      instantOf zone columns tokens (.position (i + 1)) = .error e ∧
      (row zone (timestampNames columns) c).1 = .error e) ∨
    ∃ shown, (row zone (timestampNames columns) c).1 = .ok shown ∧
      ∀ d : Cursor σ, d.OnTokens columns tokens → Dumped zone (Stamped columns) d shown := by
  have whole {d : Cursor σ} (here : d.OnTokens columns tokens) :
      d.row.1 = .ok (keyed columns (valueOf columns tokens)) :=
    (here.row_cases.resolve_left fun ⟨_, _, failed, _⟩ => failed.not_decodes decodes).1
  have after : c.row.2.OnTokens columns tokens := here.access .row
  rw [row, ← Prod.eta c.row, whole here]
  dsimp only
  rcases withInstants_cases after zone (timestampNames columns) (valueOf columns tokens)
    with ⟨name, e, mem, refused, failed⟩ | ⟨shown, done, others, stamped⟩
  · obtain ⟨other, listed, rfl⟩ := List.mem_map.1 mem
    obtain ⟨within, stamp⟩ := List.mem_filter.1 listed
    obtain ⟨i, column, first, same⟩ := Column.exists_first within
    rw [← same, instantOf_first first] at refused
    exact .inl ⟨i, column, e, first, ⟨other, within, same.symm, stamp⟩, refused, failed⟩
  · refine .inr ⟨_, done, fun d there => ⟨?_, ?_, ?_⟩⟩
    · rw [there.columns_eq, Cursor.keys_keyed]
    · intro i column first unstamped
      rw [there.columns_eq] at first
      obtain ⟨inside, -⟩ := List.getElem?_eq_some_iff.1 first.1
      have mem := List.mem_of_getElem? first.1
      obtain ⟨v, read⟩ := decodes i inside
      have value := Cursor.valueOf_first first read
      refine ⟨_, v, whole there, (getValue_first there first).trans read, ?_, ?_⟩
      · exact value ▸ Cursor.mem_keyed _ mem
      · rw [← value, ← others _ (mt mem_timestampNames.1 unstamped)]
        exact Cursor.mem_keyed _ mem
    · intro i column first stamp
      rw [there.columns_eq] at first
      have mem := List.mem_of_getElem? first.1
      obtain ⟨instant, read, same⟩ := stamped _ (mem_timestampNames.2 stamp)
      rw [instantOf_first first] at read
      refine ⟨instant, (getTimestamp_eq there _ zone).1.trans read, ?_⟩
      rw [← same]
      exact Cursor.mem_keyed _ mem

theorem withInstants_frame (zone : ZoneChoice) (row : Cursor.Row) (stamps : List Text)
    (c : Cursor σ) :
    ∃ cache wasNull, (withInstants zone row stamps c).2 = { c with cache, wasNull } := by
  induction stamps generalizing row c with
  | nil => exact ⟨_, _, rfl⟩
  | cons name rest ih =>
    obtain ⟨cache, wasNull, frame⟩ := c.access_frame (.timestamp (.name name) zone)
    change (c.getTimestamp (.name name) zone).2 = _ at frame
    rw [withInstants]
    generalize c.getTimestamp (.name name) zone = x at frame ⊢
    obtain ⟨e | instant, d⟩ := x
    · exact ⟨cache, wasNull, frame⟩
    · obtain rfl : d = _ := frame
      exact ih _ _

theorem readsOnly_row (zone : ZoneChoice) (stamps : List Text) :
    Cursor.ReadsOnly (row zone stamps : Cursor σ → Except Error Cursor.Row × Cursor σ) := by
  intro c
  obtain ⟨cache, wasNull, frame⟩ := Cursor.readsOnly_row c
  rw [row]
  generalize c.row = x at frame ⊢
  obtain ⟨e | row, d⟩ := x
  · exact ⟨cache, wasNull, frame⟩
  · obtain rfl : d = _ := frame
    exact withInstants_frame _ _ _ _

/-- A field of a timestamp column is null or a timestamp. -/
theorem timestamp_of_fieldValue (stamp : isTimestamp column) (stands : columns[i]? = some column)
    {v : Value} (read : fieldValue columns tokens i = .ok v) :
    v = .null ∨ ∃ t, v = .timestamp t := by
  obtain ⟨kind, a, type, known⟩ : ∃ kind a, column.type = .scalar kind a ∧
      (kind = .timestamp ∨ kind = .timestamptz) := by
    rw [isTimestamp] at stamp
    split at stamp
    · exact ⟨_, _, ‹_›, .inl rfl⟩
    · exact ⟨_, _, ‹_›, .inr rfl⟩
    · cases stamp
  rw [fieldValue, stands] at read
  cases token : tokens[i]? with
  | none =>
    rw [token] at read
    exact .inl (Except.ok.inj read).symm
  | some raw =>
    rw [token] at read
    change column.type.decode raw = .ok v at read
    rw [type, ColumnType.decode, ColumnType.decodeAs] at read
    split at read
    · exact .inl (Except.ok.inj read).symm
    · rcases known with rfl | rfl
      all_goals
        obtain ⟨t, -, same⟩ := Except.of_map_eq_ok read
        exact .inr ⟨t, same.symm⟩

/-- A timestamp column has an instant wherever that of its value lies in the calendar. -/
theorem instantOf_of_inCalendar {z : Zone} (resolved : zone.zone = .ok z)
    (first : First columns i column) (stamp : isTimestamp column) {v : Value}
    (read : fieldValue columns tokens i = .ok v)
    (inside : ∀ t, v = .timestamp t → Timestamp.InCalendar (t.instantIn z)) :
    ∃ instant, instantOf zone columns tokens (.position (i + 1)) = .ok instant := by
  have place : instantOf zone columns tokens (.position (i + 1)) =
      Cursor.converted none (fun v => some <$> v.toTimestamp zone) v := by
    rw [instantOf, first.indexOf_position]
    change fieldValue columns tokens i >>= _ = _
    rw [read]
    rfl
  rw [place]
  rcases timestamp_of_fieldValue stamp first.1 read with rfl | ⟨t, rfl⟩
  · exact ⟨none, rfl⟩
  · obtain ⟨u, moved⟩ := Timestamp.inUtc_of_inCalendar resolved (inside t rfl)
    refine ⟨some u, ?_⟩
    change some <$> (t.inUtc zone).mapError Error.calendar = _
    rw [moved]
    rfl

variable [Source σ] {source : σ} {origin : Origin} {statement : Option Statement}

/-- The rows shown are those that the cursor comes to, one by one from the first on, and each is
dumped as it is read there. -/
def Shows (zone : ZoneChoice) (stamped : Column → Prop) (c : Cursor σ) (shown : List Cursor.Row) :
    Prop :=
  ∀ (n : Nat) (row : Cursor.Row), shown[n]? = some row →
    (∃ ops, (c.run ops).2.rowNumber = .ok (n + 1)) ∧
      ∀ ops, (c.run ops).2.rowNumber = .ok (n + 1) → Dumped zone stamped (c.run ops).2 row

/-- In the row of this number an instant is asked for that there is not. -/
def Refuses (zone : ZoneChoice) (c : Cursor σ) (number : Nat) (e : Error) : Prop :=
  ∃ i column, First c.columns i column ∧ Stamped c.columns column ∧
    ∀ ops, (c.run ops).2.rowNumber = .ok number →
      ((c.run ops).2.getTimestamp (.position (i + 1)) zone).1 = .error e

theorem dumped_of_record (opened : Cursor.openOn source origin statement = .ok c) {n : Nat}
    (stands : (Cursor.transcriptOf source).records[n]? = some tokens)
    (decodes : Decodes c.columns tokens) (here : d.OnTokens c.columns tokens) {shown : Cursor.Row}
    (gave : (row zone (timestampNames c.columns) d).1 = .ok shown) {ops : List Cursor.Operation}
    (number : (c.run ops).2.rowNumber = .ok (n + 1)) :
    Dumped zone (Stamped c.columns) (c.run ops).2 shown := by
  have there := Cursor.onTokens_of_record opened stands ops number
  rcases row_cases here decodes zone with ⟨_, _, e, -, -, -, failed⟩ | ⟨_, done, dumped⟩
  · rw [failed] at gave
    cases gave
  · rw [done] at gave
    obtain rfl := Except.ok.inj gave
    exact dumped _ there

theorem refuses_of_record (opened : Cursor.openOn source origin statement = .ok c) {n : Nat}
    (stands : (Cursor.transcriptOf source).records[n]? = some tokens)
    (decodes : Decodes c.columns tokens) (here : d.OnTokens c.columns tokens) {e : Error}
    (failed : (row zone (timestampNames c.columns) d).1 = .error e) :
    Refuses zone c (n + 1) e := by
  rcases row_cases here decodes zone with
    ⟨i, column, e', first, stamped, refused, same⟩ | ⟨_, done, -⟩
  · obtain rfl : e = e' := Except.error.inj (failed.symm.trans same)
    refine ⟨i, column, first, stamped, fun ops number => ?_⟩
    have there := Cursor.onTokens_of_record opened stands ops number
    exact (getTimestamp_eq there _ zone).1.trans refused
  · rw [done] at failed
    cases failed

/-- All rows are dumped, or those in front of the first one with an instant that there is not. -/
theorem ofCursor_cases (opened : Cursor.openOn source origin statement = .ok c)
    (read : c.rest.2.1 = .ok ()) (zone : ZoneChoice) :
    ∃ shown, (ofCursor zone c).lines = shown.map (fun row => (Json.ofRow row).print) ∧
      Shows zone (Stamped c.columns) c shown ∧
      ((ofCursor zone c).failure = none ∧ shown.length = c.rest.1.length ∨
        ∃ e, (ofCursor zone c).failure = some e ∧ shown.length < c.rest.1.length ∧
          Refuses zone c (shown.length + 1) e) := by
  obtain ⟨whole, all, decoded⟩ := Cursor.rows_of_rest opened read
  obtain ⟨placed, ending⟩ := (Cursor.each_of_openOn opened
    (readsOnly_row zone (timestampNames c.columns)) (reader_row zone _)).places
  simp only [ofCursor]
  generalize c.forRows (row zone (timestampNames c.columns)) (reader_row zone _) = looped
    at placed ending ⊢
  obtain ⟨shown, result, after⟩ := looped
  refine ⟨shown, rfl, ?_, ?_⟩
  · intro n row place
    obtain ⟨tokens, d, stands, here, gave⟩ := placed n row place
    obtain ⟨inside, -⟩ := List.getElem?_eq_some_iff.1 stands
    refine ⟨Cursor.exists_rowNumber opened inside, fun ops number => ?_⟩
    exact dumped_of_record opened stands (decoded n tokens stands).1 here gave number
  · rcases ending with ⟨count, fault⟩ | ⟨tokens, d, e, stands, here, failed, rfl⟩
    · refine .inl ⟨?_, count.trans all.symm⟩
      cases result with
      | ok => rfl
      | error e =>
        have cause := (fault e).2 rfl
        rw [whole] at cause
        cases cause
    · obtain ⟨inside, -⟩ := List.getElem?_eq_some_iff.1 stands
      exact .inr ⟨e, rfl, all ▸ inside,
        refuses_of_record opened stands (decoded _ tokens stands).1 here failed⟩

end Dump

end RowStream
