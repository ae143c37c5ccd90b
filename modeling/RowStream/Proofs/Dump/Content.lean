import RowStream.Proofs.Dump.Rows

/-! The command that dumps a file, on responses whose rows can all be read. -/
namespace RowStream.Dump

open Column (First)

section Conditions

variable {σ : Type} {c : Cursor σ} {zone : ZoneChoice} {stamped stamped' : Column → Prop}

theorem Dumped.congr [ZoneDatabase] {shown : Cursor.Row} (h : Dumped zone stamped c shown)
    (same : ∀ i column, First c.columns i column → (stamped column ↔ stamped' column)) :
    Dumped zone stamped' c shown := by
  refine ⟨h.names, ?_, ?_⟩
  · intro i column first unstamped
    exact h.value i column first (mt (same i column first).1 unstamped)
  · intro i column first stamp
    exact h.instant i column first ((same i column first).2 stamp)

variable [Source σ]

theorem Shows.congr [ZoneDatabase] {shown : List Cursor.Row} (h : Shows zone stamped c shown)
    (same : ∀ i column, First c.columns i column → (stamped column ↔ stamped' column)) :
    Shows zone stamped' c shown := by
  intro n row place
  obtain ⟨reached, dumped⟩ := h n row place
  refine ⟨reached, fun ops number => (dumped ops number).congr ?_⟩
  rwa [Cursor.columns_run]

/-- No timestamp stands behind a column of its name that is none. -/
def Apart (columns : List Column) : Prop :=
  ∀ column ∈ columns, isTimestamp column →
    ∀ first ∈ columns.find? fun c => c.name = column.name, isTimestamp first

instance (columns : List Column) : Decidable (Apart columns) :=
  inferInstanceAs (Decidable (∀ column ∈ columns, isTimestamp column →
    ∀ first ∈ columns.find? fun c => c.name = column.name, isTimestamp first))

theorem Apart.stamped_iff {columns : List Column} (apart : Apart columns) {i : Nat}
    {column : Column} (first : First columns i column) :
    Stamped columns column ↔ isTimestamp column := by
  constructor
  · rintro ⟨other, mem, same, stamp⟩
    apply apart other mem stamp
    rw [same]
    exact first.find?_name
  · intro stamp
    exact ⟨column, List.mem_of_getElem? first.1, rfl, stamp⟩

/-- Where timestamps come first and their instants lie in the calendar, none is refused. -/
theorem not_refuses [ZoneDatabase] {source : σ} {origin : Origin} {statement : Option Statement}
    (opened : Cursor.openOn source origin statement = .ok c) (read : c.rest.2.1 = .ok ())
    (apart : Apart c.columns) {z : Zone} (resolved : zone.zone = .ok z)
    (inside : ∀ row ∈ c.rest.1, ∀ name t, (name, Value.timestamp t) ∈ row →
      Timestamp.InCalendar (t.instantIn z))
    {n : Nat} (within : n < c.rest.1.length) (e : Error) : ¬ Refuses zone c (n + 1) e := by
  rintro ⟨i, column, first, stamped, refused⟩
  obtain ⟨-, all, decoded⟩ := Cursor.rows_of_rest opened read
  obtain ⟨ops, number⟩ := Cursor.exists_rowNumber opened (all ▸ within)
  obtain ⟨tokens, stands, there⟩ := Cursor.onTokens_of_rowNumber opened ops number
  obtain ⟨decodes, row⟩ := decoded n tokens stands
  obtain ⟨bound, -⟩ := List.getElem?_eq_some_iff.1 first.1
  obtain ⟨v, value⟩ := decodes i bound
  have mem := Cursor.mem_keyed (Cursor.valueOf c.columns tokens) (List.mem_of_getElem? first.1)
  rw [Cursor.valueOf_first first value] at mem
  obtain ⟨instant, given⟩ := instantOf_of_inCalendar resolved first
    ((apart.stamped_iff first).1 stamped) value (by
      rintro t rfl
      exact inside _ (List.mem_of_getElem? row) _ t mem)
  have answer := (getTimestamp_eq there _ zone).1.symm.trans (refused ops number)
  rw [given] at answer
  cases answer

end Conditions

variable {env : Environment} {request : Request} {content : Bytes} {size : Int}
  {c : Cursor FileSource}

/-- Of a response whose rows can all be read the rows are printed, one to a line, up to the first
that has no instant for one of its timestamps. The first column of a name is shown as an instant if
any column of that name is a timestamp. Where this is so only if the first column is a timestamp
itself, all rows are printed, given that the zone is known and the instants are in the calendar. -/
theorem run_dump [ZoneDatabase] (program : Text) (level : env.checkLevel = .ok ())
    (path : Command.opened request.file (.ok content) = .ok content)
    (sized : env.pieceSize none = .ok size)
    (opened : Cursor.openOn (FileSource.ofBytes .disk content size)
      { tableName := request.table } none = .ok c)
    (read : c.rest.2.1 = .ok ()) :
    ∃ shown ending, (Command.dump request).run program env (.ok content) =
        ⟨shown.flatMap fun row => (Json.ofRow row).print ++ ['\n'], ending⟩ ∧
      Shows request.zone (Stamped c.columns) c shown ∧
      (ending = .done ∧ shown.length = c.rest.1.length ∨
        ∃ e, ending = Report.ofError e ∧ shown.length < c.rest.1.length ∧
          Refuses request.zone c (shown.length + 1) e) ∧
      (Apart c.columns → ∀ z, request.zone.zone = .ok z →
        (∀ row ∈ c.rest.1, ∀ name t, (name, Value.timestamp t) ∈ row →
          Timestamp.InCalendar (t.instantIn z)) →
        ending = .done ∧ shown.length = c.rest.1.length ∧
          Shows request.zone (fun column => isTimestamp column) c shown) := by
  obtain ⟨shown, lines, shows, outcome⟩ := ofCursor_cases opened read request.zone
  have reported : (Command.dump request).run program env (.ok content) =
      .ofDump (ofCursor request.zone c) := by
    simp only [Command.run, level, path, ofContent, sized, opened]
  rw [reported, Report.ofDump, lines, List.flatMap_map]
  rcases outcome with ⟨complete, all⟩ | ⟨e, failed, within, refuses⟩
  · rw [complete]
    refine ⟨shown, .done, rfl, shows, .inl ⟨rfl, all⟩, ?_⟩
    intro apart z resolved inside
    exact ⟨rfl, all, shows.congr fun i column first => apart.stamped_iff first⟩
  · rw [failed]
    refine ⟨shown, Report.ofError e, rfl, shows, .inr ⟨e, rfl, within, refuses⟩, ?_⟩
    intro apart z resolved inside
    exact absurd refuses (not_refuses opened read apart resolved inside within e)

/-- Two columns of one name, the first of them a timestamp, and a null in another such column. -/
theorem run_dump_namesakes :
    let content := Utf8.encode ("at\tn\tat\tz\ntimestamp\tint\tdate\ttimestamptz\n".toList ++
      "2024-01-15 10:30:00\t1\t2024-02-02\t\\N\n".toList)
    let request : Request := ⟨"response".toList, .named "Europe/Berlin".toList, some []⟩
    ∃ (c : Cursor FileSource) (shown : List Cursor.Row),
      Cursor.openOn (FileSource.ofBytes .disk content 65536) {} none = .ok c ∧
      (Command.dump request).run "rowstream".toList {} (.ok content) =
        ⟨shown.flatMap fun row => (Json.ofRow row).print ++ ['\n'], .done⟩ ∧
      shown.length = 1 ∧ Shows request.zone (fun column => isTimestamp column) c shown := by
  intro content request
  let inside (z : Zone) (field : Text × Value) : Bool :=
    match field.2 with
    | .timestamp t => Timestamp.InCalendar (t.instantIn z)
    | _ => true
  have facts : ((Cursor.openOn (FileSource.ofBytes .disk content 65536) {} none).toOption.bind
      fun c => request.zone.zone.toOption.map fun z =>
        (c.rest.2.1.toOption, decide (Apart c.columns), c.rest.1.length,
          c.rest.1.all fun row => row.all (inside z))) = some (some (), true, 1, true) := by
    decide +kernel
  cases opened : Cursor.openOn (FileSource.ofBytes .disk content 65536) {} none with
  | error failure =>
    rw [opened] at facts
    cases facts
  | ok c =>
    cases resolved : request.zone.zone with
    | error fault =>
      rw [opened, resolved] at facts
      cases facts
    | ok z =>
      rw [opened, resolved] at facts
      have facts : (c.rest.2.1.toOption, decide (Apart c.columns), c.rest.1.length,
          c.rest.1.all fun row => row.all (inside z)) = (some (), true, 1, true) :=
        Option.some.inj facts
      simp only [Prod.mk.injEq] at facts
      obtain ⟨read, apart, count, calendar⟩ := facts
      have level : ({} : Environment).checkLevel = .ok () := rfl
      have path : Command.opened request.file (.ok content) = .ok content := by decide
      obtain ⟨shown, ending, reported, -, -, complete⟩ := run_dump "rowstream".toList level path
        rfl opened (Except.of_toOption_eq_some read)
      obtain ⟨rfl, all, shows⟩ := complete (of_decide_eq_true apart) z resolved (by
        intro row mem name t field
        have checked := List.all_eq_true.1 (List.all_eq_true.1 calendar row mem) _ field
        exact of_decide_eq_true checked)
      exact ⟨c, shown, rfl, reported, all.trans count, shows⟩

/-- Behind an integer of its name a timestamp with an instant keeps the row, which can be read, from
being printed. -/
theorem run_dump_behind_integer :
    let content := Utf8.encode "a\ta\nint\ttimestamp\n1\t2024-01-15 10:30:00\n".toList
    let request : Request := ⟨"response".toList, .unspecified, some []⟩
    let report := (Command.dump request).run "rowstream".toList {} (.ok content)
    let instant : Timestamp :=
      ⟨⟨2024, 1, 15, by decide⟩, ⟨10, 30, 0, 0, by decide⟩, some .utc, false⟩
    (∃ c, Cursor.openOn (FileSource.ofBytes .disk content 65536) {} none = .ok c ∧
      c.rest.2.1 = .ok () ∧ c.rest.1.length = 1 ∧
      ((c.run [.move .advance]).2.getTimestamp (.position 2) request.zone).1 =
        .ok (some instant)) ∧
    report.output = [] ∧ report.ending.exitCode? = some 1 := by
  intro content request report instant
  refine ⟨?_, by decide +kernel, by decide +kernel⟩
  have facts : (Cursor.openOn (FileSource.ofBytes .disk content 65536) {} none).toOption.map
      (fun c => (c.rest.2.1.toOption, c.rest.1.length,
        ((c.run [.move .advance]).2.getTimestamp (.position 2) request.zone).1.toOption)) =
      some (some (), 1, some (some instant)) := by decide +kernel
  cases opened : Cursor.openOn (FileSource.ofBytes .disk content 65536) {} none with
  | error failure =>
    rw [opened] at facts
    cases facts
  | ok c =>
    rw [opened] at facts
    obtain ⟨read, facts⟩ := Prod.mk.inj (Option.some.inj facts)
    obtain ⟨count, instant⟩ := Prod.mk.inj facts
    exact ⟨c, rfl, Except.of_toOption_eq_some read, count, Except.of_toOption_eq_some instant⟩

end RowStream.Dump
