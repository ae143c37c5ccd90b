import RowStream.Proofs.Cursor.Run
import RowStream.Proofs.Response.Arrival

/-! A cursor reads its source only as far as the rows that it was moved to go. -/
namespace RowStream.Cursor

section

variable [ZoneDatabase]

section Run

variable {σ : Type} [Source σ] {c : Cursor σ} {a : Course}

/-- What leaves the records behind the row alone and the source open. -/
def Forward (op : Operation) : Prop := op ≠ .move .isLast ∧ op ≠ .move .close

instance (op : Operation) : Decidable (Forward op) := inferInstanceAs (Decidable (_ ∧ _))

/-- Nothing but moving on has to do with the source. -/
theorem perform_of_forward {op : Operation} (forward : Forward op) (stays : op ≠ .move .advance) :
    (c.perform op).2.reader = c.reader ∧ a.after op = a ∧ (c.event op).visited? = none := by
  cases op with
  | access q =>
    obtain ⟨cache, wasNull, frame⟩ := access_frame c q
    refine ⟨?_, rfl, rfl⟩
    rw [perform, frame]
  | move m =>
    cases m with
    | advance => exact absurd rfl stays
    | isLast => exact absurd rfl forward.1
    | close => exact absurd rfl forward.2
    | isBeforeFirst | isFirst | isAfterLast | rowNumber => exact ⟨rfl, rfl, rfl⟩

/-- Where there are rows ahead, the reader has their records. -/
theorem records_of_ahead {tokens : List Text} {more : List (List Text)} (h : c.Follows a)
    (ahead : a.ahead = tokens :: more) :
    c.reader.records = (tokens :: more, a.fault) ∧
      (c.position = .beforeFirst ∨ ∃ n row, c.position = .onRow n row) := by
  have stands := h.stands
  rw [Course.ahead] at ahead
  generalize c.reader = reader, c.position = position, a.place = place at stands ahead ⊢
  cases stands with
  | beforeFirst left => exact ⟨ahead ▸ left, .inl rfl⟩
  | onRow split left =>
    rw [split] at ahead
    refine ⟨?_, .inr ⟨_, _, rfl⟩⟩
    rw [left, ← ahead]
    simp
  | afterLast | closed => cases ahead

/-- Where there are rows ahead, the cursor moves on to the first of them, and takes one record. -/
theorem advance_of_ahead {tokens : List Text} {more : List (List Text)} (h : c.Follows a)
    (ahead : a.ahead = tokens :: more) :
    c.reader.next.1 = .ok (some tokens) ∧
      (c.perform (.move .advance)).2.reader = c.reader.next.2 ∧
      (c.event (.move .advance)).visited? = some tokens ∧
      (a.after (.move .advance)).ahead = more := by
  obtain ⟨records, place⟩ := records_of_ahead h ahead
  obtain ⟨answer, -⟩ := RecordReader.next_of_record_left records
  have moved := advance_eq place
  rw [← Prod.eta c.reader.next, answer] at moved
  have visited : (c.event (.move .advance)).visited? = some tokens := by
    rw [event, perform, move, answered, moved]
    rfl
  refine ⟨answer, ?_, visited, ?_⟩
  · rw [perform, move, answered, moved]
  · obtain ⟨follows, -⟩ := follows_perform h (.move .advance)
    obtain ⟨rest, split, left⟩ := visited_event h (.move .advance)
    rw [visited, ahead] at split
    have opened : (a.after (.move .advance)).place ≠ .closed := by
      intro closed
      have still := (isClosed_iff follows).2 closed
      rw [perform, move, answered, moved] at still
      cases still
    rw [← left opened]
    exact (List.cons.inj split).2

/-- As many records are taken from the reader as there are moves forward, each of which comes to the
next row. -/
theorem run_of_forward {P : Nat → RecordReader σ → Prop}
    (step : ∀ n r tokens, P n r → r.next.1 = .ok (some tokens) → P (n + 1) r.next.2)
    {n : Nat} (h : c.Follows a) (start : P n c.reader) {ops : List Operation}
    (forward : ∀ op ∈ ops, Forward op) (within : ops.count (.move .advance) ≤ a.ahead.length) :
    (c.run ops).1.filterMap Event.visited? = a.ahead.take (ops.count (.move .advance)) ∧
      P (n + ops.count (.move .advance)) (c.run ops).2.reader := by
  induction ops generalizing c a n with
  | nil => exact ⟨rfl, start⟩
  | cons op ops ih =>
    obtain ⟨first, others⟩ := List.forall_mem_cons.1 forward
    obtain ⟨follows, -⟩ := follows_perform h op
    change _ ∧ P _ ((c.perform op).2.run ops).2.reader
    rw [filterMap_run_cons]
    by_cases moves : op = .move .advance
    · subst moves
      rw [List.count_cons_self] at within ⊢
      obtain ⟨tokens, more, ahead⟩ : ∃ tokens more, a.ahead = tokens :: more := by
        cases ahead : a.ahead with
        | nil =>
          rw [ahead] at within
          cases within
        | cons tokens more => exact ⟨tokens, more, rfl⟩
      obtain ⟨answer, reader, visited, behind⟩ := advance_of_ahead h ahead
      rw [ahead, List.length_cons] at within
      obtain ⟨rows, last⟩ := ih follows (reader ▸ step n _ _ start answer) others
        (behind ▸ Nat.le_of_succ_le_succ within)
      rw [visited, rows, ahead, behind]
      rw [Nat.add_right_comm] at last
      exact ⟨rfl, last⟩
    · obtain ⟨reader, same, visited⟩ := perform_of_forward (c := c) (a := a) first moves
      rw [List.count_cons_of_ne moves] at within ⊢
      rw [same] at follows
      obtain ⟨rows, last⟩ := ih follows (reader ▸ start) others within
      rw [visited, rows]
      exact ⟨rfl, last⟩

theorem openOn_of_header {source : σ} {origin : Origin} {columns : List Column}
    (resolved : (RecordReader.of source).readHeader.1 >>= Column.ofHeader origin = .ok columns)
    (statement : Option Statement) :
    openOn source origin statement = .ok ⟨(RecordReader.of source).readHeader.2, columns, statement,
      false, .beforeFirst, false, [], none⟩ := by
  simp only [openOn, resolved]

end Run

variable {pieces : List Bytes} {header : Header} {rows : List (List Text)} {fault : Option Error}
  {origin : Origin}

/-- After `k` rows the source has been read just as often as it takes for their lines, and the two
of the header, to have come in. Where there are no pieces one read finds that out. -/
theorem reads_run (nonempty : [] ∉ pieces)
    (whole : Transcript.ofBytes pieces.flatten none = ⟨some header, rows, fault⟩)
    (typed : (Column.ofHeader origin header).isOk) (closeFails : Bool)
    (statement : Option Statement) :
    ∃ c, openOn (Watched.of (ScriptSource.ofScript (pieces.map .ok) closeFails)) origin statement =
        .ok c ∧
      ∀ ops k, (∀ op ∈ ops, Forward op) → ops.count (.move .advance) = k → k ≤ rows.length →
        (c.run ops).1.filterMap Event.visited? = rows.take k ∧
          ((pieces = [] ∧ (c.run ops).2.reader.source.reads = 1) ∨
            IsLeast {m | k + 2 ≤ Lines.terminators (pieces.take m).flatten}
              (c.run ops).2.reader.source.reads) := by
  have same : transcriptOf (Watched.of (ScriptSource.ofScript (pieces.map .ok) closeFails)) =
      ⟨some header, rows, fault⟩ := by
    rw [transcriptOf, Watched.drain_pieces nonempty, whole]
  have read : (RecordReader.of (Watched.of (ScriptSource.ofScript (pieces.map .ok)
      closeFails))).readHeader.1 = .ok header := by
    apply RecordReader.readHeader_of_transcript
    rw [RecordReader.transcript_of_source]
    exact congrArg Transcript.header same
  cases resolved : Column.ofHeader origin header with
  | error e =>
    rw [resolved] at typed
    cases typed
  | ok columns =>
    have opened := openOn_of_header (by rw [read]; exact resolved) statement
    obtain ⟨start, -⟩ := follows_openOn opened
    rw [same] at start
    refine ⟨_, opened, ?_⟩
    rintro ops k forward rfl within
    by_cases none : pieces = []
    · subst none
      cases whole
      have few := run_of_forward (P := fun n r => n = 0 → r.source.reads = 1)
        (fun n _ _ _ _ first => absurd first (Nat.succ_ne_zero n)) (n := 0) start
        (fun _ => RecordReader.reads_of_no_pieces closeFails) forward within
      rw [Nat.zero_add] at few
      exact ⟨few.1, .inl ⟨rfl, few.2 (Nat.le_zero.1 within)⟩⟩
    · have ready := RecordReader.ready_readHeader ⟨rfl, rfl, rfl⟩ read
      have prompt := RecordReader.prompt_readHeader nonempty none read
      obtain ⟨visited, -, last⟩ := run_of_forward
        (P := fun n r => r.Ready header ∧ RecordReader.Prompt pieces n r)
        (fun _ _ _ h answer => RecordReader.prompt_next h.1 h.2 answer) start ⟨ready, prompt⟩
        forward within
      rw [Nat.add_comm 2] at last
      exact ⟨visited, .inr (RecordReader.isLeast_of_prompt last)⟩

end

/-- Cuts inside an escaped line feed, a tag and a row; the second row is there with the third piece
but for its line feed. -/
theorem reads_run_inside_row :
    let pieces := ["a\\", "\nb\nin", "t\n1\n2", "\n"].map fun piece => Utf8.encode piece.toList
    let ops := [.move .advance, .access (.int (.position 1)), .move .advance]
    ∃ c, openOn (Watched.of (ScriptSource.ofScript (pieces.map .ok) false)) {} none = .ok c ∧
      (c.run ops).1.filterMap Event.visited? = [[['1']], [['2']]] ∧
        IsLeast {m | 4 ≤ Lines.terminators (pieces.take m).flatten}
          (c.run ops).2.reader.source.reads := by
  intro pieces ops
  have whole : Transcript.ofBytes pieces.flatten none =
      ⟨some ⟨[['a', '\n', 'b']], [['i', 'n', 't']]⟩, [[['1']], [['2']]], none⟩ := rfl
  have typed : (Column.ofHeader {} ⟨[['a', '\n', 'b']], [['i', 'n', 't']]⟩).isOk := by
    decide +kernel
  obtain ⟨c, opened, runs⟩ := reads_run (by decide +kernel) whole typed false none
  obtain ⟨visited, ⟨empty, -⟩ | least⟩ := runs ops 2 (by decide) rfl (Nat.le_refl 2)
  · exact absurd empty (List.cons_ne_nil _ _)
  · exact ⟨c, opened, visited, least⟩

end RowStream.Cursor
