import RowStream.Calendar.RegionTable
import RowStream.Proofs.Cursor.Course
import RowStream.Proofs.Cursor.Mapped
import RowStream.Proofs.Response.Calls
import RowStream.Proofs.Success

/-! The calls that a cursor makes of its source and of its statement. -/
namespace RowStream.Cursor

section

/-- How often the statement was closed. -/
def closes {σ : Type} (c : Cursor σ) : Nat := (c.statement.map (·.closes)).getD 0

/-- What closing calls: the source, and then the statement if that asks for it, whatever the source
answers. -/
def closingCalls (statement : Option Statement) (answer : Except SourceFault Unit) : List Call :=
  .close answer :: if statement.any (·.closeOnCompletion) then [.statement] else []

/-- The source is read until a read finds the end or fails. Nothing else is called before closing,
and nothing after it. -/
def InOrder (statement : Option Statement) (closed : Prop) [Decidable closed]
    (calls : List Call) : Prop :=
  ∃ answers answer, Orderly answers ∧
    calls = answers.map .read ++ if closed then closingCalls statement answer else []

variable {σ : Type} {c d : Cursor (Watched σ)} {statement : Option Statement}

/-- The calls that a cursor has made. -/
def calls (c : Cursor (Watched σ)) : List Call := c.reader.source.calls

/-- A cursor that was not closed has only read its source, and reads no more after the last row. -/
structure Unclosed (statement : Option Statement) (c : Cursor (Watched σ)) : Prop where
  opened : c.position ≠ .closed
  onlyRead : c.reader.OnlyRead
  going : c.position ≠ .afterLast → c.reader.Going
  statement : c.statement = statement
  notified : c.notified = false

/-- The closes of the statement are those that stand among the calls. -/
def Counted (statement : Option Statement) (c : Cursor (Watched σ)) : Prop :=
  c.closes = (statement.map (·.closes)).getD 0 + c.calls.countP Call.isStatement

theorem countP_reads (answers : List (Except SourceFault Bytes)) :
    (answers.map Call.read).countP Call.isStatement = 0 := by
  rw [List.countP_eq_zero]
  intro call mem
  obtain ⟨answer, -, rfl⟩ := List.mem_map.1 mem
  exact Bool.false_ne_true

theorem Unclosed.counted (h : c.Unclosed statement) : c.Counted statement := by
  obtain ⟨answers, -, calls⟩ := h.onlyRead
  rw [Counted, closes, h.statement, Cursor.calls, calls, countP_reads, Nat.add_zero]

theorem Unclosed.read {α : Type} {x : Except Error α × RecordReader (Watched σ)}
    (h : c.Unclosed statement) (reads : RecordReader.Reads x) (reader : d.reader = x.2)
    (same : d.statement = c.statement ∧ d.notified = c.notified) (opened : d.position ≠ .closed)
    (goes : d.position ≠ .afterLast → ∃ a, x.1 = .ok a) : d.Unclosed statement := by
  refine ⟨opened, reader ▸ reads.onlyRead, ?_, same.1.trans h.statement,
    same.2.trans h.notified⟩
  intro before
  obtain ⟨a, answer⟩ := goes before
  exact reader ▸ reads.going a answer

variable [Source σ]

theorem unclosed_advance (h : c.Unclosed statement) : c.advance.2.Unclosed statement := by
  by_cases behind : c.position = .afterLast
  · rw [advance, behind]
    exact h
  · have place : c.position = .beforeFirst ∨ ∃ n tokens, c.position = .onRow n tokens := by
      cases position : c.position with
      | beforeFirst => exact .inl rfl
      | onRow n tokens => exact .inr ⟨n, tokens, rfl⟩
      | afterLast => exact absurd position behind
      | closed => exact absurd position h.opened
    have reads := RecordReader.reads_next (h.going behind)
    rw [advance_eq place]
    generalize c.reader.next = x at reads ⊢
    rcases x with ⟨e | _ | tokens, reader⟩
    · exact h.read reads rfl ⟨rfl, rfl⟩ (by simp [fail]) (absurd rfl)
    · exact h.read reads rfl ⟨rfl, rfl⟩ (by simp) (absurd rfl)
    · exact h.read reads rfl ⟨rfl, rfl⟩ (by simp) fun _ => ⟨_, rfl⟩

theorem unclosed_isLast (h : c.Unclosed statement) : c.isLast.2.Unclosed statement := by
  cases position : c.position with
  | closed => exact absurd position h.opened
  | beforeFirst | afterLast =>
    rw [isLast, position]
    exact h
  | onRow n tokens =>
    have reads := RecordReader.reads_peek (h.going (by simp [position]))
    simp only [isLast, position]
    generalize c.reader.peek = x at reads ⊢
    rcases x with ⟨e | record, reader⟩
    · exact h.read reads rfl ⟨rfl, rfl⟩ (by simp [fail]) (absurd rfl)
    · exact h.read reads rfl ⟨rfl, rfl⟩ (by simp) fun _ => ⟨_, rfl⟩

@[simp] theorem calls_release (c : Cursor (Watched σ)) :
    c.release.calls = c.calls ++ [.close (Source.close c.reader.source.inner).1] :=
  Watched.calls_close c.reader.source

/-- The statement is told once, and only if it asks for that. -/
theorem calls_notify (unnotified : c.notified = false) :
    c.notify.2.calls = c.calls ++
      (if c.statement.any (·.closeOnCompletion) then [.statement] else []) ∧
    c.notify.2.closes = c.closes + if c.statement.any (·.closeOnCompletion) then 1 else 0 := by
  cases statement : c.statement with
  | none => simp [notify, statement]
  | some s =>
    cases asks : s.closeOnCompletion with
    | true => simp [notify, unnotified, statement, asks, closes, calls, Statement.close]
    | false => simp [notify, statement, asks]

/-- Closing a cursor releases the source before it turns to the statement. -/
theorem calls_close (h : c.Unclosed statement) :
    (∃ answer, c.close.2.calls = c.calls ++ closingCalls statement answer) ∧
      c.close.2.Counted statement ∧ c.close.2.position = .closed := by
  have asked : c.release.statement = statement := h.statement
  obtain ⟨told, closed⟩ := calls_notify (c := c.release) h.notified
  rw [asked] at told closed
  rw [close_of_open h.opened]
  refine ⟨⟨(Source.close c.reader.source.inner).1, ?_⟩, ?_, ?_⟩
  · rw [told, calls_release, List.append_assoc]
    rfl
  · have before := h.counted
    rw [Counted] at before ⊢
    have kept : c.release.closes = c.closes := rfl
    rw [closed, kept, before, told, calls_release, List.countP_append, List.countP_append]
    cases statement.any (·.closeOnCompletion) <;> simp [Call.isStatement, Nat.add_assoc]
  · obtain ⟨source, s, notified, frame⟩ := notify_frame c.release
    rw [frame]
    rfl

variable [ZoneDatabase]

/-- Whatever is done but closing, the source is only read, and the statement is left alone. -/
theorem unclosed_perform (h : c.Unclosed statement) {op : Operation} (stays : op ≠ .move .close) :
    (c.perform op).2.Unclosed statement := by
  cases op with
  | access q =>
    obtain ⟨cache, wasNull, frame⟩ := access_frame c q
    rw [perform, frame]
    exact ⟨h.opened, h.onlyRead, h.going, h.statement, h.notified⟩
  | move m =>
    cases m with
    | advance => exact unclosed_advance h
    | isLast => exact unclosed_isLast h
    | close => exact absurd rfl stays
    | isBeforeFirst | isFirst | isAfterLast | rowNumber => exact h

/-- Nothing is done to a closed cursor. -/
theorem perform_of_closed (closed : c.position = .closed) (op : Operation) :
    (c.perform op).2 = c := by
  cases op with
  | access q =>
    have refused : c.currentRow = .error (.state .closed) := by rw [currentRow, closed]
    exact access_of_refused refused q
  | move m =>
    cases m with
    | advance => simp only [perform, move, answered, advance, closed]
    | isLast => simp only [perform, move, answered, isLast, closed]
    | close => simp [perform, move, answered, close, isClosed, closed]
    | isBeforeFirst | isFirst | isAfterLast | rowNumber => rfl

theorem run_of_closed (closed : c.position = .closed) (ops : List Operation) :
    (c.run ops).2 = c := by
  induction ops with
  | nil => rfl
  | cons op ops ih =>
    have stays := perform_of_closed closed op
    rw [run]
    dsimp only
    rw [stays, ih]

/-- By induction over the run: as long as it is not closed the calls are reads, and the operation
that closes it is the last one to call anybody. -/
theorem inOrder_run (h : c.Unclosed statement) (ops : List Operation) :
    InOrder statement (.move .close ∈ ops) (c.run ops).2.calls ∧
      (c.run ops).2.Counted statement := by
  induction ops generalizing c with
  | nil =>
    obtain ⟨answers, orderly, calls⟩ := h.onlyRead
    refine ⟨⟨answers, .ok (), orderly, ?_⟩, h.counted⟩
    rw [if_neg List.not_mem_nil, List.append_nil]
    exact calls
  | cons op ops ih =>
    by_cases closes : op = .move .close
    · subst closes
      obtain ⟨answers, orderly, reads⟩ := h.onlyRead
      obtain ⟨⟨answer, closing⟩, counted, closed⟩ := calls_close h
      have stays : (c.run (.move .close :: ops)).2 = c.close.2 := run_of_closed closed ops
      rw [stays]
      refine ⟨⟨answers, answer, orderly, ?_⟩, counted⟩
      rw [closing, calls, reads, if_pos List.mem_cons_self]
    · obtain ⟨⟨answers, answer, orderly, later⟩, counted⟩ := ih (unclosed_perform h closes)
      refine ⟨⟨answers, answer, orderly, later.trans ?_⟩, counted⟩
      simp [Ne.symm closes]

theorem unclosed_openOn {source : σ} {origin : Origin}
    (opened : openOn (Watched.of source) origin statement = .ok c) : c.Unclosed statement := by
  have reads := RecordReader.reads_readHeader (RecordReader.going_of source)
  simp only [openOn] at opened
  generalize (RecordReader.of (Watched.of source)).readHeader = x at opened reads
  rcases x with ⟨e | header, reader⟩
  · cases opened
  · split at opened
    · cases opened
    · cases opened
      exact ⟨by simp, reads.onlyRead, fun _ => reads.going _ rfl, rfl, rfl⟩

theorem calls_of_failed_openOn {source : σ} {origin : Origin} {e : Error} {s : Watched σ}
    (failed : openOn (Watched.of source) origin statement = .error (e, s)) :
    ∃ answers answer, Orderly answers ∧ s.calls = answers.map .read ++ [.close answer] := by
  have reads := RecordReader.reads_readHeader (RecordReader.going_of source)
  simp only [openOn] at failed
  generalize (RecordReader.of (Watched.of source)).readHeader = x at failed reads
  obtain ⟨header, reader⟩ := x
  obtain ⟨answers, orderly, calls⟩ := reads.onlyRead
  dsimp only at failed calls
  cases resolved : header >>= Column.ofHeader origin with
  | ok columns =>
    rw [resolved] at failed
    cases failed
  | error e' =>
    rw [resolved] at failed
    cases failed
    refine ⟨answers, (Source.close reader.source.inner).1, orderly, ?_⟩
    rw [Watched.calls_close, calls]

/-- The statement has no part in a failing opening. -/
theorem failed_openOn_congr {source : σ} {origin : Origin} {failure : Error × σ}
    (failed : openOn source origin statement = .error failure) (statement' : Option Statement) :
    openOn source origin statement' = .error failure := by
  simp only [openOn] at failed ⊢
  split at failed
  · exact failed
  · cases failed

/-- The calls that a cursor makes, as its source writes them down while they are made. The source is
read until that ends or fails, and no further. It is closed once, and after all reads, if opening
fails or the cursor is closed, and the statement behind it where that asks for it and the opening
has not failed. To have the source watched changes nothing. -/
theorem calls_run (source : σ) (origin : Origin) (statement : Option Statement) :
    (∀ e s, openOn source origin statement = .error (e, s) →
      (∀ statement', openOn source origin statement' = .error (e, s)) ∧
        ∃ watched : Watched σ, watched.inner = s ∧
          openOn (Watched.of source) origin statement = .error (e, watched) ∧
          ∃ answers answer, Orderly answers ∧
            watched.calls = answers.map .read ++ [.close answer]) ∧
    ∀ c, openOn source origin statement = .ok c →
      ∃ watched, openOn (Watched.of source) origin statement = .ok watched ∧
        ∀ ops, c.run ops = ((watched.run ops).1, (watched.run ops).2.map Watched.inner) ∧
          InOrder statement (.move .close ∈ ops) (watched.run ops).2.calls ∧
          (watched.run ops).2.Counted statement := by
  have image := openOn_map Watched.preserves_inner (Watched.of source) origin statement
  change openOn source origin statement = _ at image
  rw [image]
  cases opened : openOn (Watched.of source) origin statement with
  | error failure =>
    obtain ⟨e, watched⟩ := failure
    rw [opened] at image
    constructor
    · rintro _ _ ⟨⟩
      exact ⟨failed_openOn_congr image, watched, rfl, rfl, calls_of_failed_openOn opened⟩
    · rintro c ⟨⟩
  | ok watched =>
    constructor
    · rintro e s ⟨⟩
    · rintro _ ⟨⟩
      refine ⟨watched, rfl, fun ops => ⟨?_, inOrder_run (unclosed_openOn opened) ops⟩⟩
      exact run_map Watched.preserves_inner watched ops

end

/-- A response with a type there is not, and one that breaks off, with a source and a statement that
fail to close. -/
theorem calls_run_failing_close :
    let bad := ScriptSource.ofScript [.ok (Utf8.encode "a\nnope\n1\n".toList)] true
    let source := ScriptSource.ofScript
      [.ok (Utf8.encode "a\nint\n1".toList), .ok (Utf8.encode "\n".toList), .error .closed] true
    let statement : Option Statement := some ⟨true, true, 0⟩
    let ops : List Operation := [.move .advance, .move .isLast, .move .advance, .move .close,
      .move .close, .move .advance]
    (∃ e watched, openOn (Watched.of bad) {} statement = .error (e, watched) ∧
      ∃ answers answer, Orderly answers ∧ watched.calls = answers.map .read ++ [.close answer]) ∧
    ∃ c, openOn source {} statement = .ok c ∧ ∃ watched,
      openOn (Watched.of source) {} statement = .ok watched ∧
      c.run ops = ((watched.run ops).1, (watched.run ops).2.map Watched.inner) ∧
      InOrder statement (.move .close ∈ ops) (watched.run ops).2.calls ∧
      (watched.run ops).2.Counted statement := by
  intro bad source statement ops
  constructor
  · have refused : (openOn bad {} statement).error?.isSome := by decide +kernel
    obtain ⟨failure, found⟩ := Option.isSome_iff_exists.1 refused
    obtain ⟨-, watched, -, failed, calls⟩ :=
      (calls_run bad {} statement).1 _ _ (Except.of_error?_eq_some found)
    exact ⟨_, watched, failed, calls⟩
  · refine Except.exists_of_isOk (by decide +kernel) fun c opened => ?_
    obtain ⟨watched, opened', runs⟩ := (calls_run source {} statement).2 c opened
    exact ⟨watched, opened', runs ops⟩

end RowStream.Cursor
