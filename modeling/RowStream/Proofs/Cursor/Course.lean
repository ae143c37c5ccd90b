import RowStream.Proofs.Cursor.Reading
import RowStream.Proofs.Response.Peek

/-! Where a cursor is, told by the records of its source and a place among them. -/
namespace RowStream

/-- A place before, on or behind the rows. Rows are numbered from one. -/
inductive Place where
  | beforeFirst
  | row (number : Nat)
  | afterLast
  | closed
  deriving DecidableEq, Repr

/-- The number of the row; zero off a row. -/
def Place.number : Place → Nat
  | .row number => number
  | _ => 0

/-- The records before the end or the first error, that error, what closing is to answer, and
the place reached. -/
structure Course where
  records : List (List Text)
  fault : Option Error
  closing : Except Error Unit
  place : Place
  failed : Bool

namespace Course

open Cursor (Move Answer Operation)

def start (records : List (List Text)) (fault : Option Error) (closing : Except Error Unit) :
    Course :=
  ⟨records, fault, closing, .beforeFirst, false⟩

/-- The error at the end, after which there are no rows any more. -/
def fail (a : Course) (fault : Error) : Except Error Answer × Course :=
  (.error fault, { a with place := .afterLast, failed := true })

/-- Moves past the first `passed` records. -/
def forward (a : Course) (passed : Nat) : Except Error Answer × Course :=
  if passed < a.records.length then
    (.ok (.truth true), { a with place := .row (passed + 1) })
  else
    match a.fault with
    | some fault => a.fail fault
    | none => (.ok (.truth false), { a with place := .afterLast })

def ask (a : Course) (answer : Answer) : Except Error Answer × Course :=
  (if a.place = .closed then .error (.state .closed) else .ok answer, a)

def move (a : Course) : Move → Except Error Answer × Course
  | .advance =>
    match a.place with
    | .closed => (.error (.state .closed), a)
    | .afterLast => (.ok (.truth false), a)
    | .beforeFirst => a.forward 0
    | .row number => a.forward number
  | .isLast =>
    match a.place with
    | .closed => (.error (.state .closed), a)
    | .row number =>
      if number < a.records.length then (.ok (.truth false), a)
      else
        match a.fault with
        | some fault => a.fail fault
        | none => (.ok (.truth true), a)
    | _ => (.ok (.truth false), a)
  | .isBeforeFirst => a.ask (.truth (a.place = .beforeFirst))
  | .isFirst => a.ask (.truth (a.place = .row 1))
  | .isAfterLast => a.ask (.truth (a.place = .afterLast))
  | .rowNumber => a.ask (.number a.place.number)
  | .close =>
    if a.place = .closed then (.ok .done, a)
    else (a.closing.map fun _ => .done, { a with place := .closed })

def run (a : Course) : List Move → List (Except Error Answer) × Course
  | [] => ([], a)
  | m :: rest => ((a.move m).1 :: ((a.move m).2.run rest).1, ((a.move m).2.run rest).2)

/-- The records still to come. -/
def ahead (a : Course) : List (List Text) :=
  match a.place with
  | .beforeFirst => a.records
  | .row number => a.records.drop number
  | _ => []

end Course

namespace Cursor

def Operation.move? : Operation → Option Move
  | .move m => some m
  | .access _ => none

/-- What closing an open cursor answers. -/
def closing (statement : Option Statement) : Except Error Unit :=
  match statement with
  | none => .ok ()
  | some s => if s.closeOnCompletion then s.close.1 else .ok ()

variable {σ : Type} [Source σ]

/-- A position is a place among the records, and the reader has those behind it still to give. -/
inductive Stands (a : Course) : RecordReader σ → Position → Place → Prop where
  | beforeFirst {r : RecordReader σ} (ahead : r.records = (a.records, a.fault)) :
    Stands a r .beforeFirst .beforeFirst
  | onRow {r : RecordReader σ} {passed more : List (List Text)} {tokens : List Text}
      (split : a.records = passed ++ tokens :: more) (ahead : r.records = (more, a.fault)) :
    Stands a r (.onRow (passed.length + 1) tokens) (.row (passed.length + 1))
  | afterLast {r : RecordReader σ} : Stands a r .afterLast .afterLast
  | closed {r : RecordReader σ} : Stands a r .closed .closed

variable {c : Cursor σ}

/-- From a place with records behind it, the reader's next answer decides. -/
theorem advance_eq (h : c.position = .beforeFirst ∨ ∃ n tokens, c.position = .onRow n tokens) :
    c.advance = match c.reader.next with
      | (.error e, reader) => (.error e, c.fail reader)
      | (.ok none, reader) => (.ok false, { c with reader, position := .afterLast, cache := [] })
      | (.ok (some tokens), reader) =>
        (.ok true, { c with
          reader, position := .onRow (rowsPassed c.position + 1) tokens, cache := [] }) := by
  rw [advance]
  rcases c.reader.next with ⟨_ | _ | _, _⟩
  all_goals rcases h with h | ⟨n, tokens, h⟩
  all_goals rw [h]

theorem notify_of_unnotified (h : c.notified = false) : c.notify.1 = closing c.statement := by
  rw [notify, h]
  cases c.statement with
  | none => rfl
  | some s =>
    rw [closing]
    dsimp only
    cases s.closeOnCompletion <;> rfl

theorem close_of_open (h : c.position ≠ .closed) : c.close = c.release.notify := by
  rw [close, isClosed, if_neg (by simpa using h)]

variable [ZoneDatabase]

structure Follows (c : Cursor σ) (a : Course) : Prop where
  stands : Stands a c.reader c.position a.place
  failed : c.failed = a.failed
  closing : a.place ≠ .closed → c.notified = false ∧ closing c.statement = a.closing
  cached : c.Cached

variable {a : Course}

theorem follows_access (h : c.Follows a) (q : Access) : (c.access q).2.Follows a := by
  have cached := cached_access h.cached q
  obtain ⟨cache, wasNull, frame⟩ := access_frame c q
  rw [frame] at cached ⊢
  exact ⟨h.stands, h.failed, h.closing, cached⟩

theorem follows_forward (passed : List (List Text)) {more : List (List Text)}
    (split : a.records = passed ++ more)
    (ahead : c.reader.records = (more, a.fault)) (failed : c.failed = a.failed)
    (closes : c.notified = false ∧ closing c.statement = a.closing)
    (place : c.position = .beforeFirst ∨ ∃ n tokens, c.position = .onRow n tokens)
    (count : rowsPassed c.position = passed.length) :
    (answered .truth c.advance).1 = (a.forward passed.length).1 ∧
      c.advance.2.Follows (a.forward passed.length).2 := by
  rw [advance_eq place, Course.forward, count, split]
  cases more with
  | nil =>
    simp only [List.append_nil, Nat.lt_irrefl, if_false]
    cases fault : a.fault with
    | some fault =>
      rw [← Prod.eta c.reader.next, RecordReader.next_of_fault_left (ahead.trans (by rw [fault]))]
      exact ⟨rfl, .afterLast, rfl, fun _ => closes, cached_of_empty rfl⟩
    | none =>
      rw [← Prod.eta c.reader.next, RecordReader.next_of_no_records (ahead.trans (by rw [fault]))]
      exact ⟨rfl, .afterLast, failed, fun _ => closes, cached_of_empty rfl⟩
  | cons tokens more =>
    obtain ⟨answer, after⟩ := RecordReader.next_of_record_left ahead
    rw [← Prod.eta c.reader.next, answer]
    simp only [List.length_append, List.length_cons, Nat.lt_add_right_iff_pos, Nat.succ_pos,
      if_true]
    exact ⟨rfl, .onRow rfl after, failed, fun _ => closes, cached_of_empty rfl⟩

/-- On a row, the record looked at ahead decides. -/
theorem follows_look {passed more : List (List Text)} {tokens : List Text}
    (position : c.position = .onRow (passed.length + 1) tokens)
    (place : a.place = .row (passed.length + 1)) (split : a.records = passed ++ tokens :: more)
    (ahead : c.reader.records = (more, a.fault)) (failed : c.failed = a.failed)
    (closes : c.notified = false ∧ closing c.statement = a.closing) (cached : c.Cached) :
    (c.move .isLast).1 = (a.move .isLast).1 ∧ (c.move .isLast).2.Follows (a.move .isLast).2 := by
  have stays {record : Option (List Text)} (answer : c.reader.peek.1 = .ok record) :
      ({ c with
          reader := c.reader.peek.2
          position := .onRow (passed.length + 1) tokens } : Cursor σ).Follows a := by
    refine ⟨?_, failed, fun _ => closes, ?_⟩
    · rw [place]
      exact .onRow split ((RecordReader.records_peek answer).trans ahead)
    · intro i v found
      have kept := cached i v found
      rwa [currentRow, position] at kept
  simp only [move, answered, isLast, position, Course.move, place]
  rw [← Prod.eta c.reader.peek, split]
  cases more with
  | nil =>
    simp only [List.length_append, List.length_singleton, Nat.lt_irrefl, if_false]
    cases fault : a.fault with
    | some fault =>
      have answer := (RecordReader.peek_eq_next c.reader).trans
        (RecordReader.next_of_fault_left (ahead.trans (by rw [fault])))
      rw [answer]
      exact ⟨rfl, .afterLast, rfl, fun _ => closes, cached_of_empty rfl⟩
    | none =>
      have answer := (RecordReader.peek_eq_next c.reader).trans
        (RecordReader.next_of_no_records (ahead.trans (by rw [fault])))
      rw [answer]
      exact ⟨rfl, stays answer⟩
  | cons found rest =>
    have answer := (RecordReader.peek_eq_next c.reader).trans
      (RecordReader.next_of_record_left ahead).1
    have behind : passed.length + 1 < (passed ++ tokens :: found :: rest).length := by simp
    rw [answer, if_pos behind]
    exact ⟨rfl, stays answer⟩

theorem follows_isLast (h : c.Follows a) :
    (c.move .isLast).1 = (a.move .isLast).1 ∧ (c.move .isLast).2.Follows (a.move .isLast).2 := by
  obtain ⟨stands, failed, closes, cached⟩ := id h
  generalize reader : c.reader = r, position : c.position = p, place : a.place = q at stands
  cases stands with
  | onRow split ahead =>
    have opened := closes (by simp [place])
    exact follows_look position place split (reader ▸ ahead) failed opened cached
  | beforeFirst ahead | afterLast | closed =>
    simp only [move, answered, isLast, position, Course.move, place]
    exact ⟨rfl, h⟩

theorem follows_close (h : c.Follows a) :
    (c.move .close).1 = (a.move .close).1 ∧ (c.move .close).2.Follows (a.move .close).2 := by
  obtain ⟨stands, failed, closes, cached⟩ := h
  by_cases opened : a.place = .closed
  · have position : c.position = .closed := by
      generalize c.position = p at stands ⊢
      rw [opened] at stands
      cases stands
      rfl
    rw [move, close, Course.move, if_pos opened, isClosed, if_pos (by simpa using position)]
    exact ⟨rfl, stands, failed, closes, cached⟩
  · have position : c.position ≠ .closed := by
      intro closed
      rw [closed] at stands
      generalize a.place = place at stands opened
      cases stands
      exact opened rfl
    obtain ⟨unnotified, answer⟩ := closes opened
    have notified := notify_of_unnotified (c := c.release) unnotified
    obtain ⟨source, statement, notified', frame⟩ := notify_frame c.release
    rw [move, answered, close_of_open position, notified, frame, Course.move, if_neg opened]
    refine ⟨congrArg (Except.map _) answer, .closed, failed, ?_, cached_of_empty rfl⟩
    intro stillOpen
    exact absurd rfl stillOpen

theorem follows_advance (h : c.Follows a) :
    (c.move .advance).1 = (a.move .advance).1 ∧
      (c.move .advance).2.Follows (a.move .advance).2 := by
  obtain ⟨stands, failed, closes, cached⟩ := h
  change (answered .truth c.advance).1 = _ ∧ c.advance.2.Follows _
  generalize reader : c.reader = r, position : c.position = p, place : a.place = q at stands
  simp only [Course.move, place]
  cases stands with
  | beforeFirst ahead =>
    exact follows_forward [] rfl (reader ▸ ahead) failed (closes (by simp [place]))
      (.inl position) (by simp [position, rowsPassed])
  | onRow split ahead =>
    rename_i passed more tokens
    have behind : a.records = (passed ++ [tokens]) ++ more := by simpa using split
    have forward := follows_forward _ behind (reader ▸ ahead) failed (closes (by simp [place]))
      (.inr ⟨_, _, position⟩) (by simp [position, rowsPassed])
    rwa [List.length_append, List.length_singleton] at forward
  | afterLast =>
    rw [advance, position]
    exact ⟨rfl, by rw [position, place]; exact .afterLast, failed, closes, cached⟩
  | closed =>
    rw [advance, position]
    exact ⟨rfl, by rw [position, place]; exact .closed, failed, closes, cached⟩

theorem isClosed_iff (h : c.Follows a) : c.isClosed = true ↔ a.place = .closed := by
  have stands := h.stands
  rw [isClosed, decide_eq_true_iff]
  generalize c.position = position, a.place = place at stands
  cases stands <;> simp

/-- What is asked of a cursor is refused once it is closed. -/
theorem asked_eq {α : Type} (h : c.Follows a) (f : α → Answer) (x : α) :
    (c.checkOpen >>= fun _ => pure x).map f = (a.ask (f x)).1 := by
  rw [checkOpen, Course.ask]
  by_cases closed : a.place = .closed
  · rw [if_pos closed, if_pos ((isClosed_iff h).2 closed)]
    rfl
  · rw [if_neg closed, if_neg (mt (isClosed_iff h).1 closed)]
    rfl

/-- What the position shows of the place. -/
theorem position_eq (h : c.Follows a) :
    (c.position = .beforeFirst ↔ a.place = .beforeFirst) ∧
      (c.position = .afterLast ↔ a.place = .afterLast) ∧
      (rowsPassed c.position = 1 ↔ a.place = .row 1) ∧
      rowsPassed c.position = a.place.number := by
  have stands := h.stands
  generalize c.position = position, a.place = place at stands ⊢
  cases stands <;> simp [rowsPassed, Place.number]

theorem follows_move (h : c.Follows a) (m : Move) :
    (c.move m).1 = (a.move m).1 ∧ (c.move m).2.Follows (a.move m).2 := by
  obtain ⟨before, after, first, number⟩ := position_eq h
  cases m with
  | advance => exact follows_advance h
  | isLast => exact follows_isLast h
  | close => exact follows_close h
  | isBeforeFirst =>
    refine ⟨?_, h⟩
    rw [Course.move, ← decide_eq_decide.2 before]
    exact asked_eq h .truth _
  | isFirst =>
    refine ⟨?_, h⟩
    rw [Course.move, ← decide_eq_decide.2 first]
    exact asked_eq h .truth _
  | isAfterLast =>
    refine ⟨?_, h⟩
    rw [Course.move, ← decide_eq_decide.2 after]
    exact asked_eq h .truth _
  | rowNumber =>
    refine ⟨?_, h⟩
    rw [Course.move, ← number]
    exact asked_eq h .number _

end Cursor

end RowStream
