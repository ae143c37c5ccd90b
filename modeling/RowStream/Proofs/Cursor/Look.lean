import RowStream.Proofs.Cursor.Alike
import RowStream.Proofs.Success

/-! Runs that differ in where they ask for the last row. -/
namespace RowStream

namespace Course

open Cursor (Answer)

variable {a : Course} {n : Nat}

/-- On a row, what `advance` would say decides what `isLast` says. -/
theorem look_of_advance (place : a.place = .row n) {b : Bool}
    (moved : (a.move .advance).1 = .ok (.truth b)) :
    a.move .isLast = (.ok (.truth !b), a) := by
  simp only [move, place, forward] at moved ⊢
  split at moved
  · rename_i inside
    cases moved
    rw [if_pos inside]
    rfl
  · rename_i outside
    rw [if_neg outside]
    cases fault : a.fault with
    | some e =>
      rw [fault] at moved
      cases moved
    | none =>
      rw [fault] at moved
      cases moved
      rfl

theorem look_of_failed_advance (place : a.place = .row n) {e : Error}
    (moved : (a.move .advance).1 = .error e) :
    a.ahead = [] ∧ a.fault = some e ∧ a.move .isLast = a.fail e ∧ a.move .advance = a.fail e := by
  simp only [move, place, forward] at moved ⊢
  split at moved
  · cases moved
  · rename_i outside
    cases fault : a.fault with
    | some e' =>
      rw [fault] at moved
      cases moved
      refine ⟨?_, rfl, if_neg outside, if_neg outside⟩
      rw [ahead, place]
      exact List.drop_of_length_le (Nat.not_lt.1 outside)
    | none =>
      rw [fault] at moved
      cases moved

end Course

namespace Cursor

/-- Whether an operation asks for the last row, for which it looks at the next record. -/
def Operation.looks (op : Operation) : Bool := op = .move .isLast

/-- What was done and seen up to the error that ended the rows, but for asking for the last row. -/
def undisturbed (events : List Event) : List Event :=
  (events.takeWhile (·.ending?.isNone)).filter (!·.operation.looks)

variable {σ : Type} [Source σ] {c d : Cursor σ} {a : Course}

theorem undisturbed_of_ending {event : Event} {e : Error} (ending : event.ending? = some e)
    (later : List Event) : undisturbed (event :: later) = [] := by
  simp [undisturbed, ending]

theorem undisturbed_of_look {event : Event} (quiet : event.ending? = none)
    (looks : event.operation.looks = true) (later : List Event) :
    undisturbed (event :: later) = undisturbed later := by
  simp [undisturbed, quiet, looks]

theorem undisturbed_of_quiet {event : Event} (quiet : event.ending? = none)
    (looks : event.operation.looks = false) (later : List Event) :
    undisturbed (event :: later) = event :: undisturbed later := by
  simp [undisturbed, quiet, looks]

section

variable [ZoneDatabase]

/-- Asking for the last row changes nothing, but where it comes to the error behind all rows. -/
theorem look_cases (h : c.Follows a) (sound : a.Sound) :
    ((c.event (.move .isLast)).ending? = none ∧ a.after (.move .isLast) = a) ∨
      ∃ e, (c.event (.move .isLast)).ending? = some e ∧ a.ahead = [] := by
  obtain ⟨-, shift⟩ := follows_perform h (.move .isLast)
  rw [event]
  generalize (c.perform (.move .isLast)).1 = answer, a.after (.move .isLast) = b at shift
  cases shift with
  | stay quiet => exact .inl ⟨(quiet _).2, rfl⟩
  | fail asked ahead fault going =>
    rename_i e
    refine .inr ⟨e, ?_, ahead⟩
    rcases sound.ends e fault with ⟨_, rfl⟩ | ⟨_, rfl⟩ <;> rfl

theorem alike_look (h : Alike c d a) (same : a.after (.move .isLast) = a) :
    Alike (c.perform (.move .isLast)).2 d a := by
  have left := (follows_perform h.left (.move .isLast)).1
  rw [same] at left
  obtain ⟨columns, wasNull⟩ := move_frame c .isLast
  exact ⟨left, h.right, columns.trans h.columns, wasNull.trans h.wasNull⟩

theorem visited_of_none_ahead (h : c.Follows a) (none : a.ahead = []) (ops : List Operation) :
    (c.run ops).1.filterMap Event.visited? = [] := by
  obtain ⟨rest, visited, -⟩ := visited_run h ops
  rw [none, List.append_eq_nil_iff] at visited
  exact visited.1

/-- The run visits the same rows without asking for the last one. -/
theorem visited_run_filter (h : Alike c d a) (sound : a.Sound) (ops : List Operation) :
    (c.run ops).1.filterMap Event.visited? =
      (d.run (ops.filter (!·.looks))).1.filterMap Event.visited? := by
  induction ops generalizing c d a with
  | nil => rfl
  | cons op ops ih =>
    by_cases looks : op = .move .isLast
    · subst looks
      obtain ⟨-, same⟩ | ⟨e, -, none⟩ := look_cases h.left sound
      · rw [filterMap_run_cons]
        exact ih (alike_look h same) sound
      · rw [visited_of_none_ahead h.left none, visited_of_none_ahead h.right none]
    · have kept : (op :: ops).filter (!·.looks) = op :: ops.filter (!·.looks) :=
        List.filter_cons_of_pos (by simp [Operation.looks, looks])
      rw [kept, filterMap_run_cons, filterMap_run_cons, event_eq h,
        ih (alike_perform h op).2 ((follows_perform h.left op).2.sound sound)]

/-- What a run does until an error ends the rows, it does without asking for the last row. -/
theorem undisturbed_run_filter (h : Alike c d a) (sound : a.Sound) (ops : List Operation) :
    ∃ rest, undisturbed (c.run ops).1 ++ rest = (d.run (ops.filter (!·.looks))).1 ∧
      ((c.run ops).1.filterMap Event.ending? = [] → rest = []) := by
  induction ops generalizing c d a with
  | nil => exact ⟨[], rfl, fun _ => rfl⟩
  | cons op ops ih =>
    by_cases looks : op = .move .isLast
    · subst looks
      obtain ⟨quiet, same⟩ | ⟨e, ending, -⟩ := look_cases h.left sound
      · obtain ⟨rest, later, whole⟩ := ih (alike_look h same) sound
        refine ⟨rest, ?_, fun none => whole ?_⟩
        · rw [run_cons, undisturbed_of_look quiet rfl]
          exact later
        · rw [filterMap_run_cons, quiet] at none
          exact none
      · refine ⟨(d.run (ops.filter (!·.looks))).1, ?_, fun none => ?_⟩
        · rw [run_cons, undisturbed_of_ending ending]
          rfl
        · simp [ending] at none
    · have kept : (op :: ops).filter (!·.looks) = op :: ops.filter (!·.looks) :=
        List.filter_cons_of_pos (by simp [Operation.looks, looks])
      rw [kept, run_cons, run_cons, ← event_eq h]
      cases ending : (c.event op).ending? with
      | some e =>
        refine ⟨_, by rw [undisturbed_of_ending ending]; rfl, fun none => ?_⟩
        simp [ending] at none
      | none =>
        obtain ⟨rest, later, whole⟩ :=
          ih (alike_perform h op).2 ((follows_perform h.left op).2.sound sound)
        have quiet : (c.event op).operation.looks = false := by simp [event, Operation.looks, looks]
        refine ⟨rest, ?_, fun none => whole ?_⟩
        · rw [undisturbed_of_quiet ending quiet, ← later]
          rfl
        · rwa [List.filterMap_cons_none ending] at none

theorem alike_self (h : c.Follows a) : Alike c c a := ⟨h, h, rfl, rfl⟩

/-- Two runs visit the same rows, and all else is the same up to an error that ends them. -/
structure SameRows (run run' : List Event) : Prop where
  visited : run.filterMap Event.visited? = run'.filterMap Event.visited?
  undisturbed : undisturbed run <+: undisturbed run' ∨ undisturbed run' <+: undisturbed run
  /-- Only an error cuts a run short of the other. -/
  whole : run'.filterMap Event.ending? = [] → Cursor.undisturbed run <+: Cursor.undisturbed run'
  /-- The error is the same one. -/
  ending : ∀ e ∈ run.filterMap Event.ending?, ∀ e' ∈ run'.filterMap Event.ending?, e = e'

theorem sameRows_run (h : c.Follows a) (sound : a.Sound) {ops ops' : List Operation}
    (same : ops.filter (!·.looks) = ops'.filter (!·.looks)) :
    SameRows (c.run ops).1 (c.run ops').1 := by
  obtain ⟨rest, one, -⟩ := undisturbed_run_filter (alike_self h) sound ops
  obtain ⟨rest', other, whole⟩ := undisturbed_run_filter (alike_self h) sound ops'
  rw [same] at one
  refine ⟨?_, ?_, ?_, ?_⟩
  · rw [visited_run_filter (alike_self h) sound ops, same,
      visited_run_filter (alike_self h) sound ops']
  · exact List.prefix_or_prefix_of_prefix ⟨rest, one⟩ ⟨rest', other⟩
  · intro none
    rw [whole none, List.append_nil] at other
    exact ⟨rest, one.trans other.symm⟩
  · have raised {ops : List Operation} {e : Error}
        (ending : e ∈ (c.run ops).1.filterMap Event.ending?) : a.fault = some e := by
      rw [ending_run h sound, Course.toRaise] at ending
      split at ending
      · split at ending
        · cases ending
        · exact Option.mem_toList.1 ending
      · cases ending
    intro e one e' other
    exact Option.some.inj ((raised one).symm.trans (raised other))

/-- What asking for the last row tells of what is behind the row the cursor is on. -/
structure Foresees (c : Cursor σ) : Prop where
  /-- However often it is asked, the answer is the opposite of what `advance` is to say. -/
  exact : ∀ tokens b, c.currentRow = .ok tokens → c.advance.1 = .ok b → ∀ n,
    (c.run (List.replicate n (.move .isLast) ++ [.move .advance])).1.map (·.answer) =
      List.replicate n (.ok (.truth !b)) ++ [.ok (.truth b)]
  /-- An error is raised by whichever comes to it first, and no row is visited any more. -/
  bad : ∀ tokens e, c.currentRow = .ok tokens → c.advance.1 = .error e → c.isLast.1 = .error e ∧
    ∀ m, m = .advance ∨ m = .isLast → ∀ ops,
      (c.run (.move m :: ops)).1.filterMap Event.ending? = [e] ∧
        (c.run (.move m :: ops)).1.filterMap Event.visited? = []
  /-- Off a row nothing is read. -/
  off : c.isClosed = false → (∀ tokens, c.currentRow ≠ .ok tokens) → c.isLast = (.ok false, c)
  closed : c.isClosed = true → c.isLast = (.error (.state .closed), c)

theorem answers_looks {n : Nat} (h : c.Follows a) (place : a.place = .row n) {b : Bool}
    (moved : (a.move .advance).1 = .ok (.truth b)) (count : Nat) :
    (c.run (List.replicate count (.move .isLast) ++ [.move .advance])).1.map (·.answer) =
      List.replicate count (.ok (.truth !b)) ++ [.ok (.truth b)] := by
  induction count generalizing c with
  | zero =>
    have answer := (follows_move h .advance).1.trans moved
    simp [run, perform, answer]
  | succ count ih =>
    obtain ⟨answer, follows⟩ := follows_move h .isLast
    rw [Course.look_of_advance place moved] at answer follows
    rw [List.replicate_succ, List.cons_append, run_cons, List.map_cons, List.replicate_succ,
      List.cons_append]
    exact congr (congrArg List.cons answer) (ih follows)

theorem ends_of_failed_advance {n : Nat} (h : c.Follows a) (sound : a.Sound)
    (place : a.place = .row n) {e : Error} (moved : (a.move .advance).1 = .error e) {m : Move}
    (asked : m = .advance ∨ m = .isLast) (ops : List Operation) :
    (c.run (.move m :: ops)).1.filterMap Event.ending? = [e] ∧
      (c.run (.move m :: ops)).1.filterMap Event.visited? = [] := by
  obtain ⟨none, fault, looked, advanced⟩ := Course.look_of_failed_advance place moved
  refine ⟨?_, visited_of_none_ahead h none _⟩
  have failed : (a.after (.move m)).failed = true := by
    rcases asked with rfl | rfl
    · rw [Course.after, advanced]
      rfl
    · rw [Course.after, looked]
      rfl
  have notYet : a.failed ≠ true := fun failed => by
    rcases sound.behind failed with behind | behind <;> simp [place] at behind
  rw [ending_run h sound, List.foldl_cons, Course.failed_foldl failed, Course.toRaise,
    if_neg notYet, fault]
  rfl

theorem foresees (h : c.Follows a) (sound : a.Sound) : Foresees c := by
  have advanced := (follows_move h .advance).1
  have looked := (follows_move h .isLast).1
  refine ⟨?_, ?_, ?_, ?_⟩
  · intro tokens b row moved
    obtain ⟨n, place, -⟩ := (currentRow_iff h tokens).1 row
    rw [move, answered, moved] at advanced
    exact answers_looks h place advanced.symm
  · intro tokens e row moved
    obtain ⟨n, place, -⟩ := (currentRow_iff h tokens).1 row
    rw [move, answered, moved] at advanced
    refine ⟨?_, fun m asked => ends_of_failed_advance h sound place advanced.symm asked⟩
    obtain ⟨-, -, fails, -⟩ := Course.look_of_failed_advance place advanced.symm
    rw [fails, move, answered] at looked
    cases answer : c.isLast.1 with
    | ok b =>
      rw [answer] at looked
      cases looked
    | error e' =>
      rw [answer] at looked
      cases looked
      rfl
  · intro opened offRow
    rw [isClosed, decide_eq_false_iff_not] at opened
    rw [isLast]
    split
    · exact absurd ‹_› opened
    · rename_i n tokens position
      exact absurd (by rw [currentRow, position]) (offRow tokens)
    · rfl
  · intro closed
    rw [isClosed, decide_eq_true_iff] at closed
    rw [isLast, closed]

/-- Asking for the last row looks at the next record and changes nothing else: any two runs that
differ only in where they ask for it see the same. -/
theorem looks_run {source : σ} {origin : Origin} {statement : Option Statement}
    (opened : openOn source origin statement = .ok c) (ops : List Operation) :
    (∀ ops', ops'.filter (!·.looks) = ops.filter (!·.looks) →
      SameRows (c.run ops).1 (c.run ops').1) ∧ Foresees (c.run ops).2 := by
  obtain ⟨start, -⟩ := follows_openOn opened
  have sound := sound_start source statement
  constructor
  · intro ops' same
    exact sameRows_run start sound same.symm
  · exact foresees (follows_run start ops) (Course.sound_foldl sound ops)

end

/-- A row, and behind it a record with a field too many, which whatever comes to it refuses. -/
theorem looks_run_bad_record :
    let source := ScriptSource.ofScript
      [.ok (Utf8.encode "n\nint\n1\n".toList), .ok (Utf8.encode "2\t3\n".toList)] false
    ∃ c, openOn source {} none = .ok c ∧
      SameRows (c.run [.move .advance, .move .isLast, .move .isLast, .move .rowNumber]).1
        (c.run [.move .advance, .move .rowNumber, .move .isLast]).1 ∧
      Foresees (c.run [.move .advance]).2 ∧
      (c.run [.move .advance]).2.currentRow = .ok [['1']] ∧
      ∃ e, e.message = "Row 2 has 2 fields, expected 1".toList ∧
        (c.run [.move .advance]).2.advance.1 = .error e ∧
        (c.run [.move .advance]).2.isLast.1 = .error e := by
  intro source
  have stands : (openOn source {} none).toOption.map (fun c =>
      ((c.run [.move .advance]).2.position,
        (c.run [.move .advance]).2.advance.1.error?.map Error.message)) =
      some (.onRow 1 [['1']], some "Row 2 has 2 fields, expected 1".toList) := by decide +kernel
  obtain ⟨c, opened, facts⟩ := Except.exists_of_toOption_map_eq_some stands
  obtain ⟨position, refused⟩ := Prod.mk.inj facts
  have row : (c.run [.move .advance]).2.currentRow = .ok [['1']] := by rw [currentRow, position]
  obtain ⟨e, found, message⟩ := Option.map_eq_some_iff.1 refused
  have failed := Except.of_error?_eq_some found
  obtain ⟨same, -⟩ :=
    looks_run opened [.move .advance, .move .isLast, .move .isLast, .move .rowNumber]
  obtain ⟨-, foresees⟩ := looks_run opened [.move .advance]
  exact ⟨c, opened, same _ rfl, foresees, row, e, message, failed, (foresees.bad _ _ row failed).1⟩

end Cursor

end RowStream
