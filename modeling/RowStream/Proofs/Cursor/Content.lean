import RowStream.Proofs.Cursor.Alike
import RowStream.Proofs.Source.Slices
import RowStream.Proofs.Success

/-! A cursor shows what its source gives in all, and not how that is cut. -/
namespace RowStream

/-- Readers with the same transcript have read the same header, or failed to in the same way. -/
theorem RecordReader.readHeader_congr {σ τ : Type} [Source σ] [Source τ] {r : RecordReader σ}
    {r' : RecordReader τ} (same : r.transcript = r'.transcript) :
    r.readHeader.1 = r'.readHeader.1 := by
  cases read : r.readHeader.1 with
  | error e =>
    rw [transcript_of_refused read] at same
    cases read' : r'.readHeader.1 with
    | error e' =>
      rw [transcript_of_refused read'] at same
      cases same
      rfl
    | ok header' =>
      rw [transcript_of_header read'] at same
      cases same
  | ok header =>
    rw [transcript_of_header read] at same
    cases read' : r'.readHeader.1 with
    | error e' =>
      rw [transcript_of_refused read'] at same
      cases same
    | ok header' =>
      rw [transcript_of_header read'] at same
      injection same with header
      exact congrArg Except.ok (Option.some.inj header)

namespace Cursor

variable {σ : Type} [Source σ] {c d : Cursor σ} {a : Course}

section

variable [ZoneDatabase]

theorem alike_run (h : Alike c d a) (ops : List Operation) : (c.run ops).1 = (d.run ops).1 := by
  induction ops generalizing c d a with
  | nil => rfl
  | cons op ops ih =>
    obtain ⟨-, after⟩ := alike_perform h op
    rw [run_cons, run_cons, event_eq h, ih after]

/-- Opening is refused for the same reason, or it gives the same columns, and then whatever is done
has the same answers and comes to the same rows. -/
inductive SameResults : Except (Error × σ) (Cursor σ) → Except (Error × σ) (Cursor σ) → Prop where
  | refused (e : Error) (s t : σ) : SameResults (.error (e, s)) (.error (e, t))
  | opened {c d : Cursor σ} (columns : c.columns = d.columns)
    (events : ∀ ops, (c.run ops).1 = (d.run ops).1) : SameResults (.ok c) (.ok d)

/-- Two sources that come to the same bytes and the same failure have the same results. -/
theorem sameResults_openOn {s t : σ} (same : Source.drain s = Source.drain t) (origin : Origin)
    (statement : Option Statement) :
    SameResults (openOn s origin statement) (openOn t origin statement) := by
  have header : (RecordReader.of s).readHeader.1 = (RecordReader.of t).readHeader.1 := by
    apply RecordReader.readHeader_congr
    rw [RecordReader.transcript_of_source, RecordReader.transcript_of_source, same]
  have follow {u : σ} {c : Cursor σ} (opened : openOn u origin statement = .ok c) :=
    (follows_openOn opened).1
  cases resolved : (RecordReader.of s).readHeader.1 >>= Column.ofHeader origin with
  | error e =>
    have resolved' := resolved
    rw [header] at resolved'
    simp only [openOn, resolved, resolved']
    exact .refused e _ _
  | ok columns =>
    have resolved' := resolved
    rw [header] at resolved'
    have left {c : Cursor σ} (opened : openOn s origin statement = .ok c) := follow opened
    have right {d : Cursor σ} (opened : openOn t origin statement = .ok d) := follow opened
    rw [transcriptOf, same] at left
    simp only [openOn, resolved, resolved'] at left right ⊢
    exact .opened rfl (alike_run ⟨left rfl, right rfl, rfl, rfl⟩)

/-- Under a size above zero, bytes in memory have the results that they have under the usual one.
All other sizes lose bytes at the end, unless there are none. -/
theorem results_of_size [ResponseClient] {env : Environment} {asked : Option Int} {data : Bytes}
    {source : InputSource} (made : (Input.memory data).source env asked = .ok source) :
    ∃ size, env.pieceSize asked = .ok size ∧
      Source.drain source = (data.take (MemorySource.served data.length size), none) ∧
      (Source.drain source = (data, none) ↔ data = [] ∨ 0 < size) ∧
      (data = [] ∨ 0 < size → ∃ usual, (Input.memory data).source {} none = .ok usual ∧
        ∀ origin statement,
          SameResults (openOn source origin statement) (openOn usual origin statement)) := by
  obtain ⟨size, accepted, made⟩ := Except.of_bind_eq_ok made
  cases made
  have drained (size : Int) :
      Source.drain (InputSource.memory (.ofBytes data size)) =
        Source.drain (MemorySource.ofBytes data size) :=
    InputSource.preserves_memory.drain_eq _
  have whole := MemorySource.drain_eq_iff data
  refine ⟨size, accepted, ?_, ?_, ?_⟩
  · rw [drained, MemorySource.drain_ofBytes]
  · rw [drained, whole]
  · intro kept
    refine ⟨_, rfl, ?_⟩
    intro origin statement
    apply sameResults_openOn
    rw [drained, drained, (whole size).2 kept, (whole _).2 (.inr (by decide))]

end

/-- The variable is looked at where the size asked for is zero. -/
theorem results_of_size_from_environment :
    let env : Environment := { bufferSize := some "3".toList }
    let data := Utf8.encode "a\nint\n1\n".toList
    ∃ size, env.pieceSize (some 0) = .ok size ∧
      Source.drain (InputSource.memory (.ofBytes data 3)) =
        (data.take (MemorySource.served data.length size), none) ∧
      (Source.drain (InputSource.memory (.ofBytes data 3)) = (data, none) ↔
        data = [] ∨ 0 < size) ∧
      (data = [] ∨ 0 < size → ∃ usual, (Input.memory data).source {} none = .ok usual ∧
        ∀ origin statement, SameResults
          (openOn (InputSource.memory (.ofBytes data 3)) origin statement)
          (openOn usual origin statement)) := by
  intro env data
  have made : (Input.memory data).source env (some 0) = .ok (.memory (.ofBytes data 3)) := rfl
  exact results_of_size made

/-- A size of minus one leaves out the last byte, and zero all of them. -/
theorem lost_under_zero_and_minus_one :
    let data := Utf8.encode "a\nint\n1\n".toList
    (∃ source, (Input.memory data).source {} (some (-1)) = .ok source ∧
      Source.drain source = (data.dropLast, none)) ∧
    ∃ source, (Input.memory data).source { bufferSize := some "0".toList } none = .ok source ∧
      Source.drain source = ([], none) := by
  intro data
  constructor
  · refine ⟨_, rfl, ?_⟩
    rw [InputSource.preserves_memory.drain_eq, MemorySource.drain_ofBytes]
    decide
  · refine ⟨_, rfl, ?_⟩
    rw [InputSource.preserves_memory.drain_eq, MemorySource.drain_ofBytes]
    decide

end Cursor

end RowStream
