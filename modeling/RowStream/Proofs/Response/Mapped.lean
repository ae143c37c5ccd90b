import RowStream.Proofs.Source.Drain
import RowStream.Response.RecordReader

/-! Readers of sources that behave alike: a map that commutes with reading and closing commutes with
all that a reader does. -/
namespace RowStream

/-- What is read of the image is what is read of the source, and leaves the image of what that
leaves. -/
structure Source.Preserves {σ τ : Type} [Source σ] [Source τ] (f : σ → τ) : Prop where
  read : ∀ s, Source.read (f s) = ((Source.read s).1, f (Source.read s).2)
  close : ∀ s, Source.close (f s) = ((Source.close s).1, f (Source.close s).2)
  statementClosed : ∀ s, Source.statementClosed (f s) = f (Source.statementClosed s)

theorem Source.Preserves.drain_eq {σ τ : Type} [Source σ] [Source τ] {f : σ → τ}
    (h : Preserves f) (s : σ) : drain (f s) = drain s := by
  fun_induction drain s with
  | case1 s fault s' given =>
    apply drain_of_error
    rw [h.read, given]
  | case2 s s' given =>
    apply drain_of_end
    rw [h.read, given]
  | case3 s b piece s' given _ ih =>
    have image : Source.read (f s) = (.ok (b :: piece), f s') := by rw [h.read, given]
    rw [drain_of_piece image, ih]

namespace RecordReader

variable {σ τ : Type}

def map (f : σ → τ) (r : RecordReader σ) : RecordReader τ :=
  ⟨f r.source, r.buffer, r.atEnd, r.header, r.peeked, r.recordsRead⟩

variable [Source σ] [Source τ] {f : σ → τ} {r : RecordReader σ}

/-- Where no line is whole, the next read decides. -/
theorem readLine_of_refill {buffer : LineBuffer} (taken : r.buffer.takeLine = (none, buffer))
    (going : ¬r.atEnd) : r.readLine = match Source.read r.source with
      | (.error fault, source) => (.error (.ofSource fault), { r with source, buffer })
      | (.ok [], source) => (endOfLines buffer, { r with source, buffer, atEnd := true })
      | (.ok (b :: piece), source) =>
        readLine { r with source, buffer := buffer.feed (b :: piece) } := by
  rw [readLine]
  split
  · simp_all
  · split
    · contradiction
    · split <;> simp_all

theorem readLine_map (h : Source.Preserves f) (r : RecordReader σ) :
    (r.map f).readLine = (r.readLine.1, r.readLine.2.map f) := by
  fun_induction readLine r with
  | case1 r bytes buffer taken =>
    rw [readLine]
    split <;> simp_all [map]
  | case2 r buffer taken ended =>
    rw [readLine]
    split <;> simp_all [map]
  | case3 r buffer taken going fault source given =>
    have image : Source.read (r.map f).source = (.error fault, f source) :=
      (h.read r.source).trans (by rw [given])
    rw [readLine_of_refill (r := r.map f) taken going, image]
    rfl
  | case4 r buffer taken going source given =>
    have image : Source.read (r.map f).source = (.ok [], f source) :=
      (h.read r.source).trans (by rw [given])
    rw [readLine_of_refill (r := r.map f) taken going, image]
    rfl
  | case5 r buffer taken going b piece source given _ ih =>
    have image : Source.read (r.map f).source = (.ok (b :: piece), f source) :=
      (h.read r.source).trans (by rw [given])
    rw [readLine_of_refill (r := r.map f) taken going, image]
    exact ih

theorem readHeader_map (h : Source.Preserves f) (r : RecordReader σ) :
    (r.map f).readHeader = (r.readHeader.1, r.readHeader.2.map f) := by
  have header : (r.map f).header = r.header := rfl
  rw [readHeader, readHeader, header]
  cases r.header with
  | some found => rfl
  | none =>
    dsimp only
    rw [readLine_map h]
    rcases r.readLine with ⟨e | _ | namesLine, r'⟩
    · rfl
    · rfl
    · dsimp only
      rw [readLine_map h]
      rcases r'.readLine with ⟨e | _ | tagsLine, r''⟩
      · rfl
      · rfl
      · dsimp only
        cases headerOf namesLine tagsLine <;> rfl

theorem readRecord_map (h : Source.Preserves f) (r : RecordReader σ) :
    (r.map f).readRecord = (r.readRecord.1, r.readRecord.2.map f) := by
  rw [readRecord, readRecord, readHeader_map h]
  rcases r.readHeader with ⟨e | header, r'⟩
  · rfl
  · dsimp only
    rw [readLine_map h]
    rcases r'.readLine with ⟨e | _ | line, r''⟩ <;> rfl

theorem next_map (h : Source.Preserves f) (r : RecordReader σ) :
    (r.map f).next = (r.next.1, r.next.2.map f) := by
  have taken : (r.map f).takeRecord = (r.takeRecord.1, r.takeRecord.2.map f) := by
    have peeked : (r.map f).peeked = r.peeked := rfl
    rw [takeRecord, takeRecord, peeked]
    cases r.peeked with
    | some record => rfl
    | none => exact readRecord_map h r
  rw [next, next, taken]
  rcases r.takeRecord with ⟨e | _ | record, r'⟩ <;> rfl

theorem peek_map (h : Source.Preserves f) (r : RecordReader σ) :
    (r.map f).peek = (r.peek.1, r.peek.2.map f) := by
  have peeked : (r.map f).peeked = r.peeked := rfl
  rw [peek, peek, peeked]
  cases r.peeked with
  | some record => rfl
  | none =>
    dsimp only
    rw [readRecord_map h]
    rcases r.readRecord with ⟨e | record, r'⟩ <;> rfl

end RecordReader

end RowStream
