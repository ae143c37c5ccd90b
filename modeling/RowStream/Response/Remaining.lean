import RowStream.Response.RecordReader

/-! What a reader has left to give, and that every record it gives leaves less. -/
namespace RowStream.RecordReader

variable {σ : Type} [Source σ]

/-- The bytes that may still be looked at. -/
def bytesLeft (r : RecordReader σ) : Nat := Source.size r.source + r.buffer.length

theorem bytesLeft_readLine_le (r : RecordReader σ) : r.readLine.2.bytesLeft ≤ r.bytesLeft := by
  fun_induction readLine r with
  | case1 r bytes buffer taken =>
    have := LineBuffer.length_takeLine_of_some taken
    simp only [bytesLeft]
    omega
  | case2 r buffer taken =>
    have := LineBuffer.length_takeLine_of_none taken
    simp only [bytesLeft]
    omega
  | case3 r buffer taken _ fault source given =>
    have := LineBuffer.length_takeLine_of_none taken
    have := Source.size_read r.source
    simp only [given, delivered, List.length_nil] at this
    simp only [bytesLeft]
    omega
  | case4 r buffer taken _ source given =>
    have := LineBuffer.length_takeLine_of_none taken
    have := Source.size_read r.source
    simp only [given, delivered, List.length_nil] at this
    simp only [bytesLeft]
    omega
  | case5 r buffer taken _ b piece source given _ ih =>
    have := LineBuffer.length_takeLine_of_none taken
    have := Source.size_read r.source
    simp only [given, delivered] at this
    simp only [bytesLeft, LineBuffer.length, LineBuffer.feed, List.length_append] at *
    omega

theorem endOfLines_ne_some (buffer : LineBuffer) (line : Text) :
    endOfLines buffer ≠ .ok (some line) := by
  simp only [endOfLines]
  split <;> simp

theorem bytesLeft_lt_of_readLine {r : RecordReader σ} {line : Text}
    (h : r.readLine.1 = .ok (some line)) : r.readLine.2.bytesLeft < r.bytesLeft := by
  fun_induction readLine r with
  | case1 r bytes buffer taken =>
    have := LineBuffer.length_takeLine_of_some taken
    simp only [bytesLeft]
    omega
  | case2 r buffer => exact absurd h (endOfLines_ne_some buffer line)
  | case3 => simp at h
  | case4 r buffer => exact absurd h (endOfLines_ne_some buffer line)
  | case5 r buffer taken _ b piece source given _ ih =>
    have := LineBuffer.length_takeLine_of_none taken
    have := Source.size_read r.source
    have := ih h
    simp only [given, delivered] at *
    simp only [bytesLeft, LineBuffer.length, LineBuffer.feed, List.length_append] at *
    omega

theorem bytesLeft_readHeader_le (r : RecordReader σ) : r.readHeader.2.bytesLeft ≤ r.bytesLeft := by
  have first := bytesLeft_readLine_le r
  have second := bytesLeft_readLine_le r.readLine.2
  simp only [readHeader]
  split
  · exact Nat.le_refl _
  · split
    · simp_all
    · simp_all [bytesLeft]
    · rename_i namesLine r' heq
      simp only [heq] at first second
      split
      · simp_all
        omega
      · simp_all
        omega
      · split <;> simp_all [bytesLeft] <;> omega

theorem peeked_readLine (r : RecordReader σ) : r.readLine.2.peeked = r.peeked := by
  fun_induction readLine r <;> simp_all

theorem peeked_readHeader (r : RecordReader σ) : r.readHeader.2.peeked = r.peeked := by
  have first := peeked_readLine r
  have second := peeked_readLine r.readLine.2
  simp only [readHeader]
  split
  · rfl
  · split
    · simp_all
    · simp_all
    · split
      · simp_all
      · simp_all
      · split <;> simp_all

theorem peeked_readRecord (r : RecordReader σ) : r.readRecord.2.peeked = r.peeked := by
  have first := peeked_readHeader r
  have second := peeked_readLine r.readHeader.2
  simp only [readRecord]
  split
  · simp_all
  · split <;> simp_all

theorem bytesLeft_lt_of_readRecord {r : RecordReader σ} {tokens : List Text}
    (h : r.readRecord.1 = .ok (some tokens)) : r.readRecord.2.bytesLeft < r.bytesLeft := by
  have first := bytesLeft_readHeader_le r
  simp only [readRecord] at h ⊢
  split at h
  · simp at h
  · rename_i header r' heq
    simp only [heq] at first
    split at h
    · simp at h
    · simp at h
    · rename_i line r'' heq'
      have := bytesLeft_lt_of_readLine (show r'.readLine.1 = .ok (some line) by rw [heq'])
      simp only [heq'] at this ⊢
      omega

/-- What is left to give: bytes, and a record that waits for its turn. -/
def remaining (r : RecordReader σ) : Nat :=
  r.bytesLeft + if r.peeked.join.isSome then 1 else 0

theorem remaining_lt_of_takeRecord {r : RecordReader σ} {tokens : List Text}
    (h : r.takeRecord.1 = .ok (some tokens)) : r.takeRecord.2.remaining < r.remaining := by
  simp only [takeRecord] at h ⊢
  split at h
  · rename_i record heq
    simp only [Except.ok.injEq] at h
    simp [remaining, bytesLeft, heq, h]
  · rename_i heq
    have := bytesLeft_lt_of_readRecord h
    simp only [remaining, peeked_readRecord, heq]
    omega

/-- Every record given leaves less to give. -/
theorem remaining_lt_of_next {r : RecordReader σ} {tokens : List Text}
    (h : r.next.1 = .ok (some tokens)) : r.next.2.remaining < r.remaining := by
  simp only [next] at h ⊢
  split at h
  · rename_i record r' heq
    have := remaining_lt_of_takeRecord (show r.takeRecord.1 = .ok (some record) by rw [heq])
    simp only [heq, remaining, bytesLeft] at this ⊢
    omega
  · rename_i result r' other heq
    exact absurd h (by rintro rfl; exact other _ rfl)

end RowStream.RecordReader
