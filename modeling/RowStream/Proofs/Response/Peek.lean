import RowStream.Proofs.Response.Transcript

/-! A record that was looked at ahead is the one that comes next, and nothing behind it moves. -/
namespace RowStream.RecordReader

variable {σ : Type} [Source σ] {r : RecordReader σ}

theorem next_of_no_records (h : r.records = ([], none)) : r.next.1 = .ok none := by
  rcases answer : r.next.1 with fault | _ | tokens
  · simp [records_of_error answer] at h
  · rfl
  · simp [records_of_record answer] at h

theorem next_of_fault_left {fault : Error} (h : r.records = ([], some fault)) :
    r.next.1 = .error fault := by
  rcases answer : r.next.1 with e | _ | tokens
  · simp only [records_of_error answer, Prod.mk.injEq, true_and, Option.some.injEq] at h
    rw [h]
  · simp [records_of_end answer] at h
  · simp [records_of_record answer] at h

theorem next_of_record_left {tokens : List Text} {more : List (List Text)} {fault : Option Error}
    (h : r.records = (tokens :: more, fault)) :
    r.next.1 = .ok (some tokens) ∧ r.next.2.records = (more, fault) := by
  rcases answer : r.next.1 with e | _ | found
  · simp [records_of_error answer] at h
  · simp [records_of_end answer] at h
  · rw [records_of_record answer] at h
    simp only [Prod.mk.injEq, List.cons.injEq] at h
    obtain ⟨⟨rfl, rest⟩, last⟩ := h
    exact ⟨rfl, Prod.ext rest last⟩

theorem next_peek {record : Option (List Text)} (h : r.peek.1 = .ok record) :
    r.peek.2.next = r.next := by
  have unpeeked := peeked_readRecord r
  rw [peek] at h ⊢
  cases waiting : r.peeked with
  | some record => rfl
  | none =>
    rw [waiting] at h unpeeked
    simp only at h ⊢
    rcases given : r.readRecord with ⟨e | found, after⟩
    · simp [given] at h
    · rw [given] at unpeeked
      simp only at unpeeked ⊢
      have same : ({ after with peeked := none } : RecordReader σ) = after := by
        rw [← unpeeked]
      simp only [next, takeRecord, waiting, given, same]

theorem peek_eq_next (r : RecordReader σ) : r.peek.1 = r.next.1 := by
  rw [peek, next, takeRecord]
  cases r.peeked with
  | some found => cases found <;> rfl
  | none =>
    simp only
    rcases r.readRecord with ⟨e | _ | found, after⟩ <;> rfl

theorem records_congr {r' : RecordReader σ} (h : r'.next = r.next) : r'.records = r.records := by
  rcases answer : r.next.1 with e | _ | found
  · rw [records_of_error answer, records_of_error (h ▸ answer)]
  · rw [records_of_end answer, records_of_end (h ▸ answer)]
  · rw [records_of_record answer, records_of_record (h ▸ answer), h]

theorem records_peek {record : Option (List Text)} (h : r.peek.1 = .ok record) :
    r.peek.2.records = r.records :=
  records_congr (next_peek h)

end RowStream.RecordReader
