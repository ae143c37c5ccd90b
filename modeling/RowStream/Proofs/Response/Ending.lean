import RowStream.Proofs.Response.Transcript

/-! What ends the records of a response early, and how many tokens each record has. -/
namespace RowStream

/-- The response is malformed or its source failed. -/
def Error.EndsRecords (e : Error) : Prop :=
  (∃ fault, e = .format fault) ∨ ∃ reported, e = .stream reported

namespace Transcript

theorem endsRecords_lineFault {rest : Bytes} {failure : Option SourceFault} {e : Error}
    (h : lineFault rest failure = some e) : e.EndsRecords := by
  cases failure with
  | none =>
    rw [lineFault] at h
    split at h
    · simp at h
    · exact .inl ⟨_, (Option.some.inj h).symm⟩
  | some fault =>
    obtain rfl := Option.some.inj h
    cases fault with
    | format message => exact .inl ⟨_, rfl⟩
    | _ => exact .inr ⟨_, rfl⟩

theorem endsRecords_texts {fault : Option Error} (ends : ∀ e, fault = some e → e.EndsRecords)
    (lines : List Bytes) {e : Error} (h : (texts fault lines).2 = some e) : e.EndsRecords := by
  induction lines with
  | nil => exact ends e h
  | cons line more ih =>
    rw [texts] at h
    split at h
    · exact .inl ⟨_, (Option.some.inj h).symm⟩
    · exact ih h

theorem endsRecords_rows {columns row : Nat} {fault : Option Error}
    (ends : ∀ e, fault = some e → e.EndsRecords) {lines : List Text} {e : Error}
    (h : (rows columns fault row lines).2 = some e) : e.EndsRecords := by
  induction lines generalizing row with
  | nil => exact ends e h
  | cons line more ih =>
    rw [rows] at h
    split at h
    · exact ih h
    · exact .inl ⟨_, (Option.some.inj h).symm⟩

theorem length_of_mem_rows {columns row : Nat} {fault : Option Error} {lines tokens : List Text}
    (h : tokens ∈ (rows columns fault row lines).1) : tokens.length = columns := by
  induction lines generalizing row with
  | nil => simp [rows] at h
  | cons line more ih =>
    rw [rows] at h
    split at h
    · rename_i fits
      rcases List.mem_cons.1 h with rfl | h
      · exact fits
      · exact ih h
    · simp at h

/-- Only a malformed response or a failing source ends the records early. -/
theorem endsRecords_ofBytes {bytes : Bytes} {failure : Option SourceFault} {e : Error}
    (h : (ofBytes bytes failure).fault = some e) : e.EndsRecords := by
  rw [ofBytes] at h
  have ends : ∀ e, (texts (lineFault (Lines.cut bytes).rest failure) (Lines.cut bytes).ended).2 =
      some e → e.EndsRecords :=
    fun _ => endsRecords_texts (fun _ => endsRecords_lineFault) _
  generalize texts _ (Lines.cut bytes).ended = found at h ends
  rcases found with ⟨_ | ⟨namesLine, _ | ⟨tagsLine, more⟩⟩, _ | fault⟩
  · simp [ofTexts] at h
  · exact ends e h
  · obtain rfl := Option.some.inj h
    exact .inl ⟨_, rfl⟩
  · exact ends e h
  all_goals
    simp only [ofTexts] at h
    split at h
    · exact endsRecords_rows ends h
    · obtain rfl := Option.some.inj h
      exact .inl ⟨_, rfl⟩

theorem length_of_mem_records {bytes : Bytes} {failure : Option SourceFault} {header : Header}
    (h : (ofBytes bytes failure).header = some header) :
    header.names.length = header.tags.length ∧
      ∀ tokens ∈ (ofBytes bytes failure).records, tokens.length = header.names.length := by
  rw [ofBytes] at h ⊢
  generalize texts _ (Lines.cut bytes).ended = found at h ⊢
  rcases found with ⟨_ | ⟨namesLine, _ | ⟨tagsLine, more⟩⟩, _ | fault⟩
  · obtain rfl := Option.some.inj h
    exact ⟨rfl, by simp [ofTexts]⟩
  · simp [ofTexts] at h
  · simp [ofTexts] at h
  · simp [ofTexts] at h
  all_goals
    simp only [ofTexts] at h ⊢
    split at h
    · rename_i same
      obtain rfl := Option.some.inj h
      simp only [same, if_true]
      exact ⟨trivial, fun tokens => length_of_mem_rows⟩
    · simp at h

end Transcript

end RowStream
