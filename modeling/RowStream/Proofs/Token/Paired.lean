import RowStream.Proofs.Token.Spelling

/-! Tokens as runs of characters and escape pairs. Resolving escapes goes through between any two of
them. -/
namespace RowStream.Token

/-- Every backslash takes a character along, and all characters that none takes along are `free`. -/
inductive Paired (free : Char → Prop) : Text → Prop where
  | nil : Paired free []
  | plain {c : Char} {t : Text} (slash : c ≠ '\\') (h : free c) (more : Paired free t) :
    Paired free (c :: t)
  | pair (c : Char) {t : Text} (more : Paired free t) : Paired free ('\\' :: c :: t)

namespace Paired

variable {free : Char → Prop} {t u : Text}

theorem of_forall (h : ∀ c ∈ t, c ≠ '\\' ∧ free c) : Paired free t := by
  induction t with
  | nil => exact .nil
  | cons c t ih =>
    obtain ⟨⟨slash, first⟩, others⟩ := List.forall_mem_cons.1 h
    exact .plain slash first (ih others)

theorem append (h : Paired free t) (h' : Paired free u) : Paired free (t ++ u) := by
  induction h with
  | nil => exact h'
  | plain slash h _ ih => exact .plain slash h ih
  | pair c _ ih => exact .pair c ih

/-- The last of a run is a character or a pair. -/
theorem exists_last (h : Paired free t) (some : t ≠ []) : ∃ front c, Paired free front ∧
    (t = front ++ [c] ∧ c ≠ '\\' ∧ free c ∨ t = front ++ ['\\', c]) := by
  induction h with
  | nil => exact absurd rfl some
  | @plain c t slash h more ih =>
    cases t with
    | nil => exact ⟨[], c, .nil, .inl ⟨rfl, slash, h⟩⟩
    | cons d t =>
      obtain ⟨front, last, paired, whole⟩ := ih (List.cons_ne_nil d t)
      refine ⟨c :: front, last, .plain slash h paired, ?_⟩
      rcases whole with ⟨whole, single⟩ | whole
      · exact .inl ⟨congrArg (c :: ·) whole, single⟩
      · exact .inr (congrArg (c :: ·) whole)
  | @pair c t more ih =>
    cases t with
    | nil => exact ⟨[], c, .nil, .inr rfl⟩
    | cons d t =>
      obtain ⟨front, last, paired, whole⟩ := ih (List.cons_ne_nil d t)
      refine ⟨'\\' :: c :: front, last, .pair c paired, ?_⟩
      rcases whole with ⟨whole, single⟩ | whole
      · exact .inl ⟨congrArg ('\\' :: c :: ·) whole, single⟩
      · exact .inr (congrArg ('\\' :: c :: ·) whole)

theorem unescape_append (h : Paired free t) (u : Text) :
    unescape (t ++ u) = unescape t ++ unescape u := by
  induction h with
  | nil => rfl
  | plain slash h _ ih =>
    rw [List.cons_append, unescape_cons slash, unescape_cons slash, ih, List.cons_append]
  | pair c _ ih =>
    rw [List.cons_append, List.cons_append, unescape, unescape, ih]
    split <;> rfl

end Paired

theorem Whole.paired {t : Text} (h : Whole t) : Paired (· ≠ '\t') t := by
  induction h with
  | nil => exact .nil
  | plain h _ ih => exact .plain h.1 h.2.1 ih
  | @pair d _ _ _ ih => exact .pair d ih

end RowStream.Token
