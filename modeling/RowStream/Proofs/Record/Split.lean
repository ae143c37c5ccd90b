import RowStream.Proofs.Token.Joined
import RowStream.Token

/-! The tokens of a line. Cutting a line at its free tabs and joining tokens with tabs undo each
other. -/
namespace RowStream.Record

open Token (Hides Paired Whole endsInsidePair)

variable {line t : Text} {tokens : List Text}

theorem extend_nil (some : tokens ≠ []) : extend [] tokens = tokens := by
  obtain ⟨first, rest, rfl⟩ := List.exists_cons_of_ne_nil some
  rw [extend, List.nil_append]

theorem extend_extend (t u : Text) (some : tokens ≠ []) :
    extend t (extend u tokens) = extend (t ++ u) tokens := by
  obtain ⟨first, rest, rfl⟩ := List.exists_cons_of_ne_nil some
  rw [extend, extend, extend, List.append_assoc]

theorem joined_extend (separator t : Text) {parts : List Text} (some : parts ≠ []) :
    Text.joined separator (extend t parts) = t ++ Text.joined separator parts := by
  cases parts with
  | nil => exact absurd rfl some
  | cons u rest =>
    cases rest with
    | nil => rw [extend, Text.joined_singleton, Text.joined_singleton]
    | cons v rest => rw [extend, Text.joined_cons_cons, Text.joined_cons_cons, List.append_assoc]

theorem join_singleton (t : Text) : join [t] = t := Text.joined_singleton ['\t'] t

theorem join_cons (t : Text) {rest : List Text} (some : rest ≠ []) :
    join (t :: rest) = t ++ '\t' :: join rest := by
  obtain ⟨u, others, rfl⟩ := List.exists_cons_of_ne_nil some
  exact Text.joined_cons_cons ['\t'] t u others

theorem split_cons {c : Char} (slash : c ≠ '\\') (tab : c ≠ '\t') (rest : Text) :
    split (c :: rest) = extend [c] (split rest) := by
  rw [split]
  · intro d tail same
    exact absurd same slash
  · intro same
    exact tab same

theorem split_append (h : Paired (· ≠ '\t') t) (rest : Text) :
    split (t ++ rest) = extend t (split rest) := by
  have some := split_ne_nil rest
  induction h with
  | nil => rw [List.nil_append, extend_nil some]
  | plain slash tab _ ih =>
    rw [List.cons_append, split_cons slash tab, ih, extend_extend _ _ some]
    rfl
  | pair c _ ih =>
    rw [List.cons_append, List.cons_append, split, ih, extend_extend _ _ some]
    rfl

theorem forall_mem_extend {P : Text → Prop} (some : tokens ≠ []) (h : ∀ u ∈ tokens, P u)
    (front : ∀ u, P u → P (t ++ u)) : ∀ u ∈ extend t tokens, P u := by
  obtain ⟨first, more, rfl⟩ := List.exists_cons_of_ne_nil some
  obtain ⟨kept, others⟩ := List.forall_mem_cons.1 h
  exact List.forall_mem_cons.2 ⟨front first kept, others⟩

/-- The cut at tabs goes along the pairs of the line. -/
theorem paired_of_mem_split {free : Char → Prop} (h : Paired free line) :
    ∀ t ∈ split line, Paired (fun c => c ≠ '\t' ∧ free c) t := by
  induction h with
  | nil => exact List.forall_mem_singleton.2 .nil
  | @plain c rest slash h _ ih =>
    by_cases tab : c = '\t'
    · subst tab
      exact List.forall_mem_cons.2 ⟨.nil, ih⟩
    · rw [split_cons slash tab]
      exact forall_mem_extend (split_ne_nil rest) ih fun _ kept => .plain slash ⟨tab, h⟩ kept
  | @pair c rest _ ih =>
    exact forall_mem_extend (split_ne_nil rest) ih fun _ kept => .pair c kept

/-- The tokens that tabs can keep apart: no tab in them is free, and none but the last has half a
pair at its end, which would take the tab behind it along. -/
structure Separable (tokens : List Text) : Prop where
  present : tokens ≠ []
  hidden : ∀ t ∈ tokens, Hides '\t' t
  complete : ∀ t ∈ tokens.dropLast, endsInsidePair t = false

/-- The tokens of a line, one by one: runs of characters and pairs, and perhaps half a pair at the
very end. -/
inductive Cut : List Text → Prop where
  | last {t : Text} (h : Paired (· ≠ '\t') t) : Cut [t]
  | dangling {t : Text} (h : Paired (· ≠ '\t') t) : Cut [t ++ ['\\']]
  | cons {t : Text} {rest : List Text} (h : Paired (· ≠ '\t') t) (more : Cut rest) :
    Cut (t :: rest)

namespace Cut

theorem ne_nil (h : Cut tokens) : tokens ≠ [] := by
  cases h <;> exact List.cons_ne_nil _ _

theorem extend (front : Paired (· ≠ '\t') t) (h : Cut tokens) : Cut (extend t tokens) := by
  cases h with
  | last h => exact .last (front.append h)
  | dangling h =>
    rw [Record.extend, ← List.append_assoc]
    exact .dangling (front.append h)
  | cons h more => exact .cons (front.append h) more

theorem split_join (h : Cut tokens) : split (join tokens) = tokens := by
  induction h with
  | @last t h =>
    rw [join_singleton]
    have whole := split_append h []
    rwa [List.append_nil, split, Record.extend, List.append_nil] at whole
  | @dangling t h =>
    rw [join_singleton]
    exact split_append h ['\\']
  | cons h more ih =>
    rw [join_cons _ more.ne_nil, split_append h, split, ih, Record.extend, List.append_nil]

theorem separable (h : Cut tokens) : Separable tokens := by
  induction h with
  | last h =>
    have hidden := (Token.hides_iff (by decide)).2 (.inl h)
    exact ⟨List.cons_ne_nil _ _, List.forall_mem_singleton.2 hidden, List.forall_mem_nil _⟩
  | dangling h =>
    have hidden := (Token.hides_iff (by decide)).2 (.inr ⟨_, h, rfl⟩)
    exact ⟨List.cons_ne_nil _ _, List.forall_mem_singleton.2 hidden, List.forall_mem_nil _⟩
  | cons h _ ih =>
    have hidden := (Token.hides_iff (by decide)).2 (.inl h)
    refine ⟨List.cons_ne_nil _ _, List.forall_mem_cons.2 ⟨hidden, ih.hidden⟩, ?_⟩
    rw [List.dropLast_cons_of_ne_nil ih.present]
    exact List.forall_mem_cons.2 ⟨h.complete, ih.complete⟩

end Cut

theorem Separable.cut (h : Separable tokens) : Cut tokens := by
  obtain ⟨present, hidden, complete⟩ := h
  induction tokens with
  | nil => exact absurd rfl present
  | cons t rest ih =>
    obtain ⟨first, others⟩ := List.forall_mem_cons.1 hidden
    by_cases more : rest = []
    · subst more
      rcases (Token.hides_iff (by decide)).1 first with paired | ⟨front, paired, rfl⟩
      · exact .last paired
      · exact .dangling paired
    · rw [List.dropLast_cons_of_ne_nil more] at complete
      obtain ⟨closed, later⟩ := List.forall_mem_cons.1 complete
      exact .cons ((Token.paired_iff (by decide)).2 ⟨first, closed⟩) (ih more others later)

theorem separable_of_whole (some : tokens ≠ []) (h : ∀ t ∈ tokens, Whole t) :
    Separable tokens := by
  refine ⟨some, fun t mem => ?_, fun t mem => ?_⟩
  · exact ((Token.paired_iff (by decide)).1 (h t mem).paired).1
  · exact (h t (List.dropLast_subset tokens mem)).paired.complete

theorem split_join_of_whole (some : tokens ≠ []) (h : ∀ t ∈ tokens, Whole t) :
    split (join tokens) = tokens :=
  (separable_of_whole some h).cut.split_join

theorem cut_split (line : Text) : Cut (split line) := by
  fun_induction split line with
  | case1 c rest ih => exact ih.extend (.pair c .nil)
  | case2 rest ih => exact .cons .nil ih
  | case3 c rest single tab ih =>
    by_cases slash : c = '\\'
    · -- Only the end of the line leaves a backslash without a character to take along.
      subst slash
      cases rest with
      | cons d tail => exact absurd rfl (single d tail rfl)
      | nil => exact .dangling .nil
    · exact ih.extend (.plain slash tab .nil)
  | case4 => exact .last .nil

theorem join_split (line : Text) : join (split line) = line := by
  fun_induction split line with
  | case1 c rest ih =>
    rw [join, joined_extend _ _ (split_ne_nil rest)]
    exact congrArg (['\\', c] ++ ·) ih
  | case2 rest ih => rw [join_cons _ (split_ne_nil rest), ih, List.nil_append]
  | case3 c rest single tab ih =>
    rw [join, joined_extend _ _ (split_ne_nil rest)]
    exact congrArg ([c] ++ ·) ih
  | case4 => exact join_singleton []

/-- The tokens from the place `start` on, for a walk over the places of a text that has come to `i`.
A backslash makes it pass over the next place, and at a free tab it takes the part since `start`. -/
def slices (t : Text) (start i : Nat) : List Text :=
  if inside : i < t.length then
    if t[i] = '\\' then slices t start (i + 2)
    else if t[i] = '\t' then t.extract start i :: slices t (i + 1) (i + 1)
    else slices t start (i + 1)
  else [t.drop start]
termination_by t.length - i

theorem extract_append {start i j : Nat} (before : start ≤ i) (after : i ≤ j) :
    t.extract start i ++ t.extract i j = t.extract start j := by
  have whole : j - start = (i - start) + (j - i) := by omega
  have place : start + (i - start) = i := by omega
  simp only [List.extract_eq_take_drop]
  rw [whole, List.take_add, List.drop_drop, place]

/-- The walk goes on from `i` to `j` with what stands between them. -/
theorem extend_extract {start i j : Nat} (before : start ≤ i) (after : i ≤ j)
    (step : split (t.drop i) = extend (t.extract i j) (split (t.drop j))) :
    extend (t.extract start j) (split (t.drop j)) =
      extend (t.extract start i) (split (t.drop i)) := by
  rw [step, extend_extend _ _ (split_ne_nil _), extract_append before after]

/-- The part of the text since `start` belongs to the token under way. -/
theorem slices_eq {start i : Nat} (before : start ≤ i) :
    slices t start i = extend (t.extract start i) (split (t.drop i)) := by
  fun_induction slices t start i with
  | case1 start i inside slash ih =>
    rw [ih (by omega)]
    apply extend_extract before (by omega)
    have further : t.drop (i + 2) = (t.drop (i + 1)).drop 1 := by rw [List.drop_drop]
    rw [List.extract_eq_take_drop, Nat.add_sub_cancel_left, List.drop_eq_getElem_cons inside, slash,
      further]
    -- The place that the walk passes over is behind the end after a last backslash.
    cases t.drop (i + 1) with
    | nil => rfl
    | cons c rest => rfl
  | case2 start i inside slash tab ih =>
    have fresh : t.extract (i + 1) (i + 1) = [] := by simp
    rw [ih (Nat.le_refl _), fresh, extend_nil (split_ne_nil _), List.drop_eq_getElem_cons inside,
      tab, split, extend, List.append_nil]
  | case3 start i inside slash tab ih =>
    rw [ih (by omega)]
    apply extend_extract before (by omega)
    rw [List.extract_eq_take_drop, Nat.add_sub_cancel_left, List.drop_eq_getElem_cons inside,
      split_cons slash tab]
    rfl
  | case4 start i outside =>
    have ended : t.drop i = [] := List.drop_eq_nil_of_le (by omega)
    have remains : t.extract start i = t.drop start :=
      List.take_of_length_le (by rw [List.length_drop]; omega)
    rw [ended, remains, split, extend, List.append_nil]

theorem slices_zero (t : Text) : slices t 0 0 = split t := by
  rw [slices_eq (Nat.le_refl 0)]
  exact extend_nil (split_ne_nil t)

/-- Without a backslash every tab is free. -/
theorem splitOn_eq_split (plain : '\\' ∉ line) : line.splitOn '\t' = split line := by
  induction line with
  | nil => rfl
  | cons c rest ih =>
    obtain ⟨slash, others⟩ := List.ne_and_not_mem_of_not_mem_cons plain
    rw [List.splitOn_cons_eq_if_modifyHead, ih others]
    by_cases tab : c = '\t'
    · subst tab
      rw [if_pos (beq_self_eq_true '\t'), split]
    · obtain ⟨first, more, eq⟩ := List.exists_cons_of_ne_nil (split_ne_nil rest)
      rw [if_neg (by simpa using tab), split_cons (Ne.symm slash) tab, eq]
      rfl

/-- The tokens of a line are such that tabs can keep them apart, and tabs between them give the line
again. Any tokens of that kind are found again in the line that tabs between them make. A walk over
the places of a line finds the same tokens, and so does a cut at every tab if there is no backslash
in the line. -/
theorem split_inverts_join :
    (∀ line, Separable (split line) ∧ join (split line) = line) ∧
    (∀ tokens, Separable tokens → split (join tokens) = tokens) ∧
    ∀ line, split line = slices line 0 0 ∧ ('\\' ∉ line → line.splitOn '\t' = slices line 0 0) := by
  refine ⟨?_, ?_, ?_⟩
  · intro line
    exact ⟨(cut_split line).separable, join_split line⟩
  · intro tokens apart
    exact apart.cut.split_join
  · intro line
    rw [slices_zero]
    exact ⟨rfl, splitOn_eq_split⟩

/-- An escaped tab, nothing, an escaped backslash, and a backslash that takes nothing along. A line
that begins and ends with a tab. -/
theorem split_inverts_join_dangling :
    let tokens := [['a', '\\', '\t', 'b'], [], ['\\', '\\'], ['c', '\\']]
    let line := ['\t', '1', '\t']
    (Separable tokens ∧ split (join tokens) = tokens) ∧
      ('\\' ∉ line ∧ line.splitOn '\t' = slices line 0 0 ∧ split line = [[], ['1'], []]) := by
  intro tokens line
  have first : Paired (· ≠ '\t') ['a', '\\', '\t', 'b'] :=
    .plain (by decide) (by decide) (.pair '\t' (.plain (by decide) (by decide) .nil))
  have last : Cut [['c'] ++ ['\\']] := .dangling (.plain (by decide) (by decide) .nil)
  have cut : Cut tokens := .cons first (.cons .nil (.cons (.pair '\\' .nil) last))
  have apart : Separable tokens := cut.separable
  have plain : '\\' ∉ line := by decide
  exact ⟨⟨apart, split_inverts_join.2.1 tokens apart⟩, plain, (split_inverts_join.2.2 line).2 plain,
    rfl⟩

end RowStream.Record
