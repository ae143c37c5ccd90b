import Mathlib.Data.List.Induction
import RowStream.Proofs.Token.Paired

/-! Tokens put together: escapes can be resolved part by part, unless a part ends inside a pair. -/
namespace RowStream.Token

/-- The last character is a backslash that is to take the next one along: the run of backslashes at
the end is odd. -/
def endsInsidePair (t : Text) : Bool := (t.reverse.takeWhile (· = '\\')).length % 2 = 1

/-- A text that can stand for a value as a field of a line. -/
structure IsField (t : Text) : Prop where
  unbroken : ∀ c ∈ t, c ≠ '\t' ∧ c ≠ '\n' ∧ c ≠ '\r' ∧ c ≠ '\x00'
  complete : endsInsidePair t = false
  present : t ≠ null

@[simp] theorem endsInsidePair_backslash (t : Text) :
    endsInsidePair (t ++ ['\\']) = !endsInsidePair t := by
  have grown : ((t ++ ['\\']).reverse.takeWhile (· = '\\')).length =
      (t.reverse.takeWhile (· = '\\')).length + 1 := by simp
  rw [endsInsidePair, endsInsidePair, grown, ← decide_not]
  apply decide_eq_decide.2
  omega

theorem endsInsidePair_plain {c : Char} (slash : c ≠ '\\') (t : Text) :
    endsInsidePair (t ++ [c]) = false := by
  simp [endsInsidePair, slash]

/-- Any text is a run of characters and pairs, or such a run and half a pair behind it. -/
theorem paired_or_open (t : Text) :
    (endsInsidePair t = false ∧ Paired (fun _ => True) t) ∨
      (endsInsidePair t = true ∧ ∃ front, Paired (fun _ => True) front ∧ t = front ++ ['\\']) := by
  induction t using List.reverseRecOn with
  | nil => exact .inl ⟨rfl, .nil⟩
  | append_singleton t c ih =>
    obtain ⟨complete, paired⟩ | ⟨inside, front, paired, rfl⟩ := ih
    · by_cases slash : c = '\\'
      · subst slash
        exact .inr ⟨by rw [endsInsidePair_backslash, complete]; rfl, t, paired, rfl⟩
      · exact .inl ⟨endsInsidePair_plain slash t, paired.append (.plain slash trivial .nil)⟩
    · -- Whatever the last character is, it completes the pair.
      left
      constructor
      · by_cases slash : c = '\\'
        · subst slash
          rw [endsInsidePair_backslash, inside]
          rfl
        · exact endsInsidePair_plain slash _
      · rw [List.append_assoc]
        exact paired.append (.pair c .nil)

theorem unescape_append_iff (t : Text) :
    (∀ u, unescape (t ++ u) = unescape t ++ unescape u) ↔ endsInsidePair t = false := by
  obtain ⟨complete, paired⟩ | ⟨inside, front, paired, rfl⟩ := paired_or_open t
  · exact iff_of_true (fun u => paired.unescape_append u) complete
  · refine iff_of_false (fun apart => ?_) (by simp [inside])
    have joined := apart ['n']
    rw [List.append_assoc, paired.unescape_append, paired.unescape_append, List.append_assoc]
      at joined
    exact absurd (List.append_cancel_left joined) (by decide)

theorem Paired.complete {free : Char → Prop} {t : Text} (h : Paired free t) :
    endsInsidePair t = false :=
  (unescape_append_iff t).1 h.unescape_append

theorem Paired.endsInsidePair_open {free : Char → Prop} {front : Text} (h : Paired free front) :
    endsInsidePair (front ++ ['\\']) = true := by
  rw [endsInsidePair_backslash, h.complete]
  rfl

/-- The last character is free, or it is the second of a pair. -/
theorem paired_concat_iff {free : Char → Prop} {t : Text} {c : Char} :
    Paired free (t ++ [c]) ↔ (Paired free t ∧ c ≠ '\\' ∧ free c) ∨
      ∃ front, Paired free front ∧ t = front ++ ['\\'] := by
  constructor
  · intro h
    obtain ⟨front, last, paired, ⟨whole, slash, single⟩ | whole⟩ := h.exists_last (by simp)
    · obtain ⟨rfl, same⟩ := List.append_inj' whole rfl
      obtain rfl := List.singleton_inj.1 same
      exact .inl ⟨paired, slash, single⟩
    · have apart : t ++ [c] = (front ++ ['\\']) ++ [last] := by rw [whole, List.append_assoc]; rfl
      exact .inr ⟨front, paired, (List.append_inj' apart rfl).1⟩
  · rintro (⟨paired, slash, single⟩ | ⟨front, paired, rfl⟩)
    · exact paired.append (.plain slash single .nil)
    · rw [List.append_assoc]
      exact paired.append (.pair c .nil)

/-- Every `d` is the second of a pair: an odd run of backslashes stands before it. -/
def Hides (d : Char) (t : Text) : Prop :=
  ∀ before after, t = before ++ d :: after → endsInsidePair before = true

section Hides

variable {d c : Char} {t : Text}

@[simp] theorem hides_nil (d : Char) : Hides d [] := by
  intro before after whole
  cases (List.append_eq_nil_iff.1 whole.symm).2

theorem hides_concat_iff :
    Hides d (t ++ [c]) ↔ (c = d → endsInsidePair t = true) ∧ Hides d t := by
  constructor
  · intro h
    refine ⟨?_, fun before after whole => h before (after ++ [c]) (by simp [whole])⟩
    rintro rfl
    exact h t [] rfl
  · rintro ⟨last, others⟩ before after whole
    rcases List.eq_nil_or_concat after with rfl | ⟨front, e, rfl⟩
    · obtain ⟨rfl, same⟩ := List.append_inj' whole rfl
      exact last (List.singleton_inj.1 same)
    · rw [List.concat_eq_append, ← List.cons_append, ← List.append_assoc] at whole
      exact others before front (List.append_inj' whole rfl).1

/-- The run before a character tells whether a pair takes it along. -/
theorem hides_iff (other : d ≠ '\\') :
    Hides d t ↔ Paired (· ≠ d) t ∨ ∃ front, Paired (· ≠ d) front ∧ t = front ++ ['\\'] := by
  -- Runs are counted backwards, so the text is taken apart from its end. Half a pair may be left
  -- there, which the next character completes.
  induction t using List.reverseRecOn with
  | nil => exact iff_of_true (hides_nil d) (.inl .nil)
  | append_singleton t c ih =>
    rw [hides_concat_iff, ih, paired_concat_iff]
    constructor
    · rintro ⟨hidden, paired | ⟨front, paired, rfl⟩⟩
      · by_cases slash : c = '\\'
        · exact .inr ⟨t, paired, by rw [slash]⟩
        · refine .inl (.inl ⟨paired, slash, fun same => ?_⟩)
          cases paired.complete.symm.trans (hidden same)
      · exact .inl (.inr ⟨front, paired, rfl⟩)
    · rintro ((⟨paired, slash, free⟩ | ⟨front, paired, rfl⟩) | ⟨front, paired, same⟩)
      · exact ⟨fun same => absurd same free, .inl paired⟩
      · exact ⟨fun _ => paired.endsInsidePair_open, .inr ⟨front, paired, rfl⟩⟩
      · obtain ⟨rfl, single⟩ := List.append_inj' same rfl
        obtain rfl := List.singleton_inj.1 single
        exact ⟨fun same => absurd same.symm other, .inl paired⟩

theorem paired_iff (other : d ≠ '\\') :
    Paired (· ≠ d) t ↔ Hides d t ∧ endsInsidePair t = false := by
  rw [hides_iff other]
  constructor
  · exact fun paired => ⟨.inl paired, paired.complete⟩
  · rintro ⟨paired | ⟨front, paired, rfl⟩, complete⟩
    · exact paired
    · rw [paired.endsInsidePair_open] at complete
      cases complete

end Hides

/-- Whether resolving escapes comes to a backslash at the end that has nothing to take along. -/
def leavesBackslash : Text → Bool
  | '\\' :: _ :: rest => leavesBackslash rest
  | ['\\'] => true
  | _ :: rest => leavesBackslash rest
  | [] => false

theorem Paired.leavesBackslash_append {free : Char → Prop} {t : Text} (h : Paired free t)
    (u : Text) : leavesBackslash (t ++ u) = leavesBackslash u := by
  induction h with
  | nil => rfl
  | plain slash _ _ ih =>
    rw [List.cons_append, leavesBackslash, ih]
    · intro d rest same
      exact absurd same slash
    · intro same
      exact absurd same slash
  | pair c _ ih => rw [List.cons_append, List.cons_append, leavesBackslash, ih]

theorem leavesBackslash_eq (t : Text) : leavesBackslash t = endsInsidePair t := by
  obtain ⟨complete, paired⟩ | ⟨inside, front, paired, rfl⟩ := paired_or_open t
  · rw [complete, ← List.append_nil t, paired.leavesBackslash_append]
    rfl
  · rw [inside, paired.leavesBackslash_append]
    rfl

theorem unescape_escape_append (s t : Text) : unescape (escape s ++ t) = s ++ unescape t :=
  unescape_flatMap_append spells_escapeChar s t

theorem endsInsidePair_escape (s : Text) : endsInsidePair (escape s) = false := by
  apply (unescape_append_iff (escape s)).1
  intro u
  rw [unescape_escape_append, unescape_escape]

theorem unbroken_escapeChar (d : Char) :
    ∀ c ∈ escapeChar d, c ≠ '\t' ∧ c ≠ '\n' ∧ c ≠ '\r' ∧ c ≠ '\x00' := by
  unfold escapeChar
  split
  case h_10 _ _ _ feed back tab _ nul _ =>
    intro c mem
    rw [List.mem_singleton.1 mem]
    exact ⟨tab, feed, back, nul⟩
  all_goals simp

theorem isField_escape (s : Text) : IsField (escape s) := by
  refine ⟨?_, endsInsidePair_escape s, escape_ne_null s⟩
  intro c mem
  obtain ⟨d, -, within⟩ := List.mem_flatMap.1 mem
  exact unbroken_escapeChar d c within

/-- What is written for a text stands as a field and gives the text again, whatever follows it.
Escapes are resolved part by part exactly where no pair is cut in two. -/
theorem unescape_joined :
    (∀ s, IsField (escape s) ∧ unescape (escape s) = s ∧
      ∀ t, unescape (escape s ++ t) = s ++ unescape t) ∧
    ∀ t, (∀ u, unescape (t ++ u) = unescape t ++ unescape u) ↔ endsInsidePair t = false := by
  constructor
  · intro s
    exact ⟨isField_escape s, unescape_escape s, unescape_escape_append s⟩
  · exact unescape_append_iff

end RowStream.Token
