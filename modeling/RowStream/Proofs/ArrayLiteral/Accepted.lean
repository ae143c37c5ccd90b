import RowStream.Proofs.ArrayLiteral.Split

/-! Which texts are split as literals: those whose brackets, quotes and escape pairs are complete,
and some that have closing brackets too many or end in half a pair. -/
namespace RowStream.ArrayLiteral

def Encloses (raw body : Text) : Prop :=
  ∃ opening closing, closing? opening = some closing ∧ raw = opening :: (body ++ [closing])

def isClosing (c : Char) : Bool := c = '\x7d' || c = ']'

namespace Nesting

/-- The scan after one character that no backslash takes along. Outside quotes a closing bracket
has to be the one awaited. -/
def next? (s : Nesting) (c : Char) : Option Nesting :=
  match s with
  | ⟨some q, awaited⟩ => some (if c = q then ⟨none, awaited⟩ else ⟨some q, awaited⟩)
  | ⟨none, awaited⟩ =>
    if isQuote c then some ⟨some c, awaited⟩
    else match closing? c with
      | some closing => some ⟨none, closing :: awaited⟩
      | none =>
        if awaited.head? = some c then some ⟨none, awaited.tail⟩
        else if isClosing c then none
        else some ⟨none, awaited⟩

/-- Where the scan of a text ends if a closing bracket that is not awaited changes nothing, and
neither does a backslash that has nothing to take along. -/
def after : Nesting → Text → Nesting
  | s, '\\' :: _ :: rest => s.after rest
  | s, c :: rest => ((s.next? c).getD s).after rest
  | s, [] => s

/-- Whether every closing bracket is awaited and every backslash takes a character along. -/
def isRegular : Nesting → Text → Bool
  | s, '\\' :: _ :: rest => s.isRegular rest
  | _, ['\\'] => false
  | s, c :: rest =>
    match s.next? c with
    | some s' => s'.isRegular rest
    | none => false
  | _, [] => true

/-- Whether a scan comes to be outside all brackets with the last character, and not before. -/
def closesLast : Nesting → Text → Bool
  | s, '\\' :: _ :: rest => s.closesLast rest
  | s, c :: rest =>
    match s.next? c with
    | some s' => if s' = .outside then rest.isEmpty else s'.closesLast rest
    | none => false
  | _, [] => false

end Nesting

/-- The text begins with a bracket, which is closed by the last character, and not before. -/
def isWellFormed : Text → Bool
  | [] => false
  | first :: rest =>
    match closing? first with
    | some closing => Nesting.closesLast ⟨none, [closing]⟩ rest
    | none => false

/-- A closing bracket neither opens a quote nor another pair. -/
theorem closing?_spec {opening closing : Char} (h : closing? opening = some closing) :
    isQuote closing = false ∧ closing? closing = none ∧ isClosing closing = true := by
  unfold closing? at h
  split at h
  · obtain rfl := Option.some.inj h
    decide
  · obtain rfl := Option.some.inj h
    decide
  · cases h

theorem body?_eq_some_iff {raw body : Text} : body? raw = some body ↔ Encloses raw body := by
  constructor
  · intro h
    unfold body? at h
    split at h
    · rename_i first rest
      split at h
      · rename_i closing opens
        split at h
        · rename_i last
          obtain ⟨front, rfl⟩ := List.getLast?_eq_some_iff.1 last
          rw [List.dropLast_concat] at h
          obtain rfl := Option.some.inj h
          exact ⟨first, closing, opens, rfl⟩
        · cases h
      · cases h
    · cases h
  · rintro ⟨opening, closing, opens, rfl⟩
    simp [body?, opens]

namespace Nesting

variable {s : Nesting} {c : Char}

theorem step_eq (s : Nesting) (c : Char) : s.step c = (s.next? c).getD s := by
  obtain ⟨_ | q, awaited⟩ := s
  · by_cases quote : isQuote c = true
    · simp [step, next?, quote]
    · cases opened : closing? c with
      | some closing => simp [step, next?, quote, opened]
      | none =>
        by_cases awaits : awaited.head? = some c
        · simp [step, next?, quote, opened, awaits]
        · by_cases stray : isClosing c = true <;> simp [step, next?, quote, opened, awaits, stray]
  · by_cases same : c = q <;> simp [step, next?, same]

/-- A character that is not the first of a pair. -/
theorem after_cons {rest : Text} (single : ∀ d tail, c = '\\' → rest = d :: tail → False) :
    s.after (c :: rest) = (s.step c).after rest := by
  rw [step_eq, after]
  exact single

/-- The pieces are found on the way that `after` goes. -/
theorem pieces_snd (s : Nesting) (t : Text) : (pieces s t).2 = s.after t := by
  fun_induction pieces s t with
  | case1 s c rest found last eq ih =>
    rw [eq] at ih
    exact ih
  | case2 s c rest single cut found last eq ih =>
    obtain ⟨rfl, rfl⟩ := cut
    rw [eq] at ih
    rw [after_cons single]
    exact ih
  | case3 s c rest single inside found last eq ih =>
    rw [eq] at ih
    rw [after_cons single]
    exact ih
  | case4 => rfl

/-- Every place inside a literal, as seen from outside of it. -/
def enclosed (s : Nesting) (closing : Char) : Nesting := ⟨s.quote, s.awaited ++ [closing]⟩

theorem enclosed_ne_outside (s : Nesting) (closing : Char) : s.enclosed closing ≠ .outside := by
  intro h
  have awaited := congrArg Nesting.awaited h
  simp [enclosed, outside] at awaited

/-- The bracket around a literal is only seen where nothing else is awaited. -/
theorem next?_enclosed {opening closing : Char} (opens : closing? opening = some closing)
    (s : Nesting) (c : Char) :
    (s.enclosed closing).next? c =
      if s = .outside ∧ c = closing then some .outside
      else (s.next? c).map (·.enclosed closing) := by
  obtain ⟨quiet, plain, -⟩ := closing?_spec opens
  by_cases ends : s = .outside ∧ c = closing
  · obtain ⟨rfl, rfl⟩ := ends
    simp [next?, enclosed, outside, quiet, plain]
  · rw [if_neg ends]
    obtain ⟨_ | q, awaited⟩ := s
    · by_cases quote : isQuote c = true
      · simp [next?, enclosed, quote]
      · cases opened : closing? c with
        | some close => simp [next?, enclosed, quote, opened]
        | none =>
          cases awaited with
          | nil =>
            have other : closing ≠ c := fun same => ends ⟨rfl, same.symm⟩
            by_cases stray : isClosing c = true <;>
              simp [next?, enclosed, quote, opened, stray, other]
          | cons close awaited =>
            by_cases same : close = c
            · simp [next?, enclosed, quote, opened, same]
            · by_cases stray : isClosing c = true <;>
                simp [next?, enclosed, quote, opened, stray, same]
    · by_cases same : c = q <;> simp [next?, enclosed, same]

/-- A closing bracket is no part of what stands outside all brackets. -/
theorem next?_outside {opening closing : Char} (opens : closing? opening = some closing) :
    outside.next? closing = none := by
  obtain ⟨quiet, plain, closes⟩ := closing?_spec opens
  simp [next?, outside, quiet, plain, closes]

theorem closesLast_cons {rest : Text} (single : ∀ d tail, c = '\\' → rest = d :: tail → False) :
    s.closesLast (c :: rest) =
      match s.next? c with
      | some s' => if s' = .outside then rest.isEmpty else s'.closesLast rest
      | none => false := by
  rw [closesLast]
  exact single

/-- A backslash is the first of a pair, or else the last character. -/
theorem ne_backslash {rest : Text} (single : ∀ d tail, c = '\\' → rest = d :: tail → False)
    (whole : c = '\\' → rest = [] → False) : c ≠ '\\' := by
  intro slash
  cases rest with
  | nil => exact whole slash rfl
  | cons d tail => exact single d tail slash rfl

/-- A literal ends with its last character if the scan between the brackets is regular and ends
where it began. -/
theorem closesLast_enclosed {opening closing : Char} (opens : closing? opening = some closing)
    (s : Nesting) (t : Text) (last : Char) :
    (s.enclosed closing).closesLast (t ++ [last]) = true ↔
      s.after t = .outside ∧ s.isRegular t = true ∧ last = closing := by
  fun_induction isRegular s t with
  | case1 s c rest ih =>
    rw [after]
    exact ih
  | case2 s => simp [closesLast]
  | case3 s c rest single whole s' next ih =>
    have slash := ne_backslash single whole
    have inner : ¬ (s = .outside ∧ c = closing) := by
      rintro ⟨rfl, rfl⟩
      rw [next?_outside opens] at next
      cases next
    rw [List.cons_append, closesLast_cons fun _ _ same => absurd same slash, next?_enclosed opens,
      if_neg inner, after_cons single, step_eq, next]
    simpa [enclosed_ne_outside] using ih
  | case4 s c rest single whole next =>
    have slash := ne_backslash single whole
    rw [List.cons_append, closesLast_cons fun _ _ same => absurd same slash, next?_enclosed opens,
      next]
    by_cases ends : s = .outside ∧ c = closing
    · simp [ends]
    · simp [ends]
  | case5 s =>
    rw [List.nil_append, closesLast_cons (by simp), next?_enclosed opens, after]
    by_cases ends : s = .outside ∧ last = closing
    · simp [ends]
    · rw [if_neg ends]
      simp only [true_and, ends, iff_false]
      cases s.next? last with
      | none => simp
      | some s' => simp [enclosed_ne_outside, closesLast]

theorem after_of_ordinary {t : Text} (h : ∀ c ∈ t, isOrdinary c) : outside.after t = .outside := by
  induction t with
  | nil => rfl
  | cons c t ih =>
    obtain ⟨first, others⟩ := List.forall_mem_cons.1 h
    have stays : outside.step c = outside := step_ordinary first 0
    rw [after_cons, stays]
    · exact ih others
    · rintro d tail rfl
      exact absurd first (by decide)

end Nesting

/-- A literal is well formed if its body is regular and leads from outside to outside. -/
theorem isWellFormed_iff (raw : Text) :
    isWellFormed raw = true ↔ ∃ body, Encloses raw body ∧
      Nesting.outside.after body = .outside ∧ Nesting.outside.isRegular body = true := by
  constructor
  · intro h
    cases raw with
    | nil => cases h
    | cons opening rest =>
      rw [isWellFormed] at h
      split at h
      · rename_i closing opens
        obtain rfl | ⟨body, last, rfl⟩ := List.eq_nil_or_concat rest
        · cases h
        · rw [List.concat_eq_append] at h ⊢
          obtain ⟨ends, regular, rfl⟩ := (Nesting.closesLast_enclosed opens .outside body last).1 h
          exact ⟨body, ⟨opening, last, opens, rfl⟩, ends, regular⟩
      · cases h
  · rintro ⟨body, ⟨opening, closing, opens, rfl⟩, ends, regular⟩
    rw [isWellFormed, opens]
    exact (Nesting.closesLast_enclosed opens .outside body closing).2 ⟨ends, regular, rfl⟩

/-- The four outcomes of splitting. Only the last place of the scan tells the last three apart. -/
theorem split_cases (raw : Text) :
    ((∀ body, ¬ Encloses raw body) ∧ split raw = .error (.notLiteral raw)) ∨
      ∃ body, Encloses raw body ∧
        ((Nesting.outside.after body = .outside ∧ ∃ elements, split raw = .ok elements) ∨
          ((Nesting.outside.after body).quote.isSome ∧
            split raw = .error (.unterminatedQuote raw)) ∨
          ((Nesting.outside.after body).awaited ≠ [] ∧ split raw = .error (.unbalanced raw))) := by
  cases given : body? raw with
  | none =>
    left
    constructor
    · intro body encloses
      rw [body?_eq_some_iff.2 encloses] at given
      cases given
    · rw [split, given]
  | some body =>
    right
    refine ⟨body, body?_eq_some_iff.1 given, ?_⟩
    simp only [split, given]
    by_cases blank : (Text.trim body).isEmpty = true
    · left
      refine ⟨Nesting.after_of_ordinary fun c mem => ?_, [], if_pos blank⟩
      exact isOrdinary_of_isBlank (Text.isBlank_of_trim_eq_nil (List.isEmpty_iff.1 blank) c mem)
    · rw [if_neg blank]
      have last := Nesting.pieces_snd .outside body
      generalize pieces .outside body = found at last ⊢
      obtain ⟨parts, quote, awaited⟩ := found
      rw [← last]
      cases quote with
      | some q => exact .inr (.inl ⟨rfl, rfl⟩)
      | none =>
        cases awaited with
        | nil => exact .inl ⟨rfl, _, rfl⟩
        | cons close rest => exact .inr (.inr ⟨List.cons_ne_nil _ _, rfl⟩)

theorem Encloses.unique {raw body body' : Text} (h : Encloses raw body) (h' : Encloses raw body') :
    body = body' := by
  rw [← body?_eq_some_iff] at h h'
  exact Option.some.inj (h.symm.trans h')

theorem split_eq_ok_iff_after (raw : Text) : (∃ elements, split raw = .ok elements) ↔
    ∃ body, Encloses raw body ∧ Nesting.outside.after body = .outside := by
  constructor
  · rintro ⟨elements, accepted⟩
    obtain ⟨-, fault⟩ | ⟨body, encloses, ⟨ends, -⟩ | ⟨-, fault⟩ | ⟨-, fault⟩⟩ := split_cases raw
    · cases fault.symm.trans accepted
    · exact ⟨body, encloses, ends⟩
    · cases fault.symm.trans accepted
    · cases fault.symm.trans accepted
  · rintro ⟨body, encloses, ends⟩
    obtain ⟨none, -⟩ | ⟨body', encloses', ⟨-, accepted⟩ | ⟨quote, -⟩ | ⟨awaited, -⟩⟩ :=
      split_cases raw
    · exact absurd encloses (none body)
    · exact accepted
    · rw [← encloses.unique encloses', ends] at quote
      cases quote
    · rw [← encloses.unique encloses', ends] at awaited
      exact absurd rfl awaited

/-- A text is split if it is a bracketed one whose scan, with closing brackets that are not awaited
and half a pair at the end passed over, ends outside. It is well formed if besides nothing is passed
over. All other texts are refused. -/
theorem split_accepts_iff (raw : Text) :
    ((∃ elements, split raw = .ok elements) ↔
      ∃ body, Encloses raw body ∧ Nesting.outside.after body = .outside) ∧
    (isWellFormed raw = true ↔ (∃ elements, split raw = .ok elements) ∧
      ∃ body, Encloses raw body ∧ Nesting.outside.isRegular body = true) ∧
    ((¬ ∃ elements, split raw = .ok elements) → split raw = .error (.notLiteral raw) ∨
      split raw = .error (.unterminatedQuote raw) ∨ split raw = .error (.unbalanced raw)) := by
  refine ⟨split_eq_ok_iff_after raw, ?_, ?_⟩
  · rw [isWellFormed_iff, split_eq_ok_iff_after]
    constructor
    · rintro ⟨body, encloses, ends, regular⟩
      exact ⟨⟨body, encloses, ends⟩, body, encloses, regular⟩
    · rintro ⟨⟨body, encloses, ends⟩, body', encloses', regular⟩
      obtain rfl := encloses.unique encloses'
      exact ⟨body, encloses, ends, regular⟩
  · intro refused
    obtain ⟨-, fault⟩ | ⟨body, -, ⟨-, accepted⟩ | ⟨-, fault⟩ | ⟨-, fault⟩⟩ := split_cases raw
    · exact .inl fault
    · exact absurd accepted refused
    · exact .inr (.inl fault)
    · exact .inr (.inr fault)

/-- A closing bracket that nothing opened is an element, and an escaped bracket ends a literal. -/
theorem split_stray_and_escaped :
    (split ['\x7b', ']', '\x7d'] = .ok [⟨[']'], false⟩] ∧
      isWellFormed ['\x7b', ']', '\x7d'] = false) ∧
    (split ['\x7b', '\\', '\x7d'] = .ok [⟨['\\'], false⟩] ∧
      isWellFormed ['\x7b', '\\', '\x7d'] = false) :=
  ⟨⟨rfl, rfl⟩, rfl, rfl⟩

end RowStream.ArrayLiteral
