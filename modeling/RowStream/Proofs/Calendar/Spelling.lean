import RowStream.Proofs.Calendar.Grammar
import RowStream.Proofs.Text.Bare

/-! The characters of dates, times and timestamps. Neither escapes nor blanks around the text come
into play where these are read. -/
namespace RowStream.Calendar

open Text (isBlank)
open Token (unescape unescapeChar?)

/-- The characters of dates, times of day and offsets. -/
def isMark (c : Char) : Bool :=
  c.isDigit || c = '-' || c = ':' || c = '.' || c = '+' || c = 'Z'

theorem isMark_of_isDigit {c : Char} (h : c.isDigit) : isMark c := by
  simp [isMark, h]

theorem isBlank_of_isMark {c : Char} (h : isMark c) : isBlank c = false := by
  simp only [isMark, Bool.or_eq_true, decide_eq_true_eq, or_assoc] at h
  obtain digit | rfl | rfl | rfl | rfl | rfl := h
  · exact Text.isBlank_of_isDigit digit
  all_goals decide

/-- The text of a date, a time of day or an offset. -/
def Marked (t : Text) : Prop := ∀ c ∈ t, isMark c

section Marked

variable {t u : Text}

theorem Marked.append (h : Marked t) (h' : Marked u) : Marked (t ++ u) :=
  List.forall_mem_append.2 ⟨h, h'⟩

theorem Marked.cons {c : Char} (mark : isMark c) (h : Marked t) : Marked (c :: t) :=
  List.forall_mem_cons.2 ⟨mark, h⟩

theorem marked_nil : Marked [] := List.forall_mem_nil _

theorem Digits.marked {count : Nat} (d : Digits count) : Marked d.text :=
  fun c mem => isMark_of_isDigit (d.digits c mem)

theorem DateText.marked (d : DateText) : Marked d.text :=
  d.year.marked.append (.cons (by decide) (d.month.marked.append (.cons (by decide) d.day.marked)))

theorem ClockText.marked (c : ClockText) : Marked c.text := by
  have fraction : Marked (fractionText c.fraction) := by
    cases c.fraction with
    | none => exact marked_nil
    | some f => exact .cons (by decide) fun d mem => isMark_of_isDigit (f.digits d mem)
  exact c.hour.marked.append (.cons (by decide) (c.minute.marked.append
    (.cons (by decide) (c.second.marked.append fraction))))

theorem SizeText.marked (s : SizeText) : Marked s.text := by
  have between (colon : Bool) : Marked (colonText colon) := by
    cases colon with
    | false => exact marked_nil
    | true => exact .cons (by decide) marked_nil
  cases s with
  | hours h => exact h.marked
  | minutes h colon m => exact h.marked.append ((between colon).append m.marked)
  | seconds h colon m colon' s =>
    exact h.marked.append ((between colon).append (m.marked.append
      ((between colon').append s.marked)))

theorem marked_offsetText (o : Option OffsetText) : Marked (TimestampText.offsetText o) := by
  obtain _ | _ | ⟨west, size⟩ := o
  · exact marked_nil
  · exact .cons (by decide) marked_nil
  · cases west with
    | false => exact .cons (by decide) size.marked
    | true => exact .cons (by decide) size.marked

/-- Trimming takes nothing off a timestamp. -/
theorem TimestampText.trim_text (x : TimestampText) : Text.trim x.text = x.text := by
  have clock := x.clock.marked.append (marked_offsetText x.offset)
  have date_solid : Text.Solid x.date.text := by
    refine Text.solid_of_forall ?_ fun c mem => isBlank_of_isMark (x.date.marked c mem)
    simp [DateText.text]
  have clock_solid : Text.Solid (x.clock.text ++ offsetText x.offset) := by
    refine Text.solid_of_forall ?_ fun c mem => isBlank_of_isMark (clock c mem)
    simp [ClockText.text]
  exact (date_solid.between clock_solid [x.separator]).trim_eq

end Marked

/-- The text of a date, a time of day or a timestamp. -/
def Temporal (t : Text) : Prop := ∀ c ∈ t, isMark c ∨ c = ' ' ∨ c = 'T'

theorem Marked.temporal {t : Text} (h : Marked t) : Temporal t := fun c mem => .inl (h c mem)

theorem TimestampText.temporal (x : TimestampText) : Temporal x.text :=
  List.forall_mem_append.2 ⟨x.date.marked.temporal, List.forall_mem_cons.2
    ⟨.inr x.separates, (x.clock.marked.append (marked_offsetText x.offset)).temporal⟩⟩

section Temporal

variable {t : Text}

theorem Temporal.ne_slash (h : Temporal t) : ∀ c ∈ t, c ≠ '\\' := by
  rintro c mem rfl
  rcases h '\\' mem with mark | space | letter
  · exact absurd mark (by decide)
  · cases space
  · cases letter

theorem Temporal.unescape_eq (h : Temporal t) : unescape t = t :=
  Token.unescape_of_forall h.ne_slash

theorem Temporal.ne_null (h : Temporal t) : t ≠ Token.null := by
  rintro rfl
  exact h.ne_slash '\\' List.mem_cons_self rfl

theorem not_temporal_of_unescapeChar? {c d : Char} (h : unescapeChar? d = some c) :
    ¬ (isMark c ∨ c = ' ' ∨ c = 'T') := by
  unfold unescapeChar? at h
  split at h
  all_goals
    cases h
    try decide

/-- There are no escapes in a token that is read as such a text. -/
theorem Temporal.of_unescape (h : Temporal (unescape t)) : unescape t = t := by
  fun_induction unescape t with
  | case1 c rest d denotes ih =>
    exact absurd (h d List.mem_cons_self) (not_temporal_of_unescapeChar? denotes)
  | case2 c rest denotes ih => exact absurd rfl (h.ne_slash '\\' List.mem_cons_self)
  | case3 c rest slash ih => rw [ih (List.forall_mem_cons.1 h).2]
  | case4 => rfl

end Temporal

end RowStream.Calendar
