import RowStream.Proofs.Text.Digits

/-! The texts of dates, times of day, offsets and timestamps by their parts, and that they are read
by these: a text is read as fields exactly if it is made of parts that have them. -/
namespace RowStream.Calendar

open Text (digit? numberOf)

/-- A run of so many ASCII digits. -/
structure Digits (count : Nat) where
  text : Text
  length : text.length = count
  digits : ∀ c ∈ text, c.isDigit

def Digits.value {count : Nat} (d : Digits count) : Nat := numberOf (d.text.filterMap digit?)

/-- A year, a month and a day with dashes between them. -/
structure DateText where
  year : Digits 4
  month : Digits 2
  day : Digits 2

namespace DateText

def text (d : DateText) : Text := d.year.text ++ '-' :: (d.month.text ++ '-' :: d.day.text)

def fields (d : DateText) : DateFields := ⟨d.year.value, d.month.value, d.day.value⟩

end DateText

/-- The digits behind the point of a second, one to nine of them. -/
structure Fraction where
  text : Text
  digits : ∀ c ∈ text, c.isDigit
  length : 1 ≤ text.length ∧ text.length ≤ 9

/-- An hour, a minute and a second with colons between them, and an optional fraction. -/
structure ClockText where
  hour : Digits 2
  minute : Digits 2
  second : Digits 2
  fraction : Option Fraction

namespace ClockText

def fractionText : Option Fraction → Text
  | none => []
  | some f => '.' :: f.text

def text (c : ClockText) : Text :=
  c.hour.text ++ ':' :: (c.minute.text ++ ':' :: (c.second.text ++ fractionText c.fraction))

def microsecond : Option Fraction → Nat
  | none => 0
  | some f => microseconds (f.text.filterMap digit?)

def fields (c : ClockText) : ClockFields :=
  ⟨c.hour.value, c.minute.value, c.second.value, microsecond c.fraction⟩

end ClockText

/-- The size of an offset: hours, and maybe minutes, and then maybe seconds. Any colon may be left
out. -/
inductive SizeText where
  | hours (hours : Digits 2)
  | minutes (hours : Digits 2) (colon : Bool) (minutes : Digits 2)
  | seconds (hours : Digits 2) (colon : Bool) (minutes : Digits 2) (colon' : Bool)
      (seconds : Digits 2)

namespace SizeText

def colonText (colon : Bool) : Text := if colon then [':'] else []

def text : SizeText → Text
  | hours h => h.text
  | minutes h colon m => h.text ++ (colonText colon ++ m.text)
  | seconds h colon m colon' s =>
    h.text ++ (colonText colon ++ (m.text ++ (colonText colon' ++ s.text)))

def hour : SizeText → Nat
  | hours h | minutes h _ _ | seconds h _ _ _ _ => h.value

def minute : SizeText → Nat
  | hours _ => 0
  | minutes _ _ m | seconds _ _ m _ _ => m.value

def second : SizeText → Nat
  | hours _ | minutes .. => 0
  | seconds _ _ _ _ s => s.value

/-- The size in seconds. -/
def total (s : SizeText) : Nat := 3600 * s.hour + 60 * s.minute + s.second

end SizeText

/-- A `Z`, or a size with a sign that tells west from east. -/
inductive OffsetText where
  | utc
  | signed (west : Bool) (size : SizeText)

namespace OffsetText

def text : OffsetText → Text
  | utc => ['Z']
  | signed west size => (if west then '-' else '+') :: size.text

/-- Seconds east of UTC. -/
def seconds : OffsetText → Int
  | utc => 0
  | signed west size => if west then -(size.total : Int) else size.total

end OffsetText

/-- A date and a time of day, with a space or a `T` between them, and an optional offset. -/
structure TimestampText where
  date : DateText
  separator : Char
  separates : separator = ' ' ∨ separator = 'T'
  clock : ClockText
  offset : Option OffsetText

namespace TimestampText

theorem space_separates : ' ' = ' ' ∨ ' ' = 'T' := .inl rfl

def offsetText : Option OffsetText → Text
  | none => []
  | some o => o.text

def text (t : TimestampText) : Text :=
  t.date.text ++ t.separator :: (t.clock.text ++ offsetText t.offset)

def fields (t : TimestampText) : TimestampFields :=
  ⟨t.date.fields, t.clock.fields, t.offset.map OffsetText.seconds⟩

end TimestampText

section Reading

variable {t rest : Text} {count n : Nat}

@[simp] theorem takeNumber?_digits (d : Digits count) (rest : Text) :
    takeNumber? count (d.text ++ rest) = some (d.value, rest) :=
  takeNumber?_append ⟨d.digits, rfl⟩ d.length rest

@[simp] theorem takeNumber?_all (d : Digits count) :
    takeNumber? count d.text = some (d.value, []) := by
  have read := takeNumber?_digits d []
  rwa [List.append_nil] at read

theorem of_takeNumber? (h : takeNumber? count t = some (n, rest)) :
    ∃ d : Digits count, t = d.text ++ rest ∧ d.value = n := by
  rw [takeNumber?] at h
  split at h
  · rename_i all
    cases h
    have few : (t.take count).length ≤ count := List.length_take_le count t
    have some := List.length_filterMap_le digit? (t.take count)
    have length : (t.take count).length = count := by omega
    have digits := List.filterMap_length_eq_length.1 (all.trans length.symm)
    refine ⟨⟨t.take count, length, ?_⟩, (List.take_append_drop count t).symm, rfl⟩
    intro c mem
    have value := digits c mem
    rw [digit?] at value
    split at value
    · assumption
    · cases value
  · cases h

theorem of_takeChar? {c : Char} (h : takeChar? c t = some rest) : t = c :: rest := by
  cases t with
  | nil => cases h
  | cons d t =>
    rw [takeChar?] at h
    split at h
    · rename_i same
      cases h
      rw [same]
    · cases h

@[simp] theorem takeChar?_self (c : Char) (rest : Text) : takeChar? c (c :: rest) = some rest :=
  if_pos rfl

theorem takeDate?_text (d : DateText) (rest : Text) :
    takeDate? (d.text ++ rest) = some (d.fields, rest) := by
  simp [takeDate?, DateText.text, DateText.fields]

theorem of_takeDate? {f : DateFields} (h : takeDate? t = some (f, rest)) :
    ∃ d : DateText, t = d.text ++ rest ∧ d.fields = f := by
  simp only [takeDate?, Option.bind_eq_bind, Option.bind_eq_some_iff, Prod.exists] at h
  obtain ⟨_, _, year, _, dash, _, _, month, _, dash', _, _, day, made⟩ := h
  obtain ⟨y, rfl, rfl⟩ := of_takeNumber? year
  obtain rfl := of_takeChar? dash
  obtain ⟨m, rfl, rfl⟩ := of_takeNumber? month
  obtain rfl := of_takeChar? dash'
  obtain ⟨d, rfl, rfl⟩ := of_takeNumber? day
  cases made
  exact ⟨⟨y, m, d⟩, by simp [DateText.text], rfl⟩

theorem date?_eq_some_iff {f : DateFields} :
    date? t = some f ↔ ∃ d : DateText, d.text = t ∧ d.fields = f := by
  constructor
  · intro h
    obtain ⟨⟨found, rest⟩, taken, h⟩ := Option.bind_eq_some_iff.1 h
    obtain ⟨d, rfl, rfl⟩ := of_takeDate? taken
    cases rest with
    | nil =>
      cases h
      exact ⟨d, (List.append_nil _).symm, rfl⟩
    | cons c rest => cases h
  · rintro ⟨d, rfl, rfl⟩
    have taken := takeDate?_text d []
    rw [List.append_nil] at taken
    rw [date?, taken]
    rfl

/-- What may follow a clock: neither a fraction nor a digit. -/
def Closes (rest : Text) : Prop := ∀ c ∈ rest.head?, c ≠ '.' ∧ c.isDigit = false

theorem closes_nil : Closes [] := by
  intro c mem
  exact absurd mem (by simp)

@[simp] theorem takeFraction?_text (f : Option Fraction) (h : Closes rest) :
    takeFraction? (ClockText.fractionText f ++ rest) = some (ClockText.microsecond f, rest) := by
  cases f with
  | none =>
    cases rest with
    | nil => rfl
    | cons c rest =>
      rw [ClockText.fractionText, List.nil_append, takeFraction?]
      · rfl
      · intro t pair
        exact (h c rfl).1 (List.cons.inj pair).1
  | some f =>
    obtain ⟨taken, left⟩ := Text.takeWhile_of_stops f.digits fun c mem => (h c mem).2
    have few := f.length
    rw [ClockText.fractionText, List.cons_append, takeFraction?, taken, left,
      Text.length_filterMap_digit? f.digits, if_neg (by omega)]
    rfl

theorem of_takeFraction? (h : takeFraction? t = some (n, rest)) :
    ∃ f, t = ClockText.fractionText f ++ rest ∧ ClockText.microsecond f = n := by
  unfold takeFraction? at h
  split at h
  · rename_i t
    have digits : ∀ c ∈ t.takeWhile Char.isDigit, c.isDigit :=
      fun c mem => List.all_eq_true.1 List.all_takeWhile c mem
    have length := Text.length_filterMap_digit? digits
    dsimp only at h
    split at h
    · cases h
    · cases h
      refine ⟨some ⟨t.takeWhile Char.isDigit, digits, by omega⟩, ?_, rfl⟩
      rw [ClockText.fractionText, List.cons_append, List.takeWhile_append_dropWhile]
  · cases h
    exact ⟨none, rfl, rfl⟩

theorem takeClock?_text (c : ClockText) (h : Closes rest) :
    takeClock? (c.text ++ rest) = some (c.fields, rest) := by
  simp [takeClock?, ClockText.text, ClockText.fields, h]

theorem of_takeClock? {f : ClockFields} (h : takeClock? t = some (f, rest)) :
    ∃ c : ClockText, t = c.text ++ rest ∧ c.fields = f := by
  simp only [takeClock?, Option.bind_eq_bind, Option.bind_eq_some_iff, Prod.exists] at h
  obtain ⟨_, _, hour, _, colon, _, _, minute, _, colon', _, _, second, _, _, fraction, made⟩ := h
  obtain ⟨h, rfl, rfl⟩ := of_takeNumber? hour
  obtain rfl := of_takeChar? colon
  obtain ⟨m, rfl, rfl⟩ := of_takeNumber? minute
  obtain rfl := of_takeChar? colon'
  obtain ⟨s, rfl, rfl⟩ := of_takeNumber? second
  obtain ⟨f, rfl, rfl⟩ := of_takeFraction? fraction
  cases made
  exact ⟨⟨h, m, s, f⟩, by simp [ClockText.text], rfl⟩

theorem clock?_eq_some_iff {f : ClockFields} :
    clock? t = some f ↔ ∃ c : ClockText, c.text = t ∧ c.fields = f := by
  constructor
  · intro h
    obtain ⟨⟨found, rest⟩, taken, h⟩ := Option.bind_eq_some_iff.1 h
    obtain ⟨c, rfl, rfl⟩ := of_takeClock? taken
    cases rest with
    | nil =>
      cases h
      exact ⟨c, (List.append_nil _).symm, rfl⟩
    | cons d rest => cases h
  · rintro ⟨c, rfl, rfl⟩
    have taken := takeClock?_text c closes_nil
    rw [List.append_nil] at taken
    rw [clock?, taken]
    rfl

@[simp] theorem skipColon_digits (colon : Bool) (d : Digits 2) (rest : Text) :
    skipColon (SizeText.colonText colon ++ (d.text ++ rest)) = d.text ++ rest := by
  cases colon with
  | true => rfl
  | false =>
    obtain ⟨text, length, digits⟩ := d
    cases text with
    | nil => cases length
    | cons c text =>
      have digit := digits c List.mem_cons_self
      change skipColon (c :: (text ++ rest)) = c :: (text ++ rest)
      unfold skipColon
      split
      · rename_i same
        cases same
        cases digit
      · rfl

theorem exists_colon (t : Text) : ∃ colon, t = SizeText.colonText colon ++ skipColon t := by
  unfold skipColon
  split
  · exact ⟨true, rfl⟩
  · exact ⟨false, rfl⟩

theorem isEmpty_digits (d : Digits 2) (front rest : Text) :
    (front ++ (d.text ++ rest)).isEmpty = false := by
  have length := d.length
  rw [List.isEmpty_eq_false_iff]
  intro none
  have short := congrArg List.length none
  simp only [List.length_append, List.length_nil] at short
  omega

@[simp] theorem offsetSize?_text (s : SizeText) : offsetSize? s.text = some s.total := by
  cases s with
  | hours h =>
    rw [SizeText.text, offsetSize?, takeNumber?_all]
    rfl
  | minutes h colon m =>
    have more := isEmpty_digits m (SizeText.colonText colon) []
    have skipped := skipColon_digits colon m []
    rw [List.append_nil] at more skipped
    rw [SizeText.text, offsetSize?, takeNumber?_digits]
    simp only [Option.bind_eq_bind, Option.bind_some, more, skipped, takeNumber?_all]
    rfl
  | seconds h colon m colon' s =>
    have last := isEmpty_digits s (SizeText.colonText colon') []
    have skipped := skipColon_digits colon' s []
    rw [List.append_nil] at last skipped
    rw [SizeText.text, offsetSize?, takeNumber?_digits]
    simp only [Option.bind_eq_bind, Option.bind_some, isEmpty_digits m, skipColon_digits,
      takeNumber?_digits, last, skipped, takeNumber?_all]
    rfl

theorem of_offsetSize? (h : offsetSize? t = some n) : ∃ s : SizeText, s.text = t ∧ s.total = n := by
  obtain ⟨⟨hours, rest⟩, taken, h⟩ := Option.bind_eq_some_iff.1 h
  obtain ⟨d, rfl, rfl⟩ := of_takeNumber? taken
  cases rest with
  | nil =>
    cases h
    exact ⟨.hours d, (List.append_nil _).symm, rfl⟩
  | cons c rest =>
    obtain ⟨⟨minutes, more⟩, taken', h⟩ := Option.bind_eq_some_iff.1 h
    obtain ⟨colon, split⟩ := exists_colon (c :: rest)
    obtain ⟨m, skipped, rfl⟩ := of_takeNumber? taken'
    rw [skipped] at split
    cases more with
    | nil =>
      cases h
      exact ⟨.minutes d colon m, by rw [split, List.append_nil]; rfl, rfl⟩
    | cons e more =>
      obtain ⟨⟨seconds, left⟩, taken'', h⟩ := Option.bind_eq_some_iff.1 h
      obtain ⟨colon', split'⟩ := exists_colon (e :: more)
      obtain ⟨s, skipped', rfl⟩ := of_takeNumber? taken''
      rw [skipped'] at split'
      cases left with
      | nil =>
        cases h
        exact ⟨.seconds d colon m colon' s, by rw [split, split', List.append_nil]; rfl, rfl⟩
      | cons => cases h

theorem offset?_text (o : OffsetText) : offset? o.text = some o.seconds := by
  cases o with
  | utc => rfl
  | signed west size =>
    cases west with
    | true => simp [OffsetText.text, offset?, OffsetText.seconds]
    | false => simp [OffsetText.text, offset?, OffsetText.seconds]

theorem of_offset? {seconds : Int} (h : offset? t = some seconds) :
    ∃ o : OffsetText, o.text = t ∧ o.seconds = seconds := by
  unfold offset? at h
  split at h
  · cases h
    exact ⟨.utc, rfl, rfl⟩
  · obtain ⟨_, read, rfl⟩ := Option.map_eq_some_iff.1 h
    obtain ⟨n, size, ⟨⟩⟩ := Option.bind_eq_some_iff.1 read
    obtain ⟨s, rfl, rfl⟩ := of_offsetSize? size
    exact ⟨.signed false s, rfl, rfl⟩
  · obtain ⟨_, read, rfl⟩ := Option.map_eq_some_iff.1 h
    obtain ⟨n, size, ⟨⟩⟩ := Option.bind_eq_some_iff.1 read
    obtain ⟨s, rfl, rfl⟩ := of_offsetSize? size
    exact ⟨.signed true s, rfl, rfl⟩
  · cases h

theorem closes_offsetText (o : Option OffsetText) : Closes (TimestampText.offsetText o) := by
  rintro c mem
  obtain _ | _ | ⟨_ | _, size⟩ := o
  · cases mem
  all_goals
    cases mem
    decide

@[simp] theorem timestamp?_text (t : TimestampText) : timestamp? t.text = some t.fields := by
  have separates : ¬(t.separator ≠ ' ' ∧ t.separator ≠ 'T') := by
    rcases t.separates with same | same <;> simp [same]
  simp only [timestamp?, TimestampText.text, takeDate?_text, Option.bind_eq_bind, Option.bind_some,
    takeClock?_text t.clock (closes_offsetText t.offset), if_neg separates]
  rw [TimestampText.fields]
  cases t.offset with
  | none => rfl
  | some o =>
    have some : o.text.isEmpty = false := by cases o <;> rfl
    simp only [TimestampText.offsetText, some, offset?_text]
    rfl

theorem timestamp?_eq_some_iff {f : TimestampFields} :
    timestamp? t = some f ↔ ∃ x : TimestampText, x.text = t ∧ x.fields = f := by
  constructor
  · intro h
    obtain ⟨⟨date, rest⟩, taken, h⟩ := Option.bind_eq_some_iff.1 h
    obtain ⟨d, rfl, rfl⟩ := of_takeDate? taken
    cases rest with
    | nil => cases h
    | cons separator rest =>
      dsimp only at h
      split at h
      · cases h
      · rename_i separates
        have separates : separator = ' ' ∨ separator = 'T' := by
          by_cases space : separator = ' '
          · exact .inl space
          · exact .inr (Decidable.not_not.1 fun other => separates ⟨space, other⟩)
        obtain ⟨⟨clock, rest⟩, taken', h⟩ := Option.bind_eq_some_iff.1 h
        obtain ⟨c, rfl, rfl⟩ := of_takeClock? taken'
        cases rest with
        | nil =>
          cases h
          exact ⟨⟨d, separator, separates, c, none⟩, rfl, rfl⟩
        | cons e rest =>
          obtain ⟨seconds, read, h⟩ := Option.bind_eq_some_iff.1 h
          obtain ⟨o, same, rfl⟩ := of_offset? read
          cases h
          change o.text = e :: rest at same
          rw [← same]
          exact ⟨⟨d, separator, separates, c, some o⟩, rfl, rfl⟩
  · rintro ⟨x, rfl, rfl⟩
    exact timestamp?_text x

end Reading

/-! Two texts of the grammar that are equal have equal parts. -/

theorem Digits.eq_of_value {count : Nat} {d e : Digits count} (h : d.value = e.value) : d = e := by
  obtain ⟨t, length, digits⟩ := d
  obtain ⟨u, length', digits'⟩ := e
  obtain rfl : t = u :=
    Text.Writes.unique ⟨digits, rfl⟩ ⟨digits', h.symm⟩ (length.trans length'.symm)
  rfl

theorem Digits.append_inj {count : Nat} {d e : Digits count} {t u : Text}
    (h : d.text ++ t = e.text ++ u) : d = e ∧ t = u := by
  obtain ⟨same, rest⟩ := List.append_inj h (d.length.trans e.length.symm)
  refine ⟨eq_of_value ?_, rest⟩
  rw [value, value, same]

theorem Digits.append_ne_nil (d : Digits 2) (front rest : Text) :
    front ++ (d.text ++ rest) ≠ [] :=
  List.isEmpty_eq_false_iff.1 (isEmpty_digits d front rest)

theorem DateText.append_inj {d e : DateText} {t u : Text} (h : d.text ++ t = e.text ++ u) :
    d = e ∧ t = u := by
  obtain ⟨year, month, day⟩ := d
  obtain ⟨year', month', day'⟩ := e
  simp only [text, List.append_assoc, List.cons_append] at h
  obtain ⟨rfl, months⟩ := Digits.append_inj h
  obtain ⟨rfl, days⟩ := Digits.append_inj (List.cons.inj months).2
  obtain ⟨rfl, rest⟩ := Digits.append_inj (List.cons.inj days).2
  exact ⟨rfl, rest⟩

theorem ClockText.fractionText_inj {f g : Option Fraction} {t u : Text} (closes : Closes t)
    (closes' : Closes u) (h : fractionText f ++ t = fractionText g ++ u) : f = g ∧ t = u := by
  have rest : t = u := by
    have read := takeFraction?_text f closes
    rw [h, takeFraction?_text g closes'] at read
    exact (Prod.mk.inj (Option.some.inj read)).2.symm
  subst rest
  have same := List.append_cancel_right h
  obtain _ | ⟨text, digits, length⟩ := f <;> obtain _ | ⟨text', digits', length'⟩ := g
  · exact ⟨rfl, rfl⟩
  · cases same
  · cases same
  · cases same
    exact ⟨rfl, rfl⟩

theorem ClockText.append_inj {c d : ClockText} {t u : Text} (closes : Closes t)
    (closes' : Closes u) (h : c.text ++ t = d.text ++ u) : c = d ∧ t = u := by
  obtain ⟨hour, minute, second, fraction⟩ := c
  obtain ⟨hour', minute', second', fraction'⟩ := d
  simp only [text, List.append_assoc, List.cons_append] at h
  obtain ⟨rfl, minutes⟩ := Digits.append_inj h
  obtain ⟨rfl, seconds⟩ := Digits.append_inj (List.cons.inj minutes).2
  obtain ⟨rfl, fractions⟩ := Digits.append_inj (List.cons.inj seconds).2
  obtain ⟨rfl, rest⟩ := fractionText_inj closes closes' fractions
  exact ⟨rfl, rest⟩

theorem ClockText.text_inj {c d : ClockText} (h : c.text = d.text) : c = d :=
  (append_inj closes_nil closes_nil (congrArg (· ++ []) h)).1

theorem SizeText.colon_inj {colon colon' : Bool} {d e : Digits 2} {t u : Text}
    (h : colonText colon ++ (d.text ++ t) = colonText colon' ++ (e.text ++ u)) :
    colon = colon' ∧ d = e ∧ t = u := by
  have skipped := skipColon_digits colon d t
  rw [h, skipColon_digits] at skipped
  rw [skipped] at h
  obtain ⟨rfl, rfl⟩ := Digits.append_inj skipped
  have same := List.append_cancel_right h
  cases colon <;> cases colon' <;> simp_all [colonText]

theorem SizeText.text_inj {s s' : SizeText} (h : s.text = s'.text) : s = s' := by
  cases s with
  | hours d =>
    rw [text, ← List.append_nil d.text] at h
    cases s' with
    | hours e =>
      rw [text, ← List.append_nil e.text] at h
      rw [(Digits.append_inj h).1]
    | minutes e colon m =>
      rw [text, ← List.append_nil m.text] at h
      exact absurd (Digits.append_inj h).2.symm (Digits.append_ne_nil m _ _)
    | seconds e colon m colon' s =>
      rw [text] at h
      exact absurd (Digits.append_inj h).2.symm (Digits.append_ne_nil m _ _)
  | minutes d colon m =>
    rw [text, ← List.append_nil m.text] at h
    cases s' with
    | hours e =>
      rw [text, ← List.append_nil e.text] at h
      exact absurd (Digits.append_inj h).2 (Digits.append_ne_nil m _ _)
    | minutes e colon' m' =>
      rw [text, ← List.append_nil m'.text] at h
      obtain ⟨rfl, minutes⟩ := Digits.append_inj h
      obtain ⟨rfl, rfl, -⟩ := colon_inj minutes
      rfl
    | seconds e colon' m' colon'' s =>
      rw [text, ← List.append_nil s.text] at h
      obtain ⟨-, -, h⟩ := colon_inj (Digits.append_inj h).2
      exact absurd h.symm (Digits.append_ne_nil s _ _)
  | seconds d colon m colon' s =>
    rw [text, ← List.append_nil s.text] at h
    cases s' with
    | hours e =>
      rw [text, ← List.append_nil e.text] at h
      exact absurd (Digits.append_inj h).2 (Digits.append_ne_nil m _ _)
    | minutes e colon'' m' =>
      rw [text, ← List.append_nil m'.text] at h
      obtain ⟨-, -, h⟩ := colon_inj (Digits.append_inj h).2
      exact absurd h (Digits.append_ne_nil s _ _)
    | seconds e colon'' m' colon''' s' =>
      rw [text, ← List.append_nil s'.text] at h
      obtain ⟨rfl, minutes⟩ := Digits.append_inj h
      obtain ⟨rfl, rfl, seconds⟩ := colon_inj minutes
      obtain ⟨rfl, rfl, -⟩ := colon_inj seconds
      rfl

theorem OffsetText.text_inj {o p : OffsetText} (h : o.text = p.text) : o = p := by
  obtain _ | ⟨west, size⟩ := o <;> obtain _ | ⟨west', size'⟩ := p
  · rfl
  · cases west' <;> cases h
  · cases west <;> cases h
  · obtain ⟨sign, sizes⟩ := List.cons.inj h
    rw [SizeText.text_inj sizes]
    cases west <;> cases west' <;> simp_all

theorem TimestampText.text_inj {x y : TimestampText} (h : x.text = y.text) : x = y := by
  obtain ⟨date, separator, separates, clock, offset⟩ := x
  obtain ⟨date', separator', separates', clock', offset'⟩ := y
  obtain ⟨rfl, separated⟩ := DateText.append_inj h
  obtain ⟨rfl, clocks⟩ := List.cons.inj separated
  obtain ⟨rfl, offsets⟩ :=
    ClockText.append_inj (closes_offsetText offset) (closes_offsetText offset') clocks
  obtain _ | o := offset <;> obtain _ | p := offset'
  · rfl
  · cases p <;> cases offsets
  · cases o <;> cases offsets
  · rw [OffsetText.text_inj offsets]

end RowStream.Calendar
