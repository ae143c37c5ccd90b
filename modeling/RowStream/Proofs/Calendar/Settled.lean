import RowStream.Proofs.Calendar.Written

/-! Of all the texts of a date, a time of day or a timestamp, the one that is written. -/
namespace RowStream.Calendar

/-- The digits that count, unless they are all zeros. -/
def Fraction.settled (f : Fraction) : Option Fraction :=
  if f.sixPlaces = List.replicate 6 '0' then none
  else some ⟨f.sixPlaces, f.writes_sixPlaces.digits, by
    rw [f.length_sixPlaces]
    decide⟩

theorem Fraction.sixPlaces_eq_padded (f : Fraction) :
    f.sixPlaces = Text.padded 6 (ClockText.microsecond (some f)) :=
  f.writes_sixPlaces.eq_padded f.length_sixPlaces (by decide)

theorem Fraction.microsecond_eq_zero_iff (f : Fraction) :
    ClockText.microsecond (some f) = 0 ↔ f.sixPlaces = List.replicate 6 '0' := by
  constructor
  · intro zero
    rw [f.sixPlaces_eq_padded, zero]
    decide
  · intro zeros
    have value := f.writes_sixPlaces.value
    rw [zeros] at value
    exact value.symm

theorem DateText.ofDate_eq {d : DateText} {date : Date} (h : d.fields = fieldsOf date) :
    ofDate date = d := by
  obtain ⟨year, month, day⟩ := DateFields.mk.inj ((fields_ofDate date).trans h.symm)
  rw [DateText.mk.injEq]
  exact ⟨Digits.eq_of_value year, Digits.eq_of_value month, Digits.eq_of_value day⟩

namespace ClockText

/-- The clock with the digits of its fraction that count, if any do. -/
def settled (c : ClockText) : ClockText :=
  ⟨c.hour, c.minute, c.second, c.fraction.bind Fraction.settled⟩

theorem fractionOf_microsecond (f : Option Fraction) {n : Nat} (h : n < 1000000)
    (same : microsecond f = n) : fractionOf n h = f.bind Fraction.settled := by
  subst same
  cases f with
  | none => rfl
  | some f =>
    rw [Option.bind_some, Fraction.settled, fractionOf]
    by_cases zero : microsecond (some f) = 0
    · rw [if_pos zero, if_pos (f.microsecond_eq_zero_iff.1 zero)]
    · rw [if_neg zero, if_neg (mt f.microsecond_eq_zero_iff.2 zero)]
      simp only [f.sixPlaces_eq_padded]

theorem ofTime_eq {c : ClockText} {t : TimeOfDay} (h : c.fields = clockOf t) :
    ofTime t = c.settled := by
  have fraction : microsecond c.fraction = t.microsecond := congrArg ClockFields.microsecond h
  obtain ⟨hour, minute, second, -⟩ := ClockFields.mk.inj ((fields_ofTime t).trans h.symm)
  rw [settled, ← fractionOf_microsecond c.fraction t.valid.2.2.2 fraction,
    ← Digits.eq_of_value hour, ← Digits.eq_of_value minute, ← Digits.eq_of_value second]
  rfl

end ClockText

/-- Hours and minutes, and seconds where there are some, with all colons. -/
inductive SizeText.Settled : SizeText → Prop where
  | minutes {h m : Digits 2} (minute : m.value < 60) : Settled (.minutes h true m)
  | seconds {h m s : Digits 2} (minute : m.value < 60) (second : 0 < s.value ∧ s.value < 60) :
    Settled (.seconds h true m true s)

theorem SizeText.Settled.eq_of_total {s s' : SizeText} (h : s.Settled) (h' : s'.Settled)
    (same : s.total = s'.total) : s = s' := by
  cases h with
  | minutes minute =>
    cases h' with
    | minutes minute' =>
      simp only [total, hour, SizeText.minute, second] at same
      rw [minutes.injEq]
      exact ⟨Digits.eq_of_value (by omega), rfl, Digits.eq_of_value (by omega)⟩
    | seconds minute' second' =>
      simp only [total, hour, SizeText.minute, second] at same
      omega
  | seconds minute second =>
    cases h' with
    | minutes minute' =>
      simp only [total, hour, SizeText.minute, SizeText.second] at same
      omega
    | seconds minute' second' =>
      simp only [total, hour, SizeText.minute, SizeText.second] at same
      rw [seconds.injEq]
      exact ⟨Digits.eq_of_value (by omega), rfl, Digits.eq_of_value (by omega), rfl,
        Digits.eq_of_value (by omega)⟩

namespace OffsetText

/-- A sign, to the west only if there is something to go there, and a size. -/
inductive Settled : OffsetText → Prop where
  | signed {west : Bool} {size : SizeText} (h : size.Settled) (some : west → 0 < size.total) :
    Settled (.signed west size)

/-- Every offset is written in one way. -/
theorem Settled.eq_of_seconds {o o' : OffsetText} (h : o.Settled) (h' : o'.Settled)
    (same : o.seconds = o'.seconds) : o = o' := by
  obtain @⟨west, size, h, some⟩ := h
  obtain @⟨west', size', h', some'⟩ := h'
  obtain ⟨rfl, total⟩ : west = west' ∧ size.total = size'.total := by
    cases west with
    | false =>
      cases west' with
      | false => exact ⟨rfl, Int.ofNat.inj same⟩
      | true =>
        have far := some' rfl
        simp only [seconds, Bool.false_eq_true, if_false, if_true] at same
        omega
    | true =>
      have far := some rfl
      cases west' with
      | false =>
        simp only [seconds, Bool.false_eq_true, if_false, if_true] at same
        omega
      | true => exact ⟨rfl, Int.ofNat.inj (Int.neg_inj.1 same)⟩
  rw [h.eq_of_total h' total]

theorem settled_sizeOf {s : Nat} (h : s < 86400) : (sizeOf s h).Settled := by
  rw [sizeOf]
  split
  · refine .minutes ?_
    rw [Digits.value_ofNat]
    omega
  · refine .seconds ?_ ?_
    · rw [Digits.value_ofNat]
      omega
    · rw [Digits.value_ofNat]
      omega

theorem settled_ofSeconds {seconds : Int} (h : -86400 < seconds ∧ seconds < 86400) :
    (ofSeconds seconds h).Settled := by
  refine .signed (settled_sizeOf _) ?_
  intro west
  rw [total_sizeOf]
  have negative := of_decide_eq_true west
  omega

end OffsetText

namespace TimestampText

/-- The timestamp with a space before the settled clock, and the given offset. -/
def settled (x : TimestampText) (offset : Option OffsetText) : TimestampText :=
  ⟨x.date, ' ', space_separates, x.clock.settled, offset⟩

variable {x : TimestampText} {t : Timestamp}

/-- It shows the same date and time. -/
theorem Shows.settled (h : x.Shows t) (offset : Option OffsetText) :
    (x.settled offset).Shows t := by
  refine ⟨h.date, ?_, h.fold⟩
  rw [TimestampText.settled, ← ClockText.ofTime_eq h.time]
  exact ClockText.fields_ofTime t.time

theorem ofTimestamp_eq (h : x.Shows t) (day : ∀ o ∈ t.offset?, -86400 < o ∧ o < 86400) :
    ofTimestamp t day = x.settled (t.offset?.pmap OffsetText.ofSeconds day) := by
  rw [ofTimestamp, TimestampText.settled, ← DateText.ofDate_eq h.date,
    ← ClockText.ofTime_eq h.time]

end TimestampText

end RowStream.Calendar
