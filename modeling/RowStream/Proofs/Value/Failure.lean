import RowStream.Proofs.Value.Typed
import RowStream.Value.Conversion

/-! How reading a value can fail. Of what goes wrong in the arithmetic and the calendar, little
gets past the engine's own errors. -/
namespace RowStream

/-- The failures of the number readers that reach the caller as they are: an integer has more
digits than are read, or a decimal has an exponent out of reach. -/
inductive Error.Unwrapped : Error → Prop where
  | digits {n : Nat} (long : Text.digitLimit < n) : Unwrapped (.digitLimit n)
  | exponent : Unwrapped (.decimal .invalid)

/-- The failures of reading a text. -/
inductive Error.OfReading : Error → Prop where
  | value (fault : ValueFault) : OfReading (.value fault)
  | unwrapped {e : Error} (h : e.Unwrapped) : OfReading e

namespace ColumnType

variable {a : Attributes} {text : Text}

theorem failsOnly_failed {α : Type} {type : ColumnType} {reason : DecodeReason} :
    (.error (failed text type reason) : Except Error α).FailsOnly Error.OfReading :=
  Except.failsOnly_error (.value _)

theorem decodeInteger_failsOnly [ZoneDatabase] (admits : ScalarKind.Admits .integer a) :
    (decodeInteger a text).FailsOnly Error.OfReading := by
  obtain ⟨i, -, eq⟩ | ⟨reason, eq⟩ | ⟨n, long, eq⟩ := decodeInteger_cases text admits
  · rw [eq]
    exact Except.failsOnly_ok i
  · rw [eq]
    exact failsOnly_failed
  · rw [eq]
    exact Except.failsOnly_error (.unwrapped (.digits long))

theorem decodeDecimal_failsOnly [ZoneDatabase]
    (fixed : ∀ s, a.scale = some s → ScalarKind.Admits .decimal a) :
    (decodeDecimal a text).FailsOnly Error.OfReading := by
  obtain ⟨d, -, eq⟩ | ⟨reason, eq⟩ | eq := decodeDecimal_cases text fixed
  · rw [eq]
    exact Except.failsOnly_ok d
  · rw [eq]
    exact failsOnly_failed
  · rw [eq]
    exact Except.failsOnly_error (.unwrapped .exponent)

theorem accepted_failsOnly {α : Type} {type : ColumnType} (value : Except Calendar.Fault α) :
    (accepted text type value).FailsOnly Error.OfReading := by
  refine (accepted_failed value).mono ?_
  rintro e ⟨reason, rfl⟩
  exact .value _

theorem decodeFloat_failsOnly : (decodeFloat a text).FailsOnly Error.OfReading := by
  simp only [decodeFloat]
  split
  · exact Except.failsOnly_ok _
  · exact failsOnly_failed

theorem decodeDate_failsOnly : (decodeDate a text).FailsOnly Error.OfReading := by
  simp only [decodeDate]
  split
  · exact accepted_failsOnly _
  · exact failsOnly_failed

theorem decodeTime_failsOnly : (decodeTime a text).FailsOnly Error.OfReading := by
  simp only [decodeTime]
  split
  · exact accepted_failsOnly _
  · exact failsOnly_failed

theorem decodeTimestamp_failsOnly [ZoneDatabase] (zoned : Bool) :
    (decodeTimestamp zoned a text).FailsOnly Error.OfReading := by
  simp only [decodeTimestamp]
  split
  · exact failsOnly_failed
  · split
    · exact failsOnly_failed
    · exact accepted_failsOnly _

theorem decodeScalar_failsOnly [ZoneDatabase] {kind : ScalarKind} (admits : kind.Admits a) :
    (decodeScalar kind a text).FailsOnly Error.OfReading := by
  cases kind with
  | integer => exact (decodeInteger_failsOnly admits).map _
  | float => exact decodeFloat_failsOnly.map _
  | decimal => exact (decodeDecimal_failsOnly fun _ _ => admits).map _
  | text => exact Except.failsOnly_ok _
  | boolean =>
    refine Except.FailsOnly.map ?_ _
    simp only [decodeBoolean]
    split
    · exact Except.failsOnly_ok _
    · exact Except.failsOnly_ok _
    · exact failsOnly_failed
  | bytea =>
    refine Except.FailsOnly.map ?_ _
    simp only [decodeBytes]
    split
    · exact Except.failsOnly_ok _
    · split
      · exact Except.failsOnly_ok _
      · exact failsOnly_failed
    · exact failsOnly_failed
  | date => exact decodeDate_failsOnly.map _
  | time => exact decodeTime_failsOnly.map _
  | timestamp => exact (decodeTimestamp_failsOnly false).map _
  | timestamptz => exact (decodeTimestamp_failsOnly true).map _

theorem decodeElements_failsOnly {decode : ArrayLiteral.Element → Except Error Value}
    (each : ∀ e, (decode e).FailsOnly Error.OfReading) (elements : List ArrayLiteral.Element) :
    (decodeElements decode elements).FailsOnly Error.OfReading := by
  induction elements with
  | nil => exact Except.failsOnly_ok _
  | cons e rest ih =>
    rw [decodeElements]
    split
    · rename_i err failed
      exact Except.failsOnly_error (each e err failed)
    · exact ih.map _

/-- A text of any type that a tag names is read, or refused as a value. -/
theorem decodeAs_failsOnly [ZoneDatabase] {type : ColumnType} (formed : type.WellFormed)
    (form : Form) : (type.decodeAs form text).FailsOnly Error.OfReading := by
  induction formed generalizing form text with
  | scalar admits =>
    cases form with
    | token null =>
      rw [decodeAs]
      split
      · exact Except.failsOnly_ok _
      · exact decodeScalar_failsOnly admits
    | text => exact decodeScalar_failsOnly admits
  | array inner nullable ih =>
    rw [decodeAs]
    split
    · exact Except.failsOnly_ok _
    · split
      · exact Except.failsOnly_error (.value _)
      · refine Except.FailsOnly.map (decodeElements_failsOnly (fun e => ?_) _) _
        split
        · exact ih _
        · split
          · exact Except.failsOnly_ok _
          · exact ih _

end ColumnType

namespace Value

theorem areWritable_of_forall {values : List Value} (h : ∀ v ∈ values, v.isWritable) :
    areWritable values := by
  induction values with
  | nil => rfl
  | cons v rest ih =>
    obtain ⟨first, others⟩ := List.forall_mem_cons.1 h
    rw [areWritable, first, ih others]
    rfl

/-- A value that a field can hold: messages can show it, and its numbers are finite and not too
large. -/
structure Ordinary (v : Value) : Prop where
  writable : v.isWritable
  small : ∀ i, v = .int i → i.natAbs ≤ Nat.pow 2 256
  finite : ∀ d, v = .decimal d → ∃ negative coefficient exponent,
    d = .finite negative coefficient exponent

theorem ordinary_null : Ordinary .null :=
  ⟨rfl, (fun _ h => nomatch h), (fun _ h => nomatch h)⟩

variable {v : Value}

theorem ordinary_of_hasScalar [ZoneDatabase] {kind : ScalarKind} {a : Attributes}
    (admits : kind.Admits a) (h : ColumnType.HasScalar kind a v) : v.Ordinary := by
  cases h with
  | integer fits =>
    refine ⟨Attributes.isWritable_of_fits admits fits, ?_, (fun _ h => nomatch h)⟩
    rintro _ ⟨⟩
    obtain ⟨width, listed, eq⟩ := admits
    have wide : a.width = some (width : Int) := by rw [eq]
    refine Nat.le_trans (Attributes.natAbs_le_of_fits wide fits)
      (Nat.pow_le_pow_right (by decide) ?_)
    simp only [List.mem_cons, List.not_mem_nil, or_false] at listed
    omega
  | scaled | unscaled =>
    refine ⟨rfl, (fun _ h => nomatch h), ?_⟩
    rintro _ ⟨⟩
    exact ⟨_, _, _, rfl⟩
  | _ => exact ⟨rfl, (fun _ h => nomatch h), (fun _ h => nomatch h)⟩

theorem ordinary_of_hasType [ZoneDatabase] {type : ColumnType} (formed : type.WellFormed)
    (h : type.HasType v) : v.Ordinary := by
  induction h with
  | null => exact ordinary_null
  | scalar h =>
    cases formed with
    | scalar admits => exact ordinary_of_hasScalar admits h
  | list a h ih =>
    cases formed with
    | array inner nullable =>
      refine ⟨?_, (fun _ h => nomatch h), (fun _ h => nomatch h)⟩
      rw [isWritable]
      exact areWritable_of_forall fun v mem => (ih v mem inner).writable

theorem unsupported_failsOnly {α : Type} (h : v.Ordinary) {target : Target} :
    (.error (v.unsupported target) : Except Error α).FailsOnly Error.OfReading := by
  rw [unsupported, refusal, if_pos h.writable]
  exact Except.failsOnly_error (.value _)

theorem toInt_failsOnly [ZoneDatabase] (h : v.Ordinary) : v.toInt.FailsOnly Error.OfReading := by
  have truncated (i : Option Int) : (toInt.truncated v i).FailsOnly Error.OfReading := by
    cases i with
    | some i => exact Except.failsOnly_ok i
    | none => exact unsupported_failsOnly h
  cases v with
  | bool | int => exact Except.failsOnly_ok _
  | float x => exact truncated x.truncate?
  | decimal d => exact truncated d.truncate?
  | text t =>
    have admits : ScalarKind.Admits .integer longInteger := ⟨64, by decide, rfl⟩
    exact ColumnType.decodeInteger_failsOnly admits
  | _ => exact unsupported_failsOnly h

end Value

namespace Binary64

theorem exponentOf_le {n : Nat} (some : n ≠ 0) (small : n ≤ Nat.pow 2 256) :
    exponentOf n 1 ≤ 204 := by
  have bits : n.log2 ≤ 256 :=
    (Nat.pow_le_pow_iff_right (by decide)).1 (Nat.le_trans (Nat.log2_self_le some) small)
  have one : Nat.log2 1 = 0 := by decide
  simp only [exponentOf, one, smallestExponent]
  split <;> omega

/-- An integer of a column is far from the largest number. -/
theorem isSome_ofInt? {i : Int} (small : i.natAbs ≤ Nat.pow 2 256) : (ofInt? i).isSome := by
  rw [ofInt?]
  suffices finite : ∀ negative, ofQuotient (i < 0) i.natAbs 1 ≠ .infinite negative by
    split
    · rename_i negative infinite
      exact absurd infinite (finite negative)
    · rfl
  intro negative infinite
  simp only [ofQuotient] at infinite
  split at infinite
  · cases infinite
  · rename_i some
    have bound := exponentOf_le some small
    generalize exponentOf i.natAbs 1 = e at infinite bound
    generalize (if 0 ≤ e then _ else _ : Nat) = m at infinite
    have largest : largestExponent = 971 := rfl
    split at infinite
    · rw [if_neg (by simp only; omega)] at infinite
      cases infinite
    · rw [if_neg (by simp only; omega)] at infinite
      cases infinite

end Binary64

namespace Value

variable {v : Value}

theorem toFloat_failsOnly (h : v.Ordinary) : v.toFloat.FailsOnly Error.OfReading := by
  have ofInt {i : Int} (small : i.natAbs ≤ Nat.pow 2 256) :
      (toFloat.ofInt i).FailsOnly Error.OfReading := by
    obtain ⟨x, finite⟩ := Option.isSome_iff_exists.1 (Binary64.isSome_ofInt? small)
    rw [toFloat.ofInt, finite]
    exact Except.failsOnly_ok x
  cases v with
  | bool b =>
    refine ofInt ?_
    cases b <;> decide
  | int i => exact ofInt (h.small i rfl)
  | float x => exact Except.failsOnly_ok x
  | decimal d =>
    obtain ⟨negative, coefficient, exponent, rfl⟩ := h.finite d rfl
    exact Except.failsOnly_ok _
  | text t => exact ColumnType.decodeFloat_failsOnly
  | _ => exact unsupported_failsOnly h

theorem toDecimal_failsOnly [ZoneDatabase] (h : v.Ordinary) :
    (v.toDecimal none).FailsOnly Error.OfReading := by
  refine Except.FailsOnly.bind ?_ fun d _ => Except.failsOnly_ok d
  cases v with
  | bool | int | decimal => exact Except.failsOnly_ok _
  | float x =>
    simp only [exactDecimal]
    split
    · exact Except.failsOnly_ok _
    · exact unsupported_failsOnly h
  | text t => exact ColumnType.decodeDecimal_failsOnly fun _ h => nomatch h
  | _ => exact unsupported_failsOnly h

theorem toBool_failsOnly (h : v.Ordinary) : v.toBool.FailsOnly Error.OfReading := by
  cases v with
  | bool | int | float => exact Except.failsOnly_ok _
  | decimal d =>
    obtain ⟨negative, coefficient, exponent, rfl⟩ := h.finite d rfl
    exact Except.failsOnly_ok _
  | text t =>
    simp only [toBool]
    split
    · exact Except.failsOnly_ok _
    · exact unsupported_failsOnly h
  | _ => exact unsupported_failsOnly h

theorem toBytes_failsOnly (h : v.Ordinary) : v.toBytes.FailsOnly Error.OfReading := by
  cases v with
  | bytes | text => exact Except.failsOnly_ok _
  | _ => exact unsupported_failsOnly h

theorem toList_failsOnly (h : v.Ordinary) : v.toList.FailsOnly Error.OfReading := by
  cases v with
  | list => exact Except.failsOnly_ok _
  | _ => exact unsupported_failsOnly h

theorem toDate_failsOnly [ZoneDatabase] (h : v.Ordinary) :
    (v.toDate .unspecified).FailsOnly Error.OfReading := by
  cases v with
  | date | timestamp => exact Except.failsOnly_ok _
  | text t => exact ColumnType.decodeDate_failsOnly.bind fun d _ => Except.failsOnly_ok d
  | _ => exact unsupported_failsOnly h

/-- Where no zone is asked for, an instant is only refused if the calendar does not reach it. -/
theorem inUtc_failsOnly [ZoneDatabase] (t : Timestamp) :
    (t.inUtc .unspecified).FailsOnly (· = Calendar.Fault.beyondCalendar) := by
  rw [Timestamp.inUtc]
  split
  all_goals
    refine Except.FailsOnly.bind (Except.failsOnly_ok _) fun zone _ => ?_
    dsimp only
    split
    · exact Except.failsOnly_ok _
    · split
      · exact Except.failsOnly_ok _
      · exact Except.failsOnly_error rfl

/-- The failures of reading an instant: those of a text, and an instant past the calendar. -/
def OfInstant (e : Error) : Prop := e.OfReading ∨ e = .calendar .beyondCalendar

theorem beyondCalendar_failsOnly {α : Type} {x : Except Calendar.Fault α}
    (h : x.FailsOnly (· = Calendar.Fault.beyondCalendar)) :
    (x.mapError Error.calendar).FailsOnly OfInstant :=
  h.mapError fun _ past => .inr (congrArg Error.calendar past)

theorem toTime_failsOnly [ZoneDatabase] (h : v.Ordinary) :
    (v.toTime .unspecified).FailsOnly OfInstant := by
  have inUtc (t : Timestamp) : (toTime.inUtc .unspecified t).FailsOnly OfInstant :=
    beyondCalendar_failsOnly ((inUtc_failsOnly t).bind fun t _ => Except.failsOnly_ok t.time)
  cases v with
  | time t offset => exact inUtc _
  | timestamp t => exact inUtc t
  | text t =>
    exact (ColumnType.decodeTime_failsOnly.mono fun _ => .inl).bind fun time _ => inUtc _
  | _ => exact (unsupported_failsOnly h).mono fun _ => .inl

theorem toTimestamp_failsOnly [ZoneDatabase] (h : v.Ordinary) :
    (v.toTimestamp .unspecified).FailsOnly OfInstant := by
  have inUtc (t : Timestamp) : (toTimestamp.inUtc .unspecified t).FailsOnly OfInstant :=
    beyondCalendar_failsOnly (inUtc_failsOnly t)
  cases v with
  | timestamp t => exact inUtc t
  | date d => exact inUtc _
  | text t =>
    refine Except.FailsOnly.bind ?_ fun t _ => inUtc t
    rw [textTimestamp]
    split
    · exact Except.failsOnly_ok _
    · exact (ColumnType.decodeTimestamp_failsOnly true).mono fun _ => .inl
  | _ => exact (unsupported_failsOnly h).mono fun _ => .inl

end Value

end RowStream
