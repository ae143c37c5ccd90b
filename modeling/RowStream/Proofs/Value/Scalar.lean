import RowStream.Proofs.ColumnType.Parsed
import RowStream.Proofs.Number.Rescaled
import RowStream.Proofs.Number.Written
import RowStream.Proofs.Value.Canonical
import RowStream.Proofs.Value.Temporal

/-! Canonical scalars are read back from their texts. -/
namespace RowStream

namespace Attributes

variable {a : Attributes} {i : Int}

theorem natAbs_le_of_fits {width : Nat} (wide : a.width = some (width : Int)) (fits : a.Fits i) :
    i.natAbs ≤ Nat.pow 2 width := by
  obtain ⟨w, eq, range⟩ := fits
  rw [wide, Option.some.injEq, Int.natCast_inj] at eq
  subst eq
  have half : Nat.pow 2 (width - 1) ≤ Nat.pow 2 width :=
    Nat.pow_le_pow_right (by decide) (Nat.sub_le _ _)
  generalize Nat.pow 2 width = all at *
  generalize Nat.pow 2 (width - 1) = few at *
  split at range
  · omega
  · omega

theorem isWritable_of_fits [ZoneDatabase] (admits : ScalarKind.Admits .integer a)
    (fits : a.Fits i) : Text.isWritable i := by
  obtain ⟨width, listed, eq⟩ := admits
  have wide : a.width = some (width : Int) := by rw [eq]
  have bound := natAbs_le_of_fits wide fits
  have small : width ≤ 256 := by
    simp only [List.mem_cons, List.not_mem_nil, or_false] at listed
    omega
  have room : 256 ≤ Text.digitLimit := by decide
  rw [Text.isWritable_iff]
  -- The limit is kept from being evaluated as an exponent.
  generalize Text.digitLimit = limit at room ⊢
  calc i.natAbs ≤ Nat.pow 2 width := bound
    _ ≤ Nat.pow 2 256 := Nat.pow_le_pow_right (by decide) small
    _ < Nat.pow 10 256 := Nat.pow_lt_pow_left (by decide) (by decide)
    _ ≤ Nat.pow 10 limit := Nat.pow_le_pow_right (by decide) room

/-- The range of a width and a sign is what fits them. -/
theorem integerRange_spec [ZoneDatabase] (admits : ScalarKind.Admits .integer a) :
    ∃ low high, ColumnType.integerRange a = .ok (low, high) ∧ low ≤ high ∧
      ∀ i, a.Fits i ↔ low ≤ i ∧ i ≤ high := by
  obtain ⟨width, listed, eq⟩ := admits
  have some : 1 ≤ width := by
    simp only [List.mem_cons, List.not_mem_nil, or_false] at listed
    omega
  have wide : a.width = .some (width : Int) := by rw [eq]
  have fits (i : Int) : a.Fits i ↔
      if a.signed then -(Nat.pow 2 (width - 1) : Int) ≤ i ∧ i < (Nat.pow 2 (width - 1) : Int)
      else 0 ≤ i ∧ i < (Nat.pow 2 width : Int) := by
    constructor
    · rintro ⟨w, same, range⟩
      rw [wide, Option.some.injEq, Int.natCast_inj] at same
      rwa [same]
    · exact fun range => ⟨width, wide, range⟩
  have half : 0 < Nat.pow 2 (width - 1) := Nat.pow_pos (by decide)
  have whole : 0 < Nat.pow 2 width := Nat.pow_pos (by decide)
  simp only [ColumnType.integerRange, wide, if_neg (show ¬(width : Int) = 0 by omega), fits]
  by_cases sign : a.signed = true
  · rw [if_pos sign, if_neg (by omega), show ((width : Int) - 1).toNat = width - 1 by omega]
    refine ⟨_, _, rfl, by omega, fun i => ?_⟩
    rw [if_pos sign]
    omega
  · rw [if_neg sign, if_neg (by omega), Int.toNat_natCast]
    refine ⟨_, _, rfl, by omega, fun i => ?_⟩
    rw [if_neg sign]
    omega

theorem integerRange_of_fits [ZoneDatabase] (admits : ScalarKind.Admits .integer a)
    (fits : a.Fits i) :
    ∃ low high, ColumnType.integerRange a = .ok (low, high) ∧ low ≤ i ∧ i ≤ high := by
  obtain ⟨low, high, range, -, within⟩ := integerRange_spec admits
  exact ⟨low, high, range, (within i).1 fits⟩

end Attributes

namespace ColumnType

open Calendar

variable {a : Attributes}

theorem decodeInteger_ofInt [ZoneDatabase] {i : Int} (admits : ScalarKind.Admits .integer a)
    (fits : a.Fits i) : decodeInteger a (Text.ofInt i) = .ok i := by
  obtain ⟨low, high, range, above, below⟩ := Attributes.integerRange_of_fits admits fits
  have writable := (Text.isWritable_iff i).1 (Attributes.isWritable_of_fits admits fits)
  have short := Text.length_ofNat_le writable (by decide)
  have digits : ∀ c ∈ Text.ofNat i.natAbs, c.isDigit := fun _ => Text.isDigit_of_mem_ofNat
  have read := Numeral.integerDigits?_signed (decide (i < 0)) (Text.ofNat_ne_nil i.natAbs) digits
  rw [← Text.length_filterMap_digit? digits] at short
  rw [decodeInteger, Text.ofInt_eq, read]
  simp only [if_neg (Nat.not_lt.2 short), Text.numberOf_ofNat, Numeral.signed_natAbs, range]
  exact if_pos ⟨above, below⟩

theorem unitExponent_of_le {s : Nat} (small : s ≤ ScalarFamily.largestPrecision) :
    Decimal.unitExponent s = .ok (-(s : Int)) := by
  have bound : s ≤ 76 := small
  have emax : Decimal.emax = 999999 := rfl
  have digits : (Decimal.defaultPrecision : Int) = 28 := rfl
  have least : Decimal.smallestScale Decimal.defaultPrecision = -999999 - (28 - 1) := rfl
  rw [Decimal.unitExponent, if_neg (by omega), if_neg (by omega), least]
  congr 1
  omega

/-- Exponents are not at their limits where the precision and the scale can be declared. -/
theorem withExponent_declared {p s : Nat} (ties : Decimal.Ties) (negative : Bool) (c : Nat)
    (e : Int) (some : 1 ≤ p) (small : p ≤ ScalarFamily.largestPrecision)
    (low : s ≤ ScalarFamily.largestPrecision) :
    Decimal.withExponent p ties (.finite negative c e) (-(s : Int)) =
      if Decimal.rescaled ties c e (-(s : Int)) < Nat.pow 10 p then
        .ok (.finite negative (Decimal.rescaled ties c e (-(s : Int))) (-(s : Int)))
      else .error .invalid := by
  have emax : Decimal.emax = 999999 := rfl
  have least : Decimal.smallestScale p = -999999 - ((p : Int) - 1) := rfl
  have bound : ScalarFamily.largestPrecision = 76 := rfl
  exact Decimal.withExponent_eq ties negative c e some (by omega) (by omega)

theorem workingPrecision_declared {p : Nat} (some : 1 ≤ p)
    (precision : a.precision = .some (p : Int)) (written : Nat) :
    workingPrecision a.precision written = .ok p := by
  rw [precision]
  simp only [workingPrecision]
  rw [if_neg (by omega), if_neg (by omega), Int.toNat_natCast]

/-- Under a scale that can be declared, a decimal is refused for its places or as one that does not
fit the digits worked with. -/
theorem scaledDecimal_of_working {p s : Nat} (text : Text) (low : s ≤ ScalarFamily.largestPrecision)
    {coefficient : Nat}
    (working : workingPrecision a.precision (Decimal.digitCount coefficient) = .ok p)
    (exponent : Int) (d : Decimal) :
    scaledDecimal a text coefficient exponent s d =
      if (s : Int) < -exponent then .error (failed text (.scalar .decimal a) (.fractionDigits s))
      else (d.withExponent p .even (-(s : Int))).mapError fun _ =>
        failed text (.scalar .decimal a) (.precision a.precision) := by
  simp only [scaledDecimal, unitExponent_of_le low, working, bind, Except.bind]
  split
  · rfl
  · cases d.withExponent p .even (-(s : Int)) <;> rfl

/-- For a precision and a scale that can be declared, these are the digits of the precision. -/
theorem scaledDecimal_eq {p s : Nat} (text : Text) (some : 1 ≤ p)
    (small : p ≤ ScalarFamily.largestPrecision) (within : s ≤ p)
    (precision : a.precision = .some (p : Int)) (coefficient : Nat) (exponent : Int) (d : Decimal) :
    scaledDecimal a text coefficient exponent s d =
      if (s : Int) < -exponent then .error (failed text (.scalar .decimal a) (.fractionDigits s))
      else (d.withExponent p .even (-(s : Int))).mapError fun _ =>
        failed text (.scalar .decimal a) (.precision a.precision) :=
  scaledDecimal_of_working text (Nat.le_trans within small)
    (workingPrecision_declared some precision _) exponent d

theorem scaledDecimal_self {negative : Bool} {c p s : Nat} (text : Text) (some : 1 ≤ p)
    (small : p ≤ ScalarFamily.largestPrecision) (within : s ≤ p)
    (fits : Decimal.digitCount c ≤ p) (precision : a.precision = .some (p : Int)) :
    scaledDecimal a text c (-(s : Int)) s (.finite negative c (-(s : Int))) =
      .ok (.finite negative c (-(s : Int))) := by
  rw [scaledDecimal_eq text some small within precision, if_neg (by omega),
    withExponent_declared .even negative c _ some small (Nat.le_trans within small),
    Decimal.rescaled_self, if_pos (Decimal.lt_pow_of_digitCount_le fits)]
  rfl

theorem numeral_fixedText (negative : Bool) {c places : Nat}
    (made : Decimal.Exists c (-(places : Int))) :
    ∃ n : Numeral, Numeral.parse? (Decimal.fixedText (.finite negative c (-(places : Int)))) =
      some n ∧ n.coefficient = c ∧ n.scale = -(places : Int) ∧
      Decimal.ofNumeral n = .ok (.finite negative c (-(places : Int))) := by
  obtain ⟨n, parsed, sign, coefficient, scale⟩ := Decimal.parse?_fixedText negative c places
  refine ⟨n, parsed, coefficient, scale, ?_⟩
  obtain ⟨low, high⟩ := made
  rw [Decimal.ofNumeral, coefficient, scale, sign, if_neg (by omega)]

/-- A precision that can be declared leaves room for every scale in it. -/
theorem exists_of_fits {c p s : Nat} (small : p ≤ ScalarFamily.largestPrecision) (within : s ≤ p)
    (fits : Decimal.digitCount c ≤ p) : Decimal.Exists c (-(s : Int)) := by
  have bound : p ≤ 76 := small
  simp only [Decimal.Exists, Decimal.smallestExponent, Decimal.adjusted, Decimal.largestAdjusted]
  omega

theorem decodeDecimal_fixedText [ZoneDatabase] {d : Decimal} (admits : ScalarKind.Admits .decimal a)
    (h : d.Canonical a) : decodeDecimal a d.fixedText = .ok d ∧ Text.Bare d.fixedText := by
  cases h with
  | unscaled negative free whole made =>
    rename_i c e
    obtain ⟨places, rfl⟩ : ∃ places : Nat, e = -(places : Int) := ⟨e.natAbs, by omega⟩
    obtain ⟨n, parsed, -, -, value⟩ := numeral_fixedText negative made
    refine ⟨?_, Decimal.bare_fixedText negative c places⟩
    rw [decodeDecimal, parsed]
    simp only [value, free]
  | scaled negative bounded fixed fits =>
    rename_i precision scale c
    obtain eq | ⟨p, s, some, small, within, eq⟩ := admits
    · rw [eq] at fixed
      cases fixed
    · rw [eq, Option.some.injEq] at bounded fixed
      subst bounded fixed
      have digits : Decimal.digitCount c ≤ p := by omega
      obtain ⟨n, parsed, coefficient, places, value⟩ :=
        numeral_fixedText negative (exists_of_fits small within digits)
      refine ⟨?_, Decimal.bare_fixedText negative c s⟩
      have precise : a.precision = .some (p : Int) := by rw [eq]
      have scaled : a.scale = .some (s : Int) := by rw [eq]
      rw [decodeDecimal, parsed]
      simp only [value, scaled, coefficient, places]
      exact scaledDecimal_self _ some small within digits precise

theorem bare_date (d : Date) : Text.Bare d.isoText := by
  have day := (Text.bare_padded 2 d.month).separated (c := '-') (by decide)
    (Text.bare_padded 2 d.day)
  have whole := (Text.bare_padded 4 d.year).separated (c := '-') (by decide) day
  rw [Date.isoText, List.append_assoc]
  exact whole

theorem bare_time (t : TimeOfDay) : Text.Bare t.isoText := by
  have minute := (Text.bare_padded 2 t.hour).separated (c := ':') (by decide)
    (Text.bare_padded 2 t.minute)
  have second := minute.separated (c := ':') (by decide) (Text.bare_padded 2 t.second)
  rw [TimeOfDay.isoText]
  split
  · rw [List.append_nil]
    exact second
  · exact second.separated (by decide) (Text.bare_padded 6 t.microsecond)

theorem bare_offset (seconds : Int) :
    ∃ sign rest, UtcOffset.isoText seconds = sign :: rest ∧ Text.isPlain sign ∧ Text.Bare rest := by
  have hours := (Text.bare_padded 2 (seconds.natAbs / 3600)).separated (c := ':') (by decide)
    (Text.bare_padded 2 (seconds.natAbs / 60 % 60))
  have sign : Text.isPlain (if seconds < 0 then '-' else '+') := by
    split <;> decide
  refine ⟨_, Text.padded 2 (seconds.natAbs / 3600) ++ ':' ::
    Text.padded 2 (seconds.natAbs / 60 % 60) ++ if seconds.natAbs % 60 = 0 then [] else
      ':' :: Text.padded 2 (seconds.natAbs % 60), rfl, sign, ?_⟩
  split
  · rwa [List.append_nil]
  · exact hours.separated (by decide) (Text.bare_padded 2 (seconds.natAbs % 60))

theorem bare_timestamp (t : Timestamp) : Text.Bare (t.isoText ' ') := by
  have wall := (bare_date t.date).separated (c := ' ') (by decide) (bare_time t.time)
  rw [Timestamp.isoText]
  cases t.offset? with
  | none =>
    rw [Option.map_none, Option.getD_none, List.append_nil]
    exact wall
  | some o =>
    obtain ⟨sign, rest, eq, plain, bare⟩ := bare_offset o
    rw [Option.map_some, Option.getD_some, eq]
    exact wall.separated plain bare

theorem decodeTimestamp_naive [ZoneDatabase] {t : Timestamp} (naive : t.zone = none) :
    decodeTimestamp false a (t.isoText ' ') = .ok t.settled := by
  have unknown : t.offset? = none := by rw [Timestamp.offset?, naive]; rfl
  have day : ∀ o ∈ t.offset?, -86400 < o ∧ o < 86400 := by simp [unknown]
  refine decodeTimestamp_false_eq_ok_iff.2 ⟨.ofTimestamp t day, TimestampText.text_ofTimestamp day,
    ?_, TimestampText.shows_ofTimestamp day rfl rfl rfl, ?_⟩
  · simp [TimestampText.ofTimestamp, unknown]
  · rw [Timestamp.settled_of_naive naive]
    rfl

theorem decodeTimestamp_zoned [ZoneDatabase] {t : Timestamp} {o : Int} (zoned : t.offset? = some o)
    (day : -86400 < o ∧ o < 86400) : decodeTimestamp true a (t.isoText ' ') = .ok t.settled := by
  have day' : ∀ o ∈ t.offset?, -86400 < o ∧ o < 86400 := by simp [zoned, day]
  refine decodeTimestamp_true_eq_ok_iff.2 ⟨.ofTimestamp t day', TimestampText.text_ofTimestamp day',
    TimestampText.shows_ofTimestamp day' rfl rfl rfl, .fixed ⟨o, day⟩, ?_, ?_⟩
  · rw [TimestampText.offset_ofTimestamp, zoned]
    exact timestampZone_eq_ok_iff.2 ⟨day, rfl⟩
  · rw [Timestamp.settled_of_zoned zoned day]

/-- A canonical scalar has a text, and the text is read as that scalar. But for texts, it can stand
in an array as it is. -/
theorem decodeScalar_renderScalar [ZoneDatabase] {kind : ScalarKind} {v : Value}
    (admits : kind.Admits a) (h : CanonicalScalar kind a v) : ∃ t, renderScalar kind a v = .ok t ∧
      decodeScalar kind a t = .ok v.settled ∧ (kind ≠ .text → Text.Bare t) := by
  cases h with
  | integer fits =>
    rename_i i
    refine ⟨Text.ofInt i, ?_, ?_, fun _ => Text.bare_ofInt i⟩
    · rw [renderScalar, if_pos (Attributes.isWritable_of_fits admits fits)]
    · rw [decodeScalar, decodeInteger_ofInt admits fits]
      rfl
  | decimal h =>
    obtain ⟨read, bare⟩ := decodeDecimal_fixedText admits h
    refine ⟨_, rfl, ?_, fun _ => bare⟩
    rw [decodeScalar, read]
    rfl
  | text a t => exact ⟨t, rfl, rfl, fun other => absurd rfl other⟩
  | boolean a b =>
    refine ⟨_, rfl, ?_, ?_⟩
    · cases b <;> rfl
    · intro
      cases b with
      | false => exact Text.bare_singleton (by decide) (by decide)
      | true => exact Text.bare_singleton (by decide) (by decide)
  | date a d =>
    refine ⟨_, rfl, ?_, fun _ => bare_date d⟩
    rw [decodeScalar, decodeDate_eq_ok_iff.2 ⟨_, DateText.text_ofDate d, DateText.fields_ofDate d⟩]
    rfl
  | time a t =>
    refine ⟨_, rfl, ?_, fun _ => bare_time t⟩
    rw [decodeScalar,
      decodeTime_eq_ok_iff.2 ⟨_, ClockText.text_ofTime t, ClockText.fields_ofTime t⟩]
    rfl
  | timestamp a naive =>
    refine ⟨_, rfl, ?_, fun _ => bare_timestamp _⟩
    rw [decodeScalar, decodeTimestamp_naive naive]
    rfl
  | timestamptz a zoned day =>
    refine ⟨_, rfl, ?_, fun _ => bare_timestamp _⟩
    rw [decodeScalar, decodeTimestamp_zoned zoned day]
    rfl

end ColumnType

end RowStream
