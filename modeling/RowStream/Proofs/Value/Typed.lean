import RowStream.Proofs.Value.Elements
import RowStream.Proofs.Value.Scalar

/-! The values that a type has. Tokens decode to nothing else, and each of them can be written. -/
namespace RowStream

namespace ColumnType

/-- The values of a scalar type, null apart. That a date exists is part of the date. -/
inductive HasScalar : ScalarKind → Attributes → Value → Prop where
  | integer {a : Attributes} {i : Int} (fits : a.Fits i) : HasScalar .integer a (.int i)
  | float (a : Attributes) (x : Binary64) : HasScalar .float a (.float x)
  | scaled {a : Attributes} {precision scale coefficient : Nat} (negative : Bool)
      (bounded : a.precision = some (precision : Int)) (fixed : a.scale = some (scale : Int))
      (fits : coefficient < Nat.pow 10 precision) :
    HasScalar .decimal a (.decimal (.finite negative coefficient (-(scale : Int))))
  | unscaled {a : Attributes} (free : a.scale = none) (negative : Bool) (coefficient : Nat)
      (exponent : Int) : HasScalar .decimal a (.decimal (.finite negative coefficient exponent))
  | text (a : Attributes) (t : Text) : HasScalar .text a (.text t)
  | boolean (a : Attributes) (b : Bool) : HasScalar .boolean a (.bool b)
  | bytea (a : Attributes) (bytes : Bytes) : HasScalar .bytea a (.bytes bytes)
  | date (a : Attributes) (d : Date) : HasScalar .date a (.date d)
  | time (a : Attributes) (t : TimeOfDay) : HasScalar .time a (.time t none)
  | timestamp (a : Attributes) {t : Timestamp} (naive : t.zone = none) :
    HasScalar .timestamp a (.timestamp t)
  | timestamptz (a : Attributes) {t : Timestamp} {zone : Zone} (aware : t.zone = some zone) :
    HasScalar .timestamptz a (.timestamp t)

/-- Null is a value of every type, and lists nest as deep as their type unless a null cuts them
short. -/
inductive HasType : ColumnType → Value → Prop where
  | null (type : ColumnType) : HasType type .null
  | scalar {kind : ScalarKind} {a : Attributes} {v : Value} (h : HasScalar kind a v) :
    HasType (.scalar kind a) v
  | list {element : ColumnType} (a : Attributes) {values : List Value}
      (h : ∀ v ∈ values, HasType element v) : HasType (.array element a) (.list values)

variable {a : Attributes} {text : Text}

/-- An integer fits its width and sign, or the text is refused for them, unless it has too many
digits for that. -/
theorem decodeInteger_cases [ZoneDatabase] (text : Text) (admits : ScalarKind.Admits .integer a) :
    (∃ i, a.Fits i ∧ decodeInteger a text = .ok i) ∨
      (∃ reason, decodeInteger a text = .error (failed text (.scalar .integer a) reason)) ∨
        ∃ n, Text.digitLimit < n ∧ decodeInteger a text = .error (.digitLimit n) := by
  obtain ⟨low, high, range, ordered, fits⟩ := Attributes.integerRange_spec admits
  -- The bounds can be shown, so that a number out of range is refused with them.
  have least := Attributes.isWritable_of_fits admits ((fits low).2 ⟨Int.le_refl _, ordered⟩)
  have greatest := Attributes.isWritable_of_fits admits ((fits high).2 ⟨ordered, Int.le_refl _⟩)
  simp only [decodeInteger]
  split
  · exact .inr (.inl ⟨_, rfl⟩)
  · split
    · exact .inr (.inr ⟨_, ‹_›, rfl⟩)
    · simp only [range, bind, Except.bind, least, greatest, Bool.and_self, if_true]
      split
      · exact .inl ⟨_, (fits _).2 ‹_›, rfl⟩
      · exact .inr (.inl ⟨_, rfl⟩)

theorem scaledDecimal_cases {p s : Nat} (text : Text) (some : 1 ≤ p)
    (small : p ≤ ScalarFamily.largestPrecision) (within : s ≤ p)
    (bounded : a.precision = .some (p : Int)) (fixed : a.scale = .some (s : Int))
    (negative : Bool) (coefficient : Nat) (exponent : Int) :
    (∃ d, HasScalar .decimal a (.decimal d) ∧ scaledDecimal a text coefficient exponent s
        (.finite negative coefficient exponent) = .ok d) ∨
      ∃ reason, scaledDecimal a text coefficient exponent s
        (.finite negative coefficient exponent) =
          .error (failed text (.scalar .decimal a) reason) := by
  rw [scaledDecimal_eq text some small within bounded]
  split
  · exact .inr ⟨_, rfl⟩
  · cases scaled : Decimal.withExponent p .even (.finite negative coefficient exponent)
        (-(s : Int)) with
    | error fault => exact .inr ⟨_, rfl⟩
    | ok d =>
      obtain ⟨c, rfl, fits⟩ := Decimal.of_withExponent_eq_ok scaled
      exact .inl ⟨_, .scaled _ bounded fixed fits, rfl⟩

/-- A decimal fits its precision and scale, or the text is refused for them, unless its exponent is
out of reach. -/
theorem decodeDecimal_cases [ZoneDatabase] (text : Text)
    (fixed : ∀ s, a.scale = some s → ScalarKind.Admits .decimal a) :
    (∃ d, HasScalar .decimal a (.decimal d) ∧ decodeDecimal a text = .ok d) ∨
      (∃ reason, decodeDecimal a text = .error (failed text (.scalar .decimal a) reason)) ∨
        decodeDecimal a text = .error (.decimal .invalid) := by
  simp only [decodeDecimal]
  split
  · exact .inr (.inl ⟨_, rfl⟩)
  · rename_i n _
    cases made : Decimal.ofNumeral n with
    | error fault =>
      rw [Decimal.ofNumeral] at made
      split at made
      · cases made
        exact .inr (.inr rfl)
      · cases made
    | ok d =>
      obtain rfl : .finite n.negative n.coefficient n.scale = d := by
        rw [Decimal.ofNumeral] at made
        split at made
        · cases made
        · exact Except.ok.inj made
      cases given : a.scale with
      | none => exact .inl ⟨_, .unscaled given _ _ _, rfl⟩
      | some scale =>
        obtain eq | ⟨p, s, some, small, within, eq⟩ := fixed scale given
        · rw [eq] at given
          cases given
        · have bounded : a.precision = .some (p : Int) := by rw [eq]
          have declared : a.scale = .some (s : Int) := by rw [eq]
          obtain rfl : (s : Int) = scale := Option.some.inj (declared.symm.trans given)
          exact (scaledDecimal_cases text some small within bounded declared _ _ _).imp_right .inl

theorem zone_of_decodeTimestamp [ZoneDatabase] {zoned : Bool} {t : Timestamp}
    (h : decodeTimestamp zoned a text = .ok t) : t.zone.isSome = zoned := by
  simp only [decodeTimestamp] at h
  split at h
  · cases h
  · split at h
    · cases h
    · obtain ⟨⟨date, time⟩, -, read⟩ := Except.of_bind_eq_ok (Except.of_mapError_eq_ok h)
      cases zoned with
      | true =>
        obtain ⟨zone, -, made⟩ := Except.of_bind_eq_ok read
        cases made
        rfl
      | false =>
        cases read
        rfl

/-- A text of a scalar type is read as a value of that type. -/
theorem hasScalar_of_decodeScalar [ZoneDatabase] {kind : ScalarKind} {v : Value}
    (admits : kind.Admits a) (h : decodeScalar kind a text = .ok v) : HasScalar kind a v := by
  cases kind with
  | text =>
    obtain rfl := Except.ok.inj h
    exact .text a text
  | integer =>
    obtain ⟨i, read, rfl⟩ := Except.of_map_eq_ok h
    obtain ⟨j, fits, eq⟩ | ⟨reason, eq⟩ | ⟨n, -, eq⟩ := decodeInteger_cases text admits
    · cases eq.symm.trans read
      exact .integer fits
    · cases eq.symm.trans read
    · cases eq.symm.trans read
  | decimal =>
    obtain ⟨d, read, rfl⟩ := Except.of_map_eq_ok h
    obtain ⟨e, typed, eq⟩ | ⟨reason, eq⟩ | eq := decodeDecimal_cases text fun _ _ => admits
    · cases eq.symm.trans read
      exact typed
    · cases eq.symm.trans read
    · cases eq.symm.trans read
  | timestamp =>
    obtain ⟨t, read, rfl⟩ := Except.of_map_eq_ok h
    have naive := Option.isSome_eq_false_iff.1 (zone_of_decodeTimestamp read)
    exact .timestamp a (Option.isNone_iff_eq_none.1 naive)
  | timestamptz =>
    obtain ⟨t, read, rfl⟩ := Except.of_map_eq_ok h
    obtain ⟨zone, aware⟩ := Option.isSome_iff_exists.1 (zone_of_decodeTimestamp read)
    exact .timestamptz a aware
  | float =>
    obtain ⟨x, -, rfl⟩ := Except.of_map_eq_ok h
    exact .float a x
  | boolean =>
    obtain ⟨b, -, rfl⟩ := Except.of_map_eq_ok h
    exact .boolean a b
  | bytea =>
    obtain ⟨bytes, -, rfl⟩ := Except.of_map_eq_ok h
    exact .bytea a bytes
  | date =>
    obtain ⟨d, -, rfl⟩ := Except.of_map_eq_ok h
    exact .date a d
  | time =>
    obtain ⟨t, -, rfl⟩ := Except.of_map_eq_ok h
    exact .time a t

theorem forall_of_decodeElements {decode : ArrayLiteral.Element → Except Error Value}
    {P : Value → Prop} (each : ∀ {e v}, decode e = .ok v → P v)
    {elements : List ArrayLiteral.Element} {values : List Value}
    (h : decodeElements decode elements = .ok values) : ∀ v ∈ values, P v := by
  intro v mem
  have given : (.ok v : Except Error Value) ∈ values.map .ok := List.mem_map_of_mem mem
  rw [← decodeElements_eq_ok_iff.1 h] at given
  obtain ⟨e, -, read⟩ := List.mem_map.1 given
  exact each read

/-- What a text is decoded to, token or not, has the type as soon as its scalars do. -/
theorem hasType_of_leaf [ZoneDatabase] {type : ColumnType}
    (sound : ∀ kind a, type.leaf = .scalar kind a → ∀ text v,
      decodeScalar kind a text = .ok v → HasScalar kind a v)
    {form : Form} {v : Value} (h : type.decodeAs form text = .ok v) : type.HasType v := by
  induction type generalizing form text v with
  | scalar kind a =>
    cases form with
    | token null =>
      rw [decodeAs] at h
      split at h
      · obtain rfl := Except.ok.inj h
        exact .null _
      · exact .scalar (sound kind a rfl _ v h)
    | text => exact .scalar (sound kind a rfl _ v h)
  | array element a ih =>
    rw [decodeAs] at h
    split at h
    · obtain rfl := Except.ok.inj h
      exact .null _
    · split at h
      · cases h
      · obtain ⟨values, read, rfl⟩ := Except.of_map_eq_ok h
        refine .list _ (forall_of_decodeElements ?_ read)
        intro e v element
        split at element
        · exact ih sound element
        · split at element
          · obtain rfl := Except.ok.inj element
            exact .null _
          · exact ih sound element

theorem WellFormed.admits_leaf [ZoneDatabase] {type : ColumnType} (formed : type.WellFormed)
    {kind : ScalarKind} (leaf : type.leaf = .scalar kind a) : kind.Admits a := by
  induction formed with
  | scalar admits =>
    obtain ⟨rfl, rfl⟩ := ColumnType.scalar.inj leaf
    exact admits
  | array inner nullable ih => exact ih leaf

theorem hasType_of_decodeAs [ZoneDatabase] {type : ColumnType} (formed : type.WellFormed)
    {form : Form} {v : Value} (h : type.decodeAs form text = .ok v) : type.HasType v := by
  apply hasType_of_leaf _ h
  intro kind a leaf text v read
  exact hasScalar_of_decodeScalar (formed.admits_leaf leaf) read

theorem HasScalar.ne_null {kind : ScalarKind} {v : Value} (h : HasScalar kind a v) :
    v ≠ .null := by
  rintro rfl
  cases h

theorem renderScalar_of_hasScalar [ZoneDatabase] {kind : ScalarKind} {v : Value}
    (admits : kind.Admits a) (h : HasScalar kind a v) : ∃ t, renderScalar kind a v = .ok t := by
  cases h with
  | integer fits =>
    rename_i i
    refine ⟨Text.ofInt i, ?_⟩
    rw [renderScalar, if_pos (Attributes.isWritable_of_fits admits fits)]
  | _ => exact ⟨_, rfl⟩

theorem encodeElements_of_forall {encode : Value → Except Error Text} {values : List Value}
    (each : ∀ v ∈ values, ∃ t, encode v = .ok t) :
    ∃ parts, encodeElements encode values = .ok parts := by
  induction values with
  | nil => exact ⟨[], rfl⟩
  | cons v rest ih =>
    obtain ⟨⟨t, first⟩, others⟩ := List.forall_mem_cons.1 each
    obtain ⟨parts, encoded⟩ := ih others
    refine ⟨t :: parts, ?_⟩
    rw [encodeElements, first, encoded]
    rfl

theorem encodeElement_of_hasType [ZoneDatabase] {type : ColumnType} (formed : type.WellFormed)
    {v : Value} (h : type.HasType v) : ∃ t, type.encodeElement v = .ok t := by
  induction h with
  | null type => exact ⟨nullElement, by cases type <;> rfl⟩
  | scalar h =>
    cases formed with
    | scalar admits =>
      obtain ⟨t, rendered⟩ := renderScalar_of_hasScalar admits h
      rw [encodeElement, rendered]
      · exact ⟨_, rfl⟩
      · exact h.ne_null
  | list a h ih =>
    cases formed with
    | array inner nullable =>
      obtain ⟨parts, encoded⟩ := encodeElements_of_forall fun v mem => ih v mem inner
      rw [encodeElement, encoded]
      exact ⟨_, rfl⟩

/-- Every value of a type has a token. -/
theorem encode_of_hasType [ZoneDatabase] {type : ColumnType} (formed : type.WellFormed) {v : Value}
    (h : type.HasType v) : ∃ token, type.encode v = .ok token := by
  cases h with
  | null => exact ⟨Token.null, by cases type <;> rfl⟩
  | scalar h =>
    cases formed with
    | scalar admits =>
      obtain ⟨t, rendered⟩ := renderScalar_of_hasScalar admits h
      rw [encode, rendered]
      · exact ⟨_, rfl⟩
      · exact h.ne_null
  | list a h => exact encodeElement_of_hasType formed (.list a h)

/-- A token of a type that a tag names, if it is decoded at all, is decoded to a value of that
type, which can be written again. -/
theorem hasType_decode [ZoneDatabase] {tag : Text} {type : ColumnType}
    (known : ofTag tag = .ok type) {raw null : Text} {v : Value}
    (h : type.decode raw null = .ok v) : type.HasType v ∧ ∃ token, type.encode v = .ok token := by
  have formed := wellFormed_ofTag known
  have typed := hasType_of_decodeAs formed h
  exact ⟨typed, encode_of_hasType formed typed⟩

/-- A quoted list inside a list, next to a null. -/
theorem hasType_decode_quoted_list :
    HasType (.array (.array (.scalar .integer { width := some 8 }) {}) {})
        (.list [.list [.int 1, .int (-128)], .null]) ∧
      ∃ token, encode (.array (.array (.scalar .integer { width := some 8 }) {}) {})
        (.list [.list [.int 1, .int (-128)], .null]) = .ok token := by
  have known : ofTag "array(array(int8))".toList =
      .ok (.array (.array (.scalar .integer { width := some 8 }) {}) {}) :=
    Except.of_toOption_eq_some (by decide +kernel)
  have read : decode (.array (.array (.scalar .integer { width := some 8 }) {}) {})
      "\x7b'\x7b1,-128\x7d',NULL\x7d".toList =
        .ok (.list [.list [.int 1, .int (-128)], .null]) := by
    rfl
  exact hasType_decode known read

end ColumnType

end RowStream
