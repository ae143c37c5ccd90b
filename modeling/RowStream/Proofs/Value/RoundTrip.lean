import RowStream.Proofs.ArrayLiteral.Split
import RowStream.Proofs.Value.Null
import RowStream.Proofs.Value.Scalar

/-! Canonical values are read back from the tokens that write them. -/
namespace RowStream.ColumnType

open ArrayLiteral (Sealed unquote split)

/-- The octets come back from their digits. -/
theorem hexBytes?_hexOfBytes (bytes : Bytes) : hexBytes? (Text.hexOfBytes bytes) = some bytes := by
  have digit : ∀ n < 16, Text.isHexDigit (Text.hexDigit n) = true ∧
      Text.hexValue (Text.hexDigit n) = n := by decide
  induction bytes with
  | nil => rfl
  | cons b rest ih =>
    obtain ⟨high, high_eq⟩ := digit (b.toNat / 16 % 16) (Nat.mod_lt _ (by decide))
    obtain ⟨low, low_eq⟩ := digit (b.toNat % 16) (Nat.mod_lt _ (by decide))
    have whole : 16 * (b.toNat / 16 % 16) + b.toNat % 16 = b.toNat := by
      have := b.toNat_lt
      omega
    change hexBytes? (Text.hexDigit (b.toNat / 16 % 16) :: Text.hexDigit (b.toNat % 16) ::
      Text.hexOfBytes rest) = _
    rw [hexBytes?, high, low, high_eq, low_eq, whole, ih]
    simp

theorem decodeBytes_renderScalar (a : Attributes) (bytes : Bytes) :
    ∃ t, renderScalar .bytea a (.bytes bytes) = .ok t ∧ decodeBytes a t = .ok bytes := by
  refine ⟨_, rfl, ?_⟩
  cases bytes with
  | nil => rfl
  | cons b rest =>
    have digits := hexBytes?_hexOfBytes (b :: rest)
    simp only [List.isEmpty_cons, Bool.false_eq_true, if_false, decodeBytes, digits]

section

variable [ZoneDatabase]

/-- The value of an array's element; it stands for null only without quotes. -/
def decodeElement (type : ColumnType) (e : ArrayLiteral.Element) : Except Error Value :=
  if e.quoted then type.decodeAs .text (Token.unescape e.token)
  else if e.token = Token.null ∨ isNullElement e.token then .ok .null
  else type.decodeAs (.token Token.null) e.token

/-- The text of an element, and that it is read as the element's value. -/
structure Written (type : ColumnType) (v : Value) (t : Text) : Prop where
  encoded : type.encodeElement v = .ok t
  whole : Sealed t
  read : type.decodeElement (unquote t) = .ok v.settled

variable {type element : ColumnType} {a : Attributes}

theorem written_null (type : ColumnType) : type.Written .null nullElement := by
  have encoded : type.encodeElement .null = .ok nullElement := by
    cases type <;> rfl
  exact ⟨encoded, ArrayLiteral.sealed_nullElement, rfl⟩

/-- An unquoted text that begins like no null is decoded as it stands. -/
theorem decodeElement_unquote {c : Char} {t : Text} (h : Sealed (c :: t))
    (plain : c ≠ '"' ∧ c ≠ '\'' ∧ c ≠ '\\' ∧ c ≠ 'N') :
    type.decodeElement (unquote (c :: t)) = type.decodeAs (.token Token.null) (c :: t) := by
  have noQuote : ArrayLiteral.isQuote c = false := by simp [ArrayLiteral.isQuote, plain]
  have notNull : c :: t ≠ Token.null := by simp [Token.null, plain]
  have notWord : c :: t ≠ "NULL".toList := by simp [plain]
  have present : isNullElement (c :: t) = false := by
    rw [isNullElement, decide_eq_false notNull, decide_eq_false notWord]
    rfl
  rw [ArrayLiteral.unquote_of_solid h.solid noQuote, decodeElement]
  simp [notNull, present]

theorem written_scalar {kind : ScalarKind} {v : Value} (admits : kind.Admits a)
    (h : CanonicalScalar kind a v) : ∃ t, Written (.scalar kind a) v t := by
  obtain ⟨t, rendered, read, bare⟩ := decodeScalar_renderScalar admits h
  have present : v ≠ .null := by
    rintro rfl
    cases h
  have encoded : encodeElement (.scalar kind a) v =
      .ok (if kind = .text then quotedElement (Token.escape t) else Token.escape t) := by
    cases h <;> simp [encodeElement, rendered, bind, Except.bind, pure, Except.pure]
  by_cases text : kind = .text
  · rw [if_pos text, quotedElement_escape] at encoded
    refine ⟨_, encoded, ArrayLiteral.sealed_quoted t, ?_⟩
    rw [ArrayLiteral.unquote_quoted rfl, decodeElement]
    simp only [if_true, Token.unescape_flatMap spells_quoteChar]
    exact read
  · have bare := bare text
    have whole := ArrayLiteral.sealed_bare bare
    rw [if_neg text, Text.escape_of_isPlain bare.plain] at encoded
    refine ⟨t, encoded, whole, ?_⟩
    obtain ⟨c, rest, rfl⟩ := List.exists_cons_of_ne_nil whole.solid.ne_nil
    have other {d : Char} (special : Text.isPlain d = false) : c ≠ d :=
      Text.ne_of_isPlain (bare.plain c (by simp)) special
    rw [decodeElement_unquote whole ⟨other (by decide), other (by decide), other (by decide),
      other (by decide)⟩]
    have notNull : c :: rest ≠ Token.null := by simp [Token.null, other (d := '\\') (by decide)]
    have same := Token.unescape_escape (c :: rest)
    rw [Text.escape_of_isPlain bare.plain] at same
    rw [decodeAs, if_neg notNull, same]
    exact read

/-- Elements that are written one by one are read one by one. -/
theorem exists_parts {result : Value → Value} {values : List Value}
    (h : ∀ v ∈ values, ∃ t, element.encodeElement v = .ok t ∧ (t = [] ∨ Sealed t) ∧
      element.decodeElement (unquote t) = .ok (result v)) :
    ∃ parts : List Text, values.map element.encodeElement = parts.map .ok ∧
      (∀ t ∈ parts, t = [] ∨ Sealed t) ∧
      (parts.map unquote).map element.decodeElement = (values.map result).map .ok := by
  induction values with
  | nil => exact ⟨[], rfl, by simp, rfl⟩
  | cons v rest ih =>
    obtain ⟨⟨t, encoded, whole, read⟩, others⟩ := List.forall_mem_cons.1 h
    obtain ⟨parts, encodedAll, wholes, readAll⟩ := ih others
    refine ⟨t :: parts, ?_, List.forall_mem_cons.2 ⟨whole, wholes⟩, ?_⟩
    · rw [List.map_cons, encoded, encodedAll, List.map_cons]
    · rw [List.map_cons, List.map_cons, read, readAll, List.map_cons, List.map_cons]

/-- A list is read as the values that its elements are read as, unless all that is written of them
is one empty text. -/
theorem decodeAs_encodeElement {result : Value → Value} {values : List Value}
    (h : ∀ v ∈ values, ∃ t, element.encodeElement v = .ok t ∧ (t = [] ∨ Sealed t) ∧
      element.decodeElement (unquote t) = .ok (result v)) :
    ∃ rest, encodeElement (.array element a) (.list values) = .ok ('\x7b' :: rest) ∧
      Sealed ('\x7b' :: rest) ∧
      (values.map element.encodeElement ≠ [.ok []] →
        decodeAs (.array element a) (.token Token.null) ('\x7b' :: rest) =
          .ok (.list (values.map result))) := by
  obtain ⟨parts, encoded, whole, read⟩ := exists_parts h
  have all := encodeElements_eq_ok_iff.2 encoded
  refine ⟨Text.joined [','] parts ++ ['\x7d'], ?_, ArrayLiteral.sealed_braced whole, ?_⟩
  · simp [encodeElement, all, bind, Except.bind, pure, Except.pure]
  · intro several
    apply decodeAs_eq_list_iff.2
    refine ⟨by simp [Form.nullToken, Token.null], parts.map unquote, ?_, read⟩
    apply ArrayLiteral.split_braced whole
    rintro rfl
    exact several encoded

theorem written_list {values : List Value} (h : ∀ v ∈ values, ∃ t, element.Written v t) :
    ∃ rest, encodeElement (.array element a) (.list values) = .ok ('\x7b' :: rest) ∧
      Sealed ('\x7b' :: rest) ∧
      decodeAs (.array element a) (.token Token.null) ('\x7b' :: rest) =
        .ok (Value.settled (.list values)) := by
  obtain ⟨rest, encoded, whole, read⟩ := decodeAs_encodeElement (a := a) fun v mem => by
    obtain ⟨t, written⟩ := h v mem
    exact ⟨t, written.encoded, .inr written.whole, written.read⟩
  refine ⟨rest, encoded, whole, ?_⟩
  rw [Value.settled, Value.settledAll_eq_map]
  apply read
  intro lone
  -- No element is written as the empty text.
  obtain ⟨v, rfl, empty⟩ := List.map_eq_singleton_iff.1 lone
  obtain ⟨t, written⟩ := h v (List.mem_singleton_self v)
  obtain rfl := Except.ok.inj (written.encoded.symm.trans empty)
  exact written.whole.solid.ne_nil rfl

theorem written_of_canonical {v : Value} (known : type.WellFormed) (h : CanonicalElement type v) :
    ∃ t, type.Written v t := by
  induction h with
  | null type => exact ⟨_, written_null type⟩
  | scalar h =>
    cases known with
    | scalar admits => exact written_scalar admits h
  | list a h ih =>
    cases known with
    | array inner nullable =>
      obtain ⟨rest, encoded, whole, read⟩ := written_list fun v mem => ih v mem inner
      refine ⟨_, encoded, whole, ?_⟩
      rw [decodeElement_unquote whole (by decide), read]

/-- At the top level nothing is quoted. -/
theorem decode_escape {kind : ScalarKind} {v w : Value} {t : Text} (present : v ≠ .null)
    (rendered : renderScalar kind a v = .ok t) (read : decodeScalar kind a t = .ok w) :
    encode (.scalar kind a) v = .ok (Token.escape t) ∧
      decode (.scalar kind a) (Token.escape t) = .ok w := by
  constructor
  · rw [encode, rendered]
    · rfl
    · exact present
  · rw [decode, decodeAs, if_neg (Token.escape_ne_null t), Token.unescape_escape, read]

theorem exists_token {v : Value} (formed : type.WellFormed) (h : type.Canonical v) :
    ∃ token, type.encode v = .ok token ∧ type.decode token = .ok v.settled := by
  cases h with
  | bytes a bytes =>
    obtain ⟨t, rendered, read⟩ := decodeBytes_renderScalar a bytes
    have value : decodeScalar .bytea a t = .ok (.bytes bytes) := by
      rw [decodeScalar, read]
      rfl
    exact ⟨_, decode_escape (by simp) rendered value⟩
  | element h =>
    cases h with
    | null =>
      exact ⟨Token.null, by cases type <;> rfl, decode_null type⟩
    | scalar h =>
      cases formed with
      | scalar admits =>
        obtain ⟨t, rendered, read, -⟩ := decodeScalar_renderScalar admits h
        refine ⟨_, decode_escape ?_ rendered read⟩
        rintro rfl
        cases h
    | list a h =>
      cases formed with
      | array inner nullable =>
        have elements := fun v mem => written_of_canonical inner (h v mem)
        obtain ⟨rest, encoded, -, read⟩ := written_list elements
        exact ⟨_, encoded, read⟩

/-- A canonical value of a type that has a tag is written, and its token is read as that value. -/
theorem decode_encode_of_canonical {tag : Text} {type : ColumnType}
    (known : ofTag tag = .ok type) {v : Value} (h : type.Canonical v) :
    ∃ token, type.encode v = .ok token ∧ type.decode token = .ok v.settled ∧
      v.SameAs v.settled := by
  obtain ⟨token, encoded, read⟩ := exists_token (wellFormed_ofTag known) h
  exact ⟨token, encoded, read, h.sameAs_settled⟩

end

/-- A list whose texts have quotes, brackets, commas, tabs and the letters of null. -/
theorem decode_encode_texts :
    ∃ token, encode (.array (.scalar .text {}) {})
        (.list [.text ['"', ',', '\x7d', '\t'], .null, .text [], .text nullElement]) = .ok token ∧
      decode (.array (.scalar .text {}) {}) token =
        .ok (.list [.text ['"', ',', '\x7d', '\t'], .null, .text [], .text nullElement]) := by
  have known : ofTag "array(text)".toList = .ok (.array (.scalar .text {}) {}) :=
    Except.of_toOption_eq_some (by decide +kernel)
  have canonical : Canonical (.array (.scalar .text {}) {})
      (.list [.text ['"', ',', '\x7d', '\t'], .null, .text [], .text nullElement]) := by
    refine .element (.list {} ?_)
    intro v mem
    simp only [List.mem_cons, List.not_mem_nil, or_false] at mem
    rcases mem with rfl | rfl | rfl | rfl
    · exact .scalar (.text {} _)
    · exact .null _
    · exact .scalar (.text {} _)
    · exact .scalar (.text {} _)
  obtain ⟨token, encoded, read, -⟩ := decode_encode_of_canonical known canonical
  exact ⟨token, encoded, read⟩

end RowStream.ColumnType
