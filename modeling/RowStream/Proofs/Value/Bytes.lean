import RowStream.Proofs.Value.RoundTrip
import RowStream.Proofs.Value.Typed

/-! Byte strings in arrays. They are written without quotes, the empty one as nothing at all, so
that a list of one empty byte string is written like an empty list. Apart from that they are read
back. -/
namespace RowStream

mutual

/-- The value with every list emptied that holds one empty byte string and nothing else. -/
def Value.collapsed : Value → Value
  | .list [.bytes []] => .list []
  | .list values => .list (collapsedAll values)
  | v => v

def Value.collapsedAll : List Value → List Value
  | [] => []
  | v :: rest => v.collapsed :: collapsedAll rest

end

namespace Value

/-- Somewhere in the value is a list of one empty byte string. -/
inductive HoldsLoneEmpty : Value → Prop where
  | here : HoldsLoneEmpty (.list [.bytes []])
  | inside {v : Value} {values : List Value} (mem : v ∈ values) (h : HoldsLoneEmpty v) :
    HoldsLoneEmpty (.list values)

theorem collapsedAll_eq_map (values : List Value) : collapsedAll values = values.map collapsed := by
  induction values with
  | nil => rfl
  | cons v rest ih => rw [collapsedAll, ih, List.map_cons]

theorem collapsed_list {values : List Value} (several : values ≠ [.bytes []]) :
    collapsed (.list values) = .list (values.map collapsed) := by
  rw [collapsed, collapsedAll_eq_map]
  rintro same
  exact several same

end Value

namespace Text

theorem exists_of_mem_hexOfBytes {bytes : Bytes} {c : Char} (mem : c ∈ hexOfBytes bytes) :
    ∃ n < 16, c = hexDigit n := by
  obtain ⟨b, -, digit⟩ := List.mem_flatMap.1 mem
  simp only [hex, List.nil_append, List.mem_append, List.mem_singleton] at digit
  rcases digit with rfl | rfl
  · exact ⟨_, Nat.mod_lt _ (by decide), rfl⟩
  · exact ⟨_, Nat.mod_lt _ (by decide), rfl⟩

/-- Hexadecimal digits need neither quotes nor escapes. -/
theorem hexDigit_spec : ∀ n < 16, ArrayLiteral.isOrdinary (hexDigit n) = true ∧
    isBlank (hexDigit n) = false ∧ Token.escapeChar (hexDigit n) = [hexDigit n] := by decide

end Text

namespace ColumnType

open ArrayLiteral (Sealed unquote)
open Text (hexOfBytes)

theorem escape_bytes (bytes : Bytes) :
    Token.escape ('\\' :: 'x' :: hexOfBytes bytes) = '\\' :: '\\' :: 'x' :: hexOfBytes bytes := by
  have digits : Token.escape (hexOfBytes bytes) = hexOfBytes bytes := by
    apply Token.escape_eq_self
    intro c mem
    obtain ⟨n, small, rfl⟩ := Text.exists_of_mem_hexOfBytes mem
    exact (Text.hexDigit_spec n small).2.2
  rw [Token.escape] at digits ⊢
  rw [List.flatMap_cons, List.flatMap_cons, digits]
  rfl

theorem sealed_bytes (bytes : Bytes) : Sealed ('\\' :: '\\' :: 'x' :: hexOfBytes bytes) := by
  constructor
  · intro depth
    apply ArrayLiteral.passes_paired
    apply Token.Paired.pair
    apply Token.Paired.of_forall
    rintro c mem
    rcases List.mem_cons.1 mem with rfl | digit
    · decide
    · obtain ⟨n, small, rfl⟩ := Text.exists_of_mem_hexOfBytes digit
      have ordinary := (Text.hexDigit_spec n small).1
      refine ⟨?_, ordinary⟩
      intro slash
      rw [slash] at ordinary
      exact absurd ordinary (by decide)
  · apply Text.solid_of_forall (List.cons_ne_nil _ _)
    intro c mem
    simp only [List.mem_cons] at mem
    rcases mem with rfl | rfl | rfl | digit
    · decide
    · decide
    · decide
    · obtain ⟨n, small, rfl⟩ := Text.exists_of_mem_hexOfBytes digit
      exact (Text.hexDigit_spec n small).2.1

section

variable [ZoneDatabase]

/-- The text of an element, and that it is read as the element collapsed. Only the empty byte string
has an empty text. -/
structure Rewritten (type : ColumnType) (v : Value) (t : Text) : Prop where
  encoded : type.encodeElement v = .ok t
  whole : t = [] ∨ Sealed t
  empty : t = [] ↔ v = .bytes []
  read : type.decodeElement (unquote t) = .ok v.collapsed

variable {type element : ColumnType} {a : Attributes} {v : Value}

theorem rewritten_null (type : ColumnType) : ∃ t, type.Rewritten .null t := by
  have null := written_null type
  exact ⟨nullElement, null.encoded, .inr null.whole, by simp [nullElement], rfl⟩

theorem rewritten_bytes (a : Attributes) (bytes : Bytes) :
    ∃ t, (ColumnType.scalar .bytea a).Rewritten (.bytes bytes) t := by
  cases bytes with
  | nil => exact ⟨[], rfl, .inl rfl, by simp, rfl⟩
  | cons b rest =>
    obtain ⟨t, rendered, read⟩ := decodeBytes_renderScalar a (b :: rest)
    obtain rfl : '\\' :: 'x' :: hexOfBytes (b :: rest) = t := Except.ok.inj rendered
    have whole := sealed_bytes (b :: rest)
    have same := Token.unescape_escape ('\\' :: 'x' :: hexOfBytes (b :: rest))
    rw [escape_bytes] at same
    refine ⟨'\\' :: '\\' :: 'x' :: hexOfBytes (b :: rest), ?_, .inr whole, by simp, ?_⟩
    · rw [← escape_bytes]
      rfl
    · rw [ArrayLiteral.unquote_of_solid whole.solid (by decide), decodeElement]
      simp only [Bool.false_eq_true, if_false]
      rw [if_neg (by simp [Token.null, isNullElement]), decodeAs, if_neg (by simp [Token.null]),
        same, decodeScalar, read]
      rfl

theorem rewritten_list {values : List Value} (h : ∀ v ∈ values, ∃ t, element.Rewritten v t) :
    ∃ rest, encodeElement (.array element a) (.list values) = .ok ('\x7b' :: rest) ∧
      Sealed ('\x7b' :: rest) ∧
      decodeAs (.array element a) (.token Token.null) ('\x7b' :: rest) =
        .ok (Value.collapsed (.list values)) := by
  obtain ⟨rest, encoded, whole, read⟩ := decodeAs_encodeElement (a := a) fun v mem => by
    obtain ⟨t, written⟩ := h v mem
    exact ⟨t, written.encoded, written.whole, written.read⟩
  refine ⟨rest, encoded, whole, ?_⟩
  by_cases lone : values = [.bytes []]
  · subst lone
    obtain ⟨t, written⟩ := h (.bytes []) (List.mem_singleton_self _)
    obtain rfl := written.empty.2 rfl
    have braces : encodeElement (.array element a) (.list [.bytes []]) = .ok ['\x7b', '\x7d'] := by
      rw [encodeElement, encodeElements, written.encoded]
      rfl
    obtain rfl : rest = ['\x7d'] := by
      rw [braces] at encoded
      exact (List.cons.inj (Except.ok.inj encoded)).2.symm
    rfl
  · rw [Value.collapsed_list lone]
    apply read
    intro empty
    obtain ⟨v, rfl, nothing⟩ := List.map_eq_singleton_iff.1 empty
    obtain ⟨t, written⟩ := h v (List.mem_singleton_self v)
    obtain rfl := Except.ok.inj (written.encoded.symm.trans nothing)
    exact lone (congrArg (fun v => [v]) (written.empty.1 rfl))

theorem rewritten_of_hasType (leaf : type.leaf = .scalar .bytea a) (h : type.HasType v) :
    ∃ t, type.Rewritten v t := by
  induction h with
  | null type => exact rewritten_null type
  | scalar h =>
    obtain ⟨rfl, rfl⟩ := ColumnType.scalar.inj leaf
    cases h with
    | bytea _ bytes => exact rewritten_bytes _ bytes
  | list b h ih =>
    obtain ⟨rest, encoded, whole, read⟩ := rewritten_list (a := b) fun v mem => ih v mem leaf
    refine ⟨_, encoded, .inr whole, by simp, ?_⟩
    rw [decodeElement_unquote whole (by decide), read]

omit [ZoneDatabase] in
/-- A value is collapsed to itself just when no list in it is. -/
theorem collapsed_eq_self_iff (h : type.HasType v) : v.collapsed = v ↔ ¬ v.HoldsLoneEmpty := by
  induction h with
  | null type =>
    apply iff_of_true rfl
    intro lone
    cases lone
  | scalar h =>
    cases h <;> exact iff_of_true rfl fun lone => nomatch lone
  | @list element b values h ih =>
    by_cases lone : values = [.bytes []]
    · subst lone
      apply iff_of_false
      · intro same
        cases same
      · intro none
        exact none .here
    · have each : values.map Value.collapsed = values ↔ ∀ v ∈ values, v.collapsed = v := by
        have inj := List.map_inj_left (l := values) (f := Value.collapsed) (g := id)
        rwa [List.map_id] at inj
      rw [Value.collapsed_list lone, Value.list.injEq, each]
      constructor
      · intro same inner
        cases inner with
        | here => exact lone rfl
        | inside mem inner => exact (ih _ mem).1 (same _ mem) inner
      · intro none v mem
        apply (ih v mem).2
        intro inner
        exact none (.inside mem inner)

/-- Byte strings, alone or in lists of any depth, are written and read back, but with the lists
emptied that hold one empty byte string: as the same value, just when there are none. The value may
be one that any literal is read as. -/
theorem decode_encode_bytes (leaf : type.leaf = .scalar .bytea a)
    (given : type.HasType v ∨ ∃ raw null, type.decode raw null = .ok v) :
    ∃ token, type.encode v = .ok token ∧ type.decode token = .ok v.collapsed ∧
      (v.collapsed = v ↔ ¬ v.HoldsLoneEmpty) := by
  have typed : type.HasType v := by
    rcases given with typed | ⟨raw, null, read⟩
    · exact typed
    · apply hasType_of_leaf _ read
      intro kind b same text w scalar
      obtain ⟨rfl, rfl⟩ := ColumnType.scalar.inj (leaf.symm.trans same)
      obtain ⟨bytes, -, rfl⟩ := Except.of_map_eq_ok scalar
      exact .bytea _ bytes
  have same := collapsed_eq_self_iff typed
  cases typed with
  | null => exact ⟨Token.null, by cases type <;> rfl, decode_null type, same⟩
  | @scalar kind b v h =>
    obtain ⟨rfl, rfl⟩ := ColumnType.scalar.inj leaf
    cases h with
    | bytea _ bytes =>
      obtain ⟨t, rendered, read⟩ := decodeBytes_renderScalar b bytes
      have value : decodeScalar .bytea b t = .ok (.bytes bytes) := by
        rw [decodeScalar, read]
        rfl
      obtain ⟨encoded, decoded⟩ := decode_escape (by simp) rendered value
      exact ⟨_, encoded, decoded, same⟩
  | @list element b values h =>
    have inner : element.leaf = .scalar .bytea a := leaf
    obtain ⟨rest, encoded, -, read⟩ := rewritten_list (a := b) fun v mem =>
      rewritten_of_hasType inner (h v mem)
    exact ⟨_, encoded, read, same⟩

end

/-- Lists of no, of two and of three byte strings, beside a null. -/
theorem decode_encode_bytes_nested :
    ∃ token, encode (.array (.array (.scalar .bytea {}) {}) {}) (.list [.list [],
        .list [.bytes [], .bytes []], .null, .list [.bytes [0], .null, .bytes []]]) = .ok token ∧
      decode (.array (.array (.scalar .bytea {}) {}) {}) token = .ok (.list [.list [],
        .list [.bytes [], .bytes []], .null, .list [.bytes [0], .null, .bytes []]]) := by
  have given : decode (.array (.array (.scalar .bytea {}) {}) {})
      "[[],\x7b,\x7d, NULL ,['\\x00',NULL,\"\"]]".toList = .ok (.list [.list [],
        .list [.bytes [], .bytes []], .null, .list [.bytes [0], .null, .bytes []]]) := by
    rfl
  obtain ⟨token, encoded, read, -⟩ := decode_encode_bytes (a := {}) rfl (.inr ⟨_, _, given⟩)
  exact ⟨token, encoded, read⟩

/-- An empty byte string alone in a list is gone once the list has been written and read. -/
theorem decode_encode_lone_empty :
    decode (.array (.scalar .bytea {}) {}) "\x7b\"\"\x7d".toList = .ok (.list [.bytes []]) ∧
    encode (.array (.scalar .bytea {}) {}) (.list [.bytes []]) = .ok ['\x7b', '\x7d'] ∧
    decode (.array (.scalar .bytea {}) {}) ['\x7b', '\x7d'] = .ok (.list []) :=
  ⟨rfl, rfl, rfl⟩

end ColumnType

end RowStream
