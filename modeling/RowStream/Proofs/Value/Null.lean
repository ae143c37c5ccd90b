import RowStream.Calendar.RegionTable
import RowStream.Proofs.Value.Elements

/-! Null is read from the token that stands for it, and from no other. An element between quotes is
not taken for null, unless it is an array itself. -/
namespace RowStream.ColumnType

@[simp] theorem decode_null [ZoneDatabase] (type : ColumnType) :
    type.decode Token.null = .ok .null := by
  cases type with
  | scalar => rw [decode, decodeAs, if_pos rfl]
  | array => rw [decode, decodeAs, Form.nullToken, if_pos rfl]

theorem decodeScalar_ne_null [ZoneDatabase] (kind : ScalarKind) (a : Attributes) (text : Text) :
    decodeScalar kind a text ≠ .ok .null := by
  intro h
  cases kind with
  | text => cases h
  | integer | float | decimal | boolean | bytea | date | time | timestamp | timestamptz =>
    obtain ⟨_, -, eq⟩ := Except.of_map_eq_ok h
    cases eq

/-- A text whose escapes are resolved is null only where it is to be an array. -/
theorem decodeAs_eq_null_iff [ZoneDatabase] {type : ColumnType} {form : Form} {raw : Text}
    {v : Value} (h : type.decodeAs form raw = .ok v) :
    v = .null ↔ raw = form.nullToken ∧ (type.isArray = true ∨ form ≠ .text) := by
  cases type with
  | scalar kind a =>
    cases form with
    | token null =>
      rw [decodeAs] at h
      by_cases same : raw = null
      · rw [if_pos same] at h
        exact iff_of_true (Except.ok.inj h).symm ⟨same, .inr (by simp)⟩
      · rw [if_neg same] at h
        apply iff_of_false
        · rintro rfl
          exact decodeScalar_ne_null kind a _ h
        · rintro ⟨eq, -⟩
          exact same eq
    | text =>
      apply iff_of_false
      · rintro rfl
        exact decodeScalar_ne_null kind a _ h
      · rintro ⟨-, array | other⟩
        · cases array
        · exact other rfl
  | array element a =>
    rw [decodeAs] at h
    by_cases same : raw = form.nullToken
    · rw [if_pos same] at h
      exact iff_of_true (Except.ok.inj h).symm ⟨same, .inl rfl⟩
    · rw [if_neg same] at h
      apply iff_of_false
      · rintro rfl
        split at h
        · cases h
        · obtain ⟨_, -, eq⟩ := Except.of_map_eq_ok h
          cases eq
      · rintro ⟨eq, -⟩
        exact same eq

theorem decode_eq_null_iff [ZoneDatabase] {type : ColumnType} {raw : Text} {v : Value}
    (h : type.decode raw = .ok v) : v = .null ↔ raw = Token.null := by
  have given := decodeAs_eq_null_iff h
  simpa [Form.nullToken] using given

theorem decodeElementAs_eq_null_iff [ZoneDatabase] {type : ColumnType} {form : Form}
    {e : ArrayLiteral.Element} {v : Value} (h : type.decodeElementAs form e = .ok v) :
    v = .null ↔
      (e.quoted = false ∧
        (e.token = form.nullToken ∨ e.token = Token.null ∨ e.token = "NULL".toList)) ∨
      (e.quoted = true ∧ type.isArray = true ∧ Token.unescape e.token = Token.null) := by
  rw [decodeElementAs] at h
  cases quoted : e.quoted with
  | true =>
    rw [if_pos quoted] at h
    have null := decodeAs_eq_null_iff h
    simpa [Form.nullToken, and_comm] using null
  | false =>
    have named : isNullElement e.token = true ↔ e.token = Token.null ∨ e.token = "NULL".toList := by
      simp [isNullElement]
    rw [if_neg (by simp [quoted])] at h
    by_cases marked : e.token = form.nullToken ∨ isNullElement e.token = true
    · rw [if_pos marked] at h
      rw [named] at marked
      exact iff_of_true (Except.ok.inj h).symm (.inl ⟨rfl, marked⟩)
    · rw [if_neg marked] at h
      rw [named] at marked
      have null := decodeAs_eq_null_iff h
      apply iff_of_false
      · intro absent
        exact marked (.inl (null.1 absent).1)
      · rintro (⟨-, same⟩ | ⟨other, -⟩)
        · exact marked same
        · cases other

/-- In an array, whose literal may be a token or have stood between quotes itself, the elements that
are null are those written as one of the null tokens without quotes. Between quotes there is one
exception, in arrays of arrays: what comes to the null token once its escapes are resolved. -/
theorem elements_null_iff [ZoneDatabase] {element : ColumnType} {a : Attributes} {form : Form}
    {raw : Text} {values : List Value}
    (h : decodeAs (.array element a) form raw = .ok (.list values)) :
    ∃ elements, ArrayLiteral.split raw = .ok elements ∧ values.length = elements.length ∧
      ∀ (i : Nat) (e : ArrayLiteral.Element) (v : Value), elements[i]? = some e →
        values[i]? = some v → (v = .null ↔
          (e.quoted = false ∧
            (e.token = form.nullToken ∨ e.token = Token.null ∨ e.token = "NULL".toList)) ∨
          (e.quoted = true ∧ element.isArray = true ∧ Token.unescape e.token = Token.null)) := by
  obtain ⟨-, elements, divided, each⟩ := decodeAs_eq_list_iff.1 h
  refine ⟨elements, divided, ?_, ?_⟩
  · have length := congrArg List.length each
    simpa using length.symm
  · intro i e v given value
    have place := congrArg (fun l => l[i]?) each
    have read : element.decodeElementAs form e = .ok v := by simpa [given, value] using place
    exact decodeElementAs_eq_null_iff read

/-- A quoted list beside a null, with its own null inside. -/
theorem elements_null_iff_nested :
    ∃ elements, ArrayLiteral.split "\x7b'\x7b1,NULL\x7d',NULL\x7d".toList = .ok elements ∧
      2 = elements.length ∧
      ∀ (i : Nat) (e : ArrayLiteral.Element) (v : Value), elements[i]? = some e →
        [Value.list [.int 1, .null], .null][i]? = some v → (v = .null ↔
          (e.quoted = false ∧
            (e.token = ['n'] ∨ e.token = Token.null ∨ e.token = "NULL".toList)) ∨
          (e.quoted = true ∧
            (ColumnType.array (.scalar .integer { width := some 8 }) {}).isArray = true ∧
            Token.unescape e.token = Token.null)) := by
  have read : decodeAs (.array (.array (.scalar .integer { width := some 8 }) {}) {})
      (.token ['n']) "\x7b'\x7b1,NULL\x7d',NULL\x7d".toList =
        .ok (.list [.list [.int 1, .null], .null]) := by
    rfl
  exact elements_null_iff read

/-- Two ways to write the null token between quotes, both read as null. -/
theorem null_between_quotes :
    ArrayLiteral.split "\x7b\"\\N\",'\\\\N'\x7d".toList =
      .ok [⟨"\\N".toList, true⟩, ⟨"\\\\N".toList, true⟩] ∧
    decode (.array (.array (.scalar .integer { width := some 32 }) {}) {})
      "\x7b\"\\N\",'\\\\N'\x7d".toList = .ok (.list [.null, .null]) :=
  ⟨rfl, rfl⟩

end RowStream.ColumnType
