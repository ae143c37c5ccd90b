import RowStream.Proofs.Success
import RowStream.Value.Decoding
import RowStream.Value.Encoding

/-! Elements of an array are decoded and encoded one by one. -/
namespace RowStream.ColumnType

theorem decodeElements_eq_mapM (decode : ArrayLiteral.Element → Except Error Value)
    (elements : List ArrayLiteral.Element) :
    decodeElements decode elements = elements.mapM decode := by
  induction elements with
  | nil => rfl
  | cons e rest ih =>
    rw [decodeElements, List.mapM_cons, ih]
    cases decode e with
    | error err => rfl
    | ok v => cases rest.mapM decode <;> rfl

theorem encodeElements_eq_mapM (encode : Value → Except Error Text) (values : List Value) :
    encodeElements encode values = values.mapM encode := by
  induction values with
  | nil => rfl
  | cons v rest ih =>
    rw [encodeElements, List.mapM_cons, ih]
    cases encode v with
    | error err => rfl
    | ok t => cases rest.mapM encode <;> rfl

theorem decodeElements_eq_ok_iff {decode : ArrayLiteral.Element → Except Error Value}
    {elements : List ArrayLiteral.Element} {values : List Value} :
    decodeElements decode elements = .ok values ↔ elements.map decode = values.map .ok := by
  rw [decodeElements_eq_mapM, Except.mapM_eq_ok_iff]

theorem encodeElements_eq_ok_iff {encode : Value → Except Error Text} {values : List Value}
    {parts : List Text} :
    encodeElements encode values = .ok parts ↔ values.map encode = parts.map .ok := by
  rw [encodeElements_eq_mapM, Except.mapM_eq_ok_iff]

variable [ZoneDatabase]

/-- The value of an element in a literal that is read in the given form. -/
def decodeElementAs (type : ColumnType) (form : Form) (e : ArrayLiteral.Element) :
    Except Error Value :=
  if e.quoted then type.decodeAs .text (Token.unescape e.token)
  else if e.token = form.nullToken ∨ isNullElement e.token then .ok .null
  else type.decodeAs (.token form.nullToken) e.token

theorem decodeAs_of_split {element : ColumnType} (a : Attributes) (form : Form) {raw : Text}
    {elements : List ArrayLiteral.Element} (other : raw ≠ form.nullToken)
    (divided : ArrayLiteral.split raw = .ok elements) :
    decodeAs (.array element a) form raw =
      Value.list <$> elements.mapM (element.decodeElementAs form) := by
  rw [decodeAs, if_neg other, divided, ← decodeElements_eq_mapM]
  rfl

theorem decodeAs_of_refused {element : ColumnType} (a : Attributes) (form : Form) {raw : Text}
    {fault : ArrayLiteral.Fault} (other : raw ≠ form.nullToken)
    (refused : ArrayLiteral.split raw = .error fault) :
    decodeAs (.array element a) form raw = .error (.value (.literal fault)) := by
  rw [decodeAs, if_neg other, refused]

/-- A list is read from a literal whose elements are, place by place. -/
theorem decodeAs_eq_list_iff {element : ColumnType} {a : Attributes} {form : Form} {raw : Text}
    {values : List Value} : decodeAs (.array element a) form raw = .ok (.list values) ↔
      raw ≠ form.nullToken ∧ ∃ elements, ArrayLiteral.split raw = .ok elements ∧
        elements.map (element.decodeElementAs form) = values.map .ok := by
  rw [decodeAs]
  by_cases null : raw = form.nullToken
  · rw [if_pos null]
    apply iff_of_false
    · intro h
      cases h
    · rintro ⟨other, -⟩
      exact other null
  · rw [if_neg null]
    cases ArrayLiteral.split raw with
    | error fault =>
      apply iff_of_false
      · intro h
        cases h
      · rintro ⟨-, elements, h, -⟩
        cases h
    | ok elements =>
      constructor
      · intro h
        obtain ⟨found, read, same⟩ := Except.of_map_eq_ok h
        obtain rfl := Value.list.inj same
        exact ⟨null, elements, rfl, decodeElements_eq_ok_iff.1 read⟩
      · rintro ⟨-, elements', same, each⟩
        obtain rfl := Except.ok.inj same
        have read := decodeElements_eq_ok_iff.2 each
        change Value.list <$> decodeElements (element.decodeElementAs form) elements = _
        rw [read]
        rfl

end RowStream.ColumnType
