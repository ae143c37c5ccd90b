import RowStream.Proofs.ArrayLiteral.Pieces
import RowStream.Proofs.Value.Null

/-! Nested literals, without quotes and between them. Both are split alike, but between quotes the
elements are read with the usual null token, whatever stands for null outside. -/
namespace RowStream.ColumnType

open ArrayLiteral (isQuote isWellFormed split unquote)

/-- The list of one literal. -/
def braced (literal : Text) : Text := '\x7b' :: (literal ++ ['\x7d'])

/-- The list of one literal, which stands between quotes. -/
def bracedQuoted (literal : Text) : Text := braced ('\'' :: (literal ++ ['\'']))

/-- Whether the token is an element without quotes, in the literal or in one that it nests. -/
def mentions (token : Text) : ColumnType → Text → Bool
  | .scalar _ _, _ => false
  | .array element _, raw =>
    match split raw with
    | .ok elements => elements.any fun e =>
        !e.quoted && (e.token = token || element.mentions token e.token)
    | .error _ => false

/-- An element that is read as a token: not quoted, and no null in every array. -/
structure IsToken (e : ArrayLiteral.Element) : Prop where
  unquoted : e.quoted = false
  present : isNullElement e.token = false

variable {element type : ColumnType} {a : Attributes} {e : ArrayLiteral.Element}
  {null raw literal : Text} {v : Value}

theorem isNullElement_iff (token : Text) :
    isNullElement token = true ↔ token = Token.null ∨ token = "NULL".toList := by
  simp [isNullElement]

theorem mentions_array_iff {elements : List ArrayLiteral.Element}
    (divided : split raw = .ok elements) :
    mentions null (.array element a) raw = true ↔ ∃ e ∈ elements, e.quoted = false ∧
      (e.token = null ∨ element.mentions null e.token = true) := by
  simp [mentions, divided]

theorem mentions_of_isNullElement (type : ColumnType) {token : Text}
    (marked : isNullElement token = true) : type.mentions null token = false := by
  cases type with
  | scalar => rfl
  | array element a => rcases (isNullElement_iff token).1 marked with rfl | rfl <;> rfl

section

variable [ZoneDatabase]

namespace IsToken

omit [ZoneDatabase] in
theorem ne_null (h : IsToken e) : e.token ≠ Token.null := by
  intro same
  have present := h.present
  rw [same] at present
  cases present

theorem decode (h : IsToken e) (other : e.token ≠ null) :
    type.decodeElementAs (.token null) e = type.decodeAs (.token null) e.token := by
  simp [decodeElementAs, h.unquoted, h.present, Form.nullToken, other]

theorem decode_null (h : IsToken e) : type.decodeElementAs (.token e.token) e = .ok .null := by
  simp [decodeElementAs, h.unquoted, Form.nullToken]

/-- Two equal values are not read of an element that is null in one reading only. -/
theorem ne_of_same (h : IsToken e) (read : type.decodeElementAs (.token null) e = .ok v)
    (usual : type.decodeElementAs (.token Token.null) e = .ok v) : e.token ≠ null := by
  rintro rfl
  rw [h.decode_null] at read
  obtain rfl := Except.ok.inj read
  rw [h.decode h.ne_null] at usual
  exact h.ne_null ((decodeAs_eq_null_iff usual).1 rfl).1

end IsToken

/-- The null token is only asked about where an element is read as a token. -/
theorem decodeElementAs_cases (type : ColumnType) (e : ArrayLiteral.Element) :
    (∀ null, type.decodeElementAs (.token null) e = type.decodeElementAs (.token Token.null) e) ∨
      IsToken e := by
  cases quoted : e.quoted with
  | true => exact .inl fun null => by simp [decodeElementAs, quoted]
  | false =>
    cases marked : isNullElement e.token with
    | true => exact .inl fun null => by simp [decodeElementAs, quoted, marked]
    | false => exact .inr ⟨quoted, marked⟩

/-- A null token that no element is, or that is null in every array, makes no difference. -/
theorem decodeAs_eq_usual (other : raw ≠ null) (usual : raw ≠ Token.null)
    (absent : isNullElement null = true ∨ type.mentions null raw = false) :
    type.decodeAs (.token null) raw = type.decodeAs (.token Token.null) raw := by
  induction type generalizing raw with
  | scalar kind a => rw [decodeAs, decodeAs, if_neg other, if_neg usual]
  | array element a ih =>
    cases divided : split raw with
    | error fault =>
      rw [decodeAs_of_refused a (.token null) other divided,
        decodeAs_of_refused a (.token Token.null) usual divided]
    | ok elements =>
      rw [decodeAs_of_split a (.token null) other divided,
        decodeAs_of_split a (.token Token.null) usual divided]
      congr 1
      apply Except.mapM_congr
      intro e mem
      obtain same | token := decodeElementAs_cases element e
      · exact same null
      · -- Read on below this element, the null token is not met with either.
        have apart : e.token ≠ null ∧
            (isNullElement null = true ∨ element.mentions null e.token = false) := by
          rcases absent with always | absent
          · refine ⟨?_, .inl always⟩
            rintro rfl
            cases always.symm.trans token.present
          · have none := mt (mentions_array_iff (a := a) divided).2 (ne_true_of_eq_false absent)
            constructor
            · exact fun same => none ⟨e, mem, token.unquoted, .inl same⟩
            · right
              apply eq_false_of_ne_true
              exact fun found => none ⟨e, mem, token.unquoted, .inr found⟩
        rw [token.decode apart.1, token.decode token.ne_null]
        exact ih apart.1 token.ne_null apart.2

/-- Another null token spares elements from being read, and so adds no failure. -/
theorem isOk_of_usual (usual : raw ≠ Token.null)
    (h : (type.decodeAs (.token Token.null) raw).isOk) :
    (type.decodeAs (.token null) raw).isOk := by
  induction type generalizing raw with
  | scalar kind a =>
    rw [decodeAs, if_neg usual] at h
    rw [decodeAs]
    split
    · rfl
    · exact h
  | array element a ih =>
    by_cases other : raw = null
    · rw [decodeAs, Form.nullToken, if_pos other]
      rfl
    · cases divided : split raw with
      | error fault =>
        rw [decodeAs_of_refused a (.token Token.null) usual divided] at h
        cases h
      | ok elements =>
        rw [decodeAs_of_split a (.token Token.null) usual divided, Except.isOk_map,
          Except.mapM_isOk_iff] at h
        rw [decodeAs_of_split a (.token null) other divided, Except.isOk_map,
          Except.mapM_isOk_iff]
        intro e mem
        have read := h e mem
        obtain same | token := decodeElementAs_cases element e
        · rwa [same null]
        · by_cases stands : e.token = null
          · rw [← stands, token.decode_null]
            rfl
          · rw [token.decode token.ne_null] at read
            rw [token.decode stands]
            exact ih token.ne_null read

/-- Two equal values come from a literal that mentions no null token of its own. -/
theorem mentions_eq_false_of_same (other : raw ≠ null) (usual : raw ≠ Token.null)
    (special : isNullElement null = false) (h : type.decodeAs (.token null) raw = .ok v)
    (h' : type.decodeAs (.token Token.null) raw = .ok v) : type.mentions null raw = false := by
  induction type generalizing raw v with
  | scalar kind a => rfl
  | array element a ih =>
    cases divided : split raw with
    | error fault => simp [mentions, divided]
    | ok elements =>
      rw [decodeAs_of_split a (.token null) other divided] at h
      rw [decodeAs_of_split a (.token Token.null) usual divided] at h'
      obtain ⟨values, read, rfl⟩ := Except.of_map_eq_ok h
      obtain ⟨values', read', same⟩ := Except.of_map_eq_ok h'
      obtain rfl := Value.list.inj same
      apply eq_false_of_ne_true
      rw [mentions_array_iff divided]
      rintro ⟨e, mem, unquoted, found⟩
      obtain ⟨w, value, value'⟩ := Except.exists_of_mapM_eq_ok read read' e mem
      cases marked : isNullElement e.token with
      | true =>
        rcases found with rfl | found
        · cases special.symm.trans marked
        · rw [mentions_of_isNullElement element marked] at found
          cases found
      | false =>
        have token : IsToken e := ⟨unquoted, marked⟩
        have apart := token.ne_of_same value value'
        rw [token.decode apart] at value
        rw [token.decode token.ne_null] at value'
        rcases found with same | found
        · exact apart same
        · rw [ih apart token.ne_null value value'] at found
          cases found

/-- Under its own null token a literal is read as under the usual one, unless it has the token as an
element and is not refused. -/
theorem toOption_decodeAs_eq_iff (other : raw ≠ null) (usual : raw ≠ Token.null) :
    (type.decodeAs (.token Token.null) raw).toOption =
        (type.decodeAs (.token null) raw).toOption ↔
      (type.decodeAs (.token null) raw).toOption = none ∨
        isNullElement null = true ∨ type.mentions null raw = false := by
  constructor
  · intro same
    cases read : type.decodeAs (.token null) raw with
    | error e => exact .inl rfl
    | ok v =>
      right
      rw [read] at same
      cases special : isNullElement null with
      | true => exact .inl rfl
      | false =>
        have read' := Except.of_toOption_eq_some same
        exact .inr (mentions_eq_false_of_same other usual special read read')
  · rintro (refused | absent)
    · rw [refused]
      rw [Except.toOption_eq_none_iff] at refused ⊢
      exact mt (isOk_of_usual usual) refused
    · rw [decodeAs_eq_usual other usual absent]

/-- An array that stands between quotes is read as where the usual null token is in force. -/
theorem decodeAs_text_eq (nested : type.isArray = true) :
    type.decodeAs .text raw = type.decodeAs (.token Token.null) raw := by
  cases type with
  | scalar => cases nested
  | array => rfl

section Braced

variable (element a) (plain : ∀ c ∈ literal, c ≠ '\\' ∧ isQuote c = false)
include plain

theorem decode_braced (whole : isWellFormed literal = true) (other : literal ≠ null)
    (apart : braced literal ≠ null) :
    decode (.array element a) (braced literal) null =
      (fun v => .list [v]) <$> element.decodeAs (.token null) literal := by
  have solid := ArrayLiteral.solid_of_isWellFormed whole
  have passes := ArrayLiteral.passes_of_scan? (ArrayLiteral.isPiece_of_isWellFormed whole)
  have token : IsToken ⟨literal, false⟩ := by
    refine ⟨rfl, eq_false_of_ne_true fun marked => ?_⟩
    rcases (isNullElement_iff literal).1 marked with rfl | rfl
    · exact (plain '\\' (by decide)).1 rfl
    · cases whole
  have element_eq : unquote literal = ⟨literal, false⟩ := by
    obtain ⟨c, rest, rfl⟩ := List.exists_cons_of_ne_nil solid.ne_nil
    exact ArrayLiteral.unquote_of_solid solid (plain c List.mem_cons_self).2
  have divided : split (braced literal) = .ok [⟨literal, false⟩] := by
    rw [braced, ArrayLiteral.split_single rfl passes, element_eq]
    rw [solid.trim_eq]
    exact solid.ne_nil
  rw [decode, decodeAs_of_split a (.token null) apart divided, List.mapM_cons,
    token.decode other]
  cases element.decodeAs (.token null) literal <;> rfl

theorem decode_bracedQuoted (nested : element.isArray = true)
    (apart : bracedQuoted literal ≠ null) :
    decode (.array element a) (bracedQuoted literal) null =
      (fun v => .list [v]) <$> element.decodeAs (.token Token.null) literal := by
  have paired : Token.Paired (· ≠ '\'') literal := by
    apply Token.Paired.of_forall
    intro c mem
    refine ⟨(plain c mem).1, ?_⟩
    rintro rfl
    cases (plain _ mem).2
  have divided : split (bracedQuoted literal) = .ok [⟨literal, true⟩] := by
    have passes := ArrayLiteral.passes_between (q := '\'') rfl 0 paired
    rw [bracedQuoted, braced, ArrayLiteral.split_single rfl passes, ArrayLiteral.unquote_quoted rfl]
    intro blank
    have quote := Text.isBlank_of_trim_eq_nil blank '\'' List.mem_cons_self
    cases quote
  have element_eq : element.decodeElementAs (.token null) ⟨literal, true⟩ =
      element.decodeAs (.token Token.null) literal := by
    have same := Token.unescape_of_forall fun c mem => (plain c mem).1
    rw [decodeElementAs, if_pos rfl, same, decodeAs_text_eq nested]
  rw [decode, decodeAs_of_split a (.token null) apart divided, List.mapM_cons, element_eq]
  cases element.decodeAs (.token Token.null) literal <;> rfl

end Braced

/-- A nested literal between quotes is read as the one without them is under the usual null token.
Under another one the two are read alike where the one without quotes is refused, where that other
token is null in every array, and where it is no element; and nowhere else. -/
theorem decode_nested (element : ColumnType) (a : Attributes) (literal null : Text)
    (nested : element.isArray = true) (whole : isWellFormed literal = true)
    (plain : ∀ c ∈ literal, c ≠ '\\' ∧ isQuote c = false)
    (other : null ∉ [literal, braced literal, bracedQuoted literal]) :
    decode (.array element a) (bracedQuoted literal) null =
      decode (.array element a) (braced literal) ∧
    ((decode (.array element a) (bracedQuoted literal) null).toOption =
        (decode (.array element a) (braced literal) null).toOption ↔
      (decode (.array element a) (braced literal) null).toOption = none ∨
        isNullElement null = true ∨ element.mentions null literal = false) := by
  have apart : literal ≠ null ∧ braced literal ≠ null ∧ bracedQuoted literal ≠ null := by
    simpa [eq_comm] using other
  have usual : literal ≠ Token.null := by
    rintro rfl
    exact (plain '\\' (by decide)).1 rfl
  obtain ⟨bare, inBraces, inQuotes⟩ := apart
  have unquoted := decode_braced element a plain whole bare inBraces
  have quoted := decode_bracedQuoted element a plain nested inQuotes
  have default := decode_braced element a plain whole usual (by simp [braced, Token.null])
  refine ⟨quoted.trans default.symm, ?_⟩
  have single : Function.Injective fun v => Value.list [v] := fun v w same => by simpa using same
  rw [quoted, unquoted, Except.toOption_map, Except.toOption_map, Option.map_eq_none_iff,
    (Option.map_injective single).eq_iff]
  exact toOption_decodeAs_eq_iff bare usual

end

/-- Three levels, with the token that stands for null on the innermost. -/
theorem decode_nested_innermost :
    decode (.array (.array (.array (.scalar .text {}) {}) {}) {})
        (bracedQuoted "\x7b[n,x]\x7d".toList) ['n'] =
      decode (.array (.array (.array (.scalar .text {}) {}) {}) {})
        (braced "\x7b[n,x]\x7d".toList) ∧
    (decode (.array (.array (.array (.scalar .text {}) {}) {}) {})
        (bracedQuoted "\x7b[n,x]\x7d".toList) ['n']).toOption ≠
      (decode (.array (.array (.array (.scalar .text {}) {}) {}) {})
        (braced "\x7b[n,x]\x7d".toList) ['n']).toOption := by
  obtain ⟨usual, alike⟩ := decode_nested (.array (.array (.scalar .text {}) {}) {}) {}
    "\x7b[n,x]\x7d".toList ['n'] rfl rfl (by simp [isQuote]) (by simp [braced, bracedQuoted])
  refine ⟨usual, fun same => ?_⟩
  rcases alike.1 same with refused | special | absent
  · cases refused
  · cases special
  · cases absent

/-- The same element is null without quotes around its list, and a text with them. -/
theorem decode_null_between_quotes :
    decode (.array (.array (.scalar .text {}) {}) {}) "\x7b'\x7bnull\x7d'\x7d".toList
        "null".toList = .ok (.list [.list [.text "null".toList]]) ∧
    decode (.array (.array (.scalar .text {}) {}) {}) "\x7b\x7bnull\x7d\x7d".toList
        "null".toList = .ok (.list [.list [.null]]) :=
  ⟨rfl, rfl⟩

end RowStream.ColumnType
