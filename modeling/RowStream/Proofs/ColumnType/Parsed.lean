import RowStream.ColumnType.Tag
import RowStream.Proofs.Success

/-! What types tags can name. -/
namespace RowStream

variable [ZoneDatabase]

/-- The attributes that a scalar type of the kind can come to have. -/
def ScalarKind.Admits (kind : ScalarKind) (a : Attributes) : Prop :=
  match kind with
  | .integer => ∃ width : Nat, width ∈ [8, 16, 32, 64, 128, 256] ∧
      a = { nullable := a.nullable, width := some width, signed := a.signed }
  | .float => ∃ width : Nat, width ∈ [32, 64] ∧ a = { nullable := a.nullable, width := some width }
  | .decimal =>
    a = { nullable := a.nullable, precision := some ScalarFamily.defaultPrecision } ∨
      ∃ precision scale : Nat, 1 ≤ precision ∧ precision ≤ ScalarFamily.largestPrecision ∧
        scale ≤ precision ∧
        a = { nullable := a.nullable, precision := some precision, scale := some scale }
  | .timestamptz =>
    a = { nullable := a.nullable } ∨
      ∃ name zone, Zone.ofName name = .ok zone ∧
        a = { nullable := a.nullable, timezone := some name }
  | .text | .boolean | .bytea | .date | .time | .timestamp => a = { nullable := a.nullable }

namespace ColumnType

/-- Scalars have attributes of their kind, and arrays have none but nullability. -/
inductive WellFormed : ColumnType → Prop where
  | scalar {kind : ScalarKind} {a : Attributes} (admits : kind.Admits a) :
    WellFormed (.scalar kind a)
  | array {element : ColumnType} (inner : WellFormed element) (nullable : Bool) :
    WellFormed (.array element { nullable })

theorem WellFormed.withNullable {t : ColumnType} (h : t.WellFormed) (nullable : Bool) :
    (t.withNullable nullable).WellFormed := by
  cases h with
  | array inner _ => exact .array inner nullable
  | scalar admits =>
    rename_i kind a
    refine .scalar ?_
    cases kind with
    | integer | float =>
      obtain ⟨width, listed, eq⟩ := admits
      exact ⟨width, listed, by rw [eq]⟩
    | decimal =>
      obtain eq | ⟨p, s, some, small, fits, eq⟩ := admits
      · exact .inl (by rw [eq])
      · exact .inr ⟨p, s, some, small, fits, by rw [eq]⟩
    | timestamptz =>
      obtain eq | ⟨name, zone, known, eq⟩ := admits
      · exact .inl (by rw [eq])
      · exact .inr ⟨name, zone, known, by rw [eq]⟩
    | text | boolean | bytea | date | time | timestamp =>
      change _ = _ at admits ⊢
      rw [admits]

theorem wellFormed_wrap {name : Text} {t : ColumnType} (h : t.WellFormed) :
    (wrap name t).WellFormed := by
  unfold wrap
  split
  · exact .array h false
  · exact h.withNullable true

end ColumnType

namespace ScalarFamily

/-- The widths and kinds that the names of scalar types stand for. -/
def isListed : ScalarFamily → Bool
  | .integer width _ => width ∈ [8, 16, 32, 64, 128, 256]
  | .float width => width ∈ [32, 64]
  | .plain kind => kind ∈ [.text, .boolean, .bytea, .date, .time]
  | _ => true

omit [ZoneDatabase] in
theorem isListed_of_ofName? {name : Text} {family : ScalarFamily} (h : ofName? name = some family) :
    family.isListed := by
  have all : ∀ entry ∈ names, entry.2.isListed := by decide
  obtain ⟨entry, found, rfl⟩ := Option.map_eq_some_iff.1 h
  exact all entry (List.mem_of_find?_eq_some found)

theorem admits_decimal {name : Text} {arguments : List TagArgument} {a : Attributes}
    (h : decimalAttributes name arguments = .ok a) : ScalarKind.Admits .decimal a := by
  have build {p s : Nat} (h : (if p < 1 ∨ largestPrecision < p then .error (.precision p)
      else if p < s then .error (.scale s p)
      else .ok { precision := some (p : Int), scale := some (s : Int) } :
        Except TagFault Attributes) = .ok a) : ScalarKind.Admits .decimal a := by
    split at h
    · cases h
    · split at h
      · cases h
      · obtain rfl := Except.ok.inj h
        exact .inr ⟨p, s, by omega, by omega, by omega, rfl⟩
  simp only [decimalAttributes] at h
  split at h
  · cases h
  · split at h
    · obtain rfl := Except.ok.inj h
      exact .inl rfl
    · exact build h
    · exact build h
    · cases h

theorem wellFormed_timestampType {zoned : Bool} {name : Text} {arguments : List TagArgument}
    {t : ColumnType} (h : timestampType zoned name arguments = .ok t) : t.WellFormed := by
  simp only [timestampType] at h
  split at h
  · cases h
  · split at h
    · cases h
    · split at h
      · obtain rfl := Except.ok.inj h
        cases zoned with
        | false => exact .scalar rfl
        | true => exact .scalar (.inl rfl)
      · split at h
        · cases h
        · rename_i zone known
          obtain rfl := Except.ok.inj h
          exact .scalar (.inr ⟨_, zone, known, rfl⟩)

theorem wellFormed_build {family : ScalarFamily} (listed : family.isListed) {name : Text}
    {arguments : List TagArgument} {t : ColumnType} (h : family.build name arguments = .ok t) :
    t.WellFormed := by
  cases family with
  | integer width signed =>
    simp only [build] at h
    split at h
    · obtain rfl := Except.ok.inj h
      exact .scalar ⟨width, by simpa [isListed] using listed, rfl⟩
    · cases h
  | float width =>
    simp only [build] at h
    split at h
    · obtain rfl := Except.ok.inj h
      exact .scalar ⟨width, by simpa [isListed] using listed, rfl⟩
    · cases h
  | plain kind =>
    simp only [build] at h
    split at h
    · obtain rfl := Except.ok.inj h
      refine .scalar ?_
      cases kind <;> first | rfl | exact absurd listed (by decide)
    · cases h
  | decimal =>
    simp only [build] at h
    obtain ⟨a, attributes, rfl⟩ := Except.of_map_eq_ok h
    exact .scalar (admits_decimal attributes)
  | text =>
    simp only [build] at h
    split at h
    · cases h
    · split at h
      · cases h
      · obtain rfl := Except.ok.inj h
        exact .scalar rfl
  | timestamp zoned => exact wellFormed_timestampType h

end ScalarFamily

namespace ColumnType

theorem wellFormed_scalarOfName {name : Text} {arguments : List TagArgument} {t : ColumnType}
    (h : scalarOfName name arguments = .ok t) : t.WellFormed := by
  unfold scalarOfName at h
  split at h
  · cases h
  · rename_i family known
    exact ScalarFamily.wellFormed_build (ScalarFamily.isListed_of_ofName? known) h

theorem wellFormed_withTrailingMarker {marker : Option Bool} {t t' : ColumnType}
    {tokens rest : List TagToken} (known : t.WellFormed)
    (h : withTrailingMarker marker t tokens = .ok (t', rest)) : t'.WellFormed := by
  have marked (marker : Option Bool) : ((marker.map t.withNullable).getD t).WellFormed := by
    cases marker with
    | none => exact known
    | some nullable => exact known.withNullable nullable
  simp only [withTrailingMarker] at h
  split at h
  · simp only [Except.ok.injEq, Prod.mk.injEq] at h
    exact h.1 ▸ marked _
  · split at h
    · cases h
    · simp only [Except.ok.injEq, Prod.mk.injEq] at h
      exact h.1 ▸ marked _

theorem wellFormed_parse {tokens rest : List TagToken} {t : ColumnType}
    (h : parse tokens = .ok (t, rest)) : t.WellFormed := by
  fun_induction parse tokens generalizing t rest with
  | case1 => cases h
  | case2 =>
    rename_i ih
    obtain ⟨⟨element, after⟩, parsed, h⟩ := Except.of_bind_eq_ok h
    obtain ⟨closed, -, h⟩ := Except.of_bind_eq_ok h
    exact wellFormed_withTrailingMarker (wellFormed_wrap (ih parsed)) h
  | case3 =>
    obtain ⟨⟨arguments, after⟩, -, h⟩ := Except.of_bind_eq_ok h
    obtain ⟨scalar, known, h⟩ := Except.of_bind_eq_ok h
    exact wellFormed_withTrailingMarker (wellFormed_scalarOfName known) h
  | case4 => cases h
  | case5 =>
    obtain ⟨scalar, known, h⟩ := Except.of_bind_eq_ok h
    exact wellFormed_withTrailingMarker (wellFormed_scalarOfName known) h

theorem wellFormed_ofTokens {tokens : List TagToken} {t : ColumnType}
    (h : ofTokens tokens = .ok t) : t.WellFormed := by
  unfold ofTokens at h
  split at h
  · cases h
  · obtain ⟨⟨found, after⟩, parsed, h⟩ := Except.of_bind_eq_ok h
    cases after with
    | nil =>
      obtain rfl := Except.ok.inj h
      exact wellFormed_parse parsed
    | cons => cases h

theorem wellFormed_ofTag {tag : Text} {t : ColumnType} (h : ofTag tag = .ok t) : t.WellFormed := by
  unfold ofTag at h
  split at h
  · rename_i found given
    obtain rfl := Except.ok.inj h
    obtain ⟨tokens, -, given⟩ := Except.of_bind_eq_ok given
    exact wellFormed_ofTokens given
  · cases h
  · cases h

end ColumnType

end RowStream
