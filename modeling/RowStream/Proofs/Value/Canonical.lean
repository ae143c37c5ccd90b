import Mathlib.Data.List.Forall2
import RowStream.Value.Decoding
import RowStream.Value.Encoding

/-! The values of a type that are written in one way only, so that reading gives them back. -/
namespace RowStream

/-- The timestamp with its offset for a zone: same date, same time, same offset. -/
def Timestamp.settled (t : Timestamp) : Timestamp :=
  ⟨t.date, t.time, t.offset?.bind fun o => (UtcOffset.ofSeconds o).toOption.map .fixed, false⟩

namespace Timestamp

variable {t : Timestamp}

theorem settled_of_naive (naive : t.zone = none) : t.settled = .naive t.date t.time := by
  have unknown : t.offset? = none := by rw [offset?, naive]; rfl
  rw [settled, unknown]
  rfl

theorem settled_of_zoned {o : Int} (zoned : t.offset? = some o) (day : -86400 < o ∧ o < 86400) :
    t.settled = ⟨t.date, t.time, some (.fixed ⟨o, day⟩), false⟩ := by
  have fixed : UtcOffset.ofSeconds o = .ok ⟨o, day⟩ := dif_pos day
  rw [settled, zoned, Option.bind_some, fixed]
  rfl

theorem offset?_settled (h : ∀ o ∈ t.offset?, -86400 < o ∧ o < 86400) :
    t.settled.offset? = t.offset? := by
  cases known : t.offset? with
  | none =>
    have naive : t.zone = none := Option.map_eq_none_iff.1 known
    rw [settled_of_naive naive]
    rfl
  | some o =>
    rw [settled_of_zoned known (h o known)]
    rfl

end Timestamp

mutual

/-- The value with all timestamps settled, and else unchanged. -/
def Value.settled : Value → Value
  | .timestamp t => .timestamp t.settled
  | .list values => .list (settledAll values)
  | v => v

def Value.settledAll : List Value → List Value
  | [] => []
  | v :: rest => v.settled :: settledAll rest

end

namespace Value

@[simp] theorem settledAll_eq_map (values : List Value) :
    settledAll values = values.map settled := by
  induction values with
  | nil => rfl
  | cons v rest ih => rw [settledAll, ih, List.map_cons]

/-- The same value, but for where a timestamp has its offset from. -/
inductive SameAs : Value → Value → Prop where
  | refl (v : Value) : SameAs v v
  | timestamp {t u : Timestamp} (date : t.date = u.date) (time : t.time = u.time)
      (offset : t.offset? = u.offset?) : SameAs (.timestamp t) (.timestamp u)
  | list {vs ws : List Value} (members : List.Forall₂ SameAs vs ws) : SameAs (.list vs) (.list ws)

theorem sameAs_settled_timestamp {t : Timestamp}
    (day : ∀ o ∈ t.offset?, -86400 < o ∧ o < 86400) :
    SameAs (.timestamp t) (Value.settled (.timestamp t)) :=
  .timestamp rfl rfl (Timestamp.offset?_settled day).symm

theorem sameAs_settled_list {values : List Value} (h : ∀ v ∈ values, v.SameAs v.settled) :
    SameAs (.list values) (Value.settled (.list values)) := by
  rw [settled, settledAll_eq_map]
  exact .list (List.forall₂_map_right_iff.2 (List.forall₂_same.2 h))

end Value

/-- The integer has the width, and the sign only where there is one. -/
def Attributes.Fits (a : Attributes) (i : Int) : Prop :=
  ∃ width : Nat, a.width = some (width : Int) ∧
    if a.signed then -(Nat.pow 2 (width - 1) : Int) ≤ i ∧ i < (Nat.pow 2 (width - 1) : Int)
    else 0 ≤ i ∧ i < (Nat.pow 2 width : Int)

namespace Decimal

/-- The exponents of the decimals that there are; beyond them none can be made. -/
def Exists (coefficient : Nat) (exponent : Int) : Prop :=
  smallestExponent ≤ exponent ∧ adjusted coefficient exponent ≤ largestAdjusted

/-- A declared scale fixes the exponent and a declared precision bounds the digits. Without a
scale the exponent is only kept from being positive. -/
inductive Canonical (a : Attributes) : Decimal → Prop where
  | scaled {precision scale : Int} (negative : Bool) {coefficient : Nat}
      (bounded : a.precision = some precision) (fixed : a.scale = some scale)
      (fits : (digitCount coefficient : Int) ≤ precision) :
    Canonical a (.finite negative coefficient (-scale))
  | unscaled (negative : Bool) {coefficient : Nat} {exponent : Int} (free : a.scale = none)
      (whole : exponent ≤ 0) (made : Exists coefficient exponent) :
    Canonical a (.finite negative coefficient exponent)

end Decimal

namespace ColumnType

inductive CanonicalScalar : ScalarKind → Attributes → Value → Prop where
  | integer {a : Attributes} {i : Int} (fits : a.Fits i) : CanonicalScalar .integer a (.int i)
  | decimal {a : Attributes} {d : Decimal} (h : d.Canonical a) :
    CanonicalScalar .decimal a (.decimal d)
  | text (a : Attributes) (t : Text) : CanonicalScalar .text a (.text t)
  | boolean (a : Attributes) (b : Bool) : CanonicalScalar .boolean a (.bool b)
  | date (a : Attributes) (d : Date) : CanonicalScalar .date a (.date d)
  | time (a : Attributes) (t : TimeOfDay) : CanonicalScalar .time a (.time t none)
  | timestamp (a : Attributes) {t : Timestamp} (naive : t.zone = none) :
    CanonicalScalar .timestamp a (.timestamp t)
  | timestamptz (a : Attributes) {t : Timestamp} {offset : Int} (zoned : t.offset? = some offset)
      (day : -86400 < offset ∧ offset < 86400) : CanonicalScalar .timestamptz a (.timestamp t)

/-- What may stand in an array: nulls, scalars, and arrays of such. -/
inductive CanonicalElement : ColumnType → Value → Prop where
  | null (type : ColumnType) : CanonicalElement type .null
  | scalar {kind : ScalarKind} {a : Attributes} {v : Value} (h : CanonicalScalar kind a v) :
    CanonicalElement (.scalar kind a) v
  | list {element : ColumnType} (a : Attributes) {values : List Value}
      (h : ∀ v ∈ values, CanonicalElement element v) :
    CanonicalElement (.array element a) (.list values)

theorem CanonicalScalar.sameAs_settled {kind : ScalarKind} {a : Attributes} {v : Value}
    (h : CanonicalScalar kind a v) : v.SameAs v.settled := by
  cases h with
  | timestamp a naive =>
    apply Value.sameAs_settled_timestamp
    rw [Timestamp.offset?, naive]
    rintro _ ⟨⟩
  | timestamptz a zoned day =>
    apply Value.sameAs_settled_timestamp
    rw [zoned]
    rintro _ ⟨⟩
    exact day
  | _ => exact .refl _

theorem CanonicalElement.sameAs_settled {type : ColumnType} {v : Value}
    (h : CanonicalElement type v) : v.SameAs v.settled := by
  induction h with
  | null type => exact .refl _
  | scalar h => exact h.sameAs_settled
  | list a h ih => exact Value.sameAs_settled_list ih

/-- Bytes are only written in a way that can be read where they are not in an array. -/
inductive Canonical : ColumnType → Value → Prop where
  | element {type : ColumnType} {v : Value} (h : CanonicalElement type v) : Canonical type v
  | bytes (a : Attributes) (bytes : Bytes) : Canonical (.scalar .bytea a) (.bytes bytes)

/-- Settling a canonical value changes neither the clock nor the offset of any timestamp in it. -/
theorem Canonical.sameAs_settled {type : ColumnType} {v : Value} (h : Canonical type v) :
    v.SameAs v.settled := by
  cases h with
  | element h => exact h.sameAs_settled
  | bytes a bytes => exact .refl _

end ColumnType

end RowStream
