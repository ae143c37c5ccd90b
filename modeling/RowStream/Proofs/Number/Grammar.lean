import RowStream.Proofs.Text.Digits

/-! The texts of numerals by a grammar, and that they are read by it: a text is read as a numeral
exactly if it spells that one. -/
namespace RowStream.Numeral

open Text (digit? numberOf)

/-- An optional sign, and whether it is a minus. -/
inductive Sign : Text → Bool → Prop where
  | none : Sign [] false
  | plus : Sign ['+'] false
  | minus : Sign ['-'] true

/-- Digits with an optional point, at least one digit before or behind it. -/
inductive Mantissa : Text → List Nat → List Nat → Prop where
  | whole {t : Text} (some : t ≠ []) (digits : ∀ c ∈ t, c.isDigit) :
    Mantissa t (t.filterMap digit?) []
  | pointed {t t' : Text} (some : t ≠ [] ∨ t' ≠ []) (digits : ∀ c ∈ t, c.isDigit)
      (digits' : ∀ c ∈ t', c.isDigit) :
    Mantissa (t ++ '.' :: t') (t.filterMap digit?) (t'.filterMap digit?)

/-- An optional exponent: its mark, an optional sign and digits. -/
inductive Exponent : Text → Int → Prop where
  | none : Exponent [] 0
  | some {mark : Char} {sign t : Text} {negative : Bool} (marked : mark = 'e' ∨ mark = 'E')
      (signs : Sign sign negative) (some : t ≠ []) (digits : ∀ c ∈ t, c.isDigit) :
    Exponent (mark :: (sign ++ t)) (signed negative (numberOf (t.filterMap digit?)))

/-- The texts that spell a numeral. -/
inductive Spelled : Text → Numeral → Prop where
  | mk {sign body tail : Text} {negative : Bool} {whole fraction : List Nat} {exponent : Int}
      (signs : Sign sign negative) (mantissa : Mantissa body whole fraction)
      (ended : Exponent tail exponent) :
    Spelled (sign ++ (body ++ tail)) ⟨negative, whole, fraction, exponent⟩

section Reading

variable {t rest : Text} {digits : List Nat} {negative : Bool}

theorem takeSign_of {sign : Text} (signs : Sign sign negative)
    (unsigned : ∀ c ∈ rest.head?, c ≠ '+' ∧ c ≠ '-') :
    takeSign (sign ++ rest) = (negative, rest) := by
  cases signs with
  | plus | minus => rfl
  | none =>
    cases rest with
    | nil => rfl
    | cons c rest =>
      obtain ⟨plus, minus⟩ := unsigned c rfl
      rw [List.nil_append]
      unfold takeSign
      split
      · rename_i same
        cases same
        exact absurd rfl minus
      · rename_i same
        cases same
        exact absurd rfl plus
      · rfl

theorem of_takeSign (h : takeSign t = (negative, rest)) :
    ∃ sign, t = sign ++ rest ∧ Sign sign negative := by
  unfold takeSign at h
  split at h
  · cases h
    exact ⟨['-'], rfl, .minus⟩
  · cases h
    exact ⟨['+'], rfl, .plus⟩
  · cases h
    exact ⟨[], rfl, .none⟩

theorem takeDigits_of (inside : ∀ c ∈ t, c.isDigit)
    (outside : ∀ c ∈ rest.head?, c.isDigit = false) :
    takeDigits (t ++ rest) = (t.filterMap digit?, rest) := by
  obtain ⟨taken, left⟩ := Text.takeWhile_of_stops inside outside
  rw [takeDigits, taken, left]

theorem takeDigits_all (h : ∀ c ∈ t, c.isDigit) : takeDigits t = (t.filterMap digit?, []) := by
  have nothing : ∀ c ∈ ([] : Text).head?, c.isDigit = false := by
    rintro _ ⟨⟩
  have taken := takeDigits_of h nothing
  rwa [List.append_nil] at taken

theorem digits_ne_nil (some : t ≠ []) (h : ∀ c ∈ t, c.isDigit) :
    t.filterMap digit? ≠ [] := by
  have length := Text.length_filterMap_digit? h
  intro none
  rw [none] at length
  exact some (List.length_eq_zero_iff.1 length.symm)

theorem of_takeDigits (h : takeDigits t = (digits, rest)) :
    ∃ front, t = front ++ rest ∧ (∀ c ∈ front, c.isDigit) ∧ digits = front.filterMap digit? := by
  cases h
  refine ⟨t.takeWhile Char.isDigit, List.takeWhile_append_dropWhile.symm, ?_, rfl⟩
  intro c mem
  exact List.all_eq_true.1 List.all_takeWhile c mem

theorem of_takeFraction (h : takeFraction t = (digits, rest)) :
    (rest = t ∧ digits = []) ∨ ∃ back, t = '.' :: (back ++ rest) ∧ (∀ c ∈ back, c.isDigit) ∧
      digits = back.filterMap digit? := by
  unfold takeFraction at h
  split at h
  · obtain ⟨back, rfl, inside, eq⟩ := of_takeDigits h
    exact .inr ⟨back, rfl, inside, eq⟩
  · cases h
    exact .inl ⟨rfl, rfl⟩

theorem not_isDigit_of_exponent {e : Int} (h : Exponent t e) :
    ∀ c ∈ t.head?, c.isDigit = false ∧ c ≠ '.' := by
  intro c mem
  cases h with
  | none => cases mem
  | some marked =>
    cases mem
    rcases marked with rfl | rfl <;> decide

theorem not_isSign_of_isDigit {c : Char} (h : c.isDigit) : c ≠ '+' ∧ c ≠ '-' := by
  constructor <;> rintro rfl <;> cases h

theorem unsigned_of_digits (inside : ∀ c ∈ t, c.isDigit) : ∀ c ∈ t.head?, c ≠ '+' ∧ c ≠ '-' :=
  fun c mem => not_isSign_of_isDigit (inside c (List.mem_of_mem_head? mem))

theorem exponent?_eq_some_iff {e : Int} : exponent? t = some e ↔ Exponent t e := by
  constructor
  · intro read
    cases t with
    | nil =>
      cases read
      exact .none
    | cons mark t =>
      rw [exponent?] at read
      split at read
      · rename_i marked
        rcases split : takeSign t with ⟨negative, rest⟩
        obtain ⟨sign, rfl, signs⟩ := of_takeSign split
        rw [split] at read
        rcases taken : takeDigits rest with ⟨digits, left⟩
        obtain ⟨front, rfl, inside, rfl⟩ := of_takeDigits taken
        simp only [taken] at read
        split at read
        · cases read
        · rename_i none found
          obtain ⟨rfl, rfl⟩ := Prod.mk.inj found
          cases read
          have some : front ≠ [] := by
            rintro rfl
            exact none rfl
          rw [List.append_nil]
          exact .some marked signs some inside
        · cases read
      · cases read
  · intro ended
    cases ended with
    | none => rfl
    | @some mark sign t negative marked signs some inside =>
      obtain ⟨d, digits, values⟩ := List.exists_cons_of_ne_nil (digits_ne_nil some inside)
      rw [exponent?, if_pos marked, takeSign_of signs (unsigned_of_digits inside)]
      simp only [takeDigits_all inside, values]

/-- A mantissa begins without a sign, and is read as far as it goes. -/
theorem read_mantissa {body tail : Text} {whole fraction : List Nat} {e : Int}
    (mantissa : Mantissa body whole fraction) (ended : Exponent tail e) :
    (∀ c ∈ (body ++ tail).head?, c ≠ '+' ∧ c ≠ '-') ∧
      ∃ left, takeDigits (body ++ tail) = (whole, left) ∧ takeFraction left = (fraction, tail) ∧
        (whole.isEmpty && fraction.isEmpty) = false := by
  have outside := not_isDigit_of_exponent ended
  cases mantissa with
  | whole some inside =>
    have left : takeFraction tail = ([], tail) := by
      unfold takeFraction
      split
      · exact absurd rfl (outside '.' rfl).2
      · rfl
    have read := digits_ne_nil some inside
    obtain ⟨c, t, rfl⟩ := List.exists_cons_of_ne_nil some
    refine ⟨?_, tail, takeDigits_of inside fun c mem => (outside c mem).1, left, ?_⟩
    · rintro _ ⟨⟩
      exact not_isSign_of_isDigit (inside c List.mem_cons_self)
    · simpa using read
  | @pointed front back some inside inside' =>
    rw [List.append_assoc, List.cons_append]
    have taken : takeDigits (front ++ '.' :: (back ++ tail)) =
        (front.filterMap digit?, '.' :: (back ++ tail)) := by
      refine takeDigits_of inside ?_
      rintro _ ⟨⟩
      rfl
    refine ⟨?_, _, taken, takeDigits_of inside' fun c mem => (outside c mem).1, ?_⟩
    · intro c mem
      cases front with
      | nil =>
        cases mem
        decide
      | cons d front =>
        cases mem
        exact not_isSign_of_isDigit (inside c List.mem_cons_self)
    · rw [Bool.and_eq_false_iff, List.isEmpty_eq_false_iff, List.isEmpty_eq_false_iff]
      rcases some with some | some
      · exact .inl (digits_ne_nil some inside)
      · exact .inr (digits_ne_nil some inside')

theorem parse?_eq_some_iff {n : Numeral} : parse? t = some n ↔ Spelled t n := by
  constructor
  · intro read
    rcases split : takeSign t with ⟨negative, rest⟩
    obtain ⟨sign, rfl, signs⟩ := of_takeSign split
    rcases taken : takeDigits rest with ⟨whole, behind⟩
    obtain ⟨front, rfl, inside, rfl⟩ := of_takeDigits taken
    rcases taken' : takeFraction behind with ⟨fraction, tail⟩
    simp only [parse?, split, taken, taken'] at read
    split at read
    · cases read
    · rename_i some
      cases ended : exponent? tail with
      | none =>
        rw [ended] at read
        cases read
      | some e =>
        rw [ended] at read
        cases read
        have ended := exponent?_eq_some_iff.1 ended
        obtain ⟨rfl, rfl⟩ | ⟨back, rfl, inside', rfl⟩ := of_takeFraction taken'
        · refine .mk signs (.whole ?_ inside) ended
          rintro rfl
          exact some rfl
        · have either : front ≠ [] ∨ back ≠ [] := by
            by_cases empty : front = []
            · subst empty
              refine .inr ?_
              rintro rfl
              exact some rfl
            · exact .inl empty
          have spelled := Spelled.mk signs (.pointed either inside inside') ended
          rwa [List.append_assoc, List.cons_append] at spelled
  · intro spelled
    cases spelled with
    | mk signs mantissa ended =>
      obtain ⟨unsigned, left, taken, taken', some⟩ := read_mantissa mantissa ended
      simp only [parse?, takeSign_of signs unsigned, taken, taken', some, Bool.false_eq_true,
        if_false, exponent?_eq_some_iff.2 ended, Option.map_some]

end Reading

end RowStream.Numeral
