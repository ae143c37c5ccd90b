import RowStream.Calendar.Literal
import RowStream.Number.Numeral

/-! Numbers written in decimal digits, and read back. -/
namespace RowStream

namespace Text

/-- The text has only digits, any number of zeros in front, and denotes `n`. -/
structure Writes (t : Text) (n : Nat) : Prop where
  digits : ∀ c ∈ t, c.isDigit
  value : numberOf (t.filterMap digit?) = n

/-- A run ends where something else begins. -/
theorem takeWhile_of_stops {p : Char → Bool} {t rest : Text} (inside : ∀ c ∈ t, p c)
    (outside : ∀ c ∈ rest.head?, p c = false) :
    (t ++ rest).takeWhile p = t ∧ (t ++ rest).dropWhile p = rest := by
  rw [List.takeWhile_append_of_pos inside, List.dropWhile_append_of_pos inside]
  cases rest with
  | nil => simp
  | cons c rest =>
    have stops : p c = false := outside c rfl
    simp [stops]

theorem length_filterMap_digit? {t : Text} (h : ∀ c ∈ t, c.isDigit) :
    (t.filterMap digit?).length = t.length := by
  induction t with
  | nil => rfl
  | cons c t ih =>
    obtain ⟨digit, others⟩ := List.forall_mem_cons.1 h
    have first : digit? c = some (c.toNat - '0'.toNat) := if_pos digit
    rw [List.filterMap_cons_some first, List.length_cons, List.length_cons, ih others]

theorem filterMap_take {t : Text} (h : ∀ c ∈ t, c.isDigit) (n : Nat) :
    (t.take n).filterMap digit? = (t.filterMap digit?).take n := by
  induction t generalizing n with
  | nil => simp
  | cons c t ih =>
    obtain ⟨digit, others⟩ := List.forall_mem_cons.1 h
    have first : digit? c = some (c.toNat - '0'.toNat) := if_pos digit
    cases n with
    | zero => rfl
    | succ n =>
      rw [List.take_succ_cons, List.filterMap_cons_some first, List.filterMap_cons_some first,
        List.take_succ_cons, ih others]

theorem digit?_digitChar {d : Nat} (h : d < 10) : digit? d.digitChar = some d := by
  have all : ∀ d < 10, digit? (Nat.digitChar d) = some d := by decide
  exact all d h

@[simp] theorem numberOf_concat (digits : List Nat) (d : Nat) :
    numberOf (digits ++ [d]) = 10 * numberOf digits + d := by
  rw [numberOf, List.foldl_append]
  rfl

theorem ofNat_ne_nil (n : Nat) : ofNat n ≠ [] := Nat.toDigits_ne_nil

theorem isDigit_of_mem_ofNat {n : Nat} {c : Char} (h : c ∈ ofNat n) : c.isDigit :=
  Nat.isDigit_of_mem_toDigits (by decide) (by decide) h

theorem numberOf_ofNat (n : Nat) : numberOf ((ofNat n).filterMap digit?) = n := by
  induction n using Nat.strongRecOn with
  | ind n ih =>
    rw [ofNat, Nat.toDigits_eq_if (by decide)]
    by_cases small : n < 10
    · rw [if_pos small, List.filterMap_cons_some (digit?_digitChar small)]
      simp [numberOf]
    · have last : n % 10 < 10 := Nat.mod_lt n (by decide)
      rw [if_neg small, List.filterMap_append, List.filterMap_cons_some (digit?_digitChar last),
        List.filterMap_nil, numberOf_concat]
      have front := ih (n / 10) (by omega)
      rw [ofNat] at front
      omega

theorem writes_ofNat (n : Nat) : Writes (ofNat n) n :=
  ⟨fun _ => isDigit_of_mem_ofNat, numberOf_ofNat n⟩

theorem length_ofNat_le {n k : Nat} (h : n < Nat.pow 10 k) (wide : 0 < k) : (ofNat n).length ≤ k :=
  (Nat.length_toDigits_le_iff (by decide) wide).2 h

theorem isWritable_iff (i : Int) : isWritable i = true ↔ i.natAbs < Nat.pow 10 digitLimit :=
  decide_eq_true_iff

theorem Writes.zeros {t : Text} {n : Nat} (h : Writes t n) (k : Nat) :
    Writes (List.replicate k '0' ++ t) n := by
  induction k with
  | zero => exact h
  | succ k ih =>
    rw [List.replicate_succ, List.cons_append]
    constructor
    · exact List.forall_mem_cons.2 ⟨rfl, ih.digits⟩
    · exact ih.value

theorem writes_padded (width n : Nat) : Writes (padded width n) n :=
  (writes_ofNat n).zeros _

theorem length_padded {width n : Nat} (h : n < Nat.pow 10 width) (wide : 0 < width) :
    (padded width n).length = width := by
  have := length_ofNat_le h wide
  rw [padded, List.length_append, List.length_replicate]
  omega

theorem exists_digitChar {c : Char} (h : c.isDigit) : ∃ d < 10, c = Nat.digitChar d := by
  simp only [Char.isDigit, Bool.and_eq_true, decide_eq_true_eq, ge_iff_le, UInt32.le_iff_toNat_le]
    at h
  change 48 ≤ c.toNat ∧ c.toNat ≤ 57 at h
  have all : ∀ d < 10, Char.ofNat (d + 48) = Nat.digitChar d := by decide
  refine ⟨c.toNat - 48, by omega, ?_⟩
  rw [← all _ (by omega), Nat.sub_add_cancel h.1, Char.ofNat_toNat]

/-- The last digit counts once, and what stands before it ten times. -/
theorem Writes.of_concat {t : Text} {c : Char} {n : Nat} (h : Writes (t ++ [c]) n) :
    ∃ m d, Writes t m ∧ d < 10 ∧ c = Nat.digitChar d ∧ n = 10 * m + d := by
  obtain ⟨digits, value⟩ := h
  obtain ⟨d, low, rfl⟩ := exists_digitChar (digits c (by simp))
  refine ⟨_, d, ⟨fun c mem => digits c (List.mem_append_left _ mem), rfl⟩, low, rfl, ?_⟩
  rw [← value, List.filterMap_append, List.filterMap_cons_some (digit?_digitChar low),
    List.filterMap_nil, numberOf_concat]

theorem Writes.lt {t : Text} {n : Nat} (h : Writes t n) : n < Nat.pow 10 t.length := by
  obtain ⟨k, length⟩ : ∃ k, t.length = k := ⟨_, rfl⟩
  induction k generalizing t n with
  | zero =>
    obtain rfl := List.length_eq_zero_iff.1 length
    obtain rfl : 0 = n := h.value
    decide
  | succ k ih =>
    obtain rfl | ⟨front, c, rfl⟩ := List.eq_nil_or_concat t
    · cases length
    · rw [List.concat_eq_append] at h length ⊢
      obtain ⟨m, d, before, low, -, rfl⟩ := h.of_concat
      have small := ih before (by simpa using length)
      rw [List.length_append, List.length_singleton]
      change _ < Nat.pow 10 front.length * 10
      omega

/-- As many digits are written in one way only. -/
theorem Writes.unique {t u : Text} {n : Nat} (h : Writes t n) (h' : Writes u n)
    (length : t.length = u.length) : t = u := by
  obtain ⟨k, size⟩ : ∃ k, t.length = k := ⟨_, rfl⟩
  induction k generalizing t u n with
  | zero =>
    rw [List.length_eq_zero_iff.1 size, List.length_eq_zero_iff.1 (length.symm.trans size)]
  | succ k ih =>
    obtain rfl | ⟨front, c, rfl⟩ := List.eq_nil_or_concat t
    · cases size
    · obtain rfl | ⟨front', c', rfl⟩ := List.eq_nil_or_concat u
      · cases length.symm.trans size
      · simp only [List.concat_eq_append, List.length_append, List.length_singleton] at *
        obtain ⟨m, d, before, low, rfl, value⟩ := h.of_concat
        obtain ⟨m', d', before', low', rfl, value'⟩ := h'.of_concat
        obtain ⟨rfl, rfl⟩ : m = m' ∧ d = d' := by omega
        rw [ih before before' (by omega) (by omega)]

theorem Writes.eq_padded {t : Text} {n width : Nat} (h : Writes t n) (length : t.length = width)
    (wide : 0 < width) : t = padded width n := by
  subst length
  exact h.unique (writes_padded _ n) (length_padded h.lt wide).symm

end Text

namespace Calendar

theorem takeNumber?_append {t : Text} {n count : Nat} (h : t.Writes n)
    (length : t.length = count) (rest : Text) : takeNumber? count (t ++ rest) = some (n, rest) := by
  subst length
  rw [takeNumber?, List.take_left, List.drop_left]
  simp only [Text.length_filterMap_digit? h.digits, if_true, h.value]

end Calendar

end RowStream
