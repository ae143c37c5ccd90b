import RowStream.Proofs.Success
import RowStream.Text.Utf8

/-! Texts are read back from their octets. -/
namespace RowStream.Utf8

/-- One octet for ASCII; otherwise all octets are above ASCII. -/
theorem utf8EncodeChar_cases (c : Char) :
    (c.toNat < 0x80 ∧ String.utf8EncodeChar c = [UInt8.ofNat c.toNat]) ∨
      (0x80 ≤ c.toNat ∧ ∀ b ∈ String.utf8EncodeChar c, 0x80 ≤ b) := by
  have value : c.val.toNat = c.toNat := rfl
  simp only [String.utf8EncodeChar, value]
  by_cases ascii : c.toNat ≤ 0x7f
  · rw [if_pos ascii]
    exact .inl ⟨by omega, rfl⟩
  · rw [if_neg ascii]
    refine .inr ⟨by omega, ?_⟩
    intro b mem
    rw [UInt8.le_iff_toNat_le]
    split at mem
    · simp only [List.mem_cons, List.not_mem_nil, or_false] at mem
      rcases mem with rfl | rfl <;> simp <;> omega
    · split at mem
      · simp only [List.mem_cons, List.not_mem_nil, or_false] at mem
        rcases mem with rfl | rfl | rfl <;> simp <;> omega
      · simp only [List.mem_cons, List.not_mem_nil, or_false] at mem
        rcases mem with rfl | rfl | rfl | rfl <;> simp <;> omega

theorem ofNat_toNat_eq_iff {c d : Char} (ascii : c.toNat < 0x80) (ascii' : d.toNat < 0x80) :
    UInt8.ofNat c.toNat = UInt8.ofNat d.toNat ↔ c = d := by
  have value {c : Char} (ascii : c.toNat < 0x80) : (UInt8.ofNat c.toNat).toNat = c.toNat := by
    simp
    omega
  rw [← UInt8.toNat_inj, value ascii, value ascii', Char.toNat_inj]

theorem lead_two {x : Nat} (h : 2 ≤ x ∧ x < 32) : lead (UInt8.ofNat (x + 0xc0)) =
    some ⟨UInt8.ofNat (x + 0xc0), 1, 1, 0x80, 0xbf, x⟩ := by
  have all : ∀ x < 32, 2 ≤ x → lead (UInt8.ofNat (x + 0xc0)) =
    some ⟨UInt8.ofNat (x + 0xc0), 1, 1, 0x80, 0xbf, x⟩ := by decide
  exact all x h.2 h.1

theorem lead_three {x : Nat} (h : x < 16) : lead (UInt8.ofNat (x + 0xe0)) =
    some ⟨UInt8.ofNat (x + 0xe0), 1, 2, if x = 0 then 0xa0 else 0x80,
      if x = 13 then 0x9f else 0xbf, x⟩ := by
  have all : ∀ x < 16, lead (UInt8.ofNat (x + 0xe0)) =
    some ⟨UInt8.ofNat (x + 0xe0), 1, 2, if x = 0 then 0xa0 else 0x80,
      if x = 13 then 0x9f else 0xbf, x⟩ := by decide
  exact all x h

theorem lead_four {x : Nat} (h : x < 5) : lead (UInt8.ofNat (x + 0xf0)) =
    some ⟨UInt8.ofNat (x + 0xf0), 1, 3, if x = 0 then 0x90 else 0x80,
      if x = 4 then 0x8f else 0xbf, x⟩ := by
  have all : ∀ x < 5, lead (UInt8.ofNat (x + 0xf0)) =
    some ⟨UInt8.ofNat (x + 0xf0), 1, 3, if x = 0 then 0x90 else 0x80,
      if x = 4 then 0x8f else 0xbf, x⟩ := by decide
  exact all x h

theorem decodeFrom_lead {x : Nat} {s : Sequence} (large : 0x80 ≤ x ∧ x < 0x100)
    (h : lead (UInt8.ofNat x) = some s) (n : Nat) (rest : Bytes) :
    decodeFrom n none (UInt8.ofNat x :: rest) = decodeFrom n (some s) rest := by
  have above : ¬ UInt8.ofNat x < 0x80 := by
    rw [UInt8.lt_iff_toNat_lt]
    simp
    omega
  rw [decodeFrom, if_neg above, h]

/-- A following octet adds its six bits. -/
theorem decodeFrom_tail {s : Sequence} {x : Nat} (small : x < 64) (low : s.low.toNat ≤ x + 0x80)
    (high : x + 0x80 ≤ s.high.toNat) (n : Nat) (rest : Bytes) :
    decodeFrom n (some s) (UInt8.ofNat (x + 0x80) :: rest) =
      if s.due ≤ 1 then
        (Char.ofNat (s.bits * 64 + x) :: ·) <$> decodeFrom (n + s.taken + 1) none rest
      else decodeFrom n (some ⟨s.first, s.taken + 1, s.due - 1, 0x80, 0xbf, s.bits * 64 + x⟩)
        rest := by
  have octet : (UInt8.ofNat (x + 0x80)).toNat = x + 0x80 := by
    simp
    omega
  have within : (s.low ≤ UInt8.ofNat (x + 0x80) && UInt8.ofNat (x + 0x80) ≤ s.high) = true := by
    simp only [UInt8.le_iff_toNat_le, octet, low, high, decide_true, Bool.and_self]
  rw [decodeFrom, within, octet, Nat.add_sub_cancel]
  rfl

/-- After the lead of three octets, short spellings and surrogates are outside the range. -/
theorem second_three {v : Nat} (above : 0x7ff < v) (below : v ≤ 0xffff)
    (valid : v < 0xd800 ∨ 0xdfff < v) :
    (if v / 4096 % 0x10 = 0 then (0xa0 : UInt8) else 0x80).toNat ≤ v / 64 % 0x40 + 0x80 ∧
      v / 64 % 0x40 + 0x80 ≤ (if v / 4096 % 0x10 = 13 then (0x9f : UInt8) else 0xbf).toNat := by
  constructor
  · split
    · change 0xa0 ≤ _
      omega
    · exact Nat.le_add_left 0x80 _
  · split
    · change _ ≤ 0x9f
      omega
    · change _ ≤ 0xbf
      omega

/-- After the lead of four octets, short spellings and numbers too large are outside the range. -/
theorem second_four {v : Nat} (above : 0xffff < v) (below : v < 0x110000) :
    (if v / 262144 % 0x08 = 0 then (0x90 : UInt8) else 0x80).toNat ≤ v / 4096 % 0x40 + 0x80 ∧
      v / 4096 % 0x40 + 0x80 ≤ (if v / 262144 % 0x08 = 4 then (0x8f : UInt8) else 0xbf).toNat := by
  constructor
  · split
    · change 0x90 ≤ _
      omega
    · exact Nat.le_add_left 0x80 _
  · split
    · change _ ≤ 0x8f
      omega
    · change _ ≤ 0xbf
      omega

/-- The octets of a character are read as that character. -/
theorem decodeFrom_utf8EncodeChar (n : Nat) (c : Char) (rest : Bytes) :
    ∃ m, decodeFrom n none (String.utf8EncodeChar c ++ rest) =
      (c :: ·) <$> decodeFrom m none rest := by
  have value : c.val.toNat = c.toNat := rfl
  have valid : c.toNat < 0xd800 ∨ (0xdfff < c.toNat ∧ c.toNat < 0x110000) := c.valid
  have same : Char.ofNat c.toNat = c := Char.ofNat_toNat c
  simp only [String.utf8EncodeChar, value]
  generalize c.toNat = v at valid same
  by_cases one : v ≤ 0x7f
  · have octet : (UInt8.ofNat v).toNat = v := by
      simp
      omega
    have ascii : UInt8.ofNat v < 0x80 := by
      rw [UInt8.lt_iff_toNat_lt, octet]
      exact Nat.lt_succ_of_le one
    rw [if_pos one, List.singleton_append, decodeFrom, if_pos ascii, octet, same]
    exact ⟨_, rfl⟩
  · rw [if_neg one]
    by_cases two : v ≤ 0x7ff
    · have bits : v / 64 % 0x20 * 64 + v % 0x40 = v := by omega
      rw [if_pos two, List.cons_append, List.singleton_append,
        decodeFrom_lead (by omega) (lead_two (by omega)),
        decodeFrom_tail (by omega) (by simp) (by simp; omega), if_pos (Nat.le_refl 1), bits, same]
      exact ⟨_, rfl⟩
    · rw [if_neg two]
      by_cases three : v ≤ 0xffff
      · have bits : (v / 4096 % 0x10 * 64 + v / 64 % 0x40) * 64 + v % 0x40 = v := by omega
        obtain ⟨low, high⟩ := second_three (by omega) three (by omega)
        rw [if_pos three, List.cons_append, List.cons_append, List.singleton_append,
          decodeFrom_lead (by omega) (lead_three (by omega)),
          decodeFrom_tail (by omega) low high, if_neg (by simp),
          decodeFrom_tail (by omega) (by simp) (by simp; omega), if_pos (by simp), bits, same]
        exact ⟨_, rfl⟩
      · have bits : ((v / 262144 % 0x08 * 64 + v / 4096 % 0x40) * 64 + v / 64 % 0x40) * 64 +
            v % 0x40 = v := by omega
        obtain ⟨low, high⟩ := second_four (v := v) (by omega) (by omega)
        rw [if_neg three, List.cons_append, List.cons_append, List.cons_append,
          List.singleton_append, decodeFrom_lead (by omega) (lead_four (by omega)),
          decodeFrom_tail (by omega) low high, if_neg (by simp),
          decodeFrom_tail (by omega) (by simp) (by simp; omega), if_neg (by simp),
          decodeFrom_tail (by omega) (by simp) (by simp; omega), if_pos (by simp), bits, same]
        exact ⟨_, rfl⟩

theorem decodeFrom_encode (n : Nat) (t : Text) : decodeFrom n none (encode t) = .ok t := by
  induction t generalizing n with
  | nil => rfl
  | cons c t ih =>
    obtain ⟨m, first⟩ := decodeFrom_utf8EncodeChar n c (encode t)
    rw [encode, List.flatMap_cons]
    rw [encode] at first ih
    rw [first, ih]
    rfl

@[simp] theorem decode_encode (t : Text) : decode (encode t) = .ok t := decodeFrom_encode 0 t

/-- The octets of a character that is given by its number. -/
theorem utf8EncodeChar_ofNat {v : Nat} (valid : v.isValidChar) :
    String.utf8EncodeChar (Char.ofNat v) =
      if v ≤ 0x7f then [UInt8.ofNat v]
      else if v ≤ 0x7ff then [UInt8.ofNat (v / 64 % 0x20 + 0xc0), UInt8.ofNat (v % 0x40 + 0x80)]
      else if v ≤ 0xffff then [UInt8.ofNat (v / 4096 % 0x10 + 0xe0),
        UInt8.ofNat (v / 64 % 0x40 + 0x80), UInt8.ofNat (v % 0x40 + 0x80)]
      else [UInt8.ofNat (v / 262144 % 0x08 + 0xf0), UInt8.ofNat (v / 4096 % 0x40 + 0x80),
        UInt8.ofNat (v / 64 % 0x40 + 0x80), UInt8.ofNat (v % 0x40 + 0x80)] := by
  have value : (Char.ofNat v).val.toNat = v := by
    rw [Char.ofNat, dif_pos valid]
    rfl
  simp only [String.utf8EncodeChar, value]

theorem ofNat_of_toNat_eq {b : UInt8} {v : Nat} (h : v = b.toNat) : UInt8.ofNat v = b := by
  rw [h, UInt8.ofNat_toNat]

/-- What a leading octet begins, with its octets as numbers. -/
theorem lead_cases {b : UInt8} {s : Sequence} (h : lead b = some s) :
    (0xc2 ≤ b.toNat ∧ b.toNat ≤ 0xdf ∧ s = ⟨b, 1, 1, 0x80, 0xbf, b.toNat - 0xc0⟩) ∨
    (0xe0 ≤ b.toNat ∧ b.toNat ≤ 0xef ∧ ∃ low high, s = ⟨b, 1, 2, low, high, b.toNat - 0xe0⟩ ∧
      low.toNat = (if b.toNat = 0xe0 then 0xa0 else 0x80) ∧
      high.toNat = (if b.toNat = 0xed then 0x9f else 0xbf)) ∨
    (0xf0 ≤ b.toNat ∧ b.toNat ≤ 0xf4 ∧ ∃ low high, s = ⟨b, 1, 3, low, high, b.toNat - 0xf0⟩ ∧
      low.toNat = (if b.toNat = 0xf0 then 0x90 else 0x80) ∧
      high.toNat = (if b.toNat = 0xf4 then 0x8f else 0xbf)) := by
  have same (k : UInt8) : b = k ↔ b.toNat = k.toNat := UInt8.toNat_inj.symm
  simp only [lead, Bool.and_eq_true, decide_eq_true_eq, UInt8.le_iff_toNat_le, same] at h
  split at h
  · rename_i inside
    cases h
    exact .inl ⟨inside.1, inside.2, rfl⟩
  · split at h
    · rename_i inside
      cases h
      refine .inr (.inl ⟨inside.1, inside.2, _, _, rfl, ?_, ?_⟩)
      · exact apply_ite UInt8.toNat _ _ _
      · exact apply_ite UInt8.toNat _ _ _
    · split at h
      · rename_i inside
        cases h
        refine .inr (.inr ⟨inside.1, inside.2, _, _, rfl, ?_, ?_⟩)
        · exact apply_ite UInt8.toNat _ _ _
        · exact apply_ite UInt8.toNat _ _ _
      · cases h

section Octets

variable {b b₁ b₂ b₃ : UInt8}

theorem utf8EncodeChar_one (ascii : b.toNat < 0x80) :
    String.utf8EncodeChar (Char.ofNat b.toNat) = [b] := by
  rw [utf8EncodeChar_ofNat (.inl (by omega)), if_pos (by omega), UInt8.ofNat_toNat]

theorem utf8EncodeChar_two (first : 0xc2 ≤ b.toNat ∧ b.toNat ≤ 0xdf)
    (second : 0x80 ≤ b₁.toNat ∧ b₁.toNat ≤ 0xbf) :
    String.utf8EncodeChar (Char.ofNat ((b.toNat - 0xc0) * 64 + (b₁.toNat - 0x80))) = [b, b₁] := by
  rw [utf8EncodeChar_ofNat (.inl (by omega)), if_neg (by omega), if_pos (by omega),
    ofNat_of_toNat_eq (b := b) (by omega), ofNat_of_toNat_eq (b := b₁) (by omega)]

/-- The range of the second octet keeps out short spellings and surrogates. -/
theorem utf8EncodeChar_three (first : 0xe0 ≤ b.toNat ∧ b.toNat ≤ 0xef)
    (low : (if b.toNat = 0xe0 then 0xa0 else 0x80) ≤ b₁.toNat)
    (high : b₁.toNat ≤ if b.toNat = 0xed then 0x9f else 0xbf)
    (third : 0x80 ≤ b₂.toNat ∧ b₂.toNat ≤ 0xbf) :
    String.utf8EncodeChar (Char.ofNat (((b.toNat - 0xe0) * 64 + (b₁.toNat - 0x80)) * 64 +
      (b₂.toNat - 0x80))) = [b, b₁, b₂] := by
  obtain ⟨v, eq⟩ : ∃ v, v = ((b.toNat - 0xe0) * 64 + (b₁.toNat - 0x80)) * 64 + (b₂.toNat - 0x80) :=
    ⟨_, rfl⟩
  have second : 0x80 ≤ b₁.toNat ∧ b₁.toNat ≤ 0xbf := by
    split at low <;> split at high <;> omega
  have range : 0x7ff < v ∧ v ≤ 0xffff ∧ (v < 0xd800 ∨ 0xdfff < v) := by
    split at low <;> split at high <;> omega
  have valid : v.isValidChar := by
    rcases range.2.2 with before | after
    · exact .inl before
    · exact .inr ⟨after, by omega⟩
  rw [← eq, utf8EncodeChar_ofNat valid, if_neg (by omega), if_neg (by omega), if_pos range.2.1,
    ofNat_of_toNat_eq (b := b) (by omega), ofNat_of_toNat_eq (b := b₁) (by omega),
    ofNat_of_toNat_eq (b := b₂) (by omega)]

/-- The range of the second octet keeps out short spellings and numbers too large. -/
theorem utf8EncodeChar_four (first : 0xf0 ≤ b.toNat ∧ b.toNat ≤ 0xf4)
    (low : (if b.toNat = 0xf0 then 0x90 else 0x80) ≤ b₁.toNat)
    (high : b₁.toNat ≤ if b.toNat = 0xf4 then 0x8f else 0xbf)
    (third : 0x80 ≤ b₂.toNat ∧ b₂.toNat ≤ 0xbf) (fourth : 0x80 ≤ b₃.toNat ∧ b₃.toNat ≤ 0xbf) :
    String.utf8EncodeChar (Char.ofNat ((((b.toNat - 0xf0) * 64 + (b₁.toNat - 0x80)) * 64 +
      (b₂.toNat - 0x80)) * 64 + (b₃.toNat - 0x80))) = [b, b₁, b₂, b₃] := by
  obtain ⟨v, eq⟩ : ∃ v, v = (((b.toNat - 0xf0) * 64 + (b₁.toNat - 0x80)) * 64 +
    (b₂.toNat - 0x80)) * 64 + (b₃.toNat - 0x80) := ⟨_, rfl⟩
  have second : 0x80 ≤ b₁.toNat ∧ b₁.toNat ≤ 0xbf := by
    split at low <;> split at high <;> omega
  have range : 0xffff < v ∧ v < 0x110000 := by
    split at low <;> split at high <;> omega
  rw [← eq, utf8EncodeChar_ofNat (.inr ⟨by omega, range.2⟩), if_neg (by omega), if_neg (by omega),
    if_neg (by omega), ofNat_of_toNat_eq (b := b) (by omega),
    ofNat_of_toNat_eq (b := b₁) (by omega), ofNat_of_toNat_eq (b := b₂) (by omega),
    ofNat_of_toNat_eq (b := b₃) (by omega)]

end Octets

section Reading

variable {n taken bits due : Nat} {first low high : UInt8} {bytes : Bytes} {t : Text}

/-- The last octet of a character is in its range. -/
theorem of_decodeFrom_last
    (h : decodeFrom n (some ⟨first, taken, 1, low, high, bits⟩) bytes = .ok t) :
    ∃ b rest m t', bytes = b :: rest ∧ low.toNat ≤ b.toNat ∧ b.toNat ≤ high.toNat ∧
      t = Char.ofNat (bits * 64 + (b.toNat - 0x80)) :: t' ∧ decodeFrom m none rest = .ok t' := by
  cases bytes with
  | nil => cases h
  | cons b rest =>
    rw [decodeFrom] at h
    split at h
    · rename_i inside
      simp only [Bool.and_eq_true, decide_eq_true_eq, UInt8.le_iff_toNat_le] at inside
      obtain ⟨t', read, rfl⟩ := Except.of_map_eq_ok h
      exact ⟨b, rest, _, t', rfl, inside.1, inside.2, rfl, read⟩
    · cases h

/-- So is every other, and another one follows. -/
theorem of_decodeFrom_more
    (h : decodeFrom n (some ⟨first, taken, due + 2, low, high, bits⟩) bytes = .ok t) :
    ∃ b rest, bytes = b :: rest ∧ low.toNat ≤ b.toNat ∧ b.toNat ≤ high.toNat ∧
      decodeFrom n (some ⟨first, taken + 1, due + 1, 0x80, 0xbf, bits * 64 + (b.toNat - 0x80)⟩)
        rest = .ok t := by
  cases bytes with
  | nil => cases h
  | cons b rest =>
    rw [decodeFrom] at h
    split at h
    · rename_i inside
      simp only [Bool.and_eq_true, decide_eq_true_eq, UInt8.le_iff_toNat_le] at inside
      refine ⟨b, rest, rfl, inside.1, inside.2, ?_⟩
      dsimp only at h
      rwa [if_neg (by omega)] at h
    · cases h

/-- A character is only read from its own octets. -/
theorem of_decodeFrom_cons {b : UInt8} (h : decodeFrom n none (b :: bytes) = .ok t) :
    ∃ m c rest t', t = c :: t' ∧ b :: bytes = String.utf8EncodeChar c ++ rest ∧
      decodeFrom m none rest = .ok t' := by
  rw [decodeFrom] at h
  split at h
  · rename_i ascii
    rw [UInt8.lt_iff_toNat_lt] at ascii
    obtain ⟨t', read, rfl⟩ := Except.of_map_eq_ok h
    exact ⟨_, _, bytes, t', rfl, by rw [utf8EncodeChar_one ascii]; rfl, read⟩
  · split at h
    · cases h
    · rename_i s begun
      obtain ⟨above, below, rfl⟩ | ⟨above, below, low, high, rfl, least, most⟩ |
        ⟨above, below, low, high, rfl, least, most⟩ := lead_cases begun
      · obtain ⟨b₁, rest, m, t', rfl, low₁, high₁, rfl, read⟩ := of_decodeFrom_last h
        refine ⟨m, _, rest, t', rfl, ?_, read⟩
        rw [utf8EncodeChar_two ⟨above, below⟩ ⟨low₁, high₁⟩]
        rfl
      · obtain ⟨b₁, rest, rfl, low₁, high₁, h⟩ := of_decodeFrom_more h
        obtain ⟨b₂, rest, m, t', rfl, low₂, high₂, rfl, read⟩ := of_decodeFrom_last h
        refine ⟨m, _, rest, t', rfl, ?_, read⟩
        rw [utf8EncodeChar_three ⟨above, below⟩ (least ▸ low₁) (most ▸ high₁) ⟨low₂, high₂⟩]
        rfl
      · obtain ⟨b₁, rest, rfl, low₁, high₁, h⟩ := of_decodeFrom_more h
        obtain ⟨b₂, rest, rfl, low₂, high₂, h⟩ := of_decodeFrom_more h
        obtain ⟨b₃, rest, m, t', rfl, low₃, high₃, rfl, read⟩ := of_decodeFrom_last h
        refine ⟨m, _, rest, t', rfl, ?_, read⟩
        rw [utf8EncodeChar_four ⟨above, below⟩ (least ▸ low₁) (most ▸ high₁) ⟨low₂, high₂⟩
          ⟨low₃, high₃⟩]
        rfl

theorem of_decodeFrom_eq_ok (h : decodeFrom n none bytes = .ok t) : bytes = encode t := by
  induction t generalizing n bytes with
  | nil =>
    cases bytes with
    | nil => rfl
    | cons b bytes =>
      obtain ⟨_, _, _, _, cons, -⟩ := of_decodeFrom_cons h
      cases cons
  | cons c t ih =>
    cases bytes with
    | nil => cases h
    | cons b bytes =>
      obtain ⟨m, c, rest, t', cons, eq, read⟩ := of_decodeFrom_cons h
      obtain ⟨rfl, rfl⟩ := List.cons.inj cons
      rw [eq, ih read, encode, encode, List.flatMap_cons]

end Reading

/-- Octets are read as a text exactly if they are its octets. -/
theorem decode_eq_ok_iff {bytes : Bytes} {t : Text} : decode bytes = .ok t ↔ bytes = encode t := by
  constructor
  · exact of_decodeFrom_eq_ok
  · rintro rfl
    exact decode_encode t

end RowStream.Utf8
