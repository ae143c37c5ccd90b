import RowStream.Proofs.Response.Mapped
import RowStream.Source.Input

/-! What the slices of bytes in memory come to under each size, and the sizes that lose nothing. -/
namespace RowStream

theorem InputSource.preserves_memory [ResponseClient] : Source.Preserves InputSource.memory :=
  ⟨fun _ => rfl, fun _ => rfl, fun _ => rfl⟩

namespace MemorySource

open Source (drain)

variable {taken : Nat} {rest data : Bytes} {size : Int}

/-- How many bytes of so many are given. A size below one counts from the end: it gives slices of
the length that it leaves, as long as a byte is left behind each. -/
def served (length : Nat) (size : Int) : Nat :=
  if 0 < size then length
  else
    let slice := (length + size).toNat
    slice * ((length - 1) / slice)

theorem served_lt (small : size ≤ 0) {length : Nat} (some : 0 < length) :
    served length size < length := by
  have below := Nat.mul_div_le (length - 1) (length + size).toNat
  rw [served, if_neg (by omega)]
  dsimp only
  omega

theorem read_slice {slice : Nat} (length : sliceLength ⟨taken, rest, size, false⟩ = slice) :
    Source.read (⟨taken, rest, size, false⟩ : MemorySource) =
      (.ok (rest.take slice),
        ⟨taken + (rest.take slice).length, rest.drop slice, size, false⟩) := by
  subst length
  rfl

theorem drain_of_no_slice (none : sliceLength ⟨taken, rest, size, false⟩ = 0 ∨ rest = []) :
    drain (⟨taken, rest, size, false⟩ : MemorySource) = ([], Option.none) := by
  generalize length : sliceLength ⟨taken, rest, size, false⟩ = slice at none
  have given := read_slice length
  rw [List.take_eq_nil_iff.2 none] at given
  exact Source.drain_of_end given

/-- A slice of some length comes before all that the rest behind it comes to. -/
theorem drain_of_slice {slice : Nat} {fault : Option SourceFault} {more : Bytes}
    (length : sliceLength ⟨taken, rest, size, false⟩ = slice + 1) (some : rest ≠ [])
    (behind : drain (⟨taken + (rest.take (slice + 1)).length, rest.drop (slice + 1), size, false⟩ :
      MemorySource) = (more, fault)) :
    drain (⟨taken, rest, size, false⟩ : MemorySource) =
      (rest.take (slice + 1) ++ more, fault) := by
  have given := read_slice length
  obtain ⟨b, rest, rfl⟩ := List.exists_cons_of_ne_nil some
  rw [List.take_succ_cons] at given behind ⊢
  rw [Source.drain_of_piece given, behind]

theorem drain_of_pos (some : 0 < size) (taken : Nat) (rest : Bytes) :
    drain (⟨taken, rest, size, false⟩ : MemorySource) = (rest, none) := by
  induction length : rest.length using Nat.strongRecOn generalizing taken rest with
  | ind n ih =>
    by_cases empty : rest = []
    · rw [drain_of_no_slice (.inr empty), empty]
    · have left := List.length_pos_iff.2 empty
      have slice : sliceLength ⟨taken, rest, size, false⟩ = (size.toNat - 1) + 1 := by
        rw [sliceLength]
        dsimp only
        rw [if_neg (by omega)]
        omega
      rw [drain_of_slice slice empty (ih _ ?_ _ _ rfl), List.take_append_drop]
      rw [List.length_drop]
      omega

/-- The slices stop before the cut that the size makes, so that something stays behind. -/
theorem drain_of_nonpos (small : size ≤ 0) (taken : Nat) (rest : Bytes) {slice : Nat}
    (length : slice = (taken + rest.length + size).toNat) :
    drain (⟨taken, rest, size, false⟩ : MemorySource) =
      (rest.take (slice * ((rest.length - 1) / slice)), none) := by
  induction left : rest.length using Nat.strongRecOn generalizing taken rest with
  | ind n ih =>
    have sliced : sliceLength ⟨taken, rest, size, false⟩ =
        if taken + size < 0 then slice else 0 := by
      rw [sliceLength]
      dsimp only
      split
      · exact length.symm
      · omega
    by_cases past : slice = 0 ∨ ¬taken + size < 0
    · have none : sliceLength ⟨taken, rest, size, false⟩ = 0 := by
        rw [sliced]
        rcases past with past | past
        · rw [past, ite_self]
        · rw [if_neg past]
      have nothing : slice * ((n - 1) / slice) = 0 := by
        rcases past with past | past
        · rw [past, Nat.zero_mul]
        · by_cases empty : n = 0
          · rw [empty, Nat.zero_sub, Nat.zero_div, Nat.mul_zero]
          · rw [Nat.div_eq_of_lt (by omega), Nat.mul_zero]
      rw [drain_of_no_slice (.inl none), nothing, List.take_zero]
    · obtain ⟨within, before⟩ := not_or.1 past
      rw [Decidable.not_not] at before
      obtain ⟨k, rfl⟩ := Nat.exists_eq_succ_of_ne_zero within
      have some : rest ≠ [] := by
        rintro rfl
        rw [List.length_nil] at length
        omega
      have full : (rest.take (k + 1)).length = k + 1 := List.length_take_of_le (by omega)
      have shorter : (rest.drop (k + 1)).length = n - (k + 1) := by
        rw [List.length_drop, left]
      rw [if_pos before] at sliced
      rw [drain_of_slice sliced some (ih (n - (k + 1)) (by omega) _ _ (by omega) shorter),
        ← List.take_add]
      -- one slice less fits into what is left behind a slice
      have fewer : (n - 1) / (k + 1) = (n - (k + 1) - 1) / (k + 1) + 1 := by
        rw [show n - 1 = n - (k + 1) - 1 + (k + 1) by omega, Nat.add_div_right _ (by omega)]
      rw [fewer, Nat.mul_add, Nat.mul_one, Nat.add_comm (k + 1)]

@[simp] theorem drain_ofBytes (data : Bytes) (size : Int) :
    drain (ofBytes data size) = (data.take (served data.length size), none) := by
  by_cases some : 0 < size
  · rw [ofBytes, drain_of_pos some, served, if_pos some, List.take_length]
  · rw [ofBytes, drain_of_nonpos (by omega) 0 data rfl, served, if_neg some]
    simp

/-- Nothing is lost exactly under the sizes above zero. -/
theorem drain_eq_iff (data : Bytes) (size : Int) :
    drain (ofBytes data size) = (data, none) ↔ data = [] ∨ 0 < size := by
  rw [drain_ofBytes]
  constructor
  · intro whole
    by_cases kept : data = [] ∨ 0 < size
    · exact kept
    · obtain ⟨some, small⟩ := not_or.1 kept
      have fewer := served_lt (Int.not_lt.1 small) (List.length_pos_iff.2 some)
      have same := congrArg List.length (congrArg Prod.fst whole)
      dsimp only at same
      rw [List.length_take] at same
      omega
  · rintro (rfl | some)
    · rw [List.take_nil]
    · rw [served, if_pos some, List.take_length]

end MemorySource

end RowStream
