import RowStream.Source.Basic
import RowStream.Source.Tally

/-! All that a source gives before its end or its first failure, whatever the pieces. -/
namespace RowStream.Source

variable {σ : Type} [Source σ]

/-- The bytes given before the source ends or fails, and the failure if there is one. -/
def drain (s : σ) : Bytes × Option SourceFault :=
  match given : read s with
  | (.error fault, _) => ([], some fault)
  | (.ok [], _) => ([], none)
  | (.ok (b :: piece), s') =>
    have := size_lt_of_read given
    (b :: piece ++ (drain s').1, (drain s').2)
termination_by size s

theorem drain_of_error {s s' : σ} {fault : SourceFault} (h : read s = (.error fault, s')) :
    drain s = ([], some fault) := by
  rw [drain]
  split <;> simp_all

theorem drain_of_end {s s' : σ} (h : read s = (.ok [], s')) : drain s = ([], none) := by
  rw [drain]
  split <;> simp_all

theorem drain_of_piece {s s' : σ} {b : UInt8} {piece : Bytes}
    (h : read s = (.ok (b :: piece), s')) :
    drain s = (b :: piece ++ (drain s').1, (drain s').2) := by
  rw [drain]
  split <;> simp_all

end RowStream.Source

namespace RowStream

open Source

/-- What a script of pieces and failures comes to. An empty piece is the end already. -/
def ScriptSource.content : List (Except SourceFault Bytes) → Bytes × Option SourceFault
  | [] => ([], none)
  | .error fault :: _ => ([], some fault)
  | .ok [] :: _ => ([], none)
  | .ok (b :: piece) :: rest => (b :: piece ++ (content rest).1, (content rest).2)

theorem ScriptSource.drain_eq (script : List (Except SourceFault Bytes))
    (closeFails closed : Bool) :
    drain (⟨script, closeFails, closed⟩ : ScriptSource) = content script := by
  induction script with
  | nil => exact drain_of_end rfl
  | cons entry rest ih =>
    cases entry with
    | error fault => exact drain_of_error rfl
    | ok piece =>
      cases piece with
      | nil => exact drain_of_end rfl
      | cons b piece => rw [drain_of_piece rfl, ih, content]

theorem ScriptSource.content_pieces {pieces : List Bytes} (h : [] ∉ pieces) :
    content (pieces.map .ok) = (pieces.flatten, none) := by
  induction pieces with
  | nil => rfl
  | cons piece rest ih =>
    simp only [List.mem_cons, not_or] at h
    obtain ⟨b, piece, rfl⟩ := List.exists_cons_of_ne_nil (Ne.symm h.1)
    rw [List.map_cons, content, ih h.2, List.flatten_cons]

theorem ChunkSource.drain_eq (pending : List Bytes) :
    drain (⟨pending⟩ : ChunkSource) = (pending.flatten, none) := by
  induction pending with
  | nil => exact drain_of_end rfl
  | cons chunk rest ih =>
    cases chunk with
    | nil =>
      -- an empty chunk is passed over by the very same read
      rw [drain] at ih ⊢
      exact ih
    | cons b piece =>
      have first : drain (⟨(b :: piece) :: rest⟩ : ChunkSource) =
          (b :: piece ++ (drain (⟨rest⟩ : ChunkSource)).1, (drain (⟨rest⟩ : ChunkSource)).2) :=
        drain_of_piece rfl
      rw [first, ih, List.flatten_cons]

theorem Tally.read_of_read {σ : Type} [Source σ] {s s' : σ} {result : Except SourceFault Bytes}
    (h : Source.read s = (result, s')) (count : Nat) :
    Source.read (⟨s, count⟩ : Tally σ) = (result, ⟨s', count + (delivered result).length⟩) := by
  change Tally.read _ = _
  rw [Tally.read, h]

theorem Tally.drain_eq {σ : Type} [Source σ] (s : σ) (count : Nat) :
    drain (⟨s, count⟩ : Tally σ) = drain s := by
  fun_induction drain s generalizing count with
  | case1 s fault s' given => exact drain_of_error (read_of_read given count)
  | case2 s s' given => exact drain_of_end (read_of_read given count)
  | case3 s b piece s' given _ ih => rw [drain_of_piece (read_of_read given count), ih]

end RowStream
