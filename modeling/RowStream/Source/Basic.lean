import RowStream.Error

/-! Sources of bytes, read piece by piece. -/
namespace RowStream

/-- The bytes that a read gave. -/
def delivered : Except SourceFault Bytes → Bytes
  | .ok piece => piece
  | .error _ => []

/-- Something that gives its bytes in pieces. An empty piece marks the end. No more bytes are
given than `size` counts, which makes loops over reads end. -/
class Source (σ : Type) where
  read : σ → Except SourceFault Bytes × σ
  close : σ → Except SourceFault Unit × σ
  /-- What becomes of a source when the statement that it belongs to is closed. Most take no
  notice. -/
  statementClosed : σ → σ := id
  size : σ → Nat
  size_read : ∀ s, (delivered (read s).1).length + size (read s).2 ≤ size s

namespace Source

variable {σ : Type} [Source σ]

theorem size_lt_of_read {s s' : σ} {b : UInt8} {piece : Bytes}
    (h : read s = (.ok (b :: piece), s')) : size s' < size s := by
  have := size_read s
  simp only [h, delivered, List.length_cons] at this
  omega

end Source

/-! Bytes in memory, given in slices of one size. -/

/-- `taken` bytes are given already and `rest` are not. -/
structure MemorySource where
  taken : Nat
  rest : Bytes
  pieceSize : Int
  closed : Bool
  deriving DecidableEq, Repr

namespace MemorySource

def ofBytes (data : Bytes) (pieceSize : Int) : MemorySource := ⟨0, data, pieceSize, false⟩

/-- The length of the next slice. One that would end before the data starts ends that far before
the end of the data instead. -/
def sliceLength (s : MemorySource) : Nat :=
  if s.taken + s.pieceSize < 0 then (s.taken + s.rest.length + s.pieceSize).toNat
  else s.pieceSize.toNat

def read (s : MemorySource) : Except SourceFault Bytes × MemorySource :=
  if s.closed then (.ok [], s)
  else
    let piece := s.rest.take s.sliceLength
    (.ok piece, { s with taken := s.taken + piece.length, rest := s.rest.drop s.sliceLength })

instance : Source MemorySource where
  read := read
  close s := (.ok (), { s with closed := true })
  size s := s.rest.length
  size_read s := by
    simp only [read]
    split
    · simp [delivered]
    · simp [delivered]
      omega

end MemorySource

/-! Chunks that arrive one after the other, empty ones passed over. -/

structure ChunkSource where
  pending : List Bytes
  deriving DecidableEq, Repr

namespace ChunkSource

/-- The first chunk that holds anything, and the chunks after it. -/
def next : List Bytes → Bytes × List Bytes
  | [] => ([], [])
  | [] :: rest => next rest
  | chunk :: rest => (chunk, rest)

theorem length_next (chunks : List Bytes) :
    (next chunks).1.length + (next chunks).2.flatten.length ≤ chunks.flatten.length := by
  fun_induction next chunks with
  | case1 => simp
  | case2 rest ih => simpa using ih
  | case3 chunk rest _ => simp

instance : Source ChunkSource where
  read s := (.ok (next s.pending).1, ⟨(next s.pending).2⟩)
  close _ := (.ok (), ⟨[]⟩)
  size s := s.pending.flatten.length
  size_read s := by simpa [delivered] using length_next s.pending

end ChunkSource

/-! A source that follows a script of pieces and failures, whether closed or not. -/

structure ScriptSource where
  script : List (Except SourceFault Bytes)
  closeFails : Bool
  closed : Bool

namespace ScriptSource

def ofScript (script : List (Except SourceFault Bytes)) (closeFails : Bool) : ScriptSource :=
  ⟨script, closeFails, false⟩

def read (s : ScriptSource) : Except SourceFault Bytes × ScriptSource :=
  match s.script with
  | [] => (.ok [], s)
  | entry :: rest => (entry, { s with script := rest })

/-- The bytes that the entries of a script hold. -/
def scriptSize : List (Except SourceFault Bytes) → Nat
  | [] => 0
  | entry :: rest => (delivered entry).length + scriptSize rest

def size (s : ScriptSource) : Nat := scriptSize s.script

instance : Source ScriptSource where
  read := read
  close s := (if s.closeFails then .error .closeFailed else .ok (), { s with closed := true })
  size := size
  size_read s := by
    obtain ⟨script, closeFails, closed⟩ := s
    cases script <;> simp [read, size, scriptSize, delivered]

end ScriptSource

end RowStream
