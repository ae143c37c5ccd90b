import RowStream.Source.Basic

/-! The bytes of an open file. -/
namespace RowStream

/-- Where the bytes of a file are. -/
inductive Medium where
  | memory
  | disk
  deriving DecidableEq, Repr

namespace Medium

/-- Sizes are indices of 64 bits. -/
def isIndex (size : Int) : Bool :=
  -(Nat.pow 2 63 : Int) ≤ size && size < (Nat.pow 2 63 : Int)

/-- The largest piece there is: an index with room left for the piece's header and end mark. -/
def largestPiece : Int := (Nat.pow 2 63 : Int) - 34

/-- There is no memory for a piece of this size or a larger one. -/
def memoryLimit : Int := (Nat.pow 2 35 : Int)

/-- Why a read of so many bytes is refused. What is on disk is read into a piece of that size, and
of the negative sizes only one has a meaning. -/
def refusal? (m : Medium) (size : Int) : Option SourceFault :=
  if !isIndex size then some .sizeBeyondIndex
  else
    match m with
    | .memory => none
    | .disk =>
      if size < -1 then some .negativeSize
      else if largestPiece < size then some .pieceTooLarge
      else if memoryLimit ≤ size then some .outOfMemory
      else none

end Medium

structure FileSource where
  medium : Medium
  rest : Bytes
  pieceSize : Int
  closed : Bool
  deriving DecidableEq, Repr

namespace FileSource

def ofBytes (medium : Medium) (content : Bytes) (pieceSize : Int) : FileSource :=
  ⟨medium, content, pieceSize, false⟩

/-- A negative size takes everything. -/
def read (s : FileSource) : Except SourceFault Bytes × FileSource :=
  match s.medium.refusal? s.pieceSize with
  | some fault => (.error fault, s)
  | none =>
    if s.closed then (.error .closed, s)
    else if s.pieceSize < 0 then (.ok s.rest, { s with rest := [] })
    else
      let size := s.pieceSize.toNat
      (.ok (s.rest.take size), { s with rest := s.rest.drop size })

instance : Source FileSource where
  read := read
  close s := (.ok (), { s with closed := true })
  size s := s.rest.length
  size_read s := by
    simp only [read]
    split
    · simp [delivered]
    · split
      · simp [delivered]
      · split
        · simp [delivered]
        · simp [delivered]
          omega

end FileSource

end RowStream
