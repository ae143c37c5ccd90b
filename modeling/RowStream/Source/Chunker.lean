import RowStream.Source.Response

/-! A client that cuts the bodies of its responses into pieces of one size, whatever the chunks they
arrive in. -/
namespace RowStream

/-- A body that arrives in chunks. `ready` holds full pieces, `held` what is too short for one.
Nothing more is given once it is finished, which it may be before the response is closed. -/
structure BodyStream where
  chunks : List Bytes
  ready : List Bytes
  held : Bytes
  pieceSize : Int
  finished : Bool
  closed : Bool
  deriving DecidableEq, Repr

namespace BodyStream

/-- The full pieces of a positive size, and what is left over. -/
def cut (size : Nat) : (fuel : Nat) → Bytes → List Bytes × Bytes
  | 0, bytes => ([], bytes)
  | fuel + 1, bytes =>
    if bytes.length < size then ([], bytes)
    else
      let (pieces, rest) := cut size fuel (bytes.drop size)
      (bytes.take size :: pieces, rest)

/-- The worth of some pieces. -/
def weight (pieces : List Bytes) : Nat := pieces.flatten.length + pieces.length

@[simp] theorem weight_nil : weight [] = 0 := rfl

@[simp] theorem weight_cons (piece : Bytes) (pieces : List Bytes) :
    weight (piece :: pieces) = piece.length + 1 + weight pieces := by
  simp only [weight, List.flatten_cons, List.length_append, List.length_cons]
  omega

/-- Pieces that hold something are worth at most twice their bytes. -/
theorem weight_cut {size : Nat} (positive : 0 < size) (fuel : Nat) (bytes : Bytes) :
    weight (cut size fuel bytes).1 + 2 * (cut size fuel bytes).2.length ≤ 2 * bytes.length := by
  induction fuel generalizing bytes with
  | zero => simp [cut]
  | succ fuel ih =>
    simp only [cut]
    split
    · simp
    · have := ih (bytes.drop size)
      simp only [List.length_drop] at this
      simp only [weight_cons, List.length_take]
      omega

/-- The stream with nothing left to give. -/
def finish (s : BodyStream) (closed : Bool) : BodyStream :=
  { s with chunks := [], ready := [], held := [], finished := true, closed }

/-- Takes chunks in until there is a full piece. At the end of the body the response closes and
what is held is the last piece. -/
def fill (size : Nat) (s : BodyStream) : List Bytes → Option Bytes × BodyStream
  | [] => (if s.held.isEmpty then none else some s.held, s.finish true)
  | chunk :: rest =>
    let bytes := s.held ++ chunk
    match cut size bytes.length bytes with
    | (piece :: ready, held) => (some piece, { s with chunks := rest, ready, held })
    | ([], held) => fill size { s with held } rest

def size (s : BodyStream) : Nat := weight s.ready + 2 * (s.held.length + s.chunks.flatten.length)

theorem size_finish (s : BodyStream) (closed : Bool) : (s.finish closed).size = 0 := rfl

theorem size_fill {n : Nat} (positive : 0 < n) (s : BodyStream) (chunks : List Bytes) :
    pieceWeight (.ok (fill n s chunks).1) + (fill n s chunks).2.size
      ≤ 2 * (s.held.length + chunks.flatten.length) := by
  induction chunks generalizing s with
  | nil =>
    simp only [fill, size_finish]
    split
    · simp [pieceWeight]
    · have : s.held.length ≠ 0 := by simp_all
      simp only [pieceWeight]
      omega
  | cons chunk rest ih =>
    have cheap := weight_cut positive (s.held ++ chunk).length (s.held ++ chunk)
    simp only [fill]
    split
    · rename_i piece ready held pieces
      rw [pieces] at cheap
      simp only [pieceWeight, size, weight_cons, List.flatten_cons, List.length_append]
        at cheap ⊢
      omega
    · rename_i held pieces
      rw [pieces] at cheap
      have := ih { s with held }
      simp only [weight_nil, List.flatten_cons, List.length_append] at cheap this ⊢
      omega

/-- Without a piece size to cut by, the first bytes to come or the end of the body are a fault,
and nothing comes after it. -/
def unsized (s : BodyStream) : Except SourceFault (Option Bytes) × BodyStream :=
  (.error (if s.pieceSize = 0 then .emptyPieces else .negativePieces),
    s.finish (s.closed || s.chunks.all List.isEmpty))

def next (s : BodyStream) : Except SourceFault (Option Bytes) × BodyStream :=
  match s.ready with
  | piece :: ready => (.ok (some piece), { s with ready })
  | [] =>
    if s.finished then (.ok none, s)
    else if s.pieceSize < 1 then s.unsized
    else
      let (piece, s) := fill s.pieceSize.toNat s s.chunks
      (.ok piece, s)

theorem size_next (s : BodyStream) : pieceWeight s.next.1 + s.next.2.size ≤ s.size := by
  simp only [next]
  split
  · rename_i piece ready full
    simp only [pieceWeight, size, full, weight_cons]
    omega
  · split
    · simp [pieceWeight]
    · split
      · simp [pieceWeight, unsized, size_finish]
      · have := size_fill (n := s.pieceSize.toNat) (by omega) s s.chunks
        simp only [size] at this ⊢
        omega

end BodyStream

/-- A response: its body loaded already, which makes it a closed one, or still on its way. -/
inductive CutResponse where
  | loaded (pieces : List Bytes)
  | streamed (body : BodyStream)
  deriving DecidableEq, Repr

namespace CutResponse

/-- The part of `data` from one place up to another, which counts from the end if negative. -/
def slice (data : Bytes) (start : Nat) (stop : Int) : Bytes :=
  let stop := if stop < 0 then (data.length + stop).toNat else stop.toNat
  (data.take stop).drop start

/-- The pieces of a loaded body. A piece begins at every multiple of the size, or at every byte
where the size is not positive, and ends the size further on. -/
def pieces (data : Bytes) (pieceSize : Int) : List Bytes :=
  let stride := (max pieceSize 1).toNat
  (List.range ((data.length + stride - 1) / stride)).map fun i =>
    slice data (i * stride) ((i * stride : Nat) + pieceSize)

def next : CutResponse → Except SourceFault (Option Bytes) × CutResponse
  | .loaded [] => (.ok none, .loaded [])
  | .loaded (piece :: rest) => (.ok (some piece), .loaded rest)
  | .streamed body => (body.next.1, .streamed body.next.2)

def size : CutResponse → Nat
  | .loaded pieces => BodyStream.weight pieces
  | .streamed body => body.size

instance : ResponseClient where
  Response := CutResponse
  loaded data pieceSize := .loaded (pieces data pieceSize)
  streamed chunks pieceSize := .streamed ⟨chunks, [], [], pieceSize, false, false⟩
  next := next
  close
    | .loaded pieces => .loaded pieces
    | .streamed body => .streamed (body.finish true)
  isClosed
    | .loaded _ => true
    | .streamed body => body.closed
  size := size
  size_next
    | .loaded [] => by simp [next, size, pieceWeight]
    | .loaded (piece :: rest) => by simp [next, size, pieceWeight]
    | .streamed body => BodyStream.size_next body

end CutResponse

end RowStream
