import RowStream.Source.Basic

/-! The body of a response, in the pieces that it is cut into by the client which receives it. -/
namespace RowStream

/-- What a step of a body is worth: its bytes, and one for the piece. -/
def pieceWeight : Except SourceFault (Option Bytes) → Nat
  | .ok (some piece) => piece.length + 1
  | _ => 0

/-- A client that receives responses and cuts their bodies into pieces of a size asked for. A body
ends, as its steps are worth no more than `size` counts. -/
class ResponseClient where
  Response : Type
  /-- A response with its body loaded already. -/
  loaded : (data : Bytes) → (pieceSize : Int) → Response
  /-- A response with its body still on its way, in chunks. -/
  streamed : (chunks : List Bytes) → (pieceSize : Int) → Response
  /-- The next piece of the body, or none at its end. -/
  next : Response → Except SourceFault (Option Bytes) × Response
  close : Response → Response
  isClosed : Response → Bool
  size : Response → Nat
  size_next : ∀ r, pieceWeight (next r).1 + size (next r).2 ≤ size r

theorem ResponseClient.size_of_next [ResponseClient] {r r' : ResponseClient.Response}
    {step : Except SourceFault (Option Bytes)} (given : next r = (step, r')) :
    pieceWeight step + size r' ≤ size r := by
  have := size_next r
  rwa [given] at this

/-- A response that is read. Nothing more is given once it is finished. -/
structure ResponseSource [ResponseClient] where
  response : ResponseClient.Response
  finished : Bool

namespace ResponseSource

variable [ResponseClient]

def size (s : ResponseSource) : Nat := ResponseClient.size s.response

/-- The next piece that holds anything. -/
def nextPiece (r : ResponseClient.Response) : Except SourceFault Bytes × ResponseSource :=
  match given : ResponseClient.next r with
  | (.error fault, r) => (.error fault, ⟨r, false⟩)
  | (.ok none, r) => (.ok [], ⟨r, true⟩)
  | (.ok (some (b :: piece)), r) => (.ok (b :: piece), ⟨r, false⟩)
  | (.ok (some []), next) =>
    have : ResponseClient.size next < ResponseClient.size r := by
      have := ResponseClient.size_of_next given
      simp only [pieceWeight] at this
      omega
    nextPiece next
termination_by ResponseClient.size r

theorem size_nextPiece (r : ResponseClient.Response) :
    (delivered (nextPiece r).1).length + size (nextPiece r).2 ≤ ResponseClient.size r := by
  fun_induction nextPiece r with
  | case1 r _ _ given | case2 r _ given | case3 r _ _ _ given =>
    have := ResponseClient.size_of_next given
    simp only [pieceWeight, delivered, size, List.length_nil] at this ⊢
    omega
  | case4 r next given smaller ih => omega

def read (s : ResponseSource) : Except SourceFault Bytes × ResponseSource :=
  if s.finished then (.ok [], s) else nextPiece s.response

instance : Source ResponseSource where
  read := read
  close s := (.ok (), ⟨ResponseClient.close s.response, true⟩)
  size := size
  size_read s := by
    simp only [read]
    split
    · simp [delivered]
    · exact size_nextPiece s.response

end ResponseSource

end RowStream
