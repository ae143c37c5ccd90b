import RowStream.Source.Basic

/-! Sources that are watched: one counts the bytes that pass, the other writes down the calls. -/
namespace RowStream

structure Tally (σ : Type) where
  inner : σ
  bytesRead : Nat
  deriving DecidableEq, Repr

namespace Tally

variable {σ : Type} [Source σ]

def of (inner : σ) : Tally σ := ⟨inner, 0⟩

def read (s : Tally σ) : Except SourceFault Bytes × Tally σ :=
  let (result, inner) := Source.read s.inner
  (result, ⟨inner, s.bytesRead + (delivered result).length⟩)

def close (s : Tally σ) : Except SourceFault Unit × Tally σ :=
  let (result, inner) := Source.close s.inner
  (result, { s with inner })

instance : Source (Tally σ) where
  read := read
  close := close
  statementClosed s := { s with inner := Source.statementClosed s.inner }
  size s := Source.size s.inner
  size_read s := Source.size_read s.inner

end Tally

/-- A call of a source, with its answer, or of the statement that the source belongs to. -/
inductive Call where
  | read (answer : Except SourceFault Bytes)
  | close (answer : Except SourceFault Unit)
  | statement

def Call.isStatement : Call → Bool
  | .statement => true
  | .read _ | .close _ => false

/-- The calls are in the order in which they were made. -/
structure Watched (σ : Type) where
  inner : σ
  calls : List Call

namespace Watched

variable {σ : Type}

def of (inner : σ) : Watched σ := ⟨inner, []⟩

variable [Source σ]

def read (s : Watched σ) : Except SourceFault Bytes × Watched σ :=
  let (answer, inner) := Source.read s.inner
  (answer, ⟨inner, s.calls ++ [.read answer]⟩)

def close (s : Watched σ) : Except SourceFault Unit × Watched σ :=
  let (answer, inner) := Source.close s.inner
  (answer, ⟨inner, s.calls ++ [.close answer]⟩)

instance : Source (Watched σ) where
  read := read
  close := close
  statementClosed s := ⟨Source.statementClosed s.inner, s.calls ++ [.statement]⟩
  size s := Source.size s.inner
  size_read s := Source.size_read s.inner

theorem calls_read {s s' : Watched σ} {answer : Except SourceFault Bytes}
    (h : Source.read s = (answer, s')) : s'.calls = s.calls ++ [.read answer] := by
  change s.read = _ at h
  cases h
  rfl

@[simp] theorem calls_close (s : Watched σ) :
    (Source.close s).2.calls = s.calls ++ [.close (Source.close s.inner).1] := rfl

@[simp] theorem calls_statementClosed (s : Watched σ) :
    (Source.statementClosed s).calls = s.calls ++ [.statement] := rfl

end Watched

end RowStream
