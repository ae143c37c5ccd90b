import RowStream.Proofs.Response.Mapped
import RowStream.Source.Tally

/-! The calls that a reader makes of its source. -/
namespace RowStream

/-- What is seen of a source does not change when it is watched. -/
theorem Watched.preserves_inner {σ : Type} [Source σ] :
    Source.Preserves (inner : Watched σ → σ) := ⟨fun _ => rfl, fun _ => rfl, fun _ => rfl⟩

/-- Answers to reads that each gave a piece with something in it. -/
def Delivering (answers : List (Except SourceFault Bytes)) : Prop :=
  ∀ answer ∈ answers, ∃ b piece, answer = .ok (b :: piece)

/-- Nothing is read any more once a read has found the end or failed. -/
def Orderly (answers : List (Except SourceFault Bytes)) : Prop := Delivering answers.dropLast

theorem delivering_nil : Delivering [] := by
  intro answer mem
  cases mem

theorem Delivering.append {answers more : List (Except SourceFault Bytes)}
    (h : Delivering answers) (h' : Delivering more) : Delivering (answers ++ more) := by
  intro answer mem
  rcases List.mem_append.1 mem with mem | mem
  · exact h answer mem
  · exact h' answer mem

theorem Delivering.orderly {answers : List (Except SourceFault Bytes)} (h : Delivering answers) :
    Orderly answers := fun answer mem => h answer (List.dropLast_subset answers mem)

theorem Delivering.orderly_concat {answers : List (Except SourceFault Bytes)}
    (h : Delivering answers) (answer : Except SourceFault Bytes) :
    Orderly (answers ++ [answer]) := by
  rw [Orderly, List.dropLast_concat]
  exact h

namespace RecordReader

variable {σ : Type} {r : RecordReader (Watched σ)}

/-- So far the source was only read, and it may be read again unless the end was found. -/
def Going (r : RecordReader (Watched σ)) : Prop :=
  ∃ answers, Delivering answers ∧
    r.source.calls = (answers ++ if r.atEnd then [Except.ok []] else []).map .read

/-- So far the source was only read, and never once a read had found the end or failed. -/
def OnlyRead (r : RecordReader (Watched σ)) : Prop :=
  ∃ answers, Orderly answers ∧ r.source.calls = answers.map .read

theorem Going.onlyRead (h : r.Going) : r.OnlyRead := by
  obtain ⟨answers, delivering, calls⟩ := h
  refine ⟨_, ?_, calls⟩
  split
  · exact delivering.orderly_concat _
  · exact (delivering.append delivering_nil).orderly

theorem going_of (source : σ) : (RecordReader.of (Watched.of source)).Going :=
  ⟨[], delivering_nil, rfl⟩

/-- What a reader leaves its source in: it was only read, and after an answer without an error it
may be read on. -/
structure Reads {α : Type} (x : Except Error α × RecordReader (Watched σ)) : Prop where
  onlyRead : x.2.OnlyRead
  going : ∀ a, x.1 = .ok a → x.2.Going

namespace Reads

variable {α β : Type}

theorem stay (h : r.Going) (result : Except Error α) : Reads (result, r) :=
  ⟨h.onlyRead, fun _ _ => h⟩

theorem failed {result : Except Error α} (h : Reads (result, r)) (e : Error) :
    Reads ((.error e : Except Error β), r) := by
  refine ⟨h.onlyRead, ?_⟩
  intro a answer
  cases answer

end Reads

variable [Source σ]

theorem reads_readLine (h : r.Going) : Reads r.readLine := by
  fun_induction readLine r with
  | case1 r bytes buffer taken => exact ⟨h.onlyRead, fun _ _ => h⟩
  | case2 r buffer taken ended => exact ⟨h.onlyRead, fun _ _ => h⟩
  -- the source is read in the last three cases only, and it has not found the end before
  | case3 r buffer taken going fault source given =>
    obtain ⟨answers, delivering, calls⟩ := h
    rw [if_neg going, List.append_nil] at calls
    refine ⟨⟨_, delivering.orderly_concat (.error fault), ?_⟩, ?_⟩
    · rw [Watched.calls_read given, calls, List.map_append]
      rfl
    · intro a answer
      cases answer
  | case4 r buffer taken going source given =>
    obtain ⟨answers, delivering, calls⟩ := h
    rw [if_neg going, List.append_nil] at calls
    have ended : Going { r with source, buffer, atEnd := true } := by
      refine ⟨answers, delivering, ?_⟩
      rw [if_pos rfl, List.map_append, ← calls]
      exact Watched.calls_read given
    exact ⟨ended.onlyRead, fun _ _ => ended⟩
  | case5 r buffer taken going b piece source given _ ih =>
    obtain ⟨answers, delivering, calls⟩ := h
    rw [if_neg going, List.append_nil] at calls
    have delivers : Delivering (answers ++ [.ok (b :: piece)]) := by
      refine delivering.append fun answer mem => ?_
      exact ⟨b, piece, List.mem_singleton.1 mem⟩
    have fed : Going { r with source, buffer := buffer.feed (b :: piece) } := by
      refine ⟨_, delivers, ?_⟩
      rw [if_neg going, List.append_nil, List.map_append, ← calls]
      exact Watched.calls_read given
    exact ih fed

theorem reads_readHeader (h : r.Going) : Reads r.readHeader := by
  rw [readHeader]
  cases r.header with
  | some header => exact .stay h _
  | none =>
    have first := reads_readLine h
    generalize r.readLine = x at first ⊢
    rcases x with ⟨e | _ | namesLine, r'⟩
    · exact first.failed e
    · exact ⟨first.onlyRead, fun _ _ => first.going _ rfl⟩
    · have second := reads_readLine (first.going _ rfl)
      dsimp only
      generalize r'.readLine = x at second ⊢
      rcases x with ⟨e | _ | tagsLine, r''⟩
      · exact second.failed e
      · exact second.failed _
      · have going := second.going _ rfl
        dsimp only
        cases headerOf namesLine tagsLine with
        | error e => exact .stay going _
        | ok header => exact ⟨going.onlyRead, fun _ _ => going⟩

theorem reads_readRecord (h : r.Going) : Reads r.readRecord := by
  have header := reads_readHeader h
  rw [readRecord]
  generalize r.readHeader = x at header ⊢
  rcases x with ⟨e | header', r'⟩
  · exact header.failed e
  · have line := reads_readLine (header.going _ rfl)
    dsimp only
    generalize r'.readLine = x at line ⊢
    rcases x with ⟨e | _ | line', r''⟩
    · exact line.failed e
    · exact .stay (line.going _ rfl) _
    · exact .stay (line.going _ rfl) _

theorem reads_takeRecord (h : r.Going) : Reads r.takeRecord := by
  rw [takeRecord]
  cases r.peeked with
  | some record => exact ⟨h.onlyRead, fun _ _ => h⟩
  | none => exact reads_readRecord h

theorem reads_next (h : r.Going) : Reads r.next := by
  have taken := reads_takeRecord h
  rw [next]
  generalize r.takeRecord = x at taken ⊢
  rcases x with ⟨e | _ | record, r'⟩
  · exact taken
  · exact taken
  · exact ⟨taken.onlyRead, fun _ _ => taken.going _ rfl⟩

theorem reads_peek (h : r.Going) : Reads r.peek := by
  rw [peek]
  cases r.peeked with
  | some record => exact .stay h _
  | none =>
    have read := reads_readRecord h
    dsimp only
    generalize r.readRecord = x at read ⊢
    rcases x with ⟨e | record, r'⟩
    · exact read.failed e
    · exact ⟨read.onlyRead, fun _ _ => read.going _ rfl⟩

end RecordReader

end RowStream
