import RowStream.Proofs.Response.Peek
import RowStream.Source.Basic

/-! Requests for the next record among looks at it. A look changes no later answer, unless it comes
to an error: then that error is gone, and only the end in the middle of a line is told again. -/
namespace RowStream.RecordReader

/-- What a reader is asked for: the next record, or a look at it ahead of its turn. -/
inductive Ask where
  | next
  | peek
  deriving DecidableEq, Repr

variable {σ : Type} [Source σ] {r : RecordReader σ} {bytes : Nat}

def ask (r : RecordReader σ) : Ask → Except Error (Option (List Text)) × RecordReader σ
  | .next => r.next
  | .peek => r.peek

/-- What is asked, one after the other, with the answers. -/
def answers (r : RecordReader σ) : List Ask → List (Ask × Except Error (Option (List Text)))
  | [] => []
  | q :: rest => (q, (r.ask q).1) :: (r.ask q).2.answers rest

/-- The first `n` answers where nothing is looked at ahead. -/
def outcomes (r : RecordReader σ) : (n : Nat) → List (Except Error (Option (List Text)))
  | 0 => []
  | n + 1 => r.next.1 :: r.next.2.outcomes n

/-- The answer to a request for the next record. -/
def given? : Ask × Except Error (Option (List Text)) → Option (Except Error (Option (List Text)))
  | (.next, answer) => some answer
  | (.peek, _) => none

/-- An answer that is gone once it is given: any to a request, and the error of a look. -/
def spent? : Ask × Except Error (Option (List Text)) → Option (Except Error (Option (List Text)))
  | (.next, answer) => some answer
  | (.peek, .error e) => some (.error e)
  | (.peek, .ok _) => none

/-- All but looks that come to an error, unless the response ends there in the middle of a line. -/
def isHarmless : Ask × Except Error (Option (List Text)) → Bool
  | (.next, _) | (.peek, .ok _) | (.peek, .error (.format (.unterminated _))) => true
  | (.peek, .error _) => false

theorem takeLine_of_takeLine_none {b b' : LineBuffer} (taken : b.takeLine = (none, b')) :
    b'.takeLine = (none, b') := by
  have used : b'.ahead = [] := LineBuffer.ahead_scan_of_none taken
  obtain ⟨line, escaped, ahead⟩ := b'
  cases used
  rfl

/-- The source has ended in the middle of a line, and all of the line has been looked at. -/
structure CutShort (r : RecordReader σ) (bytes : Nat) : Prop where
  ended : r.atEnd = true
  looked : r.buffer.takeLine = (none, r.buffer)
  left : endOfLines r.buffer = .error (.format (.unterminated bytes))

theorem CutShort.readLine_eq (h : r.CutShort bytes) :
    r.readLine = (.error (.format (.unterminated bytes)), r) := by
  rw [readLine, h.looked]
  simp only [h.ended, h.left, if_true]
  rw [← h.ended]

theorem CutShort.readRecord_eq (h : r.CutShort bytes) :
    r.readRecord = (.error (.format (.unterminated bytes)), r) := by
  rw [readRecord, readHeader]
  cases r.header <;> simp only [h.readLine_eq]

/-- An answer that a line is cut short leaves the reader at the end of that line. -/
def StopsThere {α : Type} (x : Except Error α × RecordReader σ) : Prop :=
  ∀ bytes, x.1 = .error (.format (.unterminated bytes)) → x.2.CutShort bytes

section StopsThere

variable {α β : Type}

omit [Source σ] in
theorem stopsThere_ok (a : α) (r : RecordReader σ) : StopsThere (.ok a, r) :=
  fun _ failed => nomatch failed

omit [Source σ] in
theorem stopsThere_error {e : Error} (other : ∀ bytes, e ≠ .format (.unterminated bytes))
    (r : RecordReader σ) : StopsThere ((.error e : Except Error α), r) :=
  fun bytes failed => absurd (Except.error.inj failed) (other bytes)

omit [Source σ] in
theorem StopsThere.failed {e : Error} (h : StopsThere ((.error e : Except Error α), r)) :
    StopsThere ((.error e : Except Error β), r) :=
  fun bytes failed => h bytes (congrArg Except.error (Except.error.inj failed))

end StopsThere

theorem stopsThere_readLine (r : RecordReader σ) : StopsThere r.readLine := by
  fun_induction readLine r with
  | case1 r line buffer taken =>
    rw [lineText]
    cases Utf8.decode line with
    | ok text => exact stopsThere_ok _ _
    | error fault => exact stopsThere_error (by simp) _
  | case2 r buffer taken ended =>
    exact fun bytes failed => ⟨ended, takeLine_of_takeLine_none taken, failed⟩
  | case3 r buffer taken going fault source given =>
    apply stopsThere_error
    intro bytes
    cases fault <;> simp [Error.ofSource]
  | case4 r buffer taken going source given =>
    exact fun bytes failed => ⟨rfl, takeLine_of_takeLine_none taken, failed⟩
  | case5 r buffer taken going b piece source given _ ih => exact ih

theorem stopsThere_readHeader (r : RecordReader σ) : StopsThere r.readHeader := by
  rw [readHeader]
  cases r.header with
  | some header => exact stopsThere_ok _ _
  | none =>
    have first := stopsThere_readLine r
    generalize r.readLine = x at first ⊢
    rcases x with ⟨e | _ | namesLine, r'⟩
    · exact first.failed
    · exact stopsThere_ok _ _
    · have second := stopsThere_readLine r'
      dsimp only
      generalize r'.readLine = x at second ⊢
      rcases x with ⟨e | _ | tagsLine, r''⟩
      · exact second.failed
      · exact stopsThere_error (by simp) _
      · dsimp only [headerOf]
        by_cases same : ((Record.split namesLine).map Token.unescape).length =
            ((Record.split tagsLine).map Token.unescape).length
        · rw [if_pos same]
          exact stopsThere_ok _ _
        · rw [if_neg same]
          exact stopsThere_error (by simp) _

theorem stopsThere_readRecord (r : RecordReader σ) : StopsThere r.readRecord := by
  have first := stopsThere_readHeader r
  rw [readRecord]
  generalize r.readHeader = x at first ⊢
  rcases x with ⟨e | header, r'⟩
  · exact first.failed
  · have second := stopsThere_readLine r'
    dsimp only
    generalize r'.readLine = x at second ⊢
    rcases x with ⟨e | _ | line, r''⟩
    · exact second.failed
    · exact stopsThere_ok _ _
    · dsimp only [recordOf]
      split
      · exact stopsThere_ok _ _
      · exact stopsThere_error (by simp) _

/-- A look that comes to an error does what a request does. -/
theorem next_of_failed_peek {e : Error} (failed : r.peek.1 = .error e) :
    r.next = (.error e, r.peek.2) ∧ r.readRecord = (.error e, r.peek.2) ∧
      r.peek.2.peeked = none := by
  have unpeeked := peeked_readRecord r
  rw [peek] at failed ⊢
  cases waiting : r.peeked with
  | some record => simp [waiting] at failed
  | none =>
    rw [waiting] at failed unpeeked
    rcases read : r.readRecord with ⟨e' | record, after⟩
    · rw [read] at failed unpeeked
      obtain rfl := Except.error.inj failed
      refine ⟨?_, rfl, unpeeked⟩
      simp only [next, takeRecord, waiting, read]
    · simp [read] at failed

theorem next_of_cut_short (failed : r.peek.1 = .error (.format (.unterminated bytes))) :
    r.peek.2.next = r.next := by
  obtain ⟨asked, read, unpeeked⟩ := next_of_failed_peek failed
  have short := stopsThere_readRecord r bytes
  rw [read] at short
  rw [asked, next, takeRecord, unpeeked]
  simp only [(short rfl).readRecord_eq]

theorem isHarmless_error_iff {e : Error} :
    isHarmless (.peek, .error e) ↔ ∃ bytes, e = .format (.unterminated bytes) := by
  constructor
  · intro harmless
    unfold isHarmless at harmless
    split at harmless
    · rename_i impossible
      cases impossible
    · rename_i same
      cases same
    · rename_i bytes same
      cases same
      exact ⟨bytes, rfl⟩
    · cases harmless
  · rintro ⟨bytes, rfl⟩
    rfl

theorem next_of_harmless (harmless : isHarmless (.peek, r.peek.1)) : r.peek.2.next = r.next := by
  cases looked : r.peek.1 with
  | ok record => exact next_peek looked
  | error e =>
    rw [looked] at harmless
    obtain ⟨bytes, rfl⟩ := isHarmless_error_iff.1 harmless
    exact next_of_cut_short looked

theorem outcomes_congr {r' : RecordReader σ} (same : r'.next = r.next) (n : Nat) :
    r'.outcomes n = r.outcomes n := by
  cases n with
  | zero => rfl
  | succ n => rw [outcomes, outcomes, same]

theorem given_answers {asks : List Ask} (harmless : (r.answers asks).all isHarmless) :
    (r.answers asks).filterMap given? = r.outcomes (asks.count .next) := by
  induction asks generalizing r with
  | nil => rfl
  | cons q rest ih =>
    rw [answers, List.all_cons, Bool.and_eq_true] at harmless
    obtain ⟨first, later⟩ := harmless
    have given := ih later
    cases q with
    | next =>
      rw [List.count_cons_self, outcomes]
      exact congrArg (r.next.1 :: ·) given
    | peek =>
      rw [List.count_cons_of_ne (by decide), ← outcomes_congr (next_of_harmless first)]
      exact given

theorem spent_answers (asks : List Ask) : (r.answers asks).filterMap spent? =
    r.outcomes ((r.answers asks).filterMap spent?).length := by
  induction asks generalizing r with
  | nil => rfl
  | cons q rest ih =>
    rw [answers]
    cases q with
    | next => exact congrArg (r.next.1 :: ·) ih
    | peek =>
      have later := ih (r := r.peek.2)
      cases looked : r.peek.1 with
      | ok record =>
        have kept : spent? (.peek, (r.ask .peek).1) = none := by
          rw [ask, looked]
          rfl
        rw [List.filterMap_cons_none kept, ← outcomes_congr (next_peek looked)]
        exact later
      | error e =>
        have lost : spent? (.peek, (r.ask .peek).1) = some (.error e) := by
          rw [ask, looked]
          rfl
        rw [List.filterMap_cons_some lost, List.length_cons, outcomes,
          (next_of_failed_peek looked).1]
        exact congrArg (.error e :: ·) later

/-- Looks that find a record, the end of the records or a line that the end cuts short change no
answer to a later request. The error of any other look is an answer that no request gets: requests
and failed looks together have the answers that requests alone have. -/
theorem answers_among_looks (r : RecordReader σ) (asks : List Ask) :
    ((r.answers asks).all isHarmless →
      (r.answers asks).filterMap given? = r.outcomes (asks.count .next)) ∧
    (r.answers asks).filterMap spent? =
      r.outcomes ((r.answers asks).filterMap spent?).length :=
  ⟨given_answers, spent_answers asks⟩

/-- Looks at a record, and at a line without an end behind it. -/
theorem answers_among_looks_unterminated :
    let r := of (ScriptSource.ofScript [.ok (Utf8.encode "n\nint\n1\n2".toList)] false)
    let asks : List Ask := [.peek, .peek, .next, .peek, .next, .peek, .next]
    (r.answers asks).all isHarmless ∧
      (r.answers asks).filterMap given? = r.outcomes 3 := by
  intro r asks
  have harmless : (r.answers asks).all isHarmless := by decide +kernel
  exact ⟨harmless, (answers_among_looks r asks).1 harmless⟩

/-- The record with a field too many is reported by the look alone, and a request passes over it. -/
theorem passed_over_after_look :
    let r := of (ScriptSource.ofScript [.ok (Utf8.encode "n\nint\n1\t2\n3\n".toList)] false)
    (r.answers [.peek, .next]).filterMap given? ≠ r.outcomes 1 ∧
    (r.answers [.peek, .next]).map (fun answer => answer.2.toOption) =
      [none, some (some [['3']])] := by
  intro r
  have after : ((r.answers [.peek, .next]).filterMap given?).map Except.toOption =
      [some (some [['3']])] := by decide +kernel
  have before : (r.outcomes 1).map Except.toOption = [none] := by decide +kernel
  refine ⟨?_, by decide +kernel⟩
  intro same
  rw [same, before] at after
  cases after

end RowStream.RecordReader
