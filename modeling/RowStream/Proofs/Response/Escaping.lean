import RowStream.Proofs.Record.Split
import RowStream.Proofs.Response.Search
import RowStream.Proofs.Text.Utf8
import RowStream.Source.Basic

/-! Lines are cut as octets and divided into tokens as texts. What a backslash takes along is the
same for both, and no line ends between a backslash and what that takes along. -/
namespace RowStream

open Token (Hides Paired endsInsidePair leavesBackslash)

namespace Lines

variable {b : UInt8} {bytes before : Bytes}

/-- Among the bytes, the latest first, every line feed has an odd run of backslashes before it. -/
def Unbroken (bytes : Bytes) : Prop :=
  ∀ after before, bytes = after ++ lineFeed :: before → escapes before = true

/-- The bytes of a line, told by the runs of backslashes before line feeds: odd ones before those in
it, and an even one before that at its end. -/
structure IsLine (bytes : Bytes) : Prop where
  inside : Unbroken bytes.reverse
  ended : escapes bytes.reverse = false

theorem unbroken_nil : Unbroken [] := by
  intro after before same
  cases (List.append_eq_nil_iff.1 same.symm).2

theorem unbroken_cons_iff :
    Unbroken (b :: before) ↔ (b = lineFeed → escapes before = true) ∧ Unbroken before := by
  constructor
  · intro h
    refine ⟨?_, fun after earlier same => h (b :: after) earlier (congrArg (b :: ·) same)⟩
    rintro rfl
    exact h [] before rfl
  · rintro ⟨first, others⟩ after earlier same
    cases after with
    | nil =>
      obtain ⟨rfl, rfl⟩ := List.cons.inj same
      exact first rfl
    | cons c after => exact others after earlier (List.cons.inj same).2

/-- Octets above ASCII are no line feeds. -/
theorem unbroken_append_iff (above : ∀ b ∈ bytes, 0x80 ≤ b) :
    Unbroken (bytes ++ before) ↔ Unbroken before := by
  induction bytes with
  | nil => rfl
  | cons b bytes ih =>
    obtain ⟨first, others⟩ := List.forall_mem_cons.1 above
    have other : b ≠ lineFeed := by
      rintro rfl
      exact absurd first (by decide)
    rw [List.cons_append, unbroken_cons_iff, ih others]
    exact and_iff_right fun same => absurd same other

section Character

variable (c : Char) (before)

theorem escapes_utf8EncodeChar :
    escapes ((String.utf8EncodeChar c).reverse ++ before) =
      (decide (c = '\\') && !escapes before) := by
  rcases Utf8.utf8EncodeChar_cases c with ⟨ascii, octet⟩ | ⟨large, above⟩
  · rw [octet, List.reverse_singleton, List.singleton_append, escapes_cons]
    have same : UInt8.ofNat c.toNat = backslash ↔ c = '\\' :=
      Utf8.ofNat_toNat_eq_iff (d := '\\') ascii (by decide)
    rw [decide_eq_decide.2 same]
  · have slash : c ≠ '\\' := by
      rintro rfl
      exact absurd large (by decide)
    have some : (String.utf8EncodeChar c).reverse ≠ [] := by
      rw [Ne, List.reverse_eq_nil_iff, ← List.length_eq_zero_iff, String.length_utf8EncodeChar]
      exact Nat.ne_of_gt c.utf8Size_pos
    obtain ⟨b, octets, eq⟩ := List.exists_cons_of_ne_nil some
    have high : 0x80 ≤ b := above b (List.mem_reverse.1 (eq ▸ List.mem_cons_self))
    have other : b ≠ backslash := by
      rintro rfl
      exact absurd high (by decide)
    rw [eq, List.cons_append, escapes_cons, decide_eq_false other, decide_eq_false slash,
      Bool.false_and, Bool.false_and]

theorem unbroken_utf8EncodeChar_iff :
    Unbroken ((String.utf8EncodeChar c).reverse ++ before) ↔
      (c = '\n' → escapes before = true) ∧ Unbroken before := by
  rcases Utf8.utf8EncodeChar_cases c with ⟨ascii, octet⟩ | ⟨large, above⟩
  · rw [octet, List.reverse_singleton, List.singleton_append, unbroken_cons_iff]
    have same : UInt8.ofNat c.toNat = lineFeed ↔ c = '\n' :=
      Utf8.ofNat_toNat_eq_iff (d := '\n') ascii (by decide)
    rw [same]
  · have other : c ≠ '\n' := by
      rintro rfl
      exact absurd large (by decide)
    rw [unbroken_append_iff fun b mem => above b (List.mem_reverse.1 mem)]
    exact (and_iff_right fun same => absurd same other).symm

end Character

theorem reverse_encode_concat (t : Text) (c : Char) :
    (Utf8.encode (t ++ [c])).reverse =
      (String.utf8EncodeChar c).reverse ++ (Utf8.encode t).reverse := by
  simp [Utf8.encode]

/-- The run of backslashes at the end is the same, counted in octets and in characters. -/
theorem escapes_encode (t : Text) : escapes (Utf8.encode t).reverse = endsInsidePair t := by
  induction t using List.reverseRecOn with
  | nil => rfl
  | append_singleton t c ih =>
    rw [reverse_encode_concat, escapes_utf8EncodeChar, ih]
    by_cases slash : c = '\\'
    · subst slash
      rw [Token.endsInsidePair_backslash, decide_eq_true rfl, Bool.true_and]
    · rw [Token.endsInsidePair_plain slash, decide_eq_false slash, Bool.false_and]

/-- A line feed is hidden alike as an octet and as a character. -/
theorem unbroken_encode_iff (t : Text) : Unbroken (Utf8.encode t).reverse ↔ Hides '\n' t := by
  induction t using List.reverseRecOn with
  | nil => exact iff_of_true unbroken_nil (Token.hides_nil '\n')
  | append_singleton t c ih =>
    rw [reverse_encode_concat, unbroken_utf8EncodeChar_iff, escapes_encode, ih,
      Token.hides_concat_iff]

/-- The octets of a text are a line exactly if the text is a run of characters other than line feeds
and of pairs. -/
theorem isLine_encode_iff (t : Text) : IsLine (Utf8.encode t) ↔ Paired (· ≠ '\n') t := by
  have ended : escapes (Utf8.encode t).reverse = false ↔ endsInsidePair t = false := by
    rw [escapes_encode]
  rw [Token.paired_iff (by decide), ← unbroken_encode_iff, ← ended]
  exact ⟨fun h => ⟨h.inside, h.ended⟩, fun h => ⟨h.1, h.2⟩⟩

end Lines

namespace LineBuffer

/-- The flag tells the run of backslashes at the end of the line under way, and that line has no end
in it. -/
structure Tracks (b : LineBuffer) : Prop where
  escaped : b.escaped = Lines.escapes b.line
  inside : Lines.Unbroken b.line

theorem tracks_of_nil (ahead : Bytes) : Tracks ⟨[], false, ahead⟩ := ⟨rfl, Lines.unbroken_nil⟩

theorem Tracks.feed {b : LineBuffer} (h : b.Tracks) (piece : Bytes) : (b.feed piece).Tracks :=
  ⟨h.escaped, h.inside⟩

/-- One byte after the other, the line under way has no end in it, and the one that is cut off is a
line. -/
theorem tracks_scan {line : Bytes} {escaped : Bool} (flag : escaped = Lines.escapes line)
    (inside : Lines.Unbroken line) (ahead : Bytes) :
    (scan line escaped ahead).2.Tracks ∧
      ∀ bytes, (scan line escaped ahead).1 = some bytes → Lines.IsLine bytes := by
  suffices kept : Lines.Unbroken (scan line escaped ahead).2.line ∧
      ∀ bytes, (scan line escaped ahead).1 = some bytes → Lines.IsLine bytes from
    ⟨⟨escaped_scan flag ahead, kept.1⟩, kept.2⟩
  fun_induction scan line escaped ahead with
  | case1 line escaped =>
    refine ⟨inside, ?_⟩
    rintro bytes ⟨⟩
  -- The byte that the latest backslash takes along, which may be a line feed.
  | case2 line b rest ih =>
    apply ih
    · simp [← flag]
    · exact Lines.unbroken_cons_iff.2 ⟨fun _ => flag.symm, inside⟩
  | case3 line escaped rest free =>
    have even : Lines.escapes line = false := by rw [← flag, eq_false_of_ne_true free]
    refine ⟨Lines.unbroken_nil, ?_⟩
    rintro bytes ⟨⟩
    exact ⟨by rwa [List.reverse_reverse], by rwa [List.reverse_reverse]⟩
  | case4 line escaped b rest free other ih =>
    apply ih
    · simp [← flag, free]
    · exact Lines.unbroken_cons_iff.2 ⟨fun same => absurd same other, inside⟩

theorem Tracks.of_takeLine {b b' : LineBuffer} {found : Option Bytes} (h : b.Tracks)
    (taken : b.takeLine = (found, b')) :
    b'.Tracks ∧ ∀ bytes, found = some bytes → Lines.IsLine bytes := by
  have step := tracks_scan h.escaped h.inside b.ahead
  rw [takeLine] at taken
  rwa [taken] at step

end LineBuffer

/-- A token of a line: characters other than tabs and line feeds, and whole pairs, so that resolving
its escapes comes to no backslash alone. -/
structure Token.IsComplete (t : Text) : Prop where
  paired : Paired (fun c => c ≠ '\t' ∧ c ≠ '\n') t
  ended : leavesBackslash t = false

theorem Token.isComplete_of_paired {t : Text} (h : Paired (fun c => c ≠ '\t' ∧ c ≠ '\n') t) :
    IsComplete t :=
  ⟨h, (leavesBackslash_eq t).trans h.complete⟩

namespace Record

theorem isComplete_of_mem_split {line : Text} (h : Paired (· ≠ '\n') line) :
    ∀ token ∈ split line, Token.IsComplete token := by
  intro token mem
  exact Token.isComplete_of_paired (paired_of_mem_split h token mem)

end Record

namespace RecordReader

/-- What is asked of a reader: a line as such, the header, the next record, or a look at it. -/
inductive Request where
  | line
  | header
  | next
  | peek
  deriving DecidableEq, Repr

variable {σ : Type} [Source σ] {r r' : RecordReader σ}

/-- The reader after a request, whatever the answer. -/
def after (r : RecordReader σ) : Request → RecordReader σ
  | .line => r.readLine.2
  | .header => r.readHeader.2
  | .next => r.next.2
  | .peek => r.peek.2

/-- A buffer that keeps track of escapes, and complete tokens in the record looked at. -/
structure Sound (r : RecordReader σ) : Prop where
  buffer : r.buffer.Tracks
  peeked : ∀ tokens, r.peeked = some (some tokens) → ∀ t ∈ tokens, Token.IsComplete t

/-- A line between unescaped line feeds, as octets and as a text. -/
structure IsWhole (line : Text) : Prop where
  octets : Lines.IsLine (Utf8.encode line)
  paired : Paired (· ≠ '\n') line
  tokens : ∀ t ∈ Record.split line, Token.IsComplete t

theorem isWhole_of_isLine {line : Text} (h : Lines.IsLine (Utf8.encode line)) : IsWhole line :=
  have paired := (Lines.isLine_encode_iff line).1 h
  ⟨h, paired, Record.isComplete_of_mem_split paired⟩

theorem of_lineText_eq_ok {bytes : Bytes} {line : Text} (h : lineText bytes = .ok (some line)) :
    bytes = Utf8.encode line := by
  rw [lineText] at h
  split at h
  · rename_i found read
    obtain rfl := Option.some.inj (Except.ok.inj h)
    exact Utf8.decode_eq_ok_iff.1 read
  · cases h

theorem sound_readLine (h : r.Sound) :
    r.readLine.2.Sound ∧ ∀ line, r.readLine.1 = .ok (some line) → IsWhole line := by
  fun_induction readLine r with
  | case1 r bytes buffer taken =>
    obtain ⟨tracks, cut⟩ := h.buffer.of_takeLine taken
    refine ⟨⟨tracks, h.peeked⟩, fun line answer => isWhole_of_isLine ?_⟩
    rw [← of_lineText_eq_ok answer]
    exact cut bytes rfl
  | case2 r buffer taken ended =>
    have tracks := (h.buffer.of_takeLine taken).1
    exact ⟨⟨tracks, h.peeked⟩, fun line answer => absurd answer (endOfLines_ne_some buffer line)⟩
  | case3 r buffer taken going fault source given =>
    refine ⟨⟨(h.buffer.of_takeLine taken).1, h.peeked⟩, ?_⟩
    rintro line ⟨⟩
  | case4 r buffer taken going source given =>
    have tracks := (h.buffer.of_takeLine taken).1
    exact ⟨⟨tracks, h.peeked⟩, fun line answer => absurd answer (endOfLines_ne_some buffer line)⟩
  | case5 r buffer taken going b piece source given _ ih =>
    exact ih ⟨(h.buffer.of_takeLine taken).1.feed (b :: piece), h.peeked⟩

theorem sound_readHeader (h : r.Sound) : r.readHeader.2.Sound := by
  rw [readHeader]
  cases r.header with
  | some header => exact h
  | none =>
    have first := (sound_readLine h).1
    dsimp only
    generalize r.readLine = x at first ⊢
    rcases x with ⟨e | _ | namesLine, r'⟩
    · exact first
    · exact ⟨first.buffer, first.peeked⟩
    · have second := (sound_readLine first).1
      dsimp only
      generalize r'.readLine = x at second ⊢
      rcases x with ⟨e | _ | tagsLine, r''⟩
      · exact second
      · exact second
      · dsimp only
        cases headerOf namesLine tagsLine with
        | error e => exact second
        | ok header => exact ⟨second.buffer, second.peeked⟩

/-- The tokens of a record are those of a line. -/
structure Delivers (x : Except Error (Option (List Text)) × RecordReader σ) : Prop where
  sound : x.2.Sound
  tokens : ∀ tokens, x.1 = .ok (some tokens) → ∀ t ∈ tokens, Token.IsComplete t

omit [Source σ] in
theorem delivers_error (h : r.Sound) (e : Error) : Delivers (.error e, r) := by
  refine ⟨h, ?_⟩
  rintro tokens ⟨⟩

omit [Source σ] in
theorem delivers_end (h : r.Sound) : Delivers (.ok none, r) := by
  refine ⟨h, ?_⟩
  rintro tokens ⟨⟩

theorem delivers_readRecord (h : r.Sound) : Delivers r.readRecord := by
  have header := sound_readHeader h
  rw [readRecord]
  generalize r.readHeader = x at header ⊢
  rcases x with ⟨e | found, r'⟩
  · exact delivers_error header e
  · have line := sound_readLine header
    dsimp only
    generalize r'.readLine = x at line ⊢
    rcases x with ⟨e | _ | text, r''⟩
    · exact delivers_error line.1 e
    · exact delivers_end line.1
    · refine ⟨line.1, fun tokens answer => ?_⟩
      simp only [recordOf] at answer
      split at answer
      · obtain rfl := Option.some.inj (Except.ok.inj answer)
        exact (line.2 text rfl).tokens
      · cases answer

theorem delivers_next (h : r.Sound) : Delivers r.next := by
  have taken : Delivers r.takeRecord := by
    rw [takeRecord]
    cases looked : r.peeked with
    | none => exact delivers_readRecord h
    | some record =>
      have emptied : ({ r with peeked := none } : RecordReader σ).Sound := by
        refine ⟨h.buffer, ?_⟩
        rintro tokens ⟨⟩
      refine ⟨emptied, fun tokens answer => h.peeked tokens ?_⟩
      rw [looked, Except.ok.inj answer]
  rw [next]
  generalize r.takeRecord = x at taken ⊢
  rcases x with ⟨e | _ | record, r'⟩
  · exact taken
  · exact taken
  · exact ⟨⟨taken.sound.buffer, taken.sound.peeked⟩, taken.tokens⟩

theorem delivers_peek (h : r.Sound) : Delivers r.peek := by
  rw [peek]
  cases looked : r.peeked with
  | some record =>
    refine ⟨h, fun tokens answer => h.peeked tokens ?_⟩
    rw [looked, Except.ok.inj answer]
  | none =>
    have read := delivers_readRecord h
    dsimp only
    generalize r.readRecord = x at read ⊢
    rcases x with ⟨e | record, r'⟩
    · exact read
    · refine ⟨⟨read.sound.buffer, fun tokens same => ?_⟩, read.tokens⟩
      exact read.tokens tokens (congrArg Except.ok (Option.some.inj same))

theorem sound_after (h : r.Sound) (q : Request) : (r.after q).Sound := by
  cases q with
  | line => exact (sound_readLine h).1
  | header => exact sound_readHeader h
  | next => exact (delivers_next h).sound
  | peek => exact (delivers_peek h).sound

omit [Source σ] in
theorem sound_of_source (source : σ) : (of source).Sound := by
  refine ⟨LineBuffer.tracks_of_nil [], ?_⟩
  rintro tokens ⟨⟩

theorem sound_run (source : σ) (requests : List Request) :
    (requests.foldl after (of source)).Sound := by
  induction requests using List.reverseRecOn with
  | nil => exact sound_of_source source
  | append_singleton requests q ih =>
    rw [List.foldl_append]
    exact sound_after ih q

/-- Whatever has been asked of a reader, the line it gives next is one as octets, by the runs of
backslashes before line feeds, and it is a run of characters and whole pairs as a text. So are the
tokens of that line, of the lines that a header is made of, and of the next record: they have tabs
and line feeds in pairs only, and resolving their escapes comes to no backslash alone. A search for
line feeds that holds each to the run of backslashes before it gives the lines that the reader's
buffer gives, whatever is fed to the two. -/
theorem escapes_agree (source : σ) (requests : List Request) :
    let r := requests.foldl after (of source)
    (∀ line, r.readLine.1 = .ok (some line) → IsWhole line) ∧
    (∀ header, r.header = none → r.readHeader.1 = .ok header → header = ⟨[], []⟩ ∨
      ∃ names tags, r.readLine.1 = .ok (some names) ∧ r.readLine.2.readLine.1 = .ok (some tags) ∧
        headerOf names tags = .ok header ∧ IsWhole names ∧ IsWhole tags) ∧
    (∀ tokens, r.next.1 = .ok (some tokens) ∨ r.peek.1 = .ok (some tokens) →
      ∀ t ∈ tokens, Token.IsComplete t) ∧
    ∀ steps, SearchBuffer.empty.answers steps = LineBuffer.empty.answers steps := by
  intro r
  have sound : r.Sound := sound_run source requests
  have line := sound_readLine sound
  refine ⟨line.2, ?_, ?_, SearchBuffer.answers_eq⟩
  · intro header unread answer
    obtain ⟨-, empty⟩ | ⟨names, tags, first, second, made, -⟩ := readHeader_cases unread answer
    · exact .inl empty
    · exact .inr ⟨names, tags, first, second, made, line.2 names first,
        (sound_readLine line.1).2 tags second⟩
  · rintro tokens (answer | answer)
    · exact (delivers_next sound).tokens tokens answer
    · exact (delivers_peek sound).tokens tokens answer

/-- An escaped line feed in a row, and an escaped backslash at its end. -/
theorem escapes_agree_row :
    let pieces := ["n\ntext\na\\".toList, "\nü\\\\\n".toList]
    let r := [Request.header].foldl after
      (of (ScriptSource.ofScript (pieces.map fun piece => .ok (Utf8.encode piece)) false))
    r.next.1 = .ok (some ["a\\\nü\\\\".toList]) ∧ Token.IsComplete "a\\\nü\\\\".toList := by
  intro pieces r
  have answer : r.next.1.toOption = some (some ["a\\\nü\\\\".toList]) := by decide +kernel
  have given := Except.of_toOption_eq_some answer
  obtain ⟨-, -, tokens, -⟩ := escapes_agree
    (ScriptSource.ofScript (pieces.map fun piece => .ok (Utf8.encode piece)) false) [.header]
  exact ⟨given, tokens _ (.inl given) _ List.mem_cons_self⟩

end RecordReader

end RowStream
