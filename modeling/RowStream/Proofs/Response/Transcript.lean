import RowStream.Proofs.Response.Lines
import RowStream.Proofs.Source.Drain
import RowStream.Response.Remaining

/-! What a response says, read off all of its bytes at once, and the same from a reader that is
run to its end, however the bytes are cut into pieces. -/
namespace RowStream

/-- The header, the records after it, and the error that ended them early. Without a header it is
the header's error. -/
structure Transcript where
  header : Option Header
  records : List (List Text)
  fault : Option Error

namespace Transcript

/-- How the lines end: with the failure of the source, in the middle of a line, or well. -/
def lineFault (rest : Bytes) : Option SourceFault → Option Error
  | some fault => some (.ofSource fault)
  | none => if rest.isEmpty then none else some (.format (.unterminated rest.length))

/-- The texts of lines up to the first that is not UTF-8, and the error at their end. -/
def texts (fault : Option Error) : List Bytes → List Text × Option Error
  | [] => ([], fault)
  | line :: more =>
    match Utf8.decode line with
    | .error malformed => ([], some (.format (.notUtf8 malformed)))
    | .ok text => (text :: (texts fault more).1, (texts fault more).2)

/-- The records of lines, counted on from `row`, up to the first that has not one token for each
column. -/
def rows (columns : Nat) (fault : Option Error) : (row : Nat) → List Text →
    List (List Text) × Option Error
  | _, [] => ([], fault)
  | row, line :: more =>
    let tokens := Record.split line
    if tokens.length = columns then
      (tokens :: (rows columns fault (row + 1) more).1, (rows columns fault (row + 1) more).2)
    else ([], some (.format (.fieldCount row tokens.length columns)))

/-- The first line has the names, the second the tags and each later one a record. -/
def ofTexts : List Text × Option Error → Transcript
  | ([], none) => ⟨some ⟨[], []⟩, [], none⟩
  | ([], some fault) => ⟨none, [], some fault⟩
  | ([_], none) => ⟨none, [], some (.format .missingTypeLine)⟩
  | ([_], some fault) => ⟨none, [], some fault⟩
  | (namesLine :: tagsLine :: more, fault) =>
    let names := (Record.split namesLine).map Token.unescape
    let tags := (Record.split tagsLine).map Token.unescape
    if names.length = tags.length then
      ⟨some ⟨names, tags⟩, (rows names.length fault 1 more).1, (rows names.length fault 1 more).2⟩
    else ⟨none, [], some (.format (.headerMismatch names.length tags.length))⟩

/-- The transcript of bytes after which the source ends or fails. -/
def ofBytes (bytes : Bytes) (failure : Option SourceFault) : Transcript :=
  ofTexts (texts (lineFault (Lines.cut bytes).rest failure) (Lines.cut bytes).ended)

end Transcript

namespace RecordReader

variable {σ : Type} [Source σ]

/-- The records up to the end or the first error, and that error. -/
def records (r : RecordReader σ) : List (List Text) × Option Error :=
  match given : r.next with
  | (.error fault, _) => ([], some fault)
  | (.ok none, _) => ([], none)
  | (.ok (some tokens), r') =>
    have : r'.remaining < r.remaining := by
      have := remaining_lt_of_next (show r.next.1 = .ok (some tokens) by rw [given])
      rwa [given] at this
    (tokens :: r'.records.1, r'.records.2)
termination_by r.remaining

/-- The header and the records that a reader gives when it is run to its end. -/
def transcript (r : RecordReader σ) : Transcript :=
  match r.readHeader with
  | (.error fault, _) => ⟨none, [], some fault⟩
  | (.ok header, r) => ⟨some header, r.records.1, r.records.2⟩

theorem records_of_error {r : RecordReader σ} {fault : Error} (h : r.next.1 = .error fault) :
    r.records = ([], some fault) := by
  rw [records]
  split <;> simp_all

theorem records_of_end {r : RecordReader σ} (h : r.next.1 = .ok none) :
    r.records = ([], none) := by
  rw [records]
  split <;> simp_all

theorem records_of_record {r : RecordReader σ} {tokens : List Text}
    (h : r.next.1 = .ok (some tokens)) :
    r.records = (tokens :: r.next.2.records.1, r.next.2.records.2) := by
  rw [records]
  split <;> simp_all

theorem transcript_of_refused {r : RecordReader σ} {fault : Error}
    (h : r.readHeader.1 = .error fault) : r.transcript = ⟨none, [], some fault⟩ := by
  rw [transcript, ← Prod.eta r.readHeader, h]

theorem transcript_of_header {r : RecordReader σ} {header : Header}
    (h : r.readHeader.1 = .ok header) :
    r.transcript = ⟨some header, r.readHeader.2.records.1, r.readHeader.2.records.2⟩ := by
  rw [transcript, ← Prod.eta r.readHeader, h]

theorem readHeader_of_transcript {r : RecordReader σ} {header : Header}
    (h : r.transcript.header = some header) : r.readHeader.1 = .ok header := by
  cases read : r.readHeader.1 with
  | error fault =>
    rw [transcript_of_refused read] at h
    cases h
  | ok found =>
    rw [transcript_of_header read] at h
    cases h
    rfl

/-- What the source still gives. Once its end is seen it is not read again. -/
def incoming (r : RecordReader σ) : Bytes × Option SourceFault :=
  if r.atEnd then ([], none) else Source.drain r.source

def lines (r : RecordReader σ) : Lines := r.buffer.lines r.incoming.1

/-- The texts of the lines that are left, and the error at their end. -/
def texts (r : RecordReader σ) : List Text × Option Error :=
  Transcript.texts (Transcript.lineFault r.lines.rest r.incoming.2) r.lines.ended

/-- What the answer of `readLine` and the reader after it have to do with the texts left. -/
def LineRead (texts : List Text × Option Error) (answer : Except Error (Option Text))
    (r : RecordReader σ) : Prop :=
  match texts with
  | ([], none) => answer = .ok none ∧ r.texts = ([], none)
  | ([], some fault) => answer = .error fault
  | (text :: more, fault) => answer = .ok (some text) ∧ r.texts = (more, fault)

theorem lineRead_takeLine_some {r : RecordReader σ} {bytes : Bytes} {buffer : LineBuffer}
    (taken : r.buffer.takeLine = (some bytes, buffer)) :
    LineRead r.texts (lineText bytes) { r with buffer } := by
  have cut : r.lines = .cons bytes ({ r with buffer } : RecordReader σ).lines :=
    LineBuffer.lines_of_takeLine_some taken _
  rw [texts, cut]
  simp only [Lines.cons, Transcript.texts, lineText]
  cases Utf8.decode bytes with
  | error malformed => rfl
  | ok text => exact ⟨rfl, rfl⟩

theorem texts_of_takeLine_none {r r' : RecordReader σ} {buffer : LineBuffer}
    (taken : r.buffer.takeLine = (none, buffer)) (same : r'.incoming = r.incoming)
    (kept : r'.buffer = buffer) : r'.texts = r.texts := by
  simp only [texts, lines, same, kept, LineBuffer.lines_of_takeLine_none taken]

/-- Where nothing more comes, the answer is that of the bytes left. -/
theorem lineRead_endOfLines {r r' : RecordReader σ} {buffer : LineBuffer}
    (taken : r.buffer.takeLine = (none, buffer)) (ended : r.incoming = ([], none))
    (same : r'.incoming = r.incoming) (kept : r'.buffer = buffer) :
    LineRead r.texts (endOfLines buffer) r' := by
  have after := texts_of_takeLine_none taken same kept
  have left : r.texts = ([], Transcript.lineFault buffer.line.reverse none) := by
    rw [texts, lines, ended, LineBuffer.lines_nil_of_takeLine_none taken, Transcript.texts]
  rw [left] at after ⊢
  simp only [Transcript.lineFault, List.isEmpty_reverse, List.length_reverse] at after ⊢
  rw [endOfLines]
  split
  · exact ⟨rfl, by simp_all⟩
  · rfl

theorem lineRead_readLine (r : RecordReader σ) : LineRead r.texts r.readLine.1 r.readLine.2 := by
  fun_induction readLine r with
  | case1 r bytes buffer taken => exact lineRead_takeLine_some taken
  | case2 r buffer taken ended =>
    exact lineRead_endOfLines taken (by simp [incoming, ended]) rfl rfl
  | case3 r buffer taken reading fault source given =>
    have failed : r.incoming = ([], some fault) := by
      simp [incoming, reading, Source.drain_of_error given]
    rw [texts, failed, lines, failed, LineBuffer.lines_nil_of_takeLine_none taken]
    rfl
  | case4 r buffer taken reading source given =>
    have ended : r.incoming = ([], none) := by
      simp [incoming, reading, Source.drain_of_end given]
    exact lineRead_endOfLines taken ended (by rw [ended]; rfl) rfl
  | case5 r buffer taken reading b piece source given _ ih =>
    have came : r.incoming = (b :: piece ++ (Source.drain source).1, (Source.drain source).2) := by
      simp [incoming, reading, Source.drain_of_piece given]
    have same : ({ r with source, buffer := buffer.feed (b :: piece) } : RecordReader σ).texts =
        r.texts := by
      rw [texts, texts, lines, lines, came, LineBuffer.lines_of_takeLine_none taken,
        LineBuffer.lines_feed]
      simp [incoming, reading]
    rwa [same] at ih

theorem readLine_of_end {r : RecordReader σ} (h : r.texts = ([], none)) :
    r.readLine.1 = .ok none ∧ r.readLine.2.texts = ([], none) := by
  have := lineRead_readLine r
  rwa [h] at this

theorem readLine_of_fault {r : RecordReader σ} {fault : Error} (h : r.texts = ([], some fault)) :
    r.readLine.1 = .error fault := by
  have := lineRead_readLine r
  rwa [h] at this

theorem readLine_of_text {r : RecordReader σ} {text : Text} {more : List Text}
    {fault : Option Error} (h : r.texts = (text :: more, fault)) :
    r.readLine.1 = .ok (some text) ∧ r.readLine.2.texts = (more, fault) := by
  have := lineRead_readLine r
  rwa [h] at this

/-- Reading a line touches the source and the buffer only. -/
theorem readLine_frame (r : RecordReader σ) :
    r.readLine.2.header = r.header ∧ r.readLine.2.peeked = r.peeked ∧
      r.readLine.2.recordsRead = r.recordsRead := by
  fun_induction readLine r <;> simp_all

/-- The reader is past the header and has not looked at a record ahead. -/
structure Ready (r : RecordReader σ) (header : Header) : Prop where
  header_eq : r.header = some header
  peeked_eq : r.peeked = none

theorem ready_readLine {r : RecordReader σ} {header : Header} (h : r.Ready header) :
    r.readLine.2.Ready header :=
  ⟨(readLine_frame r).1.trans h.header_eq, (readLine_frame r).2.1.trans h.peeked_eq⟩

/-- Past the header, the record asked for is that of the next line. -/
theorem takeRecord_of_ready {r : RecordReader σ} {header : Header} (h : r.Ready header) :
    r.takeRecord =
      (match r.readLine.1 with
        | .error fault => .error fault
        | .ok none => .ok none
        | .ok (some line) => recordOf (r.recordsRead + 1) header.names.length line,
        r.readLine.2) := by
  obtain ⟨-, -, count⟩ := readLine_frame r
  rw [takeRecord, h.peeked_eq]
  simp only [readRecord, readHeader, h.header_eq]
  rw [← count]
  rcases r.readLine with ⟨_ | _ | line, after⟩ <;> rfl

theorem next_of_end {r : RecordReader σ} {header : Header} (h : r.Ready header)
    (left : r.texts = ([], none)) : r.next.1 = .ok none := by
  obtain ⟨answer, -⟩ := readLine_of_end left
  rw [next, takeRecord_of_ready h, answer]

theorem next_of_fault {r : RecordReader σ} {header : Header} {fault : Error} (h : r.Ready header)
    (left : r.texts = ([], some fault)) : r.next.1 = .error fault := by
  have answer := readLine_of_fault left
  rw [next, takeRecord_of_ready h, answer]

theorem next_of_row {r : RecordReader σ} {header : Header} {text : Text} {more : List Text}
    {fault : Option Error} (h : r.Ready header) (left : r.texts = (text :: more, fault))
    (fits : (Record.split text).length = header.names.length) :
    r.next.1 = .ok (some (Record.split text)) ∧ r.next.2.Ready header ∧
      r.next.2.texts = (more, fault) ∧ r.next.2.recordsRead = r.recordsRead + 1 := by
  obtain ⟨answer, after⟩ := readLine_of_text left
  have ready := ready_readLine h
  obtain ⟨-, -, count⟩ := readLine_frame r
  rw [next, takeRecord_of_ready h, answer]
  simp only [recordOf, fits, if_true]
  exact ⟨trivial, ⟨ready.header_eq, ready.peeked_eq⟩, after, by rw [count]⟩

theorem next_of_misfit {r : RecordReader σ} {header : Header} {text : Text} {more : List Text}
    {fault : Option Error} (h : r.Ready header) (left : r.texts = (text :: more, fault))
    (misfit : (Record.split text).length ≠ header.names.length) :
    r.next.1 = .error (.format (.fieldCount (r.recordsRead + 1) (Record.split text).length
      header.names.length)) := by
  obtain ⟨answer, -⟩ := readLine_of_text left
  rw [next, takeRecord_of_ready h, answer]
  simp only [recordOf, misfit, if_false]

/-- Past the header, the records of the texts left come one after the other. -/
theorem records_eq_rows {texts : List Text} {fault : Option Error} {header : Header}
    {r : RecordReader σ} (h : r.Ready header) (left : r.texts = (texts, fault)) :
    r.records = Transcript.rows header.names.length fault (r.recordsRead + 1) texts := by
  induction texts generalizing r with
  | nil =>
    cases fault with
    | none => exact records_of_end (next_of_end h left)
    | some fault => exact records_of_error (next_of_fault h left)
  | cons text more ih =>
    rw [Transcript.rows]
    by_cases fits : (Record.split text).length = header.names.length
    · obtain ⟨answer, ready, after, count⟩ := next_of_row h left fits
      rw [records_of_record answer, ih ready after, count]
      simp only [fits, if_true]
    · rw [records_of_error (next_of_misfit h left fits)]
      simp only [fits, if_false]

/-- What reading the header of a fresh reader has to do with the transcript of its texts. -/
inductive HeaderRead (t : Transcript) : Except Error Header → RecordReader σ → Prop where
  | refused {fault : Error} {r : RecordReader σ} (whole : t = ⟨none, [], some fault⟩) :
    HeaderRead t (.error fault) r
  | given {header : Header} {r : RecordReader σ} {more : List Text} {fault : Option Error}
      (ready : r.Ready header) (unread : r.recordsRead = 0) (left : r.texts = (more, fault))
      (whole : t = ⟨some header, (Transcript.rows header.names.length fault 1 more).1,
        (Transcript.rows header.names.length fault 1 more).2⟩) :
    HeaderRead t (.ok header) r

/-- Nothing has been asked of the reader yet. -/
structure Fresh (r : RecordReader σ) : Prop where
  header_eq : r.header = none
  peeked_eq : r.peeked = none
  recordsRead_eq : r.recordsRead = 0

theorem headerRead_readHeader {r : RecordReader σ} (h : r.Fresh) :
    HeaderRead (Transcript.ofTexts r.texts) r.readHeader.1 r.readHeader.2 := by
  obtain ⟨-, peeked, count⟩ := readLine_frame r
  rw [readHeader, h.header_eq]
  rcases left : r.texts with ⟨_ | ⟨namesLine, more⟩, fault⟩
  · cases fault with
    | none =>
      obtain ⟨answer, after⟩ := readLine_of_end left
      rw [← Prod.eta r.readLine, answer]
      exact .given ⟨rfl, peeked.trans h.peeked_eq⟩ (count.trans h.recordsRead_eq) after rfl
    | some fault =>
      rw [← Prod.eta r.readLine, readLine_of_fault left]
      exact .refused rfl
  · obtain ⟨answer, after⟩ := readLine_of_text left
    obtain ⟨-, peeked', count'⟩ := readLine_frame r.readLine.2
    rw [← Prod.eta r.readLine, answer]
    simp only
    rcases more with _ | ⟨tagsLine, more⟩
    · cases fault with
      | none =>
        rw [← Prod.eta r.readLine.2.readLine, (readLine_of_end after).1]
        exact .refused rfl
      | some fault =>
        rw [← Prod.eta r.readLine.2.readLine, readLine_of_fault after]
        exact .refused rfl
    · obtain ⟨answer', after'⟩ := readLine_of_text after
      rw [← Prod.eta r.readLine.2.readLine, answer']
      simp only [headerOf, Transcript.ofTexts]
      split
      · exact .given ⟨rfl, (peeked'.trans peeked).trans h.peeked_eq⟩
          ((count'.trans count).trans h.recordsRead_eq) after' rfl
      · exact .refused rfl

theorem transcript_of_source (source : σ) :
    (of source).transcript =
      Transcript.ofBytes (Source.drain source).1 (Source.drain source).2 := by
  have fresh : (of source).Fresh := ⟨rfl, rfl, rfl⟩
  have whole : Transcript.ofBytes (Source.drain source).1 (Source.drain source).2 =
      Transcript.ofTexts (of source).texts := by
    simp only [texts, lines, incoming, of, LineBuffer.lines_empty, Transcript.ofBytes,
      Bool.false_eq_true, if_false]
  have read := headerRead_readHeader fresh
  rw [whole, transcript]
  generalize (of source).readHeader = result at read
  obtain ⟨answer, r⟩ := result
  cases read with
  | refused whole => exact whole.symm
  | given ready unread left whole =>
    have records := records_eq_rows ready left
    rw [unread] at records
    rw [whole, ← records]

theorem transcript_of_script {pieces : List Bytes} (nonempty : [] ∉ pieces) (closeFails : Bool) :
    (of (ScriptSource.ofScript (pieces.map .ok) closeFails)).transcript =
        .ofBytes pieces.flatten none ∧
      (of (Tally.of (ScriptSource.ofScript (pieces.map .ok) closeFails))).transcript =
        .ofBytes pieces.flatten none := by
  have drained : Source.drain (ScriptSource.ofScript (pieces.map .ok) closeFails) =
      (pieces.flatten, none) :=
    (ScriptSource.drain_eq _ _ _).trans (ScriptSource.content_pieces nonempty)
  constructor
  · rw [transcript_of_source, drained]
  · rw [transcript_of_source, Tally.of, Tally.drain_eq, drained]

theorem transcript_of_chunks (pieces : List Bytes) :
    (of (⟨pieces⟩ : ChunkSource)).transcript = .ofBytes pieces.flatten none ∧
      (of (Tally.of (⟨pieces⟩ : ChunkSource))).transcript = .ofBytes pieces.flatten none := by
  constructor
  · rw [transcript_of_source, ChunkSource.drain_eq]
  · rw [transcript_of_source, Tally.of, Tally.drain_eq, ChunkSource.drain_eq]

/-- Pieces that are never empty may come as they are; chunks may also be empty. Watching either
source makes no difference. -/
theorem transcript_of_pieces {bytes : Bytes} {pieces : List Bytes}
    (whole : pieces.flatten = bytes) :
    ([] ∉ pieces → ∀ closeFails,
      (of (ScriptSource.ofScript (pieces.map .ok) closeFails)).transcript = .ofBytes bytes none ∧
      (of (Tally.of (ScriptSource.ofScript (pieces.map .ok) closeFails))).transcript =
        .ofBytes bytes none) ∧
    (of (⟨pieces⟩ : ChunkSource)).transcript = .ofBytes bytes none ∧
    (of (Tally.of (⟨pieces⟩ : ChunkSource))).transcript = .ofBytes bytes none := by
  subst whole
  exact ⟨fun nonempty closeFails => transcript_of_script nonempty closeFails,
    transcript_of_chunks pieces⟩

/-- Two columns. The cuts are inside escape pairs, one of them before a tab, before the tab between
two fields and inside a character of two bytes. -/
theorem transcript_of_pieces_inside_pair :
    (of (ScriptSource.ofScript ([[0x6e, 0x09, 0x6d, 0x0a, 0x74, 0x5c],
      [0x0a, 0x09, 0x74, 0x0a, 0x78, 0x5c], [0x09, 0x79], [0x09, 0xc3],
      [0xa9, 0x0a]].map .ok) false)).transcript =
        ⟨some ⟨[['n'], ['m']], [['t', '\n'], ['t']]⟩, [[['x', '\\', '\t', 'y'], ['é']]], none⟩ :=
  ((transcript_of_pieces rfl).1 (by decide) false).1.trans rfl

end RecordReader

end RowStream
