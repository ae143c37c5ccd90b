import RowStream.Proofs.Record.Split
import RowStream.Proofs.Response.Transcript
import RowStream.Proofs.Text.Utf8
import RowStream.Proofs.Value.Encoded

/-! A response that is put together from names, tags and rows is read as these. -/
namespace RowStream

open Token (Whole)

namespace Lines

theorem cut_plain {b : UInt8} (slash : b ≠ backslash) (feed : b ≠ lineFeed) (more : Bytes) :
    cut (b :: more) = (cut more).extend [b] := by
  rw [cut.eq_def]
  simp only [slash, feed, if_false]

theorem cut_lineFeed (more : Bytes) : cut (lineFeed :: more) = cons [] (cut more) := by
  rw [cut.eq_def]
  rfl

theorem cut_pair (b : UInt8) (more : Bytes) :
    cut (backslash :: b :: more) = (cut more).extend [backslash, b] := by
  rw [cut.eq_def]
  rfl

theorem cut_above {bytes : Bytes} (h : ∀ b ∈ bytes, 0x80 ≤ b) (more : Bytes) :
    cut (bytes ++ more) = (cut more).extend bytes := by
  induction bytes with
  | nil => exact (extend_nil _).symm
  | cons b rest ih =>
    obtain ⟨above, others⟩ := List.forall_mem_cons.1 h
    have slash : b ≠ backslash := by
      rintro rfl
      exact absurd above (by decide)
    have feed : b ≠ lineFeed := by
      rintro rfl
      exact absurd above (by decide)
    rw [List.cons_append, cut_plain slash feed, ih others]
    exact (extend_append [b] rest (cut more)).symm

theorem cut_char {c : Char} (slash : c ≠ '\\') (feed : c ≠ '\n') (more : Bytes) :
    cut (String.utf8EncodeChar c ++ more) = (cut more).extend (String.utf8EncodeChar c) := by
  rcases Utf8.utf8EncodeChar_cases c with ⟨ascii, octet⟩ | ⟨-, above⟩
  · have other {b : UInt8} {d : Char} (eq : b.toNat = d.toNat) (h : c ≠ d) :
        UInt8.ofNat c.toNat ≠ b := by
      rintro rfl
      rw [UInt8.toNat_ofNat', Nat.mod_eq_of_lt (by omega)] at eq
      exact h (Char.toNat_inj.1 eq)
    rw [octet]
    exact cut_plain (other rfl slash) (other rfl feed) more
  · exact cut_above above more

theorem cut_escape (c : Char) (more : Bytes) :
    cut (backslash :: (String.utf8EncodeChar c ++ more)) =
      (cut more).extend (backslash :: String.utf8EncodeChar c) := by
  rcases Utf8.utf8EncodeChar_cases c with ⟨-, octet⟩ | ⟨-, above⟩
  · rw [octet]
    exact cut_pair _ more
  · obtain ⟨b, rest, eq⟩ := List.exists_cons_of_ne_nil (String.utf8EncodeChar_ne_nil (c := c))
    rw [eq] at above ⊢
    obtain ⟨-, others⟩ := List.forall_mem_cons.1 above
    rw [List.cons_append, cut_pair, cut_above others]
    exact (extend_append [backslash, b] rest (cut more)).symm

/-- No line feed of a whole token ends a line. -/
theorem cut_encode {t : Text} (h : Whole t) (more : Bytes) :
    cut (Utf8.encode t ++ more) = (cut more).extend (Utf8.encode t) := by
  rw [Utf8.encode]
  induction h with
  | nil => exact (extend_nil _).symm
  | plain h _ ih =>
    rw [List.flatMap_cons, List.append_assoc, cut_char h.1 h.2.2, ih, ← extend_append]
  | pair h _ ih =>
    have slash : String.utf8EncodeChar '\\' = [backslash] := rfl
    rw [List.flatMap_cons, List.flatMap_cons, slash, List.singleton_append, List.cons_append,
      List.append_assoc, cut_escape, ih, ← extend_append]
    rfl

theorem cut_encode_join {tokens : List Text} (h : ∀ t ∈ tokens, Whole t) (more : Bytes) :
    cut (Utf8.encode (Record.join tokens) ++ more) =
      (cut more).extend (Utf8.encode (Record.join tokens)) := by
  refine Text.joined_of_append (P := fun t => ∀ more, cut (Utf8.encode t ++ more) =
    (cut more).extend (Utf8.encode t)) ?_ ?_ ?_ ?_ more
  · intro more
    exact (extend_nil _).symm
  · intro t u first second more
    have split : Utf8.encode (t ++ u) = Utf8.encode t ++ Utf8.encode u := List.flatMap_append
    rw [split, List.append_assoc, first, second, ← extend_append]
  · intro more
    exact cut_char (c := '\t') (by decide) (by decide) more
  · intro t mem more
    exact cut_encode (h t mem) more

end Lines

/-- The bytes of lines, each ended by a line feed. -/
def body (lines : List Text) : Bytes := lines.flatMap fun line => Utf8.encode line ++ [lineFeed]

theorem cut_body {records : List (List Text)} (h : ∀ tokens ∈ records, ∀ t ∈ tokens, Whole t) :
    Lines.cut (body (records.map Record.join)) =
      ⟨(records.map Record.join).map Utf8.encode, []⟩ := by
  rw [body]
  induction records with
  | nil => rfl
  | cons tokens rest ih =>
    obtain ⟨first, others⟩ := List.forall_mem_cons.1 h
    rw [List.map_cons, List.flatMap_cons, List.append_assoc, List.singleton_append,
      Lines.cut_encode_join first, Lines.cut_lineFeed, ih others]
    simp [Lines.cons, Lines.extend]

namespace Transcript

theorem texts_encode (fault : Option Error) (lines : List Text) :
    texts fault (lines.map Utf8.encode) = (lines, fault) := by
  induction lines with
  | nil => rfl
  | cons line rest ih => rw [List.map_cons, texts, Utf8.decode_encode, ih]

theorem rows_join {columns : Nat} (some : 0 < columns) {records : List (List Text)}
    (h : ∀ tokens ∈ records, tokens.length = columns ∧ ∀ t ∈ tokens, Whole t) (row : Nat) :
    rows columns none row (records.map Record.join) = (records, none) := by
  induction records generalizing row with
  | nil => rfl
  | cons tokens rest ih =>
    obtain ⟨⟨count, whole⟩, others⟩ := List.forall_mem_cons.1 h
    have present : tokens ≠ [] := List.length_pos_iff.1 (by omega)
    rw [List.map_cons, rows, Record.split_join_of_whole present whole]
    simp only [if_pos count, ih others]

/-- Names and tags are texts of any kind, and records are tokens that are whole. -/
theorem ofBytes_body {names tags : List Text} (some : names ≠ [])
    (tagged : tags.length = names.length) {records : List (List Text)}
    (h : ∀ tokens ∈ records, tokens.length = names.length ∧ ∀ t ∈ tokens, Whole t) :
    ofBytes (body (Record.join (names.map Token.escape) :: Record.join (tags.map Token.escape) ::
        records.map Record.join)) none =
      ⟨.some ⟨names, tags⟩, records, none⟩ := by
  have escaped (texts : List Text) : ∀ t ∈ texts.map Token.escape, Whole t := by
    intro t mem
    obtain ⟨u, -, rfl⟩ := List.mem_map.1 mem
    exact Token.whole_escape u
  have unescaped (texts : List Text) :
      (texts.map Token.escape).map Token.unescape = texts := by
    rw [List.map_map]
    exact List.map_id'' Token.unescape_escape texts
  have whole : ∀ tokens ∈ names.map Token.escape :: tags.map Token.escape :: records,
      ∀ t ∈ tokens, Whole t := by
    have bodies : ∀ tokens ∈ records, ∀ t ∈ tokens, Whole t := by
      intro tokens mem
      exact (h tokens mem).2
    exact List.forall_mem_cons.2 ⟨escaped names, List.forall_mem_cons.2 ⟨escaped tags, bodies⟩⟩
  have positive : 0 < names.length := List.length_pos_iff.2 some
  have some' : tags ≠ [] := List.length_pos_iff.1 (by omega)
  have cut := cut_body whole
  rw [List.map_cons, List.map_cons] at cut
  rw [ofBytes, cut, texts_encode]
  simp only [ofTexts, lineFault, List.isEmpty_nil, if_true]
  rw [Record.split_join_of_whole (by simpa using some) (escaped names),
    Record.split_join_of_whole (by simpa using some') (escaped tags), unescaped, unescaped,
    if_pos tagged.symm, rows_join positive h]

end Transcript

namespace RecordReader

open ColumnType (encodeRow RowTokens)

/-- The lines of rows, token by token. -/
theorem records_of_lines {types : List ColumnType} {rows : List (List Value)} {lines : List Text}
    (encoded : rows.map (encodeRow · types) = lines.map .ok) :
    ∃ records : List (List Text), lines = records.map Record.join ∧
      rows.map (fun row => List.zipWith (fun v type => type.encode v) row types) =
        records.map (List.map .ok) ∧
      ∀ tokens ∈ records, tokens.length = types.length ∧ ∀ t ∈ tokens, Whole t := by
  induction rows generalizing lines with
  | nil =>
    obtain rfl := List.map_eq_nil_iff.1 encoded.symm
    exact ⟨[], rfl, rfl, by simp⟩
  | cons row rest ih =>
    cases lines with
    | nil => cases encoded
    | cons line more =>
      rw [List.map_cons, List.map_cons, List.cons.injEq] at encoded
      obtain ⟨tokens, given, rfl⟩ := ColumnType.rowTokens_of_encodeRow encoded.1
      obtain ⟨records, rfl, each, whole⟩ := ih encoded.2
      refine ⟨tokens :: records, rfl, ?_, ?_⟩
      · rw [List.map_cons, List.map_cons, given.2, each]
      · exact List.forall_mem_cons.2 ⟨⟨given.length_eq, given.whole⟩, whole⟩

/-- However the response is cut, its reader gives the names and tags, and for each row one record
that has the row's tokens. -/
theorem transcript_of_rows {names tags : List Text} {types : List ColumnType}
    {rows : List (List Value)} {lines : List Text} {pieces : List Bytes} (some : names ≠ [])
    (tagged : tags.length = names.length) (typed : types.length = names.length)
    (encoded : rows.map (encodeRow · types) = lines.map .ok)
    (whole : pieces.flatten = body (Record.join (names.map Token.escape) ::
      Record.join (tags.map Token.escape) :: lines)) :
    ∃ records : List (List Text),
      rows.map (fun row => List.zipWith (fun v type => type.encode v) row types) =
        records.map (List.map .ok) ∧
      ([] ∉ pieces → ∀ closeFails,
        (of (ScriptSource.ofScript (pieces.map .ok) closeFails)).transcript =
          ⟨.some ⟨names, tags⟩, records, none⟩) ∧
      (of (⟨pieces⟩ : ChunkSource)).transcript = ⟨.some ⟨names, tags⟩, records, none⟩ := by
  obtain ⟨records, rfl, each, fits⟩ := records_of_lines encoded
  rw [typed] at fits
  have read := Transcript.ofBytes_body some tagged fits
  refine ⟨records, each, ?_, ?_⟩
  · intro nonempty closeFails
    rw [(transcript_of_script nonempty closeFails).1, whole, read]
  · rw [(transcript_of_chunks pieces).1, whole, read]

/-- A tab in a name and a line feed in a value, with cuts inside both of their escape pairs. -/
theorem transcript_of_rows_inside_pairs :
    ∃ records : List (List Text),
      ([[.ok ['\\', 'n']]] : List (List (Except Error Text))) = records.map (List.map .ok) ∧
      (of (ScriptSource.ofScript ([[0x6e, 0x5c], [0x74, 0x0a, 0x74, 0x0a, 0x5c],
        [0x6e, 0x0a]].map .ok) false)).transcript =
          ⟨some ⟨[['n', '\t']], [['t']]⟩, records, none⟩ := by
  have encoded : [[Value.text ['\n']]].map (encodeRow · [.scalar .text {}]) =
      [['\\', 'n']].map .ok := rfl
  obtain ⟨records, each, read, -⟩ := transcript_of_rows (List.cons_ne_nil ['n', '\t'] [])
    (show [['t']].length = _ from rfl) rfl encoded
    (show [[0x6e, 0x5c], [0x74, 0x0a, 0x74, 0x0a, 0x5c], [0x6e, 0x0a]].flatten = _ from rfl)
  exact ⟨records, each, read (by decide) false⟩

end RecordReader

end RowStream
