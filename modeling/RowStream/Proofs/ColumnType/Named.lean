import RowStream.Calendar.RegionTable
import RowStream.Proofs.ColumnType.Grammar
import RowStream.Proofs.ColumnType.Lexeme

/-! The canonical name of a type is a tag of that type, and of no other one. -/
namespace RowStream

namespace Zone

/-- A name for UTC or for a region is not empty and holds neither a quote nor a backslash, since the
blanks around it do not either. -/
theorem quotable_of_ofName [ZoneDatabase] (plain : ZoneDatabase.PlainNames) {name : Text}
    {zone : Zone} (known : ofName name = .ok zone) : TagToken.Quotable name ∧ name ≠ [] := by
  have key : TagToken.Quotable (Text.trim name) ∧ Text.trim name ≠ [] := by
    simp only [ofName] at known
    split at known
    · rename_i utc
      constructor
      · intro c mem
        have upper := List.mem_map_of_mem (f := Char.toUpper) mem
        rw [show (Text.trim name).map Char.toUpper = "UTC".toList from utc] at upper
        constructor
        · rintro rfl
          exact absurd upper (by decide)
        · rintro rfl
          exact absurd upper (by decide)
      · intro none
        rw [none] at utc
        exact absurd utc (by decide)
    · split at known
      · rename_i region found
        refine ⟨plain.quotable _ region found, ?_⟩
        intro none
        rw [none, plain.named] at found
        cases found
      · cases known
  constructor
  · intro c mem
    rcases Text.mem_of_mem_trim_or_isBlank mem with inside | blank
    · exact key.1 c inside
    · constructor
      · rintro rfl
        exact absurd blank (by decide)
      · rintro rfl
        exact absurd blank (by decide)
  · rintro rfl
    exact key.2 rfl

end Zone

namespace ColumnType

open TagToken (Stops Opens scan isWritten)

variable {rest : Text} {more : List TagToken}

/-- The text is scanned into the tokens, and what follows it into those that follow. -/
def Scans (t : Text) (tokens : List TagToken) : Prop :=
  ∀ rest more, Stops rest → scan rest = .ok more → scan (t ++ rest) = .ok (tokens ++ more)

theorem scan_of_opens {t : Text} {token : TagToken} (h : Opens t token rest)
    (scanned : scan rest = .ok more) : scan t = .ok (token :: more) := by
  rw [h.scan_eq, scanned]
  rfl

theorem scan_of_opens_blank {t : Text} {token : TagToken} (h : Opens t token rest)
    (scanned : scan rest = .ok more) : scan (' ' :: t) = .ok (token :: more) := by
  rw [h.scan_blank, scanned]
  rfl

theorem stops_nil : Stops [] := fun _ next => nomatch next

theorem stops_cons {c : Char} (outside : TagToken.isWordRest c = false)
    (undigit : Text.isDecimalDigit c = false) (rest : Text) : Stops (c :: rest) := by
  intro d next
  obtain rfl := Option.some.inj next
  exact ⟨outside, undigit⟩

theorem scan_mark {c : Char} (mark : TagToken.isMark c) (scanned : scan rest = .ok more) :
    scan (c :: rest) = .ok (.mark c :: more) :=
  scan_of_opens (TagToken.opens_mark mark rest) scanned

/-- What a name says about nullability, as the marker behind a tag. -/
def nameMarker (nullable : Bool) : Option Bool := if nullable then some true else none

theorem stops_nullMarker (nullable : Bool) (stops : Stops rest) :
    Stops (nullMarker nullable ++ rest) := by
  cases nullable with
  | false => exact stops
  | true => exact stops_cons (by decide) (by decide) _

theorem scans_nullMarker (nullable : Bool) :
    Scans (nullMarker nullable) ((markerWords (nameMarker nullable)).map .word) := by
  intro rest more stops scanned
  cases nullable with
  | false => exact scanned
  | true => exact scan_of_opens_blank (TagToken.opens_word rfl stops) scanned

theorem solid_nullMarker {t : Text} (solid : Text.Solid t) (nullable : Bool) :
    Text.Solid (t ++ nullMarker nullable) := by
  have null : Text.Solid "null".toList := ⟨⟨'n', rfl, rfl⟩, 'l', rfl, rfl⟩
  cases nullable with
  | false => rwa [nullMarker, if_neg (by decide), List.append_nil]
  | true => exact solid.between null [' ']

theorem marked_nameMarker (kind : ScalarKind) (a : Attributes) :
    (scalar kind { a with nullable := false }).marked (nameMarker a.nullable) = scalar kind a := by
  obtain ⟨nullable, _, _, _, _, _⟩ := a
  cases nullable <;> rfl

/-- The arguments in a name, with their tokens. -/
inductive NamesArguments : Text → List TagToken → List TagArgument → Prop where
  | absent : NamesArguments [] [] []
  | scale {p s : Nat} (small : p ≤ ScalarFamily.largestPrecision) (fits : s ≤ p) :
    NamesArguments ('(' :: Text.ofNat p ++ ',' :: ' ' :: Text.ofNat s ++ [')'])
      (.mark '(' :: [.number (Text.ofNat p), .mark ',', .number (Text.ofNat s)] ++ [.mark ')'])
      [.number p, .number s]
  | zone {name : Text} (quotable : TagToken.Quotable name) :
    NamesArguments ('(' :: '\'' :: name ++ '\'' :: [')'])
      (.mark '(' :: [.quoted name] ++ [.mark ')']) [.text name]

namespace NamesArguments

variable {t : Text} {tokens : List TagToken} {arguments : List TagArgument}

theorem written (h : NamesArguments t tokens arguments) : Arguments tokens arguments := by
  cases h with
  | absent => exact .absent
  | @scale p s small fits =>
    have number (n : Nat) : Argument (.number (Text.ofNat n)) (.number n) := by
      have one := Argument.number (Text.ofNat n)
      rwa [Text.decimalNumber_ofNat] at one
    exact .given (.cons (number p) (.last (number s)))
  | @zone name quotable => exact .given (.last (.quoted name))

theorem readable (h : NamesArguments t tokens arguments) : Readable tokens := by
  have short {n : Nat} (small : n ≤ ScalarFamily.largestPrecision) :
      (Text.ofNat n).length ≤ Text.digitLimit := by
    have two : (Text.ofNat n).length ≤ 2 :=
      Text.length_ofNat_le (Nat.lt_of_le_of_lt small (by decide)) (by decide)
    exact Nat.le_trans two (by decide)
  intro digits mem
  cases h with
  | absent => cases mem
  | @scale p s small fits =>
    simp only [List.cons_append, List.nil_append, List.mem_cons, TagToken.number.injEq,
      reduceCtorEq, false_or, List.not_mem_nil, or_false] at mem
    rcases mem with rfl | rfl
    · exact short small
    · exact short (Nat.le_trans fits small)
  | zone quotable => simp at mem

theorem stops (h : NamesArguments t tokens arguments) (stops : Stops rest) : Stops (t ++ rest) := by
  cases h with
  | absent => exact stops
  | scale | zone => exact stops_cons (by decide) (by decide) _

theorem scans (h : NamesArguments t tokens arguments) : Scans t tokens := by
  intro rest more stops scanned
  have number (n : Nat) {rest : Text} (stops : Stops rest) :
      Opens (Text.ofNat n ++ rest) (.number (Text.ofNat n)) rest :=
    TagToken.opens_number (Text.ofNat_ne_nil n) (fun _ => Text.isDigit_of_mem_ofNat) stops
  cases h with
  | absent => exact scanned
  | @scale p s =>
    have closed := scan_mark (c := ')') rfl scanned
    have second := scan_of_opens_blank (number s (stops_cons (by decide) (by decide) rest)) closed
    have comma := scan_mark (c := ',') rfl second
    have first := scan_of_opens (number p (stops_cons (by decide) (by decide) _)) comma
    have opened := scan_mark (c := '(') rfl first
    simpa using opened
  | @zone name quotable =>
    have closed := scan_mark (c := ')') rfl scanned
    have quoted := scan_of_opens (TagToken.opens_quoted quotable (')' :: rest)) closed
    have opened := scan_mark (c := '(') rfl quoted
    simpa using opened

theorem solid (h : NamesArguments t tokens arguments) {word : Text} (solid : Text.Solid word) :
    Text.Solid (word ++ t) := by
  have closing : Text.Solid [')'] := ⟨⟨')', rfl, rfl⟩, ')', rfl, rfl⟩
  cases h with
  | absent => rwa [List.append_nil]
  | scale => exact solid.between closing _
  | @zone name quotable =>
    have whole := solid.between closing ('(' :: '\'' :: name ++ ['\''])
    simpa using whole

end NamesArguments

theorem scalarName_decimal (p s : Nat) (nullable : Bool) :
    scalarName .decimal { nullable, precision := some p, scale := some s } =
      "decimal".toList ++ ('(' :: Text.ofNat p ++ ',' :: ' ' :: Text.ofNat s ++ [')']) := by
  change "decimal(".toList ++ Text.ofNat p ++ ", ".toList ++ Text.ofNat s ++ [')'] = _
  rw [show "decimal(".toList = "decimal".toList ++ ['('] from rfl,
    show ", ".toList = [',', ' '] from rfl]
  simp only [List.append_assoc, List.cons_append, List.nil_append]

theorem scalarName_zone (c : Char) (name : Text) (nullable : Bool) :
    scalarName .timestamptz { nullable, timezone := some (c :: name) } =
      "timestamptz".toList ++ ('(' :: '\'' :: (c :: name) ++ '\'' :: [')']) := by
  change "timestamptz('".toList ++ c :: name ++ "')".toList = _
  rw [show "timestamptz('".toList = "timestamptz".toList ++ ['(', '\''] from rfl,
    show "')".toList = ['\'', ')'] from rfl]
  simp only [List.append_assoc, List.cons_append, List.nil_append]

/-- The name of a scalar is a word with the arguments that make up the type. -/
structure NamesScalar [ZoneDatabase] (kind : ScalarKind) (a : Attributes) (word : String)
    (family : ScalarFamily) (t : Text) (tokens : List TagToken) (arguments : List TagArgument) :
      Prop where
  known : (word, family) ∈ ScalarFamily.names
  written : isWritten word.toList
  eq : scalarName kind a = word.toList ++ t
  named : NamesArguments t tokens arguments
  given : family.Gives arguments (.scalar kind { a with nullable := false })

theorem exists_namesScalar [ZoneDatabase] (regions : ZoneDatabase.PlainNames) {kind : ScalarKind}
    {a : Attributes} (admits : kind.Admits a) :
    ∃ word family t tokens arguments, NamesScalar kind a word family t tokens arguments := by
  -- a name without arguments is an entry of the table that is written as it is scanned
  have plain {kind : ScalarKind} {a : Attributes} {family : ScalarFamily}
      (listed : ∃ entry ∈ ScalarFamily.names, entry.2 = family ∧ isWritten entry.1.toList ∧
        entry.1.toList = scalarName kind a)
      (given : family.Gives [] (.scalar kind { a with nullable := false })) :
      ∃ word family t tokens arguments, NamesScalar kind a word family t tokens arguments := by
    obtain ⟨⟨word, _⟩, known, rfl, written, eq⟩ := listed
    exact ⟨word, _, [], [], [], known, written, by rw [← eq, List.append_nil], .absent, given⟩
  obtain ⟨nullable, width, signed, precision, scale, timezone⟩ := a
  cases kind with
  | integer =>
    obtain ⟨width, wide, eq⟩ := admits
    cases eq
    have all : ∀ width ∈ [8, 16, 32, 64, 128, 256], ∀ signed : Bool, ∃ entry ∈ ScalarFamily.names,
        entry.2 = .integer width signed ∧ isWritten entry.1.toList ∧
          entry.1.toList = (if signed then "int" else "uint").toList ++ Text.ofNat width := by
      decide +kernel
    exact plain (all width wide signed) (.integer width signed)
  | float =>
    obtain ⟨width, wide, eq⟩ := admits
    cases eq
    have all : ∀ width ∈ [32, 64], ∃ entry ∈ ScalarFamily.names, entry.2 = .float width ∧
        isWritten entry.1.toList ∧ entry.1.toList = "float".toList ++ Text.ofNat width := by
      decide +kernel
    exact plain (all width wide) (.float width)
  | decimal =>
    rcases admits with eq | ⟨p, s, positive, small, fits, eq⟩
    · cases eq
      exact plain ⟨("decimal", .decimal), by decide, rfl, rfl, rfl⟩ .decimal
    · cases eq
      exact ⟨"decimal", .decimal, _, _, _, by decide, rfl, scalarName_decimal p s nullable,
        .scale small fits, .scale positive small fits⟩
  | timestamptz =>
    rcases admits with eq | ⟨name, zone, known, eq⟩
    · cases eq
      exact plain ⟨("timestamptz", .timestamp true), by decide, rfl, rfl, rfl⟩
        (.timestamp true .unsaid)
    · cases eq
      obtain ⟨quotable, some⟩ := Zone.quotable_of_ofName regions known
      obtain ⟨c, name, rfl⟩ := List.exists_cons_of_ne_nil some
      exact ⟨"timestamptz", .timestamp true, _, _, _, by decide, rfl,
        scalarName_zone c name nullable, .zone quotable, .zone true .unsaid known⟩
  | timestamp =>
    cases admits
    exact plain ⟨("timestamp", .timestamp false), by decide, rfl, rfl, rfl⟩
      (.timestamp false .unsaid)
  | text =>
    cases admits
    exact plain ⟨("text", .text), by decide, rfl, rfl, rfl⟩ .text
  | boolean =>
    cases admits
    exact plain ⟨("boolean", .plain .boolean), by decide, rfl, rfl, rfl⟩ (.plain .boolean)
  | bytea =>
    cases admits
    exact plain ⟨("bytea", .plain .bytea), by decide, rfl, rfl, rfl⟩ (.plain .bytea)
  | date =>
    cases admits
    exact plain ⟨("date", .plain .date), by decide, rfl, rfl, rfl⟩ (.plain .date)
  | time =>
    cases admits
    exact plain ⟨("time", .plain .time), by decide, rfl, rfl, rfl⟩ (.plain .time)

/-- The tokens that the name of a type is scanned into derive that type. -/
structure Names [ZoneDatabase] (t : ColumnType) (tokens : List TagToken) : Prop where
  derived : Derives tokens t
  readable : Readable tokens
  scans : Scans t.name tokens
  solid : Text.Solid t.name

@[simp] theorem name_scalar (kind : ScalarKind) (a : Attributes) :
    (scalar kind a).name = scalarName kind a ++ nullMarker a.nullable := rfl

@[simp] theorem name_array (element : ColumnType) (nullable : Bool) :
    (array element { nullable }).name =
      "array".toList ++ '(' :: (element.name ++ ')' :: nullMarker nullable) := rfl

theorem exists_names_scalar [ZoneDatabase] (plain : ZoneDatabase.PlainNames) {kind : ScalarKind}
    {a : Attributes} (admits : kind.Admits a) :
    ∃ tokens, Names (.scalar kind a) tokens := by
  obtain ⟨word, family, t, tokens, arguments, known, written, eq, named, given⟩ :=
    exists_namesScalar plain admits
  have spelled : Text.joined [' '] [word.toList] = word.toList := Text.joined_singleton _ _
  have derived := Derives.scalar known spelled named.written given (nameMarker a.nullable)
  rw [marked_nameMarker] at derived
  refine ⟨_, derived, ?_, ?_, ?_⟩
  · intro digits mem
    refine named.readable digits ?_
    cases a.nullable <;> simpa [nameMarker, markerWords] using mem
  · intro rest more stops scanned
    have marker := scans_nullMarker a.nullable rest more stops scanned
    have listed := named.scans _ _ (stops_nullMarker a.nullable stops) marker
    have front := TagToken.opens_word written (named.stops (stops_nullMarker a.nullable stops))
    have whole := scan_of_opens front listed
    rw [name_scalar, eq]
    simp only [List.append_assoc] at whole ⊢
    exact whole
  · rw [name_scalar, eq]
    exact solid_nullMarker (named.solid (TagToken.solid_of_isWritten written)) a.nullable

/-- By induction over the type: a name is scanned from its end, so that each part is followed by
text that has been scanned already. -/
theorem exists_names [ZoneDatabase] (plain : ZoneDatabase.PlainNames) {t : ColumnType}
    (formed : t.WellFormed) : ∃ tokens, Names t tokens := by
  induction formed with
  | scalar admits => exact exists_names_scalar plain admits
  | @array element inner nullable ih =>
    obtain ⟨tokens, derived, readable, scans, solid⟩ := ih
    have whole := Derives.array derived (nameMarker nullable)
    have marked : (array element {}).marked (nameMarker nullable) = array element { nullable } := by
      cases nullable <;> rfl
    rw [marked] at whole
    refine ⟨_, whole, ?_, ?_, ?_⟩
    · intro digits mem
      refine readable digits ?_
      cases nullable <;> simpa [nameMarker, markerWords] using mem
    · intro rest more stops scanned
      have marker := scans_nullMarker nullable rest more stops scanned
      have closed := scan_mark (c := ')') rfl marker
      have inside := scans _ _ (stops_cons (by decide) (by decide) _) closed
      have opened := scan_mark (c := '(') rfl inside
      have stops := stops_cons (c := '(') (by decide) (by decide)
      have front := scan_of_opens (TagToken.opens_word (t := "array".toList) rfl (stops _)) opened
      rw [name_array]
      simp only [List.append_assoc, List.cons_append] at front ⊢
      exact front
    · have word : Text.Solid "array".toList := ⟨⟨'a', rfl, rfl⟩, 'y', rfl, rfl⟩
      have closing : Text.Solid [')'] := ⟨⟨')', rfl, rfl⟩, ')', rfl, rfl⟩
      have bracketed := word.between closing ('(' :: element.name)
      have whole := solid_nullMarker bracketed nullable
      rw [name_array]
      simp only [List.append_assoc, List.cons_append, List.nil_append] at whole ⊢
      exact whole

theorem ofTag_name_of_wellFormed [ZoneDatabase] (plain : ZoneDatabase.PlainNames)
    {t : ColumnType} (formed : t.WellFormed) :
    ofTag t.name = .ok t := by
  obtain ⟨tokens, derived, readable, scans, solid⟩ := exists_names plain formed
  have scanned : TagToken.ofTag t.name = .ok tokens := by
    have whole := scans [] [] stops_nil (by unfold scan; rfl)
    rwa [List.append_nil, List.append_nil, ← solid.trim_eq] at whole
  exact ofTag_eq_ok_iff.2 ⟨tokens, scanned, (ofTokens_eq_ok_iff readable).2 derived⟩

/-- The name of the type of a tag is again a tag of that type. So tags with one name have one type,
and naming a type anew changes nothing. -/
theorem ofTag_name [ZoneDatabase] (plain : ZoneDatabase.PlainNames) {tag : Text} {t : ColumnType}
    (h : ofTag tag = .ok t) :
    ofTag t.name = .ok t ∧
      (∀ tag' t', ofTag tag' = .ok t' → t'.name = t.name → t' = t) ∧
      ∀ t', ofTag t.name = .ok t' → t'.name = t.name := by
  have named := ofTag_name_of_wellFormed plain (wellFormed_ofTag h)
  refine ⟨named, ?_, ?_⟩
  · intro tag' t' h' same
    have named' := ofTag_name_of_wellFormed plain (wellFormed_ofTag h')
    rw [same, named] at named'
    exact (Except.ok.inj named').symm
  · intro t' again
    rw [named] at again
    rw [Except.ok.inj again]

theorem ofTag_name_nested :
    let tag := "Array(Nullable(Array(DateTime64(6, ' Europe/Berlin') NOT null)) NULL)".toList
    let name := "array(array(timestamptz(' Europe/Berlin')) null)".toList
    ZoneDatabase.PlainNames ∧ ∃ t, ofTag tag = .ok t ∧ t.name = name ∧ ofTag t.name = .ok t := by
  intro tag name
  have read : ofTag tag = .ok (.array (.array (.scalar .timestamptz
      { timezone := some " Europe/Berlin".toList }) { nullable := true }) {}) :=
    Except.of_toOption_eq_some (by decide +kernel)
  exact ⟨Region.plainNames, _, read, by decide, (ofTag_name Region.plainNames read).1⟩

end ColumnType

end RowStream
