import RowStream.Calendar.RegionTable
import RowStream.Proofs.ColumnType.Arguments
import RowStream.Proofs.ColumnType.Marker

/-! The grammar of type tags: the parser takes what it derives, and nothing else. -/
namespace RowStream.ColumnType

/-- Arguments in parentheses, which are left out where there is none. -/
inductive Arguments : List TagToken → List TagArgument → Prop where
  | absent : Arguments [] []
  | given {tokens : List TagToken} {arguments : List TagArgument}
    (listed : Listed tokens arguments) : Arguments (.mark '(' :: tokens ++ [.mark ')']) arguments

section

variable [ZoneDatabase]

/-- The tokens of a type: a name with its arguments, or a type inside a wrapper, and behind either
a marker. -/
inductive Derives : List TagToken → ColumnType → Prop where
  | scalar {words : List Text} {name : String} {family : ScalarFamily}
    (known : (name, family) ∈ ScalarFamily.names) (spelled : Text.joined [' '] words = name.toList)
    {tokens : List TagToken} {arguments : List TagArgument} (written : Arguments tokens arguments)
    {t : ColumnType} (given : family.Gives arguments t) (marker : Option Bool) :
    Derives (words.map .word ++ tokens ++ (markerWords marker).map .word) (t.marked marker)
  | array {tokens : List TagToken} {element : ColumnType} (inner : Derives tokens element)
    (marker : Option Bool) :
    Derives (.word "array".toList :: .mark '(' :: tokens ++ .mark ')' ::
      (markerWords marker).map .word) ((ColumnType.array element {}).marked marker)
  | nullable {tokens : List TagToken} {t : ColumnType} (inner : Derives tokens t)
    (marker : Option Bool) :
    Derives (.word "nullable".toList :: .mark '(' :: tokens ++ .mark ')' ::
      (markerWords marker).map .word) ((t.withNullable true).marked marker)

variable {words names : List Text} {marker : Option Bool} {tokens rest : List TagToken}

/-- A wrapper is one word, so that it takes the word `array` or `nullable` to open it. -/
theorem derives_wrap (wrapper : isWrapper (Text.joined [' '] names))
    {inner : List TagToken} {t : ColumnType} (h : Derives inner t) (marker : Option Bool) :
    Derives (names.map .word ++ .mark '(' :: inner ++ .mark ')' :: (markerWords marker).map .word)
      ((wrap (Text.joined [' '] names) t).marked marker) := by
  simp only [isWrapper, Bool.or_eq_true, decide_eq_true_eq] at wrapper
  obtain array | nullable := wrapper
  · rw [array, wrap, if_pos rfl, eq_singleton_of_joined (by decide) (by decide) array]
    exact .array h marker
  · rw [nullable, wrap, if_neg (by decide), eq_singleton_of_joined (by decide) (by decide) nullable]
    exact .nullable h marker

omit [ZoneDatabase] in
theorem of_expectClosing (h : expectClosing tokens = .ok rest) : tokens = .mark ')' :: rest := by
  unfold expectClosing at h
  split at h
  · cases h
    rfl
  · cases h

theorem derives_of_parse {t : ColumnType} (h : parse tokens = .ok (t, rest)) :
    ∃ consumed, tokens = consumed ++ rest ∧ Derives consumed t := by
  fun_induction parse tokens generalizing t rest with
  | case1 => cases h
  | case2 tokens names =>
    rename_i inner opened wrapper _ split ih
    obtain ⟨⟨element, after⟩, parsed, h⟩ := Except.of_bind_eq_ok h
    obtain ⟨consumed, spelled, derived⟩ := ih parsed
    obtain ⟨closed, closing, h⟩ := Except.of_bind_eq_ok h
    obtain ⟨trailing, behind, -, rfl⟩ := of_withTrailingMarker h
    have front := front_of_splitMarker split
    rw [opened, spelled, of_expectClosing closing, behind] at front
    exact ⟨_, front.trans (by simp [markerWords]), derives_wrap wrapper derived trailing⟩
  | case3 tokens names =>
    rename_i inner opened _ split
    obtain ⟨⟨arguments, after⟩, parsed, h⟩ := Except.of_bind_eq_ok h
    obtain ⟨listed, spelled, written⟩ := of_parseArguments parsed
    obtain ⟨scalar, built, h⟩ := Except.of_bind_eq_ok h
    obtain ⟨known, family, named, eq, given⟩ := scalarOfName_eq_ok_iff.1 built
    obtain ⟨trailing, behind, -, rfl⟩ := of_withTrailingMarker h
    have front := front_of_splitMarker split
    rw [opened, spelled, behind] at front
    exact ⟨_, front.trans (by simp [markerWords]),
      .scalar named eq (.given written) given trailing⟩
  | case4 => cases h
  | case5 tokens names =>
    rename_i marker _ split _
    obtain ⟨scalar, built, h⟩ := Except.of_bind_eq_ok h
    obtain ⟨known, family, named, eq, given⟩ := scalarOfName_eq_ok_iff.1 built
    obtain ⟨trailing, behind, once, rfl⟩ := of_withTrailingMarker h
    have front := front_of_splitMarker split
    rw [behind] at front
    refine ⟨_, front.trans ?_, .scalar named eq .absent given (marker.or trailing)⟩
    -- of the marker among the words and the one behind them, at most one is there
    obtain rfl | rfl := once <;> simp [markerWords]

/-- What follows a type inside a tag: nothing, or the parenthesis that closes a wrapper. -/
def Closes (rest : List TagToken) : Prop := ∀ token ∈ rest.head?, token = .mark ')'

omit [ZoneDatabase] in
theorem Closes.wordless (closes : Closes rest) : Wordless rest := fun token next => by
  rw [closes token next]
  rfl

omit [ZoneDatabase] in
theorem closes_closing (rest : List TagToken) : Closes (.mark ')' :: rest) :=
  fun _ next => (Option.some.inj next).symm

theorem parse_opened (some : names ≠ []) (unmarked : Unmarked names) (inner : List TagToken) :
    parse (names.map .word ++ .mark '(' :: inner) =
      (if isWrapper (Text.joined [' '] names) then do
        let (element, rest) ← parse inner
        withTrailingMarker none (wrap (Text.joined [' '] names) element) (← expectClosing rest)
      else do
        let (arguments, rest) ← parseArguments inner
        withTrailingMarker none (← scalarOfName (Text.joined [' '] names) arguments) rest) := by
  have wordless : Wordless (.mark '(' :: inner) := fun _ h => Option.some.inj h ▸ rfl
  have taken := takeWords_append names wordless
  have split : splitMarker (names ++ markerWords none) = (names, none) :=
    splitMarker_append unmarked
  rw [markerWords, List.append_nil] at split
  rw [parse]
  simp only [taken, split, List.isEmpty_iff, some, if_false]
  split
  · rename_i opened
    rw [taken] at opened
    cases opened
    rfl
  · rename_i unopened
    exact absurd (congrArg Prod.snd taken) (unopened inner rfl)

theorem parse_unopened (some : names ≠ []) (unmarked : Unmarked names)
    (scalar : isWrapper (Text.joined [' '] names) = false) (marker : Option Bool)
    (closes : Closes rest) :
    parse ((names ++ markerWords marker).map .word ++ rest) = (do
      withTrailingMarker marker (← scalarOfName (Text.joined [' '] names) []) rest) := by
  have taken := takeWords_append (names ++ markerWords marker) closes.wordless
  rw [parse]
  simp only [taken, splitMarker_append unmarked, List.isEmpty_iff, some, scalar, if_false]
  split
  · rename_i opened
    rw [taken] at opened
    cases closes (.mark '(') (by rw [show rest = _ from opened]; rfl)
  · rw [taken]
    rfl

theorem parse_arguments (some : names ≠ []) (unmarked : Unmarked names)
    (scalar : isWrapper (Text.joined [' '] names) = false) {inner : List TagToken}
    {arguments : List TagArgument} {t : ColumnType}
    (read : parseArguments inner = .ok (arguments, rest))
    (built : scalarOfName (Text.joined [' '] names) arguments = .ok t) :
    parse (names.map .word ++ .mark '(' :: inner) = withTrailingMarker none t rest := by
  rw [parse_opened some unmarked, scalar, read]
  change (scalarOfName _ arguments >>= fun t => withTrailingMarker none t rest) = _
  rw [built]
  rfl

theorem parse_wrapper {wrapper : Text} (known : isWrapper wrapper) (unmarked : Unmarked [wrapper])
    {inner : List TagToken} {t : ColumnType} (closes : Closes rest)
    (parsed : parse (inner ++ .mark ')' :: ((markerWords marker).map .word ++ rest)) =
      .ok (t, .mark ')' :: ((markerWords marker).map .word ++ rest))) :
    parse (.word wrapper :: .mark '(' :: inner ++ .mark ')' :: (markerWords marker).map .word ++
      rest) = .ok ((wrap wrapper t).marked marker, rest) := by
  have opened := parse_opened (List.cons_ne_nil wrapper []) unmarked
    (inner ++ .mark ')' :: ((markerWords marker).map .word ++ rest))
  rw [Text.joined_singleton, known, parsed] at opened
  change _ = withTrailingMarker none (wrap wrapper t) _ at opened
  rw [withTrailingMarker_marker _ marker closes.wordless] at opened
  simpa using opened

omit [ZoneDatabase] in
/-- The words of a name are some, are not taken for a marker, and wrap no type. -/
theorem words_of_spelled {name : String} {family : ScalarFamily}
    (known : (name, family) ∈ ScalarFamily.names)
    (spelled : Text.joined [' '] words = name.toList) :
    words ≠ [] ∧ Unmarked words ∧ isWrapper (Text.joined [' '] words) = false := by
  have all : ∀ entry ∈ ScalarFamily.names, entry.1.toList ≠ [] ∧
      ¬"null".toList <:+ entry.1.toList ∧ ¬"not".toList <:+ entry.1.toList ∧
        isWrapper entry.1.toList = false := by decide +kernel
  obtain ⟨some, notNull, notNot, scalar⟩ := all _ known
  rw [← spelled] at some notNull notNot scalar
  refine ⟨?_, fun last final => ⟨?_, ?_⟩, scalar⟩
  · rintro rfl
    exact some rfl
  · rintro rfl
    exact notNull (suffix_joined final)
  · rintro rfl
    exact notNot (suffix_joined final)

/-- The parser reads a derivation up to its end, since no word and no opening parenthesis follows
it: neither further words nor arguments are taken for its own. -/
theorem parse_of_derives {consumed : List TagToken} {t : ColumnType} (h : Derives consumed t)
    (readable : Readable consumed) (closes : Closes rest) :
    parse (consumed ++ rest) = .ok (t, rest) := by
  induction h generalizing rest with
  | @scalar words name family known spelled tokens arguments written t given marker =>
    obtain ⟨some, unmarked, scalar⟩ := words_of_spelled known spelled
    have built := scalarOfName_eq_ok_iff.2 ⟨name, family, known, spelled, given⟩
    cases written with
    | absent =>
      rw [List.append_nil, ← List.map_append, parse_unopened some unmarked scalar marker closes,
        built]
      exact withTrailingMarker_rest t marker closes.wordless
    | @given listed _ within =>
      have readable : Readable listed := readable.inside ⟨words.map .word ++ [.mark '('],
        .mark ')' :: (markerWords marker).map .word, by simp⟩
      have read := parseArguments_of within readable ((markerWords marker).map .word ++ rest)
      have parsed := parse_arguments some unmarked scalar read built
      rw [withTrailingMarker_marker t marker closes.wordless] at parsed
      simpa using parsed
  | @array tokens element inner marker ih =>
    exact parse_wrapper rfl (by simp [Unmarked]) closes
      (ih (readable.inside ⟨[_, _], _, rfl⟩) (closes_closing _))
  | @nullable tokens t inner marker ih =>
    exact parse_wrapper rfl (by simp [Unmarked]) closes
      (ih (readable.inside ⟨[_, _], _, rfl⟩) (closes_closing _))

theorem derives_of_ofTokens {t : ColumnType} (h : ofTokens tokens = .ok t) : Derives tokens t := by
  unfold ofTokens at h
  split at h
  · cases h
  · obtain ⟨⟨found, after⟩, parsed, h⟩ := Except.of_bind_eq_ok h
    obtain ⟨consumed, spelled, derived⟩ := derives_of_parse parsed
    cases after with
    | nil =>
      cases h
      rwa [spelled, List.append_nil]
    | cons => cases h

theorem ofTokens_eq_ok_iff (readable : Readable tokens) {t : ColumnType} :
    ofTokens tokens = .ok t ↔ Derives tokens t := by
  constructor
  · exact derives_of_ofTokens
  · intro derived
    have closes : Closes [] := fun _ h => nomatch h
    have parsed := parse_of_derives derived readable closes
    rw [List.append_nil] at parsed
    cases tokens with
    | nil => rw [parse] at parsed; cases parsed
    | cons token tokens =>
      simp only [ofTokens, parsed]
      rfl

theorem overlong_of_parse {n : Nat} (h : parse tokens = .error (.digitLimit n)) :
    Overlong tokens n := by
  fun_induction parse tokens with
  | case1 => cases h
  | case2 tokens names =>
    rename_i inner opened wrapper _ split ih
    obtain failed | ⟨⟨element, after⟩, -, h⟩ := Except.of_bind_eq_error h
    · exact (ih failed).around (inner_of_opened opened)
    · obtain failed | ⟨closed, -, h⟩ := Except.of_bind_eq_error h
      · unfold expectClosing at failed
        split at failed <;> cases failed
      · exact (withTrailingMarker_ne_digitLimit _ _ _ _ h).elim
  | case3 tokens names =>
    rename_i inner opened _ split
    obtain failed | ⟨⟨arguments, after⟩, -, h⟩ := Except.of_bind_eq_error h
    · exact (overlong_of_parseArguments failed).around (inner_of_opened opened)
    · obtain failed | ⟨scalar, -, h⟩ := Except.of_bind_eq_error h
      · exact (scalarOfName_ne_digitLimit _ _ _ failed).elim
      · exact (withTrailingMarker_ne_digitLimit _ _ _ _ h).elim
  | case4 => cases h
  | case5 tokens names =>
    obtain failed | ⟨scalar, -, h⟩ := Except.of_bind_eq_error h
    · exact (scalarOfName_ne_digitLimit _ _ _ failed).elim
    · exact (withTrailingMarker_ne_digitLimit _ _ _ _ h).elim

theorem overlong_of_ofTokens {n : Nat} (h : ofTokens tokens = .error (.digitLimit n)) :
    Overlong tokens n := by
  unfold ofTokens at h
  split at h
  · cases h
  · obtain failed | ⟨⟨t, after⟩, -, h⟩ := Except.of_bind_eq_error h
    · exact overlong_of_parse failed
    · cases after <;> cases h

theorem ofTag_eq_ok_iff {tag : Text} {t : ColumnType} :
    ofTag tag = .ok t ↔ ∃ tokens, TagToken.ofTag tag = .ok tokens ∧ ofTokens tokens = .ok t := by
  constructor
  · intro h
    unfold ofTag at h
    split at h
    · rename_i found read
      cases h
      obtain ⟨tokens, scanned, parsed⟩ := Except.of_bind_eq_ok read
      exact ⟨tokens, Except.of_mapError_eq_ok scanned, parsed⟩
    · cases h
    · cases h
  · rintro ⟨tokens, scanned, parsed⟩
    have read : ((TagToken.ofTag tag).mapError TagFault.unexpectedCharacter >>= ofTokens) =
        .ok t := by
      rw [scanned]
      exact parsed
    rw [ofTag, read]

/-- A tag is refused by its text, but for a number in it that is not read. -/
theorem of_ofTag_eq_error {tag : Text} {e : Error} (h : ofTag tag = .error e) :
    (∃ fault, e = .unsupportedType tag fault) ∨
      ∃ tokens n, TagToken.ofTag tag = .ok tokens ∧ Overlong tokens n ∧ e = .digitLimit n := by
  unfold ofTag at h
  split at h
  · cases h
  · rename_i n failed
    cases h
    obtain unscanned | ⟨tokens, scanned, failed⟩ := Except.of_bind_eq_error failed
    · obtain ⟨c, -, other⟩ := Except.of_mapError_eq_error unscanned
      cases other
    · exact .inr ⟨tokens, n, Except.of_mapError_eq_ok scanned, overlong_of_ofTokens failed, rfl⟩
  · cases h
    exact .inl ⟨_, rfl⟩

/-- A tag is taken for the type that its tokens derive from the grammar, and refused where they
derive none. -/
theorem ofTag_iff_derives {tag : Text}
    (readable : ∀ tokens, TagToken.ofTag tag = .ok tokens → Readable tokens) :
    (∀ t, ofTag tag = .ok t ↔ ∃ tokens, TagToken.ofTag tag = .ok tokens ∧ Derives tokens t) ∧
      ((¬∃ t, ofTag tag = .ok t) → ∃ fault, ofTag tag = .error (.unsupportedType tag fault)) := by
  constructor
  · intro t
    rw [ofTag_eq_ok_iff]
    constructor
    · rintro ⟨tokens, scanned, parsed⟩
      exact ⟨tokens, scanned, (ofTokens_eq_ok_iff (readable tokens scanned)).1 parsed⟩
    · rintro ⟨tokens, scanned, derived⟩
      exact ⟨tokens, scanned, (ofTokens_eq_ok_iff (readable tokens scanned)).2 derived⟩
  · intro refused
    cases found : ofTag tag with
    | ok t => exact absurd ⟨t, found⟩ refused
    | error e =>
      obtain ⟨fault, rfl⟩ | ⟨tokens, n, scanned, overlong, -⟩ := of_ofTag_eq_error found
      · exact ⟨fault, rfl⟩
      · exact absurd overlong (not_overlong (readable tokens scanned) n)

end

theorem ofTag_iff_derives_nested :
    ∃ tokens,
      TagToken.ofTag "Array(Nullable(DateTime64(6, 'UTC')) NOT null) null".toList = .ok tokens ∧
        Derives tokens (.array (.scalar .timestamptz { timezone := some "UTC".toList })
          { nullable := true }) := by
  have scanned : TagToken.ofTag "Array(Nullable(DateTime64(6, 'UTC')) NOT null) null".toList =
      .ok [.word "array".toList, .mark '(', .word "nullable".toList, .mark '(',
        .word "datetime64".toList, .mark '(', .number ['6'], .mark ',', .quoted "UTC".toList,
        .mark ')', .mark ')', .word "not".toList, .word "null".toList, .mark ')',
        .word "null".toList] := Except.of_toOption_eq_some (by decide +kernel)
  have readable : ∀ tokens,
      TagToken.ofTag "Array(Nullable(DateTime64(6, 'UTC')) NOT null) null".toList = .ok tokens →
        Readable tokens := by
    rw [scanned]
    rintro _ ⟨⟩ digits within
    obtain rfl : digits = ['6'] := by simpa using within
    decide
  exact ((ofTag_iff_derives readable).1 _).1 (Except.of_toOption_eq_some (by decide +kernel))

end RowStream.ColumnType
