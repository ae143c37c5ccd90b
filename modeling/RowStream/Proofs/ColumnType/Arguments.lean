import RowStream.Proofs.ColumnType.Parsed

/-! The names of scalar types with the arguments that each admits, and how arguments are read. -/
namespace RowStream

namespace ScalarFamily

/-- The arguments that say how many fraction digits a timestamp has. -/
inductive FractionDigits : List TagArgument → Prop where
  | unsaid : FractionDigits []
  | said {digits : Nat} (few : digits ≤ 9) : FractionDigits [.number digits]

/-- The type of a family with the arguments that it admits. -/
inductive Gives [ZoneDatabase] : ScalarFamily → List TagArgument → ColumnType → Prop where
  | integer (width : Nat) (signed : Bool) :
    Gives (.integer width signed) [] (.scalar .integer { width := some width, signed })
  | float (width : Nat) : Gives (.float width) [] (.scalar .float { width := some width })
  | plain (kind : ScalarKind) : Gives (.plain kind) [] (.scalar kind {})
  | decimal : Gives .decimal [] (.scalar .decimal { precision := some defaultPrecision })
  | precision {p : Nat} (positive : 1 ≤ p) (small : p ≤ largestPrecision) :
    Gives .decimal [.number p] (.scalar .decimal { precision := some p, scale := some 0 })
  | scale {p s : Nat} (positive : 1 ≤ p) (small : p ≤ largestPrecision) (fits : s ≤ p) :
    Gives .decimal [.number p, .number s]
      (.scalar .decimal { precision := some p, scale := some s })
  | text : Gives .text [] (.scalar .text {})
  | length (n : Nat) : Gives .text [.number n] (.scalar .text {})
  | timestamp (zoned : Bool) {digits : List TagArgument} (few : FractionDigits digits) :
    Gives (.timestamp zoned) digits (.scalar (if zoned then .timestamptz else .timestamp) {})
  | zone (zoned : Bool) {digits : List TagArgument} (few : FractionDigits digits) {name : Text}
    {zone : Zone} (known : Zone.ofName name = .ok zone) :
    Gives (.timestamp zoned) (digits ++ [.text name])
      (.scalar .timestamptz { timezone := some name })

variable {name : Text} {arguments : List TagArgument} {t : ColumnType}

theorem eq_numbers_of_numeric (numeric : ¬arguments.any TagArgument.isText) :
    arguments = (numbers arguments).map .number := by
  induction arguments with
  | nil => rfl
  | cons argument rest ih =>
    cases argument with
    | number n => exact congrArg (TagArgument.number n :: ·) (ih numeric)
    | text t => exact absurd rfl numeric

theorem eq_texts_of_numberless (numberless : numbers arguments = []) :
    arguments = (texts arguments).map .text := by
  induction arguments with
  | nil => rfl
  | cons argument rest ih =>
    cases argument with
    | number n => cases numberless
    | text t => exact congrArg (TagArgument.text t :: ·) (ih numberless)

/-- Of arguments that have at most one number, and it not behind a text, the number is first. -/
theorem eq_number_and_texts (single : ¬1 < (numbers arguments).length)
    (order : ¬((arguments.head?.map TagArgument.isText).getD false ∧ numbers arguments ≠ [])) :
    arguments = (numbers arguments).map .number ++ (texts arguments).map .text := by
  cases arguments with
  | nil => rfl
  | cons argument rest =>
    cases argument with
    | number n =>
      have count : (numbers (.number n :: rest)).length = (numbers rest).length + 1 := rfl
      have numberless : numbers rest = [] := List.eq_nil_of_length_eq_zero (by omega)
      have later : numbers (.number n :: rest) = [n] := congrArg (n :: ·) numberless
      rw [later]
      exact congrArg (TagArgument.number n :: ·) (eq_texts_of_numberless numberless)
    | text t =>
      have numberless : numbers (.text t :: rest) = [] :=
        Decidable.not_not.1 fun some => order ⟨rfl, some⟩
      rw [numberless]
      exact eq_texts_of_numberless numberless

theorem gives_decimal [ZoneDatabase] {a : Attributes}
    (h : decimalAttributes name arguments = .ok a) :
    Gives .decimal arguments (.scalar .decimal a) := by
  simp only [decimalAttributes] at h
  split at h
  · cases h
  · rename_i numeric
    rw [eq_numbers_of_numeric numeric]
    generalize numbers arguments = given at h ⊢
    split at h
    · cases h
      exact .decimal
    · split at h
      · cases h
      · split at h
        · cases h
        · cases h
          exact .precision (by omega) (by omega)
    · split at h
      · cases h
      · split at h
        · cases h
        · cases h
          exact .scale (by omega) (by omega) (by omega)
    · cases h

theorem fractionDigits_of_few {digits : List Nat} (single : ¬1 < digits.length)
    (few : digits.find? (9 < ·) = none) : FractionDigits (digits.map .number) := by
  cases digits with
  | nil => exact .unsaid
  | cons d more =>
    cases more with
    | nil => exact .said (by simpa using few)
    | cons => exact absurd (Nat.lt_add_left _ (Nat.lt_succ_self 1)) single

theorem gives_timestamp [ZoneDatabase] {zoned : Bool}
    (h : timestampType zoned name arguments = .ok t) : Gives (.timestamp zoned) arguments t := by
  simp only [timestampType] at h
  split at h
  · cases h
  · rename_i admitted
    obtain ⟨single, rest⟩ := not_or.1 admitted
    obtain ⟨oneZone, order⟩ := not_or.1 rest
    rw [eq_number_and_texts single order]
    generalize numbers arguments = digits, texts arguments = zones at h single oneZone ⊢
    split at h
    · cases h
    · rename_i few
      have digits := fractionDigits_of_few single few
      split at h
      · cases h
        rw [List.map_nil, List.append_nil]
        exact .timestamp zoned digits
      · rename_i zone others
        split at h
        · cases h
        · rename_i known
          cases h
          cases others with
          | nil => exact .zone zoned digits known
          | cons => exact absurd (Nat.lt_add_left _ (Nat.lt_succ_self 1)) oneZone

theorem gives_of_build [ZoneDatabase] {family : ScalarFamily}
    (h : family.build name arguments = .ok t) : family.Gives arguments t := by
  have bare {given : ColumnType} (h : (if arguments.isEmpty then .ok given
      else .error (.noArguments name) : Except TagFault ColumnType) = .ok t) :
      arguments = [] ∧ given = t := by
    split at h
    · rename_i none
      exact ⟨List.isEmpty_iff.1 none, Except.ok.inj h⟩
    · cases h
  cases family with
  | integer width signed =>
    obtain ⟨rfl, rfl⟩ := bare h
    exact .integer width signed
  | float width =>
    obtain ⟨rfl, rfl⟩ := bare h
    exact .float width
  | plain kind =>
    obtain ⟨rfl, rfl⟩ := bare h
    exact .plain kind
  | decimal =>
    obtain ⟨a, attributes, rfl⟩ := Except.of_map_eq_ok h
    exact gives_decimal attributes
  | text =>
    simp only [build] at h
    split at h
    · cases h
    · rename_i numeric
      split at h
      · cases h
      · rename_i short
        obtain rfl := Except.ok.inj h
        rw [eq_numbers_of_numeric numeric] at short ⊢
        generalize numbers arguments = given at short ⊢
        cases given with
        | nil => exact .text
        | cons n more =>
          cases more with
          | nil => exact .length n
          | cons => exact absurd (Nat.lt_add_left _ (Nat.lt_succ_self 1)) short
  | timestamp zoned => exact gives_timestamp h

theorem build_of_gives [ZoneDatabase] {family : ScalarFamily} (h : family.Gives arguments t) :
    family.build name arguments = .ok t := by
  cases h with
  | integer | float | plain | decimal | text | length => rfl
  | precision positive small =>
    simp [build, decimalAttributes, numbers, TagArgument.isText, Except.map, Nat.not_lt.2 small,
      Nat.ne_of_gt positive]
  | scale positive small fits =>
    simp [build, decimalAttributes, numbers, TagArgument.isText, Except.map, Nat.not_lt.2 small,
      Nat.ne_of_gt positive, Nat.not_lt.2 fits]
  | timestamp zoned few =>
    cases few with
    | unsaid => rfl
    | said few =>
      simp [build, timestampType, numbers, texts, TagArgument.isText, Nat.not_lt.2 few]
  | zone zoned few known =>
    cases few with
    | unsaid => simp [build, timestampType, numbers, texts, TagArgument.isText, known]
    | said few =>
      simp [build, timestampType, numbers, texts, TagArgument.isText, Nat.not_lt.2 few, known]

theorem mem_names_of_ofName? {family : ScalarFamily} (h : ofName? name = some family) :
    ∃ known, (known, family) ∈ names ∧ known.toList = name := by
  obtain ⟨⟨known, family⟩, found, rfl⟩ := Option.map_eq_some_iff.1 h
  exact ⟨known, List.mem_of_find?_eq_some found, by simpa using List.find?_some found⟩

theorem ofName?_of_mem {known : String} {family : ScalarFamily} (h : (known, family) ∈ names) :
    ofName? known.toList = some family := by
  have all : ∀ entry ∈ names, ofName? entry.1.toList = some entry.2 := by decide +kernel
  exact all _ h

end ScalarFamily

namespace ColumnType

/-- How one argument is written. -/
inductive Argument : TagToken → TagArgument → Prop where
  | number (digits : Text) : Argument (.number digits) (.number (Text.decimalNumber digits))
  | quoted (t : Text) : Argument (.quoted t) (.text t)

/-- Arguments with commas between them. -/
inductive Listed : List TagToken → List TagArgument → Prop where
  | last {token : TagToken} {argument : TagArgument} (one : Argument token argument) :
    Listed [token] [argument]
  | cons {token : TagToken} {argument : TagArgument} (one : Argument token argument)
    {tokens : List TagToken} {arguments : List TagArgument} (others : Listed tokens arguments) :
    Listed (token :: .mark ',' :: tokens) (argument :: arguments)

variable {tokens rest : List TagToken}

theorem of_parseArgument {token : TagToken} {argument : TagArgument}
    (h : parseArgument token = .ok argument) : Argument token argument := by
  cases token with
  | word | mark => cases h
  | quoted t =>
    cases h
    exact .quoted t
  | number digits =>
    simp only [parseArgument] at h
    split at h
    · cases h
    · cases h
      exact .number digits

theorem of_parseArguments {arguments : List TagArgument}
    (h : parseArguments tokens = .ok (arguments, rest)) :
    ∃ listed, tokens = listed ++ .mark ')' :: rest ∧ Listed listed arguments := by
  fun_induction parseArguments tokens generalizing arguments rest with
  | case1 => cases h
  | case2 => cases h
  | case3 token argument after parsed =>
    cases h
    exact ⟨[token], rfl, .last (of_parseArgument parsed)⟩
  | case4 => cases h
  | case5 token argument after parsed arguments after others ih =>
    cases h
    obtain ⟨listed, eq, inner⟩ := ih others
    exact ⟨token :: .mark ',' :: listed, by simp [eq], .cons (of_parseArgument parsed) inner⟩
  | case6 => cases h

/-- Every number is short enough to be read. -/
def Readable (tokens : List TagToken) : Prop :=
  ∀ digits, .number digits ∈ tokens → digits.length ≤ Text.digitLimit

theorem Readable.inside (readable : Readable tokens) (within : rest <:+: tokens) :
    Readable rest := fun digits h => readable digits (within.subset h)

theorem parseArgument_of {token : TagToken} {argument : TagArgument} (one : Argument token argument)
    (readable : ∀ digits, .number digits = token → digits.length ≤ Text.digitLimit) :
    parseArgument token = .ok argument := by
  cases one with
  | quoted t => rfl
  | number digits => simp only [parseArgument, Nat.not_lt.2 (readable digits rfl), if_false]

theorem parseArguments_of {listed : List TagToken} {arguments : List TagArgument}
    (h : Listed listed arguments) (readable : Readable listed) (rest : List TagToken) :
    parseArguments (listed ++ .mark ')' :: rest) = .ok (arguments, rest) := by
  induction h with
  | @last token argument one =>
    have read := parseArgument_of one fun digits here => readable digits (by simp [here])
    simp [parseArguments, read]
  | @cons token argument one tokens arguments others ih =>
    have read := parseArgument_of one fun digits here => readable digits (by simp [here])
    have others := ih fun digits within => readable digits (by simp [within])
    simp [parseArguments, read, others]

/-- A number stands among the tokens that has this many digits, too many to be read. -/
def Overlong (tokens : List TagToken) (length : Nat) : Prop :=
  ∃ digits, .number digits ∈ tokens ∧ digits.length = length ∧ Text.digitLimit < length

theorem Overlong.around {n : Nat} (h : Overlong rest n) (within : rest <:+: tokens) :
    Overlong tokens n := by
  obtain ⟨digits, mem, count⟩ := h
  exact ⟨digits, within.subset mem, count⟩

theorem not_overlong (readable : Readable tokens) (n : Nat) : ¬Overlong tokens n := by
  rintro ⟨digits, within, rfl, long⟩
  exact absurd (readable digits within) (Nat.not_le.2 long)

theorem overlong_of_parseArgument {token : TagToken} {n : Nat}
    (h : parseArgument token = .error (.digitLimit n)) : Overlong [token] n := by
  cases token with
  | word | mark | quoted => cases h
  | number digits =>
    simp only [parseArgument] at h
    split at h
    · cases h
      exact ⟨digits, List.mem_singleton_self _, rfl, ‹_›⟩
    · cases h

theorem overlong_of_parseArguments {n : Nat}
    (h : parseArguments tokens = .error (.digitLimit n)) : Overlong tokens n := by
  fun_induction parseArguments tokens with
  | case1 => cases h
  | case2 token after fault parsed =>
    cases h
    exact (overlong_of_parseArgument parsed).around ⟨[], after, rfl⟩
  | case3 => cases h
  | case4 token argument after parsed fault failed ih =>
    cases h
    exact (ih failed).around ⟨[_, _], [], List.append_nil _⟩
  | case5 => cases h
  | case6 => cases h

theorem scalarOfName_eq_ok_iff [ZoneDatabase] {name : Text} {arguments : List TagArgument}
    {t : ColumnType} :
    scalarOfName name arguments = .ok t ↔
      ∃ known family, (known, family) ∈ ScalarFamily.names ∧ name = known.toList ∧
        family.Gives arguments t := by
  constructor
  · intro h
    unfold scalarOfName at h
    split at h
    · cases h
    · rename_i family found
      obtain ⟨known, listed, rfl⟩ := ScalarFamily.mem_names_of_ofName? found
      exact ⟨known, family, listed, rfl, ScalarFamily.gives_of_build h⟩
  · rintro ⟨known, family, listed, rfl, given⟩
    simp only [scalarOfName, ScalarFamily.ofName?_of_mem listed]
    exact ScalarFamily.build_of_gives given

theorem scalarOfName_ne_digitLimit [ZoneDatabase] (name : Text) (arguments : List TagArgument)
    (n : Nat) : scalarOfName name arguments ≠ .error (.digitLimit n) := by
  intro h
  unfold scalarOfName at h
  split at h
  · cases h
  · rename_i family _
    cases family with
    | integer | float | plain =>
      simp only [ScalarFamily.build] at h
      split at h <;> cases h
    | text =>
      simp only [ScalarFamily.build] at h
      split at h
      · cases h
      · split at h <;> cases h
    | decimal =>
      have failed := Except.of_map_eq_error h
      simp only [ScalarFamily.decimalAttributes] at failed
      repeat' split at failed
      all_goals cases failed
    | timestamp zoned =>
      simp only [ScalarFamily.build, ScalarFamily.timestampType] at h
      repeat' split at h
      all_goals cases h

end ColumnType

end RowStream
