import RowStream.Proofs.ColumnType.Grammar
import RowStream.Proofs.ColumnType.Spelling

/-! The layout of tags: neither the case of the letters outside quotes nor blanks between the tokens
matter to the type that a tag names. -/
namespace RowStream

namespace Text

variable {c d : Char}

theorem toLower_of_not_isUpper (h : c.isUpper = false) : c.toLower = c :=
  dif_neg (of_decide_eq_false h)

theorem toNat_lt_of_isUpper (h : c.isUpper) : c.toNat < 128 :=
  toNat_lt_of_isAlpha (Bool.or_eq_true_iff.2 (.inl h))

/-- Characters that are told apart alike in either case. -/
def Caseless (p : Char → Bool) : Prop := ∀ c, p c.toLower = p c

/-- It suffices to look at ASCII, since no other character has a lower case. -/
theorem caseless_of_ascii {p : Char → Bool}
    (all : ∀ n < 128, p (Char.ofNat n).toLower = p (Char.ofNat n)) : Caseless p := by
  intro c
  cases upper : c.isUpper with
  | false => rw [toLower_of_not_isUpper upper]
  | true => exact forall_ascii (P := fun c => p c.toLower = p c) all (toNat_lt_of_isUpper upper)

variable {p : Char → Bool}

theorem Caseless.apply_eq (caseless : Caseless p) (same : d.toLower = c.toLower) : p d = p c := by
  rw [← caseless d, same, caseless c]

theorem Caseless.forall_mem (caseless : Caseless p) {t u : Text} (same : lower u = lower t)
    (h : ∀ c ∈ t, p c) : ∀ d ∈ u, p d := by
  intro d mem
  have lowered : d.toLower ∈ lower t := same ▸ List.mem_map_of_mem mem
  obtain ⟨c, within, eq⟩ := List.mem_map.1 lowered
  rw [caseless.apply_eq eq.symm]
  exact h c within

/-- A text without letters has one spelling. -/
theorem Caseless.eq_of_lower (caseless : Caseless p) (unlettered : ∀ c, p c → c.isUpper = false)
    {t u : Text} (same : lower u = lower t) (h : ∀ c ∈ t, p c) : u = t := by
  have itself {v : Text} (h : ∀ c ∈ v, p c) : lower v = v := by
    apply (List.map_congr_left fun c mem => ?_).trans (List.map_id v)
    exact toLower_of_not_isUpper (unlettered c (h c mem))
  rw [← itself h, ← itself (caseless.forall_mem same h), same]

end Text

namespace TagToken

open Text (isBlank isDecimalDigit trimLeft trimRight trim Caseless)

theorem caseless_isWordStart : Caseless isWordStart := Text.caseless_of_ascii (by decide +kernel)

theorem caseless_isWordRest : Caseless isWordRest := Text.caseless_of_ascii (by decide +kernel)

theorem caseless_isDecimalDigit : Caseless isDecimalDigit :=
  Text.caseless_of_ascii (by decide +kernel)

theorem caseless_isMark : Caseless isMark := Text.caseless_of_ascii (by decide +kernel)

theorem not_isUpper {p : Char → Bool}
    (all : ∀ n < 128, (Char.ofNat n).isUpper → p (Char.ofNat n) = false) (c : Char) (h : p c) :
    c.isUpper = false := by
  cases upper : c.isUpper with
  | false => rfl
  | true =>
    have other := Text.forall_ascii (P := fun c => c.isUpper → p c = false) all
      (Text.toNat_lt_of_isUpper upper) upper
    rw [h] at other
    cases other

/-- The same but for the case of letters, which a quoted text keeps. -/
structure Recased (w w' : Text) : Prop where
  same : Text.lower w' = Text.lower w
  kept : w.head? = some '\'' → w' = w

/-- A token begins here, or the text ends. -/
def AtToken (t : Text) : Prop :=
  t = [] ∨ ∃ w token rest, t = w ++ rest ∧ Lexeme w token rest

/-- The second text is the first with blanks put in front of its tokens and behind the last, and
with letters outside of quotes in another case. -/
inductive Relaid : Text → Text → Prop where
  | nil : Relaid [] []
  | blank {c : Char} {t t' : Text} (h : isBlank c) (before : AtToken t) (more : Relaid t t') :
    Relaid t (c :: t')
  | token {w w' rest rest' : Text} {token : TagToken} (lexeme : Lexeme w token rest)
      (recased : Recased w w') (more : Relaid rest rest') : Relaid (w ++ rest) (w' ++ rest')
  | other {c : Char} {t t' : Text} (outside : ¬AtToken (c :: t)) (more : Relaid t t') :
    Relaid (c :: t) (c :: t')

variable {c : Char} {t t' w w' rest rest' : Text} {token : TagToken} {tokens : List TagToken}

theorem atToken_iff : AtToken (c :: t) ↔ take? (c :: t) ≠ none := by
  constructor
  · rintro (none | ⟨w, token, rest, eq, lexeme⟩)
    · cases none
    · intro refused
      exact take?_eq_none_iff.1 refused w token rest eq lexeme
  · intro taken
    by_contra outside
    apply taken
    apply take?_eq_none_iff.2
    intro w token rest eq lexeme
    exact outside (.inr ⟨w, token, rest, eq, lexeme⟩)

theorem take?_eq_none_of_outside (outside : ¬AtToken (c :: t)) : take? (c :: t) = none := by
  by_contra taken
  exact outside (atToken_iff.2 taken)

theorem not_atToken (blank : isBlank c) : ¬AtToken (c :: t) := fun found =>
  atToken_iff.1 found (take?_blank blank t)

theorem Lexeme.ne_nil (lexeme : Lexeme w token rest) : w ≠ [] := by
  cases lexeme <;> exact List.cons_ne_nil _ _

/-- A character that means nothing between quotes, and that a backslash takes along. -/
def isInert (c : Char) : Bool := c ≠ '\'' && c ≠ '\\' && c ≠ '\n'

theorem caseless_isInert : Caseless isInert := Text.caseless_of_ascii (by decide +kernel)

theorem isInert_iff : isInert c ↔ (c ≠ '\'' ∧ c ≠ '\\') ∧ c ≠ '\n' := by
  simp [isInert]

theorem Lexeme.quoted_or_inert (lexeme : Lexeme w token rest) :
    (∃ t, w = '\'' :: (t ++ ['\'']) ∧ Enclosed t) ∨ ∀ c ∈ w, isInert c := by
  have inert {p : Char → Bool} (others : p '\'' = false ∧ p '\\' = false ∧ p '\n' = false)
      {t : Text} (h : ∀ c ∈ t, p c) : ∀ c ∈ t, isInert c := by
    intro c mem
    have inside := h c mem
    refine isInert_iff.2 ⟨⟨?_, ?_⟩, ?_⟩
    all_goals
      rintro rfl
      simp [others] at inside
  cases lexeme with
  | @word c t _ start others ends =>
    refine .inr (inert (p := isWordRest) (by decide) (List.forall_mem_cons.2 ⟨?_, others⟩))
    simp only [isWordStart, isWordRest, Char.isAlphanum, Bool.or_eq_true] at start ⊢
    exact start.imp_left .inl
  | number digits ends => exact .inr (inert (p := isDecimalDigit) (by decide +kernel) digits)
  | mark h => exact .inr (inert (p := isMark) (by decide) (List.forall_mem_singleton.2 h))
  | quoted inside => exact .inl ⟨_, rfl, inside⟩

/-- What ends a token is at its place after the new layout, or a blank is. -/
theorem Relaid.ends {p : Char → Bool} (caseless : Caseless p) (solid : ∀ c, isBlank c → p c = false)
    (relaid : Relaid rest rest') (ends : ∀ d ∈ rest.head?, p d = false) :
    ∀ d ∈ rest'.head?, p d = false := by
  intro d first
  cases relaid with
  | nil => cases first
  | blank h =>
    obtain rfl := Option.some.inj first
    exact solid _ h
  | other =>
    obtain rfl := Option.some.inj first
    exact ends _ rfl
  | @token w w' _ _ _ lexeme recased more =>
    cases w with
    | nil => exact absurd rfl lexeme.ne_nil
    | cons c w =>
      cases w' with
      | nil => cases recased.same
      | cons c' w' =>
        obtain rfl := Option.some.inj first
        rw [caseless.apply_eq (List.cons.inj recased.same).1]
        exact ends c rfl

/-- A token in another case is the same token, and what follows it in the new layout does not make
it longer. -/
theorem Lexeme.relaid (lexeme : Lexeme w token rest) (recased : Recased w w')
    (more : Relaid rest rest') : Lexeme w' token rest' := by
  cases lexeme with
  | @word c t _ start others ends =>
    cases w' with
    | nil => cases recased.same
    | cons c' t' =>
      obtain ⟨first, later⟩ := List.cons.inj recased.same
      rw [← recased.same]
      apply Lexeme.word
      · rwa [caseless_isWordStart.apply_eq first]
      · exact caseless_isWordRest.forall_mem later others
      · apply more.ends caseless_isWordRest _ ends
        intro d blank
        exact Text.forall_isBlank (P := (isWordRest · = false)) (by decide) blank
  | number digits ends =>
    obtain rfl := caseless_isDecimalDigit.eq_of_lower (not_isUpper (by decide +kernel)) recased.same
      digits
    apply Lexeme.number digits
    apply more.ends caseless_isDecimalDigit _ ends
    intro d blank
    exact Text.forall_isBlank (P := (isDecimalDigit · = false)) (by decide +kernel) blank
  | mark h =>
    obtain rfl := caseless_isMark.eq_of_lower (not_isUpper (by decide)) recased.same
      (List.forall_mem_singleton.2 h)
    exact .mark h
  | quoted inside =>
    obtain rfl := recased.kept rfl
    exact .quoted inside

theorem takeQuoted?_pair (t : Text) :
    takeQuoted? ('\\' :: c :: t) = none ↔ c = '\n' ∨ takeQuoted? t = none := by
  rw [takeQuoted?]
  by_cases feed : c = '\n'
  · simp [feed]
  · simp [feed]

theorem takeQuoted?_inert (inert : ∀ c ∈ w, isInert c) (rest : Text) :
    takeQuoted? (w ++ rest) = none ↔ takeQuoted? rest = none := by
  induction w with
  | nil => exact Iff.rfl
  | cons c w ih =>
    obtain ⟨first, others⟩ := List.forall_mem_cons.1 inert
    rw [List.cons_append, takeQuoted?_plain (isInert_iff.1 first).1, Option.map_eq_none_iff]
    exact ih others

theorem takeQuoted?_pair_inert (some : w ≠ []) (inert : ∀ c ∈ w, isInert c) (rest : Text) :
    takeQuoted? ('\\' :: (w ++ rest)) = none ↔ takeQuoted? rest = none := by
  cases w with
  | nil => exact absurd rfl some
  | cons c w =>
    obtain ⟨first, others⟩ := List.forall_mem_cons.1 inert
    rw [List.cons_append, takeQuoted?_pair, takeQuoted?_inert others]
    exact or_iff_right (isInert_iff.1 first).2

/-- A quote that the lexeme does not close is no quote of its own. -/
theorem Lexeme.inert_of_unclosed (lexeme : Lexeme w token rest)
    (unclosed : takeQuoted? (w ++ rest) = none ∨ takeQuoted? ('\\' :: (w ++ rest)) = none) :
    (∀ c ∈ w, isInert c) ∧ takeQuoted? rest = none := by
  rcases lexeme.quoted_or_inert with ⟨body, rfl, inside⟩ | inert
  · have whole : '\'' :: (body ++ ['\'']) ++ rest = '\'' :: (body ++ '\'' :: rest) := by simp
    rw [whole] at unclosed
    rcases unclosed with direct | behind
    · simp [takeQuoted?] at direct
    · rw [takeQuoted?_pair, takeQuoted?_enclosed inside] at behind
      simp at behind
  · refine ⟨inert, ?_⟩
    rcases unclosed with direct | behind
    · exact (takeQuoted?_inert inert rest).1 direct
    · exact (takeQuoted?_pair_inert lexeme.ne_nil inert rest).1 behind

/-- A quote that is not closed stays so, also behind a backslash: no token closes it, and no blank
comes between the backslash and a line feed. -/
theorem Relaid.unclosed (relaid : Relaid t t') :
    (takeQuoted? t = none → takeQuoted? t' = none) ∧
      (takeQuoted? ('\\' :: t) = none → takeQuoted? ('\\' :: t') = none) := by
  induction relaid with
  | nil => exact ⟨id, id⟩
  | @blank c t t' blank before more ih =>
    have plain : c ≠ '\'' ∧ c ≠ '\\' :=
      Text.forall_isBlank (P := fun c => c ≠ '\'' ∧ c ≠ '\\') (by decide) blank
    constructor
    · intro unclosed
      rw [takeQuoted?_plain plain, ih.1 unclosed]
      rfl
    · intro unclosed
      refine (takeQuoted?_pair _).2 (.inr (ih.1 ?_))
      rcases before with rfl | ⟨w, token, rest, rfl, lexeme⟩
      · rfl
      · obtain ⟨inert, left⟩ := lexeme.inert_of_unclosed (.inr unclosed)
        exact (takeQuoted?_inert inert rest).2 left
  | @token w w' rest rest' token lexeme recased more ih =>
    have some : w' ≠ [] := (lexeme.relaid recased more).ne_nil
    constructor
    · intro unclosed
      obtain ⟨inert, left⟩ := lexeme.inert_of_unclosed (.inl unclosed)
      have inert' := caseless_isInert.forall_mem recased.same inert
      exact (takeQuoted?_inert inert' rest').2 (ih.1 left)
    · intro unclosed
      obtain ⟨inert, left⟩ := lexeme.inert_of_unclosed (.inr unclosed)
      have inert' := caseless_isInert.forall_mem recased.same inert
      exact (takeQuoted?_pair_inert some inert' rest').2 (ih.1 left)
  | @other c t t' outside more ih =>
    constructor
    · intro unclosed
      by_cases quote : c = '\''
      · simp [quote, takeQuoted?] at unclosed
      · by_cases slash : c = '\\'
        · rw [slash] at unclosed ⊢
          exact ih.2 unclosed
        · rw [takeQuoted?_plain ⟨quote, slash⟩, Option.map_eq_none_iff] at unclosed ⊢
          exact ih.1 unclosed
    · intro unclosed
      rw [takeQuoted?_pair] at unclosed ⊢
      exact unclosed.imp_right ih.1

theorem Relaid.take?_eq_none (more : Relaid t t') (refused : take? (c :: t) = none) :
    take? (c :: t') = none := by
  rw [take?_cons_eq_none_iff] at refused ⊢
  by_cases quote : c = '\''
  · rw [if_pos quote] at refused ⊢
    exact more.unclosed.1 refused
  · rwa [if_neg quote] at refused ⊢

/-- The layout does not matter to the tokens that a text is made up of. -/
theorem Relaid.lexes_iff (relaid : Relaid t t') : Lexes t tokens ↔ Lexes t' tokens := by
  induction relaid generalizing tokens with
  | nil => exact Iff.rfl
  | blank h before more ih => rw [lexes_blank_iff h, ih]
  | token lexeme recased more ih =>
    rw [lexes_token_iff lexeme, lexes_token_iff (lexeme.relaid recased more)]
    simp only [ih]
  | @other c t t' outside more ih =>
    cases blank : isBlank c with
    | true => rw [lexes_blank_iff blank, lexes_blank_iff blank, ih]
    | false =>
      have refused := take?_eq_none_of_outside outside
      exact iff_of_false (not_lexes refused blank) (not_lexes (more.take?_eq_none refused) blank)

/-- What stands between quotes is there word for word in the new layout. -/
theorem Relaid.exists_quoted (relaid : Relaid t t') (lexes : Lexes t tokens) {zone : Text}
    (mem : .quoted zone ∈ tokens) : ∃ body, zone = unescapeQuotes body ∧
      '\'' :: (body ++ ['\'']) <:+: t ∧ '\'' :: (body ++ ['\'']) <:+: t' := by
  induction relaid generalizing tokens with
  | nil =>
    obtain rfl := lexes_nil_iff.1 lexes
    cases mem
  | blank h before more ih =>
    obtain ⟨body, same, here, there⟩ := ih lexes mem
    exact ⟨body, same, here, there.trans (List.suffix_cons _ _).isInfix⟩
  | @token w w' rest rest' token lexeme recased more ih =>
    obtain ⟨others, rfl, following⟩ := (lexes_token_iff lexeme).1 lexes
    rcases List.mem_cons.1 mem with first | later
    · obtain rfl := first
      cases lexeme with
      | @quoted body _ inside =>
        obtain rfl := recased.kept rfl
        exact ⟨body, rfl, (List.prefix_append _ _).isInfix, (List.prefix_append _ _).isInfix⟩
    · obtain ⟨body, same, here, there⟩ := ih following later
      exact ⟨body, same, here.trans (List.suffix_append _ _).isInfix,
        there.trans (List.suffix_append _ _).isInfix⟩
  | @other c t t' outside more ih =>
    have lexes : Lexes t tokens := by
      cases blank : isBlank c with
      | true => exact (lexes_blank_iff blank).1 lexes
      | false => exact absurd lexes (not_lexes (take?_eq_none_of_outside outside) blank)
    obtain ⟨body, same, here, there⟩ := ih lexes mem
    exact ⟨body, same, here.trans (List.suffix_cons _ _).isInfix,
      there.trans (List.suffix_cons _ _).isInfix⟩

theorem relaid_append (t : Text) {blanks : Text} (blank : ∀ c ∈ blanks, isBlank c) :
    Relaid t (t ++ blanks) := by
  by_cases token : AtToken t
  · rcases token with rfl | ⟨w, token, rest, rfl, lexeme⟩
    · induction blanks with
      | nil => exact .nil
      | cons c blanks ih =>
        obtain ⟨first, others⟩ := List.forall_mem_cons.1 blank
        exact .blank first (.inl rfl) (ih others)
    · have shorter : 0 < w.length := List.length_pos_iff.2 lexeme.ne_nil
      rw [List.append_assoc]
      exact .token lexeme ⟨rfl, fun _ => rfl⟩ (relaid_append rest blank)
  · cases t with
    | nil => exact absurd (.inl rfl) token
    | cons c t => exact .other token (relaid_append t blank)
termination_by t.length
decreasing_by all_goals simp_all

theorem exists_trim (t : Text) : ∃ left right, (∀ c ∈ left, isBlank c) ∧ (∀ c ∈ right, isBlank c) ∧
    t = left ++ (trim t ++ right) := by
  refine ⟨t.takeWhile isBlank, ((trimLeft t).reverse.takeWhile isBlank).reverse,
    (takeWhile_ends t).1, ?_, ?_⟩
  · intro c mem
    exact (takeWhile_ends _).1 c (List.mem_reverse.1 mem)
  · rw [trim, trimRight, ← List.reverse_append, List.takeWhile_append_dropWhile,
      List.reverse_reverse, trimLeft, List.takeWhile_append_dropWhile]

/-- The scanner finds the tokens that the tag is made up of, wherever the blanks are. -/
theorem ofTag_eq_ok_iff {tag : Text} : ofTag tag = .ok tokens ↔ Lexes tag tokens := by
  obtain ⟨left, right, front, back, whole⟩ := exists_trim tag
  have ending : ∀ c ∈ (trim tag).getLast?, isBlank c = false := by
    intro c last
    rw [trim, trimRight, List.getLast?_reverse] at last
    exact (takeWhile_ends _).2 c last
  have trimmed : Lexes tag tokens ↔ Lexes (trim tag) tokens := by
    generalize trim tag = u at whole
    rw [whole, lexes_append_iff front]
    exact (relaid_append u back).lexes_iff.symm
  rw [ofTag, scan_eq_ok_iff ending, trimmed]

/-- Another layout of a text. Blanks may also stand in front of what is no token. -/
def Layout (t t' : Text) : Prop :=
  ∃ left u, (∀ c ∈ left, isBlank c) ∧ Relaid t u ∧ t' = left ++ u

theorem Layout.exists_quoted (layout : Layout t t') (lexes : Lexes t tokens) {zone : Text}
    (mem : .quoted zone ∈ tokens) : ∃ body, zone = unescapeQuotes body ∧
      '\'' :: (body ++ ['\'']) <:+: t ∧ '\'' :: (body ++ ['\'']) <:+: t' := by
  obtain ⟨left, u, front, relaid, rfl⟩ := layout
  obtain ⟨body, same, here, there⟩ := relaid.exists_quoted lexes mem
  exact ⟨body, same, here, there.trans (List.suffix_append _ _).isInfix⟩

theorem Layout.lexes_iff (layout : Layout t t') : Lexes t tokens ↔ Lexes t' tokens := by
  obtain ⟨left, u, front, relaid, rfl⟩ := layout
  rw [lexes_append_iff front]
  exact relaid.lexes_iff

end TagToken

namespace ColumnType

open TagToken (Layout Lexeme Relaid take?_append_iff)

@[simp] theorem timezone_withNullable (t : ColumnType) (nullable : Bool) :
    (t.withNullable nullable).leaf.attributes.timezone = t.leaf.attributes.timezone := by
  cases t <;> rfl

@[simp] theorem timezone_marked (t : ColumnType) (marker : Option Bool) :
    (t.marked marker).leaf.attributes.timezone = t.leaf.attributes.timezone := by
  cases marker with
  | none => rfl
  | some nullable => exact timezone_withNullable t nullable

theorem quoted_of_listed {tokens : List TagToken} {arguments : List TagArgument}
    (listed : Listed tokens arguments) {zone : Text} (mem : .text zone ∈ arguments) :
    .quoted zone ∈ tokens := by
  have quoted {token : TagToken} {argument : TagArgument} (one : Argument token argument)
      (same : .text zone = argument) : .quoted zone = token := by
    cases one with
    | quoted t =>
      cases same
      rfl
    | number _ => cases same
  induction listed with
  | last one => exact List.mem_singleton.2 (quoted one (List.mem_singleton.1 mem))
  | cons one others ih =>
    rcases List.mem_cons.1 mem with first | later
    · exact List.mem_cons.2 (.inl (quoted one first))
    · exact List.mem_cons_of_mem _ (List.mem_cons_of_mem _ (ih later))

theorem quoted_of_arguments {tokens : List TagToken} {arguments : List TagArgument}
    (written : Arguments tokens arguments) {zone : Text} (mem : .text zone ∈ arguments) :
    .quoted zone ∈ tokens := by
  cases written with
  | absent => cases mem
  | given listed => simp [quoted_of_listed listed mem]

/-- The timezone of a type is that of a zoned timestamp, and named between quotes in the tag. -/
theorem quoted_of_derives [ZoneDatabase] {tokens : List TagToken} {t : ColumnType}
    (derived : Derives tokens t) {zone : Text} (zoned : t.leaf.attributes.timezone = some zone) :
    .quoted zone ∈ tokens := by
  induction derived with
  | scalar known spelled written given marker =>
    rw [timezone_marked] at zoned
    cases given with
    | zone zoned' few known =>
      obtain rfl := Option.some.inj zoned
      have inside := quoted_of_arguments written
        (List.mem_append_right _ (List.mem_singleton_self _))
      simp [inside]
    | _ => cases zoned
  | array inner marker ih =>
    rw [timezone_marked] at zoned
    have inside := ih zoned
    simp [inside]
  | nullable inner marker ih =>
    rw [timezone_marked, timezone_withNullable] at zoned
    have inside := ih zoned
    simp [inside]

/-- A tag names the same type in every layout, with the timezone that stands between quotes, and is
refused in every layout where it is in one. -/
theorem ofTag_layout [ZoneDatabase] {tag tag' : Text} (layout : Layout tag tag') :
    (∀ t, ofTag tag = .ok t → ofTag tag' = .ok t ∧
      ∀ zone, t.leaf.attributes.timezone = some zone →
        ∃ body, zone = TagToken.unescapeQuotes body ∧ '\'' :: (body ++ ['\'']) <:+: tag ∧
          '\'' :: (body ++ ['\'']) <:+: tag') ∧
      ∀ e, ofTag tag = .error e → ∃ e', ofTag tag' = .error e' := by
  have alike (t : ColumnType) : ofTag tag = .ok t ↔ ofTag tag' = .ok t := by
    simp only [ofTag_eq_ok_iff, TagToken.ofTag_eq_ok_iff, layout.lexes_iff]
  constructor
  · intro t named
    refine ⟨(alike t).1 named, ?_⟩
    intro zone zoned
    obtain ⟨tokens, scanned, parsed⟩ := ofTag_eq_ok_iff.1 named
    exact layout.exists_quoted (TagToken.ofTag_eq_ok_iff.1 scanned)
      (quoted_of_derives (derives_of_ofTokens parsed) zoned)
  · intro e refused
    cases found : ofTag tag' with
    | error e' => exact ⟨e', rfl⟩
    | ok t =>
      rw [(alike t).2 found] at refused
      cases refused

theorem ofTag_layout_nested :
    Layout "Array(TimestampTZ('Europe/Berlin') null)".toList
        " array\n(TIMESTAMPTZ('Europe/Berlin')  NULL )\t".toList ∧
      ofTag " array\n(TIMESTAMPTZ('Europe/Berlin')  NULL )\t".toList =
        .ok (.array (.scalar .timestamptz
          { nullable := true, timezone := some "Europe/Berlin".toList }) {}) := by
  have closing : Relaid ([')'] ++ []) (' ' :: ([')'] ++ ['\t'])) :=
    .blank rfl (.inr ⟨[')'], _, [], rfl, .mark rfl⟩)
      (.token (.mark rfl) ⟨rfl, fun _ => rfl⟩ (.blank rfl (.inl rfl) .nil))
  have null : Lexeme "null".toList (.word "null".toList) ([')'] ++ []) :=
    take?_append_iff.1 (by decide +kernel)
  have marker : Relaid (' ' :: ("null".toList ++ _)) (' ' :: ' ' :: ("NULL".toList ++ _)) :=
    .other (TagToken.not_atToken rfl) (.blank rfl (.inr ⟨_, _, _, rfl, null⟩)
      (.token null ⟨by decide +kernel, nofun⟩ closing))
  have zone : Relaid ("'Europe/Berlin'".toList ++ ([')'] ++ _)) _ :=
    @Relaid.token _ _ _ _ (.quoted "Europe/Berlin".toList) (take?_append_iff.1 (by decide +kernel))
      ⟨rfl, fun _ => rfl⟩ (.token (.mark rfl) ⟨rfl, fun _ => rfl⟩ marker)
  have named : Relaid ("TimestampTZ".toList ++ (['('] ++ _)) ("TIMESTAMPTZ".toList ++ _) :=
    @Relaid.token _ _ _ _ (.word "timestamptz".toList) (take?_append_iff.1 (by decide +kernel))
      ⟨by decide +kernel, nofun⟩ (.token (.mark rfl) ⟨rfl, fun _ => rfl⟩ zone)
  have whole : Relaid ("Array".toList ++ (['('] ++ _)) ("array".toList ++ '\n' :: (['('] ++ _)) :=
    @Relaid.token _ _ _ _ (.word "array".toList) (take?_append_iff.1 (by decide +kernel))
      ⟨by decide +kernel, nofun⟩ (.blank rfl (.inr ⟨['('], _, _, rfl, .mark rfl⟩)
        (.token (.mark rfl) ⟨rfl, fun _ => rfl⟩ named))
  obtain ⟨_, _, layout, rfl, rfl⟩ : ∃ tag tag', Layout tag tag' ∧
      tag = "Array(TimestampTZ('Europe/Berlin') null)".toList ∧
      tag' = " array\n(TIMESTAMPTZ('Europe/Berlin')  NULL )\t".toList :=
    ⟨_, _, ⟨[' '], _, List.forall_mem_singleton.2 rfl, whole, rfl⟩, by decide +kernel,
      by decide +kernel⟩
  exact ⟨layout, ((ofTag_layout layout).1 _ (Except.of_toOption_eq_some (by decide +kernel))).1⟩

end ColumnType

end RowStream
