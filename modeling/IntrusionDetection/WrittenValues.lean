import IntrusionDetection.CheckedValueMatches
import IntrusionDetection.Unescaping
import IntrusionDetection.WrittenHeader

namespace IntrusionDetection

open PyText FaultPrecedence

/-!
# Option values that can be written

Each value of an option has a text that its parser reads back, and each value
that a parser yields is such a value.
-/

/-! ### Texts in quotation marks -/

/-- The scan goes over an escaped text. -/
theorem closes_escaped (text rest : Str) (inQuote : Bool) :
    closes inQuote (text.flatMap escapeChar ++ rest) =
      closes inQuote rest := by
  induction text with
  | nil =>
      rfl
  | cons char text inductionHypothesis =>
      rw [List.flatMap_cons, List.append_assoc]
      by_cases escapable : isEscapable char = true
      · rw [escapeChar, if_pos escapable, List.cons_append, closes.eq_def]
        simpa using inductionHypothesis
      · rw [escapeChar, if_neg escapable, List.cons_append,
          closes_other (Bool.eq_false_iff.mpr escapable)]
        exact inductionHypothesis

/-- A quoted text can be written. -/
theorem isValue_quote (text : Str) : IsValue (quote text) := by
  refine ⟨strip_quote text, ?_⟩
  have notBackslash : codePoint '"' ≠ codePoint '\\' := by decide
  rw [quote, closes.eq_def]
  simp only [if_neg notBackslash, if_true, Bool.not_false]
  rw [closes_escaped]
  rfl

/-- Inside quotes only quotes and backslashes are looked at. -/
theorem closes_inside
    {char : CodePoint}
    (notBackslash : char ≠ codePoint '\\')
    (notQuote : char ≠ codePoint '"')
    (rest : Str) :
    closes true (char :: rest) = closes true rest := by
  rw [closes.eq_def]
  simp [notBackslash, notQuote]

/-- A backslash and the character after it are passed over. -/
theorem closes_pair
    (inQuote : Bool)
    (next : CodePoint)
    (later : Str) :
    closes inQuote (codePoint '\\' :: next :: later) =
      closes inQuote later := by
  rw [closes.eq_def]
  simp

/-- The scan stays inside the quotes of a content. -/
theorem closes_scanContent
    {hexDigits : Option (List Nat)}
    {out pattern : Bytes}
    {raw : Str}
    (isScanned : scanContent hexDigits out raw = some pattern)
    (rest : Str) :
    closes true (raw ++ rest) = closes true rest := by
  have bar := closes_inside
    (show codePoint '|' ≠ codePoint '\\' by decide) (by decide)
  induction hexDigits, out, raw using scanContent.induct with
  | case1 out =>
      rfl
  | case2 out digits =>
      rfl
  | case3 out later digits even inductionHypothesis =>
      rw [scanContent.eq_def] at isScanned
      simp only [if_true, even] at isScanned
      rw [List.cons_append, bar]
      exact inductionHypothesis isScanned
  | case4 out later digits odd =>
      rw [scanContent.eq_def] at isScanned
      simp only [if_true, if_neg odd] at isScanned
      cases isScanned
  | case5 out char later digits notBar digit isDigit inductionHypothesis =>
      rw [scanContent.eq_def] at isScanned
      simp only [if_neg notBar, isDigit] at isScanned
      rw [List.cons_append, closes_inside]
      · exact inductionHypothesis isScanned
      · rintro rfl
        cases isDigit
      · rintro rfl
        cases isDigit
  | case6 out char later digits notBar notDigit isGap inductionHypothesis =>
      rw [scanContent.eq_def] at isScanned
      simp only [if_neg notBar, notDigit, if_pos isGap] at isScanned
      rw [List.cons_append, closes_inside]
      · exact inductionHypothesis isScanned
      · rcases isGap with rfl | rfl <;> decide
      · rcases isGap with rfl | rfl <;> decide
  | case7 out char later digits notBar notDigit notGap =>
      rw [scanContent.eq_def] at isScanned
      simp only [if_neg notBar, notDigit, if_neg notGap] at isScanned
      cases isScanned
  | case8 out later inductionHypothesis =>
      rw [scanContent.eq_def] at isScanned
      simp only [if_true] at isScanned
      rw [List.cons_append, bar]
      exact inductionHypothesis isScanned
  | case9 out notBar =>
      rw [scanContent.eq_def] at isScanned
      simp only [if_neg notBar, if_true] at isScanned
      cases isScanned
  | case10 out next later notBar notEncoded =>
      rw [scanContent.eq_def] at isScanned
      simp only [if_neg notBar, if_true, notEncoded] at isScanned
      cases isScanned
  | case11 out next later encoded notBar isEncoded inductionHypothesis =>
      rw [scanContent.eq_def] at isScanned
      simp only [if_neg notBar, if_true, isEncoded] at isScanned
      rw [List.cons_append, List.cons_append, closes_pair]
      exact inductionHypothesis isScanned
  | case12 out later notBar notBackslash =>
      rw [scanContent.eq_def] at isScanned
      simp only [if_neg notBar, if_neg notBackslash, if_true] at isScanned
      cases isScanned
  | case13 out char later notBar notBackslash notQuote notEncoded =>
      rw [scanContent.eq_def] at isScanned
      simp only [if_neg notBar, if_neg notBackslash, if_neg notQuote,
        notEncoded] at isScanned
      cases isScanned
  | case14 out char later notBar notBackslash notQuote encoded isEncoded
      inductionHypothesis =>
      rw [scanContent.eq_def] at isScanned
      simp only [if_neg notBar, if_neg notBackslash, if_neg notQuote,
        isEncoded] at isScanned
      rw [List.cons_append, closes_inside notBackslash notQuote]
      exact inductionHypothesis isScanned

/-- A content that can be read can be written. -/
theorem isValue_quoted
    {raw : Str}
    {pattern : Bytes}
    (isScanned : scanContent none [] raw = some pattern) :
    IsValue (quoted raw) := by
  have notBlank : isBlank (codePoint '"') = false := by decide
  have notBackslash : codePoint '"' ≠ codePoint '\\' := by decide
  constructor
  · apply strip_eq_self
    · rintro _ ⟨⟩
      exact notBlank
    · intro char isLast
      have same : codePoint '"' = char := by
        simpa [quoted, List.getLast?_cons] using isLast
      exact same ▸ notBlank
  · rw [quoted, List.cons_append, closes.eq_def]
    simp only [if_neg notBackslash, if_true, Bool.not_false]
    rw [closes_scanContent isScanned]
    rfl

/-! ### Contents -/

/-- The value of a modifier as it is written. -/
def ModifierValue.text? : ModifierValue → Option Str
  | .flag => none
  | .number given => some (ofInt given)

/-- The content modifiers, in the order they are written. -/
def ContentModifier.all : List ContentModifier :=
  [.nocase, .offset, .depth, .distance, .within]

/-- What a content can ask for. -/
structure ContentSpec.Writable (content : ContentSpec) : Prop where
  scanned : scanContent none [] content.raw = some content.pattern
  searchable : content.Searchable
  offset : ∀ number ∈ content.offset, 0 ≤ number ∧ number ≤ maxOptionInt
  depth : ∀ number ∈ content.depth, number ≤ maxOptionInt
  distance :
    ∀ number ∈ content.distance,
      -maxOptionInt ≤ number ∧ number ≤ maxOptionInt
  within : ∀ number ∈ content.within, number ≤ maxOptionInt

/-- The number of a modifier is read back. -/
theorem nonNegativeInt?_ofInt_of_nonneg
    {number : Int}
    (notNegative : 0 ≤ number)
    (bounded : number ≤ maxOptionInt) :
    ∃ value : Nat,
      number = value ∧ nonNegativeInt? (ofInt number) = some value := by
  obtain ⟨value, rfl⟩ := Int.eq_ofNat_of_zero_le notNegative
  exact ⟨value, rfl, nonNegativeInt?_ofInt (Int.ofNat_le.mp bounded)⟩

/-- A number without a sign does not begin with one. -/
theorem startsWith_minus_ofInt (number : Nat) :
    startsWith (lit "-") (ofInt number) = false := by
  have absent : codePoint '-' ∉ ofInt (number : Int) := by
    intro member
    have digits := (Bool.and_eq_true_iff.mp (digits_ofInt number).1).2
    cases List.all_eq_true.mp digits _ member
  rw [← Bool.not_eq_true]
  intro starts
  obtain ⟨rest, whole⟩ := List.isPrefixOf_iff_prefix.mp starts
  apply absent
  rw [← whole]
  exact List.mem_append_left _ List.mem_cons_self

/-- A distance is read back, with its sign. -/
theorem modifierValue?_distance
    {number : Int}
    (bounded : -maxOptionInt ≤ number ∧ number ≤ maxOptionInt) :
    modifierValue? .distance (some (ofInt number)) =
      some (.number number) := by
  cases number with
  | ofNat value =>
      have noSign := startsWith_minus_ofInt value
      have small : value ≤ maxOptionInt := Int.ofNat_le.mp bounded.2
      rw [Int.ofNat_eq_natCast, modifierValue?, noSign,
        nonNegativeInt?_ofInt small]
      rfl
  | negSucc value =>
      have text := ofInt_negSucc value
      have digits := ofInt_ofNat (value + 1)
      rw [← digits] at text
      have small : value + 1 ≤ maxOptionInt := by
        have below := bounded.1
        omega
      have signed :
          startsWith (lit "-") (ofInt (Int.negSucc value)) = true := by
        rw [text]
        rfl
      rw [modifierValue?, signed, text, List.tail_cons]
      rw [Int.ofNat_eq_natCast, nonNegativeInt?_ofInt small]
      rfl

/-- What a content asks for is read back. -/
theorem modifierValue?_text
    {content : ContentSpec}
    (writable : content.Writable)
    {modifier : ContentModifier}
    {value : ModifierValue}
    (isValue : content.modifier? modifier = some value) :
    modifierValue? modifier value.text? = some value := by
  have visible : 1 ≤ content.pattern.length :=
    List.length_pos_of_ne_nil writable.searchable.pattern
  cases modifier with
  | nocase =>
      simp only [ContentSpec.modifier?] at isValue
      split at isValue
      · cases isValue
        rfl
      · cases isValue
  | offset =>
      obtain ⟨number, isNumber, rfl⟩ := Option.map_eq_some_iff.mp isValue
      obtain ⟨notNegative, bounded⟩ := writable.offset number isNumber
      obtain ⟨value, same, isRead⟩ :=
        nonNegativeInt?_ofInt_of_nonneg notNegative bounded
      rw [ModifierValue.text?, modifierValue?, isRead, same]
      rfl
  | depth =>
      obtain ⟨number, isNumber, rfl⟩ := Option.map_eq_some_iff.mp isValue
      have long := writable.searchable.depth number isNumber
      obtain ⟨value, same, isRead⟩ :=
        nonNegativeInt?_ofInt_of_nonneg (by omega)
          (writable.depth number isNumber)
      rw [ModifierValue.text?, modifierValue?, isRead, same]
      rfl
  | distance =>
      obtain ⟨number, isNumber, rfl⟩ := Option.map_eq_some_iff.mp isValue
      exact modifierValue?_distance (writable.distance number isNumber)
  | within =>
      obtain ⟨number, isNumber, rfl⟩ := Option.map_eq_some_iff.mp isValue
      have long := writable.searchable.within number isNumber
      obtain ⟨value, same, isRead⟩ :=
        nonNegativeInt?_ofInt_of_nonneg (by omega)
          (writable.within number isNumber)
      have positive : 1 ≤ value := by
        omega
      rw [ModifierValue.text?, modifierValue?, isRead, same,
        Option.filter_some, if_pos (decide_eq_true positive)]
      rfl

/-- An integer is written in bare characters. -/
theorem isBare_ofInt_of_int (number : Int) : IsBare (ofInt number) := by
  cases number with
  | ofNat value =>
      exact isBare_ofInt value
  | negSucc value =>
      have text := ofInt_negSucc value
      rw [← ofInt_ofNat (value + 1)] at text
      rw [text]
      exact List.forall_mem_cons.mpr
        ⟨by decide, isBare_ofInt (value + 1)⟩

/-- The number of a modifier can be written. -/
theorem ModifierValue.isValue
    {value : ModifierValue}
    {text : Str}
    (isText : value.text? = some text) :
    IsValue text := by
  cases value with
  | flag =>
      cases isText
  | number given =>
      cases isText
      exact (isBare_ofInt_of_int given).isValue

/-! ### Flow -/

namespace FlowSpec

/-- The value of the option. -/
def text (flow : FlowSpec) : Str :=
  [codePoint ','].intercalate
    ((flow.role.map FlowRole.text).toList ++
      (flow.state.map FlowStateSpec.text).toList)

/-- A flow option asks for something. -/
def Writable (flow : FlowSpec) : Prop :=
  flow.role ≠ none ∨ flow.state ≠ none

/-- The value of a flow option is read back. -/
theorem parseFlowValue_text
    {flow : FlowSpec}
    (writable : flow.Writable) :
    parseFlowValue (some flow.text) = .ok flow ∧ IsValue flow.text := by
  obtain ⟨role, state⟩ := flow
  cases role with
  | none =>
      cases state with
      | none =>
          rcases writable with absent | absent <;> exact absurd rfl absent
      | some state =>
          cases state <;> exact ⟨by decide +kernel, by decide +kernel⟩
  | some role =>
      cases state with
      | none =>
          cases role <;> exact ⟨by decide +kernel, by decide +kernel⟩
      | some state =>
          cases role <;> cases state <;> exact ⟨by decide +kernel, by decide +kernel⟩

/-- What is read asks for something. -/
theorem writable_of_parseFlowValue
    {value : Option Str}
    {flow : FlowSpec}
    (isRead : parseFlowValue value = .ok flow) :
    flow.Writable := by
  simp only [parseFlowValue] at isRead
  split at isRead
  · cases isRead
  · rename_i items isItems
    split at isRead
    · cases isRead
    · split at isRead
      · cases isRead
      · rename_i noneUnknown
        cases isRead
        obtain ⟨first, rest, rfl⟩ : ∃ first rest, items = first :: rest := by
          apply List.exists_cons_of_ne_nil
          rintro rfl
          simp only [flowItems?] at isItems
          split at isItems
          · cases isItems
          · split at isItems
            · cases isItems
            · have sameLength := length_of_mapM isItems
              exact List.splitOnP_ne_nil _ _
                (List.eq_nil_of_length_eq_zero sameLength.symm)
        have known := List.find?_eq_none.mp noneUnknown first
          List.mem_cons_self
        rw [isUnknownFlowItem] at known
        cases isRole : flowRole? first with
        | some role =>
            refine Or.inl fun absent => ?_
            rw [List.head?_eq_none_iff, List.filterMap_eq_nil_iff] at absent
            rw [absent first List.mem_cons_self] at isRole
            cases isRole
        | none =>
            refine Or.inr fun absent => ?_
            rw [List.head?_eq_none_iff, List.filterMap_eq_nil_iff] at absent
            rw [isRole, absent first List.mem_cons_self] at known
            exact known rfl

end FlowSpec

/-! ### Flags -/

/-- The flags, in the order they are written. -/
def TcpFlag.all : List TcpFlag :=
  [.s, .a, .f, .r, .p, .u, .c, .e]

namespace FlagsSpec

/-- The flags that are asked for, or a zero if there are none. -/
def letters (spec : FlagsSpec) : Str :=
  if spec.flags = ∅ then
    lit "0"
  else
    (TcpFlag.all.filter (· ∈ spec.flags)).map TcpFlag.letter

/-- The value of the option. -/
def text (spec : FlagsSpec) : Str :=
  match spec.mode with
  | .exact => spec.letters
  | .all => spec.letters ++ [codePoint '+']
  | .any => spec.letters ++ [codePoint '*']
  | .none => codePoint '!' :: spec.letters

/-- The letters are not empty, and none is a sign. -/
theorem letters_facts (spec : FlagsSpec) :
    spec.letters ≠ [] ∧
      ∀ char ∈ spec.letters,
        isBare char = true ∧ char ≠ codePoint '!' ∧
          char ≠ codePoint '+' ∧ char ≠ codePoint '*' ∧
            char ≠ codePoint ',' := by
  rw [letters]
  split
  · refine ⟨by decide, fun char member => ?_⟩
    rw [List.mem_singleton.mp member]
    decide
  · rename_i some
    obtain ⟨flag, member⟩ := Finset.nonempty_iff_ne_empty.mpr some
    constructor
    · intro empty
      have none := List.filter_eq_nil_iff.mp (List.map_eq_nil_iff.mp empty)
      have isAll : flag ∈ TcpFlag.all := by
        cases flag <;> decide
      exact none flag isAll (decide_eq_true member)
    · intro char isLetter
      obtain ⟨flag, _, rfl⟩ := List.mem_map.mp isLetter
      cases flag <;> decide

/-- The flags are read from their letters. -/
theorem mapM_tcpFlag?_letters
    {spec : FlagsSpec}
    (some : spec.flags ≠ ∅) :
    spec.letters.mapM tcpFlag? =
        Option.some (TcpFlag.all.filter (· ∈ spec.flags)) ∧
      (TcpFlag.all.filter (· ∈ spec.flags)).toFinset = spec.flags := by
  constructor
  · rw [letters, if_neg some]
    induction TcpFlag.all.filter (· ∈ spec.flags) with
    | nil =>
        rfl
    | cons flag rest inductionHypothesis =>
        rw [List.map_cons, List.mapM_cons, TcpFlag.tcpFlag?_letter,
          inductionHypothesis]
        rfl
  · ext flag
    have isAll : flag ∈ TcpFlag.all := by
      cases flag <;> decide
    rw [List.mem_toFinset, List.mem_filter, decide_eq_true_eq]
    exact and_iff_right isAll

/-- The mode and the letters are told apart. -/
theorem flagsMode_text (spec : FlagsSpec) :
    flagsMode spec.text = (spec.mode, spec.letters) := by
  obtain ⟨notEmpty, facts⟩ := spec.letters_facts
  obtain ⟨first, others, isLetters⟩ := List.exists_cons_of_ne_nil notEmpty
  have noMark :
      ∀ rest, startsWith (lit "!") (spec.letters ++ rest) = false := by
    intro rest
    have other : (codePoint '!' == first) = false := by
      apply beq_eq_false_iff_ne.mpr
      exact (facts first (isLetters ▸ List.mem_cons_self)).2.1.symm
    rw [isLetters]
    change ((codePoint '!' == first) && _) = false
    rw [other]
    rfl
  have noSign :
      ∀ char ∈ spec.letters.getLast?,
        char ≠ codePoint '+' ∧ char ≠ codePoint '*' := by
    intro char isLast
    have known := facts char (List.mem_of_getLast? isLast)
    exact ⟨known.2.2.1, known.2.2.2.1⟩
  cases mode : spec.mode with
  | exact =>
      have plain := noMark []
      rw [List.append_nil] at plain
      have notPlus : spec.letters.getLast? ≠ some (codePoint '+') :=
        fun isLast => (noSign _ isLast).1 rfl
      have notStar : spec.letters.getLast? ≠ some (codePoint '*') :=
        fun isLast => (noSign _ isLast).2 rfl
      simp only [text, mode, flagsMode, plain, if_neg notPlus,
        if_neg notStar, Bool.false_eq_true, if_false]
  | all =>
      simp only [text, mode, flagsMode, noMark, Bool.false_eq_true,
        if_false, List.getLast?_concat, if_true, List.dropLast_concat]
  | any =>
      have differs : some (codePoint '*') ≠ some (codePoint '+') := by
        decide
      simp only [text, mode, flagsMode, noMark, Bool.false_eq_true,
        if_false, List.getLast?_concat, if_neg differs, if_true,
        List.dropLast_concat]
  | none =>
      have marked :
          startsWith (lit "!") (codePoint '!' :: spec.letters) = true := by
        rfl
      simp only [text, mode, flagsMode, marked, if_true, List.tail_cons]

/-- The value of a flags option is read back. -/
theorem flagsMain?_text (spec : FlagsSpec) :
    flagsMain? spec.text = some spec := by
  rw [flagsMain?, flagsMode_text]
  by_cases none : spec.flags = ∅
  · have isExact : spec.mode = .exact :=
      spec.notEmpty.resolve_left fun some => some none
    have zero : spec.letters = lit "0" := by
      rw [letters, if_pos none]
    dsimp only
    rw [if_pos zero, dif_pos isExact]
    obtain ⟨mode, flags, notEmpty⟩ := spec
    cases none
    rfl
  · obtain ⟨isRead, sameFlags⟩ := mapM_tcpFlag?_letters none
    have notZero : spec.letters ≠ lit "0" := by
      intro zero
      rw [zero] at isRead
      cases isRead
    dsimp only
    rw [if_neg notZero, isRead]
    dsimp only
    rw [dif_pos (sameFlags.symm ▸ none)]
    obtain ⟨mode, flags, notEmpty⟩ := spec
    simp only [sameFlags]

/-- The value of a flags option is read back. -/
theorem parseFlagsValue_text (spec : FlagsSpec) :
    parseFlagsValue (some spec.text) = .ok spec ∧ IsValue spec.text := by
  obtain ⟨_, facts⟩ := spec.letters_facts
  have all :
      ∀ char ∈ spec.text, isBare char = true ∧ char ≠ codePoint ',' := by
    have inLetters :
        ∀ char ∈ spec.letters,
          isBare char = true ∧ char ≠ codePoint ',' :=
      fun char member =>
        ⟨(facts char member).1, (facts char member).2.2.2.2⟩
    rw [text]
    split
    · exact inLetters
    · refine List.forall_mem_append.mpr ⟨inLetters, ?_⟩
      exact List.forall_mem_singleton.mpr (by decide)
    · refine List.forall_mem_append.mpr ⟨inLetters, ?_⟩
      exact List.forall_mem_singleton.mpr (by decide)
    · exact List.forall_mem_cons.mpr ⟨by decide, inLetters⟩
  have bare : IsBare spec.text ∧ codePoint ',' ∉ spec.text :=
    ⟨fun char member => (all char member).1,
      fun member => (all _ member).2 rfl⟩
  refine ⟨?_, bare.1.isValue⟩
  simp only [parseFlagsValue, partition_of_notMem bare.2,
    flagsMain?_text]

end FlagsSpec

/-! ### Payload sizes -/

namespace DsizeSpec

/-- The value of the option. -/
def text (dsize : DsizeSpec) : Str :=
  match dsize.op with
  | .eq => ofInt dsize.a
  | .lt => codePoint '<' :: ofInt dsize.a
  | .gt => codePoint '>' :: ofInt dsize.a
  | .range => ofInt dsize.a ++ lit "<>" ++ ofInt (dsize.b.getD 0)

/-- The sizes fit into an option. -/
def Writable (dsize : DsizeSpec) : Prop :=
  dsize.a ≤ maxOptionInt ∧ ∀ upper ∈ dsize.b, upper ≤ maxOptionInt

/-- The digits of a number are taken from what they begin. -/
theorem takeWhile_ofInt
    {char : CodePoint}
    (notDigit : isAsciiDigit char = false)
    (number : Nat)
    (rest : Str) :
    (ofInt number ++ char :: rest).takeWhile isAsciiDigit =
        ofInt number ∧
      (ofInt number ++ char :: rest).dropWhile isAsciiDigit =
        char :: rest := by
  have digits := (Bool.and_eq_true_iff.mp (digits_ofInt number).1).2
  rw [List.all_eq_true] at digits
  constructor
  · rw [List.takeWhile_append_of_pos digits,
      List.takeWhile_cons_of_neg (by simp [notDigit]), List.append_nil]
  · rw [List.dropWhile_append_of_pos digits,
      List.dropWhile_cons_of_neg (by simp [notDigit])]

/-- A text with another character is no number. -/
theorem isAsciiDigits_of_mem
    {char : CodePoint}
    {text : Str}
    (notDigit : isAsciiDigit char = false)
    (member : char ∈ text) :
    isAsciiDigits text = false := by
  rw [← Bool.not_eq_true]
  intro digits
  have all := (Bool.and_eq_true_iff.mp digits).2
  rw [List.all_eq_true.mp all char member] at notDigit
  cases notDigit

/-- Digits have no blanks before them. -/
theorem lstrip_ofInt (number : Nat) :
    lstrip (ofInt number) = ofInt number := by
  obtain ⟨first, others, isText⟩ :=
    List.exists_cons_of_ne_nil (ofInt_ne_nil number)
  have trimmed := (isBare_ofInt number).isValue.1
  have notBlank := (ends_of_strip_eq_self trimmed).1 first
    (by rw [isText]; rfl)
  rw [isText, lstrip, List.dropWhile_cons_of_neg (by simp [notBlank])]

/-- A size alone is found. -/
theorem dsizeParts?_eq (size : Nat) :
    dsizeParts? (ofInt size) = some (.eq, ofInt size, none) := by
  simp only [dsizeParts?, (digits_ofInt size).1, if_true]

/-- A lower bound or an upper bound is found. -/
theorem dsizeParts?_bound (size : Nat) :
    dsizeParts? (codePoint '<' :: ofInt size) =
        some (.lt, ofInt size, none) ∧
      dsizeParts? (codePoint '>' :: ofInt size) =
        some (.gt, ofInt size, none) := by
  have digits := (digits_ofInt size).1
  have notDigits :
      ∀ sign, isAsciiDigit sign = false →
        isAsciiDigits (sign :: ofInt size) = false :=
    fun sign notDigit => isAsciiDigits_of_mem notDigit List.mem_cons_self
  have less :
      startsWith (lit "<") (codePoint '<' :: ofInt size) = true := by
    rfl
  have more :
      startsWith (lit ">") (codePoint '>' :: ofInt size) = true := by
    rfl
  have notLess :
      startsWith (lit "<") (codePoint '>' :: ofInt size) = false := by
    rfl
  constructor
  · simp only [dsizeParts?, notDigits (codePoint '<') rfl,
      Bool.false_eq_true, if_false, less, List.tail_cons, lstrip_ofInt,
      digits, and_self, if_true]
  · simp only [dsizeParts?, notDigits (codePoint '>') rfl,
      Bool.false_eq_true, if_false, notLess, false_and, more,
      List.tail_cons, lstrip_ofInt, digits, and_self, if_true]

/-- The two ends of a range are found. -/
theorem dsizeParts?_range (lower upper : Nat) :
    dsizeParts? (ofInt lower ++ codePoint '<' :: codePoint '>' ::
        ofInt upper) =
      some (.range, ofInt lower, some (ofInt upper)) := by
  let text := ofInt lower ++ codePoint '<' :: codePoint '>' :: ofInt upper
  obtain ⟨taken, dropped⟩ :=
    takeWhile_ofInt (show isAsciiDigit (codePoint '<') = false by rfl)
      lower (codePoint '>' :: ofInt upper)
  have notDigits : isAsciiDigits text = false :=
    isAsciiDigits_of_mem (show isAsciiDigit (codePoint '<') = false by rfl)
      (List.mem_append_right _ List.mem_cons_self)
  have noSign :
      ∀ sign, isAsciiDigit sign = false →
        startsWith [sign] text = false := by
    intro sign notDigit
    obtain ⟨first, others, isText⟩ :=
      List.exists_cons_of_ne_nil (ofInt_ne_nil lower)
    have digits := (Bool.and_eq_true_iff.mp (digits_ofInt lower).1).2
    have isDigit : isAsciiDigit first = true :=
      List.all_eq_true.mp digits first (isText ▸ List.mem_cons_self)
    have other : (sign == first) = false := by
      apply beq_eq_false_iff_ne.mpr
      rintro rfl
      rw [isDigit] at notDigit
      cases notDigit
    simp only [text, isText, List.cons_append]
    rw [startsWith, List.isPrefixOf_cons_cons, other]
    rfl
  have trimmed :
      lstrip (codePoint '<' :: codePoint '>' :: ofInt upper) =
        codePoint '<' :: codePoint '>' :: ofInt upper :=
    List.dropWhile_cons_of_neg (by decide)
  have signs :
      startsWith (lit "<>")
        (codePoint '<' :: codePoint '>' :: ofInt upper) = true := by
    rfl
  have less : startsWith (lit "<") text = false :=
    noSign (codePoint '<') rfl
  have more : startsWith (lit ">") text = false :=
    noSign (codePoint '>') rfl
  change dsizeParts? text = _
  simp only [dsizeParts?, notDigits, less, more, Bool.false_eq_true,
    false_and, if_false]
  simp only [text, taken, dropped, trimmed, signs, List.drop_succ_cons,
    List.drop_zero, lstrip_ofInt, (digits_ofInt upper).1,
    ne_eq, ofInt_ne_nil, not_false_eq_true, and_self, if_true]

/-- The value of the option is written in bare characters. -/
theorem isBare_text
    {dsize : DsizeSpec}
    {lower : Nat}
    (isLower : dsize.a = lower)
    {upper : Nat}
    (isUpper : dsize.b.getD 0 = upper) :
    IsBare dsize.text := by
  have digits := isBare_ofInt lower
  have signs : IsBare (lit "<>") := by
    intro char member
    rcases List.mem_cons.mp member with rfl | isSecond
    · decide
    · rw [List.mem_singleton.mp isSecond]
      decide
  rw [text, isLower, isUpper]
  split
  · exact digits
  · exact List.forall_mem_cons.mpr ⟨by decide, digits⟩
  · exact List.forall_mem_cons.mpr ⟨by decide, digits⟩
  · exact (digits.append signs).append (isBare_ofInt upper)

/-- The value of a dsize option is read back. -/
theorem parseDsizeValue_text
    {dsize : DsizeSpec}
    (writable : dsize.Writable) :
    parseDsizeValue (some dsize.text) = .ok dsize ∧
      IsValue dsize.text := by
  obtain ⟨op, a, b, allowed⟩ := dsize
  obtain ⟨small, smallUpper⟩ := writable
  obtain ⟨lower, rfl⟩ := Int.eq_ofNat_of_zero_le allowed.1
  have isLower := nonNegativeInt?_ofInt (Int.ofNat_le.mp small)
  cases b with
  | none =>
      have isValue :=
        (isBare_text
          (show (⟨op, lower, none, allowed⟩ : DsizeSpec).a = lower from rfl)
          (show _ = ((0 : Nat) : Int) from rfl)).isValue
      refine ⟨?_, isValue⟩
      obtain ⟨less, more⟩ := dsizeParts?_bound lower
      have parts :
          dsizeParts? (text ⟨op, lower, none, allowed⟩) =
            some (op, ofInt lower, none) := by
        cases op with
        | eq =>
            exact dsizeParts?_eq lower
        | lt =>
            exact less
        | gt =>
            exact more
        | range =>
            exact absurd allowed.2 id
      simp only [parseDsizeValue, Option.bind_some, isValue.1, parts,
        dsizeOf?, isLower, dif_pos allowed]
  | some upper =>
      have isRange : op = .range := by
        cases op with
        | range =>
            rfl
        | _ =>
            exact absurd allowed.2 id
      subst isRange
      obtain ⟨upper, rfl⟩ :=
        Int.eq_ofNat_of_zero_le (allowed.1.trans allowed.2)
      have isUpper :=
        nonNegativeInt?_ofInt (Int.ofNat_le.mp (smallUpper upper rfl))
      have isValue :=
        (isBare_text
          (show (⟨.range, lower, some (upper : Int), allowed⟩ :
            DsizeSpec).a = lower from rfl)
          (show _ = (upper : Int) from rfl)).isValue
      refine ⟨?_, isValue⟩
      have parts :
          dsizeParts? (text ⟨.range, lower, some (upper : Int), allowed⟩) =
            some (.range, ofInt lower, some (ofInt upper)) := by
        have range := dsizeParts?_range lower upper
        rw [text]
        simpa [lit] using range
      simp only [parseDsizeValue, Option.bind_some, isValue.1, parts,
        dsizeOf?, isLower, isUpper, dif_pos allowed]

/-- What is read can be written. -/
theorem writable_of_parseDsizeValue
    {value : Option Str}
    {dsize : DsizeSpec}
    (isRead : parseDsizeValue value = .ok dsize) :
    dsize.Writable := by
  have bounded :
      ∀ {text : Str} {number : Nat},
        nonNegativeInt? text = some number →
          (number : Int) ≤ maxOptionInt := by
    intro text number isNumber
    simp only [nonNegativeInt?] at isNumber
    split at isNumber
    · obtain ⟨_, small⟩ := Option.filter_eq_some_iff.mp isNumber
      exact Int.ofNat_le.mpr (of_decide_eq_true small)
    · cases isNumber
  simp only [parseDsizeValue] at isRead
  split at isRead
  · cases isRead
  · split at isRead
    · cases isRead
    · rename_i made isMade
      cases isRead
      simp only [dsizeOf?] at isMade
      split at isMade
      · cases isMade
      · rename_i lower isLower _
        split at isMade
        · cases isMade
          refine ⟨bounded isLower, ?_⟩
          intro upper absent
          cases absent
        · cases isMade
      · rename_i lower text isLower _
        split at isMade
        · cases isMade
        · rename_i upper isUpper
          split at isMade
          · cases isMade
            refine ⟨bounded isLower, ?_⟩
            rintro _ ⟨⟩
            exact bounded isUpper
          · cases isMade

end DsizeSpec

end IntrusionDetection
