import IntrusionDetection.WrittenRules
import Mathlib.Data.List.TFAE

namespace IntrusionDetection

open PyText FaultPrecedence

/-!
# Exactly the rules that can be written are read

The line of a rule that can be written is read back as that rule, and every
rule that is read from some line is one that can be written.
-/

/-! ### The options of one keyword -/

/-- An option that is found is parsed. -/
theorem parseSingle_of_filter
    {Spec : Type}
    {key : Keyword}
    {parseValue : Option Str → Except RuleReason Spec}
    {options : List OptionPair}
    {spec : Option Spec}
    {text : Spec → Str}
    (found :
      options.filter (fun option => option.key = key) =
        (spec.map fun value => ⟨key, some (text value)⟩).toList)
    (isRead : ∀ value ∈ spec, parseValue (some (text value)) = .ok value) :
    parseSingle key parseValue options = .ok spec := by
  cases spec with
  | none =>
      simp only [parseSingle, singleOption, found]
      rfl
  | some value =>
      simp only [parseSingle, singleOption, found, Option.map_some,
        Option.toList_some, isRead value rfl]
      rfl

namespace Rule

/-- The other parsers' options are found among the last ones. -/
theorem filter_options
    {key : Keyword}
    (notIdentifying : ¬ key.IsIdentifying)
    (notOfContent : ¬ key.IsOfContent)
    (cfg : ParserCfg)
    (rule : Rule) :
    (rule.options cfg).filter (fun option => option.key = key) =
      rule.singleOptions.filter fun option => option.key = key := by
  have ident :
      (rule.identOptions cfg).filter (fun option => option.key = key) =
        [] := by
    rw [List.filter_eq_nil_iff]
    intro option member isKey
    obtain ⟨keyword, same⟩ := identifying_of_mem_identOptions member
    rw [← of_decide_eq_true isKey, same] at notIdentifying
    exact notIdentifying trivial
  have passive :
      (rule.passiveOptions.filterMap passiveOption?).filter
          (fun option => option.key = key) = [] := by
    rw [List.filter_eq_nil_iff]
    intro option member isKey
    obtain ⟨stored, _, isOption⟩ := List.mem_filterMap.mp member
    obtain ⟨⟨keyword, same⟩, _⟩ := passive?_of_passiveOption? isOption
    rw [← of_decide_eq_true isKey, same] at notIdentifying
    exact notIdentifying trivial
  have ofContent :
      (rule.contents.flatMap ContentSpec.options).filter
          (fun option => option.key = key) = [] := by
    rw [List.filter_eq_nil_iff]
    intro option member isKey
    obtain ⟨content, _, isOption⟩ := List.mem_flatMap.mp member
    have same := isOfContent_of_mem_options isOption
    rw [of_decide_eq_true isKey] at same
    exact notOfContent same
  rw [options, List.filter_append, List.filter_append, List.filter_append,
    ident, passive, ofContent]
  rfl

/-- Each of the last options is found under its keyword. -/
theorem filter_singleOptions (rule : Rule) :
    (rule.singleOptions.filter (fun option => option.key = .flow) =
        (rule.flow.map fun flow => ⟨.flow, some flow.text⟩).toList) ∧
      (rule.singleOptions.filter (fun option => option.key = .flags) =
        (rule.flags.map fun flags => ⟨.flags, some flags.text⟩).toList) ∧
      (rule.singleOptions.filter (fun option => option.key = .dsize) =
        (rule.dsize.map fun dsize => ⟨.dsize, some dsize.text⟩).toList) := by
  rw [singleOptions]
  cases rule.flow <;> cases rule.flags <;> cases rule.dsize <;>
    exact ⟨rfl, rfl, rfl⟩

end Rule

/-! ### The options can be written -/

/-- The characters of a class are bare. -/
theorem isBare_of_isClasstypeChar
    {char : CodePoint}
    (plain : isClasstypeChar char = true) :
    isBare char = true := by
  simp only [isClasstypeChar, Bool.or_eq_true, Bool.and_eq_true,
    decide_eq_true_eq] at plain
  have letter :
      0x41 ≤ char.val → char.val ≤ 0x7A → char ≠ codePoint '\\' →
        isBare char = true := by
    intro large small notBackslash
    have notBlank : isBlank char = false := by
      simp only [isBlank, Bool.or_eq_false_iff, Bool.and_eq_false_iff,
        decide_eq_false_iff_not, beq_eq_false_iff_ne]
      omega
    have differs :
        ∀ other : CodePoint, other.val < 0x41 → char ≠ other := by
      rintro other below rfl
      omega
    have notEscapable : isEscapable char = false := by
      simp [isEscapable, notBackslash, differs (codePoint ';') (by decide),
        differs (codePoint '"') (by decide)]
    simp [isBare, notBlank, notEscapable,
      differs (codePoint '(') (by decide)]
  rcases plain with (((isDigit | upper) | lower) | rfl) | rfl
  · exact isBare_of_isAsciiDigit isDigit
  · apply letter upper.1 (upper.2.trans (by decide))
    rintro rfl
    exact absurd upper.2 (by decide)
  · apply letter (le_trans (by decide) lower.1) lower.2
    rintro rfl
    exact absurd lower.1 (by decide)
  · decide
  · decide

namespace Rule

variable {cfg : ParserCfg} {rule : Rule} (writable : rule.Writable cfg)
include writable

/-- The identification options can be written. -/
theorem written_identOptions :
    ∀ option ∈ rule.identOptions cfg, option.Written := by
  intro option member
  have supported : option.key ∈ Keyword.supported := by
    obtain ⟨keyword, isKey⟩ := identifying_of_mem_identOptions member
    rw [isKey]
    cases keyword <;> decide
  refine ⟨supported, ?_⟩
  intro value isValue
  simp only [identOptions, List.mem_append, List.mem_cons,
    List.not_mem_nil, or_false, Option.mem_toList,
    Option.map_eq_some_iff] at member
  rcases member with (rfl | rfl | rfl) | ⟨name, isName, rfl⟩ |
    ⟨priority, isGiven, rfl⟩
  · cases isValue
    exact isValue_quote rule.msg
  · cases isValue
    exact (isBare_ofInt_of_int rule.sid).isValue
  · cases isValue
    exact (isBare_ofInt_of_int rule.rev).isValue
  · cases isValue
    apply IsBare.isValue
    intro char inName
    exact isBare_of_isClasstypeChar
      ((writable.classtype value isName).2 char inName)
  · cases isValue
    exact (isBare_ofInt_of_int priority).isValue

/-- The options of a content can be written. -/
theorem written_contentOptions :
    ∀ option ∈ rule.contents.flatMap ContentSpec.options,
      option.Written := by
  intro option member
  obtain ⟨content, isContent, isOption⟩ := List.mem_flatMap.mp member
  rcases List.mem_cons.mp isOption with rfl | isModifier
  · refine ⟨by simp [Keyword.supported], ?_⟩
    rintro _ ⟨⟩
    exact isValue_quoted (writable.contents content isContent).scanned
  · obtain ⟨modifier, _, isGiven⟩ := List.mem_filterMap.mp isModifier
    obtain ⟨value, _, rfl⟩ := Option.map_eq_some_iff.mp isGiven
    refine ⟨?_, fun text isText => ModifierValue.isValue isText⟩
    cases modifier <;> simp [Keyword.supported]

/-- The other options can be written. -/
theorem written_singleOptions :
    ∀ option ∈ rule.singleOptions, option.Written := by
  intro option member
  simp only [singleOptions, List.mem_append, Option.mem_toList,
    Option.map_eq_some_iff] at member
  rcases member with ⟨flow, isFlow, rfl⟩ | ⟨flags, _, rfl⟩ |
    ⟨dsize, isDsize, rfl⟩
  · refine ⟨by simp [Keyword.supported], ?_⟩
    rintro _ ⟨⟩
    exact (FlowSpec.parseFlowValue_text (writable.flow flow isFlow)).2
  · refine ⟨by simp [Keyword.supported], ?_⟩
    rintro _ ⟨⟩
    exact flags.parseFlagsValue_text.2
  · refine ⟨by simp [Keyword.supported], ?_⟩
    rintro _ ⟨⟩
    exact (DsizeSpec.parseDsizeValue_text (writable.dsize dsize isDsize)).2

/-- Every option of the rule can be written. -/
theorem written_options :
    ∀ option ∈ rule.options cfg, option.Written := by
  have passive :
      ∀ option ∈ rule.passiveOptions.filterMap passiveOption?,
        option.Written := by
    intro option member
    obtain ⟨stored, isStored, isOption⟩ := List.mem_filterMap.mp member
    obtain ⟨⟨keyword, isKey⟩, sameValue, _⟩ :=
      passive?_of_passiveOption? isOption
    refine ⟨?_, ?_⟩
    · rw [isKey]
      cases keyword <;> decide
    · rw [sameValue]
      exact (writable.passive stored isStored).2
  rw [options]
  exact List.forall_mem_append.mpr
    ⟨written_identOptions writable, List.forall_mem_append.mpr
      ⟨passive, List.forall_mem_append.mpr
        ⟨written_contentOptions writable, written_singleOptions writable⟩⟩⟩

end Rule

/-! ### The checks find nothing -/

/-- A content that can be searched for passes the checks. -/
theorem validateContents_of_searchable
    {contents : List ContentSpec}
    (searchable : ∀ content ∈ contents, content.Searchable) :
    validateContents contents = .ok () := by
  induction contents with
  | nil =>
      rfl
  | cons content rest inductionHypothesis =>
      obtain ⟨first, others⟩ := List.forall_mem_cons.mp searchable
      have deepEnough :
          content.depth.any
            (· < (content.pattern.length : Int)) = false := by
        cases isDepth : content.depth with
        | none =>
            rfl
        | some depth =>
            simpa using first.depth depth isDepth
      have wideEnough :
          content.within.any
            (· < (content.pattern.length : Int)) = false := by
        cases isWithin : content.within with
        | none =>
            rfl
        | some within =>
            simpa using first.within within isWithin
      have notMixed :
          ((content.offset.isSome || content.depth.isSome) &&
            (content.distance.isSome || content.within.isSome)) = false := by
        simpa using first.notMixed
      have valid : validateContent content = .ok () := by
        simp only [validateContent, deepEnough, wideEnough, notMixed,
          Bool.false_eq_true, if_false]
      simp only [validateContents, List.forM_eq_forM, List.forM_cons, valid]
      exact inductionHypothesis others

/-- Supported keywords are not reported. -/
theorem unsupportedKeyword_of_supported
    {options : List OptionPair}
    (supported : ∀ option ∈ options, option.key ∈ Keyword.supported) :
    unsupportedKeyword options = none := by
  have noFaults : options.filterMap keywordFault = [] := by
    rw [List.filterMap_eq_nil_iff]
    intro option member
    have known := supported option member
    obtain ⟨key, value⟩ := option
    cases key with
    | other word =>
        simp [Keyword.supported] at known
    | _ =>
        rfl
  rw [unsupportedKeyword, noFaults]
  rfl

/-- Parts that were parsed are what the checks yield. -/
theorem checkParts_of_parsedFrom
    {parts : RuleParts}
    {tokens : HeaderTokens}
    {options : List OptionPair}
    {defaultPriority : Int}
    (parsed : parts.ParsedFrom tokens options defaultPriority) :
    RuleChecker.checkParts tokens options defaultPriority [] =
      .ok (parts, []) := by
  obtain ⟨header, isHeader, hasHeader⟩ := parsed.header
  simp only [RuleChecker.checkParts, RuleChecker.checkContents,
    Checker.andThen, Checker.attempt, Checker.demand, Checker.note,
    Checker.pure, isHeader, Except.map, parsed.identification,
    parsed.contents, parsed.flow, parsed.flags, parsed.dsize,
    parsed.searchable, parsed.flagsProtocol, parsed.keywords,
    Option.toList_none, List.append_nil, ← hasHeader]

/-- A line whose parts were parsed and make a rule is valid. -/
theorem valid_of_parsedFrom
    {cfg : ParserCfg}
    {text sourceFile : Str}
    {lineNo : Nat}
    {tokens : HeaderTokens}
    {options : List OptionPair}
    {parts : RuleParts}
    {header : Header}
    {rule : Rule}
    (tokenized : tokenizeRule text = .ok (tokens, options))
    (parsed : parts.ParsedFrom tokens options cfg.priority)
    (hasHeader : parts.header = some header)
    (created :
      Rule.create header parts text sourceFile lineNo = .ok rule) :
    parseRule cfg text sourceFile lineNo = .valid rule (some rule.sid) := by
  have checked := checkParts_of_parsedFrom parsed
  simp only [parseRule, parseRuleUnguarded, tokenized, checked, hasHeader,
    created, Except.map]

namespace Rule

/-- The contents of a rule are read back. -/
theorem parseContentsFull_options
    {cfg : ParserCfg}
    {rule : Rule}
    (writable : rule.Writable cfg) :
    parseContentsFull (rule.options cfg) = .ok (rule.contents, none) := by
  let start : ContentsState :=
    { contents := [], current := none, unsupported := none }
  have ident :
      (rule.identOptions cfg).foldlM contentsOption start = .ok start := by
    apply foldlM_unchanged
    intro option member
    apply contentsOption_other
    obtain ⟨keyword, isKey⟩ := identifying_of_mem_identOptions member
    rw [isKey]
    exact id
  have passive :
      (rule.passiveOptions.filterMap passiveOption?).foldlM contentsOption
          start =
        .ok start := by
    apply foldlM_unchanged
    intro option member
    apply contentsOption_other
    obtain ⟨stored, _, isOption⟩ := List.mem_filterMap.mp member
    obtain ⟨⟨keyword, isKey⟩, _⟩ := passive?_of_passiveOption? isOption
    rw [isKey]
    exact id
  obtain ⟨final, looped, closed, unsupported⟩ :=
    foldlM_contents writable.contents start
  have single :
      rule.singleOptions.foldlM contentsOption final = .ok final := by
    apply foldlM_unchanged
    intro option member
    apply contentsOption_other
    rcases key_of_mem_singleOptions member with key | key | key <;>
      rw [key] <;> exact id
  have whole : (rule.options cfg).foldlM contentsOption start = .ok final := by
    rw [options, foldlM_append_of_ok ident, foldlM_append_of_ok passive,
      foldlM_append_of_ok looped, single]
  change ((rule.options cfg).foldlM contentsOption start).map _ = _
  rw [whole]
  change Except.ok (final.close, final.unsupported) = _
  rw [closed, unsupported]
  rfl

end Rule

/-- The same rule on another line. -/
def Rule.onLine (rule : Rule) (line : Str) : Rule :=
  { rule with raw := line }

/-- The line of a rule is read back. -/
theorem parseRule_text
    {cfg : ParserCfg}
    {rule : Rule}
    (writable : rule.Writable cfg) :
    parseRule cfg (rule.text cfg) rule.sourceFile rule.lineNo =
      .valid (rule.onLine (rule.text cfg)) (some rule.sid) := by
  have written := Rule.written_options writable
  have tokenized :=
    tokenizeRule_lineOf rule.isHeaderWord_headerTokens written
  have isHeader := Rule.parseHeader_headerTokens writable
  obtain ⟨identification, isIdentification, msg, sid, rev, classtype,
    priority, passive⟩ := Rule.parseIdentification_options writable
  obtain ⟨flowFound, flagsFound, dsizeFound⟩ := rule.filter_singleOptions
  let header : Header := {
    protocol := rule.protocol
    srcIp := rule.srcIp
    srcPort := rule.srcPort
    direction := rule.direction
    dstIp := rule.dstIp
    dstPort := rule.dstPort }
  let parts : RuleParts := {
    header := some header
    identification
    contents := rule.contents
    flow := rule.flow
    flags := rule.flags
    dsize := rule.dsize }
  have contents := Rule.parseContentsFull_options writable
  have flow : parseFlow (rule.options cfg) = .ok rule.flow := by
    apply parseSingle_of_filter
      ((rule.filter_options id id cfg).trans flowFound)
    exact fun flow isFlow =>
      (FlowSpec.parseFlowValue_text (writable.flow flow isFlow)).1
  have flags : parseFlags (rule.options cfg) = .ok rule.flags := by
    apply parseSingle_of_filter
      ((rule.filter_options id id cfg).trans flagsFound)
    exact fun flags _ => flags.parseFlagsValue_text.1
  have dsize : parseDsize (rule.options cfg) = .ok rule.dsize := by
    apply parseSingle_of_filter
      ((rule.filter_options id id cfg).trans dsizeFound)
    exact fun dsize isDsize =>
      (DsizeSpec.parseDsizeValue_text (writable.dsize dsize isDsize)).1
  have flagsProtocol :
      validateFlagsProtocol rule.headerTokens.protocol
        ((rule.options cfg).any fun option => option.key = .flags) =
          .ok () := by
    rw [validateFlagsProtocol, if_neg]
    intro both
    obtain ⟨given, isUdp⟩ := Bool.and_eq_true_iff.mp both
    have hasFlags : rule.flags.isSome := by
      apply (givenOnce_of_parseSingle flags).set_iff.mpr
      simpa using given
    apply writable.flags hasFlags
    have name : rule.protocol.name = lit "udp" := of_decide_eq_true isUdp
    cases protocol : rule.protocol with
    | udp =>
        rfl
    | _ =>
        rw [protocol] at name
        cases name
  have parsed :
      parts.ParsedFrom rule.headerTokens (rule.options cfg) cfg.priority :=
    { header := ⟨header, isHeader, rfl⟩
      identification := isIdentification
      contents
      flow
      flags
      dsize
      searchable :=
        validateContents_of_searchable fun content member =>
          (writable.contents content member).searchable
      flagsProtocol
      keywords :=
        unsupportedKeyword_of_supported fun option member =>
          (written option member).supported }
  have created :
      Rule.create header parts (rule.text cfg) rule.sourceFile rule.lineNo =
        .ok (rule.onLine (rule.text cfg)) := by
    have positive : 1 ≤ identification.priority :=
      rule.priorityPositive _ priority.symm
    simp only [Rule.create, parts, header, dif_pos positive, Rule.onLine,
      msg, sid, rev, classtype, priority, passive]
  exact valid_of_parsedFrom tokenized parsed rfl created

/-! ### What is read can be written -/

/-- What the loop over the identification options has stored, besides. -/
structure IdentState.Written
    (defaultPriority : Int)
    (state : IdentState) : Prop where
  classtype :
    ∀ name ∈ state.classtype,
      name ≠ [] ∧ ∀ char ∈ name, isClasstypeChar char = true
  priority :
    state.priority = defaultPriority ∨ state.priority ≤ maxOptionInt

/-- One identification option stores what can be written. -/
theorem IdentState.Written.identOption
    {defaultPriority : Int}
    {state next : IdentState}
    {option : OptionPair}
    (written : state.Written defaultPriority)
    (stepped : identOption state option = .ok next) :
    next.Written defaultPriority := by
  obtain ⟨key, value⟩ := option
  cases key with
  | identification keyword =>
      simp only [IntrusionDetection.identOption] at stepped
      split at stepped
      · cases stepped
      · cases keyword <;> simp only [identValue] at stepped
        case classtype =>
          split at stepped
          · cases stepped
          · rename_i name isRead
            cases stepped
            refine ⟨?_, written.priority⟩
            rintro _ ⟨⟩
            obtain ⟨_, plain⟩ := Option.filter_eq_some_iff.mp isRead
            obtain ⟨notEmpty, all⟩ := Bool.and_eq_true_iff.mp plain
            exact ⟨of_decide_eq_true notEmpty, List.all_eq_true.mp all⟩
        case priority =>
          split at stepped
          · cases stepped
          · rename_i priority isRead
            cases stepped
            refine ⟨written.classtype, Or.inr ?_⟩
            exact Int.ofNat_le.mpr (positiveInt?_bounds isRead).2
        all_goals
          split at stepped
          · cases stepped
          · cases stepped
            exact ⟨written.classtype, written.priority⟩
  | _ =>
      cases stepped
      exact ⟨written.classtype, written.priority⟩

/-- The class and the priority of a rule can be written. -/
theorem written_of_parseIdentification
    {options : List OptionPair}
    {defaultPriority : Int}
    {identification : Identification}
    (read :
      parseIdentification options defaultPriority = .ok identification) :
    (∀ name ∈ identification.classtype,
        name ≠ [] ∧ ∀ char ∈ name, isClasstypeChar char = true) ∧
      (identification.priority = defaultPriority ∨
        identification.priority ≤ maxOptionInt) := by
  simp only [parseIdentification] at read
  obtain ⟨final, looped, ends⟩ := exists_of_bind_ok read
  have keeps :
      ∀ (state : IdentState) (_ : List OptionPair) (option : OptionPair)
        (next : IdentState),
        state.Written defaultPriority →
        identOption state option = .ok next →
        next.Written defaultPriority :=
    fun _ _ _ _ before stepped => before.identOption stepped
  have written : final.Written defaultPriority :=
    history_of_foldlM keeps ⟨by simp, Or.inl rfl⟩ looped
  simp only [identEnd] at ends
  split at ends
  · cases ends
  · cases ends
  · cases ends
    exact ⟨written.classtype, written.priority⟩

/-- A modifier of a content was read from the value of an option. -/
theorem exists_of_modifier?
    {content : ContentSpec}
    {group : ContentGroup}
    (carries : content.Carries group)
    {modifier : ContentModifier}
    {value : ModifierValue}
    (isValue : content.modifier? modifier = some value) :
    ∃ text, modifierValue? modifier text = some value := by
  by_cases given : modifier ∈ group.modifiers.map Prod.fst
  · obtain ⟨⟨_, text⟩, member, rfl⟩ := List.mem_map.mp given
    obtain ⟨read, isRead, same⟩ := carries.carried _ text member
    rw [same] at isValue
    cases isValue
    exact ⟨text, isRead⟩
  · rw [carries.noOthers modifier given] at isValue
    cases isValue

/-- The numbers of options are small. -/
theorem nonNegativeInt?_le
    {text : Str}
    {number : Nat}
    (isRead : nonNegativeInt? text = some number) :
    number ≤ maxOptionInt := by
  simp only [nonNegativeInt?] at isRead
  split at isRead
  · obtain ⟨_, small⟩ := Option.filter_eq_some_iff.mp isRead
    exact of_decide_eq_true small
  · cases isRead

/-- The number of a modifier is small; only a distance may be negative. -/
theorem bounds_of_modifierValue?
    {modifier : ContentModifier}
    {text : Option Str}
    {number : Int}
    (isRead : modifierValue? modifier text = some (.number number)) :
    (modifier = .distance ∧ -maxOptionInt ≤ number ∧
        number ≤ maxOptionInt) ∨
      (modifier ≠ .distance ∧ 0 ≤ number ∧ number ≤ maxOptionInt) := by
  cases modifier <;> cases text <;>
    simp only [modifierValue?, reduceCtorEq, Option.some.injEq] at isRead
  case distance.some text =>
    refine Or.inl ⟨rfl, ?_⟩
    split at isRead
    · obtain ⟨_, isValue, same⟩ := Option.map_eq_some_iff.mp isRead
      obtain ⟨value, isNatural, isCast⟩ := Option.bind_eq_some_iff.mp isValue
      have small := nonNegativeInt?_le isNatural
      cases isCast
      cases same
      omega
    · obtain ⟨_, isValue, same⟩ := Option.map_eq_some_iff.mp isRead
      obtain ⟨value, isNatural, isCast⟩ := Option.bind_eq_some_iff.mp isValue
      have small := nonNegativeInt?_le isNatural
      cases isCast
      cases same
      omega
  case within.some text =>
    obtain ⟨_, isValue, same⟩ := Option.map_eq_some_iff.mp isRead
    obtain ⟨value, isNatural, isCast⟩ := Option.bind_eq_some_iff.mp isValue
    have small :=
      nonNegativeInt?_le (Option.filter_eq_some_iff.mp isNatural).1
    cases isCast
    cases same
    exact Or.inr ⟨by decide, by omega, by omega⟩
  all_goals
    obtain ⟨_, isValue, same⟩ := Option.map_eq_some_iff.mp isRead
    obtain ⟨value, isNatural, isCast⟩ := Option.bind_eq_some_iff.mp isValue
    have small := nonNegativeInt?_le isNatural
    cases isCast
    cases same
    exact Or.inr ⟨by decide, by omega, by omega⟩

/-- What is related to a list item by item has a partner in it. -/
theorem exists_of_forall₂
    {First Second : Type}
    {Related : First → Second → Prop}
    {firsts : List First}
    {seconds : List Second}
    (related : List.Forall₂ Related firsts seconds)
    {first : First}
    (member : first ∈ firsts) :
    ∃ second ∈ seconds, Related first second := by
  induction related with
  | nil =>
      cases member
  | cons head tail inductionHypothesis =>
      rcases List.mem_cons.mp member with rfl | isLater
      · exact ⟨_, List.mem_cons_self, head⟩
      · obtain ⟨second, isMember, isRelated⟩ := inductionHypothesis isLater
        exact ⟨second, List.mem_cons_of_mem _ isMember, isRelated⟩

/-- A content that was read can be written. -/
theorem writable_of_carries
    {content : ContentSpec}
    {group : ContentGroup}
    (carries : content.Carries group)
    (searchable : content.Searchable) :
    content.Writable := by
  have bounds :
      ∀ {modifier : ContentModifier} {number : Int},
        content.modifier? modifier = some (.number number) →
          (modifier = .distance ∧ -maxOptionInt ≤ number ∧
              number ≤ maxOptionInt) ∨
            (modifier ≠ .distance ∧ 0 ≤ number ∧ number ≤ maxOptionInt) := by
    intro modifier number isNumber
    obtain ⟨text, isRead⟩ := exists_of_modifier? carries isNumber
    exact bounds_of_modifierValue? isRead
  have unsigned :
      ∀ {modifier : ContentModifier} {number : Int},
        modifier ≠ .distance →
        content.modifier? modifier = some (.number number) →
          0 ≤ number ∧ number ≤ maxOptionInt := by
    intro modifier number notDistance isNumber
    rcases bounds isNumber with ⟨isDistance, _⟩ | ⟨_, inRange⟩
    · exact absurd isDistance notDistance
    · exact inRange
  have given :
      ∀ {field : Option Int} {number : Int},
        number ∈ field →
          field.map ModifierValue.number = some (.number number) := by
    rintro field number isNumber
    rw [Option.mem_def.mp isNumber]
    rfl
  refine ⟨?_, searchable, ?_, ?_, ?_, ?_⟩
  · obtain ⟨decoded, isDecoded, sameRaw, samePattern⟩ := carries.decoded
    rw [sameRaw, samePattern]
    simp only [decodeContent] at isDecoded
    split at isDecoded
    · cases isDecoded
    · split at isDecoded
      · cases isDecoded
      · rename_i found isQuoted
        cases isDecoded
        simp only [decodeQuoted?] at isQuoted
        split at isQuoted
        · cases isQuoted
        · split at isQuoted
          · cases isQuoted
          · rename_i pattern isScanned
            split at isQuoted
            · cases isQuoted
              exact isScanned
            · cases isQuoted
  · exact fun number isNumber =>
      @unsigned .offset number (by decide) (given isNumber)
  · exact fun number isNumber =>
      (@unsigned .depth number (by decide) (given isNumber)).2
  · intro number isNumber
    rcases @bounds .distance number (given isNumber) with
      ⟨_, inRange⟩ | ⟨notDistance, _⟩
    · exact inRange
    · exact absurd rfl notDistance
  · exact fun number isNumber =>
      (@unsigned .within number (by decide) (given isNumber)).2

/-- An option that is set was given with a value that was parsed. -/
theorem GivenOnce.exists_of_set
    {Spec : Type}
    {key : Keyword}
    {parseValue : Option Str → Except RuleReason Spec}
    {options : List OptionPair}
    {spec : Option Spec}
    (once : GivenOnce key parseValue options spec)
    {value : Spec}
    (isSet : value ∈ spec) :
    ∃ text, parseValue text = .ok value := by
  obtain ⟨option, member, isKey⟩ :=
    once.set_iff.mp (Option.isSome_of_mem isSet)
  obtain ⟨parsed, isRead, same⟩ := once.value option member isKey
  rw [same] at isSet
  cases isSet
  exact ⟨option.value, isRead⟩

/-- The name of a keyword is that of an option that is only stored. -/
theorem PassiveKeyword.isSome_of?_text (keyword : PassiveKeyword) :
    (PassiveKeyword.of? keyword.word.text).isSome = true := by
  cases keyword <;> decide

/-- A rule that was read can be written. -/
theorem writable_of_valid
    {cfg : ParserCfg}
    {text sourceFile : Str}
    {lineNo : Nat}
    {rule : Rule}
    {sid : Option Int}
    (valid : parseRule cfg text sourceFile lineNo = .valid rule sid) :
    rule.Writable cfg := by
  obtain ⟨tokens, options, parts, header, tokenized, parsed, isHeader,
    created⟩ := exists_of_valid valid
  have carries := carriesOptions_of_create parsed created
  have usable := usable_of_create parsed isHeader created
  have written := written_of_tokenizeRule tokenized carries.supported
  obtain ⟨_, isSrcIp, isDstIp⟩ := fields_of_parseHeader isHeader
  obtain ⟨sidRange, revRange, _⟩ :=
    stores_of_parseIdentification parsed.identification
  obtain ⟨classtype, priority⟩ :=
    written_of_parseIdentification parsed.identification
  have passive := carries.passive
  simp only [Rule.create] at created
  split at created
  · cases created
    constructor
    case srcIp =>
      exact IpSpec.writable_of_parseIp isSrcIp
    case dstIp =>
      exact IpSpec.writable_of_parseIp isDstIp
    case sid =>
      exact ⟨Int.ofNat_le.mpr sidRange.1, Int.ofNat_le.mpr sidRange.2⟩
    case rev =>
      exact ⟨Int.ofNat_le.mpr revRange.1, Int.ofNat_le.mpr revRange.2⟩
    case classtype =>
      exact classtype
    case priority =>
      exact ⟨_, rfl, priority⟩
    case contents =>
      intro content member
      obtain ⟨group, _, carried⟩ :=
        exists_of_forall₂ carries.contents member
      exact writable_of_carries carried (usable.contents content member)
    case flow =>
      intro flow isFlow
      obtain ⟨value, isRead⟩ := carries.flow.exists_of_set isFlow
      exact FlowSpec.writable_of_parseFlowValue isRead
    case flags =>
      intro hasFlags isUdp
      rcases usable.flags hasFlags with isTcp | isIp
      · cases isUdp.symm.trans isTcp
      · cases isUdp.symm.trans isIp
    case dsize =>
      intro dsize isDsize
      obtain ⟨value, isRead⟩ := carries.dsize.exists_of_set isDsize
      exact DsizeSpec.writable_of_parseDsizeValue isRead
    case passive =>
      intro stored member
      rw [passive] at member
      obtain ⟨option, isOption, isStored⟩ := List.mem_filterMap.mp member
      have values := (written option isOption).value
      obtain ⟨key, value⟩ := option
      cases key with
      | passive keyword =>
          cases isStored
          exact ⟨keyword.isSome_of?_text, values⟩
      | _ =>
          cases isStored
  · cases created

/--
A rule is read from some line just if it can be written, and then it is read
back from its own line.
-/
theorem rule_readable_tfae (cfg : ParserCfg) (rule : Rule) :
    [rule.Writable cfg,
      parseRule cfg (rule.text cfg) rule.sourceFile rule.lineNo =
        .valid (rule.onLine (rule.text cfg)) (some rule.sid),
      ∃ line sid,
        parseRule cfg line rule.sourceFile rule.lineNo =
          .valid (rule.onLine line) sid].TFAE := by
  have kept : ∀ line, (rule.onLine line).Writable cfg → rule.Writable cfg := by
    rintro line ⟨srcIp, dstIp, sid, rev, classtype, priority, contents,
      flow, flags, dsize, passive⟩
    exact ⟨srcIp, dstIp, sid, rev, classtype, priority, contents, flow,
      flags, dsize, passive⟩
  tfae_have 1 → 2 := parseRule_text
  tfae_have 2 → 3 := fun valid => ⟨_, _, valid⟩
  tfae_have 3 → 1 := by
    rintro ⟨line, sid, valid⟩
    exact kept line (writable_of_valid valid)
  tfae_finish

/-- A line with its options in another order. -/
def scrambledLine : Str :=
  lit "alert tcp 10.1.2.3/8 :80 <> any any ( sid:0007; dsize: 5 <> 9; " ++
    lit "content:\"GE|54 3B|\"; gid:1 ;depth:9 ; flags:AS+; nocase; " ++
      lit "flow:from_client , established; msg:\"a\\\\b\"; priority:3;)"

/-- The line of its rule. -/
def settledLine : Str :=
  lit "alert tcp 10.0.0.0/8 0:80 <> any 0:65535(msg:\"a\\\\b\" ;sid:7 ;" ++
    lit "rev:1 ;gid:1 ;content:\"GE|54 3B|\" ;nocase;depth:9 ;" ++
      lit "flow:to_server,established ;flags:SA+ ;dsize:5<>9 ;)"

example :
    (parseRule { defaultPriority := none } scrambledLine [] 1).rule?.map
        (Rule.text { defaultPriority := none }) =
      some settledLine := by
  decide +kernel

end IntrusionDetection
