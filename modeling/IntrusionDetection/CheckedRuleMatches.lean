import IntrusionDetection.CheckedContentMatches
import IntrusionDetection.CheckedRuleParser
import IntrusionDetection.CheckedValueMatches
import IntrusionDetection.NamedFaults

namespace IntrusionDetection

open PyText CheckedSteps GuardedSteps FaultPrecedence

/-!
# The rule parser never reports an internal error

The parts put together: the parser that raises and catches exceptions returns
what the one without exceptions returns.  Every object it makes on the way is
accepted by its constructor, and nothing reaches its last handler.
-/

open Checked (Parser Raised Construction)

/-! ### The objects of a line -/

/-- The object a rule is. -/
def Rule.object (rule : Rule) : Checked.Rule where
  action := lit "alert"
  protocol := rule.protocol.name
  srcIp := rule.srcIp.object
  srcPort := rule.srcPort.object
  direction := rule.direction.text
  dstIp := rule.dstIp.object
  dstPort := rule.dstPort.object
  msg := rule.msg
  sid := rule.sid
  rev := rule.rev
  classtype := rule.classtype
  priority := rule.priority
  contents := rule.contents.map ContentSpec.object
  flow := rule.flow.map FlowSpec.object
  flags := rule.flags.map FlagsSpec.object
  dsize := rule.dsize.map DsizeSpec.object
  passiveOptions := rule.passiveOptions
  sourceFile := rule.sourceFile
  lineNo := rule.lineNo
  raw := rule.raw

/-- The object a result is. -/
def ParseResult.object : ParseResult → Checked.ParseResult
  | .valid rule sid =>
      { status := lit "valid"
        rule := some rule.object
        reason := none
        sid }
  | .rejected reason sid =>
      { status :=
          if reason.isInvalid then lit "invalid" else lit "unsupported"
        rule := none
        reason := some reason.code
        sid }

/-- A rule fits into its constructor. -/
theorem Rule.object_accepted (rule : Rule) :
    (Construction.rule rule.object).accepted = true := by
  have isAction : Checked.ruleActions.contains (lit "alert") = true := by
    decide
  have isProtocol :
      Checked.ruleProtocols.contains rule.protocol.name = true := by
    cases rule.protocol <;> decide
  have isDirection :
      Checked.ruleDirections.contains rule.direction.text = true := by
    cases rule.direction <;> decide
  have isPositive : rule.priority.all (1 ≤ ·) = true := by
    rw [Option.all_eq_true]
    intro value isValue
    exact decide_eq_true (rule.priorityPositive value isValue)
  simp only [Construction.accepted, Checked.Rule.postInit, Rule.object,
    isAction, isProtocol, isDirection, isPositive, Bool.and_self]

/-- A valid line fits into the constructor of results. -/
theorem valid_accepted (rule : Rule) (sid : Option Int) :
    (Construction.parseResult
      (ParseResult.valid rule sid).object).accepted = true :=
  rfl

/-- A rejected line fits into the constructor of results. -/
theorem rejected_accepted (reason : RuleReason) (sid : Option Int) :
    (Construction.parseResult
      (ParseResult.rejected reason sid).object).accepted = true := by
  have isRegistered := reason.isValidReason_code
  cases severe : reason.isInvalid with
  | true =>
      have isPrefix :
          startsWith (lit "invalid" ++ lit ":") reason.code = true :=
        reason.isInvalid_eq_startsWith.symm.trans severe
      have notValid : lit "invalid" ≠ lit "valid" := by decide
      simp [Construction.accepted, Checked.ParseResult.postInit,
        Checked.checkStatusReason, ParseResult.object, severe,
        Checked.ruleStatuses, isRegistered, notValid, isPrefix]
  | false =>
      have notInvalid :
          (!startsWith (lit "unsupported:") reason.code) = false :=
        reason.isInvalid_eq_not_startsWith.symm.trans severe
      have isPrefix :
          startsWith (lit "unsupported" ++ lit ":") reason.code = true :=
        Bool.not_inj notInvalid
      have notValid : lit "unsupported" ≠ lit "valid" := by decide
      simp [Construction.accepted, Checked.ParseResult.postInit,
        Checked.checkStatusReason, ParseResult.object, severe,
        Checked.ruleStatuses, isRegistered, notValid, isPrefix]

/-! ### Steps of a line -/

/-- The exception a plain exception stands for. -/
def PyException.raised (exception : PyException) : Raised :=
  if exception.typeName = lit "AttributeError" then
    .attributeError
  else
    .valueError

/-- The parser of a line ends as the plain parser of the line does. -/
abbrev Ending
    (computation : Parser Checked.ParseResult)
    (outcome : Except PyException ParseResult) : Prop :=
  Matches Construction.accepted PyException.raised
    (fun result made => made = ParseResult.object result) computation
    outcome

/-- A line that is rejected. -/
theorem ending_rejected (reason : RuleReason) (sid : Option Int) :
    Ending (Checked.rejected sid reason.code)
      (.ok (.rejected reason sid)) := by
  unfold Checked.rejected Checked.isInvalidReason
  rw [← reason.isInvalid_eq_startsWith]
  exact .construct_bind (rejected_accepted reason sid) (.pure rfl)

variable {Value Made : Type} {Stands : Value → Made → Prop}
variable {body : Parser Made} {parsed : Except RuleReason Value}

/-- Only reasons are caught, and nothing else is raised. -/
theorem ending_attempted_bind
    {next : Except Str Made → Parser Checked.ParseResult}
    {outcome : Except PyException ParseResult}
    (follows : FollowsPlain Stands body parsed)
    (fails :
      ∀ reason,
        parsed = .error reason →
        Ending (next (.error reason.code)) outcome)
    (succeeds :
      ∀ value made,
        parsed = .ok value →
        Stands value made →
        Ending (next (.ok made)) outcome) :
    Ending (Checked.attempted body >>= next) outcome := by
  refine ⟨fun made all => .bind (.tryCatch (.bind ?_))⟩
  refine (follows.ends made all).mono ?_ ?_
  · rintro result after ⟨stillAll, value, isValue, stands⟩
    exact (succeeds value result isValue stands).ends after stillAll
  · rintro _ after ⟨stillAll, reason, isReason, rfl⟩
    exact (fails reason isReason).ends after stillAll

/-- What is made of the checks of a line. -/
abbrev Finish (Parts : Type) :=
  Except RuleReason (Parts × List RuleReason) →
    Except PyException ParseResult

/-- The line is rejected with the reason its checks stop at. -/
def Finish.Rejects
    {Parts : Type}
    (finish : Finish Parts)
    (sid : Option Int) : Prop :=
  ∀ reason, finish (.error reason) = .ok (.rejected reason sid)

section Checks

variable {Parts : Type} {finish : Finish Parts} {sid : Option Int}
variable {plainNext : Value → RuleChecker Parts}
variable {remembered : List RuleReason}

/-- A step whose fault ends the line. -/
theorem ending_demanding
    (rejects : finish.Rejects sid)
    {next : Made → Parser Checked.ParseResult}
    (follows : FollowsPlain Stands body parsed)
    (later :
      ∀ value made,
        parsed = .ok value →
        Stands value made →
        Ending (next made) (finish (plainNext value remembered))) :
    Ending (Checked.demanding sid body next)
      (finish ((Checker.demand parsed).andThen plainNext remembered)) := by
  unfold Checked.demanding
  apply ending_attempted_bind follows
  · rintro reason rfl
    exact (rejects reason).symm ▸ ending_rejected reason sid
  · rintro value made rfl stands
    exact later value made rfl stands

/-- A step after whose fault the line may be read on. -/
theorem ending_attempting
    (rejects : finish.Rejects sid)
    {next : Made → List Str → Parser Checked.ParseResult}
    {default : Value}
    {madeDefault : Made}
    (follows : FollowsPlain Stands body parsed)
    (standsDefault : Stands default madeDefault)
    (later :
      ∀ value made remembered,
        Stands value made →
        Ending (next made (remembered.map RuleReason.code))
          (finish (plainNext value remembered))) :
    Ending
      (Checked.attempting sid madeDefault body
        (remembered.map RuleReason.code) next)
      (finish
        ((Checker.attempt RuleReason.isInvalid default parsed).andThen
          plainNext remembered)) := by
  unfold Checked.attempting
  apply ending_attempted_bind follows
  · rintro reason rfl
    simp only [Checked.isInvalidReason, ← reason.isInvalid_eq_startsWith,
      Checker.andThen, Checker.attempt]
    cases reason.isInvalid with
    | true => exact (rejects reason).symm ▸ ending_rejected reason sid
    | false =>
        have goesOn :=
          later default madeDefault (remembered ++ [reason]) standsDefault
        rw [List.map_append] at goesOn
        exact goesOn
  · rintro value made rfl stands
    exact later value made remembered stands

end Checks

/-! ### Checks across options -/

/-- The checks of one content. -/
theorem follows_validateContent (content : ContentSpec) :
    FollowsPlain (fun _ _ => True) (Checked.validateContent content.object)
      (validateContent content) := by
  -- The conditions are about the same fields, each on its own object.
  by_cases shallow :
      content.depth.any (· < (content.pattern.length : Int)) = true
  · have failed : validateContent content = .error .depthLtPattern :=
      if_pos shallow
    have raised :
        Checked.validateContent content.object =
          Checked.raise (lit "invalid:depth_lt_pattern") :=
      if_pos shallow
    rw [failed, raised]
    exact follows_raise .depthLtPattern
  by_cases narrow :
      content.within.any (· < (content.pattern.length : Int)) = true
  · have failed : validateContent content = .error .withinLtPattern :=
      (if_neg shallow).trans (if_pos narrow)
    have raised :
        Checked.validateContent content.object =
          Checked.raise (lit "invalid:within_lt_pattern") :=
      (if_neg shallow).trans (if_pos narrow)
    rw [failed, raised]
    exact follows_raise .withinLtPattern
  by_cases mixed :
      ((content.offset.isSome || content.depth.isSome) &&
        (content.distance.isSome || content.within.isSome)) = true
  · have failed :
        validateContent content = .error .mixedAbsoluteRelative :=
      (if_neg shallow).trans ((if_neg narrow).trans (if_pos mixed))
    have raised :
        Checked.validateContent content.object =
          Checked.raise (lit "invalid:mixed_absolute_relative") :=
      (if_neg shallow).trans ((if_neg narrow).trans (if_pos mixed))
    rw [failed, raised]
    exact follows_raise .mixedAbsoluteRelative
  · have passed : validateContent content = .ok () :=
      (if_neg shallow).trans ((if_neg narrow).trans (if_neg mixed))
    have returned : Checked.validateContent content.object = pure () :=
      (if_neg shallow).trans ((if_neg narrow).trans (if_neg mixed))
    rw [passed, returned]
    exact .pure trivial

/-- The checks of all contents. -/
theorem follows_validateContents (contents : List ContentSpec) :
    FollowsPlain (fun _ _ => True)
      (Checked.validateContents (contents.map ContentSpec.object))
      (validateContents contents) := by
  unfold Checked.validateContents validateContents
  induction contents with
  | nil => exact .pure trivial
  | cons content rest inductionHypothesis =>
      rw [List.map_cons]
      refine (follows_validateContent content).bind ?_
      intro _ _ _ _
      exact inductionHypothesis

/-- The check that flags go with TCP. -/
theorem follows_validateFlagsProtocol
    (protocolToken : Str)
    (hasFlags : Bool) :
    FollowsPlain (fun _ _ => True)
      (Checked.validateFlagsProtocol protocolToken hasFlags)
      (validateFlagsProtocol protocolToken hasFlags) := by
  unfold Checked.validateFlagsProtocol validateFlagsProtocol
  split
  · exact follows_raise .flagsRequiresTcp
  · exact .pure trivial

section Options

variable {options : List OptionPair} {raws : List Checked.RawOption}

/-- Is there an option of the key? -/
theorem any_isFlags (read : ReadFrom options raws) :
    (raws.any fun option => option.1 = lit "flags") =
      options.any fun option => option.key = .flags := by
  obtain ⟨rfl, isRead⟩ := read
  rw [List.any_map]
  induction options with
  | nil => rfl
  | cons option rest inductionHypothesis =>
      have isFlags :=
        @Keyword.IsRead.text_eq_iff option.key .flags
          (isRead option (List.mem_cons_self ..)) (by decide)
      have later :=
        inductionHypothesis fun other member =>
          isRead other (List.mem_cons_of_mem _ member)
      rw [List.any_cons, List.any_cons, later]
      exact congrArg (· || _) (decide_eq_decide.mpr isFlags)

/-- The sid that goes with a rejected line. -/
theorem bestEffortSid_eq (read : ReadFrom options raws) :
    Checked.bestEffortSid raws = pure (bestEffortSid options) := by
  obtain ⟨rfl, isRead⟩ := read
  have sameOptions :
      ((options.map OptionPair.raw).filter fun option =>
          option.1 = lit "sid") =
        (options.filter fun option =>
          option.key = .identification .sid).map OptionPair.raw := by
    rw [List.filter_map]
    refine congrArg _ (List.filter_congr fun option member => ?_)
    have isSid :=
      @Keyword.IsRead.text_eq_iff option.key (.identification .sid)
        (isRead option member) (by decide)
    exact decide_eq_decide.mpr isSid
  unfold Checked.bestEffortSid bestEffortSid
  rw [sameOptions]
  generalize
    (options.filter fun option => option.key = .identification .sid) =
      given
  rcases given with _ | ⟨option, _ | ⟨second, rest⟩⟩
  · rfl
  · exact positiveInt_eq option.value
  · rfl

/-- The first keyword outside the supported subset. -/
theorem unsupportedKeyword_eq (read : ReadFrom options raws) :
    Checked.unsupportedKeyword raws =
      (unsupportedKeyword options).map RuleReason.code := by
  obtain ⟨rfl, isRead⟩ := read
  unfold Checked.unsupportedKeyword unsupportedKeyword
  induction options with
  | nil => rfl
  | cons option rest inductionHypothesis =>
      have first := isRead option (List.mem_cons_self ..)
      have later :=
        inductionHypothesis fun other member =>
          isRead other (List.mem_cons_of_mem _ member)
      rw [List.map_cons, List.find?_cons]
      obtain ⟨key, value⟩ := option
      simp only [OptionPair.raw, first.contains_supported]
      cases key with
      | other word => rfl
      | _ => exact later

end Options

/-! ### The end of a line -/

/-- The fields of `None` are read. -/
def missingHeader : PyException where
  typeName := lit "AttributeError"
  message := lit "'NoneType' object has no attribute 'action'"

/-- What `_parse_rule` makes of the checks of a line. -/
def finishChecks
    (sid : Option Int)
    (text sourceFile : Str)
    (lineNo : Nat) :
    Finish RuleParts
  | .error reason => .ok (.rejected reason sid)
  | .ok (_, reason :: _) => .ok (.rejected reason sid)
  | .ok (parts, []) =>
      match parts.header with
      | none => .error missingHeader
      | some header =>
          (Rule.create header parts text sourceFile lineNo).map
            fun rule => .valid rule (some rule.sid)

/-- The line is rejected with the reason its checks stop at. -/
theorem finishChecks_rejects
    (sid : Option Int)
    (text sourceFile : Str)
    (lineNo : Nat) :
    (finishChecks sid text sourceFile lineNo).Rejects sid :=
  fun _ => rfl

/-- A line that has tokens ends as its checks do. -/
theorem parseRuleUnguarded_of_tokens
    {cfg : ParserCfg}
    {text : Str}
    {tokens : HeaderTokens}
    {options : List OptionPair}
    (tokenized : tokenizeRule text = .ok (tokens, options))
    (sourceFile : Str)
    (lineNo : Nat) :
    parseRuleUnguarded cfg text sourceFile lineNo =
      finishChecks (bestEffortSid options) text sourceFile lineNo
        (RuleChecker.checkParts tokens options cfg.priority []) := by
  unfold parseRuleUnguarded finishChecks
  rw [tokenized]
  rfl

/-- The rule of a line is made of the objects of its parts. -/
theorem createRule_object
    (header : Header)
    {identification : Identification}
    (positive : 1 ≤ identification.priority)
    (contents : List ContentSpec)
    (flow : Option FlowSpec)
    (flags : Option FlagsSpec)
    (dsize : Option DsizeSpec)
    (text sourceFile : Str)
    (lineNo : Nat) :
    ∃ rule,
      Rule.create header
          ⟨some header, identification, contents, flow, flags, dsize⟩ text
          sourceFile lineNo =
        .ok rule ∧
      Checked.createRule (some header.object) identification.object
          (contents.map ContentSpec.object) (flow.map FlowSpec.object)
          (flags.map FlagsSpec.object) (dsize.map DsizeSpec.object) text
          sourceFile lineNo =
        Checked.make .rule rule.object :=
  ⟨_, dif_pos positive, rfl⟩

/-- The rule of a line, if nothing about the line is unsupported. -/
theorem ending_finishRule
    (sid : Option Int)
    (parts : RuleParts)
    (positive : 1 ≤ parts.identification.priority)
    (remembered : List RuleReason)
    (text sourceFile : Str)
    (lineNo : Nat) :
    Ending
      (Checked.finishRule sid (remembered.map RuleReason.code)
        (Checked.createRule (parts.header.map Header.object)
          parts.identification.object
          (parts.contents.map ContentSpec.object)
          (parts.flow.map FlowSpec.object)
          (parts.flags.map FlagsSpec.object)
          (parts.dsize.map DsizeSpec.object) text sourceFile lineNo))
      (finishChecks sid text sourceFile lineNo
        (.ok (parts, remembered))) := by
  cases remembered with
  | cons reason rest => exact ending_rejected reason sid
  | nil =>
      obtain ⟨header, identification, contents, flow, flags, dsize⟩ := parts
      cases header with
      | none =>
          have raised : missingHeader.raised = .attributeError := if_pos rfl
          change Ending (throw .attributeError) (.error missingHeader)
          rw [← raised]
          exact .throw missingHeader
      | some header =>
          obtain ⟨rule, created, isObject⟩ :=
            createRule_object header positive contents flow flags dsize text
              sourceFile lineNo
          simp only [finishChecks, created, Checked.finishRule,
            Option.map_some, isObject, List.map_nil]
          have isMade :
              Matches Construction.accepted PyException.raised
                (fun rule made => made = Rule.object rule)
                (Checked.make .rule rule.object) (.ok rule) :=
            .construct_bind rule.object_accepted (.pure rfl)
          apply isMade.bind_ok
          rintro _ rfl
          exact .construct_bind (valid_accepted rule (some rule.sid))
            (.pure rfl)

/-! ### The steps of a line in their order -/

/-- The contents are checked, and why they are unsupported remembered. -/
theorem checkContents_andThen
    {Parts : Type}
    (options : List OptionPair)
    (next : List ContentSpec → RuleChecker Parts) :
    (RuleChecker.checkContents options).andThen next =
      (Checker.attempt RuleReason.isInvalid ([], none)
        (parseContentsFull options)).andThen fun parsed remembered =>
          next parsed.1 (remembered ++ parsed.2.toList) := by
  funext remembered
  simp only [RuleChecker.checkContents, Checker.andThen, Checker.note,
    Checker.pure]
  cases Checker.attempt RuleReason.isInvalid ([], none)
    (parseContentsFull options) remembered <;> rfl

/-- Two demands in a row are one. -/
theorem demand_andThen_demand
    {Parts : Type}
    (first second : Except RuleReason Unit)
    (next : Unit → RuleChecker Parts) :
    ((Checker.demand first).andThen fun _ =>
        (Checker.demand second).andThen next) =
      (Checker.demand (first >>= fun _ => second)).andThen next := by
  cases first <;> rfl

/-- The checks across options. -/
theorem follows_crossChecks
    {options : List OptionPair}
    {raws : List Checked.RawOption}
    (read : ReadFrom options raws)
    (tokens : HeaderTokens)
    (contents : List ContentSpec) :
    FollowsPlain (fun _ _ => True)
      (do
        Checked.validateContents (contents.map ContentSpec.object)
        Checked.validateFlagsProtocol
          (← Checked.tokenAt tokens.list 1)
          (raws.any fun option => option.1 = lit "flags"))
      (validateContents contents >>= fun _ =>
        validateFlagsProtocol tokens.protocol
          (options.any fun option => option.key = .flags)) := by
  rw [any_isFlags read]
  refine (follows_validateContents contents).bind ?_
  intro _ _ _ _
  exact follows_validateFlagsProtocol _ _

/-- The priority of a line is positive if the configured one is. -/
theorem priority_of_accepted
    {cfg : ParserCfg}
    (accepted : ∀ priority ∈ cfg.defaultPriority, 1 ≤ priority)
    {options : List OptionPair}
    {identification : Identification}
    (read :
      parseIdentification options cfg.priority = .ok identification) :
    1 ≤ identification.priority := by
  have configured : 1 ≤ cfg.priority := by
    unfold ParserCfg.priority
    cases isSet : cfg.defaultPriority with
    | none => decide
    | some value => exact accepted value isSet
  rcases (parseIdentification_stops options cfg.priority).cases with
    ⟨reason, _, failed⟩ | ⟨value, _, isValue, priority⟩
  · rw [read] at failed
    cases failed
  · rw [read] at isValue
    cases isValue
    rcases priority with same | positive
    · rw [same]
      exact configured
    · exact positive

/-- The steps after the tokenizer. -/
theorem ending_parseTokens
    (isIpv6Network : Str → Bool)
    {cfg : ParserCfg}
    (accepted : ∀ priority ∈ cfg.defaultPriority, 1 ≤ priority)
    (tokens : HeaderTokens)
    {options : List OptionPair}
    {raws : List Checked.RawOption}
    (read : ReadFrom options raws)
    (text sourceFile : Str)
    (lineNo : Nat) :
    Ending
      (Checked.parseTokens isIpv6Network cfg tokens.list raws text
        sourceFile lineNo)
      (finishChecks (bestEffortSid options) text sourceFile lineNo
        (RuleChecker.checkParts tokens options cfg.priority [])) := by
  have rejects :=
    finishChecks_rejects (bestEffortSid options) text sourceFile lineNo
  have header :
      FollowsPlain (fun header made => made = Option.map Header.object header)
        (Checked.parseHeader isIpv6Network tokens.list >>= fun header =>
          pure (some header))
        ((parseHeader tokens).map some) :=
    (follows_parseHeader isIpv6Network tokens).map
      fun _ _ _ same => congrArg some same
  unfold Checked.parseTokens RuleChecker.checkParts
  rw [bestEffortSid_eq read, pure_bind]
  change
    Ending (Checked.attempting _ _ _ (List.map RuleReason.code []) _) _
  refine ending_attempting rejects header rfl ?_
  rintro header _ remembered rfl
  refine ending_demanding rejects
    (follows_parseIdentification read cfg.priority) ?_
  rintro identification _ isRead rfl
  have positive : 1 ≤ identification.priority :=
    priority_of_accepted accepted isRead
  rw [checkContents_andThen]
  refine ending_attempting rejects (follows_parseContentsFull read) rfl ?_
  rintro contents _ remembered rfl
  have noted :
      remembered.map RuleReason.code ++
          (contents.2.map RuleReason.code).toList =
        (remembered ++ contents.2.toList).map RuleReason.code := by
    cases contents.2 <;> simp
  simp only [noted]
  refine ending_attempting rejects (follows_parseFlow read) rfl ?_
  rintro flow _ remembered rfl
  refine ending_attempting rejects (follows_parseFlags read) rfl ?_
  rintro flags _ remembered rfl
  refine ending_attempting rejects (follows_parseDsize read) rfl ?_
  rintro dsize _ remembered rfl
  rw [demand_andThen_demand]
  refine ending_demanding rejects
    (follows_crossChecks read tokens contents.1) ?_
  intro _ _ _ _
  have keyword :
      remembered.map RuleReason.code ++
          (Checked.unsupportedKeyword raws).toList =
        (remembered ++ (unsupportedKeyword options).toList).map
          RuleReason.code := by
    rw [unsupportedKeyword_eq read]
    cases unsupportedKeyword options <;> simp
  rw [keyword]
  exact ending_finishRule (bestEffortSid options)
    ⟨header, identification, contents.1, flow, flags, dsize⟩ positive _
    text sourceFile lineNo

/-! ### The whole line -/

/-- The reasons of the tokenizer are all invalid. -/
theorem isInvalid_of_tokenizeRule
    {text : Str}
    {reason : RuleReason}
    (failed : tokenizeRule text = .error reason) :
    reason.isInvalid = true := by
  rcases tokenizeRule_reasons failed with rfl | rfl <;> rfl

/-- The parser of a line, but for its last handler. -/
theorem ending_parseRuleUnguarded
    (isIpv6Network : Str → Bool)
    {cfg : ParserCfg}
    (accepted : ∀ priority ∈ cfg.defaultPriority, 1 ≤ priority)
    (text sourceFile : Str)
    (lineNo : Nat) :
    Ending
      (Checked.parseRuleUnguarded isIpv6Network cfg text sourceFile lineNo)
      (parseRuleUnguarded cfg text sourceFile lineNo) := by
  unfold Checked.parseRuleUnguarded
  apply ending_attempted_bind (follows_tokenizeRule text)
  · intro reason failed
    have isInvalid := isInvalid_of_tokenizeRule failed
    have rejected :
        parseRuleUnguarded cfg text sourceFile lineNo =
          .ok (.rejected reason none) := by
      unfold parseRuleUnguarded
      rw [failed]
    have isObject :
        (ParseResult.rejected reason none).object = {
          status := lit "invalid"
          rule := none
          reason := some reason.code
          sid := none } := by
      simp only [ParseResult.object, isInvalid, if_true]
    have fits := rejected_accepted reason none
    rw [isObject] at fits
    rw [rejected]
    exact .construct_bind fits (.pure isObject.symm)
  · rintro ⟨tokens, options⟩ ⟨_, raws⟩ tokenized ⟨rfl, read⟩
    rw [parseRuleUnguarded_of_tokens tokenized]
    exact ending_parseTokens isIpv6Network accepted tokens read text
      sourceFile lineNo

/-- No line is rejected for an internal error. -/
theorem reason?_ne_internalError
    {cfg : ParserCfg}
    (accepted : ∀ priority ∈ cfg.defaultPriority, 1 ≤ priority)
    (text sourceFile : Str)
    (lineNo : Nat) :
    (parseRule cfg text sourceFile lineNo).reason? ≠
      some .internalError := by
  rw [reason?_parseRule accepted]
  intro reported
  exact ruleFaults_named (mem_of_classify reported) rfl

/-- With an accepted configuration the plain parser yields a result. -/
theorem parseRuleUnguarded_yields
    {cfg : ParserCfg}
    (accepted : ∀ priority ∈ cfg.defaultPriority, 1 ≤ priority)
    (text sourceFile : Str)
    (lineNo : Nat) :
    parseRuleUnguarded cfg text sourceFile lineNo =
      .ok (parseRule cfg text sourceFile lineNo) := by
  have notInternal :=
    reason?_ne_internalError accepted text sourceFile lineNo
  unfold parseRule at notInternal ⊢
  cases yielded : parseRuleUnguarded cfg text sourceFile lineNo with
  | ok result => rfl
  | error exception =>
      rw [yielded] at notInternal
      exact (notInternal rfl).elim

/-- Only the code of an internal error is spelled like it. -/
theorem RuleReason.eq_internalError_of_code
    {reason : RuleReason}
    (isCode : reason.code = lit "invalid:internal_error") :
    reason = .internalError := by
  cases reason <;> first | rfl | exact absurd isCode (by
    simp [RuleReason.code, lit, codePoint])

/--
The last handler of the parser is never reached: on every text the parser
returns a result before it, which is not an internal error, and every object
made on the way, `RuleSyntaxError`s included, is accepted by its constructor.
-/
theorem parseRule_never_fails
    (isIpv6Network : Str → Bool)
    (cfg : ParserCfg)
    (accepted : ∀ priority ∈ cfg.defaultPriority, 1 ≤ priority)
    (text sourceFile : Str)
    (lineNo : Nat) :
    ∃ result made,
      Checked.parseRuleUnguarded isIpv6Network cfg text sourceFile lineNo
          [] =
        .ok result made ∧
      Checked.parseRule isIpv6Network cfg text sourceFile lineNo [] =
        .ok result made ∧
      (∀ construction ∈ made, construction.accepted = true) ∧
      result = (parseRule cfg text sourceFile lineNo).object ∧
      result.reason ≠ some (lit "invalid:internal_error") := by
  have ending :=
    (ending_parseRuleUnguarded isIpv6Network accepted text sourceFile
      lineNo).ends [] fun _ member => (List.not_mem_nil member).elim
  rw [parseRuleUnguarded_yields accepted] at ending
  unfold Ends at ending
  cases ran :
      Checked.parseRuleUnguarded isIpv6Network cfg text sourceFile lineNo
        [] with
  | error exception made =>
      rw [ran] at ending
      obtain ⟨_, _, isError, _⟩ := ending
      cases isError
  | ok result made =>
      rw [ran] at ending
      obtain ⟨allAccepted, plain, isPlain, isObject⟩ := ending
      cases isPlain
      refine ⟨result, made, rfl, ?_, allAccepted, isObject, ?_⟩
      · simp only [Checked.parseRule, tryCatch, tryCatchThe,
          MonadExceptOf.tryCatch, EStateM.tryCatch, ran]
      · rw [isObject]
        have notInternal :=
          reason?_ne_internalError accepted text sourceFile lineNo
        cases isResult : parseRule cfg text sourceFile lineNo with
        | valid rule sid =>
            intro isReason
            cases isReason
        | rejected reason sid =>
            rw [isResult] at notInternal
            intro isCode
            exact notInternal (congrArg some
              (RuleReason.eq_internalError_of_code
                (Option.some.inj isCode)))

/-- A line with an empty content and a port that is too large. -/
def faultyLine : Str :=
  lit "alert tcp any any -> any 99999 (msg:\"m\"; content:\"\"; sid:1;)"

/-- The last handler is not reached on a line with two invalid parts. -/
theorem parseRule_faultyLine :
    ∃ result made,
      Checked.parseRuleUnguarded (fun _ => false)
          { defaultPriority := some 3 } faultyLine [] 1 [] =
        .ok result made ∧
      Checked.parseRule (fun _ => false) { defaultPriority := some 3 }
          faultyLine [] 1 [] =
        .ok result made ∧
      (∀ construction ∈ made, construction.accepted = true) ∧
      result =
        (parseRule { defaultPriority := some 3 } faultyLine [] 1).object ∧
      result.reason ≠ some (lit "invalid:internal_error") :=
  parseRule_never_fails (fun _ => false) { defaultPriority := some 3 }
    (by simp) faultyLine [] 1

end IntrusionDetection
