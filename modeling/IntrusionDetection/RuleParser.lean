import IntrusionDetection.HeaderParser
import IntrusionDetection.OptionParser

namespace IntrusionDetection

open PyText FaultPrecedence

/-!
# Rule parser

`parse_rule`: one rule line into a rule, or into the reason why the line is
rejected.  A wrong part stops the parser; a part that is merely unsupported is
remembered while the rest of the line is checked.
-/

/-- `validate_contents` on one content. -/
def validateContent (content : ContentSpec) : Except RuleReason Unit :=
  let length : Int := content.pattern.length
  if content.depth.any (· < length) then
    .error .depthLtPattern
  else if content.within.any (· < length) then
    .error .withinLtPattern
  else if (content.offset.isSome || content.depth.isSome) &&
      (content.distance.isSome || content.within.isSome) then
    .error .mixedAbsoluteRelative
  else
    .ok ()

/-- `validate_contents`. -/
def validateContents (contents : List ContentSpec) :
    Except RuleReason Unit :=
  contents.forM validateContent

/-- `validate_flags_protocol`. -/
def validateFlagsProtocol (protocolToken : Str) (hasFlags : Bool) :
    Except RuleReason Unit :=
  if hasFlags && protocolToken = lit "udp" then
    .error .flagsRequiresTcp
  else
    .ok ()

/-- The reason an option with an unsupported keyword is rejected for. -/
def keywordFault (option : OptionPair) : Option RuleReason :=
  match option.key with
  | .other key => some (.keyword key)
  | _ => none

/-- `unsupported_keyword`. -/
def unsupportedKeyword (options : List OptionPair) : Option RuleReason :=
  (options.filterMap keywordFault).head?

/-- `_best_effort_sid`. -/
def bestEffortSid (options : List OptionPair) : Option Int :=
  match options.filter fun option =>
      option.key = .identification .sid with
  | [option] => (positiveInt? option.value).map Int.ofNat
  | _ => none

/--
What the parser reads of the configuration:
`cfg["engine"]["default_priority"]`, if it is there.
-/
structure ParserCfg where
  defaultPriority : Option Int

/-- `_default_priority`. -/
def ParserCfg.priority (cfg : ParserCfg) : Int :=
  cfg.defaultPriority.getD 3

/-- What the checks of a rule line yield. -/
structure RuleParts where
  header : Option Header
  identification : Identification
  contents : List ContentSpec
  flow : Option FlowSpec
  flags : Option FlagsSpec
  dsize : Option DsizeSpec

/-- A checker of a rule line; only an `invalid` reason is severe. -/
abbrev RuleChecker := Checker RuleReason

namespace RuleChecker

open FaultPrecedence.Checker

/-- The contents of a rule and the reason they are unsupported for. -/
def checkContents (options : List OptionPair) :
    RuleChecker (List ContentSpec) :=
  (attempt RuleReason.isInvalid ([], none)
      (parseContentsFull options)).andThen fun parsed =>
    (note parsed.2).andThen fun _ =>
    Checker.pure parsed.1

/-- The checks of `_parse_rule` after the tokenizer, in order. -/
def checkParts
    (tokens : HeaderTokens)
    (options : List OptionPair)
    (defaultPriority : Int) :
    RuleChecker RuleParts :=
  (attempt RuleReason.isInvalid none
      ((parseHeader tokens).map some)).andThen fun header =>
  (demand (parseIdentification options defaultPriority)).andThen
    fun identification =>
  (checkContents options).andThen fun contents =>
  (attempt RuleReason.isInvalid none (parseFlow options)).andThen
    fun flow =>
  (attempt RuleReason.isInvalid none (parseFlags options)).andThen
    fun flags =>
  (attempt RuleReason.isInvalid none (parseDsize options)).andThen
    fun dsize =>
  (demand (validateContents contents)).andThen fun _ =>
  (demand (validateFlagsProtocol tokens.protocol
      (options.any fun option => option.key = .flags))).andThen fun _ =>
  (note (unsupportedKeyword options)).andThen fun _ =>
  Checker.pure { header, identification, contents, flow, flags, dsize }

end RuleChecker

/-- `Rule(...)` of the parts of a valid line. -/
def Rule.create
    (header : Header)
    (parts : RuleParts)
    (line : Str)
    (sourceFile : Str)
    (lineNo : Nat) :
    Except PyException Rule :=
  if priorityPositive : 1 ≤ parts.identification.priority then
    .ok {
      protocol := header.protocol
      srcIp := header.srcIp
      srcPort := header.srcPort
      direction := header.direction
      dstIp := header.dstIp
      dstPort := header.dstPort
      msg := parts.identification.msg
      sid := parts.identification.sid
      rev := parts.identification.rev
      classtype := parts.identification.classtype
      priority := some parts.identification.priority
      contents := parts.contents
      flow := parts.flow
      flags := parts.flags
      dsize := parts.dsize
      passiveOptions := parts.identification.passiveOptions
      sourceFile
      lineNo
      raw := line
      priorityPositive := by simpa using priorityPositive }
  else
    .error {
      typeName := lit "ValueError"
      message := lit "priority must be >= 1" }

/-- `_parse_rule`. -/
def parseRuleUnguarded
    (cfg : ParserCfg)
    (text sourceFile : Str)
    (lineNo : Nat) :
    Except PyException ParseResult :=
  match tokenizeRule text with
  | .error reason => .ok (.rejected reason none)
  | .ok (tokens, options) =>
      let sid := bestEffortSid options
      match RuleChecker.checkParts tokens options cfg.priority [] with
      | .error reason => .ok (.rejected reason sid)
      | .ok (_, reason :: _) => .ok (.rejected reason sid)
      | .ok (parts, []) =>
          match parts.header with
          | none =>
              .error {
                typeName := lit "AttributeError"
                message :=
                  lit "'NoneType' object has no attribute 'action'" }
          | some header =>
              (Rule.create header parts text sourceFile lineNo).map
                fun rule => .valid rule (some rule.sid)

/-- `parse_rule`: an exception of the parser itself is an internal error. -/
def parseRule
    (cfg : ParserCfg)
    (text sourceFile : Str)
    (lineNo : Nat) :
    ParseResult :=
  match parseRuleUnguarded cfg text sourceFile lineNo with
  | .ok result => result
  | .error _ => .rejected .internalError none

end IntrusionDetection
