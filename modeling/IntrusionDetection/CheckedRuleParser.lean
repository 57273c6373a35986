import IntrusionDetection.CheckedOptionParser

namespace IntrusionDetection.Checked

open PyText

/-!
# Rule parser with its exceptions

`parse_rule` as the source runs it: the header and the options are parsed under
handlers that catch `RuleSyntaxError` only, the rule is made of what they
return, and a last handler turns every other exception into an internal error.
-/

/-- The checks of `validate_contents` on one content. -/
def validateContent (content : ContentSpec) : Parser Unit :=
  let length : Int := content.pattern.length
  if content.depth.any (· < length) then
    raise (lit "invalid:depth_lt_pattern")
  else if content.within.any (· < length) then
    raise (lit "invalid:within_lt_pattern")
  else if (content.offset.isSome || content.depth.isSome) &&
      (content.distance.isSome || content.within.isSome) then
    raise (lit "invalid:mixed_absolute_relative")
  else
    return ()

/-- `validate_contents`. -/
def validateContents (contents : List ContentSpec) : Parser Unit :=
  contents.forM validateContent

/-- `validate_flags_protocol`. -/
def validateFlagsProtocol (protocolToken : Str) (hasFlags : Bool) :
    Parser Unit :=
  if hasFlags && protocolToken = lit "udp" then
    raise (lit "invalid:flags_requires_tcp")
  else
    return ()

/-- `_best_effort_sid`. -/
def bestEffortSid (options : List RawOption) : Parser (Option Int) :=
  match options.filter fun option => option.1 = lit "sid" with
  | [option] => positiveInt option.2
  | _ => return none

/-- `header_tokens[index]`. -/
def tokenAt (tokens : List Str) (index : Nat) : Parser Str :=
  match tokens[index]? with
  | some token => return token
  | none => throw .indexError

/-- `ParseResult(...)` of a line that is rejected. -/
def rejected (sid : Option Int) (reason : Str) : Parser ParseResult :=
  make .parseResult {
    status :=
      if isInvalidReason reason then lit "invalid" else lit "unsupported"
    rule := none
    reason := some reason
    sid }

/-- What `except RuleSyntaxError` catches, or the value there is otherwise. -/
def attempted {Object : Type} (body : Parser Object) :
    Parser (Except Str Object) :=
  exceptRuleSyntaxError (do return .ok (← body))
    fun reason => return .error reason

/-- A step of `_parse_rule` whose fault ends it. -/
def demanding
    {Object : Type}
    (sid : Option Int)
    (body : Parser Object)
    (next : Object → Parser ParseResult) :
    Parser ParseResult := do
  match ← attempted body with
  | .error reason => rejected sid reason
  | .ok value => next value

/--
A step of `_parse_rule` whose fault ends it only if it begins with `invalid:`;
any other one is added to the unsupported ones.
-/
def attempting
    {Object : Type}
    (sid : Option Int)
    (default : Object)
    (body : Parser Object)
    (unsupported : List Str)
    (next : Object → List Str → Parser ParseResult) :
    Parser ParseResult := do
  match ← attempted body with
  | .error reason =>
      if isInvalidReason reason then
        rejected sid reason
      else
        next default (unsupported ++ [reason])
  | .ok value => next value unsupported

/-- `Rule(...)` of a line; a missing header has no fields. -/
def createRule
    (header : Option Header)
    (ident : Identification)
    (contents : List ContentSpec)
    (flow : Option FlowSpec)
    (flags : Option FlagsSpec)
    (dsize : Option DsizeSpec)
    (text sourceFile : Str)
    (lineNo : Nat) :
    Parser Rule :=
  match header with
  | none => throw .attributeError
  | some header =>
      make .rule {
        action := header.action
        protocol := header.protocol
        srcIp := header.srcIp
        srcPort := header.srcPort
        direction := header.direction
        dstIp := header.dstIp
        dstPort := header.dstPort
        msg := ident.msg
        sid := ident.sid
        rev := ident.rev
        classtype := ident.classtype
        priority := some ident.priority
        contents, flow, flags, dsize
        passiveOptions := ident.passiveOptions
        sourceFile, lineNo
        raw := text }

/-- The end of `_parse_rule`: the first unsupported reason, or the rule. -/
def finishRule
    (sid : Option Int)
    (unsupported : List Str)
    (createRule : Parser Rule) :
    Parser ParseResult :=
  match unsupported with
  | reason :: _ => rejected sid reason
  | [] => do
      let rule ← createRule
      make .parseResult {
        status := lit "valid"
        rule := some rule
        reason := none
        sid := some rule.sid }

/-- `_parse_rule` after the tokenizer. -/
def parseTokens
    (isIpv6Network : Str → Bool)
    (cfg : ParserCfg)
    (tokens : List Str)
    (options : List RawOption)
    (text sourceFile : Str)
    (lineNo : Nat) :
    Parser ParseResult := do
  let sid ← bestEffortSid options
  attempting sid none
    (do return some (← parseHeader isIpv6Network tokens)) []
    fun header unsupported =>
  demanding sid (parseIdentification options cfg.priority) fun ident =>
  attempting sid ([], none) (parseContentsFull options) unsupported
    fun parsed unsupported =>
  let unsupported := unsupported ++ parsed.2.toList
  attempting sid none (parseFlow options) unsupported
    fun flow unsupported =>
  attempting sid none (parseFlags options) unsupported
    fun flags unsupported =>
  attempting sid none (parseDsize options) unsupported
    fun dsize unsupported =>
  demanding sid
    (do
      validateContents parsed.1
      validateFlagsProtocol (← tokenAt tokens 1)
        (options.any fun option => option.1 = lit "flags"))
    fun _ =>
  finishRule sid (unsupported ++ (unsupportedKeyword options).toList)
    (createRule header ident parsed.1 flow flags dsize text sourceFile
      lineNo)

/-- `_parse_rule`. -/
def parseRuleUnguarded
    (isIpv6Network : Str → Bool)
    (cfg : ParserCfg)
    (text sourceFile : Str)
    (lineNo : Nat) :
    Parser ParseResult := do
  match ← attempted (tokenizeRule text) with
  | .error reason =>
      make .parseResult {
        status := lit "invalid"
        rule := none
        reason := some reason
        sid := none }
  | .ok (tokens, options) =>
      parseTokens isIpv6Network cfg tokens options text sourceFile lineNo

/-- `parse_rule`: any exception that is left is an internal error. -/
def parseRule
    (isIpv6Network : Str → Bool)
    (cfg : ParserCfg)
    (text sourceFile : Str)
    (lineNo : Nat) :
    Parser ParseResult :=
  tryCatch (parseRuleUnguarded isIpv6Network cfg text sourceFile lineNo)
    fun _ =>
      make .parseResult {
        status := lit "invalid"
        rule := none
        reason := some (lit "invalid:internal_error")
        sid := none }

end IntrusionDetection.Checked
