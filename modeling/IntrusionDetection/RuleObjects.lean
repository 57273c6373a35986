import IntrusionDetection.CheckedSteps
import IntrusionDetection.RuleReport

namespace IntrusionDetection.Checked

open PyText CheckedSteps

/-!
# Rule objects with their constructor checks

The objects the rule parser makes, as the source has them: plain fields, and a
check that the constructor runs on them.  Nothing in their types keeps a wrong
object from being built; the constructor raises `ValueError` instead.
-/

/-- What may be raised while a rule line is parsed. -/
inductive Raised where
  | ruleSyntaxError (reason : Str)
  | valueError
  /-- A kind of `ValueError`. -/
  | unicodeEncodeError
  | typeError
  | indexError
  | attributeError
  deriving DecidableEq

/-! ### Reason codes -/

/-- `REASON_CODES`. -/
def reasonCodes : List Str :=
  [lit "invalid:malformed_rule", lit "invalid:bad_header",
    lit "invalid:bad_ip", lit "invalid:bad_port",
    lit "invalid:bad_direction", lit "invalid:missing_sid",
    lit "invalid:bad_sid", lit "invalid:duplicate_sid",
    lit "invalid:missing_msg", lit "invalid:modifier_without_content",
    lit "invalid:depth_lt_pattern", lit "invalid:within_lt_pattern",
    lit "invalid:mixed_absolute_relative",
    lit "invalid:flags_requires_tcp", lit "invalid:conflicting_flow",
    lit "invalid:internal_error", lit "unsupported:ip_syntax",
    lit "unsupported:port_syntax", lit "unsupported:flags_mask",
    lit "unsupported:content_negation", lit "disabled:sid"]

/-- `REASON_PREFIXES`. -/
def reasonPrefixes : List Str :=
  [lit "invalid:bad_option_value:", lit "invalid:duplicate_option:",
    lit "unsupported:action:", lit "unsupported:protocol:",
    lit "unsupported:keyword:", lit "unsupported:flow_option:"]

/-- `is_valid_reason`. -/
def isValidReason (reason : Str) : Bool :=
  reasonCodes.contains reason ||
    reasonPrefixes.any fun leading =>
      startsWith leading reason && leading.length < reason.length

/-! ### The objects and their `__post_init__` -/

/-- `IpSpec`. -/
structure IpSpec where
  any : Bool
  network : Int
  mask : Int
  deriving DecidableEq

/-- `IpSpec.__post_init__`. -/
def IpSpec.postInit (spec : IpSpec) : Bool :=
  (0 ≤ spec.network ∧ spec.network ≤ 0xFFFFFFFF) ∧
    (0 ≤ spec.mask ∧ spec.mask ≤ 0xFFFFFFFF)

/-- `PortSpec`. -/
structure PortSpec where
  lo : Int
  hi : Int
  deriving DecidableEq

/-- `PortSpec.__post_init__`. -/
def PortSpec.postInit (spec : PortSpec) : Bool :=
  0 ≤ spec.lo ∧ spec.lo ≤ spec.hi ∧ spec.hi ≤ portMax

/-- `ContentSpec`. -/
structure ContentSpec where
  raw : Str
  pattern : Bytes
  nocase : Bool
  offset : Option Int
  depth : Option Int
  distance : Option Int
  within : Option Int
  deriving DecidableEq

/-- `ContentSpec.__post_init__`. -/
def ContentSpec.postInit (spec : ContentSpec) : Bool :=
  0 < spec.pattern.length

/-- `FLOW_ROLES`. -/
def flowRoleNames : List Str :=
  [lit "to_server", lit "to_client"]

/-- `FLOW_STATES`. -/
def flowStateNames : List Str :=
  [lit "established", lit "not_established"]

/-- `FlowSpec`. -/
structure FlowSpec where
  role : Option Str
  state : Option Str
  deriving DecidableEq

/-- `FlowSpec.__post_init__`. -/
def FlowSpec.postInit (spec : FlowSpec) : Bool :=
  spec.role.all flowRoleNames.contains &&
    spec.state.all flowStateNames.contains

/-- `FLAGS_MODES`. -/
def flagsModeNames : List Str :=
  [lit "exact", lit "all", lit "any", lit "none"]

/-- `TCP_FLAG_NAMES`. -/
def tcpFlagNames : Str :=
  lit "SAFRPUCE"

/-- `FlagsSpec`; the letters are a frozen set. -/
structure FlagsSpec where
  mode : Str
  flags : Finset CodePoint
  deriving DecidableEq

/-- `FlagsSpec.__post_init__`. -/
def FlagsSpec.postInit (spec : FlagsSpec) : Bool :=
  flagsModeNames.contains spec.mode &&
    decide (∀ letter ∈ spec.flags, letter ∈ tcpFlagNames) &&
    (spec.flags ≠ ∅ || spec.mode = lit "exact")

/-- `DSIZE_OPS`. -/
def dsizeOpNames : List Str :=
  [lit "eq", lit "lt", lit "gt", lit "range"]

/-- `DsizeSpec`. -/
structure DsizeSpec where
  op : Str
  a : Int
  b : Option Int
  deriving DecidableEq

/-- `DsizeSpec.__post_init__`. -/
def DsizeSpec.postInit (spec : DsizeSpec) : Bool :=
  dsizeOpNames.contains spec.op && 0 ≤ spec.a &&
    if spec.op = lit "range" then
      match spec.b with
      | some upper => spec.a ≤ upper
      | none => false
    else
      spec.b.isNone

/-- `RULE_ACTIONS`. -/
def ruleActions : List Str :=
  [lit "alert"]

/-- `RULE_PROTOCOLS`. -/
def ruleProtocols : List Str :=
  [lit "tcp", lit "udp", lit "ip"]

/-- `RULE_DIRECTIONS`. -/
def ruleDirections : List Str :=
  [lit "->", lit "<>"]

/-- `Rule`. -/
structure Rule where
  action : Str
  protocol : Str
  srcIp : IpSpec
  srcPort : PortSpec
  direction : Str
  dstIp : IpSpec
  dstPort : PortSpec
  msg : Str
  sid : Int
  rev : Int
  classtype : Option Str
  priority : Option Int
  contents : List ContentSpec
  flow : Option FlowSpec
  flags : Option FlagsSpec
  dsize : Option DsizeSpec
  passiveOptions : List (Str × Option Str)
  sourceFile : Str
  lineNo : Nat
  raw : Str
  deriving DecidableEq

/-- `Rule.__post_init__`. -/
def Rule.postInit (rule : Rule) : Bool :=
  ruleActions.contains rule.action &&
    ruleProtocols.contains rule.protocol &&
    ruleDirections.contains rule.direction &&
    rule.priority.all (1 ≤ ·)

/-- `RULE_STATUSES`. -/
def ruleStatuses : List Str :=
  [lit "valid", lit "invalid", lit "unsupported"]

/-- `_check_status_reason` for a parse result. -/
def checkStatusReason (status : Str) (reason : Option Str) : Bool :=
  ruleStatuses.contains status &&
    if status = lit "valid" then
      reason.isNone
    else
      reason.any fun reason =>
        isValidReason reason && startsWith (status ++ lit ":") reason

/-- `ParseResult`. -/
structure ParseResult where
  status : Str
  rule : Option Rule
  reason : Option Str
  sid : Option Int
  deriving DecidableEq

/-- `ParseResult.__post_init__`. -/
def ParseResult.postInit (result : ParseResult) : Bool :=
  checkStatusReason result.status result.reason &&
    decide (result.status = lit "valid") = result.rule.isSome

/-! ### Making them -/

/-- An object the parser makes, exceptions included. -/
inductive Construction where
  | ruleSyntaxError (reason : Str)
  | ipSpec (spec : IpSpec)
  | portSpec (spec : PortSpec)
  | contentSpec (spec : ContentSpec)
  | flowSpec (spec : FlowSpec)
  | flagsSpec (spec : FlagsSpec)
  | dsizeSpec (spec : DsizeSpec)
  | rule (made : Rule)
  | parseResult (made : ParseResult)
  deriving DecidableEq

/-- Does the constructor accept the object? -/
def Construction.accepted : Construction → Bool
  | .ruleSyntaxError reason => isValidReason reason
  | .ipSpec spec => spec.postInit
  | .portSpec spec => spec.postInit
  | .contentSpec spec => spec.postInit
  | .flowSpec spec => spec.postInit
  | .flagsSpec spec => spec.postInit
  | .dsizeSpec spec => spec.postInit
  | .rule made => made.postInit
  | .parseResult made => made.postInit

/-- A part of the parser: it makes objects and may raise. -/
abbrev Parser :=
  Making Raised Construction

/-- Call a constructor; it raises `ValueError` if its check fails. -/
def make {Object : Type} (kind : Object → Construction) (object : Object) :
    Parser Object := do
  construct Construction.accepted .valueError (kind object)
  return object

/-- `raise RuleSyntaxError(reason)`. -/
def raise {Object : Type} (reason : Str) : Parser Object := do
  construct Construction.accepted .valueError (.ruleSyntaxError reason)
  throw (.ruleSyntaxError reason)

/-- `try: ... except RuleSyntaxError as e: ...`. -/
def exceptRuleSyntaxError
    {Object : Type}
    (body : Parser Object)
    (handler : Str → Parser Object) :
    Parser Object :=
  tryCatch body fun
    | .ruleSyntaxError reason => handler reason
    | other => throw other

/-- `try: ... except ValueError: ...`. -/
def exceptValueError
    {Object : Type}
    (body handler : Parser Object) :
    Parser Object :=
  tryCatch body fun
    | .valueError => handler
    | .unicodeEncodeError => handler
    | other => throw other

/-- `try: ... except UnicodeEncodeError: ...`. -/
def exceptUnicodeEncodeError
    {Object : Type}
    (body handler : Parser Object) :
    Parser Object :=
  tryCatch body fun
    | .unicodeEncodeError => handler
    | other => throw other

end IntrusionDetection.Checked
