import IntrusionDetection.Event
import IntrusionDetection.Rule

namespace IntrusionDetection

open PyText

/-!
# Rule reports

The result of parsing one rule line, one line of the rules report and the
counters of a load.  A reason code fixes the status it goes with, so a result
whose reason does not fit its status cannot be built.
-/

/-- A text that is not empty, as parameterised reasons name one. -/
structure Word where
  text : Str
  notEmpty : text ≠ []
  deriving DecidableEq

/-- The word a text is, unless it is empty. -/
def Word.of? (text : Str) : Option Word :=
  if notEmpty : text ≠ [] then some ⟨text, notEmpty⟩ else none

/-- Why a rule line is rejected. -/
inductive RuleReason where
  | malformedRule
  | badHeader
  | badIp
  | badPort
  | badDirection
  | missingSid
  | badSid
  | duplicateSid
  | missingMsg
  | modifierWithoutContent
  | depthLtPattern
  | withinLtPattern
  | mixedAbsoluteRelative
  | flagsRequiresTcp
  | conflictingFlow
  | internalError
  | badOptionValue (option : Word)
  | duplicateOption (option : Word)
  | ipSyntax
  | portSyntax
  | flagsMask
  | contentNegation
  | action (name : Word)
  | protocol (name : Word)
  | keyword (name : Word)
  | flowOption (name : Word)
  deriving DecidableEq

namespace RuleReason

/-- The code of a reason, as the report spells it. -/
def code : RuleReason → Str
  | malformedRule => lit "invalid:malformed_rule"
  | badHeader => lit "invalid:bad_header"
  | badIp => lit "invalid:bad_ip"
  | badPort => lit "invalid:bad_port"
  | badDirection => lit "invalid:bad_direction"
  | missingSid => lit "invalid:missing_sid"
  | badSid => lit "invalid:bad_sid"
  | duplicateSid => lit "invalid:duplicate_sid"
  | missingMsg => lit "invalid:missing_msg"
  | modifierWithoutContent => lit "invalid:modifier_without_content"
  | depthLtPattern => lit "invalid:depth_lt_pattern"
  | withinLtPattern => lit "invalid:within_lt_pattern"
  | mixedAbsoluteRelative => lit "invalid:mixed_absolute_relative"
  | flagsRequiresTcp => lit "invalid:flags_requires_tcp"
  | conflictingFlow => lit "invalid:conflicting_flow"
  | internalError => lit "invalid:internal_error"
  | badOptionValue option => lit "invalid:bad_option_value:" ++ option.text
  | duplicateOption option => lit "invalid:duplicate_option:" ++ option.text
  | ipSyntax => lit "unsupported:ip_syntax"
  | portSyntax => lit "unsupported:port_syntax"
  | flagsMask => lit "unsupported:flags_mask"
  | contentNegation => lit "unsupported:content_negation"
  | action name => lit "unsupported:action:" ++ name.text
  | protocol name => lit "unsupported:protocol:" ++ name.text
  | keyword name => lit "unsupported:keyword:" ++ name.text
  | flowOption name => lit "unsupported:flow_option:" ++ name.text

/-- Is the line wrong, and not only outside the supported subset? -/
def isInvalid : RuleReason → Bool
  | ipSyntax => false
  | portSyntax => false
  | flagsMask => false
  | contentNegation => false
  | action _ => false
  | protocol _ => false
  | keyword _ => false
  | flowOption _ => false
  | _ => true

/-- The two kinds of reasons are told apart by how their codes begin. -/
theorem isInvalid_eq_startsWith (reason : RuleReason) :
    reason.isInvalid = startsWith (lit "invalid:") reason.code := by
  cases reason <;> rfl

/-- The code of a reason that is not invalid begins with `unsupported:`. -/
theorem isInvalid_eq_not_startsWith (reason : RuleReason) :
    reason.isInvalid = !startsWith (lit "unsupported:") reason.code := by
  cases reason <;> rfl

end RuleReason

/-- Status of a rule line. -/
inductive RuleStatus where
  | valid
  | invalid
  | unsupported
  | disabled
  deriving Repr, DecidableEq

/-- The status a reason goes with. -/
def RuleReason.status (reason : RuleReason) : RuleStatus :=
  if reason.isInvalid then .invalid else .unsupported

/-- `ParseResult`: the rule of a valid line, or why the line is rejected. -/
inductive ParseResult where
  | valid (rule : Rule) (sid : Option Int)
  | rejected (reason : RuleReason) (sid : Option Int)

namespace ParseResult

/-- The status of a result. -/
def status : ParseResult → RuleStatus
  | valid _ _ => .valid
  | rejected reason _ => reason.status

/-- The reason of a result; a valid line has none. -/
def reason? : ParseResult → Option RuleReason
  | valid _ _ => none
  | rejected reason _ => some reason

/-- The rule of a valid line. -/
def rule? : ParseResult → Option Rule
  | valid rule _ => some rule
  | rejected _ _ => none

/-- The sid of the result. -/
def sid : ParseResult → Option Int
  | valid _ sid => sid
  | rejected _ sid => sid

end ParseResult

/-- What becomes of a rule line. -/
inductive RecordOutcome where
  | valid
  | rejected (reason : RuleReason)
  /-- A valid rule whose sid is switched off, with reason `disabled:sid`. -/
  | disabled
  deriving DecidableEq

/-- The status of an outcome. -/
def RecordOutcome.status : RecordOutcome → RuleStatus
  | valid => .valid
  | rejected reason => reason.status
  | disabled => .disabled

/-- `RuleRecord`: one line of the rules report. -/
structure RuleRecord where
  file : Str
  line : Nat
  outcome : RecordOutcome
  sid : Option Int
  text : Str

/-- `LoadReport`. -/
structure LoadReport where
  totalLines : Nat
  blank : Nat
  comment : Nat
  ruleLines : Nat
  valid : Nat
  invalid : Nat
  unsupported : Nat
  disabled : Nat
  filesFailed : Nat
  disabledFiles : Nat
  deriving Repr, DecidableEq

/-- `LoadReport()`. -/
def LoadReport.zero : LoadReport where
  totalLines := 0
  blank := 0
  comment := 0
  ruleLines := 0
  valid := 0
  invalid := 0
  unsupported := 0
  disabled := 0
  filesFailed := 0
  disabledFiles := 0

/-- Count a rule line under its status. -/
def LoadReport.countStatus
    (report : LoadReport)
    (status : RuleStatus) :
    LoadReport :=
  match status with
  | .valid => { report with valid := report.valid + 1 }
  | .invalid => { report with invalid := report.invalid + 1 }
  | .unsupported => { report with unsupported := report.unsupported + 1 }
  | .disabled => { report with disabled := report.disabled + 1 }

end IntrusionDetection
