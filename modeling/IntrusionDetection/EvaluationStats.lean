import IntrusionDetection.PyText

namespace IntrusionDetection

/-!
# Evaluation statistics

The counters of one run of the rule engine.
-/

/-- The stages of a match, in the order they are tested. -/
inductive Stage where
  | header
  | flow
  | packet
  | content
  deriving Repr, DecidableEq

/-- `EvaluationStats`. -/
structure EvaluationStats where
  eventsEvaluated : Nat
  eventsSkipped : Nat
  candidateRules : Nat
  rulesRejectedHeader : Nat
  rulesRejectedFlow : Nat
  rulesRejectedPacket : Nat
  contentEvaluations : Nat
  rulesRejectedContent : Nat
  matchCount : Nat
  ruleErrors : Nat
  deriving Repr, DecidableEq

namespace EvaluationStats

/-- The counters of a run that has not begun. -/
def zero : EvaluationStats where
  eventsEvaluated := 0
  eventsSkipped := 0
  candidateRules := 0
  rulesRejectedHeader := 0
  rulesRejectedFlow := 0
  rulesRejectedPacket := 0
  contentEvaluations := 0
  rulesRejectedContent := 0
  matchCount := 0
  ruleErrors := 0

/-- `record_stage`. -/
def recordStage
    (stats : EvaluationStats)
    (stage : Stage)
    (passed : Bool) :
    EvaluationStats :=
  match stage, passed with
  | .content, true =>
      { stats with contentEvaluations := stats.contentEvaluations + 1 }
  | .content, false =>
      { stats with
        contentEvaluations := stats.contentEvaluations + 1
        rulesRejectedContent := stats.rulesRejectedContent + 1 }
  | .header, false =>
      { stats with rulesRejectedHeader := stats.rulesRejectedHeader + 1 }
  | .flow, false =>
      { stats with rulesRejectedFlow := stats.rulesRejectedFlow + 1 }
  | .packet, false =>
      { stats with rulesRejectedPacket := stats.rulesRejectedPacket + 1 }
  | _, true => stats

/-- `record_event_evaluated`. -/
def recordEventEvaluated
    (stats : EvaluationStats)
    (candidates : Nat) :
    EvaluationStats :=
  { stats with
    eventsEvaluated := stats.eventsEvaluated + 1
    candidateRules := stats.candidateRules + candidates }

/-- `record_event_skipped`. -/
def recordEventSkipped (stats : EvaluationStats) : EvaluationStats :=
  { stats with eventsSkipped := stats.eventsSkipped + 1 }

/-- `record_match`. -/
def recordMatch (stats : EvaluationStats) : EvaluationStats :=
  { stats with matchCount := stats.matchCount + 1 }

/-- `record_rule_error`. -/
def recordRuleError (stats : EvaluationStats) : EvaluationStats :=
  { stats with ruleErrors := stats.ruleErrors + 1 }

/-- The candidates whose outcome has been counted. -/
def outcomes (stats : EvaluationStats) : Nat :=
  stats.rulesRejectedHeader + stats.rulesRejectedFlow +
    stats.rulesRejectedPacket + stats.rulesRejectedContent +
    stats.matchCount + stats.ruleErrors

/-- `is_consistent`: every candidate has exactly one outcome. -/
def isConsistent (stats : EvaluationStats) : Bool :=
  stats.candidateRules = stats.outcomes

end EvaluationStats

end IntrusionDetection
