import IntrusionDetection.Evaluator

namespace IntrusionDetection

open PyText

/-!
# Rule engine

The engine as the pipeline sees it: asked for the detections of one event after
the other, over the rules it was set up with.  The flow tracker is only read.
-/

/-- What `process` reads of the configuration. -/
structure EngineCfg where
  ports : PortsCfg

/-- `Engine`, once it is set up. -/
structure Engine where
  cfg : EngineCfg
  evaluator : EvaluationEngine

namespace Engine

/-- `rule_count`. -/
def ruleCount (engine : Engine) : Nat :=
  engine.evaluator.repository.size

/--
The flow context `process` hands to the evaluator.  A tracker that is absent, an
event without a flow and another flow than the one of the event give none.
-/
def flowContext
    (engine : Engine)
    (tracker : Option FlowTracker)
    (event : IDSEvent) :
    Except PyException (Option FlowContext) :=
  match tracker, event.flowId with
  | some tracker, some flowId =>
      if engine.ruleCount ≠ 0 ∧ engine.evaluator.enabled = true then
        match tracker.snapshot event with
        | some flow =>
            if flow.flowId = flowId then
              buildFlowContext event (some flow) engine.cfg.ports
            else
              .ok none
        | none => .ok none
      else
        .ok none
  | _, _ => .ok none

/-- `process`. -/
def process
    (engine : Engine)
    (tracker : Option FlowTracker)
    (faults : CallFaults)
    (stats : EvaluationStats)
    (event : IDSEvent) :
    Except PyException (EvaluationStats × List Detection) :=
  (engine.flowContext tracker event).map fun ctx =>
    engine.evaluator.detect faults stats event ctx

/-- The lookup of the flow context never raises. -/
theorem flowContext_ok
    (engine : Engine)
    (tracker : Option FlowTracker)
    (event : IDSEvent) :
    ∃ ctx, engine.flowContext tracker event = .ok ctx := by
  simp only [flowContext]
  split
  · split
    · split
      · split
        · exact buildFlowContext_ok _ _ _
        · exact ⟨none, rfl⟩
      · exact ⟨none, rfl⟩
    · exact ⟨none, rfl⟩
  · exact ⟨none, rfl⟩

/-- Processing an event never raises, whatever rules raise. -/
theorem process_ok
    (engine : Engine)
    (tracker : Option FlowTracker)
    (faults : CallFaults)
    (stats : EvaluationStats)
    (event : IDSEvent) :
    ∃ ctx,
      engine.process tracker faults stats event =
        .ok (engine.evaluator.detect faults stats event ctx) := by
  obtain ⟨ctx, found⟩ := engine.flowContext_ok tracker event
  exact ⟨ctx, by rw [process, found]; rfl⟩

end Engine

end IntrusionDetection
