import IntrusionDetection.PipelineStages

namespace IntrusionDetection

open PyText GuardedSteps

/-!
# Where detections come from

A detection that the engine returns for an event describes that event, and
names its flow if it has one.
-/

/-- The detection repeats what the event says of its packet and of its flow. -/
structure Detection.Describes
    (detection : Detection)
    (event : IDSEvent) :
    Prop where
  timestamp : detection.timestamp = event.timestamp
  packetId : detection.packetId = event.packetId
  source :
    detection.srcIp = event.srcIp ∧ detection.srcPort = event.srcPort
  destination :
    detection.dstIp = event.dstIp ∧ detection.dstPort = event.dstPort
  applicationProtocol : detection.applicationProtocol = event.appProtocol
  flowId : detection.flowId = event.flowId

/-- The context is that of the event's own flow. -/
def OwnContext (event : IDSEvent) (ctx : Option FlowContext) : Prop :=
  ∀ context ∈ ctx, event.flowId = some context.flowId

/-- A context that is built belongs to the flow it is built from. -/
theorem flowId_of_fromFlow
    {event : IDSEvent}
    {flow : Flow}
    {known : List Int}
    {context : FlowContext}
    (built : fromFlow event flow known = .ok (some context)) :
    context.flowId = flow.flowId := by
  have created :
      ∀ {protocol state role established midstream direction},
        (FlowContext.create flow.flowId protocol state role established
          midstream direction).map some = .ok (some context) →
          context.flowId = flow.flowId := by
    intro protocol state role established midstream direction isCreated
    rw [FlowContext.create] at isCreated
    split at isCreated
    · cases isCreated
      rfl
    · cases isCreated
  have notNone :
      ∀ {condition : Prop} [Decidable condition]
        {found : Except PyException (Option FlowContext)},
        (if condition then .ok none else found) = .ok (some context) →
          found = .ok (some context) := by
    intro condition _ found isFound
    split at isFound
    · cases isFound
    · exact isFound
  unfold fromFlow at built
  split at built
  · cases built
  · exact created (notNone built)

/-- The engine only uses the context of the event's own flow. -/
theorem ownContext_flowContext
    {engine : Engine}
    {tracker : Option FlowTracker}
    {event : IDSEvent}
    {ctx : Option FlowContext}
    (found : engine.flowContext tracker event = .ok ctx) :
    OwnContext event ctx := by
  have noContext :
      ∀ {ctx : Option FlowContext},
        (.ok none : Except PyException (Option FlowContext)) = .ok ctx →
          OwnContext event ctx := by
    intro ctx isNone context isContext
    cases isNone
    cases isContext
  unfold Engine.flowContext at found
  split at found
  · rename_i present flowId isFlowId
    split at found
    · split at found
      · rename_i flow isFlow
        split at found
        · rename_i sameFlow
          rintro context isContext
          cases isContext
          rw [isFlowId, ← sameFlow, flowId_of_fromFlow found]
        · exact noContext found
      · exact noContext found
    · exact noContext found
  · exact noContext found

/-- A detection that is made describes its event. -/
theorem describes_makeDetection
    {rule : Rule}
    {event : IDSEvent}
    {ctx : Option FlowContext}
    (own : OwnContext event ctx)
    {details : List MatchDetail}
    {detection : Detection}
    (made : makeDetection rule event ctx details = .ok detection) :
    detection.Describes event := by
  unfold makeDetection at made
  split at made
  · cases made
  · dsimp only at made
    by_cases valid :
        (if details = [] then [.header] else details) ≠ [] ∧
          ∀ detail ∈ (if details = [] then [.header] else details),
            detail.Valid
    · rw [dif_pos valid] at made
      cases made
      refine ⟨rfl, rfl, ⟨rfl, rfl⟩, ⟨rfl, rfl⟩, rfl, ?_⟩
      cases ctx with
      | none =>
          rfl
      | some context =>
          exact (own context rfl).symm
    · rw [dif_neg valid] at made
      cases made

namespace EvaluationEngine

variable {Item : Type}

/-- An item that is kept was built for a match. -/
theorem exists_build_of_item?
    {build : RuleMatch → Except PyException Item}
    {faults : CallFaults}
    {event : IDSEvent}
    {ctx : Option FlowContext}
    {rule : Rule}
    {item : Item}
    (kept : (Outcome.of build faults event ctx rule).item? = some item) :
    ∃ found, found.rule = rule ∧ build found = .ok item := by
  have ofBuild :
      ∀ {found : RuleMatch},
        found.rule = rule →
          (Outcome.ofBuild (build found)).item? = some item →
            ∃ found, found.rule = rule ∧ build found = .ok item := by
    intro found sameRule isItem
    refine ⟨found, sameRule, ?_⟩
    cases built : build found with
    | ok other =>
        rw [built] at isItem
        cases isItem
        rfl
    | error exception =>
        rw [built] at isItem
        cases isItem
  unfold Outcome.of at kept
  split at kept
  · cases kept
  · split at kept
    · cases kept
    · split at kept
      · cases kept
      · split at kept
        · exact ofBuild rfl kept
        · split at kept
          · cases kept
          · dsimp only at kept
            split at kept
            · exact ofBuild rfl kept
            · cases kept

/-- Every item of a run was built for a match. -/
theorem exists_build_of_run
    {engine : EvaluationEngine}
    {build : RuleMatch → Except PyException Item}
    {faults : CallFaults}
    {stats : EvaluationStats}
    {event : IDSEvent}
    {ctx : Option FlowContext}
    {item : Item}
    (member : item ∈ (engine.run build faults stats event ctx).2) :
    ∃ found, build found = .ok item := by
  cases tested : engine.tests event with
  | false =>
      rw [run_of_not_tests tested] at member
      exact absurd member List.not_mem_nil
  | true =>
      rw [run_of_tests tested] at member
      obtain ⟨rule, _, kept⟩ := List.mem_filterMap.mp member
      obtain ⟨found, _, built⟩ := exists_build_of_item? kept
      exact ⟨found, built⟩

end EvaluationEngine

/-- Every detection of the engine describes the event it was returned for. -/
theorem describes_process
    {engine : Engine}
    {tracker : Option FlowTracker}
    {faults : CallFaults}
    {stats later : EvaluationStats}
    {event : IDSEvent}
    {detections : List Detection}
    (processed :
      engine.process tracker faults stats event =
        .ok (later, detections)) :
    ∀ detection ∈ detections, detection.Describes event := by
  intro detection member
  rw [Engine.process] at processed
  cases found : engine.flowContext tracker event with
  | error exception =>
      rw [found] at processed
      cases processed
  | ok ctx =>
      rw [found] at processed
      have detected :
          engine.evaluator.detect faults stats event ctx =
            (later, detections) :=
        Except.ok.inj processed
      have isItem :
          detection ∈
            (engine.evaluator.detect faults stats event ctx).2 := by
        rw [detected]
        exact member
      obtain ⟨match_, built⟩ :=
        EvaluationEngine.exists_build_of_run isItem
      unfold EvaluationEngine.buildDetection at built
      split at built
      · cases built
      · exact describes_makeDetection (ownContext_flowContext found) built

end IntrusionDetection
