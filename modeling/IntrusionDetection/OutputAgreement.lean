import IntrusionDetection.DetectionOrigins
import IntrusionDetection.FaultPrecedence
import IntrusionDetection.FlowNames
import IntrusionDetection.PipelineOutcomes
import IntrusionDetection.UntrustedEvents

namespace IntrusionDetection

open PyText GuardedSteps FaultPrecedence

/-!
# The outputs of a pipeline agree

A pipeline writes events, detections and flows, which are joined by the
identifiers of the flows.  As long as the flow tracker is not replaced, the
flows handed over by the end count exactly the events that were returned with
their identifiers, and a detection repeats an event that was returned.
-/

/-- The flow tracker serves this call, and is not replaced. -/
structure PacketCall.KeepsTracker (call : PacketCall) : Prop where
  fault : call.trackerFault = none
  escape : call.escapes.tracker = none

/-- What the events with an identifier are worth together. -/
def worthOfEvents
    (events : List IDSEvent)
    (flowId : Str)
    (counter : Counter) :
    Nat :=
  ((events.filter fun event => decide (event.flowId = some flowId)).map
    fun event => event.view.tally counter).sum

/-- What the flows with an identifier have counted together. -/
def worthOfFlows
    (flows : List Flow)
    (flowId : Str)
    (counter : Counter) :
    Nat :=
  ((flows.filter fun flow => decide (flow.flowId = flowId)).map
    fun flow => flow.tally counter).sum

/-- The call a packet makes to the flow tracker, if it makes one. -/
def PacketTrace.trackerCalls (trace : PacketTrace) : List TrackerCall :=
  if trace.preprocessed.isRemoved then
    []
  else
    [.update trace.preprocessed.view]

/-- The events among the outputs of the tracker that got an identifier. -/
def worthOfOutputs
    (outputs : List (Option TrackedEvent))
    (flowId : Str)
    (counter : Counter) :
    Nat :=
  tallyOf
    ((outputs.filterMap id).filter fun item =>
      decide (item.attachment.flowId = flowId)) counter

theorem worthOfEvents_append
    (first second : List IDSEvent)
    (flowId : Str)
    (counter : Counter) :
    worthOfEvents (first ++ second) flowId counter =
      worthOfEvents first flowId counter +
        worthOfEvents second flowId counter := by
  simp [worthOfEvents]

theorem worthOfOutputs_append
    (first second : List (Option TrackedEvent))
    (flowId : Str)
    (counter : Counter) :
    worthOfOutputs (first ++ second) flowId counter =
      worthOfOutputs first flowId counter +
        worthOfOutputs second flowId counter := by
  simp [worthOfOutputs]

/-- An event without an identifier is worth nothing. -/
theorem worthOfEvents_of_none
    {event : IDSEvent}
    (noFlow : event.flowId = none)
    (flowId : Str)
    (counter : Counter) :
    worthOfEvents [event] flowId counter = 0 := by
  simp [worthOfEvents, noFlow]

/-- The flow of an event and what the tracker reads of it fix its worth. -/
theorem worthOfEvents_congr
    {first second : IDSEvent}
    (flow : first.flowId = second.flowId)
    (view : first.view = second.view)
    (flowId : Str)
    (counter : Counter) :
    worthOfEvents [first] flowId counter =
      worthOfEvents [second] flowId counter := by
  simp only [worthOfEvents, List.filter_singleton, flow]
  cases decide (second.flowId = some flowId) <;> simp [view]

/--
The event is worth what the tracker was given: an update that fails leaves it
without a flow.
-/
theorem worthOfOutputs_update
    (setup : TrackerSetup)
    (tracker : FlowTracker)
    {event : IDSEvent}
    (noFlow : event.flowId = none)
    (flowId : Str)
    (counter : Counter) :
    worthOfOutputs [(tracker.serve setup (.update event.view)).2]
        flowId counter =
      worthOfEvents
        [event.withResult (tracker.update setup event.view).2]
        flowId counter := by
  simp only [FlowTracker.serve]
  cases (tracker.update setup event.view).2 with
  | skipped =>
      have cleared : (event.withResult .skipped).flowId = none :=
        rfl
      rw [worthOfEvents_of_none cleared]
      rfl
  | failed exception =>
      have unchanged :
          (event.withResult (.failed exception)).flowId = none :=
        noFlow
      rw [worthOfEvents_of_none unchanged]
      rfl
  | placed attachment raised =>
      have isFlow :
          (event.withResult (.placed attachment raised)).flowId =
            some attachment.flowId :=
        rfl
      by_cases same : attachment.flowId = flowId
      · simp [worthOfOutputs, worthOfEvents, isFlow, same, tallyOf,
          UpdateResult.attachment]
      · simp [worthOfOutputs, worthOfEvents, isFlow, same,
          UpdateResult.attachment]

/-! ### The parser gives no flow -/

namespace LayerParsers

variable {parsers : LayerParsers} {event parsed : IDSEvent}

/-- Layer 7 gives no flow. -/
theorem flowId_parseApplication
    {appProto : Str}
    {appPayload : Bytes}
    (isParsed :
      parsers.parseApplication event appProto appPayload = .ok parsed)
    (noFlow : event.flowId = none) :
    parsed.flowId = none := by
  unfold parseApplication at isParsed
  dsimp only at isParsed
  repeat' split at isParsed
  all_goals
    obtain ⟨result, _, isParsed⟩ := exists_of_bind_ok isParsed
    cases result with
    | none =>
        cases isParsed
        exact noFlow
    | some result =>
        dsimp only at isParsed
        split at isParsed <;>
          · cases isParsed
            exact noFlow

/-- Detection gives no flow. -/
theorem flowId_detectApplication
    {unknownPolicy : Str}
    {appPayload : Bytes}
    (isParsed :
      parsers.detectApplication unknownPolicy event appPayload =
        .ok parsed)
    (noFlow : event.flowId = none) :
    parsed.flowId = none := by
  obtain ⟨⟨appProto, method⟩, _, isParsed⟩ := exists_of_bind_ok isParsed
  simp only at isParsed
  split at isParsed
  · split at isParsed <;>
      · cases isParsed
        exact noFlow
  · exact flowId_parseApplication isParsed noFlow

/-- Layer 4 gives no flow. -/
theorem flowId_parseTransport
    {unknownPolicy transportProto : Str}
    {transportPayload : Bytes}
    (isParsed :
      parsers.parseTransport unknownPolicy event transportProto
        transportPayload = .ok parsed)
    (noFlow : event.flowId = none) :
    parsed.flowId = none := by
  unfold parseTransport at isParsed
  dsimp only at isParsed
  split at isParsed
  all_goals
    obtain ⟨result, _, isParsed⟩ := exists_of_bind_ok isParsed
    split at isParsed
    · cases isParsed
      exact noFlow
    · split at isParsed
      · cases isParsed
        exact noFlow
      · exact flowId_detectApplication isParsed noFlow

/-- Layer 3 gives no flow. -/
theorem flowId_parseNetwork
    {unknownPolicy : Str}
    {raw : RawPacket}
    (isParsed :
      parsers.parseNetwork unknownPolicy event raw = .ok parsed)
    (noFlow : event.flowId = none) :
    parsed.flowId = none := by
  obtain ⟨result, _, isParsed⟩ := exists_of_bind_ok isParsed
  split at isParsed
  · cases isParsed
    exact noFlow
  · cases isParsed
    exact noFlow
  · dsimp only at isParsed
    split at isParsed
    · cases isParsed
      exact noFlow
    · split at isParsed
      · cases isParsed
        exact noFlow
      · exact flowId_parseTransport isParsed noFlow

end LayerParsers

/-- A parsed packet belongs to no flow yet. -/
theorem flowId_parserStage (setup : PipelineSetup) (call : PacketCall) :
    (parserStage setup call).flowId = none := by
  unfold parserStage
  split <;> rename_i parsed
  · obtain ⟨_, _, isParsed⟩ := exists_of_bind_ok parsed
    exact LayerParsers.flowId_parseNetwork isParsed rfl
  · rfl

namespace ProcessM

/-! ### The stages -/

/-- The tracker was updated; an error may have been recorded afterwards. -/
structure Updated (setup : PipelineSetup) (start after : Processing) :
    Prop where
  pipeline : after.pipeline = (updated setup start).pipeline
  flowId : after.event.flowId = (updated setup start).event.flowId
  view : after.event.view = (updated setup start).event.view

/-- A tracker that is not replaced updates the event. -/
theorem trackerStage_updates
    (setup : PipelineSetup)
    {call : PacketCall}
    (keeps : call.KeepsTracker)
    (start : Processing) :
    Returns (trackerStage setup call) start
      (fun _ => Updated setup start) := by
  unfold trackerStage
  rw [keeps.fault, keeps.escape]
  refine .tryCatch (.tryCatch (ends_updateTracker ?_ ?_))
  · intro _
    exact ⟨rfl, rfl, rfl⟩
  · intro exception _
    refine ends_writeEvent ⟨rfl, ?_, ?_⟩
    · rw [IDSEvent.recordError_eq]
    · rw [IDSEvent.recordError_eq]
      rfl

/-- Detections were handed to the logger that describe the event. -/
structure Described
    (event : IDSEvent)
    (before after : Pipeline) :
    Prop where
  tracker : after.tracker = before.tracker
  detections :
    ∃ detections,
      after.loggedDetections = before.loggedDetections ++ detections ∧
        ∀ detection ∈ detections, detection.Describes event

/-- Writing detections that describe the event hands them over in order. -/
theorem writeDetections_describe
    (setup : PipelineSetup)
    {event : IDSEvent}
    {detections : List Detection}
    (describe : ∀ detection ∈ detections, detection.Describes event)
    (pipeline : Pipeline) :
    Returns (detections.forM (writeDetection setup)) pipeline
      (fun _ => Described event pipeline) := by
  induction detections generalizing pipeline with
  | nil =>
      exact ⟨rfl, [], (List.append_nil _).symm, by simp⟩
  | cons detection rest inductionHypothesis =>
      rw [List.forall_mem_cons] at describe
      have first :
          Returns (writeDetection setup detection) pipeline
            (fun _ => Described event pipeline) := by
        unfold writeDetection
        cases setup.detectionLogger with
        | none =>
            exact ⟨rfl, [], (List.append_nil _).symm, by simp⟩
        | some logger =>
            have handed :
                ∀ written,
                  Described event pipeline
                    { pipeline with
                      loggedDetections :=
                        pipeline.loggedDetections ++ [detection]
                      detectionsWritten := written } := by
              intro written
              refine ⟨rfl, [detection], rfl, ?_⟩
              simpa using describe.1
            refine .bind (.get (.bind (.modify ?_)))
            refine .tryCatch (.bind (.ofExcept ?_ ?_))
            · exact fun _ _ => handed (pipeline.detectionsWritten + 1)
            · exact fun _ _ => handed pipeline.detectionsWritten
      refine .bind (first.mono fun _ next former => ?_)
      refine (inductionHypothesis describe.2 next).mono
        fun _ after latter => ⟨latter.tracker.trans former.tracker, ?_⟩
      obtain ⟨early, isEarly, earlyDescribe⟩ := former.detections
      obtain ⟨late, isLate, lateDescribe⟩ := latter.detections
      refine ⟨early ++ late, ?_,
        List.forall_mem_append.mpr ⟨earlyDescribe, lateDescribe⟩⟩
      rw [isLate, isEarly, List.append_assoc]

/-- The engine stage returns the event, and detections that describe it. -/
theorem engineStage_describes
    (setup : PipelineSetup)
    (call : PacketCall)
    (start : Processing) :
    Returns (engineStage setup call) start
      (fun _ after =>
        after.event = start.event ∧
          Described start.event start.pipeline after.pipeline) := by
  refine .tryCatch (.bind (ends_currentEvent (ends_onPipeline ?_)))
  unfold evaluateEvent
  cases setup.engine with
  | none =>
      exact ⟨rfl, rfl, [], (List.append_nil _).symm, by simp⟩
  | some engine =>
      obtain ⟨ctx, runs⟩ :=
        engine.process_ok (some start.pipeline.tracker) call.ruleFaults
          start.pipeline.stats start.event
      refine .bind (.get (.bind (.ofExcept (fun served processed => ?_)
        (fun exception raised => ?_))))
      · obtain ⟨stats, detections⟩ := served
        refine .bind (.modify ?_)
        refine (writeDetections_describe setup
          (describes_process processed) _).mono
            fun _ after described => ⟨rfl, ?_⟩
        exact ⟨described.tracker, described.detections⟩
      · rw [runs] at raised
        cases raised

/-! ### One packet -/

/-- What a packet did to the tracker and to the detections. -/
structure Routed
    (setup : PipelineSetup)
    (before : Pipeline)
    (calls : List TrackerCall)
    (returned : IDSEvent)
    (after : Pipeline) :
    Prop where
  tracker :
    after.tracker =
      (StepRuns.run (FlowTracker.serve setup.trackerSetup)
        before.tracker calls).1
  worth :
    ∀ flowId counter,
      worthOfOutputs
          (StepRuns.run (FlowTracker.serve setup.trackerSetup)
            before.tracker calls).2 flowId counter =
        worthOfEvents [returned] flowId counter
  detections :
    ∃ detections,
      after.loggedDetections = before.loggedDetections ++ detections ∧
        ∀ detection ∈ detections, detection.Describes returned

/-- A removed event does not reach the tracker. -/
theorem finishRemoved_routes
    (setup : PipelineSetup)
    (call : PacketCall)
    (start : Processing) :
    Returns (finishRemoved setup call) start
      (fun routed after =>
        Routed setup start.pipeline [] routed.returned after.pipeline) := by
  refine .bind (ends_writeEvent (.bind (ends_currentEvent ?_)))
  refine .bind ((engineStage_describes setup call _).mono
    fun _ final ⟨sameEvent, described⟩ => ?_)
  refine .bind (ends_currentEvent (.pure ?_))
  refine ⟨described.tracker, fun flowId counter => ?_, ?_⟩
  · have noFlow : final.event.flowId = none := by
      rw [sameEvent]
      rfl
    rw [worthOfEvents_of_none noFlow]
    rfl
  · rw [sameEvent]
    exact described.detections

/-- Any other event is handed to the tracker once. -/
theorem finishTracked_routes
    (setup : PipelineSetup)
    {call : PacketCall}
    (keeps : call.KeepsTracker)
    {start : Processing}
    (noFlow : start.event.flowId = none) :
    Returns (finishTracked setup call) start
      (fun routed after =>
        Routed setup start.pipeline [.update start.event.view]
          routed.returned after.pipeline) := by
  refine .bind ((trackerStage_updates setup keeps start).mono
    fun _ tracked tracking => .bind (ends_currentEvent ?_))
  refine .bind ((engineStage_describes setup call tracked).mono
    fun _ final ⟨sameEvent, described⟩ => ?_)
  refine .bind ((loggingStage_returns setup final).mono
    fun _ after logging => .bind (ends_currentEvent (.pure ?_)))
  subst logging
  have isTracker := described.tracker
  have detections := described.detections
  rw [tracking.pipeline] at isTracker detections
  refine ⟨isTracker, fun flowId counter => ?_, ?_⟩
  · dsimp only
    rw [sameEvent, worthOfEvents_congr tracking.flowId tracking.view]
    exact worthOfOutputs_update setup.trackerSetup
      start.pipeline.tracker noFlow flowId counter
  · dsimp only
    rw [sameEvent]
    exact detections

/-- After the parser, a packet makes at most one call to the tracker. -/
theorem processParsed_routes
    (setup : PipelineSetup)
    {call : PacketCall}
    (keeps : call.KeepsTracker)
    {start : Processing}
    (noFlow : start.event.flowId = none) :
    Returns (processParsed setup call) start
      (fun trace after =>
        Routed setup start.pipeline trace.trackerCalls trace.returned
          after.pipeline) := by
  refine .bind (ends_currentEvent ?_)
  refine .bind ((decoderStage_returns call start).mono
    fun _ decoded decoding => .bind (ends_currentEvent ?_))
  refine .bind ((preprocessorStage_returns setup call decoded).mono
    fun _ judged judging => .bind (ends_currentEvent ?_))
  refine .bind ((countVerdict_returns judged).mono
    fun _ after counting => ?_)
  have samePipeline : judged.pipeline = start.pipeline :=
    judging.pipeline.trans decoding.pipeline
  have sameEvent : after.event = judged.event := by
    rw [counting]
  have stillNoFlow : after.event.flowId = none := by
    rw [sameEvent, judging.event.flowId, decoding.event.flowId, noFlow]
  have sameTracker :
      after.pipeline.tracker = start.pipeline.tracker := by
    rw [counting, ← samePipeline]
  have sameDetections :
      after.pipeline.loggedDetections =
        start.pipeline.loggedDetections := by
    rw [counting, ← samePipeline]
  have routes :
      ∀ {calls returned final},
        Routed setup after.pipeline calls returned final →
          Routed setup start.pipeline calls returned final := by
    intro calls returned final routed
    refine ⟨?_, ?_, ?_⟩
    · rw [routed.tracker, sameTracker]
    · rw [← sameTracker]
      exact routed.worth
    · rw [← sameDetections]
      exact routed.detections
  change Returns (ite (judged.event.isRemoved = true) _ _) after _
  split
  · rename_i removed
    refine .bind ((finishRemoved_routes setup call after).mono
      fun routed final done => ?_)
    have noCalls :
        PacketTrace.trackerCalls
          ⟨start.event, decoded.event, judged.event, routed.tracked,
            routed.returned⟩ = [] :=
      if_pos removed
    refine .pure ?_
    rw [noCalls]
    exact routes done
  · rename_i kept
    refine .bind ((finishTracked_routes setup keeps stillNoFlow).mono
      fun routed final done => ?_)
    have oneCall :
        PacketTrace.trackerCalls
          ⟨start.event, decoded.event, judged.event, routed.tracked,
            routed.returned⟩ = [.update judged.event.view] :=
      if_neg kept
    refine .pure ?_
    rw [oneCall, ← sameEvent]
    exact routes done

end ProcessM

/-! ### Whole runs -/

/-- An identifier is worth packets if and only if an event has it. -/
theorem worthOfEvents_packets
    (events : List IDSEvent)
    (flowId : Str) :
    worthOfEvents events flowId .packets ≠ 0 ↔
      ∃ event ∈ events, event.flowId = some flowId := by
  have asLength :
      worthOfEvents events flowId .packets =
        (events.filter fun event =>
          decide (event.flowId = some flowId)).length := by
    simp [worthOfEvents, EventView.tally]
  rw [asLength, ← Nat.pos_iff_ne_zero, List.length_pos_iff_exists_mem]
  constructor
  · rintro ⟨event, member⟩
    obtain ⟨isEvent, isFlow⟩ := List.mem_filter.mp member
    exact ⟨event, isEvent, of_decide_eq_true isFlow⟩
  · rintro ⟨event, isEvent, isFlow⟩
    exact ⟨event,
      List.mem_filter.mpr ⟨isEvent, decide_eq_true isFlow⟩⟩

/-- An output with an identifier is worth a packet. -/
theorem worthOfOutputs_packets
    {outputs : List (Option TrackedEvent)}
    {item : TrackedEvent}
    (member : item ∈ outputs.filterMap id) :
    worthOfOutputs outputs item.attachment.flowId .packets ≠ 0 := by
  have asLength :
      worthOfOutputs outputs item.attachment.flowId .packets =
        ((outputs.filterMap id).filter fun other =>
          decide (other.attachment.flowId =
            item.attachment.flowId)).length := by
    simp [worthOfOutputs, tallyOf, EventView.tally]
  rw [asLength, ← Nat.pos_iff_ne_zero, List.length_pos_iff_exists_mem]
  exact ⟨item, List.mem_filter.mpr ⟨member, decide_eq_true rfl⟩⟩

/-- An identifier that is worth something is the one of a flow. -/
theorem exists_flow_of_worth
    {flows : List Flow}
    {flowId : Str}
    {counter : Counter}
    (isWorth : worthOfFlows flows flowId counter ≠ 0) :
    ∃ flow ∈ flows, flow.flowId = flowId := by
  by_contra noFlow
  push Not at noFlow
  apply isWorth
  have noFlows :
      (flows.filter fun flow => decide (flow.flowId = flowId)) = [] := by
    rw [List.filter_eq_nil_iff]
    intro flow member isFlow
    exact noFlow flow member (of_decide_eq_true isFlow)
  rw [worthOfFlows, noFlows]
  rfl

/-- The flows handed over are worth what their calls are. -/
theorem worthOfFlows_calls
    (calls : List (Nat × Flow))
    (flowId : Str)
    (counter : Counter) :
    worthOfFlows (calls.map Prod.snd) flowId counter =
      ((calls.filter fun call => decide (call.2.flowId = flowId)).map
        fun call => call.2.tally counter).sum := by
  rw [worthOfFlows, List.filter_map, List.map_map]
  rfl

namespace Pipeline

open ProcessM

/-- The tracker and the detections so far agree with the traces. -/
structure Joined
    (setup : PipelineSetup)
    (pipeline : Pipeline)
    (traces : List PacketTrace) :
    Prop where
  worth :
    ∃ calls,
      pipeline.tracker =
          (StepRuns.run (FlowTracker.serve setup.trackerSetup)
            .fresh calls).1 ∧
        ∀ flowId counter,
          worthOfOutputs
              (StepRuns.run (FlowTracker.serve setup.trackerSetup)
                .fresh calls).2 flowId counter =
            worthOfEvents (traces.map PacketTrace.returned)
              flowId counter
  detections :
    ∀ detection ∈ pipeline.loggedDetections,
      ∃ trace ∈ traces, detection.Describes trace.returned

/-- One more packet keeps the outputs joined. -/
theorem Joined.process
    {setup : PipelineSetup}
    {before after : Pipeline}
    {traces : List PacketTrace}
    {trace : PacketTrace}
    (joined : Joined setup before traces)
    (routed :
      Routed setup before trace.trackerCalls trace.returned after) :
    Joined setup after (traces ++ [trace]) := by
  obtain ⟨calls, isTracker, worth⟩ := joined.worth
  obtain ⟨added, isAdded, describe⟩ := routed.detections
  refine ⟨⟨calls ++ trace.trackerCalls, ?_, ?_⟩, ?_⟩
  · rw [routed.tracker, isTracker, StepRuns.run_append]
  · intro flowId counter
    rw [StepRuns.run_append, worthOfOutputs_append, List.map_append,
      worthOfEvents_append, worth flowId counter, ← isTracker]
    congr 1
    exact routed.worth flowId counter
  · rw [isAdded]
    refine List.forall_mem_append.mpr ⟨?_, ?_⟩
    · intro detection member
      obtain ⟨early, isEarly, describes⟩ :=
        joined.detections detection member
      exact ⟨early, List.mem_append_left _ isEarly, describes⟩
    · intro detection member
      exact ⟨trace, List.mem_append_right _ (List.mem_singleton.mpr rfl),
        describe detection member⟩

/-- In every run that keeps its tracker, the outputs stay joined. -/
theorem joined_run
    (setup : PipelineSetup)
    {calls : List PacketCall}
    (keeps : ∀ call ∈ calls, call.KeepsTracker) :
    let served := StepRuns.run (process setup) fresh calls
    ∃ traces : List PacketTrace,
      served.2 = traces.map .ok ∧ Joined setup served.1 traces := by
  intro served
  have invariant :=
    @StepRuns.history_of_run _ _ _ (process setup)
      (fun pipeline consumed produced =>
        (∀ call ∈ consumed, call.KeepsTracker) →
          ∃ traces : List PacketTrace,
            produced = traces.map .ok ∧ Joined setup pipeline traces)
      fresh calls
      (fun _ => ⟨[], rfl, ⟨[], rfl, fun _ _ => rfl⟩, by simp [fresh]⟩)
  apply invariant _ keeps
  intro pipeline consumed produced call before keepsAll
  obtain ⟨keepsEarlier, keepsCall⟩ := List.forall_mem_append.mp keepsAll
  obtain ⟨traces, rfl, joined⟩ := before keepsEarlier
  obtain ⟨trace, after, ran, routed⟩ :=
    (@processParsed_routes setup call (keepsCall call (by simp))
      ⟨pipeline, parserStage setup call⟩
      (flowId_parserStage setup call)).exists_eq
  have processed :
      process setup pipeline call = (after.pipeline, .ok trace) := by
    simp only [process, ran]
  rw [processed]
  exact ⟨traces ++ [trace], by simp, joined.process routed⟩

/--
Every packet is returned and the three outputs agree by the end of a run.  The
flows that were handed over with an identifier have together counted what the
returned events with that identifier are worth, and there is such a flow if and
only if there is such an event; every detection describes a returned event, and
its flow is handed over too; every logged event is a returned one.
-/
theorem outputs_agree
    (setup : PipelineSetup)
    (logsFlows : setup.flowLogger.isSome)
    (calls : List PacketCall)
    (keeps : ∀ call ∈ calls, call.KeepsTracker) :
    let served := StepRuns.run (process setup) fresh calls
    let final := served.1.flush setup
    let flows := final.loggedFlows setup
    ∃ traces : List PacketTrace,
      served.2 = traces.map .ok ∧
        (∀ flowId counter,
          worthOfFlows flows flowId counter =
            worthOfEvents (traces.map PacketTrace.returned)
              flowId counter) ∧
        (∀ flowId,
          (∃ flow ∈ flows, flow.flowId = flowId) ↔
            ∃ trace ∈ traces, trace.returned.flowId = some flowId) ∧
        (∀ detection ∈ final.loggedDetections,
          (∃ trace ∈ traces, detection.Describes trace.returned) ∧
            ∀ flowId ∈ detection.flowId,
              ∃ flow ∈ flows, flow.flowId = flowId) ∧
        ∀ event ∈ final.loggedEvents,
          ∃ trace ∈ traces, trace.returned = event := by
  intro served final flows
  obtain ⟨traces, returned, joined⟩ := joined_run setup keeps
  obtain ⟨others, sameReturned, books⟩ := allReturned_run setup calls
  have sameTraces : others = traces := by
    apply List.map_injective_iff.mpr (fun _ _ => Except.ok.inj)
    exact sameReturned.symm.trans returned
  subst sameTraces
  obtain ⟨trackerCalls, isTracker, worth⟩ := joined.worth
  have isCallback :
      setup.trackerSetup.onExport = some setup.onFlowExport :=
    rfl
  have isFlows : flows = final.tracker.handed.map Prod.snd := by
    obtain ⟨logger, isLogger⟩ := Option.isSome_iff_exists.mp logsFlows
    simp only [flows, loggedFlows, isLogger]
  obtain ⟨groups, origins⟩ :=
    FlowTracker.flush_groups isCallback trackerCalls
  have isHanded :
      final.tracker.handed =
        ((StepRuns.run (FlowTracker.serve setup.trackerSetup)
          .fresh trackerCalls).1.flush setup.trackerSetup).handed := by
    rw [← isTracker]
    rfl
  have balanced :
      ∀ flowId counter,
        worthOfFlows flows flowId counter =
          worthOfEvents (others.map PacketTrace.returned)
            flowId counter := by
    intro flowId counter
    rw [isFlows, worthOfFlows_calls, isHanded, groups flowId counter]
    exact worth flowId counter
  have hasEvent :
      ∀ flowId,
        (∃ event ∈ others.map PacketTrace.returned,
          event.flowId = some flowId) ↔
          ∃ trace ∈ others, trace.returned.flowId = some flowId := by
    intro flowId
    simp
  have joins :
      ∀ flowId,
        (∃ flow ∈ flows, flow.flowId = flowId) ↔
          ∃ trace ∈ others, trace.returned.flowId = some flowId := by
    intro flowId
    rw [← hasEvent, ← worthOfEvents_packets]
    constructor
    · rintro ⟨flow, member, isFlow⟩
      rw [isFlows, isHanded] at member
      obtain ⟨call, isCall, rfl⟩ := List.mem_map.mp member
      obtain ⟨item, isItem, sameId⟩ := origins call isCall
      rw [← worth, ← isFlow, ← sameId]
      exact worthOfOutputs_packets isItem
    · intro isWorth
      rw [← balanced] at isWorth
      exact exists_flow_of_worth isWorth
  refine ⟨others, returned, balanced, joins, ?_, ?_⟩
  · intro detection member
    obtain ⟨trace, isTrace, describes⟩ :=
      joined.detections detection member
    refine ⟨⟨trace, isTrace, describes⟩, fun flowId isFlow => ?_⟩
    apply (joins flowId).mpr
    exact ⟨trace, isTrace, describes.flowId.symm.trans isFlow⟩
  · intro event member
    have isLogged : event ∈ served.1.loggedEvents := member
    rw [books.logged] at isLogged
    simp only [PipelineSetup.logged] at isLogged
    split at isLogged
    · obtain ⟨trace, isTrace, isEvent⟩ :=
        List.mem_map.mp (List.mem_of_mem_filter isLogged)
      exact ⟨trace, isTrace, isEvent⟩
    · exact absurd isLogged List.not_mem_nil

end Pipeline

/-- The pipeline with loggers for flows and detections. -/
def loggingPipeline : PipelineSetup :=
  { httpPipeline with
    flowLogger := some fun _ _ => .ok ()
    detectionLogger := some fun _ _ => .ok () }

/-- Two connections, a request on the first, and a segment that is broken. -/
def webPackets : List PacketCall :=
  [synPacket 1 0 50000,
    brokenPacket,
    synPacket 3 2 50001,
    plainPacket 4 3
      (webSegment 50000 0x18 (ProtocolDetector.signature "GET /"))]

/--
The final flush hands over both flows without the broken segment, and the
request was detected in its flow.
-/
theorem Pipeline.webPackets_agreed :
    let served := StepRuns.run (process loggingPipeline) fresh webPackets
    let final := served.1.flush loggingPipeline
    let flows := final.loggedFlows loggingPipeline
    flows.map Flow.packetCount = [1, 2] ∧
      final.loggedDetections.map Detection.sid = [1] ∧
      ∃ traces : List PacketTrace,
        served.2 = traces.map .ok ∧
          (∀ flowId counter,
            worthOfFlows flows flowId counter =
              worthOfEvents (traces.map PacketTrace.returned)
                flowId counter) ∧
          ∀ detection ∈ final.loggedDetections,
            ∀ flowId ∈ detection.flowId,
              ∃ flow ∈ flows, flow.flowId = flowId := by
  intro served final flows
  have counts : flows.map Flow.packetCount = [1, 2] := by
    decide +kernel
  have detected : final.loggedDetections.map Detection.sid = [1] := by
    decide +kernel
  have keeps : ∀ call ∈ webPackets, call.KeepsTracker := by
    simp only [webPackets, List.forall_mem_cons]
    exact ⟨⟨rfl, rfl⟩, ⟨rfl, rfl⟩, ⟨rfl, rfl⟩, ⟨rfl, rfl⟩, by simp⟩
  obtain ⟨traces, returned, balanced, _, detections, _⟩ :=
    outputs_agree loggingPipeline rfl webPackets keeps
  exact ⟨counts, detected, traces, returned, balanced,
    fun detection member => (detections detection member).2⟩

end IntrusionDetection
