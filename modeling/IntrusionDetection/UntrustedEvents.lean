import IntrusionDetection.EngineContext
import IntrusionDetection.PacketLayers
import IntrusionDetection.PipelineOutcomes

namespace IntrusionDetection

open PyText GuardedSteps

/-!
# Untrusted events are inert

An event that leaves the preprocessor invalid, skipped or dropped does not
reach the flow tables and matches no rule.  There are two routes: a skipped or
dropped event leaves `process` before the tracker, and an event that is only
flagged passes the tracker and the engine, which both refuse it by themselves.
-/

/-- The preprocessor does not vouch for the event. -/
def IDSEvent.isUntrusted (event : IDSEvent) : Prop :=
  event.preprocessStatus = some .invalid ∨ event.isRemoved = true

/-- The event belongs to no flow. -/
structure IDSEvent.Unattached (event : IDSEvent) : Prop where
  flowId : event.flowId = none
  direction : event.direction = none
  flowState : event.flowState = none

/-- The pipeline after the engine, if there is one, skipped an event. -/
def PipelineSetup.skipEvent
    (setup : PipelineSetup)
    (pipeline : Pipeline) :
    Pipeline :=
  if setup.engine.isSome then
    { pipeline with stats := pipeline.stats.recordEventSkipped }
  else
    pipeline

/-- The engine does not test an untrusted event. -/
theorem IDSEvent.isUntrusted.not_eligible
    {event : IDSEvent}
    (untrusted : event.isUntrusted) :
    EvaluationEngine.eligible event = false := by
  rcases untrusted with invalid | removed
  · simp [EvaluationEngine.eligible, invalid]
  · simp only [IDSEvent.isRemoved, decide_eq_true_eq] at removed
    rcases removed with skipped | dropped
    · simp [EvaluationEngine.eligible, skipped]
    · simp [EvaluationEngine.eligible, dropped]

/-- Recording an error leaves the flow fields and the verdict alone. -/
theorem IDSEvent.Unattached.recordError
    {event : IDSEvent}
    (unattached : event.Unattached)
    (layer detail : Str) :
    (event.recordError layer detail).Unattached := by
  rw [recordError_eq]
  exact ⟨unattached.flowId, unattached.direction, unattached.flowState⟩

/-- An event is unattached once its flow fields are cleared. -/
theorem unattached_clearFlow (event : IDSEvent) :
    event.clearFlow.Unattached :=
  ⟨rfl, rfl, rfl⟩

namespace ProcessM

/-- The engine only counts an event it does not test. -/
theorem engineStage_skips
    (setup : PipelineSetup)
    (call : PacketCall)
    (start : Processing)
    (untested : EvaluationEngine.eligible start.event = false) :
    Returns (engineStage setup call) start
      (fun _ after =>
        after.event = start.event ∧
          after.pipeline = setup.skipEvent start.pipeline) := by
  refine .tryCatch (.bind (ends_currentEvent (ends_onPipeline ?_)))
  unfold evaluateEvent
  cases isEngine : setup.engine with
  | none =>
      refine ⟨rfl, ?_⟩
      simp [PipelineSetup.skipEvent, isEngine]
  | some engine =>
      obtain ⟨ctx, processed⟩ :=
        engine.process_ok (some start.pipeline.tracker) call.ruleFaults
          start.pipeline.stats start.event
      have notTested : engine.evaluator.tests start.event = false := by
        simp [EvaluationEngine.tests, untested]
      have skipped :
          engine.evaluator.detect call.ruleFaults start.pipeline.stats
              start.event ctx =
            (start.pipeline.stats.recordEventSkipped, []) :=
        EvaluationEngine.run_of_not_tests notTested _ _ _ _
      rw [skipped] at processed
      refine .bind (.get (.bind (.ofExcept (fun served ok => ?_)
        (fun exception raised => ?_))))
      · rw [processed] at ok
        cases ok
        refine .bind (.modify ?_)
        refine ⟨rfl, ?_⟩
        simp [PipelineSetup.skipEvent, isEngine]
      · simp [processed] at raised

/-- The tracker was not reached, and the event belongs to no flow. -/
structure Refused (start after : Processing) : Prop where
  pipeline : after.pipeline = start.pipeline
  status : after.event.preprocessStatus = start.event.preprocessStatus
  unattached : after.event.Unattached

/-- The tracker stage refuses an invalid event by itself. -/
theorem trackerStage_refuses
    (setup : PipelineSetup)
    {call : PacketCall}
    {start : Processing}
    (ownTracker : call.trackerFault = none)
    (invalid : start.event.preprocessStatus = some .invalid) :
    Returns (trackerStage setup call) start
      (fun _ => Refused start) := by
  have skips :
      updateOf setup start = (start.pipeline.tracker, .skipped) := by
    simp [updateOf, FlowTracker.update, EventView.filter,
      EventView.select, IDSEvent.view, invalid]
  have refused : Refused start (updated setup start) := by
    simp only [updated, skips]
    exact ⟨rfl, rfl, unattached_clearFlow start.event⟩
  have body :
      Returns (updateTracker setup call.trackerFault) start
        (fun _ => Refused start) := by
    rw [ownTracker]
    refine ends_updateTracker (fun _ => refused) ?_
    intro exception raised
    rw [skips] at raised
    cases raised
  refine .tryCatch ?_
  cases escape : call.escapes.tracker with
  | none =>
      exact .tryCatch (body.mono fun _ _ refused => refused)
  | some exception =>
      refine .bind (.tryCatch (body.mono fun _ after refused => ?_))
      have cleared := unattached_clearFlow after.event
      have handled :
          Refused start { after with
            event := after.event.clearFlow.recordError
              (lit "flow_tracker") exception.describe } := by
        refine ⟨refused.pipeline, ?_, cleared.recordError _ _⟩
        rw [IDSEvent.recordError_eq]
        exact refused.status
      exact handled

/-- Logging writes the log and nothing else. -/
theorem loggingStage_keeps
    (setup : PipelineSetup)
    (start : Processing) :
    Returns (loggingStage setup) start
      (fun _ after =>
        after.event = start.event ∧
          ∃ logged,
            after.pipeline =
              { start.pipeline with loggedEvents := logged }) :=
  (loggingStage_returns setup start).mono fun _ _ logging => by
    rw [logging]
    exact ⟨rfl, _, rfl⟩

/-- What `process` leaves of an untrusted event. -/
structure Inert
    (setup : PipelineSetup)
    (before : Pipeline)
    (returned : IDSEvent)
    (after : Pipeline) : Prop where
  tracker : after.tracker = before.tracker
  stats : after.stats = (setup.skipEvent before).stats
  loggedDetections : after.loggedDetections = before.loggedDetections
  detectionsWritten : after.detectionsWritten = before.detectionsWritten
  unattached : returned.Unattached

/-- Skipping an event changes the statistics only. -/
theorem inert_skipEvent
    (setup : PipelineSetup)
    (pipeline : Pipeline)
    {event : IDSEvent}
    (unattached : event.Unattached) :
    Inert setup pipeline event (setup.skipEvent pipeline) := by
  simp only [PipelineSetup.skipEvent]
  split <;> rename_i isEngine
  · refine ⟨rfl, ?_, rfl, rfl, unattached⟩
    simp [PipelineSetup.skipEvent, isEngine]
  · refine ⟨rfl, ?_, rfl, rfl, unattached⟩
    simp [PipelineSetup.skipEvent, isEngine]

/-- A skipped or dropped event is inert: the tracker is not even called. -/
theorem finishRemoved_inert
    (setup : PipelineSetup)
    (call : PacketCall)
    {start : Processing}
    (removed : start.event.isRemoved = true) :
    Returns (finishRemoved setup call) start
      (fun routed after =>
        Inert setup start.pipeline routed.returned after.pipeline) := by
  have untrusted : start.event.clearFlow.isUntrusted := Or.inr removed
  have skips := engineStage_skips setup call
    { start with event := start.event.clearFlow } untrusted.not_eligible
  refine .bind (ends_writeEvent (.bind (ends_currentEvent ?_)))
  refine .bind (skips.mono fun _ final ⟨sameEvent, skipped⟩ => ?_)
  refine .bind (ends_currentEvent (.pure ?_))
  rw [skipped, sameEvent]
  exact inert_skipEvent setup _ (unattached_clearFlow start.event)

/-- An invalid event that is only flagged is inert as well. -/
theorem finishTracked_inert
    (setup : PipelineSetup)
    {call : PacketCall}
    {start : Processing}
    (ownTracker : call.trackerFault = none)
    (invalid : start.event.preprocessStatus = some .invalid) :
    Returns (finishTracked setup call) start
      (fun routed after =>
        Inert setup start.pipeline routed.returned after.pipeline) := by
  refine .bind ((trackerStage_refuses setup ownTracker invalid).mono
    fun _ tracked refused => .bind (ends_currentEvent ?_))
  have untrusted : tracked.event.isUntrusted :=
    Or.inl (refused.status.trans invalid)
  refine .bind ((engineStage_skips setup call _
    untrusted.not_eligible).mono fun _ final ⟨sameEvent, skipped⟩ => ?_)
  refine .bind ((loggingStage_keeps setup final).mono
    fun _ after ⟨sameLogged, logged, isLogged⟩ =>
      .bind (ends_currentEvent (.pure ?_)))
  have inert : Inert setup start.pipeline final.event final.pipeline := by
    rw [skipped, refused.pipeline, sameEvent]
    exact inert_skipEvent setup _ refused.unattached
  rw [isLogged]
  refine ⟨inert.tracker, inert.stats, inert.loggedDetections,
    inert.detectionsWritten, ?_⟩
  simp only [sameLogged]
  exact inert.unattached

/-- After the parser, an untrusted event is inert. -/
theorem processParsed_inert
    (setup : PipelineSetup)
    {call : PacketCall}
    (ownTracker : call.trackerFault = none)
    (start : Processing) :
    Returns (processParsed setup call) start
      (fun trace after =>
        trace.preprocessed.isUntrusted →
        Inert setup start.pipeline trace.returned after.pipeline) := by
  refine .bind (ends_currentEvent ?_)
  refine .bind ((decoderStage_returns call start).mono
    fun _ decoded decoding => .bind (ends_currentEvent ?_))
  refine .bind ((preprocessorStage_returns setup call decoded).mono
    fun _ judged judging => .bind (ends_currentEvent ?_))
  refine .bind ((countVerdict_returns judged).mono
    fun _ counted counting => ?_)
  have samePipeline :
      Inert setup start.pipeline = Inert setup judged.pipeline := by
    rw [judging.pipeline, decoding.pipeline]
  have recounted :
      ∀ returned after,
        Inert setup counted.pipeline returned after →
        Inert setup start.pipeline returned after := by
    intro returned after inert
    rw [counting] at inert
    rw [samePipeline]
    refine ⟨inert.tracker, ?_, inert.loggedDetections,
      inert.detectionsWritten, inert.unattached⟩
    rw [inert.stats]
    simp only [PipelineSetup.skipEvent]
    split <;> rfl
  have sameEvent : counted.event = judged.event := by
    rw [counting]
  change Returns (ite (judged.event.isRemoved = true) _ _) counted _
  split <;> rename_i removed
  · rw [← sameEvent] at removed
    exact .bind ((finishRemoved_inert setup call removed).mono
      fun _ final inert _ => recounted _ _ inert)
  · by_cases invalid : judged.event.preprocessStatus = some .invalid
    · have stillInvalid :
          counted.event.preprocessStatus = some .invalid := by
        rw [sameEvent]
        exact invalid
      exact .bind ((finishTracked_inert setup ownTracker
        stillInvalid).mono fun _ final inert _ => recounted _ _ inert)
    · have trusted : ¬ judged.event.isUntrusted := by
        rintro (isInvalid | isRemoved)
        · exact invalid isInvalid
        · exact removed isRemoved
      have kept : counted.event.isRemoved = false := by
        rw [sameEvent]
        exact Bool.eq_false_iff.mpr removed
      have total : Counted judged.pipeline counted.pipeline := by
        rw [counting]
        exact ⟨judged.pipeline.counts.total_add judging.event.verdict,
          rfl, rfl, rfl⟩
      exact .bind ((finishTracked_returns total kept call).mono
        fun _ _ _ untrusted => (trusted untrusted).elim)

end ProcessM

/--
From whatever state, a packet whose event leaves the preprocessor invalid,
skipped or dropped leaves the whole tracker as it was, flow table, clock and
exported flows included, writes no detection, belongs to no flow and is counted
by the engine as one skipped event.
-/
theorem Pipeline.untrusted_event_inert
    (setup : PipelineSetup)
    (pipeline : Pipeline)
    (call : PacketCall)
    (ownTracker : call.trackerFault = none)
    (trace : PacketTrace)
    (processed : (pipeline.process setup call).2 = .ok trace)
    (untrusted :
      trace.preprocessed.preprocessStatus = some .invalid ∨
        trace.preprocessed.processingAction = some .skipped ∨
        trace.preprocessed.processingAction = some .dropped) :
    let after := (pipeline.process setup call).1
    after.tracker = pipeline.tracker ∧
      after.stats =
        (if setup.engine.isSome then
          { pipeline.stats with
            eventsSkipped := pipeline.stats.eventsSkipped + 1 }
        else
          pipeline.stats) ∧
      after.loggedDetections = pipeline.loggedDetections ∧
      after.detectionsWritten = pipeline.detectionsWritten ∧
      trace.returned.flowId = none ∧
      trace.returned.direction = none ∧
      trace.returned.flowState = none := by
  obtain ⟨value, after, ran, inert⟩ :=
    (ProcessM.processParsed_inert setup ownTracker
      ⟨pipeline, parserStage setup call⟩).exists_eq
  simp only [process, ran] at processed ⊢
  cases processed
  have isUntrusted : trace.preprocessed.isUntrusted := by
    rcases untrusted with invalid | removed
    · exact Or.inl invalid
    · exact Or.inr (by simpa [IDSEvent.isRemoved] using removed)
  have left := inert isUntrusted
  refine ⟨left.tracker, ?_, left.loggedDetections,
    left.detectionsWritten, left.unattached.flowId,
    left.unattached.direction, left.unattached.flowState⟩
  rw [left.stats]
  simp only [PipelineSetup.skipEvent]
  split <;> rfl

/-- A pipeline with one rule and no logger. -/
def httpPipeline : PipelineSetup where
  flowCfg := .empty
  digest := id
  preprocessorCfg := some { unsupportedPolicy := none, invalidPolicy := none }
  unknownPolicy := none
  defaultUnknownPolicy := lit "skip"
  eventLogger := none
  flowLogger := none
  detectionLogger := none
  engine := some Engine.httpEngine

/-- A segment from `10.0.0.1` to the web server `10.0.0.2`. -/
def webSegment
    (client : UInt16)
    (flags : UInt8)
    (payload : Bytes) :
    Bytes :=
  [69, 0, 0, .ofNat (40 + payload.length), 0, 1, 0, 0, 64, 6, 0, 0,
    10, 0, 0, 1, 10, 0, 0, 2,
    .ofNat (client.toNat / 0x100), .ofNat (client.toNat % 0x100), 0, 80,
    0, 0, 0, 0, 0, 0, 0, 0, 80, flags, 32, 0, 0, 0, 0, 0] ++ payload

/-- A packet no stage fails at; a malformed event is judged invalid. -/
def plainPacket (number : Int) (ts : Time) (data : Bytes) : PacketCall where
  timestamp := some ts
  raw := .bytesLike data
  packetId := number
  parsers := layerParsers plainLibrary plainApplications
  decoder := fun event =>
    (⟨event.decodedFields, event.decodeStatus, event.reason⟩, .ok ())
  preprocessor := {
    validate := fun event =>
      .ok (if event.status = .malformed then .invalid else .valid, [])
    normalize := fun event =>
      (⟨event.timestamp, event.timestampIso, event.networkProtocol,
        event.transportProtocol, event.appProtocol, event.srcIp,
        event.dstIp, event.appFields, event.reason⟩, .ok false)
    fillDefaults := fun event =>
      (⟨event.networkFields, event.transportFields, event.appFields,
        event.decodedFields, event.reason⟩, .ok false) }
  trackerFault := none
  ruleFaults := .none
  escapes := ⟨none, none, none⟩

/-- The packet that opens a connection to the web server. -/
def synPacket (number : Int) (ts : Time) (client : UInt16) : PacketCall :=
  plainPacket number ts (webSegment client 0x02 [])

/-- A segment of the first connection whose payload is no request. -/
def brokenPacket : PacketCall :=
  plainPacket 2 1 (webSegment 50000 0x18 [0])

/--
The event of the broken segment is invalid although it has all five parts of
the key of a live flow; the flow and the rest of the pipeline stay as they
were.
-/
theorem Pipeline.brokenPacket_inert :
    let opened := (fresh.process httpPipeline (synPacket 1 0 50000)).1
    ∃ trace,
      (opened.process httpPipeline brokenPacket).2 = .ok trace ∧
        (opened.tracker.snapshot trace.parsed).isSome = true ∧
        trace.preprocessed.preprocessStatus = some .invalid ∧
        (opened.process httpPipeline brokenPacket).1.tracker =
          opened.tracker ∧
        (opened.process httpPipeline brokenPacket).1.stats =
          { opened.stats with
            eventsSkipped := opened.stats.eventsSkipped + 1 } ∧
        trace.returned.flowId = none := by
  have facts :
      let opened := (fresh.process httpPipeline (synPacket 1 0 50000)).1
      ((opened.process httpPipeline brokenPacket).2.toOption.map
        fun trace =>
          ((opened.tracker.snapshot trace.parsed).isSome,
            trace.preprocessed.preprocessStatus)) =
        some (true, some .invalid) := by
    decide +kernel
  generalize
    (fresh.process httpPipeline (synPacket 1 0 50000)).1 = opened at facts ⊢
  obtain ⟨trace, after, processed, _⟩ :=
    process_returns httpPipeline opened brokenPacket
  dsimp only at facts ⊢
  rw [processed] at facts
  obtain ⟨hasFlow, invalid⟩ := Prod.mk.inj (Option.some.inj facts)
  have inert :=
    untrusted_event_inert httpPipeline opened brokenPacket rfl trace
      (congrArg Prod.snd processed) (Or.inl invalid)
  obtain ⟨sameTracker, stats, _, _, noFlowId, _, _⟩ := inert
  have hasEngine : httpPipeline.engine.isSome = true := rfl
  rw [if_pos hasEngine] at stats
  exact ⟨trace, congrArg Prod.snd processed, hasFlow, invalid, sameTracker,
    stats, noFlowId⟩

end IntrusionDetection
