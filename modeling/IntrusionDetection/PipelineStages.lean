import IntrusionDetection.EvaluatorAccounting
import IntrusionDetection.Pipeline

namespace IntrusionDetection

open PyText GuardedSteps

/-!
# What the stages of the pipeline guarantee

One statement for each stage: it returns whatever is raised inside it, writes
nothing but its own part of the pipeline, and leaves an error alone that is
already recorded.
-/

/-! ### Recorded errors -/

namespace IDSEvent

/-- An error recorded on the event before is still recorded after. -/
def KeepsError (before after : IDSEvent) : Prop :=
  ∀ info, before.errorInfo = some info → after.errorInfo = some info

namespace KeepsError

theorem refl (event : IDSEvent) : KeepsError event event :=
  fun _ recorded => recorded

theorem trans
    {first second third : IDSEvent}
    (former : KeepsError first second)
    (latter : KeepsError second third) :
    KeepsError first third :=
  fun info recorded => latter info (former info recorded)

/-- Recording another error keeps the one that was recorded. -/
theorem recordError
    {before after : IDSEvent}
    (kept : KeepsError before after)
    (layer detail : Str) :
    KeepsError before (after.recordError layer detail) :=
  fun info recorded =>
    errorInfo_recordError_of_some (kept info recorded) layer detail

end KeepsError

/-- Recording an error writes nothing but the error. -/
theorem recordError_eq
    (event : IDSEvent)
    (layer detail : Str) :
    event.recordError layer detail =
      { event with
        errorInfo := some (event.errorInfo.getD { layer, detail }) } := by
  unfold recordError
  cases recorded : event.errorInfo with
  | none => rfl
  | some info =>
      change event = { event with errorInfo := some info }
      rw [← recorded]

/-- Adding reasons writes nothing but the reasons. -/
theorem addReasons_eq (event : IDSEvent) (reasons : List Str) :
    ∃ all, event.addReasons reasons = { event with reason := all } := by
  induction reasons generalizing event with
  | nil =>
      exact ⟨event.reason, rfl⟩
  | cons reason rest inductionHypothesis =>
      obtain ⟨all, later⟩ := inductionHypothesis (event.addReason reason)
      refine ⟨all, ?_⟩
      change (event.addReason reason).addReasons rest = _
      rw [later]
      simp only [addReason]
      split <;> rfl

/--
The error recorded on the event is kept, and so are its flow and what the
parser alone writes.
-/
structure Preserved (before after : IDSEvent) : Prop where
  error : KeepsError before after
  flowId : after.flowId = before.flowId
  status : after.status = before.status
  srcPort : after.srcPort = before.srcPort

namespace Preserved

theorem refl (event : IDSEvent) : Preserved event event :=
  ⟨.refl event, rfl, rfl, rfl⟩

theorem trans
    {first second third : IDSEvent}
    (former : Preserved first second)
    (latter : Preserved second third) :
    Preserved first third where
  error := former.error.trans latter.error
  flowId := latter.flowId.trans former.flowId
  status := latter.status.trans former.status
  srcPort := latter.srcPort.trans former.srcPort

/-- Recording an error keeps the flow of the event. -/
theorem recordError
    {before after : IDSEvent}
    (kept : Preserved before after)
    (layer detail : Str) :
    Preserved before (after.recordError layer detail) := by
  have error := kept.error.recordError layer detail
  rw [recordError_eq] at error ⊢
  exact ⟨error, kept.flowId, kept.status, kept.srcPort⟩

end Preserved

end IDSEvent

namespace ProcessM

open IDSEvent

variable {start : Processing}

theorem ends_currentEvent
    {returns : IDSEvent → Processing → Prop}
    {raises : PyException → Processing → Prop}
    (holds : returns start.event start) :
    Ends currentEvent start returns raises :=
  holds

theorem ends_writeEvent
    {write : IDSEvent → IDSEvent}
    {returns : Unit → Processing → Prop}
    {raises : PyException → Processing → Prop}
    (holds : returns () { start with event := write start.event }) :
    Ends (writeEvent write) start returns raises :=
  holds

theorem ends_onPipeline
    {computation : EStateM PyException Pipeline Unit}
    {returns : Unit → Processing → Prop}
    {raises : PyException → Processing → Prop}
    (ends :
      Ends computation start.pipeline
        (fun value pipeline => returns value { start with pipeline })
        (fun exception pipeline =>
          raises exception { start with pipeline })) :
    Ends (onPipeline computation) start returns raises :=
  .zoom ends

/-- The pipeline is untouched, and the event is as stated. -/
structure EventLeft
    (start : Processing)
    (left : IDSEvent → Prop)
    (after : Processing) : Prop where
  pipeline : after.pipeline = start.pipeline
  event : left after.event

/-- A computation on the event leaves the pipeline alone. -/
theorem leaves_onEvent
    {computation : EventM Unit}
    {left : IDSEvent → Prop}
    (leaves : Leaves computation start.event left) :
    Leaves (onEvent computation) start (EventLeft start left) :=
  .zoom (leaves.mono (fun _ _ holds => ⟨rfl, holds⟩)
    (fun _ _ holds => ⟨rfl, holds⟩))

/-- The call of a stage ends as its body does, up to a recorded error. -/
theorem leaves_callStage
    {stage : ProcessM Unit}
    {left : Processing → Prop}
    (leaves : Leaves stage start left)
    (recorded :
      ∀ after layer detail,
        left after →
        left { after with
          event := after.event.recordError layer detail })
    (layer : Str)
    (escape : Option PyException) :
    Leaves (callStage layer stage escape) start left := by
  cases escape with
  | none =>
      exact .tryCatch (leaves.mono (fun _ _ holds => holds)
        fun exception after holds =>
          recorded after layer exception.message holds)
  | some exception =>
      refine .bind (.tryCatch (leaves.mono (fun _ _ holds => holds) ?_))
      exact fun _ _ holds => holds

/-! ### Decoder -/

/-- Decoding records no error and gives no flow. -/
theorem preserves_decodeEvent
    (body : DecoderBody)
    (before : IDSEvent) :
    Preserves (Preserved before) (decodeEvent body) := by
  refine .bind .get fun event => ?_
  rcases body event with ⟨fields, outcome⟩
  exact .bind
    (.modify fun _ kept =>
      ⟨kept.error, kept.flowId, kept.status, kept.srcPort⟩)
    fun _ => .ofExcept outcome

/-- The decoder stage returns the event with all that is to be kept. -/
theorem decoderStage_returns (call : PacketCall) (start : Processing) :
    Returns (decoderStage call) start
      (fun _ => EventLeft start (Preserved start.event)) := by
  have decoded := leaves_callStage
    (leaves_onEvent
      (preserves_decodeEvent call.decoder start.event start.event
        (.refl _)))
    (fun after layer detail left =>
      ⟨left.pipeline, left.event.recordError layer detail⟩)
    (lit "decoder") call.escapes.decoder
  refine .bind (ends_currentEvent ?_)
  split
  · exact ⟨rfl, .refl start.event, rfl, rfl, rfl⟩
  · refine Leaves.returns_of_handled _ decoded (fun _ left => left) ?_
    intro exception after left
    have cleared :
        Preserved start.event
          { after.event with decodeStatus := none } :=
      ⟨left.event.error, left.event.flowId, left.event.status,
        left.event.srcPort⟩
    exact ⟨left.pipeline, cleared.recordError _ _⟩

/-! ### Preprocessor -/

/-- All that is to be kept is kept, and the event has a verdict. -/
structure Judged (before after : IDSEvent) : Prop
    extends Preserved before after where
  verdict : after.preprocessStatus.isSome

/-- Recording an error keeps the verdict. -/
theorem Judged.recordError
    {before after : IDSEvent}
    (judged : Judged before after)
    (layer detail : Str) :
    Judged before (after.recordError layer detail) := by
  refine ⟨judged.toPreserved.recordError layer detail, ?_⟩
  rw [recordError_eq]
  exact judged.verdict

/-- Adding reasons keeps the verdict. -/
theorem Judged.addReasons
    {before after : IDSEvent}
    (judged : Judged before after)
    (reasons : List Str) :
    Judged before (after.addReasons reasons) := by
  obtain ⟨all, added⟩ := addReasons_eq after reasons
  rw [added]
  exact ⟨⟨judged.error, judged.flowId, judged.status, judged.srcPort⟩,
    judged.verdict⟩

/-- The fallback gives a verdict. -/
theorem judged_preprocessorFallback
    {before after : IDSEvent}
    (kept : Preserved before after) :
    Judged before (preprocessorFallback after) := by
  have judged :
      Judged before (after.withVerdict .invalid .flagged) :=
    ⟨⟨kept.error, kept.flowId, kept.status, kept.srcPort⟩, rfl⟩
  exact judged.addReasons [lit "preprocessor_error"]

/-- Normalising keeps the verdict. -/
theorem preserves_normalizeUnlessInvalid
    (steps : PreprocessorSteps)
    (status : PreprocessStatus)
    (before : IDSEvent) :
    Preserves (Judged before) (normalizeUnlessInvalid steps status) := by
  unfold normalizeUnlessInvalid
  split
  · exact .pure false
  · refine .bind .get fun event => ?_
    rcases steps.normalize event with ⟨fields, outcome⟩
    refine .bind (.modify fun _ judged => ?_) fun _ => .ofExcept outcome
    exact ⟨⟨judged.error, judged.flowId, judged.status, judged.srcPort⟩,
      judged.verdict⟩

/-- The policies give a verdict, or raise before they write one. -/
theorem preserves_applyPolicies
    (cfg : Option PreprocessorCfg)
    (status : PreprocessStatus)
    (reasons : List Str)
    (hasNormalizations hasDefaults : Bool)
    (before : IDSEvent) :
    Preserves (Judged before)
      (applyPolicies cfg status reasons hasNormalizations
        hasDefaults) := by
  cases cfg with
  | none => exact .throw _
  | some cfg =>
      exact .modify fun _ judged =>
        ⟨⟨judged.error, judged.flowId, judged.status, judged.srcPort⟩,
          rfl⟩

/--
From the first verdict on, preprocessing always leaves a verdict on the event,
wherever it stops.
-/
theorem leaves_preprocessEvent
    (steps : PreprocessorSteps)
    (cfg : Option PreprocessorCfg)
    (event : IDSEvent) :
    Leaves (preprocessEvent steps cfg) event (Judged event) := by
  refine .bind (.modify ?_)
  refine Preserves.bind .get (fun marked => ?_) _
    ⟨⟨.refl event, rfl, rfl, rfl⟩, rfl⟩
  refine .bind (.ofExcept _) fun validated => ?_
  refine .bind (.modify fun _ judged => judged.addReasons _) fun _ => ?_
  refine .bind (preserves_normalizeUnlessInvalid _ _ event) fun _ => ?_
  refine .bind .get fun normalized => ?_
  rcases steps.fillDefaults normalized with ⟨fields, outcome⟩
  refine .bind (.modify fun _ judged =>
    ⟨⟨judged.error, judged.flowId, judged.status, judged.srcPort⟩,
      judged.verdict⟩) fun _ => ?_
  refine .bind (.ofExcept outcome) fun _ => ?_
  exact .bind .get fun _ => preserves_applyPolicies _ _ _ _ _ event

/-- The preprocessor stage returns and gives every event a verdict. -/
theorem preprocessorStage_returns
    (setup : PipelineSetup)
    (call : PacketCall)
    (start : Processing) :
    Returns (preprocessorStage setup call) start
      (fun _ => EventLeft start (Judged start.event)) := by
  have called := leaves_callStage
    (leaves_onEvent (leaves_preprocessEvent call.preprocessor
      setup.preprocessorCfg start.event))
    (fun after layer detail left =>
      ⟨left.pipeline, left.event.recordError layer detail⟩)
    (lit "preprocessor") call.escapes.preprocessor
  refine Leaves.returns_of_handled (EventLeft start (Judged start.event))
    ?_ (fun _ left => left) ?_
  · refine .bind (called.mono (fun _ after left => ?_)
      (fun _ _ left => left))
    refine .bind (ends_currentEvent ?_)
    split
    · exact ⟨left.pipeline,
        judged_preprocessorFallback left.event.toPreserved⟩
    · exact left
  · intro exception after left
    exact ⟨left.pipeline,
      (judged_preprocessorFallback
        left.event.toPreserved).recordError _ _⟩

/-! ### Counting -/

end ProcessM

/-- Every verdict is counted once. -/
theorem PreprocessCounts.total_add
    (counts : PreprocessCounts)
    {status : Option PreprocessStatus}
    (verdict : status.isSome) :
    (counts.add status).total = counts.total + 1 := by
  obtain ⟨status, rfl⟩ := Option.isSome_iff_exists.mp verdict
  cases status <;> simp only [add, total] <;> omega

namespace ProcessM

open IDSEvent

variable {start : Processing}

/-- Counting adds the verdict of the event. -/
theorem countVerdict_returns (start : Processing) :
    Returns countVerdict start
      (fun _ after =>
        after = { start with
          pipeline := { start.pipeline with
            counts :=
              start.pipeline.counts.add start.event.preprocessStatus } }) :=
  .bind (ends_currentEvent (ends_onPipeline (.modify rfl)))

/-! ### Flow tracker -/

/-- Only the tracker and the flow fields of the event are written. -/
structure TrackerLeft (start after : Processing) : Prop where
  pipeline : ∃ tracker, after.pipeline = { start.pipeline with tracker }
  error : KeepsError start.event after.event
  action : after.event.processingAction = start.event.processingAction

/-- Recording an error writes neither tracker nor action. -/
theorem TrackerLeft.recordError
    {start after : Processing}
    (left : TrackerLeft start after)
    (layer detail : Str) :
    TrackerLeft start { after with
      event := after.event.recordError layer detail } := by
  refine ⟨left.pipeline, left.error.recordError layer detail, ?_⟩
  rw [recordError_eq]
  exact left.action

/-- What `update` left, and how it ended. -/
def updateOf
    (setup : PipelineSetup)
    (start : Processing) :
    FlowTracker × UpdateResult :=
  start.pipeline.tracker.update setup.trackerSetup start.event.view

/-- The pipeline and the event after an update. -/
def updated (setup : PipelineSetup) (start : Processing) : Processing where
  pipeline :=
    { start.pipeline with tracker := (updateOf setup start).1 }
  event := start.event.withResult (updateOf setup start).2

/-- How an update ends that has written what it left. -/
def endedUpdate : Option PyException → ProcessM Unit
  | none => pure ()
  | some exception => throw exception

/-- The update is written before its exception is raised. -/
theorem updateTracker_none
    {setup : PipelineSetup} :
    updateTracker setup none start =
      endedUpdate (updateOf setup start).2.raised (updated setup start) :=
  rfl

/-- An update of the tracker itself that does not raise. -/
theorem updateTracker_of_returned
    {setup : PipelineSetup}
    (returned : (updateOf setup start).2.raised = none) :
    updateTracker setup none start = .ok () (updated setup start) := by
  rw [updateTracker_none, returned]
  rfl

/-- An update of the tracker itself that raises. -/
theorem updateTracker_of_raised
    {setup : PipelineSetup}
    {exception : PyException}
    (raised : (updateOf setup start).2.raised = some exception) :
    updateTracker setup none start =
      .error exception (updated setup start) := by
  rw [updateTracker_none, raised]
  rfl

/-- An update of the tracker itself writes its result, raising or not. -/
theorem ends_updateTracker
    {setup : PipelineSetup}
    {returns : Unit → Processing → Prop}
    {raises : PyException → Processing → Prop}
    (onReturn :
      (updateOf setup start).2.raised = none →
      returns () (updated setup start))
    (onRaise :
      ∀ exception,
        (updateOf setup start).2.raised = some exception →
        raises exception (updated setup start)) :
    Ends (updateTracker setup none) start returns raises := by
  unfold Ends
  cases raised : (updateOf setup start).2.raised with
  | none =>
      rw [updateTracker_of_returned raised]
      exact onReturn raised
  | some exception =>
      rw [updateTracker_of_raised raised]
      exact onRaise exception raised

/-- An update leaves the error and the action of the event alone. -/
theorem withResult_keeps (event : IDSEvent) (result : UpdateResult) :
    (event.withResult result).errorInfo = event.errorInfo ∧
      (event.withResult result).processingAction =
        event.processingAction := by
  cases result <;> exact ⟨rfl, rfl⟩

/-- An update writes the tracker and the flow fields, raising or not. -/
theorem leaves_updateTracker
    (setup : PipelineSetup)
    (fault : Option TrackerFault)
    (start : Processing) :
    Leaves (updateTracker setup fault) start (TrackerLeft start) := by
  obtain ⟨pipeline, event⟩ := start
  cases fault with
  | none =>
      obtain ⟨error, action⟩ :=
        withResult_keeps event (updateOf setup ⟨pipeline, event⟩).2
      have left :
          TrackerLeft ⟨pipeline, event⟩
            (updated setup ⟨pipeline, event⟩) :=
        ⟨⟨_, rfl⟩, fun _ recorded => error.trans recorded, action⟩
      exact ends_updateTracker (fun _ => left) (fun _ _ => left)
  | some fault =>
      exact ⟨⟨_, rfl⟩, .refl event, rfl⟩

/-- The tracker stage returns. -/
theorem trackerStage_returns
    (setup : PipelineSetup)
    (call : PacketCall)
    (start : Processing) :
    Returns (trackerStage setup call) start
      (fun _ => TrackerLeft start) := by
  have called := leaves_callStage
    (leaves_updateTracker setup call.trackerFault start)
    (fun _ layer detail left => left.recordError layer detail)
    (lit "flow_tracker") call.escapes.tracker
  refine Leaves.returns_of_handled _ called (fun _ left => left) ?_
  intro exception after left
  have cleared :
      TrackerLeft start { after with event := after.event.clearFlow } :=
    ⟨left.pipeline, left.error, left.action⟩
  exact cleared.recordError _ _

/-! ### Engine -/

/-- There is a detection logger, and it never raises. -/
def LogsDetections (setup : PipelineSetup) : Prop :=
  ∃ logger,
    setup.detectionLogger = some logger ∧
      ∀ earlier detection, logger earlier detection = .ok ()

/-- Some detections were written, and nothing else was changed. -/
structure Wrote
    (setup : PipelineSetup)
    (count : Nat)
    (before after : Pipeline) : Prop where
  unchanged :
    after = { before with
      detectionsWritten := after.detectionsWritten
      loggedDetections := after.loggedDetections }
  written :
    LogsDetections setup →
    after.detectionsWritten = before.detectionsWritten + count

/-- Writing a detection never raises. -/
theorem writeDetection_returns
    (setup : PipelineSetup)
    (detection : Detection)
    (pipeline : Pipeline) :
    Returns (writeDetection setup detection) pipeline
      (fun _ => Wrote setup 1 pipeline) := by
  unfold writeDetection
  cases isLogger : setup.detectionLogger with
  | none =>
      refine ⟨rfl, ?_⟩
      rintro ⟨logger, present, _⟩
      simp [isLogger] at present
  | some logger =>
      refine .bind (.get (.bind (.modify ?_)))
      refine .tryCatch (.bind (.ofExcept ?_ ?_))
      · intro _ _
        exact ⟨rfl, fun _ => rfl⟩
      · intro exception raised
        refine ⟨rfl, ?_⟩
        rintro ⟨other, present, quiet⟩
        obtain rfl : logger = other := by simpa [isLogger] using present
        simp [quiet] at raised

/-- Writing a list of detections writes each of them. -/
theorem writeDetections_returns
    (setup : PipelineSetup)
    (detections : List Detection)
    (pipeline : Pipeline) :
    Returns (detections.forM (writeDetection setup)) pipeline
      (fun _ => Wrote setup detections.length pipeline) := by
  induction detections generalizing pipeline with
  | nil =>
      exact ⟨rfl, fun _ => rfl⟩
  | cons detection rest inductionHypothesis =>
      refine .bind ((writeDetection_returns setup detection pipeline).mono
        fun _ next first => ?_)
      refine (inductionHypothesis next).mono
        fun _ after later => ⟨?_, fun quiet => ?_⟩
      · rw [later.unchanged, first.unchanged]
      · rw [later.written quiet, first.written quiet, List.length_cons]
        omega

/-- The engine counted one event, and nothing of Part 2 was changed. -/
structure Evaluated
    (setup : PipelineSetup)
    (before after : Pipeline) : Prop where
  tracker : after.tracker = before.tracker
  counts : after.counts = before.counts
  loggedEvents : after.loggedEvents = before.loggedEvents
  events :
    setup.engine.isSome →
    after.stats.eventsEvaluated + after.stats.eventsSkipped =
      before.stats.eventsEvaluated + before.stats.eventsSkipped + 1
  written :
    LogsDetections setup →
    after.detectionsWritten + before.stats.matchCount =
      before.detectionsWritten + after.stats.matchCount

/-- The body of the engine stage never raises. -/
theorem evaluateEvent_returns
    (setup : PipelineSetup)
    (faults : CallFaults)
    (event : IDSEvent)
    (pipeline : Pipeline) :
    Returns (evaluateEvent setup faults event) pipeline
      (fun _ => Evaluated setup pipeline) := by
  unfold evaluateEvent
  cases isEngine : setup.engine with
  | none =>
      refine ⟨rfl, rfl, rfl, ?_, fun _ => rfl⟩
      simp [isEngine]
  | some engine =>
      obtain ⟨ctx, processed⟩ :=
        engine.process_ok (some pipeline.tracker) faults pipeline.stats event
      have counted := EvaluationEngine.run_counts_candidates
        engine.evaluator
        (EvaluationEngine.buildDetection faults event ctx) faults
        pipeline.stats event ctx
      refine .bind (.get (.bind (.ofExcept (fun served ok => ?_)
        (fun exception raised => ?_))))
      · obtain ⟨stats, detections⟩ := served
        have ran :
            engine.evaluator.run
              (EvaluationEngine.buildDetection faults event ctx) faults
              pipeline.stats event ctx = (stats, detections) :=
          Except.ok.inj (processed.symm.trans ok)
        rw [ran] at counted
        refine .bind (.modify ?_)
        refine (writeDetections_returns setup detections _).mono
          fun _ after wrote => ?_
        have unchanged := wrote.unchanged
        refine ⟨by rw [unchanged], by rw [unchanged], by rw [unchanged],
          fun _ => ?_, fun quiet => ?_⟩
        · rw [unchanged]
          exact counted.events
        · have matchCount :
              stats.matchCount =
                pipeline.stats.matchCount + detections.length :=
            counted.matchCount
          rw [wrote.written quiet, unchanged]
          simp only
          omega
      · simp [processed] at raised

/-- The engine stage returns the event as it was. -/
theorem engineStage_returns
    (setup : PipelineSetup)
    (call : PacketCall)
    (start : Processing) :
    Returns (engineStage setup call) start
      (fun _ after =>
        after.event = start.event ∧
          Evaluated setup start.pipeline after.pipeline) := by
  refine .tryCatch (.bind (ends_currentEvent (ends_onPipeline ?_)))
  exact (evaluateEvent_returns setup call.ruleFaults start.event
    start.pipeline).mono fun _ _ evaluated => ⟨rfl, evaluated⟩

/-! ### Logging -/

end ProcessM

/-- What the event logger is handed for a tracked event. -/
def PipelineSetup.handed
    (setup : PipelineSetup)
    (event : IDSEvent) :
    List IDSEvent :=
  if setup.eventLogger.isSome = true ∧ event.status ≠ .ignored then
    [event]
  else
    []

namespace ProcessM

/-- Handing an event to the logger never raises. -/
theorem logEvent_returns
    (setup : PipelineSetup)
    (event : IDSEvent)
    (pipeline : Pipeline) :
    Returns (logEvent setup event) pipeline
      (fun _ after =>
        after = { pipeline with
          loggedEvents := pipeline.loggedEvents ++
            if setup.eventLogger.isSome then [event] else [] }) := by
  unfold logEvent
  cases setup.eventLogger with
  | none =>
      change pipeline = _
      simp
  | some logger =>
      refine .bind (.get (.bind (.modify ?_)))
      exact .tryCatch (.ofExcept (fun _ _ => rfl) (fun _ _ => rfl))

/-- The logging stage hands on the event unless it is ignored. -/
theorem loggingStage_returns
    (setup : PipelineSetup)
    (start : Processing) :
    Returns (loggingStage setup) start
      (fun _ after =>
        after = { start with
          pipeline := { start.pipeline with
            loggedEvents := start.pipeline.loggedEvents ++
              setup.handed start.event } }) := by
  refine .bind (ends_currentEvent ?_)
  split <;> rename_i ignored
  · refine ends_onPipeline
      ((logEvent_returns setup start.event start.pipeline).mono
        fun _ after logged => ?_)
    rw [logged]
    simp [PipelineSetup.handed, ignored]
  · change start = _
    simp [PipelineSetup.handed, ignored]

end ProcessM

end IntrusionDetection
