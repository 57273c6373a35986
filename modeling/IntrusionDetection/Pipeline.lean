import IntrusionDetection.Engine
import IntrusionDetection.FlowTracker
import IntrusionDetection.PacketStages

namespace IntrusionDetection

open PyText GuardedSteps

/-!
# Packet pipeline

`Pipeline.process` takes one packet through parser, decoder, preprocessor, flow
tracker and rule engine.  Every stage is guarded twice: its decorator
`safe_stage` records the failure and hands on the event as it is, and a `try`
of `process` catches what still leaves the call of the stage.
-/

/--
An output of the pipeline.  Whether it raises at a record may depend on the
records it was handed before.
-/
abbrev Sink (Record : Type) :=
  List Record → Record → Except PyException Unit

/--
What a pipeline is built from: the sections of its configuration, the outputs
and the engine, if there is one.  `defaultUnknownPolicy` is the policy of the
settings file.
-/
structure PipelineSetup where
  flowCfg : FlowCfg
  digest : Str → Str
  preprocessorCfg : Option PreprocessorCfg
  unknownPolicy : Option Str
  defaultUnknownPolicy : Str
  eventLogger : Option (Sink IDSEvent)
  flowLogger : Option (Sink Flow)
  detectionLogger : Option (Sink Detection)
  engine : Option Engine

/-- `preprocess_counts`. -/
structure PreprocessCounts where
  valid : Nat
  partiallyValid : Nat
  invalid : Nat

namespace PreprocessCounts

/-- Count an event by its verdict, if it has one. -/
def add
    (counts : PreprocessCounts)
    (status : Option PreprocessStatus) :
    PreprocessCounts :=
  match status with
  | none => counts
  | some .valid => { counts with valid := counts.valid + 1 }
  | some .partiallyValid =>
      { counts with partiallyValid := counts.partiallyValid + 1 }
  | some .invalid => { counts with invalid := counts.invalid + 1 }

/-- Sum of the counts. -/
def total (counts : PreprocessCounts) : Nat :=
  counts.valid + counts.partiallyValid + counts.invalid

end PreprocessCounts

/--
What a pipeline changes from packet to packet.  `loggedEvents` and
`loggedDetections` list the calls made to the two loggers.
-/
structure Pipeline where
  tracker : FlowTracker
  stats : EvaluationStats
  counts : PreprocessCounts
  detectionsWritten : Nat
  loggedEvents : List IDSEvent
  loggedDetections : List Detection

/-- The three fields of an event the flow tracker writes. -/
structure FlowFields where
  flowId : Option Str
  direction : Option Direction
  flowState : Option FlowState

/-- Write the fields of the flow tracker. -/
def IDSEvent.withFlow (event : IDSEvent) (fields : FlowFields) : IDSEvent :=
  { event with
    flowId := fields.flowId
    direction := fields.direction
    flowState := fields.flowState }

/-- An `update` that raises, and what it has written by then. -/
structure TrackerFault where
  interrupted : FlowTracker → IDSEvent → FlowTracker × FlowFields
  exception : PyException

/--
The exceptions that leave the call of a stage, as those of an undecorated
replacement of the stage do.
-/
structure StageEscapes where
  decoder : Option PyException
  preprocessor : Option PyException
  tracker : Option PyException

/-- One call of `process`, with what its stages do. -/
structure PacketCall where
  timestamp : Option Time
  raw : RawPacket
  packetId : Int
  parsers : LayerParsers
  decoder : DecoderBody
  preprocessor : PreprocessorSteps
  trackerFault : Option TrackerFault
  ruleFaults : CallFaults
  escapes : StageEscapes

/-- What `process` works on. -/
structure Processing where
  pipeline : Pipeline
  event : IDSEvent

/-- A part of `process`. -/
abbrev ProcessM := EStateM PyException Processing

/-- The events of one packet as the stages left them. -/
structure PacketTrace where
  parsed : IDSEvent
  decoded : IDSEvent
  preprocessed : IDSEvent
  tracked : IDSEvent
  returned : IDSEvent

/-- The event as the flow tracker left it, and as `process` returns it. -/
structure RoutedEvent where
  tracked : IDSEvent
  returned : IDSEvent

/-- The event after each stage, in order. -/
def PacketTrace.events (trace : PacketTrace) : List IDSEvent :=
  [trace.parsed, trace.decoded, trace.preprocessed, trace.tracked,
    trace.returned]

namespace ProcessM

/-- Work on the event. -/
def onEvent
    {Value : Type}
    (computation : EventM Value) :
    ProcessM Value :=
  zoom Processing.event
    (fun processing event => { processing with event }) computation

/-- Work on the pipeline. -/
def onPipeline
    {Value : Type}
    (computation : EStateM PyException Pipeline Value) :
    ProcessM Value :=
  zoom Processing.pipeline
    (fun processing pipeline => { processing with pipeline }) computation

/-- The event as it is now. -/
def currentEvent : ProcessM IDSEvent :=
  onEvent get

/-- Write the event. -/
def writeEvent (write : IDSEvent → IDSEvent) : ProcessM Unit :=
  onEvent (modify write)

/-- `safe_stage`. -/
def safeStage (layer : Str) (stage : ProcessM Unit) : ProcessM Unit :=
  try
    stage
  catch exception =>
    writeEvent fun event => event.recordError layer exception.message

/--
Call a stage.  It is decorated, unless it escapes its guard: then whatever its
body does ends in the escaping exception.
-/
def callStage
    (layer : Str)
    (stage : ProcessM Unit)
    (escape : Option PyException) :
    ProcessM Unit :=
  match escape with
  | none => safeStage layer stage
  | some exception => do
      try
        stage
      catch _ =>
        pure ()
      throw exception

end ProcessM

namespace PipelineSetup

/-- `_on_flow_export`, which never raises. -/
def onFlowExport
    (setup : PipelineSetup)
    (earlier : List Flow)
    (flow : Flow) :
    Except PyException Unit :=
  match setup.flowLogger with
  | none => .ok ()
  | some log =>
      match log earlier flow with
      | .ok _ => .ok ()
      | .error _ => .ok ()

/-- The setup of the pipeline's flow tracker. -/
def trackerSetup (setup : PipelineSetup) : TrackerSetup where
  cfg := setup.flowCfg
  onExport := some setup.onFlowExport
  digest := setup.digest

/-- `_get_unknown_policy`. -/
def getUnknownPolicy (setup : PipelineSetup) : Str :=
  lower (setup.unknownPolicy.getD setup.defaultUnknownPolicy)

end PipelineSetup

/-! ### The stages -/

/-- Stage 1. -/
def parserStage (setup : PipelineSetup) (call : PacketCall) : IDSEvent :=
  match parsePacketLayers call.parsers call.timestamp call.raw
      call.packetId setup.getUnknownPolicy with
  | .ok event => event
  | .error exception =>
      parserFallback call.timestamp call.raw call.packetId exception

namespace ProcessM

/-- Stage 2, skipped for a malformed packet. -/
def decoderStage (call : PacketCall) : ProcessM Unit := do
  let event ← currentEvent
  if event.status = .malformed then
    writeEvent fun event => { event with decodeStatus := none }
  else
    try
      callStage (lit "decoder") (onEvent (decodeEvent call.decoder))
        call.escapes.decoder
    catch exception =>
      writeEvent fun event =>
        ({ event with decodeStatus := none }).recordError
          (lit "decoder") exception.describe

/-- `_apply_preprocessor_error_fallback`, without recording an error. -/
def preprocessorFallback (event : IDSEvent) : IDSEvent :=
  (event.withVerdict .invalid .flagged).addReason
    (lit "preprocessor_error")

/-- Stage 3. -/
def preprocessorStage
    (setup : PipelineSetup)
    (call : PacketCall) :
    ProcessM Unit :=
  try
    callStage (lit "preprocessor")
      (onEvent (preprocessEvent call.preprocessor setup.preprocessorCfg))
      call.escapes.preprocessor
    let event ← currentEvent
    if event.preprocessStatus = none then
      writeEvent preprocessorFallback
  catch exception =>
    writeEvent fun event =>
      (preprocessorFallback event).recordError
        (lit "preprocessor") exception.describe

/-- Count the verdict of the preprocessor. -/
def countVerdict : ProcessM Unit := do
  let event ← currentEvent
  onPipeline (modify fun pipeline =>
    { pipeline with
      counts := pipeline.counts.add event.preprocessStatus })

/-- `FlowTracker.update`, without its decorator. -/
def updateTracker
    (setup : PipelineSetup)
    (fault : Option TrackerFault) :
    ProcessM Unit := do
  let ⟨pipeline, event⟩ ← get
  match fault with
  | none =>
      let (tracker, result) :=
        pipeline.tracker.update setup.trackerSetup event.view
      set (Processing.mk { pipeline with tracker } (event.withResult result))
      match result.raised with
      | none => pure ()
      | some exception => throw exception
  | some fault =>
      let (tracker, fields) := fault.interrupted pipeline.tracker event
      set (Processing.mk { pipeline with tracker } (event.withFlow fields))
      throw fault.exception

/-- Stage 4. -/
def trackerStage
    (setup : PipelineSetup)
    (call : PacketCall) :
    ProcessM Unit :=
  try
    callStage (lit "flow_tracker") (updateTracker setup call.trackerFault)
      call.escapes.tracker
  catch exception =>
    writeEvent fun event =>
      event.clearFlow.recordError (lit "flow_tracker") exception.describe

/-- Hand a record to a sink. -/
def handTo
    {Record : Type}
    (sink : Sink Record)
    (earlier : List Record)
    (record : Record) :
    EStateM PyException Pipeline Unit :=
  MonadExcept.ofExcept (sink earlier record)

/-- `_write_detection`. -/
def writeDetection
    (setup : PipelineSetup)
    (detection : Detection) :
    EStateM PyException Pipeline Unit := do
  match setup.detectionLogger with
  | none => pure ()
  | some logger =>
      let earlier := (← get).loggedDetections
      modify fun pipeline =>
        { pipeline with
          loggedDetections := earlier ++ [detection] }
      try
        handTo logger earlier detection
        modify fun pipeline =>
          { pipeline with
            detectionsWritten := pipeline.detectionsWritten + 1 }
      catch _ =>
        pure ()

/-- The body of `_engine_stage`. -/
def evaluateEvent
    (setup : PipelineSetup)
    (faults : CallFaults)
    (event : IDSEvent) :
    EStateM PyException Pipeline Unit := do
  match setup.engine with
  | none => pure ()
  | some engine =>
      let pipeline ← get
      let (stats, detections) ← MonadExcept.ofExcept
        (engine.process (some pipeline.tracker) faults pipeline.stats event)
      modify fun pipeline => { pipeline with stats }
      detections.forM (writeDetection setup)

/-- Stage 5. -/
def engineStage
    (setup : PipelineSetup)
    (call : PacketCall) :
    ProcessM Unit :=
  safeStage (lit "engine") do
    let event ← currentEvent
    onPipeline (evaluateEvent setup call.ruleFaults event)

/-- `_write_event`. -/
def logEvent
    (setup : PipelineSetup)
    (event : IDSEvent) :
    EStateM PyException Pipeline Unit := do
  match setup.eventLogger with
  | none => pure ()
  | some logger =>
      let earlier := (← get).loggedEvents
      modify fun pipeline =>
        { pipeline with loggedEvents := earlier ++ [event] }
      try
        handTo logger earlier event
      catch _ =>
        pure ()

/-- Stage 6; an ignored event is not logged. -/
def loggingStage (setup : PipelineSetup) : ProcessM Unit := do
  let event ← currentEvent
  if event.status ≠ .ignored then
    onPipeline (logEvent setup event)

end ProcessM

/-! ### The pipeline -/

namespace IDSEvent

/-- Has the policy taken the event out of the pipeline? -/
def isRemoved (event : IDSEvent) : Bool :=
  event.processingAction = some .skipped ∨
    event.processingAction = some .dropped

end IDSEvent

namespace ProcessM

/--
The end of `process` for an event that was skipped or dropped: it does not
reach the flow tracker and is not logged, but the engine still counts it.
-/
def finishRemoved
    (setup : PipelineSetup)
    (call : PacketCall) :
    ProcessM RoutedEvent := do
  writeEvent IDSEvent.clearFlow
  let tracked ← currentEvent
  engineStage setup call
  let returned ← currentEvent
  return { tracked, returned }

/-- The end of `process` for every other event. -/
def finishTracked
    (setup : PipelineSetup)
    (call : PacketCall) :
    ProcessM RoutedEvent := do
  trackerStage setup call
  let tracked ← currentEvent
  engineStage setup call
  loggingStage setup
  let returned ← currentEvent
  return { tracked, returned }

/-- `process` after the parser. -/
def processParsed
    (setup : PipelineSetup)
    (call : PacketCall) :
    ProcessM PacketTrace := do
  let parsed ← currentEvent
  decoderStage call
  let decoded ← currentEvent
  preprocessorStage setup call
  let preprocessed ← currentEvent
  countVerdict
  let ⟨tracked, returned⟩ ←
    if preprocessed.isRemoved then
      finishRemoved setup call
    else
      finishTracked setup call
  return { parsed, decoded, preprocessed, tracked, returned }

end ProcessM

namespace Pipeline

/-- `Pipeline.__init__`. -/
def fresh : Pipeline where
  tracker := .fresh
  stats := .zero
  counts := { valid := 0, partiallyValid := 0, invalid := 0 }
  detectionsWritten := 0
  loggedEvents := []
  loggedDetections := []

/-- `process`; it returns the last event of the trace. -/
def process
    (setup : PipelineSetup)
    (pipeline : Pipeline)
    (call : PacketCall) :
    Pipeline × Except PyException PacketTrace :=
  let parsed := Processing.mk pipeline (parserStage setup call)
  match ProcessM.processParsed setup call parsed with
  | .ok trace processing => (processing.pipeline, .ok trace)
  | .error exception processing =>
      (processing.pipeline, .error exception)

/-- `flush`. -/
def flush (setup : PipelineSetup) (pipeline : Pipeline) : Pipeline :=
  { pipeline with
    tracker := pipeline.tracker.flush setup.trackerSetup }

/-- The flows handed to the flow logger so far. -/
def loggedFlows (setup : PipelineSetup) (pipeline : Pipeline) : List Flow :=
  match setup.flowLogger with
  | none => []
  | some _ => pipeline.tracker.handed.map Prod.snd

end Pipeline

end IntrusionDetection
