import IntrusionDetection.PipelineStages
import IntrusionDetection.StepRuns

namespace IntrusionDetection

open GuardedSteps

/-!
# Every packet ends in one outcome

Whatever the stages raise, a packet is counted once by the verdict of the
preprocessor, once by the engine, and its event is returned and handed to the
event logger at most once.
-/

/-- May the event be logged? -/
def IDSEvent.isLogged (event : IDSEvent) : Bool :=
  event.isRemoved = false ∧ event.status ≠ .ignored

/-- The events the logger is handed among those returned. -/
def PipelineSetup.logged
    (setup : PipelineSetup)
    (returned : List IDSEvent) :
    List IDSEvent :=
  if setup.eventLogger.isSome then
    returned.filter IDSEvent.isLogged
  else
    []

/-- No stage overwrites the error an earlier stage recorded. -/
def PacketTrace.KeepsErrors (trace : PacketTrace) : Prop :=
  trace.events.Pairwise IDSEvent.KeepsError

/-! ### One packet -/

namespace ProcessM

open IDSEvent

/-- The verdict was counted; log and engine have not been reached. -/
structure Counted (before after : Pipeline) : Prop where
  total : after.counts.total = before.counts.total + 1
  loggedEvents : after.loggedEvents = before.loggedEvents
  stats : after.stats = before.stats
  detectionsWritten : after.detectionsWritten = before.detectionsWritten

/-- The verdict and the engine were counted once each. -/
structure Accounts
    (setup : PipelineSetup)
    (before after : Pipeline) : Prop where
  total : after.counts.total = before.counts.total + 1
  events :
    setup.engine.isSome →
    after.stats.eventsEvaluated + after.stats.eventsSkipped =
      before.stats.eventsEvaluated + before.stats.eventsSkipped + 1
  written :
    LogsDetections setup →
    after.detectionsWritten + before.stats.matchCount =
      before.detectionsWritten + after.stats.matchCount

/-- The end of `process`, from a pipeline that is given with its start. -/
structure Finished
    (setup : PipelineSetup)
    (before : Pipeline)
    (preprocessed : IDSEvent)
    (routed : RoutedEvent)
    (after : Pipeline) : Prop where
  accounts : Accounts setup before after
  logged :
    after.loggedEvents =
      before.loggedEvents ++ setup.logged [routed.returned]
  error : KeepsError preprocessed routed.tracked
  evaluated : routed.returned = routed.tracked

/-- What `process` does to the pipeline, and the trace it leaves. -/
structure Processed
    (setup : PipelineSetup)
    (before : Pipeline)
    (parsed : IDSEvent)
    (trace : PacketTrace)
    (after : Pipeline) : Prop where
  starts : trace.parsed = parsed
  judged : Judged parsed trace.preprocessed
  accounts : Accounts setup before after
  logged :
    after.loggedEvents = before.loggedEvents ++ setup.logged [trace.returned]
  errors : trace.KeepsErrors
  evaluated : trace.returned = trace.tracked

/-- The engine adds its count to the one of the preprocessor. -/
theorem Counted.accounts
    {setup : PipelineSetup}
    {before middle after : Pipeline}
    (counted : Counted before middle)
    (evaluated : Evaluated setup middle after) :
    Accounts setup before after where
  total := by
    rw [evaluated.counts, counted.total]
  events engine := by
    rw [evaluated.events engine, counted.stats]
  written quiet := by
    rw [← counted.stats, ← counted.detectionsWritten]
    exact evaluated.written quiet

/-- Errors are kept along a trace whose stages keep them one by one. -/
theorem keepsErrors_of_stages
    {trace : PacketTrace}
    (decoder : KeepsError trace.parsed trace.decoded)
    (preprocessor : KeepsError trace.decoded trace.preprocessed)
    (tracker : KeepsError trace.preprocessed trace.tracked)
    (engine : trace.returned = trace.tracked) :
    trace.KeepsErrors := by
  have chain : trace.events.IsChain KeepsError := by
    simp only [PacketTrace.events, List.isChain_cons_cons, engine]
    exact ⟨decoder, preprocessor, tracker, .refl _, .singleton _⟩
  have transitive : IsTrans IDSEvent KeepsError :=
    ⟨fun _ _ _ => KeepsError.trans⟩
  exact List.isChain_iff_pairwise.mp chain

/-- A removed event is counted by the engine and not logged. -/
theorem finishRemoved_returns
    {setup : PipelineSetup}
    {before : Pipeline}
    {start : Processing}
    (counted : Counted before start.pipeline)
    (removed : start.event.isRemoved = true)
    (call : PacketCall) :
    Returns (finishRemoved setup call) start
      (fun routed after =>
        Finished setup before start.event routed after.pipeline) := by
  refine .bind (ends_writeEvent (.bind (ends_currentEvent ?_)))
  refine .bind ((engineStage_returns setup call _).mono
    fun _ final ⟨sameEvent, evaluated⟩ => ?_)
  refine .bind (ends_currentEvent (.pure ?_))
  refine ⟨counted.accounts evaluated, ?_, .refl start.event, sameEvent⟩
  have stillRemoved : final.event.isRemoved = true := by
    rw [sameEvent]
    exact removed
  rw [evaluated.loggedEvents, counted.loggedEvents]
  simp [PipelineSetup.logged, isLogged, stillRemoved]

/-- Any other event is tracked, counted by the engine and logged. -/
theorem finishTracked_returns
    {setup : PipelineSetup}
    {before : Pipeline}
    {start : Processing}
    (counted : Counted before start.pipeline)
    (kept : start.event.isRemoved = false)
    (call : PacketCall) :
    Returns (finishTracked setup call) start
      (fun routed after =>
        Finished setup before start.event routed after.pipeline) := by
  refine .bind ((trackerStage_returns setup call start).mono
    fun _ tracked tracking => .bind (ends_currentEvent ?_))
  refine .bind ((engineStage_returns setup call tracked).mono
    fun _ final ⟨sameEvent, evaluated⟩ => ?_)
  refine .bind ((loggingStage_returns setup final).mono
    fun _ after logging => .bind (ends_currentEvent (.pure ?_)))
  subst logging
  obtain ⟨tracker, trackedPipeline⟩ := tracking.pipeline
  have stillCounted : Counted before tracked.pipeline := by
    rw [trackedPipeline]
    exact ⟨counted.total, counted.loggedEvents, counted.stats,
      counted.detectionsWritten⟩
  have accounted := stillCounted.accounts evaluated
  refine ⟨⟨accounted.total, accounted.events, accounted.written⟩, ?_,
    tracking.error, sameEvent⟩
  have stillKept : final.event.isRemoved = false := by
    rw [← kept, sameEvent]
    simp only [isRemoved, tracking.action]
  simp only [evaluated.loggedEvents, stillCounted.loggedEvents]
  by_cases ignored : final.event.status = .ignored <;>
    simp [PipelineSetup.handed, PipelineSetup.logged, isLogged, stillKept,
      ignored]

/-- After the parser, processing a packet returns, with one outcome. -/
theorem processParsed_returns
    (setup : PipelineSetup)
    (call : PacketCall)
    (start : Processing) :
    Returns (processParsed setup call) start
      (fun trace after =>
        Processed setup start.pipeline start.event trace
          after.pipeline) := by
  refine .bind (ends_currentEvent ?_)
  refine .bind ((decoderStage_returns call start).mono
    fun _ decoded decoding => .bind (ends_currentEvent ?_))
  refine .bind ((preprocessorStage_returns setup call decoded).mono
    fun _ judged judging => .bind (ends_currentEvent ?_))
  refine .bind ((countVerdict_returns judged).mono
    fun _ after counting => ?_)
  have counted : Counted start.pipeline after.pipeline := by
    rw [counting, ← decoding.pipeline, ← judging.pipeline]
    exact ⟨judged.pipeline.counts.total_add judging.event.verdict,
      rfl, rfl, rfl⟩
  have sameEvent : after.event = judged.event := by
    rw [counting]
  have finished :
      ∀ routed final,
        Finished setup start.pipeline after.event routed
          final →
        Processed setup start.pipeline start.event
          { parsed := start.event
            decoded := decoded.event
            preprocessed := judged.event
            tracked := routed.tracked
            returned := routed.returned } final := by
    intro routed final finished
    rw [sameEvent] at finished
    exact ⟨rfl,
      ⟨decoding.event.trans judging.event.toPreserved,
        judging.event.verdict⟩,
      finished.accounts, finished.logged,
      keepsErrors_of_stages decoding.event.error judging.event.error
        finished.error finished.evaluated, finished.evaluated⟩
  change Returns (ite (judged.event.isRemoved = true) _ _) after _
  split <;> rename_i removed <;> rw [← sameEvent] at removed
  · exact .bind ((finishRemoved_returns counted removed call).mono
      fun routed final done => finished routed final.pipeline done)
  · exact .bind ((finishTracked_returns counted
      (Bool.eq_false_iff.mpr removed) call).mono
        fun routed final done => finished routed final.pipeline done)

end ProcessM

/-! ### Whole runs -/

namespace Pipeline

open ProcessM

/-- `process` returns, with one outcome. -/
theorem process_returns
    (setup : PipelineSetup)
    (pipeline : Pipeline)
    (call : PacketCall) :
    ∃ trace after,
      process setup pipeline call = (after, .ok trace) ∧
        Processed setup pipeline (parserStage setup call) trace after := by
  obtain ⟨trace, after, ran, processed⟩ :=
    (processParsed_returns setup call
      ⟨pipeline, parserStage setup call⟩).exists_eq
  exact ⟨trace, after.pipeline, by simp only [process, ran], processed⟩

/-- The books of a pipeline after some calls and the traces they left. -/
structure Books
    (setup : PipelineSetup)
    (pipeline : Pipeline)
    (calls : List PacketCall)
    (traces : List PacketTrace) : Prop where
  parsed : traces.map PacketTrace.parsed = calls.map (parserStage setup)
  counted : pipeline.counts.total = calls.length
  logged :
    pipeline.loggedEvents = setup.logged (traces.map PacketTrace.returned)
  errors : ∀ trace ∈ traces, trace.KeepsErrors
  evaluated : ∀ trace ∈ traces, trace.returned = trace.tracked
  events :
    setup.engine.isSome →
    pipeline.stats.eventsEvaluated + pipeline.stats.eventsSkipped =
      calls.length
  written :
    LogsDetections setup →
    pipeline.detectionsWritten = pipeline.stats.matchCount

/-- One more call keeps the books. -/
theorem Books.process
    {setup : PipelineSetup}
    {before after : Pipeline}
    {calls : List PacketCall}
    {traces : List PacketTrace}
    {call : PacketCall}
    {trace : PacketTrace}
    (books : Books setup before calls traces)
    (processed :
      Processed setup before (parserStage setup call) trace after) :
    Books setup after (calls ++ [call]) (traces ++ [trace]) where
  parsed := by
    simp [books.parsed, processed.starts]
  counted := by
    rw [processed.accounts.total, books.counted, List.length_append]
    rfl
  logged := by
    rw [processed.logged, books.logged, List.map_append]
    simp only [PipelineSetup.logged]
    split <;> simp
  errors := by
    refine List.forall_mem_append.mpr ⟨books.errors, ?_⟩
    simpa using processed.errors
  evaluated := by
    refine List.forall_mem_append.mpr ⟨books.evaluated, ?_⟩
    simpa using processed.evaluated
  events engine := by
    rw [processed.accounts.events engine, books.events engine,
      List.length_append]
    rfl
  written quiet := by
    have before := books.written quiet
    have step := processed.accounts.written quiet
    omega

/-- Every call returned, and the traces agree with the books. -/
def AllReturned
    (setup : PipelineSetup)
    (pipeline : Pipeline)
    (calls : List PacketCall)
    (produced : List (Except PyException PacketTrace)) :
    Prop :=
  ∃ traces : List PacketTrace,
    produced = traces.map .ok ∧ Books setup pipeline calls traces

/-- In every run all calls return. -/
theorem allReturned_run
    (setup : PipelineSetup)
    (calls : List PacketCall) :
    let served := StepRuns.run (process setup) fresh calls
    AllReturned setup served.1 calls served.2 := by
  intro served
  refine StepRuns.history_of_run ?_ ?_
  · refine ⟨[], rfl, rfl, rfl, ?_, by simp, by simp, fun _ => rfl,
      fun _ => rfl⟩
    simp only [PipelineSetup.logged]
    split <;> rfl
  · rintro pipeline calls produced call ⟨traces, rfl, books⟩
    obtain ⟨trace, after, ran, processed⟩ :=
      process_returns setup pipeline call
    refine ⟨traces ++ [trace], ?_, ?_⟩
    · simp [ran]
    · rw [ran]
      exact books.process processed

/--
Whatever the stages raise in whatever calls, every call returns an event and
every packet has one outcome: it is counted once by its verdict and once by the
engine, its event is handed to the event logger if and only if it was neither
removed by the policy nor ignored, no recorded error is overwritten, and with a
detection logger that never raises every match is written.
-/
theorem process_outcomes
    (setup : PipelineSetup)
    (calls : List PacketCall) :
    let served := StepRuns.run (process setup) fresh calls
    ∃ traces : List PacketTrace,
      served.2 = traces.map .ok ∧
        traces.map PacketTrace.parsed = calls.map (parserStage setup) ∧
        served.1.counts.total = calls.length ∧
        served.1.loggedEvents =
          (if setup.eventLogger.isSome then
            (traces.map PacketTrace.returned).filter fun event =>
              event.processingAction ≠ some .skipped ∧
                event.processingAction ≠ some .dropped ∧
                event.status ≠ .ignored
          else
            []) ∧
        (∀ trace ∈ traces,
          trace.events.Pairwise fun earlier later =>
            ∀ info,
              earlier.errorInfo = some info →
              later.errorInfo = some info) ∧
        (setup.engine.isSome →
          served.1.stats.eventsEvaluated + served.1.stats.eventsSkipped =
            calls.length) ∧
        (∀ logger,
          setup.detectionLogger = some logger →
          (∀ earlier detection, logger earlier detection = .ok ()) →
          served.1.detectionsWritten = served.1.stats.matchCount) := by
  intro served
  obtain ⟨traces, returned, books⟩ := allReturned_run setup calls
  refine ⟨traces, returned, books.parsed, books.counted, ?_, books.errors,
    books.events,
    fun logger present quiet => books.written ⟨logger, present, quiet⟩⟩
  rw [books.logged]
  simp only [PipelineSetup.logged]
  have sameTest :
      IDSEvent.isLogged = fun event =>
        decide (event.processingAction ≠ some .skipped ∧
          event.processingAction ≠ some .dropped ∧
          event.status ≠ .ignored) := by
    funext event
    simp [IDSEvent.isLogged, IDSEvent.isRemoved, and_assoc]
  rw [sameTest]

end Pipeline

end IntrusionDetection
