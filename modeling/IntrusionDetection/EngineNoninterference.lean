import IntrusionDetection.PipelineOutcomes

namespace IntrusionDetection

open GuardedSteps PyText

/-!
# The engine does not interfere with the stages before it

Two pipelines that differ in nothing but their engine are run on the same
packets.  What the engine does stays in its statistics and in the detections:
flow table, events and exported flows are the same in both runs.
-/

/-- The setup with another engine, or with none. -/
def PipelineSetup.withEngine
    (setup : PipelineSetup)
    (engine : Option Engine) :
    PipelineSetup :=
  { setup with engine }

/-- The pipelines agree on everything the engine does not own. -/
structure Pipeline.Agree (left right : Pipeline) : Prop where
  tracker : left.tracker = right.tracker
  counts : left.counts = right.counts
  loggedEvents : left.loggedEvents = right.loggedEvents

namespace ProcessM

/-- The packets in process agree on everything the engine does not own. -/
structure Agree (left right : Processing) : Prop where
  pipeline : left.pipeline.Agree right.pipeline
  event : left.event = right.event

/-- A computation on the event cannot tell the engines apart. -/
theorem alike_onEvent
    {Value : Type}
    (computation : EventM Value) :
    Alike Agree (onEvent computation) (onEvent computation) :=
  .zoom computation fun _ _ agree =>
    ⟨agree.event, fun _ => ⟨agree.pipeline, rfl⟩⟩

/-- A guarded stage is alike if its body is. -/
theorem alike_callStage
    {left right : ProcessM Unit}
    (stages : Alike Agree left right)
    (layer : Str)
    (escape : Option PyException) :
    Alike Agree (callStage layer left escape)
      (callStage layer right escape) := by
  cases escape with
  | none =>
      exact .tryCatch stages fun _ => alike_onEvent _
  | some exception =>
      exact .bind (.tryCatch stages fun _ => .pure ())
        fun _ => .throw exception

/-- The decoder stage is alike. -/
theorem alike_decoderStage (call : PacketCall) :
    Alike Agree (decoderStage call) (decoderStage call) := by
  refine .bind (alike_onEvent _) fun event => ?_
  refine .ite (fun _ => alike_onEvent _) fun _ => ?_
  exact .tryCatch (alike_callStage (alike_onEvent _) _ _)
    fun _ => alike_onEvent _

section Engines

variable (setup : PipelineSetup) (engine other : Option Engine)
variable (call : PacketCall)

/-- The preprocessor stage is alike. -/
theorem alike_preprocessorStage :
    Alike Agree
      (preprocessorStage (setup.withEngine engine) call)
      (preprocessorStage (setup.withEngine other) call) := by
  refine .tryCatch (.bind (alike_callStage (alike_onEvent _) _ _)
    fun _ => .bind (alike_onEvent _) fun event => ?_)
    fun _ => alike_onEvent _
  exact .ite (fun _ => alike_onEvent _) fun _ => .pure ()

/-- Counting the verdict is alike. -/
theorem alike_countVerdict : Alike Agree countVerdict countVerdict := by
  refine .bind (alike_onEvent _) fun event => ?_
  intro left right agree
  refine .ok ⟨⟨agree.pipeline.tracker, ?_,
    agree.pipeline.loggedEvents⟩, agree.event⟩
  simp only [agree.pipeline.counts]

/-- Updating the tracker is alike. -/
theorem alike_updateTracker (fault : Option TrackerFault) :
    Alike Agree
      (updateTracker (setup.withEngine engine) fault)
      (updateTracker (setup.withEngine other) fault) := by
  rintro left ⟨right, _⟩ ⟨⟨sameTracker, counts, logged⟩, rfl⟩
  cases fault with
  | none =>
      -- The setup of the tracker does not mention the engine.
      have sameUpdate :
          updateOf (setup.withEngine other) ⟨right, left.event⟩ =
            updateOf (setup.withEngine engine) left := by
        rw [updateOf, updateOf, sameTracker]
        rfl
      have agree :
          Agree (updated (setup.withEngine engine) left)
            (updated (setup.withEngine other) ⟨right, left.event⟩) := by
        rw [updated, updated, sameUpdate]
        exact ⟨⟨rfl, counts, logged⟩, rfl⟩
      cases raised :
          (updateOf (setup.withEngine engine) left).2.raised with
      | none =>
          rw [updateTracker_of_returned raised,
            updateTracker_of_returned (sameUpdate ▸ raised)]
          exact .ok agree
      | some exception =>
          rw [updateTracker_of_raised raised,
            updateTracker_of_raised (sameUpdate ▸ raised)]
          exact .error agree
  | some fault =>
      obtain ⟨⟨tracker⟩, event⟩ := left
      obtain rfl : tracker = right.tracker := sameTracker
      exact .error ⟨⟨rfl, counts, logged⟩, rfl⟩

/-- The tracker stage is alike. -/
theorem alike_trackerStage :
    Alike Agree
      (trackerStage (setup.withEngine engine) call)
      (trackerStage (setup.withEngine other) call) :=
  .tryCatch (alike_callStage (alike_updateTracker _ _ _ _) _ _)
    fun _ => alike_onEvent _

/-- The engine stage changes nothing the pipelines agree on. -/
theorem alike_engineStage :
    Alike Agree
      (engineStage (setup.withEngine engine) call)
      (engineStage (setup.withEngine other) call) := by
  refine .of_returns fun left right agree =>
    ⟨_, engineStage_returns _ call left, _,
      engineStage_returns _ call right, ?_⟩
  rintro after final ⟨event, evaluated⟩ ⟨otherEvent, otherEvaluated⟩
  refine ⟨⟨?_, ?_, ?_⟩, by rw [event, otherEvent, agree.event]⟩
  · rw [evaluated.tracker, otherEvaluated.tracker, agree.pipeline.tracker]
  · rw [evaluated.counts, otherEvaluated.counts, agree.pipeline.counts]
  · rw [evaluated.loggedEvents, otherEvaluated.loggedEvents,
      agree.pipeline.loggedEvents]

/-- The logging stage is alike. -/
theorem alike_loggingStage :
    Alike Agree
      (loggingStage (setup.withEngine engine))
      (loggingStage (setup.withEngine other)) := by
  refine .of_returns fun left right agree =>
    ⟨_, loggingStage_returns _ left, _, loggingStage_returns _ right, ?_⟩
  rintro after final rfl rfl
  refine ⟨⟨agree.pipeline.tracker, agree.pipeline.counts, ?_⟩,
    agree.event⟩
  simp only [agree.pipeline.loggedEvents, agree.event]
  rfl

/-- Processing a packet is alike. -/
theorem alike_processParsed :
    Alike Agree
      (processParsed (setup.withEngine engine) call)
      (processParsed (setup.withEngine other) call) := by
  refine .bind (alike_onEvent _) fun parsed => ?_
  refine .bind (alike_decoderStage call) fun _ => ?_
  refine .bind (alike_onEvent _) fun decoded => ?_
  refine .bind (alike_preprocessorStage setup engine other call)
    fun _ => ?_
  refine .bind (alike_onEvent _) fun preprocessed => ?_
  refine .bind alike_countVerdict fun _ => ?_
  refine .ite (fun removed => ?_) fun kept => ?_
  · refine .bind (.bind (alike_onEvent _) fun _ =>
      .bind (alike_onEvent _) fun tracked =>
      .bind (alike_engineStage setup engine other call) fun _ =>
      .bind (alike_onEvent _) fun returned => .pure _) fun _ => .pure _
  · refine .bind (.bind (alike_trackerStage setup engine other call)
      fun _ => .bind (alike_onEvent _) fun tracked =>
      .bind (alike_engineStage setup engine other call) fun _ =>
      .bind (alike_loggingStage setup engine other) fun _ =>
      .bind (alike_onEvent _) fun returned => .pure _) fun _ => .pure _

end Engines

end ProcessM

namespace Pipeline

open ProcessM

variable (setup : PipelineSetup) (engine other : Option Engine)

/-- One call keeps the pipelines in agreement and returns the same trace. -/
theorem Agree.process
    {left right : Pipeline}
    (agree : left.Agree right)
    (call : PacketCall) :
    let served := process (setup.withEngine engine) left call
    let otherServed := process (setup.withEngine other) right call
    served.1.Agree otherServed.1 ∧ served.2 = otherServed.2 := by
  have ended := alike_processParsed setup engine other call
    ⟨left, parserStage (setup.withEngine engine) call⟩
    ⟨right, parserStage (setup.withEngine other) call⟩
    ⟨agree, rfl⟩
  simp only [Pipeline.process]
  generalize processParsed (setup.withEngine engine) call _ = leftEnd
    at ended ⊢
  generalize processParsed (setup.withEngine other) call _ = rightEnd
    at ended ⊢
  cases ended with
  | ok related => exact ⟨related.pipeline, rfl⟩
  | error related => exact ⟨related.pipeline, rfl⟩

/-- Whole runs keep the pipelines in agreement. -/
theorem agree_run (calls : List PacketCall) :
    let served := StepRuns.run (process (setup.withEngine engine)) fresh calls
    let otherServed :=
      StepRuns.run (process (setup.withEngine other)) fresh calls
    served.1.Agree otherServed.1 ∧ served.2 = otherServed.2 := by
  intro served otherServed
  have related :
      served.1.Agree otherServed.1 ∧
        List.Forall₂ Eq served.2 otherServed.2 :=
    StepRuns.simulation_of_step ⟨rfl, rfl, rfl⟩
      fun left right call agree => agree.process setup engine other call
  exact ⟨related.1, List.forall₂_eq_eq_eq ▸ related.2⟩

/--
The rule engine does not interfere: with any engine and any rules raising in
it, or with no engine at all, the same packets give the same events to the event
logger and the same flows to the flow logger, during the run and when the table
is flushed, and `process` returns the same events.  Evaluating an event never
raises, and leaves the event as the flow tracker left it.
-/
theorem engine_noninterference
    (calls : List PacketCall) :
    let served := StepRuns.run (process (setup.withEngine engine)) fresh calls
    let otherServed :=
      StepRuns.run (process (setup.withEngine other)) fresh calls
    served.1.loggedEvents = otherServed.1.loggedEvents ∧
      served.1.loggedFlows setup = otherServed.1.loggedFlows setup ∧
      (served.1.flush (setup.withEngine engine)).loggedFlows setup =
        (otherServed.1.flush (setup.withEngine other)).loggedFlows setup ∧
      served.2 = otherServed.2 ∧
      (∀ trace : PacketTrace,
        .ok trace ∈ served.2 →
        trace.returned = trace.tracked) ∧
      (∀ (engine : Engine) tracker faults stats event,
        ∃ evaluated,
          engine.process tracker faults stats event = .ok evaluated) := by
  intro served otherServed
  obtain ⟨agree, sameTraces⟩ := agree_run setup engine other calls
  refine ⟨agree.loggedEvents, ?_, ?_, sameTraces, ?_, ?_⟩
  · simp only [loggedFlows, agree.tracker, served, otherServed]
  · have sameFlush :
        (served.1.flush (setup.withEngine engine)).tracker =
          (otherServed.1.flush (setup.withEngine other)).tracker := by
      change served.1.tracker.flush setup.trackerSetup =
        otherServed.1.tracker.flush setup.trackerSetup
      rw [agree.tracker]
    simp only [loggedFlows, sameFlush]
  · intro trace member
    obtain ⟨traces, returned, books⟩ :=
      allReturned_run (setup.withEngine engine) calls
    rw [returned] at member
    obtain ⟨other, isTrace, same⟩ := List.mem_map.mp member
    obtain rfl := Except.ok.inj same
    exact books.evaluated _ isTrace
  · intro engine tracker faults stats event
    obtain ⟨ctx, processed⟩ :=
      engine.process_ok tracker faults stats event
    exact ⟨_, processed⟩

end Pipeline

end IntrusionDetection
