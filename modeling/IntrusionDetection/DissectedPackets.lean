import IntrusionDetection.OutputAgreement
import IntrusionDetection.PacketLayers

namespace IntrusionDetection

open PyText GuardedSteps

/-!
# What becomes of a packet

The pipeline on the parsers of the layers.  How far the parser gets with a
packet decides what can become of it: only an event whose transport header was
read can join a flow, and a malformed packet keeps the error of the parser that
refused it, whatever goes wrong after it.
-/

/-- A packet of bytes that the parsers of the layers take apart. -/
structure PacketCall.Dissects
    (call : PacketCall)
    (library : PacketLibrary)
    (applications : ApplicationParsers)
    (data : Bytes) :
    Prop where
  parsers : call.parsers = layerParsers library applications
  raw : call.raw = .bytesLike data

/-- A malformed event is judged invalid, as `validate` does first of all. -/
def PreprocessorSteps.RefusesMalformed (steps : PreprocessorSteps) : Prop :=
  ∀ event status reasons,
    event.status = .malformed →
      steps.validate event = .ok (status, reasons) → status = .invalid

/-- The first stage ends at some layer, and never in its fallback. -/
theorem finishes_parserStage
    (setup : PipelineSetup)
    {call : PacketCall}
    {library : PacketLibrary}
    {applications : ApplicationParsers}
    {data : Bytes}
    (dissects : call.Dissects library applications data) :
    ∃ reached,
      (parserStage setup call).Reaches reached ∧
        (parserStage setup call).SameStart
          (IDSEvent.new call.packetId call.timestamp data.length) := by
  obtain ⟨event, reached, parsed, reaches, same⟩ :=
    finishes_parsePacketLayers library applications call.timestamp data
      call.packetId setup.getUnknownPolicy
  have isEvent : parserStage setup call = event := by
    rw [parserStage, dissects.parsers, dissects.raw, parsed]
  rw [isEvent]
  exact ⟨reached, reaches, same⟩

/-- The verdict on the event is invalid. -/
def IDSEvent.IsInvalid (event : IDSEvent) : Prop :=
  event.preprocessStatus = some .invalid

/-- Recording an error leaves the verdict. -/
theorem IDSEvent.IsInvalid.recordError
    {event : IDSEvent}
    (invalid : event.IsInvalid)
    (layer detail : Str) :
    (event.recordError layer detail).IsInvalid := by
  rw [recordError_eq]
  exact invalid

/-- Adding reasons leaves the verdict. -/
theorem IDSEvent.IsInvalid.addReasons
    {event : IDSEvent}
    (invalid : event.IsInvalid)
    (reasons : List Str) :
    (event.addReasons reasons).IsInvalid := by
  obtain ⟨all, added⟩ := addReasons_eq event reasons
  rw [added]
  exact invalid

namespace ProcessM

open IDSEvent

/-- The fallback judges the event invalid. -/
theorem isInvalid_preprocessorFallback (event : IDSEvent) :
    (preprocessorFallback event).IsInvalid := by
  have invalid : (event.withVerdict .invalid .flagged).IsInvalid :=
    rfl
  exact invalid.addReasons [lit "preprocessor_error"]

/-- The policies do not change an invalid verdict. -/
theorem preserves_applyPolicies_invalid
    (cfg : Option PreprocessorCfg)
    (reasons : List Str)
    (hasNormalizations hasDefaults : Bool) :
    Preserves IsInvalid
      (applyPolicies cfg .invalid reasons hasNormalizations
        hasDefaults) := by
  cases cfg with
  | none =>
      exact .throw _
  | some cfg =>
      have stillInvalid :
          (policyVerdict cfg .invalid reasons hasNormalizations
            hasDefaults).1 = .invalid := by
        rw [policyVerdict, if_pos rfl]
        split <;> rfl
      exact .modify fun _ _ => congrArg some stillInvalid

/-- Preprocessing leaves a malformed event invalid, wherever it stops. -/
theorem leaves_preprocessEvent_malformed
    {steps : PreprocessorSteps}
    (refuses : steps.RefusesMalformed)
    (cfg : Option PreprocessorCfg)
    {event : IDSEvent}
    (malformed : event.status = .malformed) :
    Leaves (preprocessEvent steps cfg) event IsInvalid := by
  refine .bind (.modify (.bind (.get (.bind (.ofExcept ?_ ?_)))))
  · intro validated isValidated
    obtain ⟨status, reasons⟩ := validated
    obtain rfl :=
      refuses (event.withVerdict .invalid .flagged) _ _ malformed
        isValidated
    refine Preserves.bind
      (.modify fun _ invalid => invalid.addReasons reasons)
      (fun _ => .bind (.pure false) fun _ => .bind .get
        fun judged => ?_) _ rfl
    rcases steps.fillDefaults judged with ⟨fields, outcome⟩
    refine .bind (.modify fun _ invalid => invalid) fun _ => ?_
    refine .bind (.ofExcept outcome) fun _ => ?_
    exact .bind .get fun _ => preserves_applyPolicies_invalid _ _ _ _
  · intro _ _
    rfl

/-- The preprocessor stage leaves a malformed event invalid. -/
theorem preprocessorStage_malformed
    (setup : PipelineSetup)
    {call : PacketCall}
    (refuses : call.preprocessor.RefusesMalformed)
    {start : Processing}
    (malformed : start.event.status = .malformed) :
    Returns (preprocessorStage setup call) start
      (fun _ after => after.event.IsInvalid) := by
  have called := leaves_callStage
    (leaves_onEvent (leaves_preprocessEvent_malformed refuses
      setup.preprocessorCfg malformed))
    (fun _ layer detail left =>
      ⟨left.pipeline, left.event.recordError layer detail⟩)
    (lit "preprocessor") call.escapes.preprocessor
  refine Leaves.returns_of_handled (fun after => after.event.IsInvalid)
    ?_ (fun _ invalid => invalid) ?_
  · refine .bind (called.mono (fun _ after left => ?_)
      (fun _ _ left => left.event))
    refine .bind (ends_currentEvent ?_)
    split
    · exact isInvalid_preprocessorFallback after.event
    · exact left.event
  · intro exception after _
    exact (isInvalid_preprocessorFallback after.event).recordError _ _

/-- A malformed event is invalid by the time it could reach the tracker. -/
theorem processParsed_malformed
    (setup : PipelineSetup)
    {call : PacketCall}
    (ownTracker : call.trackerFault = none)
    (refuses : call.preprocessor.RefusesMalformed)
    {start : Processing}
    (malformed : start.event.status = .malformed) :
    Returns (processParsed setup call) start
      (fun trace _ => trace.preprocessed.IsInvalid) := by
  refine .bind (ends_currentEvent ?_)
  refine .bind ((decoderStage_returns call start).mono
    fun _ decoded decoding => .bind (ends_currentEvent ?_))
  have stillMalformed : decoded.event.status = .malformed :=
    decoding.event.status.trans malformed
  refine .bind ((preprocessorStage_malformed setup refuses
    stillMalformed).mono
      fun _ judged invalid => .bind (ends_currentEvent ?_))
  refine .bind ((countVerdict_returns judged).mono
    fun _ counted counting => ?_)
  have sameEvent : counted.event = judged.event := by
    rw [counting]
  have stillInvalid : counted.event.IsInvalid := by
    rw [sameEvent]
    exact invalid
  change Returns (ite (judged.event.isRemoved = true) _ _) counted _
  split <;> rename_i removed
  · rw [← sameEvent] at removed
    exact .bind ((finishRemoved_inert setup call removed).mono
      fun _ _ _ => invalid)
  · exact .bind ((finishTracked_inert setup ownTracker
      stillInvalid).mono fun _ _ _ => invalid)

end ProcessM

/-- The tracker gives an event without a source port no place. -/
theorem FlowTracker.serve_of_noPort
    (setup : TrackerSetup)
    (tracker : FlowTracker)
    {event : IDSEvent}
    (noPort : event.srcPort = none) :
    (tracker.serve setup (.update event.view)).2 = none := by
  have viewPort : event.view.srcPort = none := noPort
  have selectsNothing :
      ∀ timestamp transProto,
        event.view.select timestamp transProto = none := by
    intro timestamp transProto
    unfold EventView.select
    split
    · rfl
    · split
      · rename_i isPort _
        rw [viewPort] at isPort
        cases isPort
      · rfl
  have filtersOut : event.view.filter = .ok none :=
    congrArg Except.ok (selectsNothing _ _)
  rw [serve, update, filtersOut]
  rfl

namespace Pipeline

open ProcessM

/-- An event that the parser gave no source port joins no flow. -/
theorem flowId_of_noPort
    {setup : PipelineSetup}
    {pipeline after : Pipeline}
    {call : PacketCall}
    (keeps : call.KeepsTracker)
    {trace : PacketTrace}
    (processed : pipeline.process setup call = (after, .ok trace))
    (noPort : trace.preprocessed.srcPort = none) :
    trace.returned.flowId = none := by
  obtain ⟨routedTrace, final, ran, routed⟩ :=
    (@processParsed_routes setup call keeps
      ⟨pipeline, parserStage setup call⟩
      (flowId_parserStage setup call)).exists_eq
  simp only [process, ran] at processed
  cases processed
  have noOutput :
      ∀ flowId,
        worthOfOutputs
            (StepRuns.run (FlowTracker.serve setup.trackerSetup)
              pipeline.tracker trace.trackerCalls).2 flowId .packets =
          0 := by
    intro flowId
    rw [PacketTrace.trackerCalls]
    split
    · rfl
    · rw [StepRuns.run_cons, FlowTracker.serve_of_noPort _ _ noPort]
      rfl
  by_contra hasFlow
  obtain ⟨flowId, isFlow⟩ := Option.ne_none_iff_exists'.mp hasFlow
  have worthless := (routed.worth flowId .packets).symm.trans
    (noOutput flowId)
  exact (worthOfEvents_packets [trace.returned] flowId).mpr
    ⟨_, List.mem_singleton_self _, isFlow⟩ worthless

/-- A malformed event joins no flow. -/
theorem flowId_of_malformed
    {setup : PipelineSetup}
    {pipeline after : Pipeline}
    {call : PacketCall}
    (ownTracker : call.trackerFault = none)
    (refuses : call.preprocessor.RefusesMalformed)
    {trace : PacketTrace}
    (processed : pipeline.process setup call = (after, .ok trace))
    (malformed : (parserStage setup call).status = .malformed) :
    trace.returned.flowId = none := by
  obtain ⟨refusedTrace, final, ran, invalid⟩ :=
    (@processParsed_malformed setup call ownTracker refuses
      ⟨pipeline, parserStage setup call⟩ malformed).exists_eq
  obtain ⟨_, _, again, inert⟩ :=
    (processParsed_inert setup ownTracker
      ⟨pipeline, parserStage setup call⟩).exists_eq
  rw [ran] at again
  cases again
  simp only [process, ran] at processed
  cases processed
  exact (inert (Or.inl invalid)).unattached.flowId

/--
From whatever state, a packet of bytes is parsed up to some layer and returned.
A malformed packet is returned with the error of the parser that refused it,
and only an event whose transport header was read has joined a flow.
-/
theorem process_dissected
    (setup : PipelineSetup)
    (pipeline : Pipeline)
    {call : PacketCall}
    {library : PacketLibrary}
    {applications : ApplicationParsers}
    {data : Bytes}
    (dissects : call.Dissects library applications data)
    (keeps : call.KeepsTracker)
    (refuses : call.preprocessor.RefusesMalformed) :
    ∃ trace reached,
      (pipeline.process setup call).2 = .ok trace ∧
        trace.parsed.Reaches reached ∧
        trace.parsed.SameStart
          (IDSEvent.new call.packetId call.timestamp data.length) ∧
        (∀ layer,
          reached = .malformed layer →
            layer ∈ layerNames ∧
              ∃ detail,
                trace.returned.errorInfo = some { layer, detail }) ∧
        ∀ flowId,
          trace.returned.flowId = some flowId →
            ∃ protocol srcPort dstPort,
              reached = .transport protocol srcPort dstPort := by
  obtain ⟨reached, reaches, same⟩ := finishes_parserStage setup dissects
  obtain ⟨trace, after, ran, processed⟩ :=
    process_returns setup pipeline call
  have isParsed := processed.starts
  have noFlow :
      (parserStage setup call).srcPort = none →
        trace.returned.flowId = none :=
    fun noPort =>
      flowId_of_noPort keeps ran (processed.judged.srcPort.trans noPort)
  have returned : (pipeline.process setup call).2 = .ok trace := by
    rw [ran]
  refine ⟨trace, reached, returned, isParsed ▸ reaches, isParsed ▸ same,
    ?_, ?_⟩
  · rintro layer rfl
    cases reaches with
    | malformed info isMalformed isInfo isLayer =>
        refine ⟨isLayer, info.detail, ?_⟩
        have kept :=
          (List.pairwise_cons.mp processed.errors).1 trace.returned
            (by simp)
        rw [← isParsed] at isInfo
        exact kept info isInfo
  · intro flowId isFlow
    have notNone : trace.returned.flowId ≠ none := by
      rw [isFlow]
      exact Option.some_ne_none flowId
    cases reaches with
    | malformed info isMalformed isInfo isLayer =>
        exact absurd
          (flowId_of_malformed keeps.fault refuses ran isMalformed) notNone
    | unknown isUnknown noPort =>
        exact absurd (noFlow noPort) notNone
    | network proto isOk network noTransport noPort =>
        exact absurd (noFlow noPort) notNone
    | transport proto protocol srcPort dstPort isOk network transport =>
        exact ⟨protocol, srcPort, dstPort, rfl⟩

/-- The preprocessor of a plain packet refuses malformed events. -/
theorem refusesMalformed_plainPacket
    (number : Int)
    (ts : Time)
    (data : Bytes) :
    (plainPacket number ts data).preprocessor.RefusesMalformed := by
  intro event status reasons malformed validated
  have isInvalid :
      (if event.status = .malformed then PreprocessStatus.invalid
        else .valid) = .invalid :=
    if_pos malformed
  injection validated with same
  rw [isInvalid] at same
  cases same
  rfl

/-- The segment that opens a connection is read, and has joined a flow. -/
theorem synPacket_dissected :
    ∃ trace protocol srcPort dstPort,
      (fresh.process httpPipeline (synPacket 1 0 50000)).2 = .ok trace ∧
        trace.returned.flowId.isSome = true ∧
        trace.parsed.Reaches (.transport protocol srcPort dstPort) := by
  have joins :
      ((fresh.process httpPipeline (synPacket 1 0 50000)).2.toOption.map
        fun trace => trace.returned.flowId.isSome) = some true := by
    decide +kernel
  obtain ⟨trace, reached, returned, reaches, _, _, transports⟩ :=
    @process_dissected httpPipeline fresh (synPacket 1 0 50000)
      plainLibrary plainApplications (webSegment 50000 0x02 [])
      ⟨rfl, rfl⟩ ⟨rfl, rfl⟩ (refusesMalformed_plainPacket 1 0 _)
  rw [returned] at joins
  have hasFlow : trace.returned.flowId.isSome = true :=
    Option.some.inj joins
  obtain ⟨flowId, isFlow⟩ := Option.isSome_iff_exists.mp hasFlow
  obtain ⟨protocol, srcPort, dstPort, rfl⟩ := transports flowId isFlow
  exact ⟨trace, protocol, srcPort, dstPort, returned, hasFlow, reaches⟩

end Pipeline

end IntrusionDetection
