import IntrusionDetection.Engine
import IntrusionDetection.EvaluatorIndexing
import IntrusionDetection.FlowCurrent

namespace IntrusionDetection

open PyText

/-!
# The flow context of a tracked event

Right after the tracker has updated an event, the engine finds the flow of that
event in the table and evaluates its rules with a context that describes the
flow after this very packet.  It finds none if the update failed or if its own
sweep exported the flow, which takes a sweep that an earlier exception skipped.
-/

namespace Engine

/--
The engine evaluates an event with the context of its own flow: the flow is in
the table, under the id and in the state the update wrote on the event.
-/
def SeesOwnFlow
    (engine : Engine)
    (faults : CallFaults)
    (stats : EvaluationStats)
    (tracker : FlowTracker)
    (returned : IDSEvent) :
    Prop :=
  ∃ flow context,
    tracker.snapshot returned = some flow ∧
      returned.flowId = some flow.flowId ∧
      returned.flowState = some flow.state ∧
      engine.process (some tracker) faults stats returned =
        .ok (engine.evaluator.detect faults stats returned
          (some context)) ∧
      context.flowId = flow.flowId ∧
      context.state = flow.state ∧
      (context.established = true ↔ flow.IsEstablished)

/-- An event whose flow is live is evaluated with the context of that flow. -/
theorem seesOwnFlow_of_live
    {engine : Engine}
    (enabled : engine.evaluator.enabled = true)
    (hasRules : engine.ruleCount ≠ 0)
    {tracker : FlowTracker}
    (settled : tracker.Settled)
    {event : IDSEvent}
    {packet : TrackedPacket}
    (accepted : trackedPacket? event.view = some packet)
    {entry : FlowEntry}
    (live : tracker.table.get? packet.key = some entry)
    (faults : CallFaults)
    (stats : EvaluationStats) :
    engine.SeesOwnFlow faults stats tracker
      (event.withResult (.placed (attachmentOf entry packet) none)) := by
  obtain ⟨found, _, context, built, contextId, contextState, _, _,
      established⟩ :=
    FlowTracker.context_of_live settled accepted live engine.cfg.ports
  refine ⟨entry.flow, context, found, rfl, rfl, ?_, contextId,
    contextState, established⟩
  have hasId :
      (event.withResult
        (.placed (attachmentOf entry packet) none)).flowId =
          some entry.flow.flowId :=
    rfl
  have looked :
      engine.flowContext (some tracker)
          (event.withResult (.placed (attachmentOf entry packet) none)) =
        .ok (some context) := by
    simp only [flowContext, hasId, hasRules, enabled, ne_eq,
      not_false_eq_true, and_self, if_true, found, built]
  rw [process, looked]
  rfl

/--
After every run of updates, an enabled engine with at least one rule evaluates a
tracked event with the context of its own flow if and only if the update of the
event does not fail and its sweep does not export the flow; such a sweep takes
an update of the run that missed one.
-/
theorem process_after_update_iff
    (setup : TrackerSetup)
    (engine : Engine)
    (enabled : engine.evaluator.enabled = true)
    (hasRules : engine.ruleCount ≠ 0)
    (events : List EventView)
    (event : IDSEvent)
    (isTracked : (trackedPacket? event.view).isSome)
    (faults : CallFaults)
    (stats : EvaluationStats) :
    let tracker :=
      (StepRuns.run (FlowTracker.update setup) .fresh events).1
    let updated := tracker.update setup event.view
    (engine.SeesOwnFlow faults stats updated.1
        (event.withResult updated.2) ↔
      tracker.fails setup event.view = false ∧
        tracker.sweepsItself setup event.view = false) ∧
      (StepRuns.always (FlowTracker.update setup)
          (fun tracker event => !tracker.missesSweep setup event)
          .fresh events = true →
        tracker.sweepsItself setup event.view = false) := by
  intro tracker updated
  have settled : tracker.Settled := FlowTracker.settled_run setup events
  have consistent := settled.consistent
  obtain ⟨packet, accepted⟩ := Option.isSome_iff_exists.mp isTracked
  constructor
  · constructor
    · intro seen
      obtain ⟨flow, context, found, _⟩ := seen
      simp only [FlowTracker.snapshot, view_withResult, accepted,
        Option.map_eq_some_iff] at found
      obtain ⟨entry, live, _⟩ := found
      exact (FlowTracker.isSome_update_iff consistent accepted rfl).mp
        (Option.isSome_of_eq_some live)
    · intro condition
      obtain ⟨proceeds, notSwept⟩ := condition
      obtain ⟨entry, placed, live⟩ :=
        FlowTracker.update_placed setup consistent accepted proceeds
      rw [notSwept, if_neg Bool.false_ne_true] at live
      have returned :
          event.withResult updated.2 =
            event.withResult
              (.placed (attachmentOf entry packet) none) := by
        simp only [updated]
        rw [placed]
        rfl
      rw [returned]
      exact seesOwnFlow_of_live enabled hasRules
        (settled.update setup event.view) accepted live faults stats
  · intro onTime
    have timely := FlowTracker.timely_run setup onTime
    exact timely.not_sweepsItself event.view

/-- An engine with one rule and the default settings. -/
def httpEngine : Engine where
  cfg := { ports := some [.int 80] }
  evaluator := .ofRepository
    { rules := [EvaluationEngine.httpRule], frozen := false,
      sidsNodup := by simp } true

/-- A segment of a connection that is being opened. -/
def openingSegment (ts : Time) : IDSEvent :=
  tcpSegment ts ⟨lit "10.0.0.1", 50000⟩ ⟨lit "10.0.0.2", 80⟩ [lit "SYN"]

/-- The context of the first segment of a connection. -/
theorem process_firstSegment :
    let setup : TrackerSetup :=
      { cfg := .empty, onExport := none, digest := id }
    let tracker :=
      (StepRuns.run (FlowTracker.update setup) .fresh []).1
    let updated := tracker.update setup (openingSegment 0).view
    (httpEngine.SeesOwnFlow .none .zero updated.1
        ((openingSegment 0).withResult updated.2) ↔
      tracker.fails setup (openingSegment 0).view = false ∧
        tracker.sweepsItself setup (openingSegment 0).view = false) ∧
      (StepRuns.always (FlowTracker.update setup)
          (fun tracker event => !tracker.missesSweep setup event)
          .fresh [] = true →
        tracker.sweepsItself setup (openingSegment 0).view = false) :=
  process_after_update_iff _ httpEngine rfl (by decide) [] _
    (by decide +kernel) .none .zero

/--
An update that raises moves the clock far ahead and sweeps nothing; the update
of a late segment then exports the flow of this segment.
-/
theorem lateSegment_unseen :
    let setup : TrackerSetup :=
      { cfg := .empty, onExport := none, digest := id }
    let events :=
      [(openingSegment 100).view, FlowTracker.surrogateSyn 1000]
    let tracker :=
      (StepRuns.run (FlowTracker.update setup) .fresh events).1
    let updated := tracker.update setup (openingSegment 101).view
    updated.2.attachment.isSome = true ∧
      ¬ httpEngine.SeesOwnFlow .none .zero updated.1
        ((openingSegment 101).withResult updated.2) := by
  intro setup events tracker updated
  refine ⟨by decide +kernel, ?_⟩
  intro seen
  obtain ⟨flow, _, found, _⟩ := seen
  have gone :
      (updated.1.snapshot
        ((openingSegment 101).withResult updated.2)).isSome = false := by
    decide +kernel
  rw [found] at gone
  cases gone

end Engine

end IntrusionDetection
