import IntrusionDetection.FlowTrackerSteps
import IntrusionDetection.StepRuns
import Mathlib.Algebra.BigOperators.Group.List.Basic

namespace IntrusionDetection

open PyText

/-!
# Conservation of packets

Every packet that gets a place ends up in exactly one exported flow.  The
argument keeps a ledger with one line for each `Flow` object constructed so
far, handed over or still live: an export only permutes the lines, and a packet
with a place changes one line or opens a new one.  An update that fails only
exports, so its packet is on no line.
-/

/-- The counters a flow accumulates over its packets. -/
inductive Counter where
  | packets
  | bytes
  | payloadBytes
  | syn
  | ack
  | fin
  | rst
  deriving Repr, DecidableEq

/-- What a flow has counted. -/
def Flow.tally (flow : Flow) : Counter → Nat
  | .packets => flow.packetCount
  | .bytes => flow.byteCount
  | .payloadBytes => flow.payloadByteCount
  | .syn => flow.synCount
  | .ack => flow.ackCount
  | .fin => flow.finCount
  | .rst => flow.rstCount

namespace EventView

/-- Does the event say that it is a TCP packet? -/
def isTcp (event : EventView) : Bool :=
  match event.transportProtocol with
  | .ok transProto => upper transProto = lit "TCP"
  | .error _ => false

/-- One if the event is a TCP packet with the flag. -/
def flagTally (event : EventView) (name : Str) : Nat :=
  if event.isTcp ∧ name ∈ event.flagSet then 1 else 0

/-- What one tracked event is worth to its flow. -/
def tally (event : EventView) : Counter → Nat
  | .packets => 1
  | .bytes => event.countedLength
  | .payloadBytes => event.countedPayload
  | .syn => event.flagTally (lit "SYN")
  | .ack => event.flagTally (lit "ACK")
  | .fin => event.flagTally (lit "FIN")
  | .rst => event.flagTally (lit "RST")

end EventView

/-- A call of the public interface before the final `flush`. -/
inductive TrackerCall where
  | update (event : EventView)
  | sweep (now : Option Time)

/-- An event that was tracked, with the place it went to. -/
structure TrackedEvent where
  event : EventView
  attachment : Attachment

/-- The event of an update, if it passes the filter. -/
def TrackerCall.accepted? : TrackerCall → Option EventView
  | .update event =>
      if (trackedPacket? event).isSome then some event else none
  | .sweep _ => none

/-- The events of a list of calls that pass the filter of `update`. -/
def trackedEvents (calls : List TrackerCall) : List EventView :=
  calls.filterMap TrackerCall.accepted?

/-- The part of some tracked events that went to one `Flow` object. -/
def attachedTo
    (tracked : List TrackedEvent)
    (serial : Nat) :
    List TrackedEvent :=
  tracked.filter fun item => item.attachment.serial = serial

/-- What some tracked events are worth together. -/
def tallyOf (tracked : List TrackedEvent) (counter : Counter) : Nat :=
  (tracked.map fun item => item.event.tally counter).sum

@[simp] theorem tallyOf_nil (counter : Counter) :
    tallyOf [] counter = 0 :=
  rfl

@[simp] theorem tallyOf_append
    (first second : List TrackedEvent)
    (counter : Counter) :
    tallyOf (first ++ second) counter =
      tallyOf first counter + tallyOf second counter := by
  simp [tallyOf]

@[simp] theorem tallyOf_singleton
    (item : TrackedEvent)
    (counter : Counter) :
    tallyOf [item] counter = item.event.tally counter := by
  simp [tallyOf]

/-- Closing a flow does not change what it has counted. -/
@[simp] theorem tally_closeWith
    (flow : Flow)
    (reason : CloseReason) :
    (flow.closeWith reason).tally = flow.tally :=
  rfl

/-- A fresh flow has counted nothing. -/
theorem tally_newFlow
    (flowId : Str)
    (packet : TrackedPacket) :
    (newFlow flowId packet).tally = fun _ => 0 := by
  funext counter
  cases counter <;> rfl

/-- The filter finds TCP exactly where the event says so. -/
theorem flagCount_eq_flagTally
    {event : EventView}
    {packet : TrackedPacket}
    (accepted : trackedPacket? event = some packet)
    (name : Str) :
    flagCount packet.protocol event.flagSet name =
      event.flagTally name := by
  obtain ⟨_, transProto, isName, name⟩ :=
    selected_of_trackedPacket? accepted
  have protocol : packet.protocol = .tcp ↔ event.isTcp = true := by
    simp only [EventView.isTcp, isName, name, decide_eq_true_eq]
    cases packet.protocol <;> decide
  simp only [flagCount, EventView.flagTally, protocol]

/-- A recorded packet adds exactly its worth to the flow. -/
theorem tally_recordPacket
    {event : EventView}
    {packet : TrackedPacket}
    (accepted : trackedPacket? event = some packet)
    (cfg : FlowCfg)
    (entry : FlowEntry)
    (counter : Counter) :
    (recordPacket cfg entry packet event).flow.tally counter =
      entry.flow.tally counter + event.tally counter := by
  have flags := flagCount_eq_flagTally accepted
  have advanced :
      ∀ flags direction,
        (advanceState cfg entry packet.protocol flags direction
          packet.ts).flow.tally = entry.flow.tally := by
    intro flags direction
    funext counter
    simp only [advanceState]
    split <;> cases counter <;> rfl
  have before := congrFun
    (advanced event.flagSet (packetDirection entry packet)) counter
  cases counter <;>
    simp only [recordPacket, countPacket, Flow.tally, EventView.tally,
      flags] at before ⊢ <;>
    rw [before]

namespace FlowTracker

/-! ### The ledger -/

/-- One line of the ledger: a `Flow` object and what it has counted. -/
abbrev Line := Nat × (Counter → Nat)

/-- The line of a live entry. -/
def lineOf (entry : FlowEntry) : Line :=
  (entry.serial, entry.flow.tally)

/-- The lines of the flows handed over so far. -/
def handedLines (tracker : FlowTracker) : List Line :=
  tracker.handed.map fun call => (call.1, call.2.tally)

/-- One line for each `Flow` object, handed over or live. -/
def ledger (tracker : FlowTracker) : List Line :=
  tracker.handedLines ++ tracker.table.values.map lineOf

/-- The ledger without the line of a key. -/
def ledgerWithout (tracker : FlowTracker) (key : FlowKey) : List Line :=
  tracker.handedLines ++ (tracker.table.remove key).values.map lineOf

/-- A live key splits the ledger into its line and the others. -/
theorem ledger_of_live
    {tracker : FlowTracker}
    {key : FlowKey}
    {entry : FlowEntry}
    (live : tracker.table.get? key = some entry) :
    tracker.ledger.Perm (lineOf entry :: tracker.ledgerWithout key) := by
  have values :
      (tracker.table.values.map lineOf).Perm
        (lineOf entry :: (tracker.table.remove key).values.map lineOf) :=
    ((OrderedDict.items_perm_of_get? live).map Prod.snd).map lineOf
  exact (values.append_left _).trans List.perm_middle

/-- An absent key has no line. -/
theorem ledgerWithout_of_absent
    {tracker : FlowTracker}
    {key : FlowKey}
    (absent : tracker.table.get? key = none) :
    tracker.ledgerWithout key = tracker.ledger := by
  simp only [ledgerWithout, ledger,
    OrderedDict.remove_of_get?_none absent]

/-- A stored entry replaces the line of its key. -/
theorem ledger_store
    (tracker : FlowTracker)
    (key : FlowKey)
    (entry : FlowEntry) :
    (tracker.store key entry).ledger.Perm
      (lineOf entry :: tracker.ledgerWithout key) := by
  have values :
      (tracker.store key entry).table.values.map lineOf =
        (tracker.table.remove key).values.map lineOf ++
          [lineOf entry] := by
    simp [store, OrderedDict.values, OrderedDict.items_insertLast]
  have lines :
      (tracker.store key entry).ledger =
        tracker.ledgerWithout key ++ [lineOf entry] := by
    simp only [ledger, values, ledgerWithout, List.append_assoc]
    rfl
  rw [lines]
  exact List.perm_append_singleton _ _

/-- The exported flows of a tracker all carry a reason that fits. -/
def ReasonsFit (tracker : FlowTracker) : Prop :=
  ∀ call ∈ tracker.handed,
    ∃ reason,
      call.2.closeReason = some reason ∧ reason.Fits call.2.state

section Callback

variable {setup : TrackerSetup}
variable {callback : List Flow → Flow → Except PyException Unit}
variable (hasCallback : setup.onExport = some callback)

include hasCallback

/-- A hand-over moves one line from the live to the handed flows. -/
theorem ledger_handOver
    {tracker : FlowTracker}
    {entry : FlowEntry}
    (reason : CloseReason)
    (live : tracker.table.get? entry.flow.key = some entry) :
    (tracker.handOver setup entry reason).ledger.Perm
      tracker.ledger := by
  refine List.Perm.trans ?_ (ledger_of_live live).symm
  have lines :
      (tracker.handOver setup entry reason).ledger =
        tracker.handedLines ++ lineOf entry ::
          (tracker.table.remove entry.flow.key).values.map lineOf := by
    simp [ledger, handedLines, handOver, callsOf, hasCallback, lineOf]
  rw [lines]
  exact List.perm_middle

/-- Exports permute the ledger. -/
theorem Exports.ledger_perm
    {tracker final : FlowTracker}
    (exports : Exports setup tracker final) :
    final.ledger.Perm tracker.ledger := by
  induction exports with
  | nil tracker =>
      exact .refl _
  | cons entry reason live fits _ inductionHypothesis =>
      exact inductionHypothesis.trans
        (ledger_handOver hasCallback reason live)

/-- Exports carry fitting reasons. -/
theorem Exports.reasonsFit
    {tracker final : FlowTracker}
    (exports : Exports setup tracker final)
    (before : tracker.ReasonsFit) :
    final.ReasonsFit := by
  induction exports with
  | nil tracker =>
      exact before
  | cons entry reason live fits _ inductionHypothesis =>
      apply inductionHypothesis
      intro call member
      simp only [handed_handOver, callsOf, hasCallback, List.mem_append,
        List.mem_singleton] at member
      rcases member with earlier | isNew
      · exact before call earlier
      · subst isNew
        exact ⟨reason, rfl, fits⟩

end Callback

/-! ### The invariant -/

/-- What the ledger says about the events tracked so far. -/
structure Balanced
    (ledger : List Line)
    (created : Nat)
    (tracked : List TrackedEvent) : Prop where
  serials : (ledger.map Prod.fst).Perm (List.range created)
  attached : ∀ item ∈ tracked, item.attachment.serial < created
  lines :
    ∀ line ∈ ledger, ∀ counter,
      line.2 counter = tallyOf (attachedTo tracked line.1) counter
  total :
    ∀ counter,
      (ledger.map fun line => line.2 counter).sum =
        tallyOf tracked counter

namespace Balanced

variable {ledger other rest : List Line} {created : Nat}
variable {tracked : List TrackedEvent}

/-- The order of the lines does not matter. -/
theorem perm
    (balanced : Balanced ledger created tracked)
    (same : other.Perm ledger) :
    Balanced other created tracked where
  serials := (same.map Prod.fst).trans balanced.serials
  attached := balanced.attached
  lines := fun line member =>
    balanced.lines line (same.mem_iff.mp member)
  total := fun counter =>
    ((same.map fun line => line.2 counter).sum_eq).trans
      (balanced.total counter)

/-- Only the serial of an event decides which lines it belongs to. -/
theorem attachedTo_append_of_ne
    {serial : Nat}
    {item : TrackedEvent}
    (different : item.attachment.serial ≠ serial) :
    attachedTo (tracked ++ [item]) serial = attachedTo tracked serial := by
  simp [attachedTo, List.filter_append, different]

theorem attachedTo_append_same (item : TrackedEvent) :
    attachedTo (tracked ++ [item]) item.attachment.serial =
      attachedTo tracked item.attachment.serial ++ [item] := by
  simp [attachedTo, List.filter_append]

/-- A new line is opened with nothing on it. -/
theorem openLine
    (balanced : Balanced ledger created tracked) :
    Balanced ((created, fun _ => 0) :: ledger) (created + 1) tracked where
  serials := by
    rw [List.range_succ, List.map_cons]
    exact (balanced.serials.cons created).trans
      (List.perm_append_singleton _ _).symm
  attached := fun item member =>
    Nat.lt_succ_of_lt (balanced.attached item member)
  lines := by
    intro line member counter
    rcases List.mem_cons.mp member with isNew | old
    · subst isNew
      have nothing : attachedTo tracked created = [] := by
        simp only [attachedTo, List.filter_eq_nil_iff, decide_eq_true_eq]
        intro item itemMember same
        exact absurd (balanced.attached item itemMember)
          (by omega)
      simp [nothing]
    · exact balanced.lines line old counter
  total := by
    intro counter
    simpa using balanced.total counter

/-- An event is added to the line it is attached to. -/
theorem addTo
    {serial : Nat}
    {counts after : Counter → Nat}
    (balanced : Balanced ((serial, counts) :: rest) created tracked)
    {item : TrackedEvent}
    (own : item.attachment.serial = serial)
    (counted :
      ∀ counter, after counter = counts counter + item.event.tally counter) :
    Balanced ((serial, after) :: rest) created (tracked ++ [item]) where
  serials := balanced.serials
  attached := by
    intro other member
    rcases List.mem_append.mp member with old | isNew
    · exact balanced.attached other old
    · rw [List.mem_singleton.mp isNew, own]
      have listed :
          serial ∈ ((serial, counts) :: rest).map Prod.fst := by simp
      exact List.mem_range.mp (balanced.serials.mem_iff.mp listed)
  lines := by
    intro line member counter
    rcases List.mem_cons.mp member with isOwn | inRest
    · subst isOwn own
      have before :=
        balanced.lines (item.attachment.serial, counts) (by simp) counter
      rw [attachedTo_append_same, tallyOf_append, tallyOf_singleton,
        ← before]
      exact counted counter
    · have serialsNodup :=
        balanced.serials.nodup_iff.mpr List.nodup_range
      have different : item.attachment.serial ≠ line.1 := by
        intro same
        rw [own] at same
        apply (List.nodup_cons.mp serialsNodup).1
        exact List.mem_map.mpr ⟨line, inRest, same.symm⟩
      rw [attachedTo_append_of_ne different]
      exact balanced.lines line (by simp [inRest]) counter
  total := by
    intro counter
    have before := balanced.total counter
    simp only [List.map_cons, List.sum_cons] at before ⊢
    rw [tallyOf_append, tallyOf_singleton, ← before, counted]
    omega

end Balanced

/-- Serve one call; the output is the event if it got a place. -/
def serve
    (setup : TrackerSetup)
    (tracker : FlowTracker) :
    TrackerCall → FlowTracker × Option TrackedEvent
  | .update event =>
      let (next, result) := tracker.update setup event
      (next, result.attachment.map (TrackedEvent.mk event))
  | .sweep now => (tracker.sweep setup now, none)

variable (setup : TrackerSetup) in
/-- Every call keeps every entry under its own key. -/
theorem Consistent.serve
    {tracker : FlowTracker}
    (consistent : tracker.Consistent)
    (call : TrackerCall) :
    (tracker.serve setup call).1.Consistent := by
  cases call with
  | update event =>
      exact consistent.update setup event
  | sweep now =>
      exact consistent.sweep setup now

/-- The invariant of a run: the events with a place are those on the ledger. -/
structure Conserves
    (tracker : FlowTracker)
    (outputs : List (Option TrackedEvent)) : Prop where
  consistent : tracker.Consistent
  balanced :
    Balanced tracker.ledger tracker.created (outputs.filterMap id)
  reasonsFit : tracker.ReasonsFit

section Runs

variable {setup : TrackerSetup}
variable {callback : List Flow → Flow → Except PyException Unit}
variable (hasCallback : setup.onExport = some callback)

include hasCallback

/-- Recording a packet on the entry it was attached to keeps the balance. -/
theorem Attached.balanced
    {observed attached : FlowTracker}
    {packet : TrackedPacket}
    {event : EventView}
    {entry : FlowEntry}
    {tracked : List TrackedEvent}
    (attaching :
      Attached setup observed packet event.flagSet attached entry)
    (consistent : observed.Consistent)
    (accepted : trackedPacket? event = some packet)
    (before : Balanced observed.ledger observed.created tracked) :
    let recorded := recordPacket setup.cfg entry packet event
    Balanced (attached.store packet.key recorded).ledger
      attached.created
      (tracked ++
        [{ event, attachment := attachmentOf recorded packet }]) := by
  intro recorded
  have counted := tally_recordPacket accepted setup.cfg entry
  have own :
      (attachmentOf recorded packet).serial = entry.serial := by
    simp [attachmentOf, recorded]
  have stored :
      (attached.store packet.key recorded).ledger.Perm
        ((entry.serial, recorded.flow.tally) ::
          attached.ledgerWithout packet.key) := by
    have line := ledger_store attached packet.key recorded
    simpa only [lineOf, recorded, recordPacket_serial] using line
  suffices opened :
      Balanced
        ((entry.serial, entry.flow.tally) ::
          attached.ledgerWithout packet.key)
        attached.created tracked from
    (opened.addTo own counted).perm stored
  rcases attaching.exports consistent with
    ⟨same, live⟩ | ⟨roomy, flowId, exports, absent, same, isNew⟩
  · subst same
    exact before.perm (ledger_of_live live).symm
  · subst same isNew
    have room : Balanced roomy.ledger roomy.created tracked := by
      rw [exports.created_eq]
      exact before.perm (exports.ledger_perm hasCallback)
    have opened := room.openLine
    have fresh :
        (newEntry (newFlow flowId packet)
          roomy.created).flow.tally = fun _ => 0 :=
      tally_newFlow flowId packet
    rw [fresh]
    have noLine : roomy.countCreated.table.get? packet.key = none :=
      absent
    rw [ledgerWithout_of_absent noLine]
    exact opened

/-- Attaching a packet exports flows with fitting reasons only. -/
theorem Attached.reasonsFit
    {observed attached : FlowTracker}
    {packet : TrackedPacket}
    {flags : List Str}
    {entry : FlowEntry}
    (attaching : Attached setup observed packet flags attached entry)
    (consistent : observed.Consistent)
    (before : observed.ReasonsFit) :
    attached.ReasonsFit := by
  rcases attaching.exports consistent with
    ⟨same, _⟩ | ⟨roomy, _, exports, _, same, _⟩
  · rw [same]
    exact before
  · rw [same]
    exact exports.reasonsFit hasCallback before

/-- The end of an update only permutes the ledger. -/
theorem ledger_finishUpdate
    {tracker : FlowTracker}
    (consistent : tracker.Consistent)
    (reasonsFit : tracker.ReasonsFit)
    (raised : Option PyException) :
    (tracker.finishUpdate setup raised).ledger.Perm tracker.ledger ∧
      (tracker.finishUpdate setup raised).ReasonsFit := by
  obtain ⟨swept, _, exports, result⟩ :=
    finishUpdate_exports setup consistent raised
  rw [result]
  exact ⟨exports.ledger_perm hasCallback,
    exports.reasonsFit hasCallback reasonsFit⟩

/-- Exports without a new event keep the invariant. -/
theorem Conserves.exports
    {tracker exported : FlowTracker}
    {outputs : List (Option TrackedEvent)}
    (before : tracker.Conserves outputs)
    (exports : Exports setup tracker exported) :
    exported.Conserves (outputs ++ [none]) where
  consistent := exports.consistent before.consistent
  balanced := by
    have nothingNew :
        (outputs ++ [none]).filterMap id = outputs.filterMap id := by
      simp
    rw [nothingNew, exports.created_eq]
    exact before.balanced.perm (exports.ledger_perm hasCallback)
  reasonsFit := exports.reasonsFit hasCallback before.reasonsFit

/-- The update of a tracked packet keeps the invariant. -/
theorem Conserves.track
    {tracker : FlowTracker}
    {outputs : List (Option TrackedEvent)}
    (before : tracker.Conserves outputs)
    {event : EventView}
    {packet : TrackedPacket}
    (accepted : trackedPacket? event = some packet) :
    (tracker.track setup packet event).1.Conserves
      (outputs ++
        [(tracker.track setup packet event).2.attachment.map
          (TrackedEvent.mk event)]) := by
  have observed : (tracker.observe packet.ts).Conserves outputs :=
    ⟨before.consistent, before.balanced, before.reasonsFit⟩
  rcases track_cases setup before.consistent packet event with
    ⟨left, _, exports, result⟩ | ⟨attached, entry, attaching, result⟩
  · rw [result]
    exact observed.exports hasCallback exports
  · have stored := attaching.store_consistent observed.consistent event
    have balanced :=
      attaching.balanced hasCallback observed.consistent accepted
        observed.balanced
    have fits :=
      attaching.reasonsFit hasCallback observed.consistent
        observed.reasonsFit
    obtain ⟨sameLines, sweptFits⟩ :=
      ledger_finishUpdate hasCallback stored fits event.appFault
    rw [result]
    refine ⟨stored.finishUpdate setup _, ?_, sweptFits⟩
    simp only [created_finishUpdate stored, UpdateResult.attachment,
      Option.map_some, List.filterMap_append, List.filterMap_cons,
      List.filterMap_nil, id_eq]
    exact balanced.perm sameLines

/-- Every call keeps the invariant. -/
theorem Conserves.serve
    {tracker : FlowTracker}
    {outputs : List (Option TrackedEvent)}
    (before : tracker.Conserves outputs)
    (call : TrackerCall) :
    (tracker.serve setup call).1.Conserves
      (outputs ++ [(tracker.serve setup call).2]) := by
  cases call with
  | sweep now =>
      obtain ⟨swept, exports, result, _⟩ :=
        sweep_exports setup before.consistent now
      have after := before.exports hasCallback exports
      simp only [FlowTracker.serve, result]
      exact ⟨after.consistent, after.balanced, after.reasonsFit⟩
  | update event =>
      simp only [FlowTracker.serve]
      cases accepted : trackedPacket? event with
      | none =>
          obtain ⟨unchanged, nowhere⟩ :=
            update_ignored setup tracker accepted
          rw [unchanged, nowhere]
          exact before.exports hasCallback (.nil tracker)
      | some packet =>
          rw [update_accepted setup tracker accepted]
          exact before.track hasCallback accepted

/-- The invariant holds after every run of a fresh tracker. -/
theorem conserves_run (calls : List TrackerCall) :
    (StepRuns.run (serve setup) fresh calls).1.Conserves
      (StepRuns.run (serve setup) fresh calls).2 := by
  have initially : fresh.Conserves [] := by
    refine ⟨consistent_fresh, ?_, ?_⟩
    · refine ⟨?_, ?_, ?_, ?_⟩ <;>
        simp [ledger, handedLines, fresh, OrderedDict.values]
    · intro call member
      simp [fresh] at member
  have preserved :
      ∀ (tracker : FlowTracker) (calls : List TrackerCall) outputs call,
        tracker.Conserves outputs →
        (tracker.serve setup call).1.Conserves
          (outputs ++ [(tracker.serve setup call).2]) :=
    fun _ _ _ call before => before.serve hasCallback call
  exact StepRuns.history_of_run initially preserved

end Runs

/-! ### Which events get a place -/

/-- Does the call update an event that then gets no place? -/
def failsCall
    (setup : TrackerSetup)
    (tracker : FlowTracker) :
    TrackerCall → Bool
  | .update event => tracker.fails setup event
  | .sweep _ => false

/-- Only an update of an accepted event fails. -/
theorem accepted_of_failsCall
    {setup : TrackerSetup}
    {tracker : FlowTracker}
    {call : TrackerCall}
    (failing : tracker.failsCall setup call = true) :
    call.accepted?.isSome = true := by
  cases call with
  | sweep now =>
      cases failing
  | update event =>
      simp only [failsCall, fails] at failing
      simp only [TrackerCall.accepted?]
      cases accepted : trackedPacket? event with
      | none =>
          simp [accepted] at failing
      | some packet =>
          rfl

variable (setup : TrackerSetup) in
/-- An accepted event gets a place unless its update fails. -/
theorem event_serve
    {tracker : FlowTracker}
    (consistent : tracker.Consistent)
    (call : TrackerCall) :
    (tracker.serve setup call).2.map TrackedEvent.event =
      if tracker.failsCall setup call then none else call.accepted? := by
  cases call with
  | sweep now =>
      rfl
  | update event =>
      simp only [serve, TrackerCall.accepted?, Option.map_map]
      cases accepted : trackedPacket? event with
      | none =>
          rw [(update_ignored setup tracker accepted).2]
          simp
      | some packet =>
          have failing :
              tracker.failsCall setup (.update event) = true ↔
                (tracker.track setup packet event).2.attachment = none :=
            fails_iff setup consistent accepted
          rw [update_accepted setup tracker accepted]
          cases place :
              (tracker.track setup packet event).2.attachment with
          | none =>
              rw [if_pos (failing.mpr place)]
              rfl
          | some attachment =>
              have notFailing :
                  tracker.failsCall setup (.update event) ≠ true := by
                rw [ne_eq, failing, place]
                exact Option.some_ne_none attachment
              rw [if_neg notFailing]
              rfl

/--
The events with a place are some of the events that pass the filter, and they
are all of them exactly if no update fails.
-/
theorem placed_run
    (setup : TrackerSetup)
    (calls : List TrackerCall) :
    let served := StepRuns.run (serve setup) fresh calls
    let placed := served.2.filterMap id
    (placed.map TrackedEvent.event).Sublist (trackedEvents calls) ∧
      (placed.map TrackedEvent.event = trackedEvents calls ↔
        StepRuns.always (serve setup)
          (fun tracker call => !tracker.failsCall setup call)
          fresh calls = true) := by
  have consistent (calls : List TrackerCall) :
      (StepRuns.run (serve setup) fresh calls).1.Consistent :=
    StepRuns.invariant_of_step consistent_fresh
      fun _ call _ before => before.serve setup call
  induction calls using List.reverseRecOn with
  | nil =>
      exact ⟨.refl _, iff_of_true rfl rfl⟩
  | append_singleton calls call inductionHypothesis =>
      obtain ⟨sublist, allPlaced⟩ := inductionHypothesis
      have last := event_serve setup (consistent calls) call
      have lastAccepted :
          (StepRuns.run (serve setup) fresh calls).1.failsCall setup
              call = true →
            call.accepted?.isSome = true :=
        accepted_of_failsCall
      have acceptedNow :
          trackedEvents (calls ++ [call]) =
            trackedEvents calls ++ call.accepted?.toList := by
        cases accepted : call.accepted? <;>
          simp [trackedEvents, List.filterMap_append, accepted]
      have placedNow (outputs : List (Option TrackedEvent)) (output) :
          ((outputs ++ [output]).filterMap id).map TrackedEvent.event =
            (outputs.filterMap id).map TrackedEvent.event ++
              (output.map TrackedEvent.event).toList := by
        cases output <;> simp
      simp only [StepRuns.run_snoc, StepRuns.always_snoc, placedNow,
        acceptedNow, last]
      cases failing :
          (StepRuns.run (serve setup) fresh calls).1.failsCall setup
            call with
      | false =>
          simp only [Bool.false_eq_true, if_false, Bool.not_false,
            Bool.and_true, List.append_left_inj]
          exact ⟨sublist.append_right _, allPlaced⟩
      | true =>
          obtain ⟨event, isAccepted⟩ :=
            Option.isSome_iff_exists.mp (lastAccepted failing)
          have shorter := sublist.length_le
          simp only [if_true, isAccepted, Option.toList_none,
            Option.toList_some, List.append_nil, Bool.not_true,
            Bool.and_false, Bool.false_eq_true, iff_false]
          refine ⟨sublist.trans (List.sublist_append_left _ _), ?_⟩
          intro same
          rw [same, List.length_append] at shorter
          simp at shorter

/-- A run of calls, then a flush: what the callback is handed. -/
structure FlushedRun where
  placed : List TrackedEvent
  final : FlowTracker

/-- Serve some calls with a fresh tracker and flush it. -/
def flushedRun (setup : TrackerSetup) (calls : List TrackerCall) :
    FlushedRun :=
  let served := StepRuns.run (serve setup) fresh calls
  { placed := served.2.filterMap id
    final := served.1.flush setup }

/-- Every tracked event is counted, in the flow it went to and in the sums. -/
structure CountsEveryEvent
    (run : FlushedRun)
    (tracked : List EventView) : Prop where
  everyEvent : run.placed.map TrackedEvent.event = tracked
  sums :
    ∀ counter,
      (run.final.handed.map fun call => call.2.tally counter).sum =
        (tracked.map fun event => event.tally counter).sum

/--
Every flow ever created is handed to the callback exactly once, the table ends
empty, every event with a place is counted in exactly one exported flow and
every exported flow carries a reason that fits its final state.  The events
with a place are all tracked events exactly if no update of the run fails.
-/
theorem flush_conserves_iff
    (cfg : FlowCfg)
    (callback : List Flow → Flow → Except PyException Unit)
    (digest : Str → Str)
    (calls : List TrackerCall) :
    let setup : TrackerSetup := ⟨cfg, some callback, digest⟩
    let run := flushedRun setup calls
    let handed := run.final.handed
    ((handed.map Prod.fst).Perm (List.range run.final.created) ∧
        run.final.table.size = 0 ∧
        (∀ item ∈ run.placed,
          (handed.map Prod.fst).count item.attachment.serial = 1) ∧
        (∀ call ∈ handed, ∀ counter,
          call.2.tally counter =
            tallyOf (attachedTo run.placed call.1) counter) ∧
        (∀ call ∈ handed,
          ∃ reason,
            call.2.closeReason = some reason ∧
              reason.Fits call.2.state)) ∧
      (CountsEveryEvent run (trackedEvents calls) ↔
        StepRuns.always (serve setup)
          (fun tracker call => !tracker.failsCall setup call)
          fresh calls = true) := by
  intro setup run handed
  have hasCallback : setup.onExport = some callback := rfl
  have before := conserves_run hasCallback calls
  obtain ⟨exports, emptied⟩ :=
    flush_exports setup before.consistent
  have noItems : run.final.table.items = [] := by
    rw [List.eq_nil_iff_forall_not_mem]
    intro item member
    have live := OrderedDict.get?_eq_some_iff.mpr member
    cases (emptied item.1).symm.trans live
  have onlyHanded : run.final.ledger = run.final.handedLines := by
    simp [ledger, OrderedDict.values, noItems]
  have balanced :
      Balanced run.final.handedLines run.final.created run.placed := by
    have sameCreated :
        run.final.created =
          (StepRuns.run (serve setup) fresh calls).1.created :=
      exports.created_eq
    rw [← onlyHanded, sameCreated]
    exact before.balanced.perm (exports.ledger_perm hasCallback)
  have serials :
      (handed.map Prod.fst).Perm (List.range run.final.created) := by
    simpa [handedLines, Function.comp_def] using balanced.serials
  obtain ⟨_, allPlaced⟩ := placed_run setup calls
  refine ⟨⟨serials, ?_, ?_, ?_,
    exports.reasonsFit hasCallback before.reasonsFit⟩, ?_⟩
  · simp [OrderedDict.size, noItems]
  · intro item member
    rw [serials.count_eq]
    apply List.count_eq_one_of_mem List.nodup_range
    exact List.mem_range.mpr (balanced.attached item member)
  · intro call member counter
    exact balanced.lines (call.1, call.2.tally)
      (List.mem_map.mpr ⟨call, member, rfl⟩) counter
  · rw [← allPlaced]
    constructor
    · exact fun counts => counts.everyEvent
    · intro everyEvent
      refine ⟨everyEvent, fun counter => ?_⟩
      have total := balanced.total counter
      have placed : run.placed.map TrackedEvent.event = trackedEvents calls :=
        everyEvent
      rw [← placed]
      simpa only [handedLines, tallyOf, List.map_map, Function.comp_def]
        using total

/-- A segment from an address with a lone surrogate is counted in no flow. -/
theorem surrogateSyn_uncounted :
    let setup : TrackerSetup :=
      ⟨.empty, some fun _ _ => .ok (), id⟩
    let calls : List TrackerCall := [.update (surrogateSyn 100)]
    trackedEvents calls = [surrogateSyn 100] ∧
      (flushedRun setup calls).final.handed.length = 0 ∧
      ¬ CountsEveryEvent (flushedRun setup calls) (trackedEvents calls) := by
  intro setup calls
  have tracked : trackedEvents calls = [surrogateSyn 100] := rfl
  have nowhere : (flushedRun setup calls).placed.length = 0 := by
    decide +kernel
  refine ⟨tracked, by decide +kernel, fun counts => ?_⟩
  have counted := congrArg List.length counts.everyEvent
  rw [tracked, List.length_map, nowhere] at counted
  cases counted

end FlowTracker

end IntrusionDetection
