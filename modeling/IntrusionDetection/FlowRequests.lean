import IntrusionDetection.FlowConservation
import IntrusionDetection.FlowCurrent

namespace IntrusionDetection

open PyText

/-!
# Requests in any order

The public interface of the tracker is `update`, `sweep` and `flush`, and the
tracker accepts them in any order: a flush in the middle of a run leaves a
tracker that goes on.  A request exports some live flows and, if it is an
update of an event that gets a place, records one packet.
-/

/-- A call of the public interface, at any time. -/
inductive TrackerRequest where
  | update (event : EventView)
  | sweep (now : Option Time)
  | flush

namespace FlowTracker

variable {setup : TrackerSetup}

/-- Answer one request; the output is the event if it got a place. -/
def answer
    (setup : TrackerSetup)
    (tracker : FlowTracker) :
    TrackerRequest → FlowTracker × Option TrackedEvent
  | .update event => tracker.serve setup (.update event)
  | .sweep now => tracker.serve setup (.sweep now)
  | .flush => (tracker.flush setup, none)

/-- An update of an event the filter does not let through changes nothing. -/
theorem answer_ignored
    (tracker : FlowTracker)
    {event : EventView}
    (ignored : trackedPacket? event = none) :
    tracker.answer setup (.update event) = (tracker, none) := by
  obtain ⟨unchanged, nowhere⟩ := update_ignored setup tracker ignored
  simp only [answer, serve, unchanged, nowhere, Option.map_none]

/-- An update of an event that passes the filter tracks its packet. -/
theorem answer_tracked
    (tracker : FlowTracker)
    {event : EventView}
    {packet : TrackedPacket}
    (accepted : trackedPacket? event = some packet) :
    tracker.answer setup (.update event) =
      ((tracker.track setup packet event).1,
        (tracker.track setup packet event).2.attachment.map
          (TrackedEvent.mk event)) := by
  simp only [answer, serve, update_accepted setup tracker accepted]

variable (setup) in
/-- A sweep or a flush only exports, apart from the time of the last sweep. -/
theorem answer_exports
    {tracker : FlowTracker}
    (consistent : tracker.Consistent)
    {request : TrackerRequest}
    (notUpdate : ∀ event, request ≠ .update event) :
    ∃ exported,
      Exports setup tracker exported ∧
        (tracker.answer setup request).2 = none ∧
        (tracker.answer setup request).1.table = exported.table ∧
        (tracker.answer setup request).1.clock = tracker.clock ∧
        (tracker.answer setup request).1.created = tracker.created := by
  cases request with
  | update event =>
      exact (notUpdate event rfl).elim
  | sweep now =>
      obtain ⟨swept, exports, result, _⟩ :=
        sweep_exports setup consistent now
      refine ⟨swept, exports, rfl, ?_, ?_, ?_⟩
      · simp [answer, serve, result]
      · simp [answer, serve, result, exports.clock_eq]
      · simp [answer, serve, result, exports.created_eq]
  | flush =>
      obtain ⟨exports, _⟩ := flush_exports setup consistent
      exact ⟨tracker.flush setup, exports, rfl, rfl,
        exports.clock_eq, exports.created_eq⟩

variable (setup) in
/-- Every request keeps every entry under its own key. -/
theorem Consistent.answer
    {tracker : FlowTracker}
    (consistent : tracker.Consistent)
    (request : TrackerRequest) :
    (tracker.answer setup request).1.Consistent := by
  cases request with
  | update event =>
      exact consistent.update setup event
  | sweep now =>
      exact consistent.sweep setup now
  | flush =>
      exact (flush_exports setup consistent).1.consistent consistent

/-! ### Opening a flow -/

/--
The packet with which a request opens a flow, judged before the request: its
update does not fail, and its key has no entry or one that is expired at the
packet or reused by it.
-/
def opening?
    (setup : TrackerSetup)
    (tracker : FlowTracker) :
    TrackerRequest → Option TrackedPacket
  | .update event =>
      (trackedPacket? event).filter fun packet =>
        !tracker.fails setup event &&
          (joinable setup.cfg packet event.flagSet
            (tracker.table.get? packet.key)).isNone
  | _ => none

/-- What the run of requests records about one of them. -/
structure RequestRecord where
  tracked : Option TrackedEvent
  opened : Option TrackedPacket

/-- Answer a request and record what it did. -/
def answerRecorded
    (setup : TrackerSetup)
    (tracker : FlowTracker)
    (request : TrackerRequest) :
    FlowTracker × RequestRecord :=
  ((tracker.answer setup request).1,
    { tracked := (tracker.answer setup request).2
      opened := tracker.opening? setup request })

/-- The record of a request that tracked nothing. -/
def RequestRecord.quiet : RequestRecord where
  tracked := none
  opened := none

/-- The record of an event that got a place. -/
def placedRecord
    (setup : TrackerSetup)
    (tracker : FlowTracker)
    (event : EventView)
    (attachment : Attachment) :
    RequestRecord where
  tracked := some ⟨event, attachment⟩
  opened := tracker.opening? setup (.update event)

/-- A packet without a place opens no flow. -/
theorem opening?_of_fails
    {tracker : FlowTracker}
    {event : EventView}
    (failing : tracker.fails setup event = true) :
    tracker.opening? setup (.update event) = none := by
  simp [opening?, failing]

variable (setup) in
/--
A request gives one packet a place, or it moves the clock on at most, exports
some flows and records nothing.
-/
theorem answerRecorded_cases
    {tracker : FlowTracker}
    (consistent : tracker.Consistent)
    (request : TrackerRequest) :
    (∃ event packet attachment,
        trackedPacket? event = some packet ∧
          (tracker.track setup packet event).2.attachment =
            some attachment ∧
          tracker.answerRecorded setup request =
            ((tracker.track setup packet event).1,
              tracker.placedRecord setup event attachment)) ∨
      ∃ ts exported,
        Exports setup (tracker.observe ts) exported ∧
          (tracker.answerRecorded setup request).2 = .quiet ∧
          (tracker.answerRecorded setup request).1.table =
            exported.table ∧
          (tracker.answerRecorded setup request).1.clock =
            max tracker.clock ts ∧
          (tracker.answerRecorded setup request).1.created =
            tracker.created := by
  have still : tracker.observe tracker.clock = tracker := by
    simp [observe]
  have onlyExports (notUpdate : ∀ event, request ≠ .update event) :
      ∃ ts exported,
        Exports setup (tracker.observe ts) exported ∧
          (tracker.answerRecorded setup request).2 = .quiet ∧
          (tracker.answerRecorded setup request).1.table =
            exported.table ∧
          (tracker.answerRecorded setup request).1.clock =
            max tracker.clock ts ∧
          (tracker.answerRecorded setup request).1.created =
            tracker.created := by
    obtain ⟨exported, exports, untracked, table, clock, created⟩ :=
      answer_exports setup consistent notUpdate
    have opensNothing : tracker.opening? setup request = none := by
      cases request with
      | update event => exact (notUpdate event rfl).elim
      | sweep now => rfl
      | flush => rfl
    refine ⟨tracker.clock, exported, ?_, ?_, table, ?_, created⟩
    · rw [still]
      exact exports
    · simp [answerRecorded, untracked, opensNothing,
        RequestRecord.quiet]
    · rw [max_self]
      exact clock
  cases request with
  | sweep now =>
      exact Or.inr (onlyExports (by simp))
  | flush =>
      exact Or.inr (onlyExports (by simp))
  | update event =>
      cases accepted : trackedPacket? event with
      | none =>
          refine Or.inr ⟨tracker.clock, tracker, ?_, ?_, ?_, ?_, ?_⟩
          · rw [still]
            exact .nil tracker
          all_goals
            simp [answerRecorded, answer_ignored tracker accepted,
              opening?, accepted, RequestRecord.quiet]
      | some packet =>
          have failing := fails_iff setup consistent accepted
          have answered := @answer_tracked setup tracker _ _ accepted
          rcases track_cases setup consistent packet event with
            ⟨left, exception, exports, result⟩ |
              ⟨attached, entry, attaching, result⟩
          · rw [result] at failing answered
            refine Or.inr ⟨packet.ts, left, exports, ?_, ?_, ?_, ?_⟩
            · simp only [answerRecorded, answered,
                opening?_of_fails (failing.mpr rfl)]
              rfl
            · simp only [answerRecorded, answered]
            · simp only [answerRecorded, answered]
              exact exports.clock_eq
            · simp only [answerRecorded, answered]
              exact exports.created_eq
          · have placed :
                (tracker.track setup packet event).2.attachment =
                  some (attachmentOf
                    (recordPacket setup.cfg entry packet event)
                    packet) := by
              rw [result]
              rfl
            refine Or.inl ⟨event, packet, _, accepted, placed, ?_⟩
            simp only [answerRecorded, answered, placed, placedRecord,
              Option.map_some]

/-- The places the tracked events of a run went to, in order. -/
def attachmentsOf (records : List RequestRecord) : List Attachment :=
  records.filterMap fun record =>
    record.tracked.map TrackedEvent.attachment

/-- The packets that opened a flow in a run, in order. -/
def openingsOf (records : List RequestRecord) : List TrackedPacket :=
  records.filterMap RequestRecord.opened

variable (setup) in
/--
A packet that opens a flow is attached to a new one under its own label; any
other packet with a place is attached to the live flow of its key.
-/
theorem track_opening
    {tracker : FlowTracker}
    (consistent : tracker.Consistent)
    {event : EventView}
    {packet : TrackedPacket}
    (accepted : trackedPacket? event = some packet)
    {attachment : Attachment}
    (placed :
      (tracker.track setup packet event).2.attachment =
        some attachment) :
    (tracker.opening? setup (.update event) = some packet ∧
        attachment.serial = tracker.created ∧
        makeFlowId setup.digest packet.key packet.ts =
          .ok attachment.flowId ∧
        attachment.direction = .forward ∧
        (tracker.track setup packet event).1.created =
          tracker.created + 1) ∨
      (tracker.opening? setup (.update event) = none ∧
        ∃ entry,
          tracker.table.get? packet.key = some entry ∧
            attachment.serial = entry.serial ∧
            attachment.flowId = entry.flow.flowId ∧
            attachment.direction = packetDirection entry packet ∧
            (tracker.track setup packet event).1.created =
              tracker.created) := by
  have observed := consistent.observe packet.ts
  have proceeds : tracker.fails setup event = false := by
    rw [Bool.eq_false_iff, ne_eq, fails_iff setup consistent accepted,
      placed]
    exact Option.some_ne_none attachment
  rcases track_cases setup consistent packet event with
    ⟨left, exception, _, result⟩ | ⟨attached, entry, attaching, result⟩
  · rw [result] at placed
    cases placed
  have stored := attaching.store_consistent observed event
  rw [result] at placed ⊢
  cases placed
  simp only [created_finishUpdate stored, attachmentOf,
    recordPacket_serial, recordPacket_flowId, packetDirection,
    recordPacket_endpointA]
  cases attaching with
  | joined entry live unexpired noReuse =>
      have found : tracker.table.get? packet.key = some entry := live
      have joins : tracker.opening? setup (.update event) = none := by
        simp [opening?, accepted, found,
          joinable_of_unexpired unexpired noReuse]
      exact Or.inr ⟨joins, entry, live, rfl, rfl, rfl, rfl⟩
  | created released flowId release named =>
      obtain ⟨releasing, _⟩ := Attached.release_exports observed release
      have room :=
        makeRoom_exports setup (releasing.consistent observed)
      have sameCreated :
          (released.makeRoom setup).created = tracker.created :=
        (releasing.append room).created_eq
      have nothing :
          joinable setup.cfg packet event.flagSet
            (tracker.table.get? packet.key) = none :=
        (joinable_of_release release :)
      have opens :
          tracker.opening? setup (.update event) = some packet := by
        simp [opening?, accepted, proceeds, nothing]
      exact Or.inl
        ⟨opens, sameCreated, named,
          (directionOf_eq_forward_iff packet.src packet.src).mpr rfl,
          congrArg (· + 1) sameCreated⟩

variable (setup) in
/--
The entry a packet is recorded on was live under its key or is new, and the
only other entries left are those of other keys that were live before.
-/
theorem track_entries
    {tracker : FlowTracker}
    (consistent : tracker.Consistent)
    (packet : TrackedPacket)
    (event : EventView)
    {attachment : Attachment}
    (placed :
      (tracker.track setup packet event).2.attachment =
        some attachment) :
    ∃ entry,
      ((tracker.table.get? packet.key = some entry ∧
            (tracker.track setup packet event).1.created =
              tracker.created) ∨
          ((∃ flowId,
              entry =
                newEntry (newFlow flowId packet) tracker.created) ∧
            (tracker.track setup packet event).1.created =
              tracker.created + 1)) ∧
        attachment =
          attachmentOf (recordPacket setup.cfg entry packet event)
            packet ∧
        ∀ key other,
          (tracker.track setup packet event).1.table.get? key =
              some other →
          (key = packet.key ∧
              other = recordPacket setup.cfg entry packet event) ∨
            (key ≠ packet.key ∧
              tracker.table.get? key = some other) := by
  have observed := consistent.observe packet.ts
  rcases track_cases setup consistent packet event with
    ⟨left, exception, _, result⟩ | ⟨attached, entry, attaching, result⟩
  · rw [result] at placed
    cases placed
  have stored := attaching.store_consistent observed event
  have created :
      (tracker.track setup packet event).1.created = attached.created := by
    rw [result]
    exact created_finishUpdate stored _
  refine ⟨entry, ?_, ?_, ?_⟩
  · rw [created]
    rcases attaching.exports observed with
      ⟨same, live⟩ | ⟨roomy, flowId, exports, _, same, isNew⟩
    · rw [same]
      exact Or.inl ⟨live, rfl⟩
    · rw [same, isNew, exports.created_eq]
      exact Or.inr ⟨⟨flowId, rfl⟩, congrArg (· + 1) exports.created_eq⟩
  · rw [result] at placed
    exact (Option.some.inj placed).symm
  · intro key other live
    rw [result] at live
    have inStore := live_finishUpdate stored live
    by_cases own : key = packet.key
    · subst own
      simp only [store, OrderedDict.get?_insertLast_same,
        Option.some.injEq] at inStore
      exact Or.inl ⟨rfl, inStore.symm⟩
    · rw [store, OrderedDict.get?_insertLast_other _ own] at inStore
      refine Or.inr ⟨own, ?_⟩
      rcases attaching.exports observed with
        ⟨same, _⟩ | ⟨roomy, _, exports, _, same, _⟩
      · rw [same] at inStore
        exact inStore
      · rw [same] at inStore
        exact exports.live_before inStore

theorem attachmentsOf_concat
    (records : List RequestRecord)
    (record : RequestRecord) :
    attachmentsOf (records ++ [record]) =
      attachmentsOf records ++
        (record.tracked.map TrackedEvent.attachment).toList := by
  cases tracked : record.tracked <;>
    simp [attachmentsOf, List.filterMap_append, tracked]

theorem openingsOf_concat
    (records : List RequestRecord)
    (record : RequestRecord) :
    openingsOf (records ++ [record]) =
      openingsOf records ++ record.opened.toList := by
  cases opened : record.opened <;>
    simp [openingsOf, List.filterMap_append, opened]

end FlowTracker

end IntrusionDetection
