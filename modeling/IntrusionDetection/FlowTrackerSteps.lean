import IntrusionDetection.FlowTrackerExports

namespace IntrusionDetection

open PyText

/-!
# What one update can do

An update of a tracked packet moves the clock, possibly exports some flows,
joins a live entry or creates a fresh one, records the packet on that entry and
possibly sweeps.  `Attached` says which entry the packet is recorded on, and
`Tracking` puts the phases together, with the exceptions that may cut them
short; every invariant of the tracker is proved from these lemmas.
-/

/-- The filter keeps the time and the protocol of the event. -/
theorem selected_of_trackedPacket?
    {event : EventView}
    {packet : TrackedPacket}
    (accepted : trackedPacket? event = some packet) :
    event.timestamp = .ok (some packet.ts) ∧
      ∃ transProto,
        event.transportProtocol = .ok transProto ∧
          upper transProto = packet.protocol.name := by
  simp only [trackedPacket?, EventView.filter] at accepted
  cases time : event.timestamp with
  | error exception =>
      simp [time] at accepted
  | ok timestamp =>
      cases name : event.transportProtocol with
      | error exception =>
          simp [time, name] at accepted
      | ok transProto =>
          simp only [time, name, EventView.select] at accepted
          split at accepted
          · cases accepted
          · split at accepted
            · split at accepted <;> rename_i isTcp
              · cases accepted
                exact ⟨rfl, transProto, rfl, isTcp⟩
              · split at accepted <;> rename_i isUdp
                · cases accepted
                  exact ⟨rfl, transProto, rfl, isUdp⟩
                · cases accepted
            · cases accepted

namespace FlowTracker

variable {setup : TrackerSetup}

/-- The tracker after the clock has seen a packet. -/
def observe (tracker : FlowTracker) (ts : Time) : FlowTracker :=
  { tracker with clock := max tracker.clock ts }

/-- The tracker after an entry was stored at the recent end. -/
def store
    (tracker : FlowTracker)
    (key : FlowKey)
    (entry : FlowEntry) :
    FlowTracker :=
  { tracker with table := tracker.table.insertLast key entry }

/-- The tracker after one more `Flow` object was constructed. -/
def countCreated (tracker : FlowTracker) : FlowTracker :=
  { tracker with created := tracker.created + 1 }

/--
The entry a packet is recorded on, with the tracker just before that entry is
stored: a live entry that is not stale, or a fresh one after stale and evicted
entries were exported.
-/
inductive Attached
    (setup : TrackerSetup)
    (observed : FlowTracker)
    (packet : TrackedPacket)
    (flags : List Str) :
    FlowTracker → FlowEntry → Prop where
  | joined
      (entry : FlowEntry)
      (live : observed.table.get? packet.key = some entry)
      (unexpired : isExpired entry packet.ts setup.cfg = false)
      (noReuse : isPortReuse entry packet flags = false) :
      Attached setup observed packet flags observed entry
  | created
      (released : FlowTracker)
      (flowId : Str)
      (release :
        observed.releaseStale setup packet flags = (released, none))
      (named :
        makeFlowId setup.digest packet.key packet.ts = .ok flowId) :
      Attached setup observed packet flags
        (released.makeRoom setup).countCreated
        (newEntry (newFlow flowId packet)
          (released.makeRoom setup).created)

/-- What an update of a tracked packet does, by how it ends. -/
inductive Tracking
    (setup : TrackerSetup)
    (tracker : FlowTracker)
    (packet : TrackedPacket)
    (event : EventView)
    (next : FlowTracker)
    (result : UpdateResult) : Prop where
  | unread
      (exception : PyException)
      (noFlags : event.flags = .error exception)
      (left : next = tracker.observe packet.ts)
      (failed : result = .failed exception)
  | unnamed
      (released : FlowTracker)
      (exception : PyException)
      (flags : event.flags = .ok event.flagSet)
      (release :
        (tracker.observe packet.ts).releaseStale setup packet
          event.flagSet = (released, none))
      (noName :
        makeFlowId setup.digest packet.key packet.ts =
          .error exception)
      (left : next = released.makeRoom setup)
      (failed : result = .failed exception)
  | recorded
      (attached : FlowTracker)
      (entry : FlowEntry)
      (flags : event.flags = .ok event.flagSet)
      (attaching :
        Attached setup (tracker.observe packet.ts) packet event.flagSet
          attached entry)
      (left :
        next =
          (attached.store packet.key
            (recordPacket setup.cfg entry packet event)).finishUpdate
            setup event.appFault)
      (placed :
        result =
          .placed
            (attachmentOf (recordPacket setup.cfg entry packet event)
              packet)
            event.appFault)

@[simp] theorem table_countCreated (tracker : FlowTracker) :
    tracker.countCreated.table = tracker.table :=
  rfl

/-- Moving the clock keeps every entry under its own key. -/
theorem Consistent.observe
    {tracker : FlowTracker}
    (consistent : tracker.Consistent)
    (ts : Time) :
    (tracker.observe ts).Consistent :=
  consistent

variable (setup) in
/-- Step 4 finds or makes the entry of the packet, or it has no identifier. -/
theorem attachEntry_cases
    {observed : FlowTracker}
    (consistent : observed.Consistent)
    (packet : TrackedPacket)
    (flags : List Str) :
    let release := observed.releaseStale setup packet flags
    (∃ released exception,
        release = (released, none) ∧
          makeFlowId setup.digest packet.key packet.ts =
            .error exception ∧
          release.1.attachEntry setup packet release.2 =
            (released.makeRoom setup, .error exception)) ∨
      ∃ made attached entry,
        release.1.attachEntry setup packet release.2 =
            (made, .ok entry) ∧
          Attached setup observed packet flags attached entry ∧
          ∀ recorded,
            made.store packet.key recorded =
              attached.store packet.key recorded := by
  intro release
  have opens :
      ∀ released,
        release = (released, none) →
        (∃ released exception,
            release = (released, none) ∧
              makeFlowId setup.digest packet.key packet.ts =
                .error exception ∧
              release.1.attachEntry setup packet release.2 =
                (released.makeRoom setup, .error exception)) ∨
          ∃ made attached entry,
            release.1.attachEntry setup packet release.2 =
                (made, .ok entry) ∧
              Attached setup observed packet flags attached entry ∧
              ∀ recorded,
                made.store packet.key recorded =
                  attached.store packet.key recorded := by
    intro released isRelease
    cases named : makeFlowId setup.digest packet.key packet.ts with
    | error exception =>
        refine Or.inl ⟨released, exception, isRelease, rfl, ?_⟩
        simp only [isRelease, attachEntry, named]
    | ok flowId =>
        let entry :=
          newEntry (newFlow flowId packet)
            (released.makeRoom setup).created
        have attaches :
            release.1.attachEntry setup packet release.2 =
              ((released.makeRoom setup).countCreated.store packet.key
                entry, .ok entry) := by
          simp only [isRelease, attachEntry, named]
          rfl
        refine Or.inr ⟨_, _, entry, attaches,
          .created released flowId isRelease named, ?_⟩
        intro recorded
        simp [store]
  rcases releaseStale_cases setup consistent packet flags with
    ⟨_, isRelease⟩ | ⟨entry, reason, _, _, _, _, _, isRelease⟩ |
      ⟨entry, live, unexpired, noReuse, isRelease⟩
  · exact opens _ isRelease
  · exact opens _ isRelease
  · have joins : release = (observed, some entry) := isRelease
    have attaches :
        release.1.attachEntry setup packet release.2 =
          (observed.store packet.key entry, .ok entry) := by
      simp only [joins, attachEntry, store,
        OrderedDict.moveToEnd_of_get? live]
    refine Or.inr ⟨_, _, entry, attaches,
      .joined entry live unexpired noReuse, ?_⟩
    intro recorded
    simp [store]

variable (setup) in
/-- An update ends in one of the three ways. -/
theorem tracking
    {tracker : FlowTracker}
    (consistent : tracker.Consistent)
    (packet : TrackedPacket)
    (event : EventView) :
    Tracking setup tracker packet event
      (tracker.track setup packet event).1
      (tracker.track setup packet event).2 := by
  cases flags : event.flags with
  | error exception =>
      simp only [track, flags]
      exact .unread exception flags rfl rfl
  | ok flagSet =>
      have sameFlags : event.flagSet = flagSet := by
        simp only [EventView.flagSet, flags]
      have readable : event.flags = .ok event.flagSet := by
        rw [sameFlags, flags]
      have unfolded :
          tracker.track setup packet event =
            recordAttached setup packet event
              (((tracker.observe packet.ts).releaseStale setup packet
                event.flagSet).1.attachEntry setup packet
                ((tracker.observe packet.ts).releaseStale setup packet
                  event.flagSet).2) := by
        simp only [track, flags, sameFlags]
        rfl
      rw [unfolded]
      rcases attachEntry_cases setup (consistent.observe packet.ts) packet
          event.flagSet with
        ⟨released, exception, release, noName, result⟩ |
          ⟨made, attached, entry, result, attaching, sameStore⟩
      · rw [result]
        exact .unnamed released exception readable release noName rfl rfl
      · rw [result]
        refine .recorded attached entry readable attaching ?_ rfl
        rw [← sameStore]
        rfl

variable (setup) in
/-- The three things the periodic sweep can do. -/
theorem periodicSweep_cases
    {tracker : FlowTracker}
    (consistent : tracker.Consistent) :
    (tracker.lastSweep = none ∧
        tracker.periodicSweep setup =
          { tracker with lastSweep := some tracker.clock }) ∨
      (∃ lastSweep,
        tracker.lastSweep = some lastSweep ∧
          tracker.clock - lastSweep < setup.cfg.getSweepInterval ∧
          tracker.periodicSweep setup = tracker) ∨
      (∃ lastSweep swept,
        tracker.lastSweep = some lastSweep ∧
          setup.cfg.getSweepInterval ≤ tracker.clock - lastSweep ∧
          Exports setup tracker swept ∧
          tracker.periodicSweep setup =
            { swept with lastSweep := some tracker.clock } ∧
          ∀ key,
            swept.table.get? key =
              (tracker.table.get? key).filter fun entry =>
                !isExpired entry tracker.clock setup.cfg) := by
  simp only [periodicSweep]
  cases lastSweep : tracker.lastSweep with
  | none =>
      exact Or.inl ⟨rfl, rfl⟩
  | some time =>
      refine Or.inr ?_
      by_cases due :
          setup.cfg.getSweepInterval ≤ tracker.clock - time
      · obtain ⟨swept, exports, result, lookup⟩ :=
          sweep_exports setup consistent
            (some tracker.clock)
        refine Or.inr ⟨time, swept, rfl, due, exports, ?_, lookup⟩
        simp only [if_pos due, result, Option.getD_some, min_self]
      · refine Or.inl ⟨time, rfl, not_le.mp due, ?_⟩
        simp only [if_neg due]

namespace Attached

variable {observed attached : FlowTracker}
variable {packet : TrackedPacket} {flags : List Str}
variable {entry : FlowEntry}

/-- What happens to the stale entry of a packet is an export. -/
theorem release_exports
    (consistent : observed.Consistent)
    {released : FlowTracker}
    (release :
      observed.releaseStale setup packet flags = (released, none)) :
    Exports setup observed released ∧
      released.table.get? packet.key = none := by
  rcases releaseStale_cases setup consistent packet flags with
    ⟨absent, result⟩ |
      ⟨stale, reason, live, ownKey, fits, _, _, result⟩ |
      ⟨live, _, _, _, result⟩
  · rw [release] at result
    cases result
    exact ⟨.nil _, absent⟩
  · rw [release] at result
    cases result
    rw [← ownKey] at live ⊢
    exact ⟨.single setup live fits, by simp⟩
  · rw [release] at result
    cases result

/-- Attaching a packet exports some flows and constructs at most one. -/
theorem exports
    (attaching : Attached setup observed packet flags attached entry)
    (consistent : observed.Consistent) :
    (attached = observed ∧
        observed.table.get? packet.key = some entry) ∨
      ∃ roomy flowId,
        Exports setup observed roomy ∧
          roomy.table.get? packet.key = none ∧
          attached = roomy.countCreated ∧
          entry = newEntry (newFlow flowId packet) roomy.created := by
  cases attaching with
  | joined entry live unexpired noReuse =>
      exact Or.inl ⟨rfl, live⟩
  | created released flowId release named =>
      obtain ⟨releasing, absent⟩ := release_exports consistent release
      have room :=
        makeRoom_exports setup
          (releasing.consistent consistent)
      refine Or.inr
        ⟨_, flowId, releasing.append room, ?_, rfl, rfl⟩
      cases after :
          (released.makeRoom setup).table.get? packet.key with
      | none => rfl
      | some remaining =>
          rw [room.live_before after] at absent
          cases absent

/-- The attached entry belongs under the key of the packet. -/
theorem key_eq
    (attaching : Attached setup observed packet flags attached entry)
    (consistent : observed.Consistent) :
    entry.flow.key = packet.key := by
  cases attaching with
  | joined entry live unexpired noReuse =>
      exact consistent _ _ live
  | created released flowId release named =>
      rfl

/-- Attaching a packet keeps every entry under its own key. -/
theorem consistent
    (attaching : Attached setup observed packet flags attached entry)
    (before : observed.Consistent) :
    attached.Consistent := by
  rcases attaching.exports before with
    ⟨same, _⟩ | ⟨roomy, _, exports, _, same, _⟩
  · rw [same]
    exact before
  · rw [same]
    exact exports.consistent before

/-- Attaching a packet does not move the clock. -/
theorem clock_eq
    (attaching : Attached setup observed packet flags attached entry)
    (consistent : observed.Consistent) :
    attached.clock = observed.clock := by
  rcases attaching.exports consistent with
    ⟨same, _⟩ | ⟨roomy, _, exports, _, same, _⟩
  · rw [same]
  · rw [same]
    exact exports.clock_eq

/-- Attaching a packet does not touch the time of the last sweep. -/
theorem lastSweep_eq
    (attaching : Attached setup observed packet flags attached entry)
    (consistent : observed.Consistent) :
    attached.lastSweep = observed.lastSweep := by
  rcases attaching.exports consistent with
    ⟨same, _⟩ | ⟨roomy, _, exports, _, same, _⟩
  · rw [same]
  · rw [same]
    exact exports.lastSweep_eq

end Attached

/-! ### What recording keeps -/

section Recording

variable (cfg : FlowCfg) (entry : FlowEntry)
variable (packet : TrackedPacket) (event : EventView)

@[simp] theorem recordPacket_protocol :
    (recordPacket cfg entry packet event).flow.protocol =
      entry.flow.protocol := by
  simp only [recordPacket, countPacket, advanceState]
  split <;> rfl

@[simp] theorem recordPacket_endpointA :
    (recordPacket cfg entry packet event).flow.endpointA =
      entry.flow.endpointA := by
  simp only [recordPacket, countPacket, advanceState]
  split <;> rfl

@[simp] theorem recordPacket_endpointB :
    (recordPacket cfg entry packet event).flow.endpointB =
      entry.flow.endpointB := by
  simp only [recordPacket, countPacket, advanceState]
  split <;> rfl

@[simp] theorem recordPacket_flowId :
    (recordPacket cfg entry packet event).flow.flowId =
      entry.flow.flowId := by
  simp only [recordPacket, countPacket, advanceState]
  split <;> rfl

@[simp] theorem recordPacket_serial :
    (recordPacket cfg entry packet event).serial = entry.serial := by
  simp only [recordPacket, advanceState]
  split <;> rfl

@[simp] theorem recordPacket_key :
    (recordPacket cfg entry packet event).flow.key =
      entry.flow.key := by
  simp [Flow.key]

@[simp] theorem recordPacket_lastSeen :
    (recordPacket cfg entry packet event).flow.lastSeen =
      max entry.flow.lastSeen packet.ts := by
  simp only [recordPacket, countPacket, advanceState]
  split <;> rfl

end Recording

/-- Storing an entry under its own key keeps the table consistent. -/
theorem Consistent.store
    {tracker : FlowTracker}
    (consistent : tracker.Consistent)
    {key : FlowKey}
    {entry : FlowEntry}
    (ownKey : entry.flow.key = key) :
    (tracker.store key entry).Consistent := by
  intro storedKey stored live
  by_cases same : storedKey = key
  · subst same
    simp only [FlowTracker.store,
      OrderedDict.get?_insertLast_same, Option.some.injEq] at live
    rw [← live]
    exact ownKey
  · rw [FlowTracker.store,
      OrderedDict.get?_insertLast_other _ same] at live
    exact consistent storedKey stored live

/-- The tracker stays consistent when the recorded entry is stored. -/
theorem Attached.store_consistent
    {observed attached : FlowTracker}
    {packet : TrackedPacket}
    {flags : List Str}
    {entry : FlowEntry}
    (attaching : Attached setup observed packet flags attached entry)
    (consistent : observed.Consistent)
    (event : EventView) :
    (attached.store packet.key
      (recordPacket setup.cfg entry packet event)).Consistent := by
  apply (attaching.consistent consistent).store
  rw [recordPacket_key]
  exact attaching.key_eq consistent

variable (setup) in
/-- The end of an update exports some flows and may note the time of a sweep. -/
theorem finishUpdate_exports
    {tracker : FlowTracker}
    (consistent : tracker.Consistent)
    (raised : Option PyException) :
    ∃ swept lastSweep,
      Exports setup tracker swept ∧
        tracker.finishUpdate setup raised = { swept with lastSweep } := by
  cases raised with
  | some exception =>
      exact ⟨tracker, tracker.lastSweep, .nil tracker, rfl⟩
  | none =>
      simp only [finishUpdate]
      rcases periodicSweep_cases setup consistent with
        ⟨_, result⟩ | ⟨_, _, _, result⟩ |
          ⟨_, swept, _, _, exports, result, _⟩
      · exact ⟨tracker, _, .nil tracker, result⟩
      · exact ⟨tracker, tracker.lastSweep, .nil tracker, result⟩
      · exact ⟨swept, _, exports, result⟩

variable (setup) in
/-- The end of an update keeps every entry under its own key. -/
theorem Consistent.finishUpdate
    {tracker : FlowTracker}
    (consistent : tracker.Consistent)
    (raised : Option PyException) :
    (tracker.finishUpdate setup raised).Consistent := by
  obtain ⟨swept, _, exports, result⟩ :=
    finishUpdate_exports setup consistent raised
  rw [result]
  exact exports.consistent consistent

/-- What is live at the end of an update was live before the sweep. -/
theorem live_finishUpdate
    {tracker : FlowTracker}
    (consistent : tracker.Consistent)
    {raised : Option PyException}
    {key : FlowKey}
    {entry : FlowEntry}
    (live :
      (tracker.finishUpdate setup raised).table.get? key = some entry) :
    tracker.table.get? key = some entry := by
  obtain ⟨swept, _, exports, result⟩ :=
    finishUpdate_exports setup consistent raised
  rw [result] at live
  exact exports.live_before live

/-- The end of an update constructs no flow. -/
theorem created_finishUpdate
    {tracker : FlowTracker}
    (consistent : tracker.Consistent)
    (raised : Option PyException) :
    (tracker.finishUpdate setup raised).created = tracker.created := by
  obtain ⟨swept, _, exports, result⟩ :=
    finishUpdate_exports setup consistent raised
  rw [result]
  exact exports.created_eq

variable (setup) in
/-- The end of an update does not move the clock. -/
theorem clock_finishUpdate
    {tracker : FlowTracker}
    (consistent : tracker.Consistent)
    (raised : Option PyException) :
    (tracker.finishUpdate setup raised).clock = tracker.clock := by
  obtain ⟨swept, _, exports, result⟩ :=
    finishUpdate_exports setup consistent raised
  rw [result]
  exact exports.clock_eq

variable (setup) in
/--
The update of a tracked packet fails after exporting some flows, or it records
the packet.
-/
theorem track_cases
    {tracker : FlowTracker}
    (consistent : tracker.Consistent)
    (packet : TrackedPacket)
    (event : EventView) :
    (∃ left exception,
        Exports setup (tracker.observe packet.ts) left ∧
          tracker.track setup packet event =
            (left, .failed exception)) ∨
      ∃ attached entry,
        Attached setup (tracker.observe packet.ts) packet event.flagSet
            attached entry ∧
          tracker.track setup packet event =
            ((attached.store packet.key
                (recordPacket setup.cfg entry packet event)).finishUpdate
                setup event.appFault,
              .placed
                (attachmentOf (recordPacket setup.cfg entry packet event)
                  packet)
                event.appFault) := by
  have ended := tracking setup consistent packet event
  have observed := consistent.observe packet.ts
  cases ended with
  | unread exception noFlags left failed =>
      exact Or.inl ⟨_, exception, .nil _, Prod.ext left failed⟩
  | unnamed released exception flags release noName left failed =>
      have releasing := (Attached.release_exports observed release).1
      have room :=
        makeRoom_exports setup (releasing.consistent observed)
      exact Or.inl
        ⟨_, exception, releasing.append room, Prod.ext left failed⟩
  | recorded attached entry flags attaching left placed =>
      exact Or.inr ⟨attached, entry, attaching, Prod.ext left placed⟩

variable (setup) in
/-- An event the filter does not let through changes nothing. -/
theorem update_ignored
    (tracker : FlowTracker)
    {event : EventView}
    (ignored : trackedPacket? event = none) :
    (tracker.update setup event).1 = tracker ∧
      (tracker.update setup event).2.attachment = none := by
  simp only [trackedPacket?] at ignored
  simp only [update]
  cases filtered : event.filter with
  | error exception =>
      exact ⟨rfl, rfl⟩
  | ok packet =>
      rw [filtered] at ignored
      simp only at ignored
      subst ignored
      exact ⟨rfl, rfl⟩

variable (setup) in
/-- The update of an event that passes the filter tracks its packet. -/
theorem update_accepted
    (tracker : FlowTracker)
    {event : EventView}
    {packet : TrackedPacket}
    (accepted : trackedPacket? event = some packet) :
    tracker.update setup event = tracker.track setup packet event := by
  simp only [trackedPacket?] at accepted
  simp only [update]
  cases filtered : event.filter with
  | error exception =>
      rw [filtered] at accepted
      cases accepted
  | ok selected =>
      rw [filtered] at accepted
      simp only at accepted
      rw [accepted]

variable (setup) in
/-- Every tracked packet keeps every entry under its own key. -/
theorem Consistent.track
    {tracker : FlowTracker}
    (consistent : tracker.Consistent)
    (packet : TrackedPacket)
    (event : EventView) :
    (tracker.track setup packet event).1.Consistent := by
  have observed := consistent.observe packet.ts
  rcases track_cases setup consistent packet event with
    ⟨left, _, exports, result⟩ | ⟨attached, entry, attaching, result⟩
  · rw [result]
    exact exports.consistent observed
  · rw [result]
    exact (attaching.store_consistent observed event).finishUpdate
      setup _

variable (setup) in
/-- Every update keeps every entry under its own key. -/
theorem Consistent.update
    {tracker : FlowTracker}
    (consistent : tracker.Consistent)
    (event : EventView) :
    (tracker.update setup event).1.Consistent := by
  cases accepted : trackedPacket? event with
  | none =>
      rw [(update_ignored setup tracker accepted).1]
      exact consistent
  | some packet =>
      rw [update_accepted setup tracker accepted]
      exact consistent.track setup packet event

variable (setup) in
/-- Every sweep keeps every entry under its own key. -/
theorem Consistent.sweep
    {tracker : FlowTracker}
    (consistent : tracker.Consistent)
    (now : Option Time) :
    (tracker.sweep setup now).Consistent := by
  obtain ⟨swept, exports, result, _⟩ :=
    sweep_exports setup consistent now
  rw [result]
  exact exports.consistent consistent

variable (setup) in
/-- A packet moves the clock to the latest time seen. -/
theorem clock_track
    {tracker : FlowTracker}
    (consistent : tracker.Consistent)
    (packet : TrackedPacket)
    (event : EventView) :
    (tracker.track setup packet event).1.clock =
      max tracker.clock packet.ts := by
  have observed := consistent.observe packet.ts
  rcases track_cases setup consistent packet event with
    ⟨left, _, exports, result⟩ | ⟨attached, entry, attaching, result⟩
  · rw [result]
    exact exports.clock_eq
  · rw [result]
    simp only [clock_finishUpdate setup
      (attaching.store_consistent observed event)]
    exact attaching.clock_eq observed

/--
A packet goes to the live flow of its key or to one new flow, or nowhere; then
no flow is new.
-/
theorem track_serial
    {tracker : FlowTracker}
    (consistent : tracker.Consistent)
    (packet : TrackedPacket)
    (event : EventView) :
    ((tracker.track setup packet event).2.attachment = none ∧
        (tracker.track setup packet event).1.created =
          tracker.created) ∨
      ∃ attachment,
        (tracker.track setup packet event).2.attachment =
            some attachment ∧
          ((∃ entry,
              tracker.table.get? packet.key = some entry ∧
                attachment.serial = entry.serial ∧
                (tracker.track setup packet event).1.created =
                  tracker.created) ∨
            (attachment.serial = tracker.created ∧
              (tracker.track setup packet event).1.created =
                tracker.created + 1)) := by
  have observed := consistent.observe packet.ts
  rcases track_cases setup consistent packet event with
    ⟨left, _, exports, result⟩ | ⟨attached, entry, attaching, result⟩
  · rw [result]
    exact Or.inl ⟨rfl, exports.created_eq⟩
  · have stored := attaching.store_consistent observed event
    rw [result]
    refine Or.inr ⟨_, rfl, ?_⟩
    simp only [created_finishUpdate stored, attachmentOf,
      recordPacket_serial]
    rcases attaching.exports observed with
      ⟨same, live⟩ | ⟨roomy, _, exports, _, same, isNew⟩
    · refine Or.inl ⟨entry, live, rfl, ?_⟩
      rw [same]
      rfl
    · refine Or.inr ⟨?_, ?_⟩
      · rw [isNew]
        exact exports.created_eq
      · rw [same]
        exact congrArg (· + 1) exports.created_eq

/--
What holds of the live entries after a packet: the other entries are among
those live before, and the entry of the packet was live before under the same
key or is fresh.
-/
theorem live_track
    {Before After : FlowEntry → Prop}
    {tracker : FlowTracker}
    (consistent : tracker.Consistent)
    {packet : TrackedPacket}
    {event : EventView}
    (before :
      ∀ key entry, tracker.table.get? key = some entry → Before entry)
    (kept : ∀ entry, Before entry → After entry)
    (recorded :
      ∀ entry,
        Before entry →
        entry.flow.key = packet.key →
        After (recordPacket setup.cfg entry packet event))
    (opened :
      ∀ flowId attachment,
        makeFlowId setup.digest packet.key packet.ts = .ok flowId →
        (tracker.track setup packet event).2.attachment =
          some attachment →
        attachment.serial = tracker.created →
        After
          (recordPacket setup.cfg
            (newEntry (newFlow flowId packet) tracker.created)
            packet event)) :
    ∀ key entry,
      (tracker.track setup packet event).1.table.get? key = some entry →
      After entry := by
  have observed := consistent.observe packet.ts
  rcases track_cases setup consistent packet event with
    ⟨left, _, exports, result⟩ | ⟨attached, entry, attaching, result⟩
  · intro key other live
    rw [result] at live
    exact kept other (before key other (exports.live_before live))
  have recordedAfter :
      After (recordPacket setup.cfg entry packet event) := by
    have ownKey := attaching.key_eq observed
    cases attaching with
    | joined entry live unexpired noReuse =>
        exact recorded entry (before _ _ live) ownKey
    | created released flowId release named =>
        have releasing := (Attached.release_exports observed release).1
        have room :=
          makeRoom_exports setup (releasing.consistent observed)
        have sameCreated :
            (released.makeRoom setup).created = tracker.created :=
          (releasing.append room).created_eq
        rw [sameCreated] at result ⊢
        refine opened flowId _ named (congrArg (·.2.attachment) result) ?_
        simp [attachmentOf, newEntry]
  have attachedAfter :
      ∀ key other,
        attached.table.get? key = some other → After other := by
    intro key other live
    rcases attaching.exports observed with
      ⟨same, _⟩ | ⟨roomy, _, exports, _, same, _⟩
    · rw [same] at live
      exact kept other (before key other live)
    · rw [same] at live
      exact kept other (before key other (exports.live_before live))
  have stored := attaching.store_consistent observed event
  intro key other live
  rw [result] at live
  have inStore := live_finishUpdate stored live
  by_cases own : key = packet.key
  · subst own
    simp only [store, OrderedDict.get?_insertLast_same,
      Option.some.injEq] at inStore
    exact inStore ▸ recordedAfter
  · rw [store, OrderedDict.get?_insertLast_other _ own] at inStore
    exact attachedAfter key other inStore

/-! ### Which updates fail -/

/-- What a live entry at the packet's key is still good for. -/
def joinable
    (cfg : FlowCfg)
    (packet : TrackedPacket)
    (flags : List Str)
    (live : Option FlowEntry) :
    Option FlowEntry :=
  live.filter fun entry =>
    !isExpired entry packet.ts cfg && !isPortReuse entry packet flags

/--
Does the update of a tracked event fail before the event has a place?  Judged
before the update: its flags have no texts, or it finds no entry to join and no
identifier can be made for a new flow.
-/
def fails
    (setup : TrackerSetup)
    (tracker : FlowTracker)
    (event : EventView) :
    Bool :=
  match trackedPacket? event with
  | none => false
  | some packet =>
      match event.flags with
      | .error _ => true
      | .ok flags =>
          (joinable setup.cfg packet flags
              (tracker.table.get? packet.key)).isNone &&
            !(makeFlowId setup.digest packet.key packet.ts).isOk

/-- Is a sweep due when the clock has seen a packet of this time? -/
def sweepDueAt
    (setup : TrackerSetup)
    (tracker : FlowTracker)
    (ts : Time) :
    Bool :=
  tracker.lastSweep.any fun lastSweep =>
    setup.cfg.getSweepInterval ≤ max tracker.clock ts - lastSweep

/--
Does an exception keep the update of a tracked event from a sweep that is due
by then?
-/
def missesSweep
    (setup : TrackerSetup)
    (tracker : FlowTracker)
    (event : EventView) :
    Bool :=
  (trackedPacket? event).any fun packet =>
    (tracker.fails setup event || event.appFault.isSome) &&
      tracker.sweepDueAt setup packet.ts

/-- The entry step 7 records the packet on, apart from its identity. -/
def entryOf
    (setup : TrackerSetup)
    (tracker : FlowTracker)
    (packet : TrackedPacket)
    (flags : List Str) :
    FlowEntry :=
  (joinable setup.cfg packet flags
      (tracker.table.get? packet.key)).getD
    (newEntry (newFlow [] packet) 0)

/--
Does the sweep at the end of the update export the flow of the event itself?
Only with the packet on it the flow has its state and its last time.
-/
def sweepsItself
    (setup : TrackerSetup)
    (tracker : FlowTracker)
    (event : EventView) :
    Bool :=
  (trackedPacket? event).any fun packet =>
    event.appFault.isNone && tracker.sweepDueAt setup packet.ts &&
      isExpired
        (recordPacket setup.cfg
          (tracker.entryOf setup packet event.flagSet) packet event)
        (max tracker.clock packet.ts) setup.cfg

/-- Step 3 leaves the entry the packet may join. -/
theorem releaseStale_snd
    (tracker : FlowTracker)
    (packet : TrackedPacket)
    (flags : List Str) :
    (tracker.releaseStale setup packet flags).2 =
      joinable setup.cfg packet flags
        (tracker.table.get? packet.key) := by
  simp only [releaseStale]
  cases tracker.table.get? packet.key with
  | none =>
      rfl
  | some entry =>
      cases expired : isExpired entry packet.ts setup.cfg <;>
        cases reuse : isPortReuse entry packet flags <;>
        simp [joinable, Option.filter, expired, reuse]

/-- What the packet may join, once step 3 was run. -/
theorem joinable_of_release
    {observed released : FlowTracker}
    {packet : TrackedPacket}
    {flags : List Str}
    {live : Option FlowEntry}
    (release :
      observed.releaseStale setup packet flags = (released, live)) :
    joinable setup.cfg packet flags
      (observed.table.get? packet.key) = live := by
  rw [← releaseStale_snd, release]

/-- An entry that is not stale may be joined. -/
theorem joinable_of_unexpired
    {cfg : FlowCfg}
    {packet : TrackedPacket}
    {flags : List Str}
    {entry : FlowEntry}
    (unexpired : isExpired entry packet.ts cfg = false)
    (noReuse : isPortReuse entry packet flags = false) :
    joinable cfg packet flags (some entry) = some entry := by
  simp [joinable, Option.filter, unexpired, noReuse]

/-- An update fails if its packet joins nothing and has no identifier. -/
theorem fails_of_noName
    {tracker released : FlowTracker}
    {event : EventView}
    {packet : TrackedPacket}
    (accepted : trackedPacket? event = some packet)
    (flags : event.flags = .ok event.flagSet)
    (release :
      (tracker.observe packet.ts).releaseStale setup packet
        event.flagSet = (released, none))
    {exception : PyException}
    (noName :
      makeFlowId setup.digest packet.key packet.ts = .error exception) :
    tracker.fails setup event = true := by
  have nothing :
      joinable setup.cfg packet event.flagSet
        (tracker.table.get? packet.key) = none :=
    (joinable_of_release release :)
  simp [fails, accepted, flags, nothing, noName, Except.isOk,
    Except.toBool]

/-- An update that finds or makes an entry does not fail. -/
theorem Attached.not_fails
    {tracker attached : FlowTracker}
    {event : EventView}
    {packet : TrackedPacket}
    {entry : FlowEntry}
    (attaching :
      Attached setup (tracker.observe packet.ts) packet event.flagSet
        attached entry)
    (accepted : trackedPacket? event = some packet)
    (flags : event.flags = .ok event.flagSet) :
    tracker.fails setup event = false := by
  cases attaching with
  | joined entry live unexpired noReuse =>
      have found : tracker.table.get? packet.key = some entry := live
      simp [fails, accepted, flags, found,
        joinable_of_unexpired unexpired noReuse]
  | created released flowId release named =>
      simp [fails, accepted, flags, named, Except.isOk, Except.toBool]

variable (setup) in
/-- An update fails exactly if the event gets no place. -/
theorem fails_iff
    {tracker : FlowTracker}
    (consistent : tracker.Consistent)
    {event : EventView}
    {packet : TrackedPacket}
    (accepted : trackedPacket? event = some packet) :
    tracker.fails setup event = true ↔
      (tracker.track setup packet event).2.attachment = none := by
  cases tracking setup consistent packet event with
  | unread exception noFlags left failed =>
      simp [fails, accepted, noFlags, failed, UpdateResult.attachment]
  | unnamed released exception flags release noName left failed =>
      rw [fails_of_noName accepted flags release noName, failed]
      exact iff_of_true rfl rfl
  | recorded attached entry flags attaching left placed =>
      rw [attaching.not_fails accepted flags, placed]
      exact iff_of_false Bool.false_ne_true (Option.some_ne_none _)

/-- A first segment from an address whose scope is a lone surrogate. -/
def surrogateSyn (ts : Time) : EventView :=
  (tcpSegment ts ⟨lit "fe80::1%" ++ [chr 0xD800], 50000⟩
    ⟨lit "fe80::2", 443⟩ [lit "SYN"]).view

example : fresh.fails ⟨.empty, none, id⟩ (surrogateSyn 100) = true := by
  decide +kernel

/-- A fresh tracker has no entry at all. -/
theorem consistent_fresh : fresh.Consistent := by
  intro key entry live
  simp [fresh] at live

end FlowTracker

end IntrusionDetection
