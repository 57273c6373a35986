import IntrusionDetection.FlowCurrent
import IntrusionDetection.FlowEviction

namespace IntrusionDetection

open PyText

/-!
# Packets behind the clock

A packet that is older than the clock moves neither the clock nor the time of
the next sweep, so no sweep runs after it unless one is overdue, which takes an
exception in an earlier update.  It is still compared with the entry of its own
five-tuple, at its own time, and that entry may have expired since the last
sweep.
-/

/-- The reasons `get_close_reason` gives. -/
def CloseReason.IsExpiry : CloseReason → Prop
  | .tcpClosed => True
  | .tcpReset => True
  | .idleTimeout => True
  | .handshakeTimeout => True
  | .portReuse => False
  | .evicted => False
  | .flush => False

/-- An expired flow is closed for one of the reasons of expiry. -/
theorem getCloseReason_isExpiry (entry : FlowEntry) :
    (getCloseReason entry).IsExpiry := by
  cases state : entry.flow.state <;>
    simp [getCloseReason, state, CloseReason.IsExpiry]

namespace FlowTracker

variable {setup : TrackerSetup}

/-- The flows an update exports, as they are exported. -/
def exportedBy
    (setup : TrackerSetup)
    (tracker : FlowTracker)
    (event : EventView) :
    List Flow :=
  (exportSites setup tracker (.update event)).map
    fun site => site.entry.flow.closeWith site.reason

/-- Does a flow leave the table because it expired? -/
def Expires (flow : Flow) : Prop :=
  ∃ reason, flow.closeReason = some reason ∧ reason.IsExpiry

/-- The exported flow expires just if it is exported for such a reason. -/
theorem expires_closeWith
    (flow : Flow)
    (reason : CloseReason) :
    Expires (flow.closeWith reason) ↔ reason.IsExpiry := by
  simp [Expires, Flow.closeWith]

/-- The eviction loop expires nothing. -/
theorem evictSites_reason
    (rounds : Nat)
    (tracker : FlowTracker) :
    ∀ site ∈ evictSites setup rounds tracker, site.reason = .evicted := by
  induction rounds generalizing tracker with
  | zero =>
      intro site member
      cases member
  | succ rounds inductionHypothesis =>
      intro site member
      simp only [evictSites] at member
      split at member
      · split at member
        · cases member
        · rcases List.mem_cons.mp member with same | later
          · rw [same]
          · exact inductionHypothesis _ site later
      · cases member

/-- Making room expires nothing. -/
theorem roomSites_reason (release : FlowTracker × Option FlowEntry) :
    ∀ site ∈ roomSites setup release, site.reason = .evicted := by
  intro site member
  simp only [roomSites] at member
  split at member
  · cases member
  · exact evictSites_reason _ _ site member

/-- A periodic sweep expires a flow just if it is due and one is expired. -/
theorem periodicSites_expire_iff (tracker : FlowTracker) :
    (∃ site ∈ periodicSites setup tracker, site.reason.IsExpiry) ↔
      (tracker.lastSweep.any fun lastSweep =>
          setup.cfg.getSweepInterval ≤ tracker.clock - lastSweep) = true ∧
        ∃ entry ∈ tracker.table.values,
          isExpired entry tracker.clock setup.cfg = true := by
  have reasons :
      (∃ site ∈ sweepSites setup tracker (some tracker.clock),
          site.reason.IsExpiry) ↔
        ∃ reason ∈
            (sweepSites setup tracker (some tracker.clock)).map
              ExportSite.reason,
          reason.IsExpiry := by
    simp
  have sweeping :
      (∃ site ∈ sweepSites setup tracker (some tracker.clock),
          site.reason.IsExpiry) ↔
        ∃ entry ∈ tracker.table.values,
          isExpired entry tracker.clock setup.cfg = true := by
    rw [reasons, sweepSites, reason_exportAllSites]
    simp [getCloseReason_isExpiry]
  simp only [periodicSites]
  cases tracker.lastSweep with
  | none =>
      simp
  | some lastSweep =>
      by_cases due :
          setup.cfg.getSweepInterval ≤ tracker.clock - lastSweep
      · simp only [if_pos due, sweeping, Option.any_some,
          decide_eq_true due, true_and]
      · simp [due]

/-- The entry of the packet's own key expires just if it is expired. -/
theorem releaseSites_expire_iff
    (tracker : FlowTracker)
    (packet : TrackedPacket)
    (flags : List Str) :
    (∃ site ∈ releaseSites setup tracker packet flags,
        site.reason.IsExpiry) ↔
      ∃ entry,
        tracker.table.get? packet.key = some entry ∧
          isExpired entry packet.ts setup.cfg = true := by
  simp only [releaseSites]
  cases live : tracker.table.get? packet.key with
  | none =>
      simp
  | some entry =>
      by_cases expired : isExpired entry packet.ts setup.cfg = true
      · simp [expired, getCloseReason_isExpiry]
      · by_cases reuse : isPortReuse entry packet flags = true
        · simp [expired, reuse, CloseReason.IsExpiry]
        · simp [expired, reuse]

/--
The other flows left in the table when a packet has its place, oldest first:
those of other keys, without the one evicted for the packet.
-/
def survivors
    (setup : TrackerSetup)
    (tracker : FlowTracker)
    (packet : TrackedPacket)
    (event : EventView) :
    List FlowEntry :=
  let others := (tracker.table.remove packet.key).values
  if (tracker.makesRoomFor setup event).isSome then
    others.tail
  else
    others

/-- Is the live entry of the event's own key expired at the event? -/
def ownExpires
    (setup : TrackerSetup)
    (tracker : FlowTracker)
    (event : EventView) :
    Bool :=
  (trackedPacket? event).any fun packet =>
    event.flags.isOk &&
      (tracker.table.get? packet.key).any fun entry =>
        isExpired entry packet.ts setup.cfg

/-- Does the sweep at the end of the update find another flow expired? -/
def sweepsOthers
    (setup : TrackerSetup)
    (tracker : FlowTracker)
    (event : EventView) :
    Bool :=
  (trackedPacket? event).any fun packet =>
    event.appFault.isNone && tracker.sweepDueAt setup packet.ts &&
      (tracker.survivors setup packet event).any fun other =>
        isExpired other (max tracker.clock packet.ts) setup.cfg

/-- When a packet has its entry, the others in the table are the survivors. -/
theorem Attached.others
    {tracker attached : FlowTracker}
    {packet : TrackedPacket}
    {event : EventView}
    {entry : FlowEntry}
    (attaching :
      Attached setup (tracker.observe packet.ts) packet event.flagSet
        attached entry)
    (consistent : tracker.Consistent)
    (bounded : tracker.table.size ≤ setup.cfg.getMaxActiveFlows)
    (accepted : trackedPacket? event = some packet)
    (flags : event.flags = .ok event.flagSet) :
    (attached.table.remove packet.key).values =
      tracker.survivors setup packet event := by
  have observed := consistent.observe packet.ts
  cases attaching with
  | joined entry live unexpired noReuse =>
      have found : tracker.table.get? packet.key = some entry := live
      have noRoom : tracker.makesRoomFor setup event = none := by
        simp [makesRoomFor, accepted, found,
          joinable_of_unexpired unexpired noReuse]
      simp only [survivors, noRoom, Option.isSome_none,
        Bool.false_eq_true, if_false]
      rfl
  | created released flowId release named =>
      have table : released.table = tracker.table.remove packet.key :=
        released_table observed release
      obtain ⟨releasing, absent⟩ := release_exports observed release
      have stays := releasing.consistent observed
      have stillBounded :
          released.table.size ≤ setup.cfg.getMaxActiveFlows := by
        rw [table]
        exact (List.length_filter_le _ _).trans bounded
      have nothing :
          joinable setup.cfg packet event.flagSet
            (tracker.table.get? packet.key) = none :=
        (joinable_of_release release :)
      have readable : event.flags.isOk = true := by
        rw [flags]
        rfl
      have makesRoom :
          tracker.makesRoomFor setup event =
            if setup.cfg.getMaxActiveFlows ≤ released.table.size then
              some packet
            else
              none := by
        simp [makesRoomFor, accepted, readable, nothing, table,
          Option.filter]
      rw [survivors, makesRoom, ← table, table_countCreated]
      by_cases full :
          setup.cfg.getMaxActiveFlows ≤ released.table.size
      · obtain ⟨oldest, isOldest, _, made, _⟩ :=
          evictOldest_of_full stays stillBounded full
        have goneAfter :
            (released.table.remove oldest.flow.key).get? packet.key =
              none := by
          have handed :
              (released.handOver setup oldest .evicted).table =
                released.table.remove oldest.flow.key :=
            table_handOver ..
          rw [← handed]
          cases after :
              (released.handOver setup oldest .evicted).table.get?
                packet.key with
          | none => rfl
          | some remaining =>
              have live := OrderedDict.get?_of_oldest? isOldest
              have evicting : Exports setup released _ :=
                .single setup live
                  (show CloseReason.evicted.Fits _ from trivial)
              cases absent.symm.trans (evicting.live_before after)
        rw [made, table_handOver, if_pos full,
          OrderedDict.remove_of_get?_none goneAfter]
        simp only [Option.isSome_some, if_true, OrderedDict.values,
          OrderedDict.items_remove_oldest isOldest, List.map_tail]
      · rw [makeRoom_of_lt (Nat.lt_of_not_le full), if_neg full,
          OrderedDict.remove_of_get?_none absent]
        simp

/-- What the sweep after a recorded packet expires. -/
theorem recordSites_expire_iff
    {tracker attached made : FlowTracker}
    {packet : TrackedPacket}
    {event : EventView}
    {entry : FlowEntry}
    (attaching :
      Attached setup (tracker.observe packet.ts) packet event.flagSet
        attached entry)
    (consistent : tracker.Consistent)
    (bounded : tracker.table.size ≤ setup.cfg.getMaxActiveFlows)
    (accepted : trackedPacket? event = some packet)
    (flags : event.flags = .ok event.flagSet)
    (sameStore :
      ∀ recorded,
        made.store packet.key recorded =
          attached.store packet.key recorded) :
    (∃ site ∈ recordSites setup packet event (made, .ok entry),
        site.reason.IsExpiry) ↔
      tracker.sweepsItself setup event = true ∨
        tracker.sweepsOthers setup event = true := by
  have observed := consistent.observe packet.ts
  let recorded := recordPacket setup.cfg entry packet event
  have clock :
      (attached.store packet.key recorded).clock =
        max tracker.clock packet.ts :=
    attaching.clock_eq observed
  have lastSweep :
      (attached.store packet.key recorded).lastSweep =
        tracker.lastSweep :=
    attaching.lastSweep_eq observed
  have values :
      (attached.store packet.key recorded).table.values =
        tracker.survivors setup packet event ++ [recorded] := by
    rw [← attaching.others consistent bounded accepted flags]
    simp [store, OrderedDict.values, OrderedDict.items_insertLast]
  simp only [sweepsItself, sweepsOthers, accepted, Option.any_some,
    isExpired_entryOf attaching]
  cases fault : event.appFault with
  | some exception =>
      simp [recordSites, fault]
  | none =>
      have sites :
          recordSites setup packet event (made, .ok entry) =
            periodicSites setup (attached.store packet.key recorded) := by
        rw [← sameStore]
        simp only [recordSites, fault]
        rfl
      rw [sites, periodicSites_expire_iff, clock, lastSweep, values]
      simp only [sweepDueAt, List.mem_append, List.mem_singleton,
        or_and_right, exists_or, exists_eq_left, recorded,
        Option.isNone_none, Bool.true_and, Bool.and_eq_true,
        List.any_eq_true]
      rw [and_or_left, or_comm]

/-- What an update expires, judged before the update. -/
theorem expires_iff
    {tracker : FlowTracker}
    (consistent : tracker.Consistent)
    (bounded : tracker.table.size ≤ setup.cfg.getMaxActiveFlows)
    (event : EventView) :
    (∃ flow ∈ exportedBy setup tracker event, Expires flow) ↔
      tracker.ownExpires setup event = true ∨
        (tracker.fails setup event = false ∧
          (tracker.sweepsItself setup event = true ∨
            tracker.sweepsOthers setup event = true)) := by
  have asSites :
      (∃ flow ∈ exportedBy setup tracker event, Expires flow) ↔
        ∃ site ∈ exportSites setup tracker (.update event),
          site.reason.IsExpiry := by
    simp [exportedBy, expires_closeWith]
  rw [asSites]
  cases accepted : trackedPacket? event with
  | none =>
      simp [exportSites, accepted, ownExpires, sweepsItself,
        sweepsOthers]
  | some packet =>
      simp only [exportSites, accepted, trackSites]
      cases flags : event.flags with
      | error exception =>
          simp [ownExpires, fails, accepted, flags, Except.isOk,
            Except.toBool]
      | ok flagSet =>
          have sameFlags : event.flagSet = flagSet := by
            simp only [EventView.flagSet, flags]
          have readable : event.flags = .ok event.flagSet := by
            rw [sameFlags, flags]
          have released :
              (∃ site ∈ releaseSites setup (tracker.observe packet.ts)
                  packet flagSet, site.reason.IsExpiry) ↔
                tracker.ownExpires setup event = true := by
            rw [releaseSites_expire_iff]
            simp [ownExpires, accepted, flags, observe,
              Option.any_eq_true, Except.isOk, Except.toBool]
          have notRoom (release : FlowTracker × Option FlowEntry) :
              ¬ ∃ site ∈ roomSites setup release,
                site.reason.IsExpiry := by
            rintro ⟨site, member, expires⟩
            rw [roomSites_reason _ site member] at expires
            exact expires
          have recording :
              (∃ site ∈ recordSites setup packet event
                  (((tracker.observe packet.ts).releaseStale setup packet
                    flagSet).1.attachEntry setup packet
                    ((tracker.observe packet.ts).releaseStale setup
                      packet flagSet).2), site.reason.IsExpiry) ↔
                tracker.fails setup event = false ∧
                  (tracker.sweepsItself setup event = true ∨
                    tracker.sweepsOthers setup event = true) := by
            rw [← sameFlags]
            rcases attachEntry_cases setup
                (consistent.observe packet.ts) packet event.flagSet with
              ⟨left, exception, release, noName, result⟩ |
                ⟨made, attached, entry, result, attaching, sameStore⟩
            · rw [result, fails_of_noName accepted readable release noName]
              simp [recordSites]
            · rw [result, attaching.not_fails accepted readable,
                recordSites_expire_iff attaching consistent bounded
                  accepted readable sameStore]
              simp
          rw [← released, ← recording]
          have splits (site : ExportSite) (first second third) :
              site ∈ first ++ roomSites setup second ++ third ↔
                (site ∈ first ∨ site ∈ roomSites setup second) ∨
                  site ∈ third := by
            simp [or_assoc]
          simp only [splits, or_and_right, exists_or, notRoom, or_false]
          rfl

/-- An update moves the clock to the time of its packet or leaves it. -/
theorem clock_update_of_late
    {tracker : FlowTracker}
    (consistent : tracker.Consistent)
    {event : EventView}
    {ts : Time}
    (timestamp : event.timestamp = .ok (some ts))
    (late : ts < tracker.clock) :
    (tracker.update setup event).1.clock = tracker.clock := by
  cases accepted : trackedPacket? event with
  | none =>
      rw [(update_ignored setup tracker accepted).1]
  | some packet =>
      have ownTime := (selected_of_trackedPacket? accepted).1
      rw [timestamp] at ownTime
      have sameTime : ts = packet.ts :=
        Option.some.inj (Except.ok.inj ownTime)
      rw [update_accepted setup tracker accepted,
        clock_track setup consistent packet event, ← sameTime,
        max_eq_left late.le]

/-- With a callback, what an update exports is what the callback is given. -/
theorem handed_update
    {tracker : FlowTracker}
    (consistent : tracker.Consistent)
    (event : EventView)
    (watched : setup.onExport ≠ none) :
    (tracker.update setup event).1.handed.map Prod.snd =
      tracker.handed.map Prod.snd ++
        exportedBy setup tracker event := by
  have handed :
      (tracker.update setup event).1.handed =
        tracker.handed ++
          callsAt setup (exportSites setup tracker (.update event)) :=
    handed_answer setup consistent (.update event)
  obtain ⟨callback, isCallback⟩ := Option.ne_none_iff_exists'.mp watched
  have calls :
      ∀ sites,
        (callsAt setup sites).map Prod.snd =
          sites.map fun site => site.entry.flow.closeWith site.reason := by
    intro sites
    induction sites with
    | nil =>
        rfl
    | cons site rest inductionHypothesis =>
        simp [callsOf, isCallback, inductionHypothesis]
  rw [handed, List.map_append, calls, exportedBy]

/-- Unless a sweep is overdue, none follows an event behind the clock. -/
theorem Timely.no_late_sweep
    {tracker : FlowTracker}
    (timely : tracker.Timely setup)
    {event : EventView}
    {ts : Time}
    (timestamp : event.timestamp = .ok (some ts))
    (late : ts < tracker.clock) :
    tracker.sweepsOthers setup event = false := by
  simp only [sweepsOthers]
  cases accepted : trackedPacket? event with
  | none =>
      rfl
  | some packet =>
      have ownTime := (selected_of_trackedPacket? accepted).1
      rw [timestamp] at ownTime
      have sameTime : ts = packet.ts :=
        Option.some.inj (Except.ok.inj ownTime)
      have notDue : tracker.sweepDueAt setup packet.ts = false := by
        rw [sweepDueAt, ← sameTime, max_eq_left late.le,
          Option.any_eq_false]
        intro lastSweep last
        exact decide_eq_false (not_le.mpr (timely.swept lastSweep last))
      simp [notDue]

/--
After any updates, an event behind the clock leaves the clock alone, and it
expires no flow just if the flow of its own five-tuple, if there is one, is not
expired at the time of the event and, unless its update fails, no overdue sweep
finds a flow expired.  Only an update that missed a sweep leaves one overdue.
-/
theorem late_expires_none_iff
    (setup : TrackerSetup)
    (events : List EventView)
    (event : EventView)
    (ts : Time)
    (timestamp : event.timestamp = .ok (some ts))
    (late :
      ts < (StepRuns.run (update setup) fresh events).1.clock) :
    let tracker := (StepRuns.run (update setup) fresh events).1
    let updated := (tracker.update setup event).1
    (setup.onExport ≠ none →
        updated.handed.map Prod.snd =
          tracker.handed.map Prod.snd ++
            exportedBy setup tracker event) ∧
      ((updated.clock = tracker.clock ∧
          ∀ flow ∈ exportedBy setup tracker event, ¬ Expires flow) ↔
        tracker.ownExpires setup event = false ∧
          (tracker.fails setup event = true ∨
            tracker.sweepsItself setup event = false ∧
              tracker.sweepsOthers setup event = false)) ∧
      (StepRuns.always (update setup)
          (fun tracker event => !tracker.missesSweep setup event)
          fresh events = true →
        tracker.sweepsItself setup event = false ∧
          tracker.sweepsOthers setup event = false) := by
  intro tracker updated
  have recency : Recency setup tracker _ := recency_run setup events
  have consistent := recency.consistent
  have sameClock : updated.clock = tracker.clock :=
    clock_update_of_late consistent timestamp late
  have expires := @expires_iff setup tracker consistent recency.bounded event
  refine ⟨handed_update consistent event, ?_, ?_⟩
  · have noneExpires :
        (∀ flow ∈ exportedBy setup tracker event, ¬ Expires flow) ↔
          ¬ ∃ flow ∈ exportedBy setup tracker event, Expires flow := by
      simp
    rw [noneExpires, expires]
    cases tracker.ownExpires setup event <;>
      cases tracker.fails setup event <;>
      simp [sameClock]
  · intro onTime
    have timely := timely_run setup onTime
    exact ⟨timely.not_sweepsItself event,
      timely.no_late_sweep timestamp late⟩

/-- A first packet, and two of another host half a minute later. -/
def staleCall : List EventView :=
  let other :=
    fun ts =>
      (tcpSegment ts ⟨lit "10.0.0.7", 50001⟩ ⟨lit "10.0.0.2", 443⟩
        [lit "SYN"]).view
  [(tcpSegment 100 ⟨lit "10.0.0.1", 50000⟩ ⟨lit "10.0.0.2", 443⟩
      [lit "SYN"]).view,
    other (259 / 2), other (1043 / 8)]

/-- The first packet of that call once more, at another time. -/
def lateRetry (ts : Time) : EventView :=
  (tcpSegment ts ⟨lit "10.0.0.1", 50000⟩ ⟨lit "10.0.0.2", 443⟩
    [lit "SYN"]).view

/-- A retry that comes within the handshake timeout expires nothing. -/
theorem lateRetry_expires_none_iff :
    let setup : TrackerSetup := ⟨.empty, none, id⟩
    let tracker :=
      (StepRuns.run (update setup) fresh staleCall).1
    let updated := (tracker.update setup (lateRetry 120)).1
    (setup.onExport ≠ none →
        updated.handed.map Prod.snd =
          tracker.handed.map Prod.snd ++
            exportedBy setup tracker (lateRetry 120)) ∧
      ((updated.clock = tracker.clock ∧
          ∀ flow ∈ exportedBy setup tracker (lateRetry 120),
            ¬ Expires flow) ↔
        tracker.ownExpires setup (lateRetry 120) = false ∧
          (tracker.fails setup (lateRetry 120) = true ∨
            tracker.sweepsItself setup (lateRetry 120) = false ∧
              tracker.sweepsOthers setup (lateRetry 120) = false)) ∧
      (StepRuns.always (update setup)
          (fun tracker event => !tracker.missesSweep setup event)
          fresh staleCall = true →
        tracker.sweepsItself setup (lateRetry 120) = false ∧
          tracker.sweepsOthers setup (lateRetry 120) = false) :=
  late_expires_none_iff ⟨.empty, none, id⟩ staleCall (lateRetry 120) 120
    rfl (by decide +kernel)

/--
A retry that is late by an eighth of a second closes the flow of its own
five-tuple for a handshake timeout.
-/
theorem lateRetry_expires :
    let setup : TrackerSetup := ⟨.empty, none, id⟩
    let tracker :=
      (StepRuns.run (update setup) fresh staleCall).1
    let event := lateRetry (521 / 4)
    event.timestamp = .ok (some (521 / 4)) ∧ 521 / 4 < tracker.clock ∧
      (exportedBy setup tracker event).map Flow.closeReason =
        [some .handshakeTimeout] ∧
      ¬ ∀ flow ∈ exportedBy setup tracker event, ¬ Expires flow := by
  intro setup tracker event
  have reasons :
      (exportedBy setup tracker event).map Flow.closeReason =
        [some .handshakeTimeout] := by
    decide +kernel
  refine ⟨rfl, by decide +kernel, reasons, fun noneExpires => ?_⟩
  obtain ⟨flow, member, isReason⟩ :=
    List.mem_map.mp (reasons ▸ List.mem_singleton_self _)
  exact noneExpires flow member ⟨_, isReason, trivial⟩

end FlowTracker

end IntrusionDetection
