import IntrusionDetection.FlowContext
import IntrusionDetection.FlowTrackerSteps
import IntrusionDetection.StepRuns

namespace IntrusionDetection

open PyText

/-!
# The flow just updated stays live

An update may evict entries and may sweep the whole table, at a clock that is
ahead of a late packet.  While no sweep is overdue, the periodic sweep is due
only when the packet itself moved the clock, so it never exports the flow of
that packet.  A sweep becomes overdue when an exception ends an update that had
to sweep.
-/

/-- An update does not change what the tracker reads from its event. -/
@[simp] theorem view_withResult
    (event : IDSEvent)
    (result : UpdateResult) :
    (event.withResult result).view = event.view := by
  cases result <;> rfl

namespace FlowTracker

variable {setup : TrackerSetup}

/--
A tracker before a packet of a given time: no sweep is overdue, or the packet
is not behind the clock.
-/
structure TimelyAt
    (setup : TrackerSetup)
    (tracker : FlowTracker)
    (ts : Time) : Prop where
  consistent : tracker.Consistent
  swept :
    ∀ time,
      tracker.lastSweep = some time →
      tracker.clock - time < setup.cfg.getSweepInterval ∨
        tracker.clock ≤ ts

/-- A tracker no sweep of which is overdue. -/
structure Timely (setup : TrackerSetup) (tracker : FlowTracker) : Prop where
  consistent : tracker.Consistent
  swept :
    ∀ time,
      tracker.lastSweep = some time →
      tracker.clock - time < setup.cfg.getSweepInterval

/-- Without an overdue sweep a packet may have any time. -/
theorem Timely.timelyAt
    {tracker : FlowTracker}
    (timely : tracker.Timely setup)
    (ts : Time) :
    tracker.TimelyAt setup ts :=
  ⟨timely.consistent, fun time last => Or.inl (timely.swept time last)⟩

/-- A fresh tracker was never swept. -/
theorem timely_fresh : fresh.Timely setup where
  consistent := consistent_fresh
  swept := by
    intro time swept
    cases swept

variable (setup) in
/-- The periodic sweep restarts the interval. -/
theorem periodicSweep_timely
    {tracker : FlowTracker}
    (consistent : tracker.Consistent) :
    (tracker.periodicSweep setup).Timely setup := by
  have positive := getSweepInterval_pos setup.cfg
  have stays : (tracker.periodicSweep setup).Consistent :=
    consistent.finishUpdate setup none
  rcases periodicSweep_cases setup consistent with
    ⟨_, result⟩ | ⟨lastSweep, last, recent, result⟩ |
      ⟨_, swept, _, _, exports, result, _⟩
  · refine ⟨stays, ?_⟩
    intro time isLast
    rw [result] at isLast ⊢
    cases isLast
    simpa using positive
  · refine ⟨stays, ?_⟩
    intro time isLast
    rw [result] at isLast ⊢
    rw [last] at isLast
    cases isLast
    exact recent
  · refine ⟨stays, ?_⟩
    intro time isLast
    rw [result] at isLast ⊢
    cases isLast
    simpa [exports.clock_eq] using positive

/-- A sweep is due only because the packet moved the clock to its own time. -/
theorem clock_of_sweep_due
    {before tracker : FlowTracker}
    {ts lastSweep : Time}
    (timely : before.TimelyAt setup ts)
    (sameSweep : tracker.lastSweep = before.lastSweep)
    (moved : tracker.clock = max before.clock ts)
    (last : tracker.lastSweep = some lastSweep)
    (due : setup.cfg.getSweepInterval ≤ tracker.clock - lastSweep) :
    tracker.clock = ts := by
  rw [moved] at due ⊢
  rcases le_total ts before.clock with late | ahead
  · rcases timely.swept lastSweep (sameSweep ▸ last) with
      recent | inOrder
    · rw [max_eq_left late] at due
      exact absurd recent (not_lt.mpr due)
    · exact max_eq_right inOrder
  · exact max_eq_right ahead

/--
The end of the update of a packet drops an entry only if it is expired at the
time of that packet.
-/
theorem finishUpdate_get?
    {before tracker : FlowTracker}
    {ts : Time}
    (consistent : tracker.Consistent)
    (timely : before.TimelyAt setup ts)
    (sameSweep : tracker.lastSweep = before.lastSweep)
    (moved : tracker.clock = max before.clock ts)
    (raised : Option PyException)
    (key : FlowKey) :
    (tracker.finishUpdate setup raised).table.get? key =
        tracker.table.get? key ∨
      (tracker.finishUpdate setup raised).table.get? key = none ∧
        ∃ entry,
          tracker.table.get? key = some entry ∧
            isExpired entry ts setup.cfg = true := by
  cases raised with
  | some exception =>
      exact Or.inl rfl
  | none =>
      simp only [finishUpdate]
      rcases periodicSweep_cases setup consistent with
        ⟨_, result⟩ | ⟨_, _, _, result⟩ |
          ⟨lastSweep, swept, last, due, _, result, lookup⟩
      · rw [result]
        exact Or.inl rfl
      · rw [result]
        exact Or.inl rfl
      · have atPacket :=
          clock_of_sweep_due timely sameSweep moved last due
        have afterSweep := lookup key
        rw [atPacket] at afterSweep
        rw [result]
        cases live : tracker.table.get? key with
        | none =>
            left
            simp [afterSweep, live]
        | some entry =>
            cases expired : isExpired entry ts setup.cfg with
            | false =>
                left
                simp [afterSweep, live, Option.filter, expired]
            | true =>
                right
                refine ⟨?_, entry, rfl, expired⟩
                simp [afterSweep, live, Option.filter, expired]

/-- The end of an update keeps an entry that was just seen. -/
theorem finishUpdate_keeps
    {before tracker : FlowTracker}
    {ts : Time}
    {key : FlowKey}
    {entry : FlowEntry}
    (timely : before.TimelyAt setup ts)
    (sameSweep : tracker.lastSweep = before.lastSweep)
    (moved : tracker.clock = max before.clock ts)
    (consistent : tracker.Consistent)
    (raised : Option PyException)
    (live : tracker.table.get? key = some entry)
    (seen : ts ≤ entry.flow.lastSeen) :
    (tracker.finishUpdate setup raised).table.get? key = some entry := by
  rcases finishUpdate_get? consistent timely sameSweep moved raised key
    with same | ⟨_, dropped, wasLive, expired⟩
  · rw [same, live]
  · rw [live] at wasLive
    cases wasLive
    rw [not_isExpired_of_le_lastSeen setup.cfg seen] at expired
    cases expired

/-- The recorded entry is live at the end of an update. -/
theorem Attached.recorded_live
    {tracker attached : FlowTracker}
    {packet : TrackedPacket}
    {flags : List Str}
    {entry : FlowEntry}
    (attaching :
      Attached setup (tracker.observe packet.ts) packet flags attached
        entry)
    (timely : tracker.TimelyAt setup packet.ts)
    (event : EventView)
    (raised : Option PyException) :
    ((attached.store packet.key
        (recordPacket setup.cfg entry packet event)).finishUpdate setup
        raised).table.get? packet.key =
      some (recordPacket setup.cfg entry packet event) := by
  have observed := timely.consistent.observe packet.ts
  have stored := attaching.store_consistent observed event
  let recorded := recordPacket setup.cfg entry packet event
  have moved :
      (attached.store packet.key recorded).clock =
        max tracker.clock packet.ts :=
    attaching.clock_eq observed
  have sameSweep :
      (attached.store packet.key recorded).lastSweep =
        tracker.lastSweep :=
    attaching.lastSweep_eq observed
  refine finishUpdate_keeps timely sameSweep moved stored raised
    (by simp [store, recorded]) ?_
  rw [recordPacket_lastSeen]
  exact le_max_right _ _

/-- No sweep is overdue unless one was due. -/
theorem timely_of_not_due
    {tracker next : FlowTracker}
    {ts : Time}
    (consistent : next.Consistent)
    (sameSweep : next.lastSweep = tracker.lastSweep)
    (moved : next.clock = max tracker.clock ts)
    (notDue : tracker.sweepDueAt setup ts = false) :
    next.Timely setup := by
  refine ⟨consistent, fun time last => ?_⟩
  rw [sameSweep] at last
  rw [sweepDueAt, last, Option.any_some, decide_eq_false_iff_not,
    not_le] at notDue
  rw [moved]
  exact notDue

/-- An update that misses no sweep leaves none overdue. -/
theorem Timely.update
    {tracker : FlowTracker}
    (timely : tracker.Timely setup)
    {event : EventView}
    (onTime : tracker.missesSweep setup event = false) :
    (tracker.update setup event).1.Timely setup := by
  cases accepted : trackedPacket? event with
  | none =>
      rw [(update_ignored setup tracker accepted).1]
      exact timely
  | some packet =>
      have observed := timely.consistent.observe packet.ts
      have failing := fails_iff setup timely.consistent accepted
      simp only [missesSweep, accepted, Option.any_some] at onTime
      rw [update_accepted setup tracker accepted]
      rcases track_cases setup timely.consistent packet event with
        ⟨left, _, exports, result⟩ | ⟨attached, entry, attaching, result⟩
      · rw [result] at failing ⊢
        rw [failing.mpr rfl, Bool.true_or, Bool.true_and] at onTime
        have sameSweep : left.lastSweep = tracker.lastSweep :=
          exports.lastSweep_eq
        have moved : left.clock = max tracker.clock packet.ts :=
          exports.clock_eq
        exact timely_of_not_due (exports.consistent observed) sameSweep
          moved onTime
      · have sameSweep : attached.lastSweep = tracker.lastSweep :=
          attaching.lastSweep_eq observed
        have moved : attached.clock = max tracker.clock packet.ts :=
          attaching.clock_eq observed
        have stored := attaching.store_consistent observed event
        rw [result]
        cases fault : event.appFault with
        | none =>
            exact periodicSweep_timely setup stored
        | some exception =>
            rw [fault, Option.isSome_some, Bool.or_true,
              Bool.true_and] at onTime
            exact timely_of_not_due stored sameSweep moved onTime

variable (setup) in
/-- After updates that miss no sweep, none is overdue. -/
theorem timely_run
    {events : List EventView}
    (onTime :
      StepRuns.always (update setup)
        (fun tracker event => !tracker.missesSweep setup event)
        fresh events = true) :
    (StepRuns.run (update setup) fresh events).1.Timely setup :=
  StepRuns.invariant_of_always timely_fresh onTime
    fun _ _ notMissed timely =>
      timely.update (Bool.not_eq_eq_eq_not.mp notMissed)

/-! ### The state of a live flow fits its protocol -/

/-- UDP flows are `ACTIVE` and TCP flows are not. -/
def StatesFit (tracker : FlowTracker) : Prop :=
  ∀ key entry,
    tracker.table.get? key = some entry →
    (entry.flow.protocol = .udp ↔ entry.flow.state = .active)

/-- The state machine leads no TCP flow to `ACTIVE`. -/
theorem nextState_ne_active
    {state : FlowState}
    (notActive : state ≠ .active)
    (flags : PyValue)
    (direction : Direction)
    (ctx : TcpContext)
    (isFirst : Bool) :
    (nextState state flags direction ctx isFirst).1 ≠ .active := by
  simp only [nextState]
  repeat' split
  all_goals first | exact notActive | simp

/-- Recording a packet keeps the state of an entry fitting. -/
theorem stateFits_recordPacket
    {entry : FlowEntry}
    (fits : entry.flow.protocol = .udp ↔ entry.flow.state = .active)
    (cfg : FlowCfg)
    {packet : TrackedPacket}
    (ownKey : entry.flow.key = packet.key)
    (event : EventView) :
    (recordPacket cfg entry packet event).flow.protocol = .udp ↔
      (recordPacket cfg entry packet event).flow.state = .active := by
  have sameProtocol : entry.flow.protocol = packet.protocol :=
    (eq_or_swap_of_makeKey_eq ownKey).1
  rw [recordPacket_protocol]
  simp only [recordPacket, countPacket, advanceState]
  split <;> rename_i isProtocol
  · exact fits
  · have notUdp : entry.flow.protocol ≠ .udp := by
      rw [sameProtocol, isProtocol]
      simp
    have notActive : entry.flow.state ≠ .active :=
      fun active => notUdp (fits.mpr active)
    simp only [notUdp, false_iff]
    exact nextState_ne_active notActive _ _ _ _

/-- Every tracked packet keeps the states fitting. -/
theorem StatesFit.track
    {tracker : FlowTracker}
    (fits : tracker.StatesFit)
    (consistent : tracker.Consistent)
    (packet : TrackedPacket)
    (event : EventView) :
    (tracker.track setup packet event).1.StatesFit := by
  refine live_track consistent fits (fun _ fit => fit) ?_ ?_
  · intro entry fit ownKey
    exact stateFits_recordPacket fit _ ownKey event
  · intro flowId _ _ _ _
    refine stateFits_recordPacket ?_ _ rfl event
    simp only [newEntry, newFlow]
    cases packet.protocol <;> simp

/-- What holds of a tracker that was only ever updated. -/
structure Settled (tracker : FlowTracker) : Prop where
  consistent : tracker.Consistent
  statesFit : tracker.StatesFit

/-- A fresh tracker is settled. -/
theorem settled_fresh : fresh.Settled where
  consistent := consistent_fresh
  statesFit := by
    intro key entry live
    simp [fresh] at live

variable (setup) in
/-- Every update keeps a tracker settled. -/
theorem Settled.update
    {tracker : FlowTracker}
    (settled : tracker.Settled)
    (event : EventView) :
    (tracker.update setup event).1.Settled := by
  cases accepted : trackedPacket? event with
  | none =>
      rw [(update_ignored setup tracker accepted).1]
      exact settled
  | some packet =>
      rw [update_accepted setup tracker accepted]
      exact ⟨settled.consistent.track setup packet event,
        settled.statesFit.track settled.consistent packet event⟩

variable (setup) in
/-- A tracker is settled after every run of updates. -/
theorem settled_run (events : List EventView) :
    (StepRuns.run (update setup) fresh events).1.Settled :=
  StepRuns.invariant_of_step settled_fresh
    fun _ event _ settled => settled.update setup event

/-- A packet that was just recorded is not expired at its own time. -/
theorem not_isExpired_recordPacket
    (cfg : FlowCfg)
    (entry : FlowEntry)
    (packet : TrackedPacket)
    (event : EventView) :
    isExpired (recordPacket cfg entry packet event) packet.ts cfg =
      false := by
  apply not_isExpired_of_le_lastSeen
  rw [recordPacket_lastSeen]
  exact le_max_right _ _

/-- Unless a sweep is overdue, an update does not export its own flow. -/
theorem Timely.not_sweepsItself
    {tracker : FlowTracker}
    (timely : tracker.Timely setup)
    (event : EventView) :
    tracker.sweepsItself setup event = false := by
  simp only [sweepsItself]
  cases trackedPacket? event with
  | none =>
      rfl
  | some packet =>
      rw [Option.any_some]
      cases due : tracker.sweepDueAt setup packet.ts with
      | false =>
          simp
      | true =>
          obtain ⟨lastSweep, last, late⟩ :=
            (Option.any_eq_true _ _).mp due
          have ahead : max tracker.clock packet.ts = packet.ts :=
            @clock_of_sweep_due setup tracker (tracker.observe packet.ts)
              packet.ts lastSweep (timely.timelyAt packet.ts) rfl rfl last
              (of_decide_eq_true late)
          rw [ahead, not_isExpired_recordPacket]
          simp

/-! ### The flow context right after an update -/

/-- The identity of a flow does not matter for when it expires. -/
theorem isExpired_entryOf
    {tracker attached : FlowTracker}
    {packet : TrackedPacket}
    {flags : List Str}
    {entry : FlowEntry}
    (attaching :
      Attached setup (tracker.observe packet.ts) packet flags attached
        entry)
    (event : EventView)
    (now : Time) :
    isExpired
        (recordPacket setup.cfg (tracker.entryOf setup packet flags)
          packet event) now setup.cfg =
      isExpired (recordPacket setup.cfg entry packet event) now
        setup.cfg := by
  cases attaching with
  | joined entry live unexpired noReuse =>
      have found : tracker.table.get? packet.key = some entry := live
      rw [entryOf, found, joinable_of_unexpired unexpired noReuse,
        Option.getD_some]
  | created released flowId release named =>
      have nothing :
          joinable setup.cfg packet flags
            (tracker.table.get? packet.key) = none :=
        (joinable_of_release release :)
      rw [entryOf, nothing, Option.getD_none]
      simp only [recordPacket, advanceState]
      cases packet.protocol <;> rfl

variable (setup) in
/--
The update of a tracked packet that does not fail gives it a place; its flow is
live afterwards unless the sweep of the same update exports it.
-/
theorem update_placed
    {tracker : FlowTracker}
    (consistent : tracker.Consistent)
    {event : EventView}
    {packet : TrackedPacket}
    (accepted : trackedPacket? event = some packet)
    (proceeds : tracker.fails setup event = false) :
    ∃ entry,
      (tracker.update setup event).2 =
          .placed (attachmentOf entry packet) event.appFault ∧
        (tracker.update setup event).1.table.get? packet.key =
          if tracker.sweepsItself setup event then none
          else some entry := by
  have observed := consistent.observe packet.ts
  have failing := fails_iff setup consistent accepted
  rw [update_accepted setup tracker accepted]
  rcases track_cases setup consistent packet event with
    ⟨left, exception, _, result⟩ | ⟨attached, entry, attaching, result⟩
  · rw [result] at failing
    rw [failing.mpr rfl] at proceeds
    cases proceeds
  let recorded := recordPacket setup.cfg entry packet event
  let storedTracker := attached.store packet.key recorded
  have stored : storedTracker.Consistent :=
    attaching.store_consistent observed event
  have sameSweep : storedTracker.lastSweep = tracker.lastSweep :=
    attaching.lastSweep_eq observed
  have moved : storedTracker.clock = max tracker.clock packet.ts :=
    attaching.clock_eq observed
  have live : storedTracker.table.get? packet.key = some recorded := by
    simp [storedTracker, store]
  refine ⟨recorded, by rw [result], ?_⟩
  rw [result]
  simp only [sweepsItself, accepted, Option.any_some,
    isExpired_entryOf attaching]
  cases fault : event.appFault with
  | some exception =>
      exact live
  | none =>
      have swept := periodicSweep_cases setup stored
      simp only [sweepDueAt, ← sameSweep, ← moved, Option.isNone_none,
        Bool.true_and, finishUpdate]
      rcases swept with
        ⟨never, sweeping⟩ | ⟨lastSweep, last, recent, sweeping⟩ |
          ⟨lastSweep, swept, last, due, _, sweeping, lookup⟩
      · simp only [storedTracker, recorded] at sweeping live never ⊢
        rw [sweeping, never]
        exact live
      · simp only [storedTracker, recorded] at sweeping live last recent ⊢
        rw [sweeping, last, Option.any_some,
          decide_eq_false (not_le.mpr recent)]
        exact live
      · have found := lookup packet.key
        simp only [storedTracker, recorded]
          at sweeping live last due found ⊢
        rw [sweeping, last, Option.any_some, decide_eq_true due, found,
          live]
        cases expired :
            isExpired (recordPacket setup.cfg entry packet event)
              (attached.store packet.key
                (recordPacket setup.cfg entry packet event)).clock
              setup.cfg <;>
          simp [Option.filter, expired]

/-- The entry of the packet's key is live after its update only with a place. -/
theorem proceeds_of_live_update
    {tracker : FlowTracker}
    (consistent : tracker.Consistent)
    {event : EventView}
    {packet : TrackedPacket}
    (accepted : trackedPacket? event = some packet)
    (readable : event.flags = .ok event.flagSet)
    {entry : FlowEntry}
    (live :
      (tracker.update setup event).1.table.get? packet.key =
        some entry) :
    tracker.fails setup event = false := by
  have ended := tracking setup consistent packet event
  have observed := consistent.observe packet.ts
  have failing := fails_iff setup consistent accepted
  rw [update_accepted setup tracker accepted] at live
  cases ended with
  | unread exception noFlags left failed =>
      rw [readable] at noFlags
      cases noFlags
  | unnamed released exception flags release noName left failed =>
      obtain ⟨releasing, absent⟩ :=
        Attached.release_exports observed release
      have room :=
        makeRoom_exports setup (releasing.consistent observed)
      rw [left] at live
      cases absent.symm.trans (room.live_before live)
  | recorded attached entry flags attaching left placed =>
      rw [Bool.eq_false_iff, ne_eq, failing, placed]
      exact Option.some_ne_none _

/-- After its update a flow is live unless that failed or exported it. -/
theorem isSome_update_iff
    {tracker : FlowTracker}
    (consistent : tracker.Consistent)
    {event : EventView}
    {packet : TrackedPacket}
    (accepted : trackedPacket? event = some packet)
    (readable : event.flags = .ok event.flagSet) :
    ((tracker.update setup event).1.table.get?
          packet.key).isSome = true ↔
      tracker.fails setup event = false ∧
        tracker.sweepsItself setup event = false := by
  constructor
  · intro isLive
    obtain ⟨entry, live⟩ := Option.isSome_iff_exists.mp isLive
    have proceeds :=
      proceeds_of_live_update consistent accepted readable live
    obtain ⟨_, _, left⟩ := update_placed setup consistent accepted proceeds
    refine ⟨proceeds, ?_⟩
    cases swept : tracker.sweepsItself setup event with
    | false => rfl
    | true =>
        rw [swept, if_pos rfl] at left
        cases left.symm.trans live
  · rintro ⟨proceeds, unswept⟩
    obtain ⟨_, _, live⟩ := update_placed setup consistent accepted proceeds
    rw [live, unswept, if_neg Bool.false_ne_true, Option.isSome_some]

end FlowTracker

/-- Is the flow established, in the sense of a rule's `flow` option? -/
def Flow.IsEstablished (flow : Flow) : Prop :=
  match flow.protocol with
  | .tcp =>
      flow.state = .established ∨ flow.state = .closing ∨
        flow.state = .closed
  | .udp => 0 < flow.bwdPacketCount

theorem Flow.isEstablished_tcp
    {flow : Flow}
    (isTcp : flow.protocol = .tcp) :
    flow.IsEstablished ↔
      flow.state = .established ∨ flow.state = .closing ∨
        flow.state = .closed := by
  rw [IsEstablished, isTcp]

theorem Flow.isEstablished_udp
    {flow : Flow}
    (isUdp : flow.protocol = .udp) :
    flow.IsEstablished ↔ 0 < flow.bwdPacketCount := by
  rw [IsEstablished, isUdp]

namespace FlowTracker

/-- The flow context of a live entry, for an event with its place on it. -/
theorem context_of_live
    {tracker : FlowTracker}
    (settled : tracker.Settled)
    {event : IDSEvent}
    {packet : TrackedPacket}
    (accepted : trackedPacket? event.view = some packet)
    {entry : FlowEntry}
    (live : tracker.table.get? packet.key = some entry)
    (ports : PortsCfg) :
    let returned :=
      event.withResult (.placed (attachmentOf entry packet) none)
    tracker.snapshot returned = some entry.flow ∧
      entry.flow.protocol = packet.protocol ∧
      ∃ context,
        buildFlowContext returned (some entry.flow) ports =
            .ok (some context) ∧
          context.flowId = entry.flow.flowId ∧
          context.state = entry.flow.state ∧
          context.direction = packetDirection entry packet ∧
          context.role =
            some (senderRole (packetDirection entry packet)
              (clientIsA entry.flow (knownPorts ports))) ∧
          (context.established = true ↔ entry.flow.IsEstablished) := by
  intro returned
  have fit := settled.statesFit packet.key entry live
  have ownKey := settled.consistent packet.key entry live
  have sameProtocol : entry.flow.protocol = packet.protocol :=
    (eq_or_swap_of_makeKey_eq ownKey).1
  have found : tracker.snapshot returned = some entry.flow := by
    simp only [returned, snapshot, view_withResult, accepted, live,
      Option.map_some]
  have sameState : returned.flowState = some entry.flow.state :=
    rfl
  have isDirection :
      eventDirection returned entry.flow =
        some (packetDirection entry packet) :=
    rfl
  refine ⟨found, sameProtocol, ?_⟩
  cases protocol : packet.protocol with
  | udp =>
      rw [protocol] at sameProtocol
      obtain ⟨context, built, sameFlow, state, direction, role,
        established⟩ :=
          fromFlow_udp sameProtocol isDirection (knownPorts ports)
      exact ⟨context, built, sameFlow,
        by rw [state, fit.mp sameProtocol], direction, role,
        established.trans (Flow.isEstablished_udp sameProtocol).symm⟩
  | tcp =>
      rw [protocol] at sameProtocol
      have notActive : entry.flow.state ≠ .active := by
        intro active
        rw [fit.mpr active] at sameProtocol
        cases sameProtocol
      obtain ⟨context, built, sameFlow, state, direction, role,
        established⟩ :=
          fromFlow_tcp sameProtocol isDirection sameState notActive
            (knownPorts ports)
      exact ⟨context, built, sameFlow, state, direction, role,
        established.trans (Flow.isEstablished_tcp sameProtocol).symm⟩

end FlowTracker

end IntrusionDetection
