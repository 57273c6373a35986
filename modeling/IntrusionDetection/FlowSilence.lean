import IntrusionDetection.FlowCurrent
import IntrusionDetection.FlowNoninterference

namespace IntrusionDetection

open PyText

/-!
# How long a flow may stay silent

The table is swept only when the clock has moved a whole interval, and a change
of state may shorten the timeout of a flow between two sweeps.  As long as the
packets arrive in the order of their timestamps, a flow still leaves the table
at most one interval after its timeout, unless an exception kept an update from
its sweep.  The clock starts at zero, so a packet counts as seen at zero if its
timestamp is earlier.
-/

/-- The clock at which the flow was last seen. -/
def Flow.seenAt (flow : Flow) : Time :=
  max flow.lastSeen 0

/-- One more event adds its packet, if it has one. -/
theorem packetsOf_concat
    (events : List EventView)
    (event : EventView) :
    packetsOf (events ++ [event]) =
      packetsOf events ++ (trackedPacket? event).toList := by
  cases accepted : trackedPacket? event <;>
    simp [packetsOf, List.filterMap_append, accepted]

namespace FlowTracker

variable {setup : TrackerSetup}

/--
Does an exception keep the update of a tracked event from the sweep that is due
by then, or from starting the first sweep interval?
-/
def skipsSweep
    (setup : TrackerSetup)
    (tracker : FlowTracker)
    (event : EventView) :
    Bool :=
  tracker.missesSweep setup event ||
    ((trackedPacket? event).isSome && event.appFault.isSome &&
      tracker.lastSweep.isNone)

/--
At the last sweep no live flow was silent for longer than its timeout of now.
`sweptFor` measures that silence; it is negative for a flow seen since.
-/
structure Watched
    (setup : TrackerSetup)
    (tracker : FlowTracker)
    (packets : List TrackedPacket) : Prop where
  timely : tracker.Timely setup
  clock :
    ∀ bound,
      0 ≤ bound →
      (∀ packet ∈ packets, packet.ts ≤ bound) →
      tracker.clock ≤ bound
  past : ∀ time, tracker.lastSweep = some time → time ≤ tracker.clock
  sweptFor :
    ∀ key entry,
      tracker.table.get? key = some entry →
      ∃ time,
        tracker.lastSweep = some time ∧
          time - entry.flow.seenAt ≤ timeoutFor entry setup.cfg

/-- A fresh tracker watches no flow. -/
theorem watched_fresh : Watched setup fresh [] where
  timely := timely_fresh
  clock := fun _ positive _ => positive
  past := by
    intro time swept
    cases swept
  sweptFor := by
    intro key entry live
    simp [fresh] at live

/-- A live flow is silent for at most its timeout and one sweep interval. -/
theorem Watched.silence
    {tracker : FlowTracker}
    {packets : List TrackedPacket}
    (watched : Watched setup tracker packets)
    {key : FlowKey}
    {entry : FlowEntry}
    (live : tracker.table.get? key = some entry) :
    tracker.clock - entry.flow.seenAt ≤
      timeoutFor entry setup.cfg + setup.cfg.getSweepInterval := by
  obtain ⟨time, last, silent⟩ := watched.sweptFor key entry live
  have recent := watched.timely.swept time last
  linarith

variable (setup) in
/-- A flow seen at the clock is not silent, whatever the last sweep. -/
theorem not_silent_of_seen
    {entry : FlowEntry}
    {clock time : Time}
    (seen : clock ≤ entry.flow.seenAt)
    (past : time ≤ clock) :
    time - entry.flow.seenAt ≤ timeoutFor entry setup.cfg := by
  have positive := timeoutFor_pos entry setup.cfg
  linarith

/--
The end of an update watches every live flow if, before it, every one was
watched since the last sweep or has just been seen.
-/
theorem finishUpdate_watches
    {tracker : FlowTracker}
    (consistent : tracker.Consistent)
    {raised : Option PyException}
    (noted : raised.isSome = true → tracker.lastSweep.isSome = true)
    (past : ∀ time, tracker.lastSweep = some time → time ≤ tracker.clock)
    (watched :
      ∀ key entry,
        tracker.table.get? key = some entry →
        tracker.clock ≤ entry.flow.seenAt ∨
          ∃ time,
            tracker.lastSweep = some time ∧
              time - entry.flow.seenAt ≤ timeoutFor entry setup.cfg) :
    (∀ time,
        (tracker.finishUpdate setup raised).lastSweep = some time →
        time ≤ tracker.clock) ∧
      ∀ key entry,
        (tracker.finishUpdate setup raised).table.get? key =
            some entry →
        ∃ time,
          (tracker.finishUpdate setup raised).lastSweep = some time ∧
            time - entry.flow.seenAt ≤ timeoutFor entry setup.cfg := by
  have unswept :
      ∀ lastSweep,
        tracker.lastSweep = some lastSweep →
        ∀ key entry,
          tracker.table.get? key = some entry →
          ∃ time,
            tracker.lastSweep = some time ∧
              time - entry.flow.seenAt ≤ timeoutFor entry setup.cfg := by
    intro lastSweep last key entry live
    rcases watched key entry live with seen | silent
    · exact ⟨lastSweep, last,
        not_silent_of_seen setup seen (past lastSweep last)⟩
    · exact silent
  cases raised with
  | some exception =>
      obtain ⟨lastSweep, last⟩ := Option.isSome_iff_exists.mp (noted rfl)
      exact ⟨past, unswept lastSweep last⟩
  | none =>
      simp only [finishUpdate]
      rcases periodicSweep_cases setup consistent with
        ⟨never, result⟩ | ⟨lastSweep, last, _, result⟩ |
          ⟨_, swept, _, _, _, result, lookup⟩
      · rw [result]
        refine ⟨fun time isLast => (Option.some.inj isLast).ge, ?_⟩
        intro key entry live
        refine ⟨tracker.clock, rfl, ?_⟩
        rcases watched key entry live with seen | ⟨time, last, _⟩
        · exact not_silent_of_seen setup seen le_rfl
        · rw [never] at last
          cases last
      · rw [result]
        exact ⟨past, unswept lastSweep last⟩
      · rw [result]
        refine ⟨fun time isLast => (Option.some.inj isLast).ge, ?_⟩
        intro key entry live
        refine ⟨tracker.clock, rfl, ?_⟩
        -- Whatever its timeout was before, the flow was kept at this clock.
        have kept :
            (tracker.table.get? key).filter
                (fun entry => !isExpired entry tracker.clock setup.cfg) =
              some entry :=
          (lookup key).symm.trans live
        obtain ⟨_, unexpired⟩ := Option.filter_eq_some_iff.mp kept
        have inTime :
            tracker.clock - entry.flow.lastSeen ≤
              timeoutFor entry setup.cfg := by
          simpa [isExpired] using unexpired
        have seen : entry.flow.lastSeen ≤ entry.flow.seenAt :=
          le_max_left _ _
        linarith

/-- The clock stays below every bound of the packets so far and the next. -/
theorem Watched.clock_le
    {tracker : FlowTracker}
    {packets : List TrackedPacket}
    (watched : Watched setup tracker packets)
    {packet : TrackedPacket}
    {bound : Time}
    (positive : 0 ≤ bound)
    (below : ∀ other ∈ packets ++ [packet], other.ts ≤ bound) :
    max tracker.clock packet.ts ≤ bound := by
  refine max_le (watched.clock bound positive ?_) (below packet (by simp))
  exact fun earlier member => below earlier (by simp [member])

/-- A packet with a place that is not late keeps every flow watched. -/
theorem Watched.recorded
    {tracker : FlowTracker}
    {packets : List TrackedPacket}
    (watched : Watched setup tracker packets)
    {packet : TrackedPacket}
    {event : EventView}
    (inOrder : ∀ earlier ∈ packets, earlier.ts ≤ packet.ts)
    {attached : FlowTracker}
    {entry : FlowEntry}
    (attaching :
      Attached setup (tracker.observe packet.ts) packet event.flagSet
        attached entry)
    {raised : Option PyException}
    (noted : raised.isSome = true → tracker.lastSweep.isSome = true)
    {next : FlowTracker}
    (left :
      next =
        (attached.store packet.key
          (recordPacket setup.cfg entry packet event)).finishUpdate setup
          raised)
    (timely : next.Timely setup) :
    Watched setup next (packets ++ [packet]) := by
  have observed := watched.timely.consistent.observe packet.ts
  have stored := attaching.store_consistent observed event
  let recorded := recordPacket setup.cfg entry packet event
  let storedTracker := attached.store packet.key recorded
  have storedClock : storedTracker.clock = max tracker.clock packet.ts :=
    attaching.clock_eq observed
  have storedSweep : storedTracker.lastSweep = tracker.lastSweep :=
    attaching.lastSweep_eq observed
  have clock : next.clock = storedTracker.clock := by
    rw [left]
    exact clock_finishUpdate setup stored raised
  have past :
      ∀ time,
        storedTracker.lastSweep = some time →
        time ≤ storedTracker.clock := by
    intro time last
    rw [storedSweep] at last
    rw [storedClock]
    exact le_max_of_le_left (watched.past time last)
  have recordedSeen : storedTracker.clock ≤ recorded.flow.seenAt := by
    have reached : tracker.clock ≤ max packet.ts 0 :=
      watched.clock _ (le_max_right _ _)
        fun earlier member => le_max_of_le_left (inOrder earlier member)
    have lastSeen : packet.ts ≤ recorded.flow.lastSeen := by
      simp [recorded]
    rw [storedClock]
    refine (max_le reached (le_max_left _ _)).trans ?_
    exact max_le_max lastSeen le_rfl
  have watchedBefore :
      ∀ key other,
        storedTracker.table.get? key = some other →
        storedTracker.clock ≤ other.flow.seenAt ∨
          ∃ time,
            storedTracker.lastSweep = some time ∧
              time - other.flow.seenAt ≤ timeoutFor other setup.cfg := by
    intro key other live
    by_cases own : key = packet.key
    · subst own
      simp only [storedTracker, store, OrderedDict.get?_insertLast_same,
        Option.some.injEq] at live
      rw [← live]
      exact Or.inl recordedSeen
    · simp only [storedTracker, store] at live
      rw [OrderedDict.get?_insertLast_other _ own] at live
      rw [storedSweep]
      refine Or.inr (watched.sweptFor key other ?_)
      rcases attaching.exports observed with
        ⟨same, _⟩ | ⟨roomy, _, exports, _, same, _⟩
      · rw [same] at live
        exact live
      · rw [same] at live
        exact exports.live_before live
  have stillNoted :
      raised.isSome = true → storedTracker.lastSweep.isSome = true := by
    rw [storedSweep]
    exact noted
  obtain ⟨pastAfter, sweptFor⟩ :=
    finishUpdate_watches stored stillNoted past watchedBefore
  refine ⟨timely, ?_, ?_, ?_⟩
  · intro bound positive below
    rw [clock, storedClock]
    exact watched.clock_le positive below
  · rw [clock, left]
    exact pastAfter
  · rw [left]
    exact sweptFor

/-- A packet that does not arrive late keeps every flow watched. -/
theorem Watched.track
    {tracker : FlowTracker}
    {packets : List TrackedPacket}
    (watched : Watched setup tracker packets)
    {packet : TrackedPacket}
    {event : EventView}
    (accepted : trackedPacket? event = some packet)
    (inOrder : ∀ earlier ∈ packets, earlier.ts ≤ packet.ts)
    (sweeps : tracker.skipsSweep setup event = false) :
    Watched setup (tracker.track setup packet event).1
      (packets ++ [packet]) := by
  have consistent := watched.timely.consistent
  have observed := consistent.observe packet.ts
  obtain ⟨onTime, unskipped⟩ := Bool.or_eq_false_iff.mp sweeps
  have timely := watched.timely.update onTime
  rw [update_accepted setup tracker accepted] at timely
  have noted :
      event.appFault.isSome = true → tracker.lastSweep.isSome = true := by
    intro raised
    simpa [accepted, raised] using unskipped
  rcases track_cases setup consistent packet event with
    ⟨left, _, exports, result⟩ | ⟨attached, entry, attaching, result⟩
  · have moved : left.clock = max tracker.clock packet.ts :=
      exports.clock_eq
    have sameSweep : left.lastSweep = tracker.lastSweep :=
      exports.lastSweep_eq
    rw [result] at timely ⊢
    refine ⟨timely, ?_, ?_, ?_⟩
    · intro bound positive below
      simp only [moved]
      exact watched.clock_le positive below
    · intro time last
      simp only [sameSweep, moved] at last ⊢
      exact le_max_of_le_left (watched.past time last)
    · intro key other live
      simp only [sameSweep]
      exact watched.sweptFor key other (exports.live_before live)
  · exact watched.recorded inOrder attaching noted
      (congrArg Prod.fst result) timely

variable (setup) in
/--
After updates in order of their timestamps that skip no sweep, every flow is
watched.
-/
theorem watched_run
    (events : List EventView)
    (ordered :
      (packetsOf events).Pairwise
        fun earlier later => earlier.ts ≤ later.ts)
    (sweeps :
      StepRuns.always (update setup)
        (fun tracker event => !tracker.skipsSweep setup event)
        fresh events = true) :
    Watched setup (StepRuns.run (update setup) fresh events).1
      (packetsOf events) := by
  induction events using List.reverseRecOn with
  | nil =>
      exact watched_fresh
  | append_singleton events event inductionHypothesis =>
      rw [StepRuns.always_snoc, Bool.and_eq_true,
        Bool.not_eq_eq_eq_not, Bool.not_true] at sweeps
      obtain ⟨sweptBefore, sweepsNow⟩ := sweeps
      rw [packetsOf_concat] at ordered ⊢
      rw [StepRuns.run_snoc]
      cases accepted : trackedPacket? event with
      | none =>
          simp only [accepted, Option.toList_none, List.append_nil]
            at ordered ⊢
          rw [(update_ignored setup _ accepted).1]
          exact inductionHypothesis ordered sweptBefore
      | some packet =>
          simp only [accepted, Option.toList_some] at ordered ⊢
          rw [update_accepted setup _ accepted]
          obtain ⟨earlierOrdered, _, inOrder⟩ :=
            List.pairwise_append.mp ordered
          have watched := inductionHypothesis earlierOrdered sweptBefore
          refine watched.track accepted ?_ sweepsNow
          exact fun earlier member =>
            inOrder earlier member packet (List.mem_singleton_self _)

/--
After updates in the order of their timestamps none of which an exception kept
from its sweep, every flow still in the table has been silent for at most the
timeout of its present state and one sweep interval.  The clock starts at zero:
a flow last seen before zero counts as seen at zero.
-/
theorem silence_bounded
    (setup : TrackerSetup)
    (events : List EventView)
    (ordered :
      (packetsOf events).Pairwise
        fun earlier later => earlier.ts ≤ later.ts)
    (sweeps :
      StepRuns.always (update setup)
        (fun tracker event => !tracker.skipsSweep setup event)
        fresh events = true) :
    let tracker := (StepRuns.run (update setup) fresh events).1
    ∀ key entry,
      tracker.table.get? key = some entry →
      tracker.clock - max entry.flow.lastSeen 0 ≤
          timeoutFor entry setup.cfg + setup.cfg.getSweepInterval ∧
        (0 ≤ entry.flow.lastSeen →
          tracker.clock - entry.flow.lastSeen ≤
            timeoutFor entry setup.cfg + setup.cfg.getSweepInterval) := by
  intro tracker key entry live
  have silence := (watched_run setup events ordered sweeps).silence live
  refine ⟨silence, fun seenLater => ?_⟩
  rwa [Flow.seenAt, max_eq_left seenLater] at silence

/-- A connection that is refused, which shortens its timeout. -/
def refusedCall (start : Time) : List EventView :=
  [(tcpSegment start ⟨lit "10.0.0.1", 50000⟩ ⟨lit "10.0.0.2", 443⟩
      [lit "SYN"]).view,
    (tcpSegment (start + 20) ⟨lit "10.0.0.2", 443⟩
      ⟨lit "10.0.0.1", 50000⟩ [lit "RST", lit "ACK"]).view]

/-- The refused connection leaves the table in time. -/
theorem refusedCall_bounded :
    let setup : TrackerSetup := ⟨.empty, none, id⟩
    let tracker :=
      (StepRuns.run (update setup) fresh (refusedCall 100)).1
    ∀ key entry,
      tracker.table.get? key = some entry →
      tracker.clock - max entry.flow.lastSeen 0 ≤
          timeoutFor entry setup.cfg + setup.cfg.getSweepInterval ∧
        (0 ≤ entry.flow.lastSeen →
          tracker.clock - entry.flow.lastSeen ≤
            timeoutFor entry setup.cfg + setup.cfg.getSweepInterval) :=
  silence_bounded ⟨.empty, none, id⟩ (refusedCall 100)
    (by decide +kernel) (by decide +kernel)

/-- A flow last seen long before zero, where the clock starts, overstays. -/
theorem earlyCall_overstays :
    let setup : TrackerSetup := ⟨.empty, none, id⟩
    let events := refusedCall (-1000)
    let tracker := (StepRuns.run (update setup) fresh events).1
    ((packetsOf events).Pairwise
        fun earlier later => earlier.ts ≤ later.ts) ∧
      StepRuns.always (update setup)
          (fun tracker event => !tracker.skipsSweep setup event)
          fresh events = true ∧
      ∃ key entry,
        tracker.table.get? key = some entry ∧
          timeoutFor entry setup.cfg + setup.cfg.getSweepInterval <
            tracker.clock - entry.flow.lastSeen := by
  intro setup events tracker
  let key := makeKey .tcp (lit "10.0.0.1") 50000 (lit "10.0.0.2") 443
  have overstays :
      (tracker.table.get? key).any (fun entry =>
        timeoutFor entry setup.cfg + setup.cfg.getSweepInterval <
          tracker.clock - entry.flow.lastSeen) = true := by
    decide +kernel
  obtain ⟨entry, live, late⟩ := (Option.any_eq_true _ _).mp overstays
  exact ⟨by decide +kernel, by decide +kernel, key, entry, live,
    of_decide_eq_true late⟩

end FlowTracker

end IntrusionDetection
