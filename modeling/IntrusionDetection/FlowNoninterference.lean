import IntrusionDetection.FlowCurrent
import Mathlib.Data.List.Pairwise

namespace IntrusionDetection

open PyText

/-!
# Flows do not interfere

A tracker fed every event and a tracker fed only the events of one key treat
that key alike, provided time never runs backwards and no flow is evicted.  The
two runs are compared through what they say about the key: its live entry and
its records, handed over or live, up to object identity and close reason.  They
differ only while the full run has already swept an entry that the other run
still holds, and that entry is expired for every packet still to come.
-/

/-- The record without the reason it was closed for. -/
def Flow.withoutReason (flow : Flow) : Flow :=
  { flow with closeReason := none }

@[simp] theorem withoutReason_closeWith
    (flow : Flow)
    (reason : CloseReason) :
    (flow.closeWith reason).withoutReason = flow.withoutReason :=
  rfl

/-- The entry without the identity of its `Flow` object. -/
def FlowEntry.anonymous (entry : FlowEntry) : FlowEntry :=
  { entry with serial := 0 }

/-- The configuration with another `sweep_interval_sec`. -/
def FlowCfg.withSweepInterval (cfg : FlowCfg) (value : CfgValue) : FlowCfg :=
  { cfg with sweepIntervalSec := value }

/-- Is the event tracked under a given key? -/
def hasKey (key : FlowKey) (event : EventView) : Bool :=
  (trackedPacket? event).any fun packet => packet.key = key

/-- The tracked packets of some events. -/
def packetsOf (events : List EventView) : List TrackedPacket :=
  events.filterMap trackedPacket?

section Anonymous

variable (cfg : FlowCfg) (value : CfgValue) (entry : FlowEntry)
variable (packet : TrackedPacket) (event : EventView) (flags : List Str)

/-- The identity of an object does not influence what is recorded on it. -/
theorem recordPacket_anonymous :
    (recordPacket cfg entry packet event).anonymous =
      recordPacket cfg entry.anonymous packet event := by
  simp only [recordPacket, advanceState, FlowEntry.anonymous,
    packetDirection]
  split <;> rfl

end Anonymous

/-- How an update ended, without the identity of the flow. -/
def UpdateResult.anonymous : UpdateResult → UpdateResult
  | .skipped => .skipped
  | .failed exception => .failed exception
  | .placed attachment raised =>
      .placed { attachment with serial := 0 } raised

namespace FlowTracker

/-! ### What a tracker says about one key -/

/-- The live entry of a key, without its identity. -/
def liveAt (tracker : FlowTracker) (key : FlowKey) : Option FlowEntry :=
  (tracker.table.get? key).map FlowEntry.anonymous

/-- The exported records of a key, without their close reasons. -/
def exportedAt (tracker : FlowTracker) (key : FlowKey) : List Flow :=
  ((tracker.handed.map Prod.snd).filter fun flow => flow.key = key).map
    Flow.withoutReason

/-- The records of a key, exported or live. -/
def recordsAt (tracker : FlowTracker) (key : FlowKey) : List Flow :=
  tracker.exportedAt key ++
    (tracker.liveAt key).toList.map fun entry => entry.flow.withoutReason

/-- Serve one event; the output is what `update` does to the event. -/
def follow
    (setup : TrackerSetup)
    (tracker : FlowTracker)
    (event : EventView) :
    FlowTracker × UpdateResult :=
  let (next, result) := tracker.update setup event
  (next, result.anonymous)

/-- Does step 4.1 of the update find the table full? -/
def evicts
    (setup : TrackerSetup)
    (tracker : FlowTracker)
    (event : EventView) :
    Bool :=
  match trackedPacket? event, event.flags with
  | some packet, .ok flags =>
      let (released, live) :=
        (tracker.observe packet.ts).releaseStale setup packet flags
      live.isNone && setup.cfg.getMaxActiveFlows ≤ released.table.size
  | _, _ => false

/-- No flow is evicted while the events are served. -/
def evictionFree
    (setup : TrackerSetup) :
    FlowTracker → List EventView → Bool :=
  StepRuns.always (follow setup)
    fun tracker event => !tracker.evicts setup event

/-- The entry a packet is recorded on, without its identity, if there is one. -/
def startingEntry
    (digest : Str → Str)
    (packet : TrackedPacket)
    (joined : Option FlowEntry) :
    Except PyException FlowEntry :=
  match joined with
  | some entry => .ok entry
  | none =>
      (makeFlowId digest packet.key packet.ts).map fun flowId =>
        newEntry (newFlow flowId packet) 0

/-- What a tracker says about a key, and how the last update ended. -/
structure KeyView where
  live : Option FlowEntry
  records : List Flow
  result : UpdateResult

/--
What an update of a packet with readable flags leaves at its key, from what was
live and recorded there.
-/
def keyAfter
    (setup : TrackerSetup)
    (packet : TrackedPacket)
    (event : EventView)
    (joined : Option FlowEntry)
    (records : List Flow) :
    KeyView :=
  match startingEntry setup.digest packet joined with
  | .error exception => ⟨none, records, .failed exception⟩
  | .ok entry =>
      let recorded := recordPacket setup.cfg entry packet event
      { live := some recorded
        records :=
          records.take (records.length - joined.toList.length) ++
            [recorded.flow.withoutReason]
        result :=
          .placed { attachmentOf recorded packet with serial := 0 }
            event.appFault }

/-- The identity of an entry does not decide whether a packet may join it. -/
theorem joinable_anonymous
    (cfg : FlowCfg)
    (packet : TrackedPacket)
    (flags : List Str)
    (live : Option FlowEntry) :
    joinable cfg packet flags (live.map FlowEntry.anonymous) =
      (joinable cfg packet flags live).map FlowEntry.anonymous := by
  cases live with
  | none =>
      rfl
  | some entry =>
      have sameExpired :
          isExpired entry.anonymous packet.ts cfg =
            isExpired entry packet.ts cfg :=
        rfl
      have sameReuse :
          isPortReuse entry.anonymous packet flags =
            isPortReuse entry packet flags :=
        rfl
      simp only [joinable, Option.map_some, Option.filter, sameExpired,
        sameReuse]
      split <;> rfl

section Callback

variable {setup : TrackerSetup}
variable {callback : List Flow → Flow → Except PyException Unit}
variable (hasCallback : setup.onExport = some callback)

include hasCallback

/-- A hand-over turns the live record of a key into an exported one. -/
theorem recordsAt_handOver
    {tracker : FlowTracker}
    {entry : FlowEntry}
    (reason : CloseReason)
    (live : tracker.table.get? entry.flow.key = some entry)
    (key : FlowKey) :
    (tracker.handOver setup entry reason).recordsAt key =
      tracker.recordsAt key := by
  have sameKey : (entry.flow.closeWith reason).key = entry.flow.key := rfl
  by_cases own : entry.flow.key = key
  · subst own
    simp [recordsAt, exportedAt, liveAt, callsOf, hasCallback, live,
      sameKey, FlowEntry.anonymous, List.filter_append]
  · have other : key ≠ entry.flow.key := fun same => own same.symm
    simp [recordsAt, exportedAt, liveAt, callsOf, hasCallback, own,
      sameKey, List.filter_append,
      OrderedDict.get?_remove_other _ other]

/-- Exports keep the records of every key. -/
theorem Exports.recordsAt_eq
    {tracker final : FlowTracker}
    (exports : Exports setup tracker final)
    (key : FlowKey) :
    final.recordsAt key = tracker.recordsAt key := by
  induction exports with
  | nil tracker =>
      rfl
  | cons entry reason live fits _ inductionHypothesis =>
      rw [inductionHypothesis, recordsAt_handOver hasCallback reason live]

/-- The end of an update keeps the records of every key. -/
theorem recordsAt_finishUpdate
    {tracker : FlowTracker}
    (consistent : tracker.Consistent)
    (raised : Option PyException)
    (key : FlowKey) :
    (tracker.finishUpdate setup raised).recordsAt key =
      tracker.recordsAt key := by
  obtain ⟨swept, _, exports, result⟩ :=
    finishUpdate_exports setup consistent raised
  rw [result]
  exact exports.recordsAt_eq hasCallback key

end Callback

/-! ### A step on the key's own packet -/

section Steps

variable {setup : TrackerSetup}

/-- Storing an entry under a key changes what is live at that key only. -/
theorem liveAt_store_other
    (tracker : FlowTracker)
    {key other : FlowKey}
    (different : other ≠ key)
    (entry : FlowEntry) :
    (tracker.store key entry).liveAt other = tracker.liveAt other := by
  simp [liveAt, store, OrderedDict.get?_insertLast_other _ different]

@[simp] theorem liveAt_store_same
    (tracker : FlowTracker)
    (key : FlowKey)
    (entry : FlowEntry) :
    (tracker.store key entry).liveAt key = some entry.anonymous := by
  simp [liveAt, store]

/-- What a packet may join, and what is left at its key if it joins nothing. -/
theorem released_view
    {callback : List Flow → Flow → Except PyException Unit}
    (hasCallback : setup.onExport = some callback)
    {observed released : FlowTracker}
    {packet : TrackedPacket}
    {flags : List Str}
    (consistent : observed.Consistent)
    (release :
      observed.releaseStale setup packet flags = (released, none)) :
    joinable setup.cfg packet flags (observed.liveAt packet.key) = none ∧
      (released.makeRoom setup).liveAt packet.key = none ∧
      ∀ key,
        (released.makeRoom setup).recordsAt key =
          observed.recordsAt key := by
  obtain ⟨releasing, absent⟩ := Attached.release_exports consistent release
  have room := makeRoom_exports setup (releasing.consistent consistent)
  refine ⟨?_, ?_, (releasing.append room).recordsAt_eq hasCallback⟩
  · rw [liveAt, joinable_anonymous, joinable_of_release release,
      Option.map_none]
  · cases after : (released.makeRoom setup).table.get? packet.key with
    | none =>
        simp [liveAt, after]
    | some remaining =>
        cases absent.symm.trans (room.live_before after)

/--
The entry a packet is recorded on, and the records exported at its key by
then, are determined by what was live and recorded at that key before.
-/
theorem Attached.view
    {callback : List Flow → Flow → Except PyException Unit}
    (hasCallback : setup.onExport = some callback)
    {observed attached : FlowTracker}
    {packet : TrackedPacket}
    {flags : List Str}
    {entry : FlowEntry}
    (attaching : Attached setup observed packet flags attached entry)
    (consistent : observed.Consistent) :
    let joined :=
      joinable setup.cfg packet flags (observed.liveAt packet.key)
    startingEntry setup.digest packet joined = .ok entry.anonymous ∧
      attached.exportedAt packet.key =
        (observed.recordsAt packet.key).take
          ((observed.recordsAt packet.key).length -
            joined.toList.length) := by
  intro joined
  cases attaching with
  | joined entry live unexpired noReuse =>
      have isJoined : joined = some entry.anonymous := by
        unfold joined liveAt
        rw [joinable_anonymous, live,
          joinable_of_unexpired unexpired noReuse, Option.map_some]
      rw [isJoined]
      refine ⟨rfl, ?_⟩
      simp [recordsAt, liveAt, live]
  | created released flowId release named =>
      obtain ⟨notJoined, gone, sameRecords⟩ :=
        released_view hasCallback consistent release
      have nothing : joined = none := notJoined
      rw [nothing]
      constructor
      · simp only [startingEntry, named]
        rfl
      · have exported :
            (released.makeRoom setup).countCreated.exportedAt packet.key =
              (released.makeRoom setup).exportedAt packet.key :=
          rfl
        rw [← sameRecords packet.key, exported]
        simp [recordsAt, gone]

/-- An update that cannot read the flags leaves what is at every key. -/
theorem follow_unread
    {tracker : FlowTracker}
    {packet : TrackedPacket}
    {event : EventView}
    (accepted : trackedPacket? event = some packet)
    {exception : PyException}
    (unread : event.flags = .error exception) :
    tracker.follow setup event =
      (tracker.observe packet.ts, .failed exception) := by
  simp only [follow, update_accepted setup tracker accepted, track, unread]
  rfl

/--
After the update of a packet, what the tracker says about its key depends only
on what it said before.
-/
theorem follow_own
    {callback : List Flow → Flow → Except PyException Unit}
    (hasCallback : setup.onExport = some callback)
    {tracker : FlowTracker}
    {packet : TrackedPacket}
    (timely : tracker.TimelyAt setup packet.ts)
    {event : EventView}
    (accepted : trackedPacket? event = some packet)
    (readable : event.flags = .ok event.flagSet) :
    let joined :=
      joinable setup.cfg packet event.flagSet (tracker.liveAt packet.key)
    let after := tracker.follow setup event
    (⟨after.1.liveAt packet.key, after.1.recordsAt packet.key, after.2⟩ :
        KeyView) =
      keyAfter setup packet event joined
        (tracker.recordsAt packet.key) := by
  intro joined after
  have observed := timely.consistent.observe packet.ts
  have followed :
      after =
        ((tracker.track setup packet event).1,
          (tracker.track setup packet event).2.anonymous) := by
    simp only [after, follow, update_accepted setup tracker accepted]
  have ended := tracking setup timely.consistent packet event
  rw [followed]
  cases ended with
  | unread exception noFlags left failed =>
      rw [readable] at noFlags
      cases noFlags
  | unnamed released exception flags release noName left failed =>
      obtain ⟨notJoined, gone, sameRecords⟩ :=
        released_view hasCallback observed release
      have nothing : joined = none := notJoined
      have noEntry :
          startingEntry setup.digest packet joined =
            .error exception := by
        rw [nothing, startingEntry, noName]
        rfl
      have records :
          (released.makeRoom setup).recordsAt packet.key =
            tracker.recordsAt packet.key :=
        sameRecords packet.key
      rw [left, failed, keyAfter, noEntry, gone, records]
      rfl
  | recorded attached entry flags attaching left placed =>
      obtain ⟨isEntry, exported⟩ := attaching.view hasCallback observed
      have start :
          startingEntry setup.digest packet joined =
            .ok entry.anonymous :=
        isEntry
      have live :=
        attaching.recorded_live timely event event.appFault
      have stored := attaching.store_consistent observed event
      have sameRecorded := recordPacket_anonymous setup.cfg entry packet event
      simp only [left, placed, keyAfter, start, liveAt, live,
        Option.map_some, recordsAt_finishUpdate hasCallback stored,
        sameRecorded]
      simp only [recordsAt, liveAt_store_same, Option.toList_some,
        List.map_cons, List.map_nil, sameRecorded]
      have exportedStore :
          (attached.store packet.key
            (recordPacket setup.cfg entry packet event)).exportedAt
              packet.key =
            attached.exportedAt packet.key :=
        rfl
      rw [exportedStore, exported, ← sameRecorded]
      rfl

/-! ### A step on another packet -/

/-- Without eviction, a release for a packet leaves the other keys alone. -/
theorem get?_makeRoom_other
    {observed released : FlowTracker}
    {packet : TrackedPacket}
    {flags : List Str}
    {key : FlowKey}
    (consistent : observed.Consistent)
    (different : key ≠ packet.key)
    (release :
      observed.releaseStale setup packet flags = (released, none))
    (hasRoom : released.table.size < setup.cfg.getMaxActiveFlows) :
    (released.makeRoom setup).table.get? key =
      observed.table.get? key := by
  rw [makeRoom_of_lt hasRoom]
  rcases releaseStale_cases setup consistent packet flags with
    ⟨_, result⟩ | ⟨stale, reason, _, ownKey, _, _, _, result⟩ |
      ⟨_, _, _, _, result⟩
  · rw [release] at result
    cases result
    rfl
  · rw [release] at result
    cases result
    rw [table_handOver, ownKey,
      OrderedDict.get?_remove_other _ different]
  · rw [release] at result
    cases result

/--
The update of a packet of another key keeps the records of a key; its live
entry may go only if it is expired at the time of that packet.
-/
theorem follow_foreign
    {callback : List Flow → Flow → Except PyException Unit}
    (hasCallback : setup.onExport = some callback)
    {tracker : FlowTracker}
    {event : EventView}
    (timely :
      ∀ packet,
        trackedPacket? event = some packet →
        tracker.TimelyAt setup packet.ts)
    {key : FlowKey}
    (foreign : hasKey key event = false)
    (noEviction : tracker.evicts setup event = false) :
    let after := (tracker.follow setup event).1
    after.recordsAt key = tracker.recordsAt key ∧
      (after.liveAt key = tracker.liveAt key ∨
        after.liveAt key = none ∧
          ∃ packet entry,
            trackedPacket? event = some packet ∧
              tracker.liveAt key = some entry ∧
              isExpired entry packet.ts setup.cfg = true) := by
  intro after
  cases accepted : trackedPacket? event with
  | none =>
      have unchanged : after = tracker :=
        (update_ignored setup tracker accepted).1
      rw [unchanged]
      exact ⟨rfl, Or.inl rfl⟩
  | some packet =>
      simp only [hasKey, accepted, Option.any_some,
        decide_eq_false_iff_not] at foreign
      have different : key ≠ packet.key := fun same => foreign same.symm
      have atPacket := timely packet accepted
      have observed := atPacket.consistent.observe packet.ts
      have hasRoom (flags : event.flags = .ok event.flagSet) :
          ∀ released,
            (tracker.observe packet.ts).releaseStale setup packet
                event.flagSet = (released, none) →
              released.table.size < setup.cfg.getMaxActiveFlows := by
        intro released release
        rw [evicts, accepted, flags] at noEviction
        simpa [release] using noEviction
      have tracked : after = (tracker.track setup packet event).1 := by
        simp only [after, follow, update_accepted setup tracker accepted]
      have ended := tracking setup atPacket.consistent packet event
      rw [tracked]
      cases ended with
      | unread exception noFlags left failed =>
          rw [left]
          exact ⟨rfl, Or.inl rfl⟩
      | unnamed released exception flags release noName left failed =>
          have sameRecords :=
            (released_view hasCallback observed release).2.2 key
          have untouched :=
            get?_makeRoom_other observed different release
              (hasRoom flags released release)
          rw [left]
          refine ⟨sameRecords, Or.inl ?_⟩
          exact congrArg (Option.map FlowEntry.anonymous) untouched
      | recorded attached entry flags attaching left placed =>
          have untouched :
              attached.table.get? key =
                (tracker.observe packet.ts).table.get? key := by
            cases attaching with
            | joined entry live unexpired noReuse =>
                rfl
            | created released flowId release named =>
                exact get?_makeRoom_other observed different release
                  (hasRoom flags released release)
          have stored := attaching.store_consistent observed event
          have sameRecords :
              attached.recordsAt key = tracker.recordsAt key := by
            rcases attaching.exports observed with
              ⟨same, _⟩ | ⟨roomy, _, exports, _, same, _⟩
            · rw [same]
              rfl
            · rw [same]
              exact exports.recordsAt_eq hasCallback key
          have sameLive :
              (attached.store packet.key
                (recordPacket setup.cfg entry packet event)).liveAt key =
                  tracker.liveAt key := by
            rw [liveAt_store_other _ different, liveAt, untouched]
            rfl
          rw [left]
          constructor
          · rw [recordsAt_finishUpdate hasCallback stored, ← sameRecords]
            simp only [recordsAt, liveAt_store_other _ different]
            rfl
          rcases finishUpdate_get? stored atPacket
              (attaching.lastSweep_eq observed)
              (attaching.clock_eq observed) event.appFault key with
            same | ⟨gone, held, live, expired⟩
          · left
            rw [← sameLive, liveAt, same, liveAt]
          · right
            refine ⟨by simp [liveAt, gone], packet, held.anonymous, rfl,
              ?_, expired⟩
            rw [← sameLive, liveAt, live]
            rfl

/-! ### Times that do not run backwards -/

/--
A tracker before some events: no sweep is overdue, or no packet to come is
behind the clock.
-/
structure TimelyFor
    (setup : TrackerSetup)
    (tracker : FlowTracker)
    (rest : List EventView) : Prop where
  consistent : tracker.Consistent
  swept :
    ∀ time,
      tracker.lastSweep = some time →
      tracker.clock - time < setup.cfg.getSweepInterval ∨
        ∀ packet ∈ packetsOf rest, tracker.clock ≤ packet.ts

/-- A fresh tracker was never swept. -/
theorem timelyFor_fresh {rest : List EventView} :
    fresh.TimelyFor setup rest where
  consistent := consistent_fresh
  swept := by
    intro time last
    cases last

/-- A packet to come is among the packets of its events. -/
theorem mem_packetsOf_cons
    {event : EventView}
    {rest : List EventView}
    {packet : TrackedPacket}
    (accepted : trackedPacket? event = some packet) :
    packet ∈ packetsOf (event :: rest) :=
  List.mem_filterMap.mpr ⟨event, by simp, accepted⟩

/-- The packets after the first event are among all packets. -/
theorem packetsOf_tail
    {event : EventView}
    {rest : List EventView}
    {packet : TrackedPacket}
    (member : packet ∈ packetsOf rest) :
    packet ∈ packetsOf (event :: rest) := by
  obtain ⟨later, laterMember, accepted⟩ := List.mem_filterMap.mp member
  exact List.mem_filterMap.mpr
    ⟨later, List.mem_cons_of_mem event laterMember, accepted⟩

/-- The tracker is ready for the next packet. -/
theorem TimelyFor.timelyAt
    {tracker : FlowTracker}
    {event : EventView}
    {rest : List EventView}
    (timely : tracker.TimelyFor setup (event :: rest))
    {packet : TrackedPacket}
    (accepted : trackedPacket? event = some packet) :
    tracker.TimelyAt setup packet.ts where
  consistent := timely.consistent
  swept := fun time last =>
    (timely.swept time last).imp_right fun inOrder =>
      inOrder packet (mem_packetsOf_cons accepted)

/-- An event that is not served makes no difference. -/
theorem TimelyFor.tail
    {tracker : FlowTracker}
    {event : EventView}
    {rest : List EventView}
    (timely : tracker.TimelyFor setup (event :: rest)) :
    tracker.TimelyFor setup rest where
  consistent := timely.consistent
  swept := fun time last =>
    (timely.swept time last).imp_right fun inOrder packet member =>
      inOrder packet (packetsOf_tail member)

/-- Moving the clock to the next packet puts no later packet behind it. -/
theorem TimelyFor.observe
    {tracker next : FlowTracker}
    {event : EventView}
    {rest : List EventView}
    (timely : tracker.TimelyFor setup (event :: rest))
    {packet : TrackedPacket}
    (inOrder : ∀ later ∈ packetsOf rest, packet.ts ≤ later.ts)
    (consistent : next.Consistent)
    (sameSweep : next.lastSweep = tracker.lastSweep)
    (moved : next.clock = max tracker.clock packet.ts) :
    next.TimelyFor setup rest := by
  refine ⟨consistent, fun time last => ?_⟩
  rw [sameSweep] at last
  rw [moved]
  rcases le_total packet.ts tracker.clock with late | ahead
  · rw [max_eq_left late]
    exact timely.tail.swept time last
  · rw [max_eq_right ahead]
    exact Or.inr inOrder

/-- An update keeps the tracker ready for the packets to come. -/
theorem TimelyFor.update
    {tracker : FlowTracker}
    {event : EventView}
    {rest : List EventView}
    (timely : tracker.TimelyFor setup (event :: rest))
    (inOrder :
      ∀ packet,
        trackedPacket? event = some packet →
        ∀ later ∈ packetsOf rest, packet.ts ≤ later.ts) :
    (tracker.update setup event).1.TimelyFor setup rest := by
  cases accepted : trackedPacket? event with
  | none =>
      rw [(update_ignored setup tracker accepted).1]
      exact timely.tail
  | some packet =>
      have observed := timely.consistent.observe packet.ts
      have later := inOrder packet accepted
      rw [update_accepted setup tracker accepted]
      rcases track_cases setup timely.consistent packet event with
        ⟨left, _, exports, result⟩ | ⟨attached, entry, attaching, result⟩
      · rw [result]
        exact timely.observe later
          (exports.consistent observed) exports.lastSweep_eq
          exports.clock_eq
      · have stored := attaching.store_consistent observed event
        rw [result]
        cases event.appFault with
        | none =>
            have swept := periodicSweep_timely setup stored
            exact ⟨swept.consistent,
              fun time last => Or.inl (swept.swept time last)⟩
        | some exception =>
            exact timely.observe later stored
              (attaching.lastSweep_eq observed)
              (attaching.clock_eq observed)

end Steps

/-! ### Two runs -/

section TwoRuns

variable {cfg : FlowCfg} {key : FlowKey}
variable {full alone : TrackerSetup}

/--
The full run and the run on one key agree about that key, except that the full
run may have swept an entry that is expired for every packet still to come.
-/
structure Alike
    (cfg : FlowCfg)
    (full alone : TrackerSetup)
    (key : FlowKey)
    (together single : FlowTracker)
    (rest : List EventView) : Prop where
  togetherTimely : together.TimelyFor full rest
  singleTimely : single.TimelyFor alone rest
  records : together.recordsAt key = single.recordsAt key
  live :
    together.liveAt key = single.liveAt key ∨
      together.liveAt key = none ∧
        ∃ entry time,
          single.liveAt key = some entry ∧
            isExpired entry time cfg = true ∧
            ∀ packet ∈ packetsOf rest, time ≤ packet.ts
  ordered :
    (packetsOf rest).Pairwise fun earlier later => earlier.ts ≤ later.ts
  noEviction : evictionFree full together rest = true

/-- Time does not run backwards after dropping the first event. -/
theorem ordered_tail
    {event : EventView}
    {rest : List EventView}
    (ordered :
      (packetsOf (event :: rest)).Pairwise
        fun earlier later => earlier.ts ≤ later.ts) :
    (packetsOf rest).Pairwise
        (fun earlier later => earlier.ts ≤ later.ts) ∧
      ∀ first, trackedPacket? event = some first →
        ∀ packet ∈ packetsOf rest, first.ts ≤ packet.ts := by
  cases accepted : trackedPacket? event with
  | none =>
      rw [packetsOf, List.filterMap_cons_none accepted] at ordered
      refine ⟨ordered, ?_⟩
      intro first isFirst
      cases isFirst
  | some packet =>
      rw [packetsOf, List.filterMap_cons_some accepted,
        List.pairwise_cons] at ordered
      refine ⟨ordered.2, ?_⟩
      intro first isFirst
      cases isFirst
      exact ordered.1

section Callbacks

variable (cfg key)
variable (callback other : List Flow → Flow → Except PyException Unit)
variable (digest : Str → Str) (first second : CfgValue)

/-- A tracker that differs in its sweep interval and its callback. -/
def intervalSetup : TrackerSetup :=
  ⟨cfg.withSweepInterval first, some callback, digest⟩

/-- The two runs are related throughout. -/
def AlikeAt : FlowTracker → FlowTracker → List EventView → Prop :=
  Alike cfg (intervalSetup cfg callback digest first)
    (intervalSetup cfg other digest second) key

end Callbacks

variable {callback other : List Flow → Flow → Except PyException Unit}
variable {digest : Str → Str} {first second : CfgValue}

/-- An expired entry is not joined. -/
theorem joinable_of_expired
    {packet : TrackedPacket}
    {entry : FlowEntry}
    (flags : List Str)
    (expired : isExpired entry packet.ts cfg = true) :
    joinable cfg packet flags (some entry) = none := by
  simp [joinable, Option.filter, expired]

/-- A packet of the key keeps the two runs alike and is tagged alike. -/
theorem AlikeAt.own
    {together single : FlowTracker}
    {event : EventView}
    {rest : List EventView}
    (isOwn : hasKey key event = true)
    (alike :
      AlikeAt cfg key callback other digest first second
        together single (event :: rest)) :
    AlikeAt cfg key callback other digest first second
        (together.follow (intervalSetup cfg callback digest first) event).1
        (single.follow (intervalSetup cfg other digest second) event).1
        rest ∧
      (together.follow (intervalSetup cfg callback digest first) event).2 =
        (single.follow (intervalSetup cfg other digest second) event).2 := by
  obtain ⟨packet, accepted, ownKey⟩ :
      ∃ packet, trackedPacket? event = some packet ∧ packet.key = key := by
    simpa [hasKey, Option.any_eq_true] using isOwn
  subst ownKey
  obtain ⟨laterOrdered, inOrder⟩ := ordered_tail alike.ordered
  have isFirst : packet ∈ packetsOf (event :: rest) :=
    mem_packetsOf_cons accepted
  have free := alike.noEviction
  simp only [evictionFree, StepRuns.always, Bool.and_eq_true] at free
  have fullTimely := alike.togetherTimely.update inOrder
  have aloneTimely := alike.singleTimely.update inOrder
  cases flags : event.flags with
  | error exception =>
      -- Nothing happens at the key; a swept entry stays expired.
      have fullLeft :=
        @follow_unread (intervalSetup cfg callback digest first) together
          packet event accepted exception flags
      have aloneLeft :=
        @follow_unread (intervalSetup cfg other digest second) single
          packet event accepted exception flags
      refine ⟨⟨fullTimely, aloneTimely, ?_, ?_, laterOrdered, free.2⟩, ?_⟩
      · rw [fullLeft, aloneLeft]
        exact alike.records
      · rw [fullLeft, aloneLeft]
        exact alike.live.imp_right fun swept =>
          ⟨swept.1, swept.2.imp fun entry held => held.imp
            fun time facts => ⟨facts.1, facts.2.1, fun later member =>
              facts.2.2 later (packetsOf_tail member)⟩⟩
      · rw [fullLeft, aloneLeft]
  | ok flagSet =>
      have readable : event.flags = .ok event.flagSet := by
        simp only [EventView.flagSet, flags]
      have sameJoined :
          joinable cfg packet event.flagSet (together.liveAt packet.key) =
            joinable cfg packet event.flagSet
              (single.liveAt packet.key) := by
        rcases alike.live with
          same | ⟨gone, entry, time, held, expired, past⟩
        · rw [same]
        · rw [gone, held, joinable_of_expired event.flagSet
            (isExpired_mono expired (past packet isFirst))]
          rfl
      have fullCallback :
          (intervalSetup cfg callback digest first).onExport =
            some callback := rfl
      have aloneCallback :
          (intervalSetup cfg other digest second).onExport = some other :=
        rfl
      have fullAfter :=
        follow_own fullCallback
          (alike.togetherTimely.timelyAt accepted) accepted readable
      have aloneAfter :=
        follow_own aloneCallback
          (alike.singleTimely.timelyAt accepted) accepted readable
      -- The sweep interval plays no role in joining and recording.
      have fullJoined :
          joinable (intervalSetup cfg callback digest first).cfg packet
              event.flagSet (together.liveAt packet.key) =
            joinable cfg packet event.flagSet (single.liveAt packet.key) :=
        sameJoined
      rw [fullJoined, alike.records] at fullAfter
      have sameAfter := fullAfter.trans aloneAfter.symm
      simp only [KeyView.mk.injEq] at sameAfter
      obtain ⟨sameLive, sameRecords, sameResult⟩ := sameAfter
      exact ⟨⟨fullTimely, aloneTimely, sameRecords, Or.inl sameLive,
        laterOrdered, free.2⟩, sameResult⟩

/-- A packet of another key keeps the two runs alike. -/
theorem AlikeAt.foreign
    {together single : FlowTracker}
    {event : EventView}
    {rest : List EventView}
    (isForeign : hasKey key event = false)
    (alike :
      AlikeAt cfg key callback other digest first second
        together single (event :: rest)) :
    AlikeAt cfg key callback other digest first second
      (together.follow (intervalSetup cfg callback digest first) event).1
      single rest := by
  obtain ⟨laterOrdered, before⟩ := ordered_tail alike.ordered
  have free := alike.noEviction
  simp only [evictionFree, StepRuns.always, Bool.and_eq_true,
    Bool.not_eq_eq_eq_not, Bool.not_true] at free
  have fullCallback :
      (intervalSetup cfg callback digest first).onExport =
        some callback := rfl
  obtain ⟨sameRecords, liveAfter⟩ :=
    follow_foreign fullCallback
      (fun _ accepted => alike.togetherTimely.timelyAt accepted)
      isForeign free.1
  refine ⟨alike.togetherTimely.update before, alike.singleTimely.tail, ?_,
    ?_, laterOrdered, free.2⟩
  · rw [sameRecords]
    exact alike.records
  · rcases liveAfter with
      unchanged | ⟨gone, packet, entry, accepted, held, expired⟩
    · rw [unchanged]
      rcases alike.live with
        same | ⟨absent, stale, time, held, expired, past⟩
      · exact Or.inl same
      · exact Or.inr
          ⟨absent, stale, time, held, expired, fun packet member =>
            past packet (packetsOf_tail member)⟩
    · -- The full run swept the key: from now on its entry is expired.
      right
      rcases alike.live with same | ⟨absent, _⟩
      · exact ⟨gone, entry, packet.ts, same ▸ held, expired,
          before packet accepted⟩
      · rw [held] at absent
        cases absent

/-- After a flush every record of a key is an exported one. -/
theorem exportedAt_flush
    {setup : TrackerSetup}
    (hasCallback : setup.onExport = some callback)
    {tracker : FlowTracker}
    (consistent : tracker.Consistent)
    (key : FlowKey) :
    (tracker.flush setup).exportedAt key = tracker.recordsAt key := by
  obtain ⟨exports, emptied⟩ := flush_exports setup consistent
  rw [← exports.recordsAt_eq hasCallback key]
  simp [recordsAt, liveAt, emptied]

end TwoRuns

/--
Flows do not interfere.  If the tracked events come in non-decreasing time and
no flow is evicted, `update` does to the events of a key exactly what a fresh
tracker does that is fed only these events, and after the final flush the
exported records of the key are the same up to their close reasons, whatever the
two sweep intervals and callbacks are.
-/
theorem flows_do_not_interfere
    (cfg : FlowCfg)
    (callback other : List Flow → Flow → Except PyException Unit)
    (digest : Str → Str)
    (first second : CfgValue)
    (key : FlowKey)
    (events : List EventView)
    (ordered :
      (packetsOf events).Pairwise
        fun earlier later => earlier.ts ≤ later.ts)
    (noEviction :
      evictionFree (intervalSetup cfg callback digest first) fresh
        events = true) :
    let full := intervalSetup cfg callback digest first
    let alone := intervalSetup cfg other digest second
    let together := StepRuns.run (follow full) fresh events
    let single :=
      StepRuns.run (follow alone) fresh (events.filter (hasKey key))
    StepRuns.selectedOutputs (hasKey key) events together.2 = single.2 ∧
      (together.1.flush full).exportedAt key =
        (single.1.flush alone).exportedAt key := by
  intro full alone together single
  have initially :
      AlikeAt cfg key callback other digest first second
        fresh fresh events :=
    ⟨timelyFor_fresh, timelyFor_fresh, rfl, Or.inl rfl, ordered,
      noEviction⟩
  have own :
      ∀ (together single : FlowTracker) event rest,
        hasKey key event = true →
        AlikeAt cfg key callback other digest first second
          together single (event :: rest) →
        AlikeAt cfg key callback other digest first second
            (together.follow full event).1
            (single.follow alone event).1 rest ∧
          (together.follow full event).2 = (single.follow alone event).2 :=
    fun _ _ _ _ isOwn alike => alike.own isOwn
  have foreign :
      ∀ (together single : FlowTracker) event rest,
        hasKey key event = false →
        AlikeAt cfg key callback other digest first second
          together single (event :: rest) →
        AlikeAt cfg key callback other digest first second
          (together.follow full event).1 single rest :=
    fun _ _ _ _ isForeign alike => alike.foreign isForeign
  obtain ⟨alike, sameTags⟩ :=
    StepRuns.projection_of_step initially own foreign
  refine ⟨sameTags, ?_⟩
  have fullCallback : full.onExport = some callback := rfl
  have aloneCallback : alone.onExport = some other := rfl
  rw [exportedAt_flush fullCallback alike.togetherTimely.consistent,
    exportedAt_flush aloneCallback alike.singleTimely.consistent]
  exact alike.records

/--
A client that sends two SYNs 100 seconds apart; between them, a packet of
another client makes the full run sweep the first attempt.
-/
def sweptRetry : List EventView :=
  let client : Endpoint := ⟨lit "10.0.0.1", 50000⟩
  let other : Endpoint := ⟨lit "10.0.0.3", 50001⟩
  let server : Endpoint := ⟨lit "10.0.0.2", 80⟩
  [(tcpSegment 0 client server [lit "SYN"]).view,
    (tcpSegment 50 other server [lit "SYN"]).view,
    (tcpSegment 100 client server [lit "SYN"]).view]

/-- The swept retry is tagged and exported as if its client were alone. -/
theorem sweptRetry_undisturbed :
    let key :=
      makeKey .tcp (lit "10.0.0.1") 50000 (lit "10.0.0.2") 80
    let full :=
      intervalSetup .empty (fun _ _ => .ok ()) id (.int 1)
    let alone :=
      intervalSetup .empty (fun _ _ => .ok ()) id (.int 1000)
    let together := StepRuns.run (follow full) fresh sweptRetry
    let single :=
      StepRuns.run (follow alone) fresh (sweptRetry.filter (hasKey key))
    StepRuns.selectedOutputs (hasKey key) sweptRetry together.2 =
        single.2 ∧
      (together.1.flush full).exportedAt key =
        (single.1.flush alone).exportedAt key :=
  flows_do_not_interfere .empty _ _ id (.int 1) (.int 1000) _ sweptRetry
    (by decide +kernel) (by decide +kernel)

end FlowTracker

end IntrusionDetection
