import IntrusionDetection.ArrivalOrder
import IntrusionDetection.FlowInvariants

namespace IntrusionDetection

open PyText ArrivalOrder

/-!
# Capacity and least-recently-used order

The flow table never holds more flows than it is configured for, and keeps them
in the order of their latest packets.  A flow is evicted only to make room for
a new one, and it is the one whose latest packet arrived first.  Room is made
before the new flow has an identifier; if none can be made, the eviction was in
vain.
-/

namespace FlowTracker

variable {setup : TrackerSetup}

/-- The flow each updated event went to, if it got a place. -/
def arrivalsOf (results : List UpdateResult) : List (Option Nat) :=
  results.map fun result => result.attachment.map Attachment.serial

/-- The entries an update exports as evicted, in order. -/
def evictedBy
    (setup : TrackerSetup)
    (tracker : FlowTracker)
    (event : EventView) :
    List FlowEntry :=
  ((exportSites setup tracker (.update event)).filter
    fun site => site.reason = .evicted).map ExportSite.entry

/-! ### Exports keep the order of the table -/

/-- Exports only take items out of the table. -/
theorem Exports.items_sublist
    {tracker final : FlowTracker}
    (exports : Exports setup tracker final) :
    final.table.items.Sublist tracker.table.items := by
  induction exports with
  | nil tracker =>
      exact .refl _
  | cons entry reason _ _ _ inductionHypothesis =>
      exact inductionHypothesis.trans List.filter_sublist

/-- The end of an update only takes items out of the table. -/
theorem finishUpdate_sublist
    {tracker : FlowTracker}
    (consistent : tracker.Consistent)
    (raised : Option PyException) :
    (tracker.finishUpdate setup raised).table.items.Sublist
      tracker.table.items := by
  obtain ⟨swept, _, exports, result⟩ :=
    finishUpdate_exports setup consistent raised
  rw [result]
  exact exports.items_sublist

/-- Releasing the stale entry of a packet frees the key of the packet. -/
theorem released_table
    {tracker released : FlowTracker}
    (consistent : tracker.Consistent)
    {packet : TrackedPacket}
    {flags : List Str}
    (release :
      tracker.releaseStale setup packet flags = (released, none)) :
    released.table = tracker.table.remove packet.key := by
  rcases releaseStale_cases setup consistent packet flags with
    ⟨absent, result⟩ | ⟨stale, reason, _, ownKey, _, _, _, result⟩ |
      ⟨_, _, _, _, result⟩
  · rw [release] at result
    cases result
    rw [OrderedDict.remove_of_get?_none absent]
  · rw [release] at result
    cases result
    rw [table_handOver, ownKey]
  · rw [release] at result
    cases result

/-! ### The eviction loop -/

/-- The loop does nothing while there is room. -/
theorem evictOldest_of_lt
    (rounds : Nat)
    {tracker : FlowTracker}
    (room : tracker.table.size < setup.cfg.getMaxActiveFlows) :
    evictOldest setup rounds tracker = tracker := by
  cases rounds with
  | zero =>
      rfl
  | succ rounds =>
      rw [evictOldest, if_neg (Nat.not_le.mpr room)]

/-- While there is room, nothing is evicted. -/
theorem evictSites_of_lt
    (rounds : Nat)
    {tracker : FlowTracker}
    (room : tracker.table.size < setup.cfg.getMaxActiveFlows) :
    evictSites setup rounds tracker = [] := by
  cases rounds with
  | zero =>
      rfl
  | succ rounds =>
      rw [evictSites, if_neg (Nat.not_le.mpr room)]

/-- A full table has an oldest entry, and exporting it makes room. -/
theorem oldest_of_full
    {tracker : FlowTracker}
    (consistent : tracker.Consistent)
    (bounded : tracker.table.size ≤ setup.cfg.getMaxActiveFlows)
    (full : setup.cfg.getMaxActiveFlows ≤ tracker.table.size) :
    ∃ key entry,
      tracker.table.oldest? = some (key, entry) ∧
        tracker.table.get? key = some entry ∧
        tracker.exportOrDrop setup key entry .evicted =
          tracker.handOver setup entry .evicted ∧
        (tracker.handOver setup entry .evicted).table.size <
          setup.cfg.getMaxActiveFlows := by
  have positive := getMaxActiveFlows_pos setup.cfg
  cases oldest : tracker.table.oldest? with
  | none =>
      simp only [OrderedDict.oldest?, List.head?_eq_none_iff] at oldest
      simp only [OrderedDict.size, oldest, List.length_nil] at full
      omega
  | some item =>
      obtain ⟨key, entry⟩ := item
      have found := OrderedDict.get?_of_oldest? oldest
      have ownKey := consistent _ _ found
      subst ownKey
      have shrinks := OrderedDict.size_remove_of_get? found
      refine ⟨_, entry, rfl, found, exportOrDrop_of_live .evicted found, ?_⟩
      rw [table_handOver]
      omega

/-- A full table loses its oldest entry, in any number of rounds from one up. -/
theorem evictOldest_of_full
    {tracker : FlowTracker}
    (consistent : tracker.Consistent)
    (bounded : tracker.table.size ≤ setup.cfg.getMaxActiveFlows)
    (full : setup.cfg.getMaxActiveFlows ≤ tracker.table.size) :
    ∃ entry,
      tracker.table.oldest? = some (entry.flow.key, entry) ∧
        (∀ further,
          evictOldest setup (further + 1) tracker =
            tracker.handOver setup entry .evicted) ∧
        tracker.makeRoom setup = tracker.handOver setup entry .evicted ∧
        (tracker.handOver setup entry .evicted).table.size <
          setup.cfg.getMaxActiveFlows := by
  have positive := getMaxActiveFlows_pos setup.cfg
  obtain ⟨key, entry, oldest, found, handed, room⟩ :=
    oldest_of_full consistent bounded full
  have ownKey := consistent _ _ found
  have anyRounds :
      ∀ further,
        evictOldest setup (further + 1) tracker =
          tracker.handOver setup entry .evicted := by
    intro further
    simp only [evictOldest, if_pos full, oldest, handed]
    exact evictOldest_of_lt further room
  refine ⟨entry, by rw [ownKey, oldest], anyRounds, ?_, room⟩
  obtain ⟨size, isSize⟩ :=
    Nat.exists_eq_add_of_lt (Nat.lt_of_lt_of_le positive full)
  rw [makeRoom, isSize, Nat.zero_add]
  exact anyRounds size

/--
In a table within its capacity the loop runs once at most: any number of
rounds from one up leaves the same tracker, and it has room.
-/
theorem evictOldest_stops
    {tracker : FlowTracker}
    (consistent : tracker.Consistent)
    (bounded : tracker.table.size ≤ setup.cfg.getMaxActiveFlows)
    (further : Nat) :
    evictOldest setup (further + 1) tracker = tracker.makeRoom setup ∧
      (tracker.makeRoom setup).table.size <
        setup.cfg.getMaxActiveFlows := by
  by_cases full : setup.cfg.getMaxActiveFlows ≤ tracker.table.size
  · obtain ⟨entry, _, anyRounds, made, room⟩ :=
      evictOldest_of_full consistent bounded full
    rw [made]
    exact ⟨anyRounds further, room⟩
  · have room := Nat.lt_of_not_le full
    rw [makeRoom_of_lt room]
    exact ⟨evictOldest_of_lt _ room, room⟩

/-- The loop evicts nothing, or the oldest entry of a full table. -/
theorem evictSites_cases
    {tracker : FlowTracker}
    (consistent : tracker.Consistent)
    (bounded : tracker.table.size ≤ setup.cfg.getMaxActiveFlows) :
    (tracker.table.size < setup.cfg.getMaxActiveFlows ∧
        evictSites setup tracker.table.size tracker = []) ∨
      (setup.cfg.getMaxActiveFlows ≤ tracker.table.size ∧
        ∃ key entry,
          tracker.table.oldest? = some (key, entry) ∧
            evictSites setup tracker.table.size tracker =
              [⟨tracker, entry, .evicted⟩]) := by
  by_cases full : setup.cfg.getMaxActiveFlows ≤ tracker.table.size
  · have positive := getMaxActiveFlows_pos setup.cfg
    obtain ⟨key, entry, oldest, _, handed, room⟩ :=
      oldest_of_full consistent bounded full
    refine Or.inr ⟨full, key, entry, oldest, ?_⟩
    obtain ⟨size, isSize⟩ :=
      Nat.exists_eq_add_of_lt (Nat.lt_of_lt_of_le positive full)
    rw [isSize, Nat.zero_add, evictSites, if_pos full]
    simp only [oldest, handed, evictSites_of_lt size room]
  · have room := Nat.lt_of_not_le full
    exact Or.inl ⟨room, evictSites_of_lt _ room⟩

/-! ### What an update evicts -/

/-- No expired flow is exported as evicted. -/
theorem getCloseReason_ne_evicted (entry : FlowEntry) :
    getCloseReason entry ≠ .evicted := by
  cases state : entry.flow.state <;> simp [getCloseReason, state]

/-- The reasons of the calls made on a collected list. -/
theorem reason_exportAllSites
    {tracker : FlowTracker}
    {collected : List (FlowEntry × CloseReason)} :
    (exportAllSites setup tracker collected).map ExportSite.reason =
      collected.map Prod.snd := by
  induction collected generalizing tracker with
  | nil =>
      rfl
  | cons item rest inductionHypothesis =>
      simp only [exportAllSites, List.map_cons, inductionHypothesis]

/-- A sweep evicts nothing. -/
theorem sweepSites_notEvicted
    (tracker : FlowTracker)
    (now : Option Time) :
    ∀ site ∈ sweepSites setup tracker now, site.reason ≠ .evicted := by
  intro site member
  have reasonMember :=
    List.mem_map_of_mem (f := ExportSite.reason) member
  rw [sweepSites, reason_exportAllSites, List.map_map] at reasonMember
  obtain ⟨entry, _, same⟩ := List.mem_map.mp reasonMember
  rw [← same]
  exact getCloseReason_ne_evicted entry

/-- The periodic sweep evicts nothing. -/
theorem periodicSites_notEvicted (tracker : FlowTracker) :
    ∀ site ∈ periodicSites setup tracker, site.reason ≠ .evicted := by
  intro site member
  simp only [periodicSites] at member
  split at member
  · cases member
  · split at member
    · exact sweepSites_notEvicted tracker _ site member
    · cases member

/-- The stale entry of a packet is not evicted. -/
theorem releaseSites_notEvicted
    (tracker : FlowTracker)
    (packet : TrackedPacket)
    (flags : List Str) :
    ∀ site ∈ releaseSites setup tracker packet flags,
      site.reason ≠ .evicted := by
  intro site member
  simp only [releaseSites] at member
  split at member
  · cases member
  · split at member
    · rw [List.mem_singleton.mp member]
      exact getCloseReason_ne_evicted _
    · split at member
      · rw [List.mem_singleton.mp member]
        simp
      · cases member

/-- The sweep at the end of an update evicts nothing. -/
theorem recordSites_notEvicted
    (packet : TrackedPacket)
    (event : EventView)
    (attaching : FlowTracker × Except PyException FlowEntry) :
    ∀ site ∈ recordSites setup packet event attaching,
      site.reason ≠ .evicted := by
  intro site member
  obtain ⟨attached, made⟩ := attaching
  cases made with
  | error exception =>
      cases member
  | ok entry =>
      simp only [recordSites] at member
      cases fault : event.appFault with
      | none =>
          simp only [fault] at member
          exact periodicSites_notEvicted _ site member
      | some exception =>
          simp [fault] at member

/-- Selecting evictions among calls with other reasons selects none. -/
theorem filter_notEvicted
    {sites : List ExportSite}
    (others : ∀ site ∈ sites, site.reason ≠ .evicted) :
    sites.filter (fun site => site.reason = .evicted) = [] := by
  simpa [List.filter_eq_nil_iff] using others

/--
The packet an update makes room for, judged before the update: it finds no
entry to join, and the table is full without the entry of its own key.
-/
def makesRoomFor
    (setup : TrackerSetup)
    (tracker : FlowTracker)
    (event : EventView) :
    Option TrackedPacket :=
  (trackedPacket? event).filter fun packet =>
    event.flags.isOk &&
      (joinable setup.cfg packet event.flagSet
        (tracker.table.get? packet.key)).isNone &&
      setup.cfg.getMaxActiveFlows ≤
        (tracker.table.remove packet.key).size

/-- A packet that room was made for opens a flow, unless its update fails. -/
theorem opening?_of_makesRoomFor
    {tracker : FlowTracker}
    {event : EventView}
    {packet : TrackedPacket}
    (makes : tracker.makesRoomFor setup event = some packet)
    (proceeds : tracker.fails setup event = false) :
    tracker.opening? setup (.update event) = some packet := by
  simp only [makesRoomFor, Option.filter_eq_some_iff,
    Bool.and_eq_true] at makes
  obtain ⟨accepted, ⟨_, joinsNothing⟩, _⟩ := makes
  simp only [opening?, Option.filter_eq_some_iff, proceeds, joinsNothing]
  exact ⟨accepted, rfl⟩

variable (setup) in
/--
An update evicts nothing, or it makes room for its packet and evicts the oldest
of the other entries.
-/
theorem evictedBy_cases
    {tracker : FlowTracker}
    (consistent : tracker.Consistent)
    (bounded : tracker.table.size ≤ setup.cfg.getMaxActiveFlows)
    (event : EventView) :
    (tracker.makesRoomFor setup event = none ∧
        evictedBy setup tracker event = []) ∨
      ∃ packet key entry,
        tracker.makesRoomFor setup event = some packet ∧
          trackedPacket? event = some packet ∧
          setup.cfg.getMaxActiveFlows ≤
            (tracker.table.remove packet.key).size ∧
          (tracker.table.remove packet.key).oldest? = some (key, entry) ∧
          evictedBy setup tracker event = [entry] := by
  cases accepted : trackedPacket? event with
  | none =>
      exact Or.inl
        ⟨by simp [makesRoomFor, accepted],
          by simp [evictedBy, exportSites, accepted]⟩
  | some packet =>
      have observed := consistent.observe packet.ts
      simp only [evictedBy, exportSites, accepted, trackSites]
      cases flags : event.flags with
      | error exception =>
          exact Or.inl
            ⟨by simp [makesRoomFor, accepted, flags, Except.isOk,
              Except.toBool], rfl⟩
      | ok flagSet =>
          have sameFlags : event.flagSet = flagSet := by
            simp only [EventView.flagSet, flags]
          have stale :
              (releaseSites setup (tracker.observe packet.ts) packet
                flagSet).filter (fun site => site.reason = .evicted) =
                [] :=
            filter_notEvicted (releaseSites_notEvicted _ _ _)
          simp only [observe] at stale
          simp only [List.filter_append, stale, List.nil_append,
            List.append_nil,
            filter_notEvicted (recordSites_notEvicted _ _ _)]
          cases release :
              (tracker.observe packet.ts).releaseStale setup packet
                flagSet with
          | mk released live =>
              have joins :
                  joinable setup.cfg packet flagSet
                    (tracker.table.get? packet.key) = live :=
                (joinable_of_release release :)
              simp only [observe] at release
              rw [release]
              cases live with
              | some entry =>
                  refine Or.inl ⟨?_, rfl⟩
                  simp [makesRoomFor, accepted, sameFlags, joins]
              | none =>
                  have table := released_table observed release
                  have stillBounded :
                      released.table.size ≤
                        setup.cfg.getMaxActiveFlows := by
                    rw [table]
                    exact (List.length_filter_le _ _).trans bounded
                  obtain ⟨releasing, _⟩ :=
                    Attached.release_exports observed release
                  have sameTable :
                      released.table = tracker.table.remove packet.key :=
                    table
                  rcases evictSites_cases (releasing.consistent observed)
                      stillBounded with
                    ⟨room, empty⟩ | ⟨full, key, entry, oldest, evicted⟩
                  · rw [sameTable] at room
                    refine Or.inl ⟨?_, by simp [roomSites, empty]⟩
                    simp [makesRoomFor, accepted, room]
                  · rw [sameTable] at full oldest
                    refine Or.inr ⟨packet, key, entry, ?_, rfl, full,
                      oldest, by simp [roomSites, evicted]⟩
                    simp [makesRoomFor, accepted, flags, sameFlags,
                      joins, full, Except.isOk, Except.toBool]

/-! ### The order of the table -/

/-- An entry goes by the flow object it was constructed for. -/
abbrev serialOfItem (item : FlowKey × FlowEntry) : Nat :=
  item.2.serial

/--
The table after a history of arrivals: within its capacity, in the order of the
latest arrivals, and every flow in it had one.
-/
structure Recency
    (setup : TrackerSetup)
    (tracker : FlowTracker)
    (arrivals : List (Option Nat)) : Prop where
  consistent : tracker.Consistent
  bounded : tracker.table.size ≤ setup.cfg.getMaxActiveFlows
  ordered :
    LeastRecentFirst arrivals serialOfItem tracker.table.items
  arrived :
    ∀ item ∈ tracker.table.items, some item.2.serial ∈ arrivals
  created : ∀ serial, some serial ∈ arrivals → serial < tracker.created

namespace Recency

variable {tracker attached : FlowTracker}
variable {arrivals : List (Option Nat)}
variable {packet : TrackedPacket} {flags : List Str}
variable {entry : FlowEntry}

/-- No flow in the table has the serial the next flow object will get. -/
theorem serial_lt_created
    (recency : Recency setup tracker arrivals)
    {item : FlowKey × FlowEntry}
    (member : item ∈ tracker.table.items) :
    item.2.serial < tracker.created :=
  recency.created _ (recency.arrived item member)

/-- What an attached packet leaves of the other flows, and room for its own. -/
structure Attaching
    (setup : TrackerSetup)
    (tracker attached : FlowTracker)
    (packet : TrackedPacket)
    (entry : FlowEntry) : Prop where
  kept :
    (attached.table.remove packet.key).items.Sublist tracker.table.items
  room :
    (attached.table.remove packet.key).size < setup.cfg.getMaxActiveFlows
  others :
    ∀ item ∈ (attached.table.remove packet.key).items,
      item.2.serial ≠ entry.serial
  serial : entry.serial < attached.created
  created : tracker.created ≤ attached.created

/-- A packet is attached beside the other flows, within the capacity. -/
theorem attaching
    (recency : Recency setup tracker arrivals)
    (attaches :
      Attached setup (tracker.observe packet.ts) packet flags attached
        entry) :
    Attaching setup tracker attached packet entry := by
  have observed := recency.consistent.observe packet.ts
  cases attaches with
  | joined entry live unexpired noReuse =>
      have member := OrderedDict.get?_eq_some_iff.mp live
      have shrinks := OrderedDict.size_remove_of_get? live
      refine ⟨List.filter_sublist, ?_, ?_, ?_, le_rfl⟩
      · have bounded := recency.bounded
        simp only [observe] at shrinks ⊢
        omega
      · intro item itemMember
        obtain ⟨inTable, otherKey⟩ := OrderedDict.mem_remove.mp itemMember
        refine recency.ordered.owner_ne inTable member ?_
        rintro rfl
        exact otherKey rfl
      · exact recency.serial_lt_created member
  | created released flowId release named =>
      obtain ⟨releasing, absent⟩ :=
        Attached.release_exports observed release
      have stays := releasing.consistent observed
      have making := makeRoom_exports setup stays
      have exports := releasing.append making
      have bounded :
          released.table.size ≤ setup.cfg.getMaxActiveFlows := by
        rw [released_table observed release]
        exact (List.length_filter_le _ _).trans recency.bounded
      have sameCreated :
          (released.makeRoom setup).created = tracker.created :=
        exports.created_eq
      have sublist :
          ((released.makeRoom setup).table.remove packet.key).items.Sublist
            tracker.table.items :=
        List.filter_sublist.trans exports.items_sublist
      refine ⟨sublist, ?_, ?_, Nat.lt_succ_self _, ?_⟩
      · have room := (evictOldest_stops stays bounded 0).2
        exact (List.length_filter_le _ _).trans_lt room
      · intro item member
        have older := recency.serial_lt_created (sublist.subset member)
        simp only [newEntry, sameCreated]
        exact Nat.ne_of_lt older
      · exact (Nat.le_succ _).trans_eq (congrArg (· + 1) sameCreated).symm

/-- An update without a place leaves the table in order. -/
theorem exported
    (recency : Recency setup tracker arrivals)
    {ts : Time}
    {left : FlowTracker}
    (exports : Exports setup (tracker.observe ts) left) :
    Recency setup left (arrivals ++ [none]) := by
  have kept : left.table.items.Sublist tracker.table.items :=
    exports.items_sublist
  refine ⟨exports.consistent (recency.consistent.observe ts), ?_, ?_, ?_,
    ?_⟩
  · exact kept.length_le.trans recency.bounded
  · refine (recency.ordered.sublist kept).imp fun before => ?_
    simpa [lastArrival_concat] using before
  · intro item member
    exact List.mem_append_left _
      (recency.arrived item (kept.subset member))
  · intro owner member
    simp only [List.mem_append, List.mem_singleton, reduceCtorEq,
      or_false] at member
    exact (recency.created owner member).trans_eq exports.created_eq.symm

/-- A packet with a place keeps the table in order. -/
theorem recorded
    (recency : Recency setup tracker arrivals)
    (attaches :
      Attached setup (tracker.observe packet.ts) packet flags attached
        entry)
    (event : EventView)
    (raised : Option PyException) :
    Recency setup
      ((attached.store packet.key
        (recordPacket setup.cfg entry packet event)).finishUpdate setup
        raised)
      (arrivals ++ [some entry.serial]) := by
  have observed := recency.consistent.observe packet.ts
  have stored := attaches.store_consistent observed event
  have attaching := recency.attaching attaches
  let recorded := recordPacket setup.cfg entry packet event
  have serial : recorded.serial = entry.serial := recordPacket_serial ..
  have items :
      (attached.store packet.key recorded).table.items =
        (attached.table.remove packet.key).items ++
          [(packet.key, recorded)] :=
    OrderedDict.items_insertLast ..
  have kept :
      ((attached.store packet.key recorded).finishUpdate setup
        raised).table.items.Sublist
        (attached.store packet.key recorded).table.items :=
    finishUpdate_sublist stored raised
  refine ⟨stored.finishUpdate setup raised, ?_, ?_, ?_, ?_⟩
  · refine kept.length_le.trans ?_
    rw [items, List.length_append]
    exact attaching.room
  · have others :
        ∀ item ∈ (attached.table.remove packet.key).items,
          serialOfItem item ≠ serialOfItem (packet.key, recorded) := by
      intro item member
      simp only [serialOfItem, serial]
      exact attaching.others item member
    have ordered : LeastRecentFirst arrivals serialOfItem
        (attached.table.remove packet.key).items :=
      recency.ordered.sublist attaching.kept
    have arrived := ordered.concat (packet.key, recorded) others
    rw [← items] at arrived
    rw [← serial]
    exact arrived.sublist kept
  · intro item member
    have inStore := kept.subset member
    rw [items] at inStore
    rcases List.mem_append.mp inStore with isKept | isNew
    · have earlier := recency.arrived item (attaching.kept.subset isKept)
      exact List.mem_append_left _ earlier
    · rw [List.mem_singleton.mp isNew, ← serial]
      exact List.mem_append_right _ (List.mem_singleton_self _)
  · intro owner member
    have below : owner < attached.created := by
      rcases List.mem_append.mp member with earlier | isNew
      · exact (recency.created owner earlier).trans_le attaching.created
      · have same : owner = entry.serial := by simpa using isNew
        rw [same]
        exact attaching.serial
    exact below.trans_eq (created_finishUpdate stored raised).symm

/-- Every update keeps the table in order. -/
theorem update
    (recency : Recency setup tracker arrivals)
    (event : EventView) :
    Recency setup (tracker.update setup event).1
      (arrivals ++
        [(tracker.update setup event).2.attachment.map
          Attachment.serial]) := by
  cases accepted : trackedPacket? event with
  | none =>
      obtain ⟨unchanged, nowhere⟩ := update_ignored setup tracker accepted
      have still : tracker.observe tracker.clock = tracker := by
        simp [observe]
      rw [unchanged, nowhere]
      exact @exported setup tracker arrivals recency tracker.clock tracker
        (by rw [still]; exact .nil tracker)
  | some packet =>
      rw [update_accepted setup tracker accepted]
      rcases track_cases setup recency.consistent packet event with
        ⟨left, _, exports, result⟩ | ⟨attached, entry, attaches, result⟩
      · rw [result]
        exact recency.exported exports
      · have place := recency.recorded attaches event event.appFault
        rw [result]
        simp only [UpdateResult.attachment, Option.map_some, attachmentOf,
          recordPacket_serial]
        exact place

end Recency

variable (setup) in
/-- The table is in order after every run of updates. -/
theorem recency_run (events : List EventView) :
    Recency setup (StepRuns.run (update setup) fresh events).1
      (arrivalsOf (StepRuns.run (update setup) fresh events).2) := by
  have initially : Recency setup fresh [] := by
    refine ⟨consistent_fresh, Nat.zero_le _, .nil, ?_, ?_⟩
    · intro item member
      cases member
    · intro owner member
      cases member
  have preserved :
      ∀ (tracker : FlowTracker) (events : List EventView) results event,
        Recency setup tracker (arrivalsOf results) →
        Recency setup (tracker.update setup event).1
          (arrivalsOf (results ++ [(tracker.update setup event).2])) := by
    intro tracker events results event before
    simp only [arrivalsOf, List.map_append, List.map_cons, List.map_nil]
    exact before.update event
  exact StepRuns.history_of_run initially preserved

namespace Recency

variable {tracker : FlowTracker} {arrivals : List (Option Nat)}

/-- The evicted flow is the one of the others whose packet is the oldest. -/
theorem evicted
    (recency : Recency setup tracker arrivals)
    {event : EventView}
    {entry : FlowEntry}
    (member : entry ∈ evictedBy setup tracker event) :
    ∃ packet,
      trackedPacket? event = some packet ∧
        tracker.makesRoomFor setup event = some packet ∧
        setup.cfg.getMaxActiveFlows ≤
          (tracker.table.remove packet.key).size ∧
        entry ∈ (tracker.table.remove packet.key).values ∧
        (∀ other ∈ (tracker.table.remove packet.key).values,
          other ≠ entry →
          lastArrival arrivals entry.serial <
            lastArrival arrivals other.serial) ∧
        entry.flow.key ≠ packet.key := by
  rcases evictedBy_cases setup recency.consistent recency.bounded event with
    ⟨_, nothing⟩ | ⟨packet, key, evicted, makes, accepted, full, oldest,
      one⟩
  · simp [nothing] at member
  · rw [one, List.mem_singleton] at member
    subst member
    have inRest := List.mem_of_head? oldest
    obtain ⟨inTable, otherKey⟩ := OrderedDict.mem_remove.mp inRest
    have ownKey : entry.flow.key = key :=
      recency.consistent key entry
        (OrderedDict.get?_eq_some_iff.mpr inTable)
    refine ⟨packet, accepted, makes, full, List.mem_map_of_mem inRest,
      ?_, ?_⟩
    · intro other otherMember different
      obtain ⟨item, itemMember, rfl⟩ := List.mem_map.mp otherMember
      have ordered : LeastRecentFirst arrivals serialOfItem
          (tracker.table.remove packet.key).items :=
        recency.ordered.sublist List.filter_sublist
      refine ordered.head_lt oldest itemMember ?_
      rintro rfl
      exact different rfl
    · rw [ownKey]
      exact otherKey

/-- The packet a flow was evicted for opens another one, unless it fails. -/
theorem opens_iff
    (recency : Recency setup tracker arrivals)
    (event : EventView) :
    (∀ entry ∈ evictedBy setup tracker event,
        ∃ packet attachment,
          tracker.opening? setup (.update event) = some packet ∧
            (tracker.update setup event).2.attachment =
              some attachment ∧
            attachment.serial = tracker.created ∧
            (tracker.update setup event).1.created =
              tracker.created + 1 ∧
            entry.serial ≠ attachment.serial) ↔
      tracker.makesRoomFor setup event = none ∨
        tracker.fails setup event = false := by
  rcases evictedBy_cases setup recency.consistent recency.bounded event with
    ⟨nothing, none⟩ | ⟨packet, key, evicted, makes, accepted, _, oldest,
      one⟩
  · refine iff_of_true ?_ (Or.inl nothing)
    intro entry member
    simp [none] at member
  · have failing := fails_iff setup recency.consistent accepted
    rw [update_accepted setup tracker accepted]
    constructor
    · intro opens
      obtain ⟨_, attachment, _, placed, _⟩ :=
        opens evicted (by simp [one])
      refine Or.inr ?_
      rw [Bool.eq_false_iff, ne_eq, failing, placed]
      exact Option.some_ne_none attachment
    · intro condition
      have proceeds := condition.resolve_left (by simp [makes])
      have opens := opening?_of_makesRoomFor makes proceeds
      rw [Bool.eq_false_iff, ne_eq, failing, ← ne_eq,
        Option.ne_none_iff_exists'] at proceeds
      obtain ⟨attachment, placed⟩ := proceeds
      intro entry member
      rw [one, List.mem_singleton] at member
      subst member
      have inRest := List.mem_of_head? oldest
      have inTable := (OrderedDict.mem_remove.mp inRest).1
      rcases track_opening setup recency.consistent accepted placed with
        ⟨_, serial, _, _, created⟩ | ⟨joins, _⟩
      · refine ⟨packet, attachment, opens, placed, serial, created, ?_⟩
        rw [serial]
        exact Nat.ne_of_lt (recency.serial_lt_created inTable)
      · rw [opens] at joins
        cases joins

end Recency

/--
After any updates, in whatever order of their timestamps, the table is within
its capacity and in the order of the latest packets.  The next update, all of
whose exports the callback sees, evicts one flow at most, and it does so only
for a packet that finds no entry to join while the table is full even without
the entry of the packet's own key.  The evicted flow is the one of the others
whose latest packet arrived first, so it is not the flow of the packet; and the
loop stops after one round at most, with room in the table.  The packet then
opens a flow, if and only if the update does not fail after it made room.
-/
theorem table_keeps_latest_iff
    (setup : TrackerSetup)
    (events : List EventView)
    (event : EventView) :
    let served := StepRuns.run (update setup) fresh events
    let tracker := served.1
    let latest := lastArrival (arrivalsOf served.2)
    let capacity := setup.cfg.getMaxActiveFlows
    let next := tracker.update setup event
    (tracker.table.size ≤ capacity ∧
      (∀ entry ∈ tracker.table.values, 0 < latest entry.serial) ∧
      tracker.table.values.Pairwise fun first second =>
        latest first.serial < latest second.serial) ∧
    (next.1.handed =
        tracker.handed ++
          callsAt setup (exportSites setup tracker (.update event)) ∧
      (evictedBy setup tracker event).length ≤ 1 ∧
      ∀ entry ∈ evictedBy setup tracker event,
        ∃ packet,
          trackedPacket? event = some packet ∧
            tracker.makesRoomFor setup event = some packet ∧
            capacity ≤ (tracker.table.remove packet.key).size ∧
            entry ∈ (tracker.table.remove packet.key).values ∧
            (∀ other ∈ (tracker.table.remove packet.key).values,
              other ≠ entry →
              latest entry.serial < latest other.serial) ∧
            entry.flow.key ≠ packet.key) ∧
    (∀ packet,
      trackedPacket? event = some packet →
      ∀ released,
        (tracker.observe packet.ts).releaseStale setup packet
            event.flagSet = (released, none) →
        (released.makeRoom setup).table.size < capacity ∧
          ∀ further,
            evictOldest setup (further + 1) released =
              released.makeRoom setup) ∧
    ((∀ entry ∈ evictedBy setup tracker event,
        ∃ packet attachment,
          tracker.opening? setup (.update event) = some packet ∧
            next.2.attachment = some attachment ∧
            attachment.serial = tracker.created ∧
            next.1.created = tracker.created + 1 ∧
            entry.serial ≠ attachment.serial) ↔
      tracker.makesRoomFor setup event = none ∨
        tracker.fails setup event = false) := by
  intro served tracker latest capacity next
  have recency : Recency setup tracker (arrivalsOf served.2) :=
    recency_run setup events
  refine ⟨⟨recency.bounded, ?_, ?_⟩,
    ⟨handed_answer setup recency.consistent (.update event), ?_,
      fun entry member => recency.evicted member⟩, ?_,
    recency.opens_iff event⟩
  · intro entry member
    obtain ⟨item, itemMember, rfl⟩ := List.mem_map.mp member
    exact lastArrival_pos_iff.mpr (recency.arrived item itemMember)
  · exact List.pairwise_map.mpr recency.ordered
  · rcases evictedBy_cases setup recency.consistent recency.bounded event
      with ⟨_, nothing⟩ | ⟨_, _, entry, _, _, _, _, one⟩
    · simp [nothing]
    · simp [one]
  · intro packet accepted released release
    have observed := recency.consistent.observe packet.ts
    obtain ⟨releasing, _⟩ := Attached.release_exports observed release
    have bounded : released.table.size ≤ capacity := by
      rw [released_table observed release]
      exact (List.length_filter_le _ _).trans recency.bounded
    have stops := evictOldest_stops (releasing.consistent observed) bounded
    exact ⟨(stops 0).2, fun further => (stops further).1⟩

/-- A table for one flow. -/
def oneFlow : TrackerSetup where
  cfg := { FlowCfg.empty with maxActiveFlows := .int 1 }
  onExport := some fun _ _ => .ok ()
  digest := id

/-- The only flow is evicted for a packet that then opens none. -/
theorem surrogateSyn_evicts :
    let events :=
      [(tcpSegment 100 ⟨lit "10.0.0.1", 50000⟩ ⟨lit "10.0.0.2", 443⟩
        [lit "SYN"]).view]
    let tracker := (StepRuns.run (update oneFlow) fresh events).1
    let next := tracker.update oneFlow (surrogateSyn 101)
    next.1.handed.map (fun call => call.2.closeReason) =
        [some .evicted] ∧
      tracker.opening? oneFlow (.update (surrogateSyn 101)) = none ∧
      next.2.attachment = none ∧
      next.1.created = tracker.created ∧
      next.1.table.size = 0 := by
  decide +kernel

end FlowTracker

end IntrusionDetection
