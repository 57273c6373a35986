import IntrusionDetection.FlowRequests

namespace IntrusionDetection

open PyText

/-!
# Invariants of the flow table

What every entry of a reachable table satisfies, whatever requests came
before and in whatever order their timestamps are: it is stored under the key
rebuilt from its own endpoints, its packets were sent between these endpoints,
its counters add up and its state fits its protocol.  Because of the first,
every export removes the entry it is given and the two defensive removals of
the tracker are never taken.
-/

/-! ### Counters, times and state of one entry -/

/-- What holds of an entry from its construction on. -/
structure FlowEntry.Coherent (entry : FlowEntry) : Prop where
  packets :
    entry.flow.packetCount =
      entry.flow.fwdPacketCount + entry.flow.bwdPacketCount
  bytes :
    entry.flow.byteCount =
      entry.flow.fwdByteCount + entry.flow.bwdByteCount
  syn : entry.flow.synCount ≤ entry.flow.packetCount
  ack : entry.flow.ackCount ≤ entry.flow.packetCount
  fin : entry.flow.finCount ≤ entry.flow.packetCount
  rst : entry.flow.rstCount ≤ entry.flow.packetCount
  times : entry.flow.startTime ≤ entry.flow.lastSeen
  isOpen : entry.flow.closeReason = none
  state : entry.flow.protocol = .udp ↔ entry.flow.state = .active
  udp :
    entry.flow.protocol = .udp →
      entry.flow.synCount = 0 ∧ entry.flow.ackCount = 0 ∧
        entry.flow.finCount = 0 ∧ entry.flow.rstCount = 0 ∧
        entry.flow.midstream = false

/-- A packet carries a flag at most once. -/
theorem flagCount_le_one
    (protocol : FlowProtocol)
    (flags : List Str)
    (name : Str) :
    flagCount protocol flags name ≤ 1 := by
  simp only [flagCount]
  split <;> omega

/-- A UDP packet carries no flag. -/
theorem flagCount_udp
    (flags : List Str)
    (name : Str) :
    flagCount .udp flags name = 0 := by
  simp [flagCount]

/-- The state machine leaves the counters and the times alone. -/
theorem advanceState_flow
    (cfg : FlowCfg)
    (entry : FlowEntry)
    (protocol : FlowProtocol)
    (flags : List Str)
    (direction : Direction)
    (ts : Time) :
    (advanceState cfg entry protocol flags direction ts).flow =
      { entry.flow with
        state :=
          (advanceState cfg entry protocol flags direction ts).flow.state
        midstream :=
          (advanceState cfg entry protocol flags direction
            ts).flow.midstream } := by
  cases protocol <;> rfl

/-- A fresh entry is coherent. -/
theorem coherent_newEntry
    (flowId : Str)
    (packet : TrackedPacket)
    (serial : Nat) :
    (newEntry (newFlow flowId packet) serial).Coherent where
  packets := rfl
  bytes := rfl
  syn := le_rfl
  ack := le_rfl
  fin := le_rfl
  rst := le_rfl
  times := le_rfl
  isOpen := rfl
  state := by
    simp only [newEntry, newFlow]
    cases packet.protocol <;> simp
  udp := fun _ => ⟨rfl, rfl, rfl, rfl, rfl⟩

/-- Recording a packet of its own key keeps an entry coherent. -/
theorem FlowEntry.Coherent.record
    {entry : FlowEntry}
    (before : entry.Coherent)
    (cfg : FlowCfg)
    {packet : TrackedPacket}
    (ownKey : entry.flow.key = packet.key)
    (event : EventView) :
    (recordPacket cfg entry packet event).Coherent := by
  have sameProtocol : entry.flow.protocol = packet.protocol :=
    (eq_or_swap_of_makeKey_eq ownKey).1
  have atMostOne := flagCount_le_one packet.protocol event.flagSet
  have unfolded :
      (recordPacket cfg entry packet event).flow =
        countPacket
          (advanceState cfg entry packet.protocol event.flagSet
            (packetDirection entry packet) packet.ts).flow
          event packet.protocol event.flagSet
          (packetDirection entry packet) packet.ts :=
    rfl
  have state :=
    FlowTracker.stateFits_recordPacket before.state cfg ownKey event
  constructor
  · rw [unfolded, advanceState_flow]
    have packets := before.packets
    simp only [countPacket]
    split <;> omega
  · rw [unfolded, advanceState_flow]
    have bytes := before.bytes
    simp only [countPacket]
    split <;> omega
  · rw [unfolded, advanceState_flow]
    exact Nat.add_le_add before.syn (atMostOne (lit "SYN"))
  · rw [unfolded, advanceState_flow]
    exact Nat.add_le_add before.ack (atMostOne (lit "ACK"))
  · rw [unfolded, advanceState_flow]
    exact Nat.add_le_add before.fin (atMostOne (lit "FIN"))
  · rw [unfolded, advanceState_flow]
    exact Nat.add_le_add before.rst (atMostOne (lit "RST"))
  · rw [unfolded, advanceState_flow]
    simp only [countPacket]
    exact le_trans (min_le_left _ _)
      (le_trans before.times (le_max_left _ _))
  · rw [unfolded, advanceState_flow]
    exact before.isOpen
  · exact state
  · intro isUdp
    rw [FlowTracker.recordPacket_protocol] at isUdp
    obtain ⟨syn, ack, fin, rst, midstream⟩ := before.udp isUdp
    rw [unfolded]
    rw [sameProtocol] at isUdp
    simp only [isUdp, countPacket, advanceState, flagCount_udp, syn, ack,
      fin, rst, midstream]
    simp

/-! ### Packets of one flow -/

/-- The packet was sent between the endpoints, in the given direction. -/
def SentBetween
    (endpointA endpointB : Endpoint)
    (packet : TrackedPacket)
    (direction : Direction) :
    Prop :=
  ((packet.src = endpointA ∧ packet.dst = endpointB) ∨
      (packet.src = endpointB ∧ packet.dst = endpointA)) ∧
    (direction = .forward ↔ packet.src = endpointA)

/-- A packet of the key of an entry was sent between its endpoints. -/
theorem sentBetween_of_key
    {entry : FlowEntry}
    {packet : TrackedPacket}
    (ownKey : entry.flow.key = packet.key) :
    SentBetween entry.flow.endpointA entry.flow.endpointB packet
      (packetDirection entry packet) := by
  refine ⟨?_, directionOf_eq_forward_iff _ _⟩
  rcases (eq_or_swap_of_makeKey_eq ownKey).2 with
    ⟨first, second⟩ | ⟨first, second⟩
  · exact Or.inl ⟨first.symm, second.symm⟩
  · exact Or.inr ⟨second.symm, first.symm⟩

namespace FlowTracker

variable {setup : TrackerSetup}

/-- The events of a run that were tracked, with the places they went to. -/
def trackedOf (records : List RequestRecord) : List TrackedEvent :=
  records.filterMap RequestRecord.tracked

/-- Everything the table promises about one of its entries. -/
structure EntrySound
    (clock : Time)
    (tracked : List TrackedEvent)
    (key : FlowKey)
    (entry : FlowEntry) : Prop where
  ownKey :
    key =
      makeKey entry.flow.protocol
        entry.flow.endpointA.ip entry.flow.endpointA.port
        entry.flow.endpointB.ip entry.flow.endpointB.port
  coherent : entry.Coherent
  opened : 1 ≤ entry.flow.fwdPacketCount
  seen : entry.flow.lastSeen ≤ clock
  sent :
    ∀ item ∈ tracked,
      item.attachment.serial = entry.serial →
      ∃ packet,
        trackedPacket? item.event = some packet ∧
          SentBetween entry.flow.endpointA entry.flow.endpointB packet
            item.attachment.direction

/-- What holds of a live entry, given the packets that opened the flows. -/
structure LiveSound
    (clock : Time)
    (openers : List TrackedPacket)
    (entry : FlowEntry) : Prop where
  coherent : entry.Coherent
  opened : 1 ≤ entry.flow.fwdPacketCount
  seen : entry.flow.lastSeen ≤ clock
  opener :
    ∃ packet,
      openers[entry.serial]? = some packet ∧
        entry.flow.endpointA = packet.src ∧
        entry.flow.endpointB = packet.dst

/-- What holds of a tracked event, given the packets that opened the flows. -/
def EventSound
    (openers : List TrackedPacket)
    (item : TrackedEvent) :
    Prop :=
  ∃ packet opener,
    trackedPacket? item.event = some packet ∧
      openers[item.attachment.serial]? = some opener ∧
      SentBetween opener.src opener.dst packet item.attachment.direction

/-- The invariant of a run of requests. -/
structure TableSound
    (tracker : FlowTracker)
    (records : List RequestRecord) : Prop where
  consistent : tracker.Consistent
  created : (openingsOf records).length = tracker.created
  live :
    ∀ key entry,
      tracker.table.get? key = some entry →
      LiveSound tracker.clock (openingsOf records) entry
  sent :
    ∀ item ∈ trackedOf records,
      EventSound (openingsOf records) item

/-- A later clock and later flows change nothing for a live entry. -/
theorem LiveSound.mono
    {clock later : Time}
    {openers : List TrackedPacket}
    {entry : FlowEntry}
    (sound : LiveSound clock openers entry)
    (ordered : clock ≤ later)
    (more : List TrackedPacket) :
    LiveSound later (openers ++ more) entry := by
  obtain ⟨packet, isOpener, endpoints⟩ := sound.opener
  have bound := (List.getElem?_eq_some_iff.mp isOpener).1
  refine ⟨sound.coherent, sound.opened,
    le_trans sound.seen ordered, packet, ?_, endpoints⟩
  rw [List.getElem?_append_left bound]
  exact isOpener

/-- Later flows change nothing for an event. -/
theorem EventSound.append
    {openers : List TrackedPacket}
    {item : TrackedEvent}
    (sound : EventSound openers item)
    (more : List TrackedPacket) :
    EventSound (openers ++ more) item := by
  obtain ⟨packet, opener, accepted, isOpener, sent⟩ := sound
  have bound := (List.getElem?_eq_some_iff.mp isOpener).1
  refine ⟨packet, opener, accepted, ?_, sent⟩
  rw [List.getElem?_append_left bound]
  exact isOpener

/-- Recording counts a forward packet and no other. -/
theorem fwdPacketCount_record
    (cfg : FlowCfg)
    (entry : FlowEntry)
    (packet : TrackedPacket)
    (event : EventView) :
    (recordPacket cfg entry packet event).flow.fwdPacketCount =
      if packetDirection entry packet = .forward then
        entry.flow.fwdPacketCount + 1
      else
        entry.flow.fwdPacketCount := by
  simp only [recordPacket, countPacket, advanceState]
  cases packet.protocol <;> rfl

/-- A live entry stays sound when a packet is recorded on it. -/
theorem LiveSound.record
    {clock : Time}
    {openers : List TrackedPacket}
    {entry : FlowEntry}
    (sound : LiveSound clock openers entry)
    (cfg : FlowCfg)
    {packet : TrackedPacket}
    (ownKey : entry.flow.key = packet.key)
    (event : EventView) :
    LiveSound (max clock packet.ts) openers
      (recordPacket cfg entry packet event) := by
  obtain ⟨opener, isOpener, first, second⟩ := sound.opener
  refine ⟨sound.coherent.record cfg ownKey event, ?_, ?_,
    opener, ?_, ?_, ?_⟩
  · have opened := sound.opened
    rw [fwdPacketCount_record]
    split <;> omega
  · rw [recordPacket_lastSeen]
    exact max_le_max sound.seen le_rfl
  · rw [recordPacket_serial]
    exact isOpener
  · rw [recordPacket_endpointA]
    exact first
  · rw [recordPacket_endpointB]
    exact second

/-- A flow is sound once the packet that opened it is recorded. -/
theorem liveSound_first
    (clock : Time)
    {openers : List TrackedPacket}
    {serial : Nat}
    (isNext : openers.length = serial)
    (setup : TrackerSetup)
    (flowId : Str)
    (packet : TrackedPacket)
    (event : EventView) :
    LiveSound (max clock packet.ts) (openers ++ [packet])
      (recordPacket setup.cfg
        (newEntry (newFlow flowId packet) serial)
        packet event) := by
  have fresh := coherent_newEntry flowId packet serial
  have forward :
      packetDirection
          (newEntry (newFlow flowId packet) serial) packet =
        .forward :=
    (directionOf_eq_forward_iff packet.src packet.src).mpr rfl
  refine ⟨fresh.record setup.cfg rfl event, ?_, ?_, packet, ?_, ?_, ?_⟩
  · rw [fwdPacketCount_record, if_pos forward]
    exact Nat.le_add_left 1 _
  · rw [recordPacket_lastSeen]
    simp [newEntry, newFlow]
  · simp [recordPacket_serial, newEntry, ← isNext]
  · simp [newEntry, newFlow]
  · simp [newEntry, newFlow]

theorem trackedOf_concat
    (records : List RequestRecord)
    (record : RequestRecord) :
    trackedOf (records ++ [record]) =
      trackedOf records ++ record.tracked.toList := by
  cases tracked : record.tracked <;>
    simp [trackedOf, List.filterMap_append, tracked]

/-- A packet with a place keeps the table sound. -/
theorem TableSound.track
    {tracker : FlowTracker}
    {records : List RequestRecord}
    (before : tracker.TableSound records)
    (setup : TrackerSetup)
    {event : EventView}
    {packet : TrackedPacket}
    (accepted : trackedPacket? event = some packet)
    {attachment : Attachment}
    (placed :
      (tracker.track setup packet event).2.attachment =
        some attachment) :
    (tracker.track setup packet event).1.TableSound
      (records ++ [tracker.placedRecord setup event attachment]) := by
  have consistent := before.consistent
  have stays := consistent.track setup packet event
  have moved := clock_track setup consistent packet event
  have tracked :
      trackedOf
          (records ++ [tracker.placedRecord setup event attachment]) =
        trackedOf records ++ [⟨event, attachment⟩] :=
    trackedOf_concat _ _
  rcases track_opening setup consistent accepted placed with
    ⟨opens, serial, _, forward, created⟩ |
      ⟨joins, entry, live, serial, _, direction, created⟩
  · have openers :
        openingsOf
            (records ++ [tracker.placedRecord setup event attachment]) =
          openingsOf records ++ [packet] := by
      simp [openingsOf_concat, placedRecord, opens]
    refine ⟨stays, ?_, ?_, ?_⟩
    · rw [openers, created, List.length_append, before.created]
      rfl
    · rw [openers, moved]
      refine live_track consistent before.live ?_ ?_ ?_
      · intro entry sound
        exact sound.mono (le_max_left _ _) _
      · intro entry sound ownKey
        exact (sound.record setup.cfg ownKey event).mono le_rfl _
      · intro flowId _ _ _ _
        exact liveSound_first _ before.created setup flowId packet event
    · rw [openers, tracked, List.forall_mem_append,
        List.forall_mem_singleton]
      refine ⟨fun item old => (before.sent item old).append _,
        packet, packet, accepted, ?_, Or.inl ⟨rfl, rfl⟩, ?_⟩
      · simp [serial, ← before.created]
      · simp [forward]
  · have openers :
        openingsOf
            (records ++ [tracker.placedRecord setup event attachment]) =
          openingsOf records := by
      simp [openingsOf_concat, placedRecord, joins]
    have sound := before.live packet.key entry live
    obtain ⟨opener, isOpener, first, second⟩ := sound.opener
    refine ⟨stays, ?_, ?_, ?_⟩
    · rw [openers, created, before.created]
    · rw [openers, moved]
      refine live_track consistent before.live ?_ ?_ ?_
      · intro other otherSound
        simpa using otherSound.mono (le_max_left _ packet.ts) []
      · intro other otherSound ownKey
        exact otherSound.record setup.cfg ownKey event
      · intro flowId other _ isPlace isNew
        rw [placed] at isPlace
        cases isPlace
        have bound := (List.getElem?_eq_some_iff.mp isOpener).1
        rw [← serial, isNew, before.created] at bound
        exact (lt_irrefl _ bound).elim
    · rw [openers, tracked, List.forall_mem_append,
        List.forall_mem_singleton]
      refine ⟨before.sent, packet, opener, accepted, ?_, ?_⟩
      · simpa [serial] using isOpener
      · rw [← first, ← second]
        simp only [direction]
        exact sentBetween_of_key (consistent packet.key entry live)

/-- Every request keeps the table sound. -/
theorem TableSound.answer
    {tracker : FlowTracker}
    {records : List RequestRecord}
    (before : tracker.TableSound records)
    (setup : TrackerSetup)
    (request : TrackerRequest) :
    (tracker.answerRecorded setup request).1.TableSound
      (records ++ [(tracker.answerRecorded setup request).2]) := by
  rcases answerRecorded_cases setup before.consistent request with
    ⟨event, packet, attachment, accepted, placed, result⟩ |
      ⟨ts, exported, exports, quiet, table, clock, created⟩
  · rw [result]
    exact before.track setup accepted placed
  · rw [quiet]
    refine ⟨before.consistent.answer setup request, ?_, ?_, ?_⟩
    · simpa [openingsOf_concat, RequestRecord.quiet, created]
        using before.created
    · intro key entry live
      rw [table] at live
      have sound := before.live key entry (exports.live_before live)
      rw [clock]
      simpa [openingsOf_concat, RequestRecord.quiet]
        using sound.mono (le_max_left _ ts) []
    · simpa [openingsOf_concat, trackedOf_concat, RequestRecord.quiet]
        using before.sent

/-- The table is sound after every run of requests. -/
theorem tableSound_run
    (setup : TrackerSetup)
    (requests : List TrackerRequest) :
    (StepRuns.run (answerRecorded setup) fresh requests).1.TableSound
      (StepRuns.run (answerRecorded setup) fresh requests).2 := by
  have initially : fresh.TableSound [] := by
    refine ⟨consistent_fresh, rfl, ?_, ?_⟩
    · intro key entry live
      simp [fresh] at live
    · intro item member
      cases member
  have preserved :
      ∀ (tracker : FlowTracker) (requests : List TrackerRequest) records
          request,
        tracker.TableSound records →
        (tracker.answerRecorded setup request).1.TableSound
          (records ++ [(tracker.answerRecorded setup request).2]) :=
    fun _ _ _ request before => before.answer setup request
  exact StepRuns.history_of_run initially preserved

/-! ### Every call of the export function -/

/-- One call of `_export_flow`, with the tracker it is made on. -/
structure ExportSite where
  tracker : FlowTracker
  entry : FlowEntry
  reason : CloseReason

/-- The calls made on a collected list of entries. -/
def exportAllSites (setup : TrackerSetup) :
    FlowTracker → List (FlowEntry × CloseReason) → List ExportSite
  | _, [] => []
  | tracker, (entry, reason) :: rest =>
      ⟨tracker, entry, reason⟩ ::
        exportAllSites setup (tracker.exportFlow setup entry reason) rest

/-- The calls `sweep` makes. -/
def sweepSites
    (setup : TrackerSetup)
    (tracker : FlowTracker)
    (now : Option Time) :
    List ExportSite :=
  let expired :=
    tracker.table.values.filter
      (isExpired · (now.getD tracker.clock) setup.cfg)
  exportAllSites setup tracker
    (expired.map fun entry => (entry, getCloseReason entry))

/-- The calls `flush` makes, each before its defensive removal. -/
def flushSites (setup : TrackerSetup) :
    FlowTracker → List (FlowKey × FlowEntry) → List ExportSite
  | _, [] => []
  | tracker, (key, entry) :: rest =>
      ⟨tracker, entry, flushReason entry⟩ ::
        flushSites setup
          (tracker.exportOrDrop setup key entry (flushReason entry)) rest

/-- The call step 3 of `update` makes for a stale entry. -/
def releaseSites
    (setup : TrackerSetup)
    (tracker : FlowTracker)
    (packet : TrackedPacket)
    (flags : List Str) :
    List ExportSite :=
  match tracker.table.get? packet.key with
  | none => []
  | some entry =>
      if isExpired entry packet.ts setup.cfg then
        [⟨tracker, entry, getCloseReason entry⟩]
      else if isPortReuse entry packet flags then
        [⟨tracker, entry, .portReuse⟩]
      else
        []

/-- The calls the eviction loop makes, each before its defensive removal. -/
def evictSites (setup : TrackerSetup) :
    Nat → FlowTracker → List ExportSite
  | 0, _ => []
  | rounds + 1, tracker =>
      if setup.cfg.getMaxActiveFlows ≤ tracker.table.size then
        match tracker.table.oldest? with
        | none => []
        | some (key, entry) =>
            ⟨tracker, entry, .evicted⟩ ::
              evictSites setup rounds
                (tracker.exportOrDrop setup key entry .evicted)
      else
        []

/-- The calls the periodic sweep makes. -/
def periodicSites
    (setup : TrackerSetup)
    (tracker : FlowTracker) :
    List ExportSite :=
  match tracker.lastSweep with
  | none => []
  | some lastSweep =>
      if setup.cfg.getSweepInterval ≤ tracker.clock - lastSweep then
        sweepSites setup tracker (some tracker.clock)
      else
        []

/-- The calls the eviction loop makes, if it is reached. -/
def roomSites
    (setup : TrackerSetup)
    (release : FlowTracker × Option FlowEntry) :
    List ExportSite :=
  match release.2 with
  | some _ => []
  | none => evictSites setup release.1.table.size release.1

/-- The calls made once the packet has an entry, or none could be made. -/
def recordSites
    (setup : TrackerSetup)
    (packet : TrackedPacket)
    (event : EventView) :
    FlowTracker × Except PyException FlowEntry → List ExportSite
  | (_, .error _) => []
  | (attached, .ok entry) =>
      let recorded := recordPacket setup.cfg entry packet event
      let counted :=
        { attached with
          table := attached.table.insertLast packet.key recorded }
      match event.appFault with
      | none => periodicSites setup counted
      | some _ => []

/-- The calls an update of a tracked packet makes, phase by phase. -/
def trackSites
    (setup : TrackerSetup)
    (tracker : FlowTracker)
    (packet : TrackedPacket)
    (event : EventView) :
    List ExportSite :=
  let observed :=
    { tracker with clock := max tracker.clock packet.ts }
  match event.flags with
  | .error _ => []
  | .ok flags =>
      let release := observed.releaseStale setup packet flags
      releaseSites setup observed packet flags ++
        roomSites setup release ++
        recordSites setup packet event
          (release.1.attachEntry setup packet release.2)

/-- The calls a request makes, in order. -/
def exportSites
    (setup : TrackerSetup)
    (tracker : FlowTracker) :
    TrackerRequest → List ExportSite
  | .update event =>
      match trackedPacket? event with
      | none => []
      | some packet => trackSites setup tracker packet event
  | .sweep now => sweepSites setup tracker now
  | .flush => flushSites setup tracker tracker.table.items

/-- The call removes the entry it is given, so the table gets smaller. -/
def ExportSite.Removes (setup : TrackerSetup) (site : ExportSite) : Prop :=
  let exported := site.tracker.exportFlow setup site.entry site.reason
  site.tracker.table.get? site.entry.flow.key = some site.entry ∧
    exported.table = site.tracker.table.remove site.entry.flow.key ∧
    ¬ site.tracker.table.size ≤ exported.table.size

variable (setup) in
/-- A call on a live entry removes it. -/
theorem removes_of_live
    {tracker : FlowTracker}
    {entry : FlowEntry}
    (live : tracker.table.get? entry.flow.key = some entry)
    (reason : CloseReason) :
    ExportSite.Removes setup ⟨tracker, entry, reason⟩ := by
  have shrinks := OrderedDict.size_remove_of_get? live
  have exported :
      tracker.exportFlow setup entry reason =
        tracker.handOver setup entry reason :=
    exportFlow_of_live tracker entry reason live
  refine ⟨live, ?_, ?_⟩
  · rw [exported, table_handOver]
  · simp only [exported, table_handOver]
    omega

variable (setup) in
/-- Every call on a collected list of live entries removes one. -/
theorem exportAllSites_remove
    {tracker : FlowTracker}
    {collected : List (FlowEntry × CloseReason)}
    (live :
      ∀ item ∈ collected,
        tracker.table.get? item.1.flow.key = some item.1)
    (distinct :
      (collected.map fun item => item.1.flow.key).Nodup) :
    ∀ site ∈ exportAllSites setup tracker collected,
      site.Removes setup := by
  induction collected generalizing tracker with
  | nil =>
      intro site member
      cases member
  | cons item rest inductionHypothesis =>
      obtain ⟨entry, reason⟩ := item
      simp only [List.map_cons, List.nodup_cons] at distinct
      have headLive := live (entry, reason) (by simp)
      have exported :
          tracker.exportFlow setup entry reason =
            tracker.handOver setup entry reason :=
        exportFlow_of_live tracker entry reason headLive
      intro site member
      rcases List.mem_cons.mp member with isHead | inRest
      · rw [isHead]
        exact removes_of_live setup headLive reason
      · refine inductionHypothesis ?_ distinct.2 site inRest
        intro later laterMember
        have different : later.1.flow.key ≠ entry.flow.key := by
          intro same
          exact distinct.1 (List.mem_map.mpr ⟨later, laterMember, same⟩)
        rw [exported, table_handOver,
          OrderedDict.get?_remove_other _ different]
        exact live later (by simp [laterMember])

variable (setup) in
/-- Every call of a sweep removes an entry. -/
theorem sweepSites_remove
    {tracker : FlowTracker}
    (consistent : tracker.Consistent)
    (now : Option Time) :
    ∀ site ∈ sweepSites setup tracker now, site.Removes setup := by
  apply exportAllSites_remove
  · intro item member
    simp only [List.mem_map, List.mem_filter] at member
    obtain ⟨entry, ⟨stored, _⟩, rfl⟩ := member
    exact live_of_mem_values consistent stored
  · have keysNodup := tracker.table.keysNodup
    rw [← keys_values consistent] at keysNodup
    simpa [Function.comp_def]
      using (List.filter_sublist.map _).nodup keysNodup

variable (setup) in
/-- Every call of a flush removes an entry. -/
theorem flushSites_remove
    {tracker : FlowTracker}
    {items : List (FlowKey × FlowEntry)}
    (live :
      ∀ item ∈ items,
        item.2.flow.key = item.1 ∧
          tracker.table.get? item.1 = some item.2)
    (distinct : (items.map Prod.fst).Nodup) :
    ∀ site ∈ flushSites setup tracker items, site.Removes setup := by
  induction items generalizing tracker with
  | nil =>
      intro site member
      cases member
  | cons item rest inductionHypothesis =>
      obtain ⟨key, entry⟩ := item
      obtain ⟨ownKey, found⟩ := live (key, entry) (by simp)
      simp only at ownKey found
      subst ownKey
      simp only [List.map_cons, List.nodup_cons] at distinct
      have exported :
          tracker.exportOrDrop setup entry.flow.key entry
              (flushReason entry) =
            tracker.handOver setup entry (flushReason entry) :=
        exportOrDrop_of_live (flushReason entry) found
      intro site member
      rcases List.mem_cons.mp member with isHead | inRest
      · rw [isHead]
        exact removes_of_live setup found _
      · refine inductionHypothesis ?_ distinct.2 site inRest
        intro later laterMember
        obtain ⟨laterKey, laterFound⟩ :=
          live later (by simp [laterMember])
        have different : later.1 ≠ entry.flow.key := by
          intro same
          exact distinct.1 (List.mem_map.mpr ⟨later, laterMember, same⟩)
        refine ⟨laterKey, ?_⟩
        rw [exported, table_handOver,
          OrderedDict.get?_remove_other _ different]
        exact laterFound

variable (setup) in
/-- The call for a stale entry removes it. -/
theorem releaseSites_remove
    {tracker : FlowTracker}
    (consistent : tracker.Consistent)
    (packet : TrackedPacket)
    (flags : List Str) :
    ∀ site ∈ releaseSites setup tracker packet flags,
      site.Removes setup := by
  intro site member
  simp only [releaseSites] at member
  split at member
  · cases member
  · rename_i entry found
    have live : tracker.table.get? entry.flow.key = some entry := by
      rw [consistent _ _ found]
      exact found
    split at member
    · rw [List.mem_singleton.mp member]
      exact removes_of_live setup live _
    · split at member
      · rw [List.mem_singleton.mp member]
        exact removes_of_live setup live _
      · cases member

variable (setup) in
/-- Every call of the eviction loop removes an entry. -/
theorem evictSites_remove
    (rounds : Nat)
    {tracker : FlowTracker}
    (consistent : tracker.Consistent) :
    ∀ site ∈ evictSites setup rounds tracker, site.Removes setup := by
  induction rounds generalizing tracker with
  | zero =>
      intro site member
      cases member
  | succ rounds inductionHypothesis =>
      intro site member
      simp only [evictSites] at member
      split at member
      · split at member
        · cases member
        · rename_i key entry oldest
          have found := OrderedDict.get?_of_oldest? oldest
          have ownKey := consistent _ _ found
          subst ownKey
          rcases List.mem_cons.mp member with isHead | inRest
          · rw [isHead]
            exact removes_of_live setup found _
          · have evicted :
                Exports setup tracker
                  (tracker.handOver setup entry .evicted) :=
              .single setup found trivial
            rw [exportOrDrop_of_live .evicted found] at inRest
            exact inductionHypothesis (evicted.consistent consistent)
              site inRest
      · cases member

variable (setup) in
/-- Every call of the periodic sweep removes an entry. -/
theorem periodicSites_remove
    {tracker : FlowTracker}
    (consistent : tracker.Consistent) :
    ∀ site ∈ periodicSites setup tracker, site.Removes setup := by
  intro site member
  simp only [periodicSites] at member
  split at member
  · cases member
  · split at member
    · exact sweepSites_remove setup consistent _ site member
    · cases member

variable (setup) in
/-- The tracker is consistent before evictions and before the last sweep. -/
theorem Consistent.phases
    {observed : FlowTracker}
    (consistent : observed.Consistent)
    (packet : TrackedPacket)
    (event : EventView) :
    let release := observed.releaseStale setup packet event.flagSet
    release.1.Consistent ∧
      ∀ attached entry,
        release.1.attachEntry setup packet release.2 =
            (attached, .ok entry) →
          (attached.store packet.key
            (recordPacket setup.cfg entry packet event)).Consistent := by
  intro release
  constructor
  · rcases releaseStale_cases setup consistent packet event.flagSet with
      ⟨_, isRelease⟩ |
        ⟨entry, reason, found, ownKey, fits, _, _, isRelease⟩ |
        ⟨_, _, _, _, isRelease⟩
    · simp only [release, isRelease]
      exact consistent
    · have live : observed.table.get? entry.flow.key = some entry := by
        rw [ownKey]
        exact found
      simp only [release, isRelease]
      exact (Exports.single setup live fits).consistent consistent
    · simp only [release, isRelease]
      exact consistent
  · intro attached entry attaching
    rcases attachEntry_cases setup consistent packet event.flagSet with
      ⟨_, _, _, _, result⟩ | ⟨made, _, _, result, attaches, sameStore⟩
    · cases attaching.symm.trans result
    · cases attaching.symm.trans result
      rw [sameStore]
      exact attaches.store_consistent consistent event

variable (setup) in
/-- Every call an update makes removes an entry. -/
theorem trackSites_remove
    {tracker : FlowTracker}
    (consistent : tracker.Consistent)
    (packet : TrackedPacket)
    (event : EventView) :
    ∀ site ∈ trackSites setup tracker packet event,
      site.Removes setup := by
  have observed := consistent.observe packet.ts
  obtain ⟨released, counted⟩ := observed.phases setup packet event
  intro site member
  simp only [trackSites] at member
  cases flags : event.flags with
  | error exception =>
      simp [flags] at member
  | ok flagSet =>
      have sameFlags : event.flagSet = flagSet := by
        simp only [EventView.flagSet, flags]
      rw [sameFlags] at released counted
      simp only [flags, List.mem_append] at member
      rcases member with (stale | evicted) | periodic
      · exact releaseSites_remove setup observed packet _ site stale
      · simp only [roomSites] at evicted
        split at evicted
        · cases evicted
        · exact evictSites_remove setup _ released site evicted
      · unfold recordSites at periodic
        split at periodic
        · cases periodic
        · rename_i attached entry attaching
          dsimp only at periodic
          split at periodic
          · exact periodicSites_remove setup
              (counted attached entry attaching) site periodic
          · cases periodic

variable (setup) in
/-- Every call a request makes removes an entry. -/
theorem exportSites_remove
    {tracker : FlowTracker}
    (consistent : tracker.Consistent)
    (request : TrackerRequest) :
    ∀ site ∈ exportSites setup tracker request, site.Removes setup := by
  cases request with
  | update event =>
      simp only [exportSites]
      split
      · intro site member
        cases member
      · exact trackSites_remove setup consistent _ event
  | sweep now =>
      exact sweepSites_remove setup consistent now
  | flush =>
      apply flushSites_remove
      · rintro ⟨key, entry⟩ member
        have found := OrderedDict.get?_eq_some_iff.mpr member
        exact ⟨consistent key entry found, found⟩
      · exact tracker.table.keysNodup

/-! ### What the callback sees of the calls -/

/-- What calls of the export function add to those made to the callback. -/
def callsAt
    (setup : TrackerSetup)
    (sites : List ExportSite) :
    List (Nat × Flow) :=
  sites.flatMap fun site => callsOf setup site.entry site.reason

@[simp] theorem callsAt_nil : callsAt setup [] = [] :=
  rfl

@[simp] theorem callsAt_cons
    (site : ExportSite)
    (sites : List ExportSite) :
    callsAt setup (site :: sites) =
      callsOf setup site.entry site.reason ++ callsAt setup sites :=
  rfl

@[simp] theorem callsAt_append
    (first second : List ExportSite) :
    callsAt setup (first ++ second) =
      callsAt setup first ++ callsAt setup second :=
  List.flatMap_append

/-- A call that removes its entry hands it to the callback. -/
theorem ExportSite.Removes.handed
    {site : ExportSite}
    (removes : site.Removes setup) :
    (site.tracker.exportFlow setup site.entry site.reason).handed =
      site.tracker.handed ++ callsOf setup site.entry site.reason := by
  rw [exportFlow_of_live _ _ _ removes.1]
  rfl

/-- After a call that removes its entry there is nothing left to drop. -/
theorem ExportSite.Removes.exportOrDrop
    {site : ExportSite}
    (removes : site.Removes setup)
    (key : FlowKey) :
    site.tracker.exportOrDrop setup key site.entry site.reason =
      site.tracker.exportFlow setup site.entry site.reason := by
  simp only [FlowTracker.exportOrDrop, if_neg removes.2.2]

/-- Exporting a collected list hands over its entries, one after the other. -/
theorem handed_exportAll
    {tracker : FlowTracker}
    {collected : List (FlowEntry × CloseReason)}
    (remove :
      ∀ site ∈ exportAllSites setup tracker collected,
        site.Removes setup) :
    (tracker.exportAll setup collected).handed =
      tracker.handed ++
        callsAt setup (exportAllSites setup tracker collected) := by
  induction collected generalizing tracker with
  | nil =>
      simp [exportAll, exportAllSites]
  | cons item rest inductionHypothesis =>
      obtain ⟨entry, reason⟩ := item
      simp only [exportAllSites, List.forall_mem_cons] at remove
      have later := inductionHypothesis remove.2
      have first := remove.1.handed
      simp only [exportAll, List.foldl_cons] at later ⊢
      rw [later, first]
      simp [exportAllSites]

variable (setup) in
/-- What a sweep hands over. -/
theorem handed_sweep
    {tracker : FlowTracker}
    (consistent : tracker.Consistent)
    (now : Option Time) :
    (tracker.sweep setup now).handed =
      tracker.handed ++ callsAt setup (sweepSites setup tracker now) :=
  handed_exportAll (sweepSites_remove setup consistent now)

variable (setup) in
/-- What a flush hands over. -/
theorem handed_flush
    {tracker : FlowTracker}
    (remove :
      ∀ site ∈ flushSites setup tracker tracker.table.items,
        site.Removes setup) :
    (tracker.flush setup).handed =
      tracker.handed ++
        callsAt setup (flushSites setup tracker tracker.table.items) := by
  rw [flush]
  generalize tracker.table.items = items at remove ⊢
  induction items generalizing tracker with
  | nil =>
      simp [flushSites]
  | cons item rest inductionHypothesis =>
      obtain ⟨key, entry⟩ := item
      simp only [flushSites, List.forall_mem_cons] at remove
      have later := inductionHypothesis remove.2
      rw [List.foldl_cons, later, remove.1.exportOrDrop key,
        remove.1.handed]
      simp [flushSites, remove.1.exportOrDrop key]

variable (setup) in
/-- What the loop hands over. -/
theorem handed_evictOldest
    (rounds : Nat)
    {tracker : FlowTracker}
    (remove :
      ∀ site ∈ evictSites setup rounds tracker, site.Removes setup) :
    (evictOldest setup rounds tracker).handed =
      tracker.handed ++
        callsAt setup (evictSites setup rounds tracker) := by
  induction rounds generalizing tracker with
  | zero =>
      simp [evictOldest, evictSites]
  | succ rounds inductionHypothesis =>
      simp only [evictSites] at remove
      simp only [evictOldest, evictSites]
      split at remove <;> rename_i full
      · simp only [if_pos full]
        cases oldest : tracker.table.oldest? with
        | none =>
            simp
        | some item =>
            obtain ⟨key, entry⟩ := item
            simp only [oldest, List.forall_mem_cons] at remove
            have later := inductionHypothesis remove.2
            have dropped := remove.1.exportOrDrop key
            have handed := remove.1.handed
            simp only at dropped handed
            simp only [later, callsAt_cons]
            rw [dropped, handed, List.append_assoc]
      · simp [full]

variable (setup) in
/-- What the periodic sweep hands over. -/
theorem handed_periodicSweep
    {tracker : FlowTracker}
    (consistent : tracker.Consistent) :
    (tracker.periodicSweep setup).handed =
      tracker.handed ++ callsAt setup (periodicSites setup tracker) := by
  simp only [periodicSweep, periodicSites]
  cases tracker.lastSweep with
  | none =>
      simp
  | some lastSweep =>
      simp only
      split
      · exact handed_sweep setup consistent _
      · simp

variable (setup) in
/-- What releasing the stale entry of a packet hands over. -/
theorem handed_releaseStale
    {tracker : FlowTracker}
    (consistent : tracker.Consistent)
    (packet : TrackedPacket)
    (flags : List Str) :
    (tracker.releaseStale setup packet flags).1.handed =
      tracker.handed ++
        callsAt setup (releaseSites setup tracker packet flags) := by
  have remove := releaseSites_remove setup consistent packet flags
  unfold releaseSites at remove ⊢
  unfold releaseStale
  cases found : tracker.table.get? packet.key with
  | none =>
      simp
  | some entry =>
      simp only [found] at remove ⊢
      by_cases expired : isExpired entry packet.ts setup.cfg = true
      · simp only [expired, if_true] at remove ⊢
        have handed := (remove _ (List.mem_singleton_self _)).handed
        simpa using handed
      · simp only [expired, Bool.false_eq_true, if_false] at remove ⊢
        by_cases reuse : isPortReuse entry packet flags = true
        · simp only [reuse, if_true] at remove ⊢
          have handed := (remove _ (List.mem_singleton_self _)).handed
          simpa using handed
        · simp [reuse]

variable (setup) in
/-- What attaching a packet hands over. -/
theorem handed_attachEntry
    {release : FlowTracker × Option FlowEntry}
    (consistent : release.1.Consistent)
    (packet : TrackedPacket) :
    (release.1.attachEntry setup packet release.2).1.handed =
      release.1.handed ++ callsAt setup (roomSites setup release) := by
  obtain ⟨released, live⟩ := release
  cases live with
  | some entry =>
      simp [attachEntry, roomSites]
  | none =>
      have evicting :=
        handed_evictOldest setup _
          (evictSites_remove setup released.table.size consistent)
      simp only [attachEntry, roomSites]
      cases makeFlowId setup.digest packet.key packet.ts <;>
        exact evicting

variable (setup) in
/-- What recording a packet and sweeping hands over. -/
theorem handed_recordAttached
    (packet : TrackedPacket)
    (event : EventView)
    (attaching : FlowTracker × Except PyException FlowEntry)
    (counted :
      ∀ attached entry,
        attaching = (attached, .ok entry) →
        (attached.store packet.key
          (recordPacket setup.cfg entry packet event)).Consistent) :
    (recordAttached setup packet event attaching).1.handed =
      attaching.1.handed ++
        callsAt setup (recordSites setup packet event attaching) := by
  obtain ⟨attached, made⟩ := attaching
  cases made with
  | error exception =>
      simp [recordAttached, recordSites]
  | ok entry =>
      simp only [recordAttached, recordSites]
      cases event.appFault with
      | some exception =>
          simp [finishUpdate]
      | none =>
          exact handed_periodicSweep setup (counted attached entry rfl)

variable (setup) in
/-- What an update of a tracked packet hands over. -/
theorem handed_track
    {tracker : FlowTracker}
    (consistent : tracker.Consistent)
    (packet : TrackedPacket)
    (event : EventView) :
    (tracker.track setup packet event).1.handed =
      tracker.handed ++
        callsAt setup (trackSites setup tracker packet event) := by
  have observed := consistent.observe packet.ts
  obtain ⟨released, counted⟩ := observed.phases setup packet event
  simp only [track, trackSites]
  cases flags : event.flags with
  | error exception =>
      simp
  | ok flagSet =>
      have sameFlags : event.flagSet = flagSet := by
        simp only [EventView.flagSet, flags]
      rw [sameFlags] at released counted
      have releasing := handed_releaseStale setup observed packet flagSet
      have attaching := handed_attachEntry setup released packet
      have recording :=
        handed_recordAttached setup packet event _ counted
      simp only [callsAt_append, ← List.append_assoc]
      refine recording.trans (congrArg (· ++ _) (attaching.trans ?_))
      exact congrArg (· ++ _) releasing

variable (setup) in
/-- The callback sees the calls of the export function, in their order. -/
theorem handed_answer
    {tracker : FlowTracker}
    (consistent : tracker.Consistent)
    (request : TrackerRequest) :
    (tracker.answer setup request).1.handed =
      tracker.handed ++
        callsAt setup (exportSites setup tracker request) := by
  cases request with
  | update event =>
      cases accepted : trackedPacket? event with
      | none =>
          simp [answer_ignored tracker accepted, exportSites, accepted]
      | some packet =>
          simp only [answer_tracked tracker accepted, exportSites, accepted]
          exact handed_track setup consistent packet event
  | sweep now =>
      exact handed_sweep setup consistent now
  | flush =>
      exact handed_flush setup
        (exportSites_remove setup consistent .flush)

/--
After any requests in any order, every entry of the table satisfies the
invariant, and whatever request comes next, every call of the export function
it makes removes the entry it is given, so that neither defensive removal is
taken.
-/
theorem table_entries_sound
    (setup : TrackerSetup)
    (requests : List TrackerRequest) :
    let served := StepRuns.run (answerRecorded setup) fresh requests
    (∀ key entry,
        served.1.table.get? key = some entry →
        EntrySound served.1.clock (trackedOf served.2) key entry) ∧
      ∀ request,
        ∀ site ∈ exportSites setup served.1 request,
          site.Removes setup := by
  intro served
  have sound : served.1.TableSound served.2 :=
    tableSound_run setup requests
  refine ⟨?_, exportSites_remove setup sound.consistent⟩
  intro key entry live
  have liveSound := sound.live key entry live
  obtain ⟨opener, isOpener, first, second⟩ := liveSound.opener
  refine ⟨(sound.consistent key entry live).symm, liveSound.coherent,
    liveSound.opened, liveSound.seen, ?_⟩
  intro item member sameSerial
  obtain ⟨packet, other, accepted, isOther, sent⟩ :=
    sound.sent item member
  rw [sameSerial, isOpener] at isOther
  cases isOther
  rw [first, second]
  exact ⟨packet, accepted, sent⟩

end FlowTracker

end IntrusionDetection
