import IntrusionDetection.FlowInvariants
import IntrusionDetection.TcpHistory

namespace IntrusionDetection

open PyText TcpHistory

/-!
# The TCP state of a flow, from its packets

The tracker copies the context bits of a flow in and out of the state machine
at every packet.  Whatever requests it answers, the state of a TCP flow is the
one its own packets determine, and it never moves backwards.
-/

/-- How far a connection has come. -/
def FlowState.rank : FlowState → Nat
  | .handshake => 0
  | .active => 0
  | .established => 1
  | .closing => 2
  | .closed => 3
  | .reset => 3

/-- What the state machine saw of a tracked event. -/
def TrackedEvent.segment (item : TrackedEvent) : TcpSegment :=
  .ofFlags item.event.flagSet item.attachment.direction

/-- The packets of one flow, in the order they were attached. -/
def segmentsOf
    (tracked : List TrackedEvent)
    (serial : Nat) :
    List TcpSegment :=
  (attachedTo tracked serial).map TrackedEvent.segment

/-- One more tracked event extends the packets of its own flow only. -/
theorem segmentsOf_concat
    (tracked : List TrackedEvent)
    (item : TrackedEvent)
    (serial : Nat) :
    segmentsOf (tracked ++ [item]) serial =
      if item.attachment.serial = serial then
        segmentsOf tracked serial ++ [item.segment]
      else
        segmentsOf tracked serial := by
  simp only [segmentsOf, attachedTo, List.filter_append]
  by_cases own : item.attachment.serial = serial <;> simp [own]

/-- A flow that is neither closed nor reset can still go on. -/
theorem rank_le_closing
    {state : FlowState}
    (isOpen : StillOpen state) :
    state.rank ≤ FlowState.closing.rank := by
  cases state <;> simp_all [StillOpen, FlowState.rank]

/-- A later packet does not move the state backwards. -/
theorem rank_nextState
    (state : FlowState)
    (flags : PyValue)
    (direction : Direction)
    (ctx : TcpContext) :
    state.rank ≤ (nextState state flags direction ctx false).1.rank := by
  by_cases terminal : state = .closed ∨ state = .reset
  · rw [nextState_of_terminal terminal]
  have isOpen : StillOpen state := not_or.mp terminal
  have atMost := rank_le_closing isOpen
  cases rst : (segmentOf flags direction).rst with
  | true =>
      rw [nextState_of_rst isOpen rst]
      exact atMost.trans (Nat.le_succ _)
  | false =>
      cases isFin : (segmentOf flags direction).isFin with
      | true =>
          obtain ⟨marked, _, _, result⟩ :=
            @nextState_of_fin state flags direction ctx false isOpen isFin
          rw [result]
          refine atMost.trans ?_
          simp only
          split <;> decide
      | false =>
          rcases quiet_kinds rst isFin with
            ⟨syn, _⟩ | ⟨_, _, plainAck⟩ | ⟨syn, _, notPlain⟩
          · rw [nextState_of_syn isOpen rst syn]
            split <;> rename_i answers
            · rw [answers.1]
            · exact le_rfl
          · rw [nextState_of_ack isOpen rst plainAck]
            split <;> rename_i completes
            · rw [completes.1]
              exact Nat.zero_le _
            · split
              · exact atMost.trans (Nat.le_succ _)
              · exact le_rfl
          · rw [nextState_of_none isOpen rst syn isFin notPlain]

/-- The state machine does not change the configured close. -/
theorem finalAck_nextState
    (state : FlowState)
    (flags : PyValue)
    (direction : Direction)
    (ctx : TcpContext)
    (isFirst : Bool) :
    (nextState state flags direction ctx isFirst).2.tcpCloseRequiresFinalAck =
      ctx.tcpCloseRequiresFinalAck := by
  simp only [nextState]
  cases direction <;> grind

/-- The context the tracker passes to the state machine. -/
def FlowEntry.context (cfg : FlowCfg) (entry : FlowEntry) : TcpContext where
  synackSeen := entry.synackSeen
  synackDir := entry.synackDir
  finFwd := entry.finFwd
  finBwd := entry.finBwd
  midstream := entry.flow.midstream
  tcpCloseRequiresFinalAck := cfg.tcpCloseRequiresFinalAck

/-- After its packets the entry holds what the state machine left. -/
structure EntryFollows
    (cfg : FlowCfg)
    (history : List TcpSegment)
    (entry : FlowEntry) : Prop where
  nonempty : history ≠ []
  counted : 0 < entry.flow.packetCount
  follows :
    Follows cfg.tcpCloseRequiresFinalAck history (entry.context cfg)
      entry.flow.state

section Record

variable {cfg : FlowCfg} {history : List TcpSegment}
variable {entry : FlowEntry} {packet : TrackedPacket}

/-- Recording a TCP packet runs the state machine on state and context. -/
theorem recordPacket_state
    (cfg : FlowCfg)
    (entry : FlowEntry)
    (isTcp : packet.protocol = .tcp)
    (event : EventView) :
    let result :=
      nextState entry.flow.state (.list (event.flagSet.map .str))
        (packetDirection entry packet) (entry.context cfg)
        (entry.flow.packetCount = 0)
    (recordPacket cfg entry packet event).flow.state = result.1 ∧
      (recordPacket cfg entry packet event).context cfg = result.2 ∧
      0 < (recordPacket cfg entry packet event).flow.packetCount := by
  intro result
  have finalAck :
      result.2.tcpCloseRequiresFinalAck =
        cfg.tcpCloseRequiresFinalAck :=
    finalAck_nextState _ _ _ _ _
  simp only [recordPacket, isTcp, advanceState, countPacket]
  refine ⟨rfl, ?_, Nat.succ_pos _⟩
  exact congrArg
    (fun configured : Bool =>
      { result.2 with tcpCloseRequiresFinalAck := configured })
    finalAck.symm

/-- The state machine sees the flags of the event. -/
theorem segmentOf_flagSet
    (event : EventView)
    (direction : Direction) :
    segmentOf (.list (event.flagSet.map .str)) direction =
      .ofFlags event.flagSet direction := by
  rw [segmentOf, event.normalizeFlags_flagSet]

/-- A further packet extends the history of an entry. -/
theorem EntryFollows.record
    (entryFollows : EntryFollows cfg history entry)
    (isTcp : packet.protocol = .tcp)
    (event : EventView) :
    EntryFollows cfg
      (history ++
        [.ofFlags event.flagSet (packetDirection entry packet)])
      (recordPacket cfg entry packet event) := by
  obtain ⟨state, context, counted⟩ :=
    recordPacket_state cfg entry isTcp event
  have later : decide (entry.flow.packetCount = 0) = false := by
    simpa using Nat.ne_of_gt entryFollows.counted
  have before :
      Follows (entry.context cfg).tcpCloseRequiresFinalAck history
        (entry.context cfg) entry.flow.state :=
    entryFollows.follows
  have next :=
    before.next entryFollows.nonempty
      (.list (event.flagSet.map .str)) (packetDirection entry packet)
  rw [later] at state context
  rw [segmentOf_flagSet] at next
  refine ⟨by simp, counted, ?_⟩
  rw [state, context]
  exact next

/-- A further packet does not move the state of an entry backwards. -/
theorem EntryFollows.rank_record
    (entryFollows : EntryFollows cfg history entry)
    (isTcp : packet.protocol = .tcp)
    (event : EventView) :
    entry.flow.state.rank ≤
      (recordPacket cfg entry packet event).flow.state.rank := by
  obtain ⟨state, _, _⟩ := recordPacket_state cfg entry isTcp event
  have later : decide (entry.flow.packetCount = 0) = false := by
    simpa using Nat.ne_of_gt entryFollows.counted
  rw [state, later]
  exact rank_nextState _ _ _ _

/-- The packet that opens a flow is its whole history. -/
theorem entryFollows_first
    (cfg : FlowCfg)
    (flowId : Str)
    (serial : Nat)
    (isTcp : packet.protocol = .tcp)
    (event : EventView) :
    EntryFollows cfg [.ofFlags event.flagSet .forward]
      (recordPacket cfg (newEntry (newFlow flowId packet) serial) packet
        event) := by
  let entry := newEntry (newFlow flowId packet) serial
  obtain ⟨state, context, counted⟩ :=
    recordPacket_state cfg entry isTcp event
  have forward : packetDirection entry packet = .forward :=
    (directionOf_eq_forward_iff packet.src packet.src).mpr rfl
  have starts : entry.flow.state = .handshake := by
    simp [entry, newEntry, newFlow, isTcp]
  have isFirst : decide (entry.flow.packetCount = 0) = true := rfl
  have fresh : FreshContext (entry.context cfg) :=
    ⟨rfl, rfl, rfl, rfl⟩
  have first := fresh.follows (.list (event.flagSet.map .str))
  rw [forward, starts, isFirst] at state context
  rw [segmentOf_flagSet] at first
  refine ⟨by simp, counted, ?_⟩
  rw [state, context]
  exact first

end Record

namespace FlowTracker

variable {setup : TrackerSetup}

/-- The flow objects in the table are different ones, and none is yet to come. -/
structure SerialsDistinct (tracker : FlowTracker) : Prop where
  created :
    ∀ key entry,
      tracker.table.get? key = some entry →
      entry.serial < tracker.created
  distinct :
    ∀ first second firstEntry secondEntry,
      tracker.table.get? first = some firstEntry →
      tracker.table.get? second = some secondEntry →
      firstEntry.serial = secondEntry.serial →
      first = second

/-- Every live TCP flow follows its own packets among the tracked events. -/
structure TcpFollows
    (setup : TrackerSetup)
    (tracker : FlowTracker)
    (tracked : List TrackedEvent) : Prop where
  consistent : tracker.Consistent
  serials : tracker.SerialsDistinct
  attached :
    ∀ item ∈ tracked, item.attachment.serial < tracker.created
  follows :
    ∀ key entry,
      tracker.table.get? key = some entry →
      entry.flow.protocol = .tcp →
      EntryFollows setup.cfg (segmentsOf tracked entry.serial) entry

/-- A flow object yet to be constructed has no packets. -/
theorem TcpFollows.segmentsOf_created
    {tracker : FlowTracker}
    {tracked : List TrackedEvent}
    (follows : TcpFollows setup tracker tracked) :
    segmentsOf tracked tracker.created = [] := by
  have none : attachedTo tracked tracker.created = [] := by
    simp only [attachedTo, List.filter_eq_nil_iff, decide_eq_true_eq]
    intro item member
    exact Nat.ne_of_lt (follows.attached item member)
  rw [segmentsOf, none, List.map_nil]

/--
What a tracked packet does to its flow: it extends the history of a live flow
or opens a new one in forward direction, and the entry follows the history.
-/
theorem TcpFollows.recorded
    {tracker : FlowTracker}
    {tracked : List TrackedEvent}
    (follows : TcpFollows setup tracker tracked)
    {packet : TrackedPacket}
    (isTcp : packet.protocol = .tcp)
    (event : EventView)
    {entry : FlowEntry}
    (origin :
      tracker.table.get? packet.key = some entry ∨
        ∃ flowId,
          entry = newEntry (newFlow flowId packet) tracker.created) :
    EntryFollows setup.cfg
      (segmentsOf tracked entry.serial ++
        [.ofFlags event.flagSet (packetDirection entry packet)])
      (recordPacket setup.cfg entry packet event) := by
  rcases origin with live | ⟨flowId, isNew⟩
  · have ownKey := follows.consistent _ _ live
    have entryTcp : entry.flow.protocol = .tcp := by
      rw [(eq_or_swap_of_makeKey_eq ownKey).1]
      exact isTcp
    exact (follows.follows _ _ live entryTcp).record isTcp event
  · have noHistory : segmentsOf tracked entry.serial = [] := by
      rw [isNew]
      exact follows.segmentsOf_created
    have forward : packetDirection entry packet = .forward := by
      rw [isNew]
      exact (directionOf_eq_forward_iff packet.src packet.src).mpr rfl
    rw [noHistory, forward, isNew]
    exact entryFollows_first setup.cfg flowId _ isTcp event

/-- No other live flow shares the flow object a packet is recorded on. -/
theorem SerialsDistinct.other
    {tracker : FlowTracker}
    (serials : tracker.SerialsDistinct)
    {packet : TrackedPacket}
    {entry other : FlowEntry}
    (origin :
      tracker.table.get? packet.key = some entry ∨
        ∃ flowId,
          entry = newEntry (newFlow flowId packet) tracker.created)
    {key : FlowKey}
    (different : key ≠ packet.key)
    (live : tracker.table.get? key = some other) :
    entry.serial ≠ other.serial := by
  rcases origin with own | ⟨flowId, isNew⟩
  · intro same
    exact different (serials.distinct _ _ _ _ live own same.symm)
  · rw [isNew]
    exact (Nat.ne_of_lt (serials.created key other live)).symm

/-- A packet with a place keeps every TCP flow following its packets. -/
theorem TcpFollows.track
    {tracker : FlowTracker}
    {tracked : List TrackedEvent}
    (before : TcpFollows setup tracker tracked)
    (event : EventView)
    (packet : TrackedPacket)
    {attachment : Attachment}
    (placed :
      (tracker.track setup packet event).2.attachment =
        some attachment) :
    TcpFollows setup (tracker.track setup packet event).1
      (tracked ++ [⟨event, attachment⟩]) := by
  have consistent := before.consistent
  obtain ⟨entry, cases, isAttachment, entries⟩ :=
    track_entries setup consistent packet event placed
  have origin :
      tracker.table.get? packet.key = some entry ∨
        ∃ flowId,
          entry = newEntry (newFlow flowId packet) tracker.created :=
    cases.imp And.left And.left
  have serial : attachment.serial = entry.serial := by
    simp [isAttachment, attachmentOf]
  have created :
      entry.serial < (tracker.track setup packet event).1.created ∧
        tracker.created ≤
          (tracker.track setup packet event).1.created := by
    rcases cases with ⟨live, same⟩ | ⟨⟨flowId, isNew⟩, more⟩
    · rw [same]
      exact ⟨before.serials.created _ _ live, le_rfl⟩
    · rw [more, isNew]
      exact ⟨Nat.lt_succ_self _, Nat.le_succ _⟩
  have stays := consistent.track setup packet event
  refine ⟨stays, ⟨?_, ?_⟩, ?_, ?_⟩
  · intro key other live
    rcases entries key other live with ⟨_, isRecorded⟩ | ⟨_, wasLive⟩
    · rw [isRecorded, recordPacket_serial]
      exact created.1
    · exact (before.serials.created key other wasLive).trans_le created.2
  · intro first second firstEntry secondEntry firstLive secondLive same
    rcases entries first firstEntry firstLive with
      ⟨firstKey, isFirst⟩ | ⟨firstOther, wasFirst⟩ <;>
    rcases entries second secondEntry secondLive with
      ⟨secondKey, isSecond⟩ | ⟨secondOther, wasSecond⟩
    · exact firstKey.trans secondKey.symm
    · rw [isFirst, recordPacket_serial] at same
      exact (before.serials.other origin secondOther wasSecond same).elim
    · rw [isSecond, recordPacket_serial] at same
      exact
        (before.serials.other origin firstOther wasFirst same.symm).elim
    · exact before.serials.distinct _ _ _ _ wasFirst wasSecond same
  · intro item member
    rcases List.mem_append.mp member with earlier | isNew
    · exact (before.attached item earlier).trans_le created.2
    · rw [List.mem_singleton.mp isNew, serial]
      exact created.1
  · intro key other live isTcp
    rw [segmentsOf_concat]
    rcases entries key other live with ⟨own, isRecorded⟩ | ⟨foreign, wasLive⟩
    · have ownKey := stays key other live
      rw [own] at ownKey
      have packetTcp : packet.protocol = .tcp := by
        rw [← (eq_or_swap_of_makeKey_eq ownKey).1]
        exact isTcp
      have follows := before.recorded packetTcp event origin
      rw [isRecorded, recordPacket_serial, if_pos serial]
      simpa [TrackedEvent.segment, isAttachment, attachmentOf,
        packetDirection] using follows
    · have different := before.serials.other origin foreign wasLive
      rw [if_neg (serial ▸ different)]
      exact before.follows key other wasLive isTcp

/-- Every request keeps every TCP flow following its packets. -/
theorem TcpFollows.answer
    {tracker : FlowTracker}
    {records : List RequestRecord}
    (before : TcpFollows setup tracker (trackedOf records))
    (request : TrackerRequest) :
    TcpFollows setup (tracker.answerRecorded setup request).1
      (trackedOf
        (records ++ [(tracker.answerRecorded setup request).2])) := by
  rcases answerRecorded_cases setup before.consistent request with
    ⟨event, packet, attachment, _, placed, result⟩ |
      ⟨_, exported, exports, quiet, table, _, created⟩
  · rw [result, trackedOf_concat]
    exact before.track event packet placed
  · have earlier :
        ∀ {key entry},
          (tracker.answerRecorded setup request).1.table.get? key =
              some entry →
          tracker.table.get? key = some entry := by
      intro key entry live
      rw [table] at live
      exact exports.live_before live
    have sameTracked :
        trackedOf (records ++ [RequestRecord.quiet]) =
          trackedOf records := by
      simp [trackedOf_concat, RequestRecord.quiet]
    rw [quiet, sameTracked]
    refine ⟨before.consistent.answer setup request, ⟨?_, ?_⟩, ?_, ?_⟩
    · rw [created]
      exact fun key entry live =>
        before.serials.created key entry (earlier live)
    · intro first second firstEntry secondEntry firstLive secondLive
      exact before.serials.distinct _ _ _ _ (earlier firstLive)
        (earlier secondLive)
    · rw [created]
      exact before.attached
    · exact fun key entry live =>
        before.follows key entry (earlier live)

/-- Every TCP flow follows its packets after every run of requests. -/
theorem tcpFollows_run
    (setup : TrackerSetup)
    (requests : List TrackerRequest) :
    TcpFollows setup
      (StepRuns.run (answerRecorded setup) fresh requests).1
      (trackedOf
        (StepRuns.run (answerRecorded setup) fresh requests).2) := by
  have initially : TcpFollows setup fresh (trackedOf []) := by
    refine ⟨consistent_fresh, ⟨?_, ?_⟩, ?_, ?_⟩
    · intro key entry live
      simp [fresh] at live
    · intro first second firstEntry secondEntry live
      simp [fresh] at live
    · intro item member
      cases member
    · intro key entry live
      simp [fresh] at live
  have preserved :
      ∀ (tracker : FlowTracker) (requests : List TrackerRequest) records
          request,
        TcpFollows setup tracker (trackedOf records) →
        TcpFollows setup (tracker.answerRecorded setup request).1
          (trackedOf
            (records ++ [(tracker.answerRecorded setup request).2])) :=
    fun _ _ _ request before => before.answer request
  exact StepRuns.history_of_run initially preserved

/--
After any requests, the state of every live TCP flow is the one the law reads
off its packets, and so is the state after one more packet with a place: the
packet that opens a flow is a forward one, and a later packet does not move the
state backwards.
-/
theorem state_follows_history
    (setup : TrackerSetup)
    (requests : List TrackerRequest) :
    let served := StepRuns.run (answerRecorded setup) fresh requests
    let tracked := trackedOf served.2
    let finalAck := setup.cfg.tcpCloseRequiresFinalAck
    (∀ key entry,
        served.1.table.get? key = some entry →
        entry.flow.protocol = .tcp →
        segmentsOf tracked entry.serial ≠ [] ∧
          StateByHistory finalAck (segmentsOf tracked entry.serial)
            entry.flow.state) ∧
      ∀ event packet attachment,
        trackedPacket? event = some packet →
        packet.protocol = .tcp →
        (served.1.update setup event).2.attachment = some attachment →
        let before := segmentsOf tracked attachment.serial
        let segment :=
          TcpSegment.ofFlags event.flagSet attachment.direction
        (before = [] → attachment.direction = .forward) ∧
          StateByHistory finalAck (before ++ [segment])
            attachment.flowState ∧
          ∀ entry,
            served.1.table.get? packet.key = some entry →
            entry.serial = attachment.serial →
            entry.flow.state.rank ≤ attachment.flowState.rank := by
  intro served tracked finalAck
  have follows : TcpFollows setup served.1 tracked :=
    tcpFollows_run setup requests
  refine ⟨?_, ?_⟩
  · intro key entry live isTcp
    have entryFollows := follows.follows key entry live isTcp
    exact ⟨entryFollows.nonempty,
      entryFollows.follows.stateByHistory⟩
  · intro event packet attachment accepted isTcp placed before segment
    rw [update_accepted setup served.1 accepted] at placed
    obtain ⟨entry, cases, isAttachment, _⟩ :=
      track_entries setup follows.consistent packet event placed
    have origin := cases.imp And.left And.left
    have recorded := follows.recorded isTcp event origin
    have serial : attachment.serial = entry.serial := by
      simp [isAttachment, attachmentOf]
    have direction :
        attachment.direction = packetDirection entry packet := by
      simp [isAttachment, attachmentOf, packetDirection]
    have flowState :
        attachment.flowState =
          (recordPacket setup.cfg entry packet event).flow.state := by
      simp [isAttachment, attachmentOf]
    have liveFollows :
        ∀ live,
          served.1.table.get? packet.key = some live →
          EntryFollows setup.cfg (segmentsOf tracked live.serial) live := by
      intro live isLive
      refine follows.follows _ live isLive ?_
      have ownKey := follows.consistent _ live isLive
      rw [(eq_or_swap_of_makeKey_eq ownKey).1]
      exact isTcp
    refine ⟨?_, ?_, ?_⟩
    · intro noHistory
      rw [direction]
      simp only [before, serial] at noHistory
      rcases origin with live | ⟨flowId, isNew⟩
      · exact ((liveFollows entry live).nonempty noHistory).elim
      · rw [isNew]
        exact (directionOf_eq_forward_iff packet.src packet.src).mpr rfl
    · simp only [before, segment, serial, direction, flowState]
      exact recorded.follows.stateByHistory
    · intro live isLive sameSerial
      rcases origin with wasLive | ⟨flowId, isNew⟩
      · rw [isLive] at wasLive
        cases wasLive
        rw [flowState]
        exact (liveFollows entry isLive).rank_record isTcp event
      · have older := follows.serials.created _ live isLive
        rw [sameSerial, serial, isNew] at older
        exact (lt_irrefl _ older).elim

end FlowTracker

end IntrusionDetection
