import IntrusionDetection.FlowConservation
import IntrusionDetection.FlowContext
import IntrusionDetection.FlowCurrent

namespace IntrusionDetection

open PyText FlowTracker

/-!
# Who is the client

The role in a flow context is meant to follow the client of the flow, which is
fixed by the flow's first packet.  The tracker keeps what it needs in the
`midstream` bit of the flow; that bit misses one kind of first packet, a reset
that is not a plain SYN, and this module says exactly when the role is right.
-/

/-- The client judging by ports alone, for a first packet between two endpoints. -/
def portClient (known : List Int) (sender receiver : Endpoint) :
    Endpoint :=
  if sender.port ∈ known ∧ receiver.port ∉ known then receiver
  else if receiver.port ∈ known ∧ sender.port ∉ known then sender
  else if sender.port < receiver.port then receiver
  else sender

/-- Is the packet a TCP packet with SYN and without ACK? -/
def isPlainSyn (packet : TrackedPacket) (event : EventView) : Bool :=
  packet.protocol = .tcp ∧ lit "SYN" ∈ event.flagSet ∧
    lit "ACK" ∉ event.flagSet

/-- The client of a flow, judging by the first packet of the flow. -/
def flowClient
    (known : List Int)
    (first : TrackedPacket)
    (event : EventView) :
    Endpoint :=
  if isPlainSyn first event then first.src
  else portClient known first.src first.dst

/-- Is the packet a TCP packet with RST that is not a plain SYN? -/
def isResetOpening (packet : TrackedPacket) (event : EventView) : Bool :=
  packet.protocol = .tcp ∧ lit "RST" ∈ event.flagSet ∧
    isPlainSyn packet event = false

/-- The ports alone decide alike, whichever side was captured first. -/
theorem portClient_swap
    (known : List Int)
    {first second : Endpoint}
    (differ : first.port ≠ second.port) :
    portClient known first second = portClient known second first := by
  simp only [portClient]
  by_cases firstKnown : first.port ∈ known <;>
    by_cases secondKnown : second.port ∈ known <;>
    simp only [firstKnown, secondKnown, not_true_eq_false,
      not_false_eq_true, and_self, and_true, and_false, if_true,
      if_false]
  all_goals
    rcases lt_or_gt_of_ne differ with below | above
    · rw [if_pos below, if_neg (by omega)]
    · rw [if_neg (by omega), if_pos above]

/-- The server found by ports is the first endpoint iff it is not the client. -/
theorem serverIndex_ne_first_iff
    (known : List Int)
    {first second : Endpoint}
    (differ : first ≠ second) :
    serverIndex first.port second.port known ≠ some .first ↔
      portClient known first second = first := by
  have other : second ≠ first := differ.symm
  simp only [serverIndex, portClient]
  by_cases firstKnown : first.port ∈ known <;>
    by_cases secondKnown : second.port ∈ known <;>
    simp only [firstKnown, secondKnown, decide_true, decide_false,
      ne_eq, not_true_eq_false, not_false_eq_true, and_self, and_true,
      and_false, if_true, if_false, Bool.true_eq_false,
      Bool.false_eq_true, reduceCtorEq, other, Option.some.injEq,
      iff_self]
  all_goals
    rcases lt_trichotomy first.port second.port with
      below | same | above
    · simp [below, ne_of_lt below, other]
    · simp [same]
    · simp [ne_of_gt above, not_lt_of_gt above]

/-- How the entry of a flow remembers the first packet of the flow. -/
structure OpenedBy
    (first : TrackedPacket)
    (event : EventView)
    (entry : FlowEntry) : Prop where
  endpointA : entry.flow.endpointA = first.src
  endpointB : entry.flow.endpointB = first.dst
  protocol : entry.flow.protocol = first.protocol
  counted : 0 < entry.flow.packetCount
  midstream :
    (entry.flow.protocol = .tcp ∧ entry.flow.midstream = false) ↔
      isPlainSyn first event = true ∨ isResetOpening first event = true

/-- Only a first packet can set the `midstream` bit. -/
theorem midstream_nextState_later
    (state : FlowState)
    (flags : PyValue)
    (direction : Direction)
    (ctx : TcpContext) :
    (nextState state flags direction ctx false).2.midstream =
      ctx.midstream := by
  simp only [nextState, Bool.false_eq_true, if_false]
  cases direction <;> (repeat' split) <;> rfl

/-- What a first packet makes of the `midstream` bit. -/
theorem midstream_nextState_first
    (flags : PyValue)
    (direction : Direction)
    {ctx : TcpContext}
    (clear : ctx.midstream = false) :
    (nextState .handshake flags direction ctx true).2.midstream = false ↔
      lit "RST" ∈ normalizeFlags flags ∨
        (lit "SYN" ∈ normalizeFlags flags ∧
          lit "ACK" ∉ normalizeFlags flags) := by
  simp only [nextState, reduceCtorEq, or_self, if_false, if_true]
  by_cases hasRst : lit "RST" ∈ normalizeFlags flags
  · simp [hasRst, clear]
  by_cases hasSyn : lit "SYN" ∈ normalizeFlags flags
  · by_cases hasAck : lit "ACK" ∈ normalizeFlags flags <;>
      simp [hasRst, hasSyn, hasAck, clear]
  by_cases hasFin : lit "FIN" ∈ normalizeFlags flags
  · cases direction <;>
      simp only [hasRst, hasSyn, hasFin, if_true, if_false] <;>
      split <;> simp
  by_cases hasAck : lit "ACK" ∈ normalizeFlags flags <;>
    simp [hasRst, hasSyn, hasFin, hasAck]

namespace OpenedBy

variable {cfg : FlowCfg} {packet first : TrackedPacket}
variable {event opening : EventView} {entry : FlowEntry}

/-- Recording a later packet does not change what the entry remembers. -/
theorem record
    (opened : OpenedBy first opening entry) :
    OpenedBy first opening (recordPacket cfg entry packet event) := by
  have counted : (decide (entry.flow.packetCount = 0)) = false := by
    simpa using ne_of_gt opened.counted
  have sameMidstream :
      (recordPacket cfg entry packet event).flow.midstream =
        entry.flow.midstream := by
    simp only [recordPacket, countPacket, advanceState]
    split
    · rfl
    · simp only [counted]
      exact midstream_nextState_later _ _ _ _
  refine ⟨?_, ?_, ?_, ?_, ?_⟩
  · rw [recordPacket_endpointA, opened.endpointA]
  · rw [recordPacket_endpointB, opened.endpointB]
  · rw [recordPacket_protocol, opened.protocol]
  · simp only [recordPacket, countPacket]
    omega
  · rw [recordPacket_protocol, sameMidstream]
    exact opened.midstream

/-- Recording the first packet on a fresh entry. -/
theorem recordFirst
    (flowId : Str)
    (serial : Nat) :
    OpenedBy packet event
      (recordPacket cfg (newEntry (newFlow flowId packet) serial)
        packet event) := by
  refine ⟨?_, ?_, ?_, ?_, ?_⟩
  · rw [recordPacket_endpointA]
    rfl
  · rw [recordPacket_endpointB]
    rfl
  · rw [recordPacket_protocol]
    rfl
  · simp only [recordPacket, countPacket]
    omega
  · rw [recordPacket_protocol]
    change packet.protocol = .tcp ∧ _ ↔ _
    simp only [isPlainSyn, isResetOpening, decide_eq_true_eq,
      decide_eq_false_iff_not]
    cases protocol : packet.protocol with
    | udp =>
        simp
    | tcp =>
        have clear :
            (newEntry (newFlow flowId packet) serial).flow.midstream =
              false :=
          rfl
        have start :
            (newEntry (newFlow flowId packet) serial).flow.state =
              .handshake := by
          simp only [newEntry, newFlow, protocol]
        have uncounted :
            (newEntry (newFlow flowId packet) serial).flow.packetCount =
              0 :=
          rfl
        simp only [recordPacket, countPacket, advanceState, protocol,
          start, uncounted, decide_true]
        rw [midstream_nextState_first _ _ clear]
        rw [event.normalizeFlags_flagSet]
        by_cases hasRst : lit "RST" ∈ event.flagSet <;>
          by_cases hasSyn : lit "SYN" ∈ event.flagSet <;>
          by_cases hasAck : lit "ACK" ∈ event.flagSet <;>
          simp [hasRst, hasSyn, hasAck]

/-- Whether the first endpoint is taken for the client. -/
theorem clientIsA_iff
    (opened : OpenedBy first opening entry)
    (differ : first.src ≠ first.dst)
    (known : List Int) :
    clientIsA entry.flow known = true ↔
      isPlainSyn first opening = true ∨
        isResetOpening first opening = true ∨
        portClient known first.src first.dst = first.src := by
  have byPorts := serverIndex_ne_first_iff known differ
  have bit := opened.midstream
  simp only [clientIsA, opened.endpointA, opened.endpointB]
  split <;> rename_i opener
  · refine iff_of_true rfl ?_
    rcases bit.mp opener with plain | reset
    · exact Or.inl plain
    · exact Or.inr (Or.inl reset)
  · rw [decide_eq_true_iff, byPorts]
    constructor
    · exact fun client => Or.inr (Or.inr client)
    · rintro (plain | reset | client)
      · exact absurd (bit.mpr (Or.inl plain)) opener
      · exact absurd (bit.mpr (Or.inr reset)) opener
      · exact client

end OpenedBy

namespace FlowTracker

variable {setup : TrackerSetup}

/-- The first packet that went to a flow, with its event. -/
def openingOf
    (tracked : List TrackedEvent)
    (serial : Nat) :
    Option (TrackedPacket × EventView) :=
  (attachedTo tracked serial).head?.bind fun item =>
    (trackedPacket? item.event).map fun packet => (packet, item.event)

/-- Update a tracker with one event. -/
def serveUpdate
    (setup : TrackerSetup)
    (tracker : FlowTracker)
    (event : EventView) :
    FlowTracker × Option TrackedEvent :=
  tracker.serve setup (.update event)

/-- The invariant of a run: every live entry remembers its first packet. -/
structure Remembers
    (tracker : FlowTracker)
    (outputs : List (Option TrackedEvent)) : Prop where
  settled : tracker.Settled
  attached :
    ∀ item ∈ outputs.filterMap id, item.attachment.serial < tracker.created
  live :
    ∀ key entry,
      tracker.table.get? key = some entry →
      ∃ first opening,
        openingOf (outputs.filterMap id) entry.serial =
            some (first, opening) ∧
          OpenedBy first opening entry

/-- A later packet does not change which packet was the first. -/
theorem openingOf_append
    {tracked : List TrackedEvent}
    {serial : Nat}
    {found : TrackedPacket × EventView}
    (before : openingOf tracked serial = some found)
    (item : TrackedEvent) :
    openingOf (tracked ++ [item]) serial = some found := by
  simp only [openingOf, attachedTo, List.filter_append] at before ⊢
  cases list :
      tracked.filter fun item => item.attachment.serial = serial with
  | nil =>
      simp [list] at before
  | cons head rest =>
      simpa [list] using before

/-- The first packet attached to a new flow is its opening. -/
theorem openingOf_new
    {tracked : List TrackedEvent}
    {item : TrackedEvent}
    {packet : TrackedPacket}
    (accepted : trackedPacket? item.event = some packet)
    (isNew :
      ∀ other ∈ tracked,
        other.attachment.serial ≠ item.attachment.serial) :
    openingOf (tracked ++ [item]) item.attachment.serial =
      some (packet, item.event) := by
  have nothing : attachedTo tracked item.attachment.serial = [] := by
    simpa [attachedTo, List.filter_eq_nil_iff] using isNew
  simp only [attachedTo] at nothing
  simp [openingOf, attachedTo, List.filter_append, nothing, accepted]

/-- A flow with a first packet has a packet attached to it. -/
theorem attached_of_openingOf
    {tracked : List TrackedEvent}
    {serial : Nat}
    {found : TrackedPacket × EventView}
    (isFirst : openingOf tracked serial = some found) :
    ∃ item ∈ tracked, item.attachment.serial = serial := by
  simp only [openingOf, Option.bind_eq_some_iff] at isFirst
  obtain ⟨item, isHead, _⟩ := isFirst
  have member := List.mem_of_head? isHead
  simp only [attachedTo, List.mem_filter, decide_eq_true_eq] at member
  exact ⟨item, member⟩

/-- An update of a tracked packet keeps the invariant. -/
theorem Remembers.track
    {tracker : FlowTracker}
    {outputs : List (Option TrackedEvent)}
    (before : tracker.Remembers outputs)
    {event : EventView}
    {packet : TrackedPacket}
    (accepted : trackedPacket? event = some packet) :
    (tracker.track setup packet event).1.Remembers
      (outputs ++
        [(tracker.track setup packet event).2.attachment.map
          (TrackedEvent.mk event)]) := by
  have consistent := before.settled.consistent
  have settled : (tracker.track setup packet event).1.Settled := by
    have updated := before.settled.update setup event
    rw [update_accepted setup tracker accepted] at updated
    exact updated
  rcases @track_serial setup tracker consistent packet event with
    ⟨nowhere, created⟩ | ⟨attachment, placed, whereTo⟩
  · have same :
        (outputs ++
          [(tracker.track setup packet event).2.attachment.map
            (TrackedEvent.mk event)]).filterMap id =
          outputs.filterMap id := by
      simp [nowhere]
    refine ⟨settled, ?_, ?_⟩
    · rw [same, created]
      exact before.attached
    · rw [same]
      refine live_track consistent before.live ?_ ?_ ?_
      · exact fun _ known => known
      · intro entry known _
        obtain ⟨first, opening, isFirst, opened⟩ := known
        refine ⟨first, opening, ?_, opened.record⟩
        rw [recordPacket_serial]
        exact isFirst
      · intro _ _ _ placed _
        rw [nowhere] at placed
        cases placed
  · have tracked :
        (outputs ++
          [(tracker.track setup packet event).2.attachment.map
            (TrackedEvent.mk event)]).filterMap id =
          outputs.filterMap id ++ [⟨event, attachment⟩] := by
      simp [placed]
    refine ⟨settled, ?_, ?_⟩
    · rw [tracked, List.forall_mem_append, List.forall_mem_singleton]
      rcases whereTo with
        ⟨entry, live, serial, created⟩ | ⟨serial, created⟩
      · obtain ⟨first, opening, isFirst, _⟩ := before.live _ _ live
        obtain ⟨earlier, earlierMember, earlierSerial⟩ :=
          attached_of_openingOf isFirst
        rw [created, serial, ← earlierSerial]
        exact ⟨before.attached, before.attached earlier earlierMember⟩
      · rw [created, serial]
        exact ⟨fun other old =>
          Nat.lt_succ_of_lt (before.attached other old),
          Nat.lt_succ_self _⟩
    · rw [tracked]
      refine live_track consistent before.live ?_ ?_ ?_
      · intro entry known
        obtain ⟨first, opening, isFirst, opened⟩ := known
        exact ⟨first, opening, openingOf_append isFirst _, opened⟩
      · intro entry known _
        obtain ⟨first, opening, isFirst, opened⟩ := known
        refine ⟨first, opening, ?_, opened.record⟩
        rw [recordPacket_serial]
        exact openingOf_append isFirst _
      · intro flowId other _ isPlace serial
        rw [placed] at isPlace
        cases isPlace
        refine ⟨packet, event, ?_, .recordFirst _ _⟩
        rw [recordPacket_serial]
        change openingOf _ tracker.created = _
        rw [← serial]
        refine openingOf_new accepted ?_
        intro other member
        rw [serial]
        exact ne_of_lt (before.attached other member)

/-- Every update keeps the invariant. -/
theorem Remembers.serveUpdate
    {tracker : FlowTracker}
    {outputs : List (Option TrackedEvent)}
    (before : tracker.Remembers outputs)
    (event : EventView) :
    (tracker.serveUpdate setup event).1.Remembers
      (outputs ++ [(tracker.serveUpdate setup event).2]) := by
  simp only [FlowTracker.serveUpdate, serve]
  cases accepted : trackedPacket? event with
  | none =>
      obtain ⟨unchanged, nowhere⟩ := update_ignored setup tracker accepted
      rw [unchanged, nowhere]
      refine ⟨before.settled, ?_, ?_⟩
      · simpa using before.attached
      · simpa using before.live
  | some packet =>
      rw [update_accepted setup tracker accepted]
      exact before.track accepted

/-- The invariant holds after every run of updates. -/
theorem remembers_run (events : List EventView) :
    (StepRuns.run (serveUpdate setup) fresh events).1.Remembers
      (StepRuns.run (serveUpdate setup) fresh events).2 := by
  have initially : fresh.Remembers [] := by
    refine ⟨settled_fresh, by simp, ?_⟩
    intro key entry live
    simp [fresh] at live
  have preserved :
      ∀ (tracker : FlowTracker) (consumed : List EventView) outputs event,
        tracker.Remembers outputs →
        (tracker.serveUpdate setup event).1.Remembers
          (outputs ++ [(tracker.serveUpdate setup event).2]) :=
    fun _ _ _ event before => before.serveUpdate event
  exact StepRuns.history_of_run initially preserved

end FlowTracker

/-! ### The role after a run -/

/-- The tracker after a run of updates, with what it tracked. -/
def afterUpdates
    (setup : TrackerSetup)
    (events : List EventView) :
    FlowTracker × List TrackedEvent :=
  let served := StepRuns.run (serveUpdate setup) fresh events
  (served.1, served.2.filterMap id)

/--
The role in the flow context built after the update of one more event, if one
is built.
-/
def roleAfter
    (setup : TrackerSetup)
    (ports : PortsCfg)
    (events : List EventView)
    (event : IDSEvent) :
    Option FlowRole :=
  let (tracker, result) :=
    (afterUpdates setup events).1.update setup event.view
  let returned := event.withResult result
  match buildFlowContext returned (tracker.snapshot returned) ports with
  | .ok (some context) => context.role
  | _ => none

/-- The first packet of the flow that one more event goes to. -/
def openingAfter
    (setup : TrackerSetup)
    (events : List EventView)
    (event : EventView) :
    Option (TrackedPacket × EventView) :=
  let (tracker, tracked) := afterUpdates setup events
  (tracker.update setup event).2.attachment.bind fun attachment =>
    openingOf (tracked ++ [⟨event, attachment⟩]) attachment.serial

/-- The role of a sender, judging by the client of the flow. -/
def clientRole (client sender : Endpoint) : FlowRole :=
  if sender = client then .toServer else .toClient

/-- The client is one of the two endpoints of the first packet. -/
theorem flowClient_endpoint
    (known : List Int)
    (first : TrackedPacket)
    (opening : EventView) :
    flowClient known first opening = first.src ∨
      flowClient known first opening = first.dst := by
  simp only [flowClient, portClient]
  repeat' split
  all_goals simp

/-- When the sender of the first packet is the client. -/
theorem flowClient_eq_src_iff
    (known : List Int)
    (first : TrackedPacket)
    (opening : EventView) :
    flowClient known first opening = first.src ↔
      isPlainSyn first opening = true ∨
        portClient known first.src first.dst = first.src := by
  simp only [flowClient]
  split <;> rename_i plain <;> simp [plain]

/-- A sender is an endpoint of the flow it goes to. -/
theorem sender_of_sameKey
    {first packet : TrackedPacket}
    (sameKey : packet.key = first.key)
    (differ : packet.src ≠ packet.dst) :
    first.src ≠ first.dst ∧
      (packet.src = first.src ∨ packet.src = first.dst) := by
  obtain ⟨_, ⟨sameSrc, sameDst⟩ | ⟨crossSrc, crossDst⟩⟩ :=
    eq_or_swap_of_makeKey_eq sameKey
  · exact ⟨sameSrc ▸ sameDst ▸ differ, Or.inl sameSrc⟩
  · exact ⟨fun same => differ (by rw [crossSrc, crossDst, same]),
      Or.inr crossSrc⟩

/-- The direction of a packet, from the first packet of its flow. -/
theorem packetDirection_of_openedBy
    {first packet : TrackedPacket}
    {opening : EventView}
    {entry : FlowEntry}
    (opened : OpenedBy first opening entry) :
    packetDirection entry packet =
      if packet.src = first.src then .forward else .backward := by
  simp only [packetDirection, directionOf, opened.endpointA]
  cases first.src
  cases packet.src
  simp only [Endpoint.mk.injEq, eq_comm]

/--
The sender's role, computed from an entry that remembers the first packet of
its flow, follows the client exactly when a reset that opened the flow did not
come from the client by ports.
-/
theorem senderRole_of_openedBy
    {first packet : TrackedPacket}
    {opening : EventView}
    {entry : FlowEntry}
    (opened : OpenedBy first opening entry)
    (sameKey : packet.key = first.key)
    (differ : packet.src ≠ packet.dst)
    (known : List Int) :
    senderRole (packetDirection entry packet)
          (clientIsA entry.flow known) =
        clientRole (flowClient known first opening) packet.src ↔
      isResetOpening first opening = false ∨
        portClient known first.src first.dst = first.src := by
  obtain ⟨firstDiffer, isEndpoint⟩ := sender_of_sameKey sameKey differ
  have agrees :
      senderRole (packetDirection entry packet)
            (clientIsA entry.flow known) =
          clientRole (flowClient known first opening) packet.src ↔
        (clientIsA entry.flow known = true ↔
          flowClient known first opening = first.src) := by
    rw [packetDirection_of_openedBy opened]
    simp only [senderRole, clientRole]
    rcases isEndpoint with isSrc | isDst <;>
      rcases flowClient_endpoint known first opening with
        client | client <;>
      rw [client] <;>
      cases clientIsA entry.flow known <;>
      simp [*, firstDiffer.symm]
  rw [agrees, opened.clientIsA_iff firstDiffer known,
    flowClient_eq_src_iff]
  cases plain : isPlainSyn first opening with
  | true =>
      have notReset : isResetOpening first opening = false := by
        simp [isResetOpening, plain]
      simp [notReset]
  | false =>
      cases isResetOpening first opening <;> simp

/-- No context is built for an event whose flow is not in the table. -/
theorem roleAfter_of_gone
    {setup : TrackerSetup}
    {events : List EventView}
    {event : IDSEvent}
    {packet : TrackedPacket}
    (accepted : trackedPacket? event.view = some packet)
    (gone :
      ((afterUpdates setup events).1.update setup event.view).1.table.get?
        packet.key = none)
    (ports : PortsCfg) :
    roleAfter setup ports events event = none := by
  simp only [roleAfter, snapshot, view_withResult, accepted, gone]
  rfl

/-- An update that fails or exports its own flow leaves no context to build. -/
theorem roleAfter_eq_none
    {setup : TrackerSetup}
    {events : List EventView}
    {event : IDSEvent}
    {packet : TrackedPacket}
    (accepted : trackedPacket? event.view = some packet)
    (ended :
      (afterUpdates setup events).1.fails setup event.view = true ∨
        (afterUpdates setup events).1.sweepsItself setup event.view =
          true)
    (ports : PortsCfg) :
    roleAfter setup ports events event = none := by
  have before :
      (afterUpdates setup events).1.Remembers
        (StepRuns.run (serveUpdate setup) fresh events).2 :=
    remembers_run events
  have consistent := before.settled.consistent
  refine roleAfter_of_gone accepted ?_ ports
  rw [← Option.not_isSome_iff_eq_none,
    isSome_update_iff consistent accepted rfl]
  rintro ⟨proceeds, unswept⟩
  rw [proceeds, unswept] at ended
  exact ended.elim Bool.false_ne_true Bool.false_ne_true

/-- Any other update leaves the role computed from what the flow remembers. -/
theorem roleAfter_eq_some
    {setup : TrackerSetup}
    {events : List EventView}
    {event : IDSEvent}
    {packet : TrackedPacket}
    (accepted : trackedPacket? event.view = some packet)
    (proceeds :
      (afterUpdates setup events).1.fails setup event.view = false)
    (unswept :
      (afterUpdates setup events).1.sweepsItself setup event.view =
        false)
    (ports : PortsCfg) :
    ∃ entry first opening,
      OpenedBy first opening entry ∧
        packet.key = first.key ∧
        openingAfter setup events event.view = some (first, opening) ∧
        roleAfter setup ports events event =
          some (senderRole (packetDirection entry packet)
            (clientIsA entry.flow (knownPorts ports))) := by
  have before :
      (afterUpdates setup events).1.Remembers
        (StepRuns.run (serveUpdate setup) fresh events).2 :=
    remembers_run events
  obtain ⟨entry, result, live⟩ :=
    update_placed setup before.settled.consistent accepted proceeds
  rw [unswept, if_neg Bool.false_ne_true] at live
  have after := @Remembers.serveUpdate setup _ _ before event.view
  obtain ⟨found, _, context, built, _, _, _, contextRole, _⟩ :=
    context_of_live (before.settled.update setup event.view)
      accepted live ports
  obtain ⟨first, opening, isFirst, opened⟩ :=
    after.live packet.key entry live
  refine ⟨entry, first, opening, opened, ?_, ?_, ?_⟩
  · rw [← after.settled.consistent packet.key entry live]
    simp only [Flow.key, TrackedPacket.key, opened.endpointA,
      opened.endpointB, opened.protocol]
  · have placed :
        ((afterUpdates setup events).1.update setup
            event.view).2.attachment =
          some (attachmentOf entry packet) :=
      congrArg UpdateResult.attachment result
    have served :
        (serveUpdate setup (afterUpdates setup events).1
            event.view).2 =
          some ⟨event.view, attachmentOf entry packet⟩ :=
      congrArg (Option.map (TrackedEvent.mk event.view)) placed
    simp only [openingAfter]
    rw [placed, Option.bind_some, ← isFirst, served]
    simp [afterUpdates, attachmentOf]
  · have returned :
        event.withResult
            ((afterUpdates setup events).1.update setup
              event.view).2 =
          event.withResult (.placed (attachmentOf entry packet) none) := by
      rw [result]
      rfl
    simp only [roleAfter]
    rw [returned, found, built, ← contextRole]

/--
After every run of updates, a context is built for a tracked event unless its
update fails or exports the flow of the event itself.  The role in the context
of an event between two different endpoints follows the client of its flow, if
and only if the flow was not opened by a reset, other than a plain SYN, whose
sender is not the client by ports.  Judging by ports does not depend on which
side was captured first, unless the ports are equal.
-/
theorem role_follows_client_iff
    (setup : TrackerSetup)
    (ports : PortsCfg)
    (events : List EventView)
    (event : IDSEvent)
    (packet : TrackedPacket)
    (accepted : trackedPacket? event.view = some packet)
    (differ : packet.src ≠ packet.dst) :
    let tracker := (afterUpdates setup events).1
    ((roleAfter setup ports events event).isSome = true ↔
        tracker.fails setup event.view = false ∧
          tracker.sweepsItself setup event.view = false) ∧
      ∀ role,
        roleAfter setup ports events event = some role →
        ∃ first opening,
          openingAfter setup events event.view = some (first, opening) ∧
            (role =
                clientRole
                  (flowClient (knownPorts ports) first opening)
                  packet.src ↔
              isResetOpening first opening = false ∨
                portClient (knownPorts ports) first.src first.dst =
                  first.src) ∧
            (first.src.port ≠ first.dst.port →
              portClient (knownPorts ports) first.src first.dst =
                portClient (knownPorts ports) first.dst first.src) := by
  intro tracker
  cases failing : tracker.fails setup event.view with
  | true =>
      rw [roleAfter_eq_none accepted (Or.inl failing) ports]
      refine ⟨by simp, fun role isRole => ?_⟩
      cases isRole
  | false =>
      cases swept : tracker.sweepsItself setup event.view with
      | true =>
          rw [roleAfter_eq_none accepted (Or.inr swept) ports]
          refine ⟨by simp, fun role isRole => ?_⟩
          cases isRole
      | false =>
          obtain ⟨entry, first, opening, opened, sameKey, isOpening, own⟩ :=
            roleAfter_eq_some accepted failing swept ports
          rw [own]
          refine ⟨by simp, fun role isRole => ?_⟩
          cases isRole
          exact ⟨first, opening, isOpening,
            senderRole_of_openedBy opened sameKey differ _,
            portClient_swap _⟩

/-- A web server that answers a client whose SYN was not captured. -/
def webServer : Endpoint := ⟨lit "10.0.0.2", 80⟩

/-- The client of `webServer`. -/
def webClient : Endpoint := ⟨lit "10.0.0.1", 50000⟩

/-- The first captured packet: the server refuses the connection. -/
def refusal : IDSEvent :=
  tcpSegment 0 webServer webClient [lit "RST", lit "ACK"]

/-- The refusal opens its own flow. -/
theorem openingAfter_refusal :
    (openingAfter ⟨.empty, none, id⟩ [] refusal.view).map
        (fun opened => (opened.1, opened.2.flagSet)) =
      some (⟨0, .tcp, webServer, webClient⟩,
        [lit "RST", lit "ACK"]) := by
  decide +kernel

/-- The sender of the refusal does not get the role of the server. -/
theorem refusal_role_wrong :
    (roleAfter ⟨.empty, none, id⟩ none [] refusal).isSome = true ∧
      ¬ ∃ first opening,
        openingAfter ⟨.empty, none, id⟩ [] refusal.view =
            some (first, opening) ∧
          roleAfter ⟨.empty, none, id⟩ none [] refusal =
            some (clientRole (flowClient (knownPorts none) first opening)
              webServer) := by
  refine ⟨by decide +kernel, ?_⟩
  rintro ⟨first, opening, isOpening, role⟩
  have opened := openingAfter_refusal
  rw [isOpening, Option.map_some, Option.some.injEq,
    Prod.mk.injEq] at opened
  obtain ⟨isFirst, isFlags⟩ := opened
  have isRefusal : first = ⟨0, .tcp, webServer, webClient⟩ := isFirst
  have client :
      flowClient (knownPorts none) first opening = webClient := by
    simp only [flowClient, isPlainSyn, isRefusal, isFlags]
    decide +kernel
  rw [client] at role
  revert role
  decide +kernel

/-- A connection that starts with a plain SYN. -/
def plainCall : IDSEvent :=
  tcpSegment 0 webClient webServer [lit "SYN"]

/-- The exact condition at a flow opened by a plain SYN. -/
theorem role_follows_client_of_syn :
    let setup : TrackerSetup := ⟨.empty, none, id⟩
    let tracker := (afterUpdates setup []).1
    ((roleAfter setup none [] plainCall).isSome = true ↔
        tracker.fails setup plainCall.view = false ∧
          tracker.sweepsItself setup plainCall.view = false) ∧
      ∀ role,
        roleAfter setup none [] plainCall = some role →
        ∃ first opening,
          openingAfter setup [] plainCall.view = some (first, opening) ∧
            (role =
                clientRole (flowClient (knownPorts none) first opening)
                  webClient ↔
              isResetOpening first opening = false ∨
                portClient (knownPorts none) first.src first.dst =
                  first.src) ∧
            (first.src.port ≠ first.dst.port →
              portClient (knownPorts none) first.src first.dst =
                portClient (knownPorts none) first.dst first.src) :=
  role_follows_client_iff ⟨.empty, none, id⟩ none [] plainCall
    ⟨0, .tcp, webClient, webServer⟩ (by decide +kernel) (by decide)

end IntrusionDetection
