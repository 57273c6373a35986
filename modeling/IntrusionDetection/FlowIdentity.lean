import IntrusionDetection.FlowRequests

namespace IntrusionDetection

open PyText

/-!
# What a flow identifier identifies

A flow identifier is a hash of the key of the flow and of the microsecond of
the packet that opened it.  Whether a packet opens a flow is decided by the
table before the packet: the key has no entry, or its entry is expired or
reused, and an identifier can be made.  With an injective hash, two flows have
one identifier exactly if the packets that opened them have one label.
-/

/-- The endpoints of a key as the identifier writes them. -/
def endpointsText (key : FlowKey) : Str :=
  key.low.ip ++ lit ":" ++ ofInt key.low.port ++ lit "|" ++
    key.high.ip ++ lit ":" ++ ofInt key.high.port

/--
Two packets agree on everything the identifier of a flow they open is made of:
the protocol, the sorted endpoints as they are written and the microsecond.
-/
def SameLabel (first second : TrackedPacket) : Prop :=
  first.protocol = second.protocol ∧
    endpointsText first.key = endpointsText second.key ∧
    startMicroseconds first.ts = startMicroseconds second.ts

/-! ### Reading a label back from its text -/

theorem lit_bar : lit "|" = [codePoint '|'] :=
  rfl

theorem lit_colon : lit ":" = [codePoint ':'] :=
  rfl

theorem bar_notMem_ofInt (number : Int) :
    codePoint '|' ∉ ofInt number :=
  codePoint_notMem_ofInt (by decide) (by decide) number

/-- Protocol names have one length. -/
theorem length_name (protocol : FlowProtocol) :
    protocol.name.length = 3 := by
  cases protocol <;> rfl

/-- Protocols have different names. -/
theorem name_injective : Function.Injective FlowProtocol.name := by
  intro first second same
  cases first <;> cases second <;>
    first
    | rfl
    | exact absurd same (by decide)

/-- The key of a packet carries its protocol. -/
theorem key_protocol (packet : TrackedPacket) :
    packet.key.protocol = packet.protocol := by
  rcases makeKey_endpoints packet.protocol
      packet.src.ip packet.src.port packet.dst.ip packet.dst.port with
    key | key <;>
    simp only [TrackedPacket.key, key]

/-- Where a number has a text, it is its decimal writing. -/
theorem intText_eq_ok
    {number : Int}
    {text : Str}
    (written : intText number = .ok text) :
    text = ofInt number := by
  rw [intText] at written
  split at written
  · exact (Except.ok.inj written).symm
  · cases written

/-- The identifier text is the protocol, the endpoints and the microsecond. -/
theorem flowIdText_eq
    {packet : TrackedPacket}
    {text : Str}
    (written : flowIdText packet.key packet.ts = .ok text) :
    ∃ startUs,
      startMicroseconds packet.ts = .ok startUs ∧
        text =
          packet.protocol.name ++
            ((codePoint '|' :: endpointsText packet.key) ++
              codePoint '|' :: ofInt startUs) := by
  simp only [flowIdText] at written
  cases start : startMicroseconds packet.ts with
  | error exception =>
      rw [start] at written
      cases written
  | ok startUs =>
      cases low : intText packet.key.low.port with
      | error exception =>
          rw [start, low] at written
          cases written
      | ok lowPort =>
          cases high : intText packet.key.high.port with
          | error exception =>
              rw [start, low, high] at written
              cases written
          | ok highPort =>
              rw [start, low, high] at written
              cases written
              rw [intText_eq_ok low, intText_eq_ok high]
              refine ⟨startUs, rfl, ?_⟩
              simp [endpointsText, key_protocol, lit_bar, lit_colon]

/-- Two identifier texts are equal exactly if their packets have one label. -/
theorem flowIdText_eq_iff
    {first second : TrackedPacket}
    {firstText secondText : Str}
    (firstWritten : flowIdText first.key first.ts = .ok firstText)
    (secondWritten : flowIdText second.key second.ts = .ok secondText) :
    firstText = secondText ↔ SameLabel first second := by
  obtain ⟨firstUs, firstStart, isFirst⟩ := flowIdText_eq firstWritten
  obtain ⟨secondUs, secondStart, isSecond⟩ := flowIdText_eq secondWritten
  rw [isFirst, isSecond, SameLabel, firstStart, secondStart]
  constructor
  · intro same
    obtain ⟨names, rest⟩ := List.append_inj same
      (by rw [length_name, length_name])
    obtain ⟨endpoints, starts⟩ := append_inj_of_last
      (bar_notMem_ofInt _) (bar_notMem_ofInt _) rest
    exact ⟨name_injective names, List.tail_eq_of_cons_eq endpoints,
      congrArg Except.ok (ofInt_injective starts)⟩
  · intro sameLabel
    obtain ⟨protocol, endpoints, start⟩ := sameLabel
    rw [protocol, endpoints, Except.ok.inj start]

-- Only the products of these two times with a million are stored alike.
example :
    startMicroseconds (7131386637034935 / 4194304) =
      startMicroseconds (891423329629367 / 524288) := by
  decide +kernel

/-- Two identifiers are equal exactly if their packets have one label. -/
theorem makeFlowId_eq_iff
    {digest : Str → Str}
    (injective : Function.Injective digest)
    {first second : TrackedPacket}
    {firstId secondId : Str}
    (firstNamed : makeFlowId digest first.key first.ts = .ok firstId)
    (secondNamed : makeFlowId digest second.key second.ts = .ok secondId) :
    firstId = secondId ↔ SameLabel first second := by
  have hashed
      {packet : TrackedPacket}
      {flowId : Str}
      (named : makeFlowId digest packet.key packet.ts = .ok flowId) :
      ∃ text,
        flowIdText packet.key packet.ts = .ok text ∧
          flowId = digest text := by
    simp only [makeFlowId] at named
    cases written : flowIdText packet.key packet.ts with
    | error exception =>
        rw [written] at named
        cases named
    | ok text =>
        rw [written] at named
        cases encoding : encodeText text with
        | error exception =>
            simp only [bind, Except.bind, encoding] at named
            cases named
        | ok encoded =>
            simp only [bind, Except.bind, encoding] at named
            cases named
            exact ⟨text, rfl, rfl⟩
  obtain ⟨firstText, firstWritten, isFirst⟩ := hashed firstNamed
  obtain ⟨secondText, secondWritten, isSecond⟩ := hashed secondNamed
  rw [isFirst, isSecond, injective.eq_iff,
    flowIdText_eq_iff firstWritten secondWritten]

namespace FlowTracker

variable {setup : TrackerSetup}

/-! ### Names along a run -/

/-- The flow with this serial carries the label of the packet that opened it. -/
def NamedBy
    (setup : TrackerSetup)
    (opened : List TrackedPacket)
    (serial : Nat)
    (flowId : Str) :
    Prop :=
  ∃ packet,
    opened[serial]? = some packet ∧
      makeFlowId setup.digest packet.key packet.ts = .ok flowId

/-- The invariant of a run: every flow is named by the packet it opened with. -/
structure Identified
    (setup : TrackerSetup)
    (tracker : FlowTracker)
    (records : List RequestRecord) : Prop where
  consistent : tracker.Consistent
  created : (openingsOf records).length = tracker.created
  live :
    ∀ key entry,
      tracker.table.get? key = some entry →
      NamedBy setup (openingsOf records) entry.serial entry.flow.flowId
  attached :
    ∀ attachment ∈ attachmentsOf records,
      NamedBy setup (openingsOf records)
        attachment.serial attachment.flowId
  covered :
    ∀ serial < tracker.created,
      ∃ attachment ∈ attachmentsOf records,
        attachment.serial = serial

/-- A name does not change when more flows are opened. -/
theorem NamedBy.append
    {opened : List TrackedPacket}
    {serial : Nat}
    {flowId : Str}
    (named : NamedBy setup opened serial flowId)
    (later : List TrackedPacket) :
    NamedBy setup (opened ++ later) serial flowId := by
  obtain ⟨packet, isOpener, isName⟩ := named
  have bound := List.getElem?_eq_some_iff.mp isOpener
  refine ⟨packet, ?_, isName⟩
  rw [List.getElem?_append_left bound.1]
  exact isOpener

/-- The next flow is named by the packet that opens it. -/
theorem NamedBy.of_next
    {opened : List TrackedPacket}
    {serial : Nat}
    (isNext : opened.length = serial)
    {packet : TrackedPacket}
    {flowId : Str}
    (isName :
      makeFlowId setup.digest packet.key packet.ts = .ok flowId) :
    NamedBy setup (opened ++ [packet]) serial flowId :=
  ⟨packet, by simp [← isNext], isName⟩

/-- A named flow was opened. -/
theorem NamedBy.lt
    {opened : List TrackedPacket}
    {serial : Nat}
    {flowId : Str}
    (named : NamedBy setup opened serial flowId) :
    serial < opened.length := by
  obtain ⟨packet, isOpener, _⟩ := named
  exact (List.getElem?_eq_some_iff.mp isOpener).1

/-- A packet with a place keeps the invariant. -/
theorem Identified.track
    {tracker : FlowTracker}
    {records : List RequestRecord}
    (before : tracker.Identified setup records)
    {event : EventView}
    {packet : TrackedPacket}
    (accepted : trackedPacket? event = some packet)
    {attachment : Attachment}
    (placed :
      (tracker.track setup packet event).2.attachment =
        some attachment) :
    (tracker.track setup packet event).1.Identified setup
      (records ++ [tracker.placedRecord setup event attachment]) := by
  have consistent := before.consistent
  have stays := consistent.track setup packet event
  have attachments :
      attachmentsOf
          (records ++ [tracker.placedRecord setup event attachment]) =
        attachmentsOf records ++ [attachment] :=
    attachmentsOf_concat _ _
  rcases track_opening setup consistent accepted placed with
    ⟨opens, serial, flowId, _, created⟩ |
      ⟨joins, entry, live, serial, flowId, _, created⟩
  · have openings :
        openingsOf
            (records ++ [tracker.placedRecord setup event attachment]) =
          openingsOf records ++ [packet] := by
      simp [openingsOf_concat, placedRecord, opens]
    have isNamed :
        NamedBy setup (openingsOf records ++ [packet]) tracker.created
          attachment.flowId :=
      .of_next before.created flowId
    refine ⟨stays, ?_, ?_, ?_, ?_⟩
    · rw [openings, created, List.length_append, before.created]
      rfl
    · rw [openings]
      refine live_track consistent before.live ?_ ?_ ?_
      · intro entry named
        exact named.append _
      · intro entry named _
        rw [recordPacket_serial, recordPacket_flowId]
        exact named.append _
      · intro name _ named _ _
        rw [recordPacket_serial, recordPacket_flowId]
        rw [flowId] at named
        cases named
        exact isNamed
    · rw [openings, attachments, List.forall_mem_append]
      refine ⟨fun attachment old => ?_, ?_⟩
      · exact (before.attached attachment old).append _
      · rw [List.forall_mem_singleton, serial]
        exact isNamed
    · rw [created, attachments]
      intro known below
      rcases Nat.lt_succ_iff_lt_or_eq.mp below with old | isNew
      · obtain ⟨attachment, member, same⟩ := before.covered known old
        exact ⟨attachment, List.mem_append_left _ member, same⟩
      · exact ⟨_, List.mem_append_right _ (by simp),
          serial.trans isNew.symm⟩
  · have openings :
        openingsOf
            (records ++ [tracker.placedRecord setup event attachment]) =
          openingsOf records := by
      simp [openingsOf_concat, placedRecord, joins]
    have isNamed := before.live packet.key entry live
    refine ⟨stays, ?_, ?_, ?_, ?_⟩
    · rw [openings, created, before.created]
    · rw [openings]
      refine live_track consistent before.live ?_ ?_ ?_
      · exact fun _ named => named
      · intro other named _
        rw [recordPacket_serial, recordPacket_flowId]
        exact named
      · intro name other _ isPlace isNew
        rw [placed] at isPlace
        cases isPlace
        have bound := isNamed.lt
        rw [← serial, isNew, before.created] at bound
        exact (lt_irrefl _ bound).elim
    · rw [openings, attachments, List.forall_mem_append,
        List.forall_mem_singleton, serial, flowId]
      exact ⟨before.attached, isNamed⟩
    · rw [created, attachments]
      intro known below
      obtain ⟨attachment, member, same⟩ := before.covered known below
      exact ⟨attachment, List.mem_append_left _ member, same⟩

/-- Every request keeps the invariant. -/
theorem Identified.answer
    {tracker : FlowTracker}
    {records : List RequestRecord}
    (before : tracker.Identified setup records)
    (request : TrackerRequest) :
    (tracker.answerRecorded setup request).1.Identified setup
      (records ++ [(tracker.answerRecorded setup request).2]) := by
  rcases answerRecorded_cases setup before.consistent request with
    ⟨event, packet, attachment, accepted, placed, result⟩ |
      ⟨_, exported, exports, quiet, table, _, created⟩
  · rw [result]
    exact before.track accepted placed
  · have consistent := before.consistent.answer setup request
    rw [quiet]
    refine ⟨consistent, ?_, ?_, ?_, ?_⟩
    · simpa [openingsOf_concat, RequestRecord.quiet, created]
        using before.created
    · intro key entry live
      rw [table] at live
      simpa [openingsOf_concat, RequestRecord.quiet]
        using before.live key entry (exports.live_before live)
    · simpa [openingsOf_concat, attachmentsOf_concat,
        RequestRecord.quiet] using before.attached
    · simpa [attachmentsOf_concat, RequestRecord.quiet, created]
        using before.covered

/-- The invariant holds after every run of requests. -/
theorem identified_run (requests : List TrackerRequest) :
    (StepRuns.run (answerRecorded setup) fresh requests).1.Identified
      setup (StepRuns.run (answerRecorded setup) fresh requests).2 := by
  have initially : fresh.Identified setup [] := by
    refine ⟨consistent_fresh, rfl, ?_, ?_, ?_⟩
    · intro key entry live
      simp [fresh] at live
    · intro attachment member
      cases member
    · intro serial below
      simp [fresh] at below
  have preserved :
      ∀ (tracker : FlowTracker) (requests : List TrackerRequest) records
          request,
        tracker.Identified setup records →
        (tracker.answerRecorded setup request).1.Identified setup
          (records ++ [(tracker.answerRecorded setup request).2]) :=
    fun _ _ _ request before => before.answer request
  exact StepRuns.history_of_run initially preserved

/--
With an injective hash, any two flows of a run have different identifiers
exactly if no two packets that opened a flow have one label.
-/
theorem flowIds_distinct_iff
    (setup : TrackerSetup)
    (injective : Function.Injective setup.digest)
    (requests : List TrackerRequest) :
    let records := (StepRuns.run (answerRecorded setup) fresh requests).2
    (∀ first ∈ attachmentsOf records,
        ∀ second ∈ attachmentsOf records,
          first.serial ≠ second.serial →
          first.flowId ≠ second.flowId) ↔
      (openingsOf records).Pairwise
        fun earlier later => ¬ SameLabel earlier later := by
  intro records
  have identified :
      (StepRuns.run (answerRecorded setup) fresh
        requests).1.Identified setup records :=
    identified_run requests
  rw [List.pairwise_iff_getElem]
  constructor
  · intro distinct first second firstBound secondBound before sameLabel
    have firstLive := firstBound
    have secondLive := secondBound
    rw [identified.created] at firstLive secondLive
    obtain ⟨left, leftMember, leftSerial⟩ :=
      identified.covered first firstLive
    obtain ⟨right, rightMember, rightSerial⟩ :=
      identified.covered second secondLive
    obtain ⟨leftOpener, leftIs, leftName⟩ :=
      identified.attached left leftMember
    obtain ⟨rightOpener, rightIs, rightName⟩ :=
      identified.attached right rightMember
    rw [leftSerial, List.getElem?_eq_getElem firstBound,
      Option.some.injEq] at leftIs
    rw [rightSerial, List.getElem?_eq_getElem secondBound,
      Option.some.injEq] at rightIs
    refine distinct left leftMember right rightMember ?_ ?_
    · rw [leftSerial, rightSerial]
      exact ne_of_lt before
    · apply (makeFlowId_eq_iff injective leftName rightName).mpr
      rw [← leftIs, ← rightIs]
      exact sameLabel
  · intro distinct left leftMember right rightMember different sameName
    obtain ⟨leftOpener, leftIs, leftName⟩ :=
      identified.attached left leftMember
    obtain ⟨rightOpener, rightIs, rightName⟩ :=
      identified.attached right rightMember
    obtain ⟨leftBound, leftIs⟩ := List.getElem?_eq_some_iff.mp leftIs
    obtain ⟨rightBound, rightIs⟩ := List.getElem?_eq_some_iff.mp rightIs
    have sameLabel :=
      (makeFlowId_eq_iff injective leftName rightName).mp sameName
    rcases Nat.lt_or_gt_of_ne different with before | after
    · refine distinct _ _ leftBound rightBound before ?_
      rw [leftIs, rightIs]
      exact sameLabel
    · refine distinct _ _ rightBound leftBound after ?_
      rw [leftIs, rightIs]
      exact ⟨sameLabel.1.symm, sameLabel.2.1.symm, sameLabel.2.2.symm⟩

/-- A host that opens connections. -/
def dialer : Endpoint := ⟨lit "10.0.0.1", 50000⟩

/-- The service it dials. -/
def service : Endpoint := ⟨lit "10.0.0.2", 443⟩

/-- A connection is refused and dialled again within one timestamp. -/
def redial : List TrackerRequest :=
  [.update (tcpSegment 0 dialer service [lit "SYN"]).view,
    .update (tcpSegment 0 service dialer [lit "RST", lit "ACK"]).view,
    .update (tcpSegment 0 dialer service [lit "SYN"]).view]

/-- The identifier of the refused connection. -/
def redialName : Str :=
  lit "TCP|10.0.0.1:50000|10.0.0.2:443|0"

/-- The refused connection and the one that reuses its ports get one name. -/
theorem redial_shares_flowId :
    let setup : TrackerSetup := ⟨.empty, none, id⟩
    let records := (StepRuns.run (answerRecorded setup) fresh redial).2
    Function.Injective setup.digest ∧
      ∃ first ∈ attachmentsOf records,
        ∃ second ∈ attachmentsOf records,
          first.serial ≠ second.serial ∧
            first.flowId = second.flowId := by
  intro setup records
  have attachments :
      attachmentsOf records =
        [⟨0, redialName, .forward, .handshake⟩,
          ⟨0, redialName, .backward, .reset⟩,
          ⟨1, redialName, .forward, .handshake⟩] := by
    decide +kernel
  refine ⟨Function.injective_id,
    ⟨0, redialName, .forward, .handshake⟩, ?_,
    ⟨1, redialName, .forward, .handshake⟩, ?_, by simp, rfl⟩
  · simp [attachments]
  · simp [attachments]

/-- The exact condition on that run, where the hash is the identity. -/
theorem redial_distinct_iff :
    let setup : TrackerSetup := ⟨.empty, none, id⟩
    let records := (StepRuns.run (answerRecorded setup) fresh redial).2
    (∀ first ∈ attachmentsOf records,
        ∀ second ∈ attachmentsOf records,
          first.serial ≠ second.serial →
          first.flowId ≠ second.flowId) ↔
      (openingsOf records).Pairwise
        fun earlier later => ¬ SameLabel earlier later :=
  flowIds_distinct_iff ⟨.empty, none, id⟩ Function.injective_id redial

end FlowTracker

end IntrusionDetection
