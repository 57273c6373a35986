import IntrusionDetection.FlowTimeout
import IntrusionDetection.OrderedDict
import IntrusionDetection.TcpState

namespace IntrusionDetection

open PyText

/-!
# Flow tracker

The table of active flows and the operations of `FlowTracker`: `update` for
one event, `sweep` for the expired flows, `flush` at shutdown and the
read-only `snapshot`.  Every flow that leaves the table goes through
`exportFlow`, which hands it to the export callback.  An update may raise where
it takes a text of its event or makes the identifier of a new flow; what it did
before stays done.
-/

/--
What a tracker is built from.  `onExport` is the export callback; it may raise,
and its behaviour may depend on the flows it was given before.  `digest` is the
hash `make_flow_id` applies.
-/
structure TrackerSetup where
  cfg : FlowCfg
  onExport : Option (List Flow → Flow → Except PyException Unit)
  digest : Str → Str

/--
The tracker.  `handed` lists the calls made to the export callback, in order,
each with the identity of its flow; `exportFailures` counts the calls that
raised; `created` counts the `Flow` objects constructed so far.
-/
structure FlowTracker where
  table : OrderedDict FlowKey FlowEntry
  clock : Time
  lastSweep : Option Time
  handed : List (Nat × Flow)
  exportFailures : Nat
  created : Nat

/-- What `update` and `snapshot` read from an event they do not skip. -/
structure TrackedPacket where
  ts : Time
  protocol : FlowProtocol
  src : Endpoint
  dst : Endpoint
  deriving DecidableEq

/-- Where `update` put an event, and what it wrote on it. -/
structure Attachment where
  serial : Nat
  flowId : Str
  direction : Direction
  flowState : FlowState
  deriving DecidableEq

namespace TrackedPacket

/-- The table key of the packet. -/
def key (packet : TrackedPacket) : FlowKey :=
  makeKey packet.protocol
    packet.src.ip packet.src.port packet.dst.ip packet.dst.port

end TrackedPacket

/--
What `update` reads from an event whose addresses are texts and whose ports are
whole numbers, if they are there at all.  Taking the text of another field may
raise, and so may the test of the timestamp.
-/
structure EventView where
  isInvalid : Bool
  timestamp : Except PyException (Option Time)
  transportProtocol : Except PyException Str
  srcIp : Option Str
  dstIp : Option Str
  srcPort : Option Int
  dstPort : Option Int
  -- What `normalize_flags` makes of the flags.
  flags : Except PyException (List Str)
  upperFlags :
    ∀ names, flags = .ok names → ∀ name ∈ names, upper name = name
  appProtocol : Except PyException (Option Str)
  rawLength : Int
  payload : Payload

/-- How a call of `update` ended. -/
inductive UpdateResult where
  -- The event is none the tracker follows.
  | skipped
  -- An exception was raised before the event had a place.
  | failed (exception : PyException)
  -- The event has its place; an exception may have been raised afterwards.
  | placed (attachment : Attachment) (raised : Option PyException)

namespace UpdateResult

/-- The place of the event, if it has one. -/
def attachment : UpdateResult → Option Attachment
  | skipped => none
  | failed _ => none
  | placed attachment _ => some attachment

/-- The exception that was raised, if one was. -/
def raised : UpdateResult → Option PyException
  | skipped => none
  | failed exception => some exception
  | placed _ raised => raised

end UpdateResult

namespace EventView

/--
The tests of `update` and of `snapshot` on the fields: an invalid event, an
unusable timestamp, a protocol other than TCP and UDP or a missing endpoint is
skipped.
-/
def select
    (event : EventView)
    (timestamp : Option Time)
    (transProto : Str) :
    Option TrackedPacket :=
  if event.isInvalid then
    none
  else
    match timestamp, event.srcIp, event.dstIp,
        event.srcPort, event.dstPort with
    | some ts, some srcIp, some dstIp, some srcPort, some dstPort =>
        if upper transProto = lit "TCP" then
          some ⟨ts, .tcp, ⟨srcIp, srcPort⟩, ⟨dstIp, dstPort⟩⟩
        else if upper transProto = lit "UDP" then
          some ⟨ts, .udp, ⟨srcIp, srcPort⟩, ⟨dstIp, dstPort⟩⟩
        else
          none
    | _, _, _, _, _ => none

/-- The filter at the head of `update`. -/
def filter (event : EventView) :
    Except PyException (Option TrackedPacket) :=
  match event.timestamp, event.transportProtocol with
  | .error exception, _ => .error exception
  | _, .error exception => .error exception
  | .ok timestamp, .ok transProto =>
      .ok (event.select timestamp transProto)

/-- The flag set of a packet. -/
def flagSet (event : EventView) : List Str :=
  match event.flags with
  | .ok flags => flags
  | .error _ => []

/-- The flag set of a packet is normalised. -/
theorem normalizeFlags_flagSet (event : EventView) :
    normalizeFlags (.list (event.flagSet.map .str)) = event.flagSet := by
  apply normalizeFlags_of_upper
  intro name member
  rw [flagSet] at member
  split at member <;> rename_i names areNames
  · exact event.upperFlags names areNames name member
  · cases member

/-- The application protocol, as far as it has a text. -/
def appName (event : EventView) : Option Str :=
  match event.appProtocol with
  | .ok appProtocol => appProtocol
  | .error _ => none

/-- What taking the text of the application protocol raises. -/
def appFault (event : EventView) : Option PyException :=
  match event.appProtocol with
  | .ok _ => none
  | .error exception => some exception

/-- The frame length to count; a negative one counts as zero. -/
def countedLength (event : EventView) : Nat :=
  event.rawLength.toNat

/-- The application bytes to count. -/
def countedPayload (event : EventView) : Nat :=
  match event.payload with
  | .bytes data => data.length
  | _ => 0

end EventView

/-- The packet of an event that passes the filter. -/
def trackedPacket? (event : EventView) : Option TrackedPacket :=
  match event.filter with
  | .ok packet => packet
  | .error _ => none

namespace IDSEvent

/-- The flags of an event of the pipeline, normalised. -/
def flagNames (event : IDSEvent) : List Str :=
  normalizeFlags ((event.transportFields.get? (lit "flags")).getD .none)

/-- Normalised flags are in upper case. -/
theorem upper_flagNames
    (event : IDSEvent)
    (names : List Str)
    (areNames :
      (.ok event.flagNames : Except PyException (List Str)) =
        .ok names) :
    ∀ name ∈ names, upper name = name := by
  cases areNames
  exact fun _ member => upper_of_mem_normalizeFlags member

/-- An event of the pipeline as the tracker reads it. -/
def view (event : IDSEvent) : EventView where
  isInvalid := event.preprocessStatus = some .invalid
  timestamp := .ok event.timestamp
  transportProtocol := .ok (event.transportProtocol.getD (lit "None"))
  srcIp := event.srcIp
  dstIp := event.dstIp
  srcPort := event.srcPort
  dstPort := event.dstPort
  flags := .ok event.flagNames
  upperFlags := event.upper_flagNames
  appProtocol := .ok event.appProtocol
  rawLength := event.rawLength
  payload := event.payload

/-- Write the place of the event on it. -/
def withAttachment (event : IDSEvent) (attachment : Attachment) :
    IDSEvent :=
  { event with
    flowId := some attachment.flowId
    direction := some attachment.direction
    flowState := some attachment.flowState }

/-- What `update` leaves on the event, apart from a recorded error. -/
def withResult (event : IDSEvent) : UpdateResult → IDSEvent
  | .skipped => event.clearFlow
  | .failed _ => event
  | .placed attachment _ => event.withAttachment attachment

end IDSEvent

/-- A TCP segment without payload, as the preprocessor passes it on. -/
def tcpSegment
    (ts : Time)
    (src dst : Endpoint)
    (flags : List Str) :
    IDSEvent where
  packetId := 1
  timestamp := some ts
  srcIp := some src.ip
  dstIp := some dst.ip
  networkProtocol := some (lit "IPv4")
  networkFields := .dict []
  srcPort := some src.port
  dstPort := some dst.port
  transportProtocol := some (lit "TCP")
  transportFields := .dict [(lit "flags", .list (flags.map .str))]
  appProtocol := none
  detectionMethod := none
  appFields := .dict []
  rawLength := 60
  payloadLength := 0
  status := .ok
  errorInfo := none
  decodedFields := .dict []
  decodeStatus := some .ok
  timestampIso := none
  preprocessStatus := some .valid
  processingAction := some .none
  reason := []
  flowId := none
  direction := none
  flowState := none
  payload := .none

/-- A fresh record for the sender of a first packet. -/
def newFlow
    (flowId : Str)
    (packet : TrackedPacket) :
    Flow where
  flowId := flowId
  protocol := packet.protocol
  endpointA := packet.src
  endpointB := packet.dst
  applicationProtocol := none
  startTime := packet.ts
  lastSeen := packet.ts
  packetCount := 0
  byteCount := 0
  payloadByteCount := 0
  fwdPacketCount := 0
  fwdByteCount := 0
  bwdPacketCount := 0
  bwdByteCount := 0
  synCount := 0
  ackCount := 0
  finCount := 0
  rstCount := 0
  state :=
    match packet.protocol with
    | .udp => .active
    | .tcp => .handshake
  closeReason := none
  midstream := false

/-- `FlowEntry(flow)`. -/
def newEntry (flow : Flow) (serial : Nat) : FlowEntry where
  flow := flow
  finFwd := false
  finBwd := false
  synackSeen := false
  synackDir := none
  stateChangedAt := flow.startTime
  serial := serial

/-! ### Recording one packet on an entry -/

/-- Run the TCP state machine on an entry, before the packet is counted. -/
def advanceState
    (cfg : FlowCfg)
    (entry : FlowEntry)
    (protocol : FlowProtocol)
    (flags : List Str)
    (direction : Direction)
    (ts : Time) :
    FlowEntry :=
  match protocol with
  | .udp => entry
  | .tcp =>
      let ctx : TcpContext := {
        synackSeen := entry.synackSeen
        synackDir := entry.synackDir
        finFwd := entry.finFwd
        finBwd := entry.finBwd
        midstream := entry.flow.midstream
        tcpCloseRequiresFinalAck := cfg.tcpCloseRequiresFinalAck
      }
      let result := nextState entry.flow.state
        (.list (flags.map .str)) direction ctx
        (entry.flow.packetCount = 0)
      { entry with
        flow := { entry.flow with
          state := result.1
          midstream := result.2.midstream }
        synackSeen := result.2.synackSeen
        synackDir := result.2.synackDir
        finFwd := result.2.finFwd
        finBwd := result.2.finBwd
        stateChangedAt :=
          if result.1 ≠ entry.flow.state then
            ts
          else
            entry.stateChangedAt }

/-- One if the packet is TCP and carries the flag. -/
def flagCount
    (protocol : FlowProtocol)
    (flags : List Str)
    (name : Str) :
    Nat :=
  if protocol = .tcp ∧ name ∈ flags then 1 else 0

/--
Application protocol after a packet: specific before `UNKNOWN`.  A name that is
not in ASCII is kept as it is, where `str.upper` may change it.
-/
def resolveApplication
    (current : Option Str)
    (appProtocol : Option Str) :
    Option Str :=
  match appProtocol with
  | none => current
  | some seen =>
      let seenUpper := upper seen
      match current with
      | none => some seenUpper
      | some known =>
          if known = lit "UNKNOWN" ∧ seenUpper ≠ lit "UNKNOWN" then
            some seenUpper
          else
            some known

/-- Count a packet in the statistics of its flow. -/
def countPacket
    (flow : Flow)
    (event : EventView)
    (protocol : FlowProtocol)
    (flags : List Str)
    (direction : Direction)
    (ts : Time) :
    Flow :=
  let rawLen := event.countedLength
  let isForward := direction = .forward
  { flow with
    startTime := min flow.startTime ts
    lastSeen := max flow.lastSeen ts
    packetCount := flow.packetCount + 1
    byteCount := flow.byteCount + rawLen
    payloadByteCount := flow.payloadByteCount + event.countedPayload
    fwdPacketCount :=
      if isForward then flow.fwdPacketCount + 1
      else flow.fwdPacketCount
    fwdByteCount :=
      if isForward then flow.fwdByteCount + rawLen
      else flow.fwdByteCount
    bwdPacketCount :=
      if isForward then flow.bwdPacketCount
      else flow.bwdPacketCount + 1
    bwdByteCount :=
      if isForward then flow.bwdByteCount
      else flow.bwdByteCount + rawLen
    synCount :=
      flow.synCount + flagCount protocol flags (lit "SYN")
    ackCount :=
      flow.ackCount + flagCount protocol flags (lit "ACK")
    finCount :=
      flow.finCount + flagCount protocol flags (lit "FIN")
    rstCount :=
      flow.rstCount + flagCount protocol flags (lit "RST")
    applicationProtocol :=
      resolveApplication flow.applicationProtocol event.appName }

/-- The direction of a packet within an entry. -/
def packetDirection (entry : FlowEntry) (packet : TrackedPacket) :
    Direction :=
  directionOf entry.flow.endpointA packet.src.ip packet.src.port

/--
Everything `update` does to the entry of its packet.  An application protocol
without a text comes last and changes nothing.
-/
def recordPacket
    (cfg : FlowCfg)
    (entry : FlowEntry)
    (packet : TrackedPacket)
    (event : EventView) :
    FlowEntry :=
  let flags := event.flagSet
  let direction := packetDirection entry packet
  let advanced :=
    advanceState cfg entry packet.protocol flags direction packet.ts
  { advanced with
    flow := countPacket advanced.flow event packet.protocol flags
      direction packet.ts }

/-- What `update` writes on the event of a recorded packet. -/
def attachmentOf (recorded : FlowEntry) (packet : TrackedPacket) :
    Attachment where
  serial := recorded.serial
  flowId := recorded.flow.flowId
  direction := packetDirection recorded packet
  flowState := recorded.flow.state

namespace FlowTracker

/-- `FlowTracker(cfg, on_export)`. -/
def fresh : FlowTracker where
  table := .empty
  clock := 0
  lastSweep := none
  handed := []
  exportFailures := 0
  created := 0

/-! ### Exporting -/

/--
`_export_flow`: drop the entry stored under the key rebuilt from the flow's
endpoints and hand its flow to the callback.  An exception of the callback is
logged and swallowed.
-/
def exportFlow
    (setup : TrackerSetup)
    (tracker : FlowTracker)
    (entry : FlowEntry)
    (reason : CloseReason) :
    FlowTracker :=
  let key := entry.flow.key
  match tracker.table.get? key with
  | none => tracker
  | some removed =>
      let flow := removed.flow.closeWith reason
      let left := { tracker with table := tracker.table.remove key }
      match setup.onExport with
      | none => left
      | some callback =>
          let called :=
            { left with
              handed := tracker.handed ++ [(removed.serial, flow)] }
          match callback (tracker.handed.map Prod.snd) flow with
          | .ok () => called
          | .error _ =>
              { called with
                exportFailures := tracker.exportFailures + 1 }

/-- Export a collected list of entries, one after the other. -/
def exportAll
    (setup : TrackerSetup)
    (tracker : FlowTracker)
    (collected : List (FlowEntry × CloseReason)) :
    FlowTracker :=
  collected.foldl
    (fun tracker item => tracker.exportFlow setup item.1 item.2)
    tracker

/--
Export an entry, and drop its key should the export have left the table as
long as before.
-/
def exportOrDrop
    (setup : TrackerSetup)
    (tracker : FlowTracker)
    (key : FlowKey)
    (entry : FlowEntry)
    (reason : CloseReason) :
    FlowTracker :=
  let exported := tracker.exportFlow setup entry reason
  if tracker.table.size ≤ exported.table.size then
    { exported with table := exported.table.remove key }
  else
    exported

/--
`sweep`: export every expired entry.  Without a usable `now` the clock is the
time to judge by; a far-future `now` does not move `last_sweep` past the clock.
-/
def sweep
    (setup : TrackerSetup)
    (tracker : FlowTracker)
    (now : Option Time) :
    FlowTracker :=
  let evalTime := now.getD tracker.clock
  let expired :=
    tracker.table.values.filter (isExpired · evalTime setup.cfg)
  let swept := tracker.exportAll setup
    (expired.map fun entry => (entry, getCloseReason entry))
  { swept with lastSweep := some (min evalTime swept.clock) }

/-- The reason `flush` gives to an entry. -/
def flushReason (entry : FlowEntry) : CloseReason :=
  if entry.flow.state = .closed ∨ entry.flow.state = .reset then
    getCloseReason entry
  else
    .flush

/-- `flush`: export everything that is left, oldest first. -/
def flush (setup : TrackerSetup) (tracker : FlowTracker) : FlowTracker :=
  tracker.table.items.foldl
    (fun tracker item =>
      tracker.exportOrDrop setup item.1 item.2 (flushReason item.2))
    tracker

/-! ### Updating -/

/-- Does a pure SYN find the entry terminated? -/
def isPortReuse
    (entry : FlowEntry)
    (packet : TrackedPacket)
    (flags : List Str) :
    Bool :=
  packet.protocol = .tcp ∧ lit "SYN" ∈ flags ∧ lit "ACK" ∉ flags ∧
    (entry.flow.state = .closed ∨ entry.flow.state = .reset)

/--
Step 3 of `update`: export the entry of the packet's key if it expired before
this packet or its five-tuple is being reused.  The result tells which entry,
if any, the packet may still join.
-/
def releaseStale
    (setup : TrackerSetup)
    (tracker : FlowTracker)
    (packet : TrackedPacket)
    (flags : List Str) :
    FlowTracker × Option FlowEntry :=
  match tracker.table.get? packet.key with
  | none => (tracker, none)
  | some entry =>
      if isExpired entry packet.ts setup.cfg then
        (tracker.exportFlow setup entry (getCloseReason entry), none)
      else if isPortReuse entry packet flags then
        (tracker.exportFlow setup entry .portReuse, none)
      else
        (tracker, some entry)

/--
Step 4.1: while the table is full, export its oldest entry.  Every round
shrinks the table, so the table size bounds the number of rounds.
-/
def evictOldest
    (setup : TrackerSetup) :
    Nat → FlowTracker → FlowTracker
  | 0, tracker => tracker
  | rounds + 1, tracker =>
      if setup.cfg.getMaxActiveFlows ≤ tracker.table.size then
        match tracker.table.oldest? with
        | none => tracker
        | some (key, entry) =>
            evictOldest setup rounds
              (tracker.exportOrDrop setup key entry .evicted)
      else
        tracker

/-- Step 4.1 with as many rounds as it can need. -/
def makeRoom (setup : TrackerSetup) (tracker : FlowTracker) :
    FlowTracker :=
  evictOldest setup tracker.table.size tracker

/--
Step 4: join the remaining entry, or create one.  Room is made for the new flow
before its identifier, which may not be possible.
-/
def attachEntry
    (setup : TrackerSetup)
    (tracker : FlowTracker)
    (packet : TrackedPacket)
    (live : Option FlowEntry) :
    FlowTracker × Except PyException FlowEntry :=
  match live with
  | some entry =>
      ({ tracker with table := tracker.table.moveToEnd packet.key },
        .ok entry)
  | none =>
      let roomy := tracker.makeRoom setup
      match makeFlowId setup.digest packet.key packet.ts with
      | .error exception => (roomy, .error exception)
      | .ok flowId =>
          let entry := newEntry (newFlow flowId packet) roomy.created
          ({ roomy with
              table := roomy.table.insertLast packet.key entry
              created := roomy.created + 1 },
            .ok entry)

/-- Step 8: sweep when the clock has moved a whole interval. -/
def periodicSweep (setup : TrackerSetup) (tracker : FlowTracker) :
    FlowTracker :=
  match tracker.lastSweep with
  | none => { tracker with lastSweep := some tracker.clock }
  | some lastSweep =>
      if setup.cfg.getSweepInterval ≤ tracker.clock - lastSweep then
        tracker.sweep setup (some tracker.clock)
      else
        tracker

/-- The end of `update`: step 8 is not reached if an exception was raised. -/
def finishUpdate
    (setup : TrackerSetup)
    (tracker : FlowTracker)
    (raised : Option PyException) :
    FlowTracker :=
  match raised with
  | none => tracker.periodicSweep setup
  | some _ => tracker

/-- Steps 5 to 8: record the packet on the entry step 4 attached it to. -/
def recordAttached
    (setup : TrackerSetup)
    (packet : TrackedPacket)
    (event : EventView) :
    FlowTracker × Except PyException FlowEntry →
      FlowTracker × UpdateResult
  | (roomy, .error exception) => (roomy, .failed exception)
  | (attached, .ok entry) =>
      let recorded := recordPacket setup.cfg entry packet event
      let counted :=
        { attached with
          table := attached.table.insertLast packet.key recorded }
      (counted.finishUpdate setup event.appFault,
        .placed (attachmentOf recorded packet) event.appFault)

/-- `update` on an event that passes the filter. -/
def track
    (setup : TrackerSetup)
    (tracker : FlowTracker)
    (packet : TrackedPacket)
    (event : EventView) :
    FlowTracker × UpdateResult :=
  let observed :=
    { tracker with clock := max tracker.clock packet.ts }
  match event.flags with
  | .error exception => (observed, .failed exception)
  | .ok flags =>
      let (released, live) := observed.releaseStale setup packet flags
      recordAttached setup packet event
        (released.attachEntry setup packet live)

/-- `update`, without its decorator: the new tracker and how it ended. -/
def update
    (setup : TrackerSetup)
    (tracker : FlowTracker)
    (event : EventView) :
    FlowTracker × UpdateResult :=
  match event.filter with
  | .error exception => (tracker, .failed exception)
  | .ok none => (tracker, .skipped)
  | .ok (some packet) => tracker.track setup packet event

/-- `snapshot`: the live flow an event belongs to. -/
def snapshot (tracker : FlowTracker) (event : IDSEvent) : Option Flow :=
  match trackedPacket? event.view with
  | none => none
  | some packet =>
      (tracker.table.get? packet.key).map FlowEntry.flow

end FlowTracker

end IntrusionDetection
