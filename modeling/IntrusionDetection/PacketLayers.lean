import IntrusionDetection.Flow
import IntrusionDetection.IpAddress
import IntrusionDetection.PacketParser
import IntrusionDetection.ProtocolDetector

namespace IntrusionDetection

open PyText

/-!
# Layers of a packet

The parsers of the network and of the transport layer.  They take the fields
of a header from the packet library, which is a parameter; a field has the
width it has in the header.  Whatever raises on the way makes the packet
malformed at the layer whose parser it was.
-/

/-! ### The packet library -/

/-- The IPv4 header of a packet, and what follows it. -/
structure IpLayer where
  src : Ipv4.Address
  dst : Ipv4.Address
  ttl : UInt8
  ihl : UInt8
  proto : UInt8
  payload : Bytes

/-- An Ethernet frame, with the IPv4 header if it was dissected. -/
structure EtherFrame where
  type : UInt16
  ip : Option IpLayer

/-- The header of a segment; without payload there is a `NoPayload`. -/
structure TcpLayer where
  sport : UInt16
  dport : UInt16
  seq : UInt32
  ack : UInt32
  flags : Str
  window : UInt16
  payload : Option Bytes

/-- The header of a datagram. -/
structure UdpLayer where
  sport : UInt16
  dport : UInt16
  len : UInt16

/--
The dissectors of the packet library; each of them may raise.  `other` is what
`parse_ipv4` makes of an object that is not bytes-like.
-/
structure PacketLibrary where
  other : RawPacket → NetworkResult
  ether : Bytes → Except PyException EtherFrame
  ip : Bytes → Except PyException (Option IpLayer)
  tcp : Bytes → Except PyException TcpLayer
  udp : Bytes → Except PyException UdpLayer

/-- `safe_parse`: what a parser raises is kept as its result. -/
def LayerParsers.safeParse
    {Result : Type}
    (name : Str)
    (malformed : ErrorInfo → Result)
    (parsed : Except PyException Result) :
    Result :=
  match parsed with
  | .ok result => result
  | .error exception =>
      malformed { layer := name, detail := exception.message }

/-- A `ValueError`. -/
def valueError (message : Str) : PyException where
  typeName := lit "ValueError"
  message := message

/-! ### Network layer -/

namespace NetworkResult

/-- The result of a packet that could not be parsed. -/
def malformed (info : ErrorInfo) : NetworkResult where
  status := .malformed
  errorInfo := some info
  networkProtocol := none
  srcIp := none
  dstIp := none
  networkFields := none
  transportPayload := []

/-- The result of a packet that is not IPv4. -/
def unknown : NetworkResult where
  status := .unknown
  errorInfo := none
  networkProtocol := none
  srcIp := none
  dstIp := none
  networkFields := none
  transportPayload := []

/-- The result of an IPv4 header. -/
def ofLayer (layer : IpLayer) : NetworkResult where
  status := .ok
  errorInfo := none
  networkProtocol := some (lit "IPv4")
  srcIp := some (IpAddress.ipv4Text layer.src)
  dstIp := some (IpAddress.ipv4Text layer.dst)
  networkFields :=
    some [(lit "ttl", .int layer.ttl.toNat),
      (lit "header_length", .int (4 * layer.ihl.toNat)),
      (lit "ip_proto_number", .int layer.proto.toNat)]
  transportPayload := layer.payload

end NetworkResult

/-- `IPV4_ETHERTYPE`. -/
def ipv4Ethertype : UInt16 := 0x0800

/-- Does a capture without Ethernet frames begin with an IPv4 header? -/
def beginsRawIp (data : Bytes) : Bool :=
  data.head?.any fun first : UInt8 => first >>> 4 = 4

/-- `parse_ipv4`. -/
def parseIpv4 (library : PacketLibrary) (data : Bytes) : NetworkResult :=
  LayerParsers.safeParse (lit "parse_ipv4") NetworkResult.malformed do
    let frame ← library.ether data
    if frame.type = ipv4Ethertype then
      match frame.ip with
      | some layer => return .ofLayer layer
      | none =>
          throw (valueError
            (lit "Ethertype indicates IPv4, but IP layer dissection " ++
              lit "failed (malformed header)."))
    else if beginsRawIp data then
      match ← library.ip data with
      | some layer => return .ofLayer layer
      | none => return .unknown
    else
      return .unknown

/-! ### Transport layer -/

/-- The result of a segment or a datagram that could not be parsed. -/
def TransportResult.malformed (info : ErrorInfo) : TransportResult where
  status := .malformed
  errorInfo := some info
  transportProtocol := none
  srcPort := none
  dstPort := none
  transportFields := .none
  appPayload := []

/-- The complaint about a header that is too short. -/
def tooShort (name : String) (length least : Nat) : PyException :=
  valueError
    (lit "Payload too short to be a valid " ++ lit name ++ lit " header (" ++
      ofInt length ++ lit " bytes, minimum required is " ++ ofInt least ++
      lit ").")

/-- `MIN_TCP_HEADER_LEN`. -/
def minTcpHeaderLen : Nat := 20

/-- `MIN_UDP_HEADER_LEN`. -/
def minUdpHeaderLen : Nat := 8

/-- `TCP_FLAG_MAP`. -/
def tcpFlagMap : List (CodePoint × Str) :=
  [(codePoint 'F', lit "FIN"), (codePoint 'S', lit "SYN"),
    (codePoint 'R', lit "RST"), (codePoint 'P', lit "PSH"),
    (codePoint 'A', lit "ACK"), (codePoint 'U', lit "URG"),
    (codePoint 'E', lit "ECE"), (codePoint 'C', lit "CWR")]

/-- `decode_tcp_flags`. -/
def decodeTcpFlags (flags : Str) : List Str :=
  flags.filterMap (InsertionDict.get? tcpFlagMap)

/-- `parse_tcp`. -/
def parseTcp (library : PacketLibrary) (data : Bytes) : TransportResult :=
  LayerParsers.safeParse (lit "parse_tcp") TransportResult.malformed do
    if data.length < minTcpHeaderLen then
      throw (tooShort "TCP" data.length minTcpHeaderLen)
    else
      let layer ← library.tcp data
      return {
        status := .ok
        errorInfo := none
        transportProtocol := some (lit "TCP")
        srcPort := some layer.sport.toNat
        dstPort := some layer.dport.toNat
        transportFields := .dict
          [(lit "seq", .int layer.seq.toNat),
            (lit "ack", .int layer.ack.toNat),
            (lit "flags",
              .list ((decodeTcpFlags layer.flags).map .str)),
            (lit "window_size", .int layer.window.toNat)]
        appPayload := layer.payload.getD [] }

/-- The datagram without its header and without the padding behind it. -/
def udpPayload (layer : UdpLayer) (data : Bytes) : Bytes :=
  if minUdpHeaderLen < layer.len.toNat then
    (data.take layer.len.toNat).drop minUdpHeaderLen
  else
    []

/-- `parse_udp`. -/
def parseUdp (library : PacketLibrary) (data : Bytes) : TransportResult :=
  LayerParsers.safeParse (lit "parse_udp") TransportResult.malformed do
    if data.length < minUdpHeaderLen then
      throw (tooShort "UDP" data.length minUdpHeaderLen)
    else
      let layer ← library.udp data
      return {
        status := .ok
        errorInfo := none
        transportProtocol := some (lit "UDP")
        srcPort := some layer.sport.toNat
        dstPort := some layer.dport.toNat
        transportFields := .dict
          [(lit "length", .int layer.len.toNat),
            (lit "length_mismatch",
              .bool (data.length < layer.len.toNat))]
        appPayload := udpPayload layer data }

/-! ### Application layer -/

/--
The parsers of the application layer: the fields of a message, or what is
raised.  `knownPorts` is the table of ports of the settings.
-/
structure ApplicationParsers where
  knownPorts : List (Int × Str)
  parseHttp : Bytes → Except PyException PyValue
  parseDns : Bytes → Except PyException PyValue
  parseSmtp : Bytes → Except PyException PyValue

namespace ApplicationResult

/-- The result of a message that could not be parsed. -/
def malformed (info : ErrorInfo) : ApplicationResult where
  status := .malformed
  errorInfo := some info
  appProtocol := none
  appFields := .none

/-- The result of a parser under its decorator. -/
def ofParsed
    (name appProtocol : String)
    (parsed : Except PyException PyValue) :
    ApplicationResult :=
  LayerParsers.safeParse (lit name) malformed do
    let appFields ← parsed
    return {
      status := .ok
      errorInfo := none
      appProtocol := some (lit appProtocol)
      appFields }

end ApplicationResult

/-! ### All layers -/

/-- `parse_ipv4` of any object. -/
def parseRaw (library : PacketLibrary) : RawPacket → NetworkResult
  | .bytesLike data => parseIpv4 library data
  | raw => library.other raw

/-- The parsers of all layers. -/
def layerParsers
    (library : PacketLibrary)
    (applications : ApplicationParsers) :
    LayerParsers where
  parseIpv4 := fun raw => .ok (parseRaw library raw)
  parseTcp := fun data => .ok (parseTcp library data)
  parseUdp := fun data => .ok (parseUdp library data)
  detectApplicationProtocol := fun payload srcPort dstPort _ =>
    .ok (ProtocolDetector.detectApplicationProtocol
      applications.knownPorts payload srcPort dstPort)
  parseHttp := fun payload =>
    .ok (.ofParsed "parse_http" "HTTP" (applications.parseHttp payload))
  parseDns := fun payload =>
    .ok (.ofParsed "parse_dns" "DNS" (applications.parseDns payload))
  parseSmtp := fun payload =>
    .ok (.ofParsed "parse_smtp" "SMTP" (applications.parseSmtp payload))

/-- The names of the layer parsers. -/
def layerNames : List Str :=
  [lit "parse_ipv4", lit "parse_tcp", lit "parse_udp", lit "parse_http",
    lit "parse_dns", lit "parse_smtp"]

/-! ### How far a packet gets -/

/-- The flag names of the transport fields. -/
def tcpFlagNames : List Str :=
  tcpFlagMap.map Prod.snd

/-- How far the parser got with a packet. -/
inductive ReachedLayer where
  | malformed (layer : Str)
  | unknown
  | network (proto : UInt8)
  | transport (protocol : FlowProtocol) (srcPort dstPort : UInt16)

namespace IDSEvent

/-- The event has the fields of an IPv4 header. -/
structure HasNetwork (event : IDSEvent) (proto : UInt8) : Prop where
  networkProtocol : event.networkProtocol = some (lit "IPv4")
  srcIp : ∃ src, event.srcIp = some (IpAddress.ipv4Text src)
  dstIp : ∃ dst, event.dstIp = some (IpAddress.ipv4Text dst)
  proto :
    event.networkFields.get? (lit "ip_proto_number") =
      some (.int proto.toNat)

/-- The event has the fields of a segment or of a datagram. -/
structure HasTransport
    (event : IDSEvent)
    (protocol : FlowProtocol)
    (srcPort dstPort : UInt16) : Prop where
  transportProtocol : event.transportProtocol = some protocol.name
  srcPort : event.srcPort = some (srcPort.toNat : Int)
  dstPort : event.dstPort = some (dstPort.toNat : Int)
  flags :
    event.transportFields.get? (lit "flags") = none ∨
      ∃ names : List Str,
        (∀ name ∈ names, name ∈ tcpFlagNames) ∧
          event.transportFields.get? (lit "flags") =
            some (.list (names.map .str))

/-- The parser finalised the event at this layer. -/
inductive Reaches (event : IDSEvent) : ReachedLayer → Prop where
  | malformed
      (info : ErrorInfo)
      (isMalformed : event.status = .malformed)
      (isInfo : event.errorInfo = some info)
      (isLayer : info.layer ∈ layerNames) :
      Reaches event (.malformed info.layer)
  | unknown
      (isUnknown : event.status = .unknown)
      (noPort : event.srcPort = none) :
      Reaches event .unknown
  | network
      (proto : UInt8)
      (isOk : event.status = .ok)
      (network : event.HasNetwork proto)
      (noTransport : event.transportProtocol = none)
      (noPort : event.srcPort = none) :
      Reaches event (.network proto)
  | transport
      (proto : UInt8)
      (protocol : FlowProtocol)
      (srcPort dstPort : UInt16)
      (isOk : event.status = .ok ∨ event.status = .ignored)
      (network : event.HasNetwork proto)
      (transport : event.HasTransport protocol srcPort dstPort) :
      Reaches event (.transport protocol srcPort dstPort)

/-- What the parser leaves of a new event. -/
structure SameStart (event started : IDSEvent) : Prop where
  packetId : event.packetId = started.packetId
  timestamp : event.timestamp = started.timestamp
  reason : event.reason = started.reason
  decodeStatus : event.decodeStatus = started.decodeStatus

/-- A parse ends with an event, at some layer, that began as this one. -/
def Finishes
    (parsed : Except PyException IDSEvent)
    (started : IDSEvent) : Prop :=
  ∃ event reached,
    parsed = .ok event ∧ event.Reaches reached ∧ event.SameStart started

end IDSEvent

section Layers

open IDSEvent

variable (library : PacketLibrary) (applications : ApplicationParsers)
variable {event started : IDSEvent}
variable (same : event.SameStart started)
include same

/-- What a layer parser could not make sense of finalises the event. -/
theorem finishes_malformed
    {info : ErrorInfo}
    (isLayer : info.layer ∈ layerNames) :
    Finishes
      (.ok { event with status := .malformed, errorInfo := some info })
      started :=
  ⟨_, _, rfl, .malformed info rfl rfl isLayer,
    same.packetId, same.timestamp, same.reason, same.decodeStatus⟩

/-- The two results of an application parser, on the event. -/
theorem finishes_ofParsed
    {name protocolName : String}
    (isLayer : lit name ∈ layerNames)
    (appProto : Str)
    {parsed : Except PyException PyValue}
    {final : Except PyException IDSEvent}
    (isFinal :
      final =
        if (ApplicationResult.ofParsed name protocolName parsed).status =
            .malformed then
          .ok { event with
            status := .malformed
            errorInfo :=
              (ApplicationResult.ofParsed name protocolName
                parsed).errorInfo }
        else
          .ok { event with
            appFields :=
              (ApplicationResult.ofParsed name protocolName
                parsed).appFields
            appProtocol :=
              some ((ApplicationResult.ofParsed name protocolName
                parsed).appProtocol.getD appProto) })
    (parses :
      ∀ appProtocol appFields,
        Finishes (.ok { event with appFields, appProtocol }) started) :
    Finishes final started := by
  rw [isFinal]
  cases parsed with
  | error exception =>
      exact finishes_malformed same isLayer
  | ok appFields =>
      exact parses _ _

variable {proto : UInt8} (network : event.HasNetwork proto)
variable {protocol : FlowProtocol} {srcPort dstPort : UInt16}
variable (transport : event.HasTransport protocol srcPort dstPort)
include network transport

/-- Whatever is found in the payload, the lower layers stay. -/
theorem finishes_transport
    (appProtocol detectionMethod : Option Str)
    (appFields : PyValue)
    {status : EventStatus}
    (isStatus : status = .ok ∨ status = .ignored) :
    Finishes
      (.ok { event with
        status, appProtocol, detectionMethod, appFields })
      started :=
  ⟨_, _, rfl,
    .transport proto protocol srcPort dstPort isStatus
      ⟨network.networkProtocol, network.srcIp, network.dstIp,
        network.proto⟩
      ⟨transport.transportProtocol, transport.srcPort, transport.dstPort,
        transport.flags⟩,
    same.packetId, same.timestamp, same.reason, same.decodeStatus⟩

variable (isOk : event.status = .ok)
include isOk

/-- An application parser finalises the event, whatever it returns. -/
theorem finishes_parseApplication (appProto : Str) (payload : Bytes) :
    Finishes
      ((layerParsers library applications).parseApplication event appProto
        payload)
      started := by
  have parses :
      ∀ appProtocol appFields,
        Finishes (.ok { event with appFields, appProtocol }) started := by
    intro appProtocol appFields
    have finishes :=
      finishes_transport same network transport appProtocol
        event.detectionMethod appFields (Or.inl rfl)
    rw [← isOk] at finishes
    exact finishes
  unfold LayerParsers.parseApplication
  by_cases isHttp : appProto = lit "HTTP"
  · rw [if_pos isHttp]
    exact @finishes_ofParsed _ _ same "parse_http" "HTTP" (by decide)
      appProto _ _ rfl parses
  · rw [if_neg isHttp]
    by_cases isDns : appProto = lit "DNS"
    · rw [if_pos isDns]
      exact @finishes_ofParsed _ _ same "parse_dns" "DNS" (by decide)
        appProto _ _ rfl parses
    · rw [if_neg isDns]
      by_cases isSmtp : appProto = lit "SMTP"
      · rw [if_pos isSmtp]
        exact @finishes_ofParsed _ _ same "parse_smtp" "SMTP" (by decide)
          appProto _ _ rfl parses
      · rw [if_neg isSmtp]
        exact parses event.appProtocol event.appFields

/-- Detection leaves the lower layers. -/
theorem finishes_detectApplication (policy : Str) (payload : Bytes) :
    Finishes
      ((layerParsers library applications).detectApplication policy event
        payload)
      started := by
  cases detected :
      ProtocolDetector.detectApplicationProtocol applications.knownPorts
        payload event.srcPort event.dstPort with
  | mk appProto method =>
      have isDetected :
          (layerParsers library applications).detectApplicationProtocol
              payload event.srcPort event.dstPort event.packetId =
            .ok (appProto, method) :=
        congrArg Except.ok detected
      unfold LayerParsers.detectApplication
      rw [isDetected]
      change
        Finishes
          (if appProto = lit "UNKNOWN" then
            if policy = lit "skip" then
              .ok { event with status := .ignored }
            else
              .ok { event with
                appProtocol := some (lit "UNKNOWN")
                detectionMethod := method }
          else
            (layerParsers library applications).parseApplication
              { event with
                appProtocol := some appProto
                detectionMethod := method } appProto payload)
          started
      split
      · split
        · exact finishes_transport same network transport
            event.appProtocol event.detectionMethod event.appFields
            (Or.inr rfl)
        · have finishes :=
            finishes_transport same network transport
              (some (lit "UNKNOWN")) method event.appFields (Or.inl rfl)
          rw [← isOk] at finishes
          exact finishes
      · apply finishes_parseApplication library applications
        · exact ⟨same.packetId, same.timestamp, same.reason,
            same.decodeStatus⟩
        · exact ⟨network.networkProtocol, network.srcIp, network.dstIp,
            network.proto⟩
        · exact ⟨transport.transportProtocol, transport.srcPort,
            transport.dstPort, transport.flags⟩
        · exact isOk

end Layers

/-- A flag that is decoded has a name. -/
theorem mem_tcpFlagNames_of_decodeTcpFlags
    {flags name : Str}
    (member : name ∈ decodeTcpFlags flags) :
    name ∈ tcpFlagNames := by
  obtain ⟨letter, _, isName⟩ := List.mem_filterMap.mp member
  exact List.mem_map_of_mem (InsertionDict.mem_of_get? isName)

/-- What a transport parser returns: a complaint, or the fields it read. -/
inductive TransportResult.ReadBy
    (result : TransportResult)
    (protocol : FlowProtocol) : Prop where
  | malformed
      (info : ErrorInfo)
      (isResult : result = .malformed info)
      (isLayer : info.layer ∈ layerNames)
  | fields
      (isOk : result.status = .ok)
      (srcPort dstPort : UInt16)
      (transport :
        ∀ event : IDSEvent,
          IDSEvent.HasTransport
            { event with
              transportProtocol := result.transportProtocol
              srcPort := result.srcPort
              dstPort := result.dstPort
              transportFields := result.transportFields
              payload := .bytes result.appPayload }
            protocol srcPort dstPort)

/-- A segment is read, or complained about. -/
theorem readBy_parseTcp (library : PacketLibrary) (data : Bytes) :
    (parseTcp library data).ReadBy .tcp := by
  have isLayer : lit "parse_tcp" ∈ layerNames := by
    decide
  by_cases short : data.length < minTcpHeaderLen
  · have isResult :
        parseTcp library data =
          .malformed {
            layer := lit "parse_tcp"
            detail :=
              (tooShort "TCP" data.length minTcpHeaderLen).message } := by
      rw [parseTcp, if_pos short]
      rfl
    exact .malformed _ isResult isLayer
  · cases dissected : library.tcp data with
    | error exception =>
        have isResult :
            parseTcp library data =
              .malformed {
                layer := lit "parse_tcp"
                detail := exception.message } := by
          rw [parseTcp, if_neg short, dissected]
          rfl
        exact .malformed _ isResult isLayer
    | ok layer =>
        rw [parseTcp, if_neg short, dissected]
        refine .fields rfl layer.sport layer.dport fun event =>
          ⟨rfl, rfl, rfl, Or.inr ⟨decodeTcpFlags layer.flags, ?_, rfl⟩⟩
        exact fun name member => mem_tcpFlagNames_of_decodeTcpFlags member

/-- A datagram is read, or complained about. -/
theorem readBy_parseUdp (library : PacketLibrary) (data : Bytes) :
    (parseUdp library data).ReadBy .udp := by
  have isLayer : lit "parse_udp" ∈ layerNames := by
    decide
  by_cases short : data.length < minUdpHeaderLen
  · have isResult :
        parseUdp library data =
          .malformed {
            layer := lit "parse_udp"
            detail :=
              (tooShort "UDP" data.length minUdpHeaderLen).message } := by
      rw [parseUdp, if_pos short]
      rfl
    exact .malformed _ isResult isLayer
  · cases dissected : library.udp data with
    | error exception =>
        have isResult :
            parseUdp library data =
              .malformed {
                layer := lit "parse_udp"
                detail := exception.message } := by
          rw [parseUdp, if_neg short, dissected]
          rfl
        exact .malformed _ isResult isLayer
    | ok layer =>
        rw [parseUdp, if_neg short, dissected]
        exact .fields rfl layer.sport layer.dport fun event =>
          ⟨rfl, rfl, rfl, Or.inl rfl⟩

section Layers

open IDSEvent

variable (library : PacketLibrary) (applications : ApplicationParsers)
variable {event started : IDSEvent}
variable (same : event.SameStart started)
variable {proto : UInt8} (network : event.HasNetwork proto)
variable (isOk : event.status = .ok)
include same network isOk

/-- The event goes on with what was read of its transport layer. -/
theorem finishes_readBy
    (policy : Str)
    {protocol : FlowProtocol}
    {result : TransportResult}
    (readBy : result.ReadBy protocol) :
    Finishes
      (if result.status = .malformed then
        .ok { event with
          status := .malformed
          errorInfo := result.errorInfo }
      else if result.appPayload = [] then
        .ok { event with
          transportProtocol := result.transportProtocol
          srcPort := result.srcPort
          dstPort := result.dstPort
          transportFields := result.transportFields
          payload := .bytes result.appPayload }
      else
        (layerParsers library applications).detectApplication policy
          { event with
            transportProtocol := result.transportProtocol
            srcPort := result.srcPort
            dstPort := result.dstPort
            transportFields := result.transportFields
            payload := .bytes result.appPayload }
          result.appPayload)
      started := by
  cases readBy with
  | malformed info isResult isLayer =>
      rw [isResult]
      exact finishes_malformed same isLayer
  | fields isRead srcPort dstPort transport =>
      have notMalformed : result.status ≠ .malformed := by
        rw [isRead]
        decide
      have sameStart :
          SameStart
            { event with
              transportProtocol := result.transportProtocol
              srcPort := result.srcPort
              dstPort := result.dstPort
              transportFields := result.transportFields
              payload := .bytes result.appPayload }
            started :=
        ⟨same.packetId, same.timestamp, same.reason, same.decodeStatus⟩
      have networkStays :
          HasNetwork
            { event with
              transportProtocol := result.transportProtocol
              srcPort := result.srcPort
              dstPort := result.dstPort
              transportFields := result.transportFields
              payload := .bytes result.appPayload }
            proto :=
        ⟨network.networkProtocol, network.srcIp, network.dstIp,
          network.proto⟩
      rw [if_neg notMalformed]
      split
      · have finishes :=
          finishes_transport sameStart networkStays (transport event)
            event.appProtocol event.detectionMethod event.appFields
            (Or.inl isOk)
        exact finishes
      · exact finishes_detectApplication library applications sameStart
          networkStays (transport event) isOk policy result.appPayload

/-- The transport layer is parsed by the parser of its protocol. -/
theorem finishes_parseTransport
    (policy : Str)
    (protocol : FlowProtocol)
    (data : Bytes) :
    Finishes
      ((layerParsers library applications).parseTransport policy event
        protocol.name data)
      started := by
  cases protocol with
  | tcp =>
      exact finishes_readBy library applications same network isOk policy
        (readBy_parseTcp library data)
  | udp =>
      exact finishes_readBy library applications same network isOk policy
        (readBy_parseUdp library data)

end Layers

/-- What `parse_ipv4` returns: a complaint, nothing, or the fields it read. -/
inductive NetworkResult.Read (result : NetworkResult) : Prop where
  | malformed
      (info : ErrorInfo)
      (isResult : result = .malformed info)
      (isLayer : info.layer ∈ layerNames)
  | unknown (isResult : result = .unknown)
  | fields (layer : IpLayer) (isResult : result = .ofLayer layer)

/-- A packet is read as IPv4, or complained about, or passed over. -/
theorem read_parseIpv4 (library : PacketLibrary) (data : Bytes) :
    (parseIpv4 library data).Read := by
  have isLayer : lit "parse_ipv4" ∈ layerNames := by
    decide
  have complains :
      ∀ exception : PyException,
        parseIpv4 library data =
            .malformed {
              layer := lit "parse_ipv4"
              detail := exception.message } →
          (parseIpv4 library data).Read :=
    fun exception isResult => .malformed _ isResult isLayer
  cases framed : library.ether data with
  | error exception =>
      apply complains exception
      rw [parseIpv4, framed]
      rfl
  | ok frame =>
      by_cases isIpv4 : frame.type = ipv4Ethertype
      · cases dissected : frame.ip with
        | none =>
            apply complains (valueError
              (lit "Ethertype indicates IPv4, but IP layer dissection " ++
                lit "failed (malformed header)."))
            rw [parseIpv4, framed]
            change LayerParsers.safeParse _ _ (if _ then _ else _) = _
            rw [if_pos isIpv4, dissected]
            rfl
        | some layer =>
            apply NetworkResult.Read.fields layer
            rw [parseIpv4, framed]
            change LayerParsers.safeParse _ _ (if _ then _ else _) = _
            rw [if_pos isIpv4, dissected]
            rfl
      · by_cases isRaw : beginsRawIp data = true
        · cases dissected : library.ip data with
          | error exception =>
              apply complains exception
              rw [parseIpv4, framed]
              change LayerParsers.safeParse _ _ (if _ then _ else _) = _
              rw [if_neg isIpv4, if_pos isRaw, dissected]
              rfl
          | ok layer =>
              cases layer with
              | none =>
                  apply NetworkResult.Read.unknown
                  rw [parseIpv4, framed]
                  change LayerParsers.safeParse _ _ (if _ then _ else _) = _
                  rw [if_neg isIpv4, if_pos isRaw, dissected]
                  rfl
              | some layer =>
                  apply NetworkResult.Read.fields layer
                  rw [parseIpv4, framed]
                  change LayerParsers.safeParse _ _ (if _ then _ else _) = _
                  rw [if_neg isIpv4, if_pos isRaw, dissected]
                  rfl
        · apply NetworkResult.Read.unknown
          rw [parseIpv4, framed]
          change LayerParsers.safeParse _ _ (if _ then _ else _) = _
          rw [if_neg isIpv4, if_neg isRaw]
          rfl

/-- The two transport protocols have numbers of their own. -/
theorem ipProtoToName_toNat (proto : UInt8) :
    ipProtoToName (.int proto.toNat) =
      if proto = 6 then some FlowProtocol.tcp.name
      else if proto = 17 then some FlowProtocol.udp.name
      else none := by
  have all :
      (List.range 256).all (fun number =>
        ipProtoToName (.int (UInt8.ofNat number).toNat) =
          if UInt8.ofNat number = 6 then some FlowProtocol.tcp.name
          else if UInt8.ofNat number = 17 then
            some FlowProtocol.udp.name
          else none) = true := by
    decide +kernel
  have known :=
    List.all_eq_true.mp all proto.toNat
      (List.mem_range.mpr proto.toNat_lt)
  rw [UInt8.ofNat_toNat] at known
  exact of_decide_eq_true known

/-- A packet that is given as bytes is parsed up to some layer. -/
theorem finishes_parsePacketLayers
    (library : PacketLibrary)
    (applications : ApplicationParsers)
    (timestamp : Option Time)
    (data : Bytes)
    (packetId : Int)
    (policy : Str) :
    IDSEvent.Finishes
      (parsePacketLayers (layerParsers library applications) timestamp
        (.bytesLike data) packetId policy)
      (IDSEvent.new packetId timestamp data.length) := by
  let started : IDSEvent :=
    { IDSEvent.new packetId timestamp data.length with
      networkFields := .none
      transportFields := .none
      appFields := .none }
  have same :
      started.SameStart (IDSEvent.new packetId timestamp data.length) :=
    ⟨rfl, rfl, rfl, rfl⟩
  change
    IDSEvent.Finishes
      ((layerParsers library applications).parseNetwork policy started
        (.bytesLike data)) _
  have isRead :
      (layerParsers library applications).parseIpv4 (.bytesLike data) =
        .ok (parseIpv4 library data) :=
    rfl
  rw [LayerParsers.parseNetwork, isRead]
  cases read_parseIpv4 library data with
  | malformed info isResult isLayer =>
      rw [isResult]
      exact finishes_malformed same isLayer
  | unknown isResult =>
      rw [isResult]
      exact ⟨_, _, rfl, .unknown rfl rfl, rfl, rfl, rfl, rfl⟩
  | fields layer isResult =>
      rw [isResult]
      let networked : IDSEvent :=
        { started with
          networkProtocol := some (lit "IPv4")
          srcIp := some (IpAddress.ipv4Text layer.src)
          dstIp := some (IpAddress.ipv4Text layer.dst)
          networkFields := .dict
            [(lit "ttl", .int layer.ttl.toNat),
              (lit "header_length", .int (4 * layer.ihl.toNat)),
              (lit "ip_proto_number", .int layer.proto.toNat)]
          payloadLength := layer.payload.length }
      have network : networked.HasNetwork layer.proto :=
        ⟨rfl, ⟨_, rfl⟩, ⟨_, rfl⟩, rfl⟩
      have sameStart :
          networked.SameStart
            (IDSEvent.new packetId timestamp data.length) :=
        ⟨rfl, rfl, rfl, rfl⟩
      have stays :
          IDSEvent.Finishes (.ok networked)
            (IDSEvent.new packetId timestamp data.length) :=
        ⟨networked, _, rfl, .network layer.proto rfl network rfl rfl,
          sameStart⟩
      have isName :
          ((PyValue.dict
              [(lit "ttl", .int layer.ttl.toNat),
                (lit "header_length", .int (4 * layer.ihl.toNat)),
                (lit "ip_proto_number", .int layer.proto.toNat)]).get?
              (lit "ip_proto_number")).bind ipProtoToName =
            ipProtoToName (.int layer.proto.toNat) :=
        rfl
      simp only [NetworkResult.ofLayer, Option.getD_some, bind,
        Except.bind, isName, ipProtoToName_toNat]
      split
      · exact stays
      · rename_i name isProtocol
        have isFlowProtocol : ∃ protocol : FlowProtocol,
            name = protocol.name := by
          split at isProtocol
          · exact ⟨.tcp, (Option.some.inj isProtocol).symm⟩
          · split at isProtocol
            · exact ⟨.udp, (Option.some.inj isProtocol).symm⟩
            · cases isProtocol
        obtain ⟨protocol, rfl⟩ := isFlowProtocol
        change
          IDSEvent.Finishes
            (if layer.payload = [] then
              .ok networked
            else
              (layerParsers library applications).parseTransport policy
                networked protocol.name layer.payload)
            (IDSEvent.new packetId timestamp data.length)
        split
        · exact stays
        · exact finishes_parseTransport library applications sameStart
            network rfl policy protocol layer.payload

/-! ### Headers without options -/

/-- A field of a header, its first byte being the most significant one. -/
def headerNumber (data : Bytes) (start size : Nat) : Nat :=
  ((data.drop start).take size).foldl
    (fun number byte => 0x100 * number + byte.toNat) 0

/-- A packet library that reads IPv4 and TCP headers without options. -/
def plainLibrary : PacketLibrary where
  other := fun _ => .unknown
  ether := fun data =>
    .ok { type := .ofNat (headerNumber data 12 2), ip := none }
  ip := fun data =>
    .ok (some {
      src := .ofNat 32 (headerNumber data 12 4)
      dst := .ofNat 32 (headerNumber data 16 4)
      ttl := .ofNat (headerNumber data 8 1)
      ihl := 5
      proto := .ofNat (headerNumber data 9 1)
      payload := data.drop 20 })
  tcp := fun data =>
    .ok {
      sport := .ofNat (headerNumber data 0 2)
      dport := .ofNat (headerNumber data 2 2)
      seq := .ofNat (headerNumber data 4 4)
      ack := .ofNat (headerNumber data 8 4)
      flags :=
        ((lit "FSRPAUEC").zipIdx.filter fun letter =>
          (headerNumber data 13 1).testBit letter.2).map Prod.fst
      window := .ofNat (headerNumber data 14 2)
      payload := if data.length = 20 then none else some (data.drop 20) }
  udp := fun _ => .error (valueError (lit "no datagram"))

/-- Parsers that accept any request, and no mail. -/
def plainApplications : ApplicationParsers where
  knownPorts := [(80, lit "HTTP")]
  parseHttp := fun data =>
    if ProtocolDetector.fits data .http then
      .ok (.dict [])
    else
      .error (valueError (lit "no request"))
  parseDns := fun _ => .error (valueError (lit "no message"))
  parseSmtp := fun _ => .error (valueError (lit "no mail"))

end IntrusionDetection
