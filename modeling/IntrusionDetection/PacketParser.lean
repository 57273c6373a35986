import IntrusionDetection.Event

namespace IntrusionDetection

open PyText

/-!
# Packet parser

The first stage takes the raw bytes of a packet from the network layer up to
the application layer.  What a layer cannot make sense of finalises the event
at that layer.  The parsers of the single layers are parameters; any of them
may raise.
-/

/-- The text the pipeline reports of an exception. -/
def PyException.describe (exception : PyException) : Str :=
  exception.typeName ++ lit ": " ++ exception.message

/--
The argument `raw_bytes`: a bytes-like object, or an object of any other type
with its length, if it has one.
-/
inductive RawPacket where
  | bytesLike (data : Bytes)
  | other (typeName : Str) (length : Option Nat)

namespace RawPacket

/-- `len(raw_bytes)`. -/
def len (raw : RawPacket) : Except PyException Nat :=
  match raw with
  | .bytesLike data => .ok data.length
  | .other _ (some length) => .ok length
  | .other typeName none =>
      .error {
        typeName := lit "TypeError"
        message :=
          lit "object of type '" ++ typeName ++ lit "' has no len()" }

/-- The length to report of a packet that could not be parsed. -/
def byteLength (raw : RawPacket) : Nat :=
  match raw with
  | .bytesLike data => data.length
  | .other _ _ => 0

end RawPacket

/-- The `status` a layer parser reports. -/
inductive LayerStatus where
  | ok
  | unknown
  | malformed
  deriving Repr, DecidableEq

/-- Result of `parse_ipv4`. -/
structure NetworkResult where
  status : LayerStatus
  errorInfo : Option ErrorInfo
  networkProtocol : Option Str
  srcIp : Option Str
  dstIp : Option Str
  networkFields : Option (List (Str × PyValue))
  transportPayload : Bytes

/-- Result of `parse_tcp` and of `parse_udp`. -/
structure TransportResult where
  status : LayerStatus
  errorInfo : Option ErrorInfo
  transportProtocol : Option Str
  srcPort : Option Int
  dstPort : Option Int
  transportFields : PyValue
  appPayload : Bytes

/-- Result of an application parser. -/
structure ApplicationResult where
  status : LayerStatus
  errorInfo : Option ErrorInfo
  appProtocol : Option Str
  appFields : PyValue

/-- The parsers `_parse_packet_layers` calls. -/
structure LayerParsers where
  parseIpv4 : RawPacket → Except PyException NetworkResult
  parseTcp : Bytes → Except PyException TransportResult
  parseUdp : Bytes → Except PyException TransportResult
  detectApplicationProtocol :
    Bytes → Option Int → Option Int → Int →
      Except PyException (Str × Option Str)
  parseHttp : Bytes → Except PyException ApplicationResult
  parseDns : Bytes → Except PyException ApplicationResult
  parseSmtp : Bytes → Except PyException ApplicationResult

/-- `IP_PROTO_TO_NAME.get`. -/
def ipProtoToName (number : PyValue) : Option Str :=
  match number with
  | .int 6 => some (lit "TCP")
  | .int 17 => some (lit "UDP")
  | _ => none

/-- `IDSEvent` with the defaults of all fields but the first ones. -/
def IDSEvent.new
    (packetId : Int)
    (timestamp : Option Time)
    (rawLength : Nat) :
    IDSEvent where
  packetId
  timestamp
  srcIp := none
  dstIp := none
  networkProtocol := none
  networkFields := .dict []
  srcPort := none
  dstPort := none
  transportProtocol := none
  transportFields := .dict []
  appProtocol := none
  detectionMethod := none
  appFields := .dict []
  rawLength := rawLength
  payloadLength := 0
  status := .ok
  errorInfo := none
  decodedFields := .dict []
  decodeStatus := none
  timestampIso := none
  preprocessStatus := none
  processingAction := none
  reason := []
  flowId := none
  direction := none
  flowState := none
  payload := .none

namespace LayerParsers

/-- Layer 7 parsing of `_parse_packet_layers`, for a detected protocol. -/
def parseApplication
    (parsers : LayerParsers)
    (event : IDSEvent)
    (appProto : Str)
    (appPayload : Bytes) :
    Except PyException IDSEvent := do
  let result ←
    if appProto = lit "HTTP" then
      some <$> parsers.parseHttp appPayload
    else if appProto = lit "DNS" then
      some <$> parsers.parseDns appPayload
    else if appProto = lit "SMTP" then
      some <$> parsers.parseSmtp appPayload
    else
      pure none
  match result with
  | none => return event
  | some result =>
      if result.status = .malformed then
        return { event with
          status := .malformed
          errorInfo := result.errorInfo }
      else
        return { event with
          appFields := result.appFields
          appProtocol := some (result.appProtocol.getD appProto) }

/-- Detection and layer 7 of `_parse_packet_layers`. -/
def detectApplication
    (parsers : LayerParsers)
    (unknownPolicy : Str)
    (event : IDSEvent)
    (appPayload : Bytes) :
    Except PyException IDSEvent := do
  let (appProto, method) ←
    parsers.detectApplicationProtocol appPayload
      event.srcPort event.dstPort event.packetId
  if appProto = lit "UNKNOWN" then
    if unknownPolicy = lit "skip" then
      return { event with status := .ignored }
    else
      return { event with
        appProtocol := some (lit "UNKNOWN")
        detectionMethod := method }
  else
    let detected := { event with
      appProtocol := some appProto
      detectionMethod := method }
    parsers.parseApplication detected appProto appPayload

/-- Layer 4 of `_parse_packet_layers`. -/
def parseTransport
    (parsers : LayerParsers)
    (unknownPolicy : Str)
    (event : IDSEvent)
    (transportProto : Str)
    (transportPayload : Bytes) :
    Except PyException IDSEvent := do
  let result ←
    if transportProto = lit "TCP" then
      parsers.parseTcp transportPayload
    else
      parsers.parseUdp transportPayload
  if result.status = .malformed then
    return { event with
      status := .malformed
      errorInfo := result.errorInfo }
  else
    let transported := { event with
      transportProtocol := result.transportProtocol
      srcPort := result.srcPort
      dstPort := result.dstPort
      transportFields := result.transportFields
      payload := .bytes result.appPayload }
    if result.appPayload = [] then
      return transported
    else
      parsers.detectApplication unknownPolicy transported result.appPayload

/-- Layer 3 of `_parse_packet_layers`. -/
def parseNetwork
    (parsers : LayerParsers)
    (unknownPolicy : Str)
    (event : IDSEvent)
    (raw : RawPacket) :
    Except PyException IDSEvent := do
  let result ← parsers.parseIpv4 raw
  match result.status with
  | .unknown => return { event with status := .unknown }
  | .malformed =>
      return { event with
        status := .malformed
        errorInfo := result.errorInfo }
  | .ok =>
      let networkFields := PyValue.dict (result.networkFields.getD [])
      let networked := { event with
        networkProtocol := result.networkProtocol
        srcIp := result.srcIp
        dstIp := result.dstIp
        networkFields
        payloadLength := result.transportPayload.length }
      let transportProto :=
        (networkFields.get? (lit "ip_proto_number")).bind ipProtoToName
      match transportProto with
      | none => return networked
      | some transportProto =>
          if result.transportPayload = [] then
            return networked
          else
            parsers.parseTransport unknownPolicy networked transportProto
              result.transportPayload

end LayerParsers

/--
`_parse_packet_layers`.  Until a layer has filled them, the three field
dictionaries of the event are `None`.
-/
def parsePacketLayers
    (parsers : LayerParsers)
    (timestamp : Option Time)
    (raw : RawPacket)
    (packetId : Int)
    (unknownPolicy : Str) :
    Except PyException IDSEvent := do
  let rawLength ← raw.len
  let event := { IDSEvent.new packetId timestamp rawLength with
    networkFields := .none
    transportFields := .none
    appFields := .none }
  parsers.parseNetwork unknownPolicy event raw

/-- The event of a packet whose parsing raised. -/
def parserFallback
    (timestamp : Option Time)
    (raw : RawPacket)
    (packetId : Int)
    (exception : PyException) :
    IDSEvent :=
  { IDSEvent.new packetId timestamp raw.byteLength with
    status := .malformed
    errorInfo := some {
      layer := lit "parser"
      detail := exception.describe } }

end IntrusionDetection
