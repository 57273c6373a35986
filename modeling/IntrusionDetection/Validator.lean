import IntrusionDetection.IpAddress
import IntrusionDetection.Normalizer

namespace IntrusionDetection

open PyText

/-!
# Validation

The checks that decide how far an event can be trusted.  Every check lists what
it found; the findings decide the verdict and give the reasons for it.
-/

/-- What the preprocessor needs of the interpreter. -/
structure PreprocessorTables where
  characters : CharacterTables
  floatOfText : Str → Option PyFloat
  floatOfOther : Nat → Option PyFloat
  isoFormat : ℚ → Option Str
  -- `str` of a float, a collection or an object of another type.
  strOf : PyObject → Except PyException Str
  -- The items of a set; other objects have none.
  setItems : Nat → List PyObject
  -- What looking up a method raises that the object does not have.
  noMethod : PyObject → Str → PyException

/-- What the preprocessor reads from an accepted configuration. -/
structure PreprocessorSettings where
  unsupportedPolicy : Str
  invalidPolicy : Str
  maxFutureTimestampSkewSec : ℚ

/-- A finding of the validator. -/
inductive Finding where
  -- The event cannot be trusted.
  | invalid (reason : Str)
  -- Some information is missing or degraded.
  | degraded (reason : Option Str)
  deriving DecidableEq

/-- The reason code of a finding. -/
def Finding.reason? : Finding → Option Str
  | .invalid reason => some reason
  | .degraded reason => reason

/-- Does the finding make the event invalid? -/
def Finding.isInvalid : Finding → Bool
  | .invalid _ => true
  | .degraded _ => false

/-- The verdict the findings lead to. -/
def statusOf (findings : List Finding) : PreprocessStatus :=
  if findings.any Finding.isInvalid then .invalid
  else if findings.isEmpty then .valid
  else .partiallyValid

/-- `sorted(list(reasons))`. -/
def reasonsOf (findings : List Finding) : List Str :=
  (findings.filterMap Finding.reason?).dedup.mergeSort
    fun first second => decide (first ≤ second)

/-! ### Reading fields -/

/-- `_as_dict`. -/
def asDict : PyObject → PyDict
  | .dict items => items
  | _ => []

/-- `dict.get(name)`. -/
def getItem (items : PyDict) (name : String) : PyObject :=
  (items.get? (fieldKey name)).getD .none

/-- `value is None` -/
def PyObject.isNone : PyObject → Bool
  | .none => true
  | _ => false

/-- `value == number` -/
def PyObject.isInt (number : Int) : PyObject → Bool
  | .bool value => (if value then 1 else 0) = number
  | .int value => value = number
  | .float value => value = .finite number
  | _ => false

namespace PreprocessorTables

variable (tables : PreprocessorTables)

/-- The tables of the normaliser. -/
def normalizer : NormalizerTables where
  characters := tables.characters
  floatOfText := tables.floatOfText
  floatOfOther := tables.floatOfOther
  isoFormat := tables.isoFormat
  compressed := IpAddress.compressed?

/-- `str(value)`. -/
def str : PyObject → Except PyException Str
  | .none => .ok (lit "None")
  | .bool value => .ok (if value then lit "True" else lit "False")
  | .int value => intText value
  | .str text => .ok text
  | value => tables.strOf value

/-! ### The checks -/

/-- `required_fields`. -/
def requiredFields (event : RawEvent) : List (Str × PyObject) :=
  [(lit "packet_id", event.packetId), (lit "timestamp", event.timestamp),
    (lit "src_ip", event.srcIp), (lit "dst_ip", event.dstIp),
    (lit "network_protocol", event.networkProtocol)]

/-- A required field that is `None` or empty. -/
def checkRequired (field : Str × PyObject) : List Finding :=
  if field.2.isNone || field.2.isText [] then
    [.invalid (lit "missing_" ++ field.1)]
  else
    []

/-- The network protocol, if there is one, has to be IPv4. -/
def checkNetwork (event : RawEvent) :
    Except PyException (List Finding) := do
  if event.networkProtocol.truthy then
    let netProtoRaw ← tables.str event.networkProtocol
    let netProtoUpper := upper netProtoRaw
    let netProtoStd :=
      (InsertionDict.get? protoAliases
        (tables.characters.lower netProtoUpper)).getD netProtoUpper
    if netProtoStd ≠ lit "IPv4" then
      return [.degraded (some (lit "unsupported_network:" ++ netProtoRaw))]
    else
      return []
  else
    return []

/-- An address that is a text has to be an address. -/
def checkAddress (field : Str) (address : PyObject) : List Finding :=
  match address with
  | .str [] => []
  | .str text =>
      if (IpAddress.compressed? (strip text)).isNone then
        [.invalid (lit "invalid_" ++ field)]
      else
        []
  | _ => []

/-- `trans_proto_upper`. -/
def transProtoUpper (event : RawEvent) :
    Except PyException (Option Str) := do
  if event.transportProtocol.truthy then
    return some (upper (← tables.str event.transportProtocol))
  else
    return none

/-- TCP or UDP. -/
def isTcpOrUdp (transProto : Option Str) : Bool :=
  transProto = some (lit "TCP") || transProto = some (lit "UDP")

/-- A port that is missing. -/
def checkPortGiven (field : Str) (port : PyObject) : List Finding :=
  if port.isNone then [.invalid (lit "missing_" ++ field)] else []

/-- The transport protocol has to be there and to be TCP or UDP. -/
def checkTransport (event : RawEvent) (transProto : Option Str) :
    Except PyException (List Finding) := do
  match transProto with
  | none =>
      let ipProto := getItem (asDict event.networkFields) "ip_proto_number"
      if ipProto.isInt 6 || ipProto.isInt 17 || ipProto.isNone then
        return [.degraded (some (lit "missing_transport"))]
      else if ipProto.isInt 1 then
        return [.degraded (some (lit "unsupported_transport:ICMP"))]
      else
        return [.degraded
          (some (lit "unsupported_transport:" ++ (← tables.str ipProto)))]
  | some _ =>
      if isTcpOrUdp transProto then
        return checkPortGiven (lit "src_port") event.srcPort ++
          checkPortGiven (lit "dst_port") event.dstPort
      else
        let transProtoRaw ← tables.str event.transportProtocol
        return [.degraded
          (some (lit "unsupported_transport:" ++ transProtoRaw))]

/-- `validate_port`. -/
def validatePort (field : Str) (port : PyObject) : List Finding :=
  match port with
  | .none => []
  | .int value =>
      if 0 ≤ value ∧ value ≤ 65535 then
        if value = 0 then
          [.degraded (some (lit "reserved_port_0"))]
        else
          []
      else
        [.invalid (lit "invalid_" ++ field)]
  | _ => [.invalid (lit "invalid_" ++ field)]

/-- The ports of TCP and UDP. -/
def checkPorts (event : RawEvent) (transProto : Option Str) :
    List Finding :=
  if isTcpOrUdp transProto then
    validatePort (lit "src_port") event.srcPort ++
      validatePort (lit "dst_port") event.dstPort
  else
    []

/-- A finite time after the epoch, at most a skew ahead of `now`. -/
def checkTime (settings : PreprocessorSettings) (now ts : ℚ) :
    List Finding :=
  if ts ≤ 0 then
    [.invalid (lit "invalid_timestamp")]
  else if now + settings.maxFutureTimestampSkewSec < ts then
    [.invalid (lit "future_timestamp")]
  else
    []

/-- The timestamp has to be a number, and no bool. -/
def checkTimestamp (settings : PreprocessorSettings) (now : ℚ) :
    PyObject → List Finding
  | .none => []
  | .int ts =>
      if fitsFloat ts then
        checkTime settings now ts
      else
        [.invalid (lit "invalid_timestamp")]
  | .float (.finite ts) => checkTime settings now ts
  | _ => [.invalid (lit "invalid_timestamp")]

/-- `_VALID_TCP_FLAGS`. -/
def validTcpFlags : List Str :=
  [lit "SYN", lit "ACK", lit "FIN", lit "RST", lit "PSH", lit "URG",
    lit "ECE", lit "CWR"]

/-- A text that names a flag in any letter case. -/
def isTcpFlag : PyObject → Bool
  | .str flag => validTcpFlags.contains (upper flag)
  | _ => false

/-- The flags of TCP. -/
def checkFlags (event : RawEvent) (transProto : Option Str) :
    List Finding :=
  if transProto = some (lit "TCP") then
    match getItem (asDict event.transportFields) "flags" with
    | .none => []
    | .list flags =>
        if flags.all isTcpFlag then
          []
        else
          [.invalid (lit "invalid_tcp_flags")]
    | _ => [.invalid (lit "invalid_tcp_flags")]
  else
    []

/-- A decoder that did not finish degrades the event. -/
def checkDecode (event : RawEvent) : List Finding :=
  if event.decodeStatus.isText (lit "PARTIAL") ||
      event.decodeStatus.isText (lit "FAILED") then
    [.degraded none]
  else
    []

/-- Everything that is found in an event the parser did not give up on. -/
def findings
    (settings : PreprocessorSettings)
    (now : ℚ)
    (event : RawEvent) :
    Except PyException (List Finding) := do
  let network ← tables.checkNetwork event
  let transProto ← tables.transProtoUpper event
  let transport ← tables.checkTransport event transProto
  return (requiredFields event).flatMap checkRequired ++
    network ++
    checkAddress (lit "src_ip") event.srcIp ++
    checkAddress (lit "dst_ip") event.dstIp ++
    transport ++
    checkPorts event transProto ++
    checkTimestamp settings now event.timestamp ++
    checkFlags event transProto ++
    checkDecode event

/-- The reason for rejecting what the parser found to be malformed. -/
def malformedReason (event : RawEvent) : Except PyException Str := do
  if event.errorInfo.truthy then
    match event.errorInfo with
    | .dict errorInfo =>
        match PyDict.get? errorInfo (fieldKey "layer") with
        | some layer => return lit "malformed_" ++ (← tables.str layer)
        | none => return lit "malformed_unknown_layer"
    | errorInfo => throw (tables.noMethod errorInfo (lit "get"))
  else
    return lit "malformed_unknown_layer"

/-- `validate`. -/
def validate
    (settings : PreprocessorSettings)
    (now : ℚ)
    (event : RawEvent) :
    Except PyException (PreprocessStatus × List Str) := do
  if event.status.isText (lit "MALFORMED") then
    return (.invalid, [← tables.malformedReason event])
  else if event.status.isText (lit "UNKNOWN") then
    return (.partiallyValid, [lit "unsupported_network"])
  else
    let findings ← tables.findings settings now event
    return (statusOf findings, reasonsOf findings)

end PreprocessorTables

end IntrusionDetection
