import IntrusionDetection.FaultPrecedence
import IntrusionDetection.Ipv4
import IntrusionDetection.RuleTokenizer

namespace IntrusionDetection

open PyText FaultPrecedence

/-!
# Rule header

The parsers of the seven header fields.  A field is either wrong or uses syntax
outside the supported subset; the header as a whole reports the first wrong
field, or else the first unsupported one.
-/

/-- Does a field begin with `$`, `!` or `[`? -/
def unsupportedSyntax (token : Str) : Bool :=
  startsWith (lit "$") token || startsWith (lit "!") token ||
    startsWith (lit "[") token

/-- The prefix length of a block; an address alone has the longest one. -/
def prefixLength? : Option Str → Option Nat
  | none => some 32
  | some digits =>
      if isAsciiDigits digits then
        (intOfDigits? digits).filter (· ≤ 32)
      else
        none

/-- The netmask of a prefix length. -/
def netmask (length : Nat) : Ipv4.Address :=
  BitVec.allOnes 32 <<< (32 - length)

/-- `parse_ip`. -/
def parseIp (token : Str) : Except RuleReason IpSpec :=
  if token = lit "any" then
    .ok { any := true, network := 0, mask := 0 }
  else if unsupportedSyntax token then
    .error .ipSyntax
  else
    let (address, digits) := partition (codePoint '/') token
    match Ipv4.parse? address, prefixLength? digits with
    | some word, some length =>
        -- Host bits are cleared.
        .ok {
          any := false
          network := word &&& netmask length
          mask := netmask length }
    | _, _ => .error .badIp

/-- `_port_number`; `none` is its `ValueError`. -/
def portNumber? (text : Str) (default : Option Int) : Option Int :=
  match text, default with
  | [], some default => some default
  | _, _ =>
      if isAsciiDigits text then
        (intOfDigits? text).map Int.ofNat
      else
        none

/-- The port range with the given ends. -/
def portRange (lo hi : Option Int) : Except RuleReason PortSpec :=
  match lo, hi with
  | some lo, some hi =>
      if inRange : 0 ≤ lo ∧ lo ≤ hi ∧ hi ≤ portMax then
        .ok { lo, hi, inRange }
      else
        .error .badPort
  | _, _ => .error .badPort

/-- `parse_port`. -/
def parsePort (token : Str) : Except RuleReason PortSpec :=
  if token = lit "any" then
    .ok { lo := 0, hi := portMax, inRange := by decide }
  else if unsupportedSyntax token then
    .error .portSyntax
  else
    match partition (codePoint ':') token with
    | (single, none) =>
        portRange (portNumber? single none)
          (portNumber? single (some portMax))
    | (loText, some hiText) =>
        if codePoint ':' ∈ hiText ∨ (loText = [] ∧ hiText = []) then
          .error .badPort
        else
          portRange (portNumber? loText (some 0))
            (portNumber? hiText (some portMax))

/-- `UNSUPPORTED_ACTIONS`. -/
def unsupportedActions : List Str :=
  [lit "drop", lit "reject", lit "pass", lit "log", lit "sdrop",
    lit "activate", lit "dynamic"]

/-- `UNSUPPORTED_PROTOCOLS`. -/
def unsupportedProtocols : List Str :=
  [lit "icmp", lit "icmpv6", lit "http", lit "dns", lit "smtp",
    lit "ftp", lit "ssh", lit "tls", lit "ssl", lit "smb", lit "pop3",
    lit "imap", lit "telnet", lit "snmp", lit "sip", lit "tftp",
    lit "ntp", lit "dhcp", lit "rdp"]

/-- Unsupported actions have a name. -/
theorem unsupportedActions_ne_nil :
    ∀ token ∈ unsupportedActions, token ≠ [] := by
  decide

/-- Unsupported protocols have a name. -/
theorem unsupportedProtocols_ne_nil :
    ∀ token ∈ unsupportedProtocols, token ≠ [] := by
  decide

/-- `parse_action`; the only supported action is `alert`. -/
def parseAction (token : Str) : Except RuleReason Unit :=
  if token = lit "alert" then
    .ok ()
  else if known : token ∈ unsupportedActions then
    .error (.action ⟨token, unsupportedActions_ne_nil token known⟩)
  else
    .error .badHeader

/-- `parse_protocol`. -/
def parseProtocol (token : Str) : Except RuleReason RuleProtocol :=
  if token = RuleProtocol.tcp.name then
    .ok .tcp
  else if token = RuleProtocol.udp.name then
    .ok .udp
  else if token = RuleProtocol.ip.name then
    .ok .ip
  else if known : token ∈ unsupportedProtocols then
    .error (.protocol ⟨token, unsupportedProtocols_ne_nil token known⟩)
  else
    .error .badHeader

/-- `parse_direction`. -/
def parseDirection (token : Str) : Except RuleReason RuleDirection :=
  if token = lit "->" then
    .ok .oneWay
  else if token = lit "<>" then
    .ok .bothWays
  else
    .error .badDirection

/-- `Header`. -/
structure Header where
  protocol : RuleProtocol
  srcIp : IpSpec
  srcPort : PortSpec
  direction : RuleDirection
  dstIp : IpSpec
  dstPort : PortSpec

/-- What the parsers of the fields raise, in header order. -/
def fieldFaults (tokens : HeaderTokens) : List (Option RuleReason) :=
  [errorOf (parseAction tokens.action),
    errorOf (parseProtocol tokens.protocol),
    errorOf (parseIp tokens.srcIp),
    errorOf (parsePort tokens.srcPort),
    errorOf (parseDirection tokens.direction),
    errorOf (parseIp tokens.dstIp),
    errorOf (parsePort tokens.dstPort)]

/--
The loop of `parse_header`: raise an invalid field at once, and the first
unsupported one after the last field.
-/
def headerLoop (firstUnsupported : Option RuleReason) :
    List (Option RuleReason) → Except RuleReason Unit
  | [] =>
      match firstUnsupported with
      | some reason => .error reason
      | none => .ok ()
  | none :: rest => headerLoop firstUnsupported rest
  | some reason :: rest =>
      if reason.isInvalid then
        .error reason
      else
        headerLoop (firstUnsupported.or (some reason)) rest

/-- `parse_header`. -/
def parseHeader (tokens : HeaderTokens) : Except RuleReason Header := do
  headerLoop none (fieldFaults tokens)
  let protocol ← parseProtocol tokens.protocol
  let srcIp ← parseIp tokens.srcIp
  let srcPort ← parsePort tokens.srcPort
  let direction ← parseDirection tokens.direction
  let dstIp ← parseIp tokens.dstIp
  let dstPort ← parsePort tokens.dstPort
  return { protocol, srcIp, srcPort, direction, dstIp, dstPort }

end IntrusionDetection
