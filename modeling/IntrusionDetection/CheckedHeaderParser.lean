import IntrusionDetection.RuleObjects
import IntrusionDetection.RuleParser

namespace IntrusionDetection.Checked

open PyText

/-!
# Rule header with its exceptions

The tokenizer and the header parsers as the source runs them: texts are looked
up in tables, numbers and bytes are converted by calls that may raise, every
object goes through the check of its constructor, and handlers catch what they
name and nothing else.
-/

/-! ### The standard library -/

/-- `int` on a run of decimal digits. -/
def int (text : Str) : Parser Int :=
  match intOfDigits? text with
  | some number => pure number
  | none => throw .valueError

/-- `bytes.fromhex`. -/
def fromHex (digits : Str) : Parser Bytes :=
  match digits.mapM hexDigit? with
  | none => throw .valueError
  | some values =>
      if values.length % 2 = 0 then
        pure (bytesFromHex values)
      else
        throw .valueError

/-- `text.encode("utf-8")`. -/
def encode (text : Str) : Parser Bytes :=
  match utf8? text with
  | some encoded => pure encoded
  | none => throw .unicodeEncodeError

/-- A network as `ipaddress` returns it. -/
inductive Network where
  | v4 (network mask : Ipv4.Address)
  | v6

/--
`ipaddress.ip_network(token, strict=False)` on a block with a decimal prefix;
what it reads as an IPv6 network is left open.
-/
def ipNetwork (isIpv6Network : Str → Bool) (token : Str) :
    Parser Network :=
  let (address, digits) := partition (codePoint '/') token
  match Ipv4.parse? address, prefixLength? digits with
  | some word, some length =>
      pure (.v4 (word &&& netmask length) (netmask length))
  | _, _ => if isIpv6Network token then pure .v6 else throw .valueError

/-! ### Structure -/

/-- A key and its value, as the tokenizer returns them. -/
abbrev RawOption := Str × Option Str

/-- The option a piece is; an empty piece is none. -/
def pieceOption? (piece : Str) : Parser (Option RawOption) :=
  if strip piece = [] then
    pure none
  else
    let (key, value) := partition (codePoint ':') (strip piece)
    if strip key = [] then
      raise (lit "invalid:malformed_rule")
    else
      pure (some (strip key, value.map strip))

/-- `_split_options`. -/
def splitOptions (body : Str) : Parser (List RawOption) :=
  match splitPieces false [] body with
  | none => raise (lit "invalid:malformed_rule")
  | some pieces => do
      let options ← pieces.mapM pieceOption?
      return options.reduceOption

/-- `tokenize_rule`. -/
def tokenizeRule (text : Str) : Parser (List Str × List RawOption) :=
  let text := strip text
  match PyText.find? (codePoint '(') text, rfind? (codePoint ')') text with
  | some openIdx, some closeIdx =>
      if closeIdx < openIdx ∨ strip (text.drop (closeIdx + 1)) ≠ [] then
        raise (lit "invalid:malformed_rule")
      else do
        let options ←
          splitOptions ((text.take closeIdx).drop (openIdx + 1))
        let headerTokens := words (text.take openIdx)
        if headerTokens.length ≠ 7 then
          raise (lit "invalid:bad_header")
        else
          return (headerTokens, options)
  | _, _ => raise (lit "invalid:malformed_rule")

/-! ### Header -/

/-- `parse_ip`. -/
def parseIp (isIpv6Network : Str → Bool) (token : Str) :
    Parser IpSpec :=
  if token = lit "any" then
    make .ipSpec { any := true, network := 0, mask := 0 }
  else if unsupportedSyntax token then
    raise (lit "unsupported:ip_syntax")
  else if (partition (codePoint '/') token).2.any
      fun digits => !isAsciiDigits digits then
    raise (lit "invalid:bad_ip")
  else do
    let network ←
      exceptValueError (ipNetwork isIpv6Network token)
        (raise (lit "invalid:bad_ip"))
    match network with
    | .v6 => raise (lit "invalid:bad_ip")
    | .v4 network mask =>
        make .ipSpec {
          any := false
          network := network.toNat
          mask := mask.toNat }

/-- `_port_number`. -/
def portNumber (text : Str) (default : Option Int) : Parser Int :=
  match text, default with
  | [], some default => pure default
  | _, _ =>
      if isAsciiDigits text then
        int text
      else
        throw .valueError

/-- The end of `parse_port`: both numbers and the range they make. -/
def portRange (lo hi : Parser Int) : Parser PortSpec := do
  let ends ←
    exceptValueError
      (do
        let lo ← lo
        let hi ← hi
        return (lo, hi))
      (raise (lit "invalid:bad_port"))
  if 0 ≤ ends.1 ∧ ends.1 ≤ ends.2 ∧ ends.2 ≤ portMax then
    make .portSpec { lo := ends.1, hi := ends.2 }
  else
    raise (lit "invalid:bad_port")

/-- `parse_port`. -/
def parsePort (token : Str) : Parser PortSpec :=
  if token = lit "any" then
    make .portSpec { lo := 0, hi := portMax }
  else if unsupportedSyntax token then
    raise (lit "unsupported:port_syntax")
  else
    match partition (codePoint ':') token with
    | (single, none) =>
        portRange (portNumber single none)
          (portNumber single (some portMax))
    | (loText, some hiText) =>
        if codePoint ':' ∈ hiText ∨ (loText = [] ∧ hiText = []) then
          raise (lit "invalid:bad_port")
        else
          portRange (portNumber loText (some 0))
            (portNumber hiText (some portMax))

/-- `parse_action`. -/
def parseAction (token : Str) : Parser Str :=
  if ruleActions.contains token then
    pure token
  else if unsupportedActions.contains token then
    raise (lit "unsupported:action:" ++ token)
  else
    raise (lit "invalid:bad_header")

/-- `parse_protocol`. -/
def parseProtocol (token : Str) : Parser Str :=
  if ruleProtocols.contains token then
    pure token
  else if unsupportedProtocols.contains token then
    raise (lit "unsupported:protocol:" ++ token)
  else
    raise (lit "invalid:bad_header")

/-- `parse_direction`. -/
def parseDirection (token : Str) : Parser Str :=
  if ruleDirections.contains token then
    pure token
  else
    raise (lit "invalid:bad_direction")

/-- `Header`. -/
structure Header where
  action : Str
  protocol : Str
  srcIp : IpSpec
  srcPort : PortSpec
  direction : Str
  dstIp : IpSpec
  dstPort : PortSpec

/-- Does a reason begin with `invalid:`? -/
def isInvalidReason (reason : Str) : Bool :=
  startsWith (lit "invalid:") reason

/-- One round of the loop of `parse_header`. -/
def headerField
    {Field : Type}
    (parse : Parser Field)
    (firstUnsupported : Option Str) :
    Parser (Option Field × Option Str) :=
  exceptRuleSyntaxError
    (do
      let value ← parse
      return (some value, firstUnsupported))
    fun reason =>
      if isInvalidReason reason then
        throw (.ruleSyntaxError reason)
      else
        return (none, firstUnsupported.or (some reason))

/-- `Header(*values)`; a missing value is a `TypeError`. -/
def headerOf
    (action protocol : Option Str)
    (srcIp : Option IpSpec)
    (srcPort : Option PortSpec)
    (direction : Option Str)
    (dstIp : Option IpSpec)
    (dstPort : Option PortSpec) :
    Parser Header :=
  match action, protocol, srcIp, srcPort, direction, dstIp, dstPort with
  | some action, some protocol, some srcIp, some srcPort,
      some direction, some dstIp, some dstPort =>
      return { action, protocol, srcIp, srcPort, direction, dstIp, dstPort }
  | _, _, _, _, _, _, _ => throw .typeError

/-- `parse_header`. -/
def parseHeader (isIpv6Network : Str → Bool) (tokens : List Str) :
    Parser Header :=
  match tokens with
  | [action, protocol, srcIp, srcPort, direction, dstIp, dstPort] => do
      let action ← headerField (parseAction action) none
      let protocol ← headerField (parseProtocol protocol) action.2
      let srcIp ← headerField (parseIp isIpv6Network srcIp) protocol.2
      let srcPort ← headerField (parsePort srcPort) srcIp.2
      let direction ← headerField (parseDirection direction) srcPort.2
      let dstIp ← headerField (parseIp isIpv6Network dstIp) direction.2
      let dstPort ← headerField (parsePort dstPort) dstIp.2
      match dstPort.2 with
      | some reason => throw (.ruleSyntaxError reason)
      | none =>
          headerOf action.1 protocol.1 srcIp.1 srcPort.1 direction.1
            dstIp.1 dstPort.1
  | _ => raise (lit "invalid:bad_header")

end IntrusionDetection.Checked
