import IntrusionDetection.PyText

/-!
# IPv4 addresses

Reading dotted IPv4 addresses the way the `ipaddress` module does: four octets
of one to three ASCII digits, without leading zeros and at most 255.
-/

namespace Ipv4

open PyText

/-- An IPv4 address as one word. -/
abbrev Address := BitVec 32

/-- `_parse_octet`. -/
def parseOctet? (octet : Str) : Option Nat :=
  if isAsciiDigits octet ∧ octet.length ≤ 3 ∧
      (octet = lit "0" ∨ octet.head? ≠ some (codePoint '0')) ∧
      digitsValue octet ≤ 255 then
    some (digitsValue octet)
  else
    none

/-- The word made of four octets, the first one most significant. -/
def ofOctets (octets : List Nat) : Address :=
  BitVec.ofNat 32 (octets.foldl (fun word octet => 256 * word + octet) 0)

/-- `int(IPv4Address(text))`; `none` is its `ValueError`. -/
def parse? (text : Str) : Option Address :=
  let octets := PyText.splitAt (codePoint '.') text
  if octets.length = 4 then
    (octets.mapM parseOctet?).map ofOctets
  else
    none

end Ipv4
