import IntrusionDetection.Event
import IntrusionDetection.ProtocolDetector
import IntrusionDetection.Utf8Decoding

namespace IntrusionDetection

open PyText

/-!
# The DNS parser

`parse_dns` checks the header of a message before it trusts the dissection of
the packet library.  What the library makes of the bytes is a parameter.
-/

/-- A question of a message; a name that is missing has no bytes. -/
structure DnsQuestion where
  qname : Bytes
  qtype : Nat

/-- A part of the data of a record: bytes, or the text of anything else. -/
inductive RecordPart where
  | bytes (data : Bytes)
  | other (text : Str)

/-- The data of a record. -/
inductive RecordData where
  | parts (parts : List RecordPart)
  | single (part : RecordPart)

/-- A resource record of a message. -/
structure DnsRecord where
  rrname : Bytes
  type : Nat
  rdata : RecordData

/--
What the packet library finds in a message.  An element of the two lists that
is neither a question nor a record is `none`.
-/
structure DnsMessage where
  id : Nat
  qr : Nat
  rcode : Nat
  qd : List (Option DnsQuestion)
  an : List (Option DnsRecord)

/-- One of `queries`. -/
structure DnsQuery where
  name : Str
  qtype : Str
  deriving DecidableEq

/-- One of `answers`. -/
structure DnsAnswer where
  name : Str
  type : Str
  data : Str
  deriving DecidableEq

/-- `app_fields` of a DNS packet. -/
structure DnsFields where
  transactionId : Nat
  isResponse : Bool
  rcode : Nat
  queries : List DnsQuery
  answers : List DnsAnswer
  deriving DecidableEq

namespace DnsParser

open ProtocolDetector

/-- `DNS_TYPES`. -/
def dnsTypes : List (Nat × Str) :=
  [(1, lit "A"), (2, lit "NS"), (5, lit "CNAME"), (15, lit "MX"),
    (16, lit "TXT"), (28, lit "AAAA"), (33, lit "SRV"), (255, lit "ANY")]

/-- `_get_dns_type`. -/
def getDnsType (number : Nat) : Str :=
  (InsertionDict.get? dnsTypes number).getD
    (lit "UNKNOWN(" ++ ofInt number ++ lit ")")

/-- `_looks_like_dns_header`. -/
def looksLikeDnsHeader (raw : Bytes) : Bool :=
  match unpackHeader? (raw.take 12) with
  | some header => header.isUsual && header.qdcount ≤ 100
  | none => false

/-- `text.rstrip('.')`. -/
def rstripDots (text : Str) : Str :=
  text.rdropWhile (· = codePoint '.')

/-- The name as it is logged. -/
def nameOf (name : Bytes) : Str :=
  rstripDots (decodeUtf8Ignore name)

/-- The text of a part of the data. -/
def partText : RecordPart → Str
  | .bytes data => decodeUtf8Ignore data
  | .other text => text

/-- `rdata_str`. -/
def dataText : RecordData → Str
  | .parts parts => (lit " ").intercalate (parts.map partText)
  | .single part => partText part

/-- The fields of a message. -/
def fieldsOf (message : DnsMessage) : DnsFields where
  transactionId := message.id
  isResponse := message.qr = 1
  rcode := message.rcode
  queries := message.qd.reduceOption.map fun question =>
    { name := nameOf question.qname
      qtype := getDnsType question.qtype }
  answers :=
    if message.qr = 1 then
      message.an.reduceOption.map fun record =>
        { name := nameOf record.rrname
          type := getDnsType record.type
          data := rstripDots (dataText record.rdata) }
    else
      []

/-- The checks before the dissection; the text is that of the `ValueError`. -/
def headerFault? (raw : Bytes) : Option Str :=
  if raw.length < 12 then
    some (lit "Payload too short to be a valid DNS packet (" ++
      ofInt raw.length ++ lit " bytes).")
  else if !looksLikeDnsHeader raw then
    some (lit "Payload does not have a valid DNS header structure " ++
      lit "(unusual opcode/reserved bits).")
  else
    none

end DnsParser

/-- `parse_dns`: an exception becomes a result. -/
def parseDns
    (dissect : Bytes → Except Str DnsMessage)
    (raw : Bytes) :
    Except ErrorInfo DnsFields :=
  let layer := lit "parse_dns"
  match DnsParser.headerFault? raw with
  | some detail => .error { layer, detail }
  | none =>
      match dissect raw with
      | .ok message => .ok (DnsParser.fieldsOf message)
      | .error detail => .error { layer, detail }

namespace DnsParser

open ProtocolDetector

/-- A payload of twelve bytes has a header. -/
theorem exists_unpackHeader?
    {raw : Bytes}
    (long : 12 ≤ raw.length) :
    ∃ header, unpackHeader? (raw.take 12) = some header := by
  have isTwelve : (raw.take 12).length = 12 := by
    rw [List.length_take, Nat.min_eq_left long]
  generalize raw.take 12 = front at isTwelve ⊢
  match front, isTwelve with
  | [_, _, flags, flags', count, count', _, _, _, _, _, _], _ =>
      exact ⟨_, rfl⟩

/--
What is detected as DNS are exactly the messages the parser passes to the
packet library that have one to ten questions.
-/
theorem looksLikeDns_iff (payload : Bytes) :
    looksLikeDns payload = true ↔
      headerFault? payload = none ∧
        ∃ header,
          unpackHeader? (payload.take 12) = some header ∧
            1 ≤ header.qdcount ∧ header.qdcount ≤ 10 := by
  by_cases long : 12 ≤ payload.length
  · obtain ⟨header, isHeader⟩ := exists_unpackHeader? long
    have notShort : ¬ payload.length < 12 :=
      Nat.not_lt.mpr long
    simp only [looksLikeDns, if_pos long, isHeader, headerFault?,
      if_neg notShort, looksLikeDnsHeader, Option.some.injEq,
      exists_eq_left', Bool.and_eq_true, decide_eq_true_eq]
    constructor
    · rintro ⟨⟨usual, some_⟩, few⟩
      refine ⟨?_, some_, few⟩
      rw [if_neg]
      simpa [usual] using Nat.le_trans few (by decide)
    · rintro ⟨noFault, some_, few⟩
      refine ⟨⟨?_, some_⟩, few⟩
      by_contra unusual
      rw [if_pos] at noFault
      · cases noFault
      · simp [Bool.eq_false_of_not_eq_true unusual]
  · have isShort : payload.length < 12 :=
      Nat.lt_of_not_le long
    simp [looksLikeDns, long, headerFault?, isShort]

end DnsParser

end IntrusionDetection
