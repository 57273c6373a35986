import IntrusionDetection.InsertionDict
import IntrusionDetection.PyText

namespace IntrusionDetection

open PyText

/-!
# Detection of the application protocol

`detect_application_protocol` takes the protocol from the first bytes of the
payload, and only if they tell nothing from the ports.  The signatures of the
three protocols exclude each other, so that the order in which they are tried
does not matter.
-/

/-- A protocol that can be told by the payload. -/
inductive PayloadProtocol where
  | http
  | smtp
  | dns
  deriving Repr, DecidableEq

/-- The name of the protocol. -/
def PayloadProtocol.name : PayloadProtocol → Str
  | .http => lit "HTTP"
  | .smtp => lit "SMTP"
  | .dns => lit "DNS"

/-- What is reported where nothing was detected. -/
def unknownProtocol : Str := lit "UNKNOWN"

namespace ProtocolDetector

/-- The bytes of an ASCII text. -/
def signature (text : String) : Bytes :=
  text.toList.map fun char => UInt8.ofNat char.toNat

/-- `HTTP_SIGNATURES`. -/
def httpSignatures : List Bytes :=
  [signature "GET ", signature "POST ", signature "PUT ",
    signature "DELETE ", signature "HEAD ", signature "OPTIONS ",
    signature "HTTP/1.", signature "HTTP/2"]

/-- The commands of an SMTP client that are recognised. -/
def smtpSignatures : List Bytes :=
  [signature "HELO ", signature "EHLO ", signature "MAIL FROM:",
    signature "RCPT TO:"]

/-- A digit, as `\d` matches it in bytes. -/
def isDigitByte (byte : UInt8) : Bool :=
  0x30 ≤ byte.toNat && byte.toNat ≤ 0x39

/-- `SMTP_REPLY_PATTERN.match`. -/
def isSmtpReply (payload : Bytes) : Bool :=
  match payload with
  | first :: second :: third :: separator :: _ =>
      isDigitByte first && isDigitByte second && isDigitByte third &&
        (separator = 0x20 || separator = 0x2D)
  | _ => false

/-- The words of a DNS header that are looked at. -/
structure DnsHeader where
  flags : Nat
  qdcount : Nat
  deriving Repr, DecidableEq

/-- `struct.unpack("!HHHHHH", ...)`; `none` is its `struct.error`. -/
def unpackHeader? (bytes : Bytes) : Option DnsHeader :=
  match bytes with
  | [_, _, flags, flags', count, count', _, _, _, _, _, _] =>
      some {
        flags := 256 * flags.toNat + flags'.toNat
        qdcount := 256 * count.toNat + count'.toNat }
  | _ => none

namespace DnsHeader

/-- `opcode`. -/
def opcode (header : DnsHeader) : Nat :=
  header.flags >>> 11 &&& 0xF

/-- `z_reserved`. -/
def zReserved (header : DnsHeader) : Nat :=
  header.flags >>> 4 &&& 0x7

/-- Are opcode and reserved bits those of a usual message? -/
def isUsual (header : DnsHeader) : Bool :=
  [0, 1, 2].contains header.opcode && header.zReserved == 0

end DnsHeader

/-- The DNS heuristic. -/
def looksLikeDns (payload : Bytes) : Bool :=
  if 12 ≤ payload.length then
    match unpackHeader? (payload.take 12) with
    | some header =>
        header.isUsual && 0 < header.qdcount && header.qdcount ≤ 10
    | none => false
  else
    false

/-- `detect_protocol_by_payload`. -/
def detectProtocolByPayload (payload : Bytes) : Option PayloadProtocol :=
  if payload.isEmpty then
    none
  else if httpSignatures.any (List.isPrefixOf · payload) then
    some .http
  else if smtpSignatures.any (List.isPrefixOf · payload) then
    some .smtp
  else if isSmtpReply payload then
    some .smtp
  else if looksLikeDns payload then
    some .dns
  else
    none

/-- `detect_protocol_by_port`, for the table `KNOWN_PORTS`. -/
def detectProtocolByPort
    (knownPorts : List (Int × Str))
    (srcPort dstPort : Option Int) :
    Str :=
  ((dstPort.bind (InsertionDict.get? knownPorts)).or
    (srcPort.bind (InsertionDict.get? knownPorts))).getD unknownProtocol

/-- `detect_application_protocol`: the protocol, and how it was told. -/
def detectApplicationProtocol
    (knownPorts : List (Int × Str))
    (payload : Bytes)
    (srcPort dstPort : Option Int) :
    Str × Option Str :=
  let portProto := detectProtocolByPort knownPorts srcPort dstPort
  match detectProtocolByPayload payload with
  | some payloadProto =>
      if portProto = payloadProto.name then
        (payloadProto.name, some (lit "port+payload"))
      else
        (payloadProto.name, some (lit "payload"))
  | none =>
      if portProto ≠ unknownProtocol then
        (portProto, some (lit "port"))
      else
        (unknownProtocol, none)

/-! ### Signatures -/

/-- Does the payload carry the signature of the protocol? -/
def fits (payload : Bytes) : PayloadProtocol → Bool
  | .http => httpSignatures.any (List.isPrefixOf · payload)
  | .smtp =>
      smtpSignatures.any (List.isPrefixOf · payload) || isSmtpReply payload
  | .dns => looksLikeDns payload

/-- The texts at the front of a payload with one of the signatures. -/
def Begins (signatures : List Bytes) (payload : Bytes) : Prop :=
  ∃ known ∈ signatures, known <+: payload

theorem any_isPrefixOf_iff
    (signatures : List Bytes)
    (payload : Bytes) :
    signatures.any (List.isPrefixOf · payload) = true ↔
      Begins signatures payload := by
  simp [Begins, List.any_eq_true]

/-- The opcode of a message is in its third byte. -/
theorem opcode_of_third
    {header : DnsHeader}
    {third fourth : UInt8}
    (flags : header.flags = 256 * third.toNat + fourth.toNat) :
    header.opcode = third.toNat / 8 % 16 := by
  have low := fourth.toNat_lt
  rw [DnsHeader.opcode, flags, Nat.shiftRight_eq_div_pow,
    Nat.and_two_pow_sub_one_eq_mod _ 4]
  omega

/-- The opcode of what looks like DNS is usual, and told by the third byte. -/
theorem third_of_looksLikeDns
    {payload : Bytes}
    (looks : looksLikeDns payload = true) :
    ∃ third, payload[2]? = some third ∧ third.toNat / 8 % 16 ≤ 2 := by
  unfold looksLikeDns at looks
  split at looks
  · split at looks
    · rename_i header unpacked
      have usual :
          header.opcode = 0 ∨ header.opcode = 1 ∨ header.opcode = 2 := by
        simp only [DnsHeader.isUsual, Bool.and_eq_true,
          List.contains_eq_mem, decide_eq_true_eq, List.mem_cons,
          List.not_mem_nil, or_false] at looks
        exact looks.1.1.1
      unfold unpackHeader? at unpacked
      split at unpacked
      · rename_i _ _ third fourth _ _ _ _ _ _ _ _ front
        cases unpacked
        refine ⟨third, ?_, ?_⟩
        · have within : payload[2]? = (payload.take 12)[2]? :=
            (List.getElem?_take_of_lt (by decide)).symm
          rw [within, front]
          rfl
        · rw [opcode_of_third rfl] at usual
          omega
      · cases unpacked
    · cases looks
  · cases looks

/-- What begins with a signature has its bytes. -/
theorem byte_of_begins
    {signatures : List Bytes}
    {payload : Bytes}
    {position : Nat}
    {allowed : UInt8 → Bool}
    (begun : Begins signatures payload)
    (bytes :
      signatures.all (fun known => known[position]?.any allowed) = true) :
    ∃ byte, payload[position]? = some byte ∧ allowed byte = true := by
  obtain ⟨known, member, rest, rfl⟩ := begun
  obtain ⟨byte, isByte, isAllowed⟩ :=
    (Option.any_eq_true _ _).mp (List.all_eq_true.mp bytes known member)
  obtain ⟨inside, _⟩ := List.getElem?_eq_some_iff.mp isByte
  refine ⟨byte, ?_, isAllowed⟩
  rw [List.getElem?_append_left inside]
  exact isByte

/-- A reply has a digit for its first and its third byte. -/
theorem digits_of_isSmtpReply
    {payload : Bytes}
    (isReply : isSmtpReply payload = true) :
    (∃ first, payload[0]? = some first ∧ isDigitByte first = true) ∧
      ∃ third, payload[2]? = some third ∧ isDigitByte third = true := by
  unfold isSmtpReply at isReply
  split at isReply
  · simp only [Bool.and_eq_true] at isReply
    exact ⟨⟨_, rfl, isReply.1.1.1⟩, ⟨_, rfl, isReply.1.2⟩⟩
  · cases isReply

/-- What looks like DNS carries no signature of the other protocols. -/
theorem not_looksLikeDns
    {payload : Bytes}
    {third : UInt8}
    (isThird : payload[2]? = some third)
    (unusual : 2 < third.toNat / 8 % 16) :
    looksLikeDns payload = false := by
  by_contra looks
  obtain ⟨other, isOther, usual⟩ :=
    third_of_looksLikeDns (Bool.eq_true_of_not_eq_false looks)
  rw [isThird] at isOther
  cases isOther
  omega

/-- No payload begins with two signatures that exclude each other. -/
theorem not_begins_both
    {first second : List Bytes}
    {payload : Bytes}
    (apart :
      first.all (fun known => second.all fun other =>
        !known.isPrefixOf other && !other.isPrefixOf known) = true)
    (begun : Begins first payload) :
    ¬ Begins second payload := by
  rintro ⟨other, isOther, otherBegins⟩
  obtain ⟨known, isKnown, knownBegins⟩ := begun
  have exclude :=
    List.all_eq_true.mp (List.all_eq_true.mp apart known isKnown) other
      isOther
  rw [Bool.and_eq_true, Bool.not_eq_true', Bool.not_eq_true',
    ← Bool.not_eq_true, ← Bool.not_eq_true, List.isPrefixOf_iff_prefix,
    List.isPrefixOf_iff_prefix] at exclude
  rcases List.prefix_or_prefix_of_prefix knownBegins otherBegins with
    shorter | longer
  · exact exclude.1 shorter
  · exact exclude.2 longer

/-- An unusual opcode in the third byte. -/
def isUnusualThird (third : UInt8) : Bool :=
  2 < third.toNat / 8 % 16

/-- A payload carries the signature of one protocol at most. -/
theorem fits_unique
    {payload : Bytes}
    {first second : PayloadProtocol}
    (firstFits : fits payload first = true)
    (secondFits : fits payload second = true) :
    first = second := by
  have notDns :
      ∀ {third : UInt8},
        payload[2]? = some third → isUnusualThird third = true →
          fits payload .dns = false :=
    fun isThird unusual =>
      not_looksLikeDns isThird (of_decide_eq_true unusual)
  have httpNotDns :
      fits payload .http = true → fits payload .dns = false := by
    intro isHttp
    obtain ⟨third, isThird, unusual⟩ :=
      @byte_of_begins _ _ 2 isUnusualThird
        ((any_isPrefixOf_iff _ _).mp isHttp) (by decide)
    exact notDns isThird unusual
  have smtpNotDns :
      fits payload .smtp = true → fits payload .dns = false := by
    intro isSmtp
    rcases Bool.or_eq_true_iff.mp isSmtp with isCommand | isReply
    · obtain ⟨third, isThird, unusual⟩ :=
        @byte_of_begins _ _ 2 isUnusualThird
          ((any_isPrefixOf_iff _ _).mp isCommand) (by decide)
      exact notDns isThird unusual
    · obtain ⟨_, third, isThird, isDigit⟩ := digits_of_isSmtpReply isReply
      refine notDns isThird (decide_eq_true ?_)
      simp only [isDigitByte, Bool.and_eq_true, decide_eq_true_eq]
        at isDigit
      omega
  have httpNotSmtp :
      fits payload .http = true → fits payload .smtp = false := by
    intro isHttp
    have begun := (any_isPrefixOf_iff _ _).mp isHttp
    by_contra isSmtp
    rcases Bool.or_eq_true_iff.mp (Bool.eq_true_of_not_eq_false isSmtp)
      with isCommand | isReply
    · exact not_begins_both (by decide) begun
        ((any_isPrefixOf_iff _ _).mp isCommand)
    · obtain ⟨⟨byte, isFirst, isDigit⟩, _⟩ := digits_of_isSmtpReply isReply
      obtain ⟨other, isOther, notDigit⟩ :=
        @byte_of_begins _ _ 0 (fun byte => !isDigitByte byte) begun
          (by decide)
      rw [isFirst] at isOther
      cases isOther
      rw [isDigit] at notDigit
      cases notDigit
  have apart :
      ∀ {one other : PayloadProtocol},
        (fits payload one = true → fits payload other = false) →
          fits payload one = true → fits payload other = true →
            first = second := by
    intro one other excludes oneFits otherFits
    rw [excludes oneFits] at otherFits
    cases otherFits
  cases first <;> cases second
  · rfl
  · exact apart httpNotSmtp firstFits secondFits
  · exact apart httpNotDns firstFits secondFits
  · exact apart httpNotSmtp secondFits firstFits
  · rfl
  · exact apart smtpNotDns firstFits secondFits
  · exact apart httpNotDns secondFits firstFits
  · exact apart smtpNotDns secondFits firstFits
  · rfl

/-- The heuristics are tried one after the other. -/
theorem detectProtocolByPayload_eq_find? (payload : Bytes) :
    detectProtocolByPayload payload =
      [.http, .smtp, .dns].find? (fits payload) := by
  cases payload with
  | nil =>
      rfl
  | cons byte rest =>
      unfold detectProtocolByPayload
      simp only [List.isEmpty_cons, Bool.false_eq_true, if_false,
        List.find?_cons, List.find?_nil, fits]
      cases httpSignatures.any (List.isPrefixOf · (byte :: rest)) with
      | true =>
          rfl
      | false =>
          cases smtpSignatures.any (List.isPrefixOf · (byte :: rest)) with
          | true =>
              rfl
          | false =>
              cases isSmtpReply (byte :: rest) with
              | true =>
                  rfl
              | false =>
                  cases looksLikeDns (byte :: rest) <;> rfl

/-- All heuristics together find the protocol whose signature fits. -/
theorem find?_fits_iff
    {payload : Bytes}
    {tried : List PayloadProtocol}
    (complete : ∀ protocol, protocol ∈ tried)
    (protocol : PayloadProtocol) :
    tried.find? (fits payload) = some protocol ↔
      fits payload protocol = true := by
  constructor
  · exact List.find?_some
  · intro protocolFits
    obtain ⟨other, isFound⟩ :=
      Option.isSome_iff_exists.mp (List.find?_isSome.mpr
        ⟨protocol, complete protocol, protocolFits⟩)
    rw [isFound, fits_unique (List.find?_some isFound) protocolFits]

/-- There are three protocols to tell by the payload. -/
theorem mem_payloadProtocols (protocol : PayloadProtocol) :
    protocol ∈ [PayloadProtocol.http, .smtp, .dns] := by
  cases protocol <;> decide

/-- A payload has the protocol whose signature it carries. -/
theorem detectProtocolByPayload_iff
    (payload : Bytes)
    (protocol : PayloadProtocol) :
    detectProtocolByPayload payload = some protocol ↔
      fits payload protocol = true := by
  rw [detectProtocolByPayload_eq_find?]
  exact find?_fits_iff mem_payloadProtocols protocol

/--
The heuristics exclude each other: a payload has the protocol whose signature
it carries, whichever of them is tried first.
-/
theorem find?_fits_of_perm
    (payload : Bytes)
    {order : List PayloadProtocol}
    (perm : order.Perm [.http, .smtp, .dns]) :
    order.find? (fits payload) = detectProtocolByPayload payload ∧
      ∀ protocol,
        detectProtocolByPayload payload = some protocol ↔
          fits payload protocol = true := by
  refine ⟨?_, detectProtocolByPayload_iff payload⟩
  have complete : ∀ protocol, protocol ∈ order :=
    fun protocol => perm.mem_iff.mpr (mem_payloadProtocols protocol)
  apply Option.ext
  intro protocol
  rw [find?_fits_iff complete, detectProtocolByPayload_iff]

/-- A greeting is told from the other protocols in any order. -/
theorem find?_fits_greeting :
    [PayloadProtocol.dns, .http, .smtp].find?
        (fits (signature "220 mail.example.com ESMTP")) =
      some .smtp := by
  rw [(find?_fits_of_perm (signature "220 mail.example.com ESMTP")
    (by decide)).1]
  decide

end ProtocolDetector

end IntrusionDetection
