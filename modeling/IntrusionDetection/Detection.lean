import IntrusionDetection.RuleMatcher

namespace IntrusionDetection

open PyText

/-!
# Detections

A detection event is one rule match on one packet.
-/

/--
`Detection`.  The fields `matchedNotEmpty` and `matchedValid` are what the
constructor establishes for `matched`.
-/
structure Detection where
  sid : Int
  rev : Int
  msg : Str
  priority : Int
  classtype : Option Str
  timestamp : Option Time
  packetId : Int
  srcIp : Option Str
  srcPort : Option Int
  dstIp : Option Str
  dstPort : Option Int
  protocol : FlowProtocol
  applicationProtocol : Option Str
  flowId : Option Str
  flowDirection : Option FlowRole
  matched : List MatchDetail
  matchedNotEmpty : matched ≠ []
  matchedValid : ∀ detail ∈ matched, detail.Valid

/-- `DEFAULT_PRIORITY`. -/
def defaultPriority : Int := 3

/-- The protocol check of `Detection.__post_init__`. -/
def detectionProtocol? (protocol : Option Str) : Option FlowProtocol :=
  match protocol with
  | none => none
  | some text =>
      if upper text = lit "TCP" then some .tcp
      else if upper text = lit "UDP" then some .udp
      else none

/-- `make_detection`, with the checks of the constructor. -/
def makeDetection
    (rule : Rule)
    (event : IDSEvent)
    (ctx : Option FlowContext)
    (details : List MatchDetail) :
    Except PyException Detection :=
  match detectionProtocol? event.transportProtocol with
  | none =>
      .error {
        typeName := lit "ValueError"
        message := lit "invalid protocol" }
  | some protocol =>
      let matched := if details = [] then [.header] else details
      if valid : matched ≠ [] ∧ ∀ detail ∈ matched, detail.Valid then
        .ok {
          sid := rule.sid
          rev := rule.rev
          msg := rule.msg
          priority := rule.priority.getD defaultPriority
          classtype := rule.classtype
          timestamp := event.timestamp
          packetId := event.packetId
          srcIp := event.srcIp
          srcPort := event.srcPort
          dstIp := event.dstIp
          dstPort := event.dstPort
          protocol
          applicationProtocol := event.appProtocol
          flowId :=
            match ctx with
            | some ctx => some ctx.flowId
            | none => event.flowId
          flowDirection := ctx.bind FlowContext.role
          matched
          matchedNotEmpty := valid.1
          matchedValid := valid.2 }
      else
        .error {
          typeName := lit "ValueError"
          message := lit "invalid matched element" }

/-- A packet that the matcher takes for TCP or UDP passes the check. -/
theorem detectionProtocol?_isSome
    {event : IDSEvent}
    (isPacket : (packetProtocol? event).isSome) :
    (detectionProtocol? event.transportProtocol).isSome := by
  simp only [packetProtocol?, detectionProtocol?] at isPacket ⊢
  cases protocol : event.transportProtocol with
  | none =>
      simp [protocol] at isPacket
  | some text =>
      rw [protocol] at isPacket
      simp only at isPacket ⊢
      split at isPacket <;> rename_i isTcp
      · have name : upper text = lit "TCP" := by
          rw [← upper_lower (by rw [isTcp]; decide), isTcp]
          decide
        simp [name]
      · split at isPacket <;> rename_i isUdp
        · have name : upper text = lit "UDP" := by
            rw [← upper_lower (by rw [isUdp]; decide), isUdp]
            decide
          rw [name]
          decide
        · cases isPacket

/--
The detection of a match is built without an exception, and carries the sid of
its rule.
-/
theorem makeDetection_ok
    {rule : Rule}
    {event : IDSEvent}
    (ctx : Option FlowContext)
    {details : List MatchDetail}
    (isPacket : (packetProtocol? event).isSome)
    (valid : ∀ detail ∈ details, detail.Valid) :
    ∃ detection,
      makeDetection rule event ctx details = .ok detection ∧
        detection.sid = rule.sid := by
  obtain ⟨protocol, isProtocol⟩ :=
    Option.isSome_iff_exists.mp (detectionProtocol?_isSome isPacket)
  have accepted :
      (if details = [] then [MatchDetail.header] else details) ≠ [] ∧
        ∀ detail ∈ if details = [] then [.header] else details,
          detail.Valid := by
    split <;> rename_i isEmpty
    · simp [MatchDetail.Valid]
    · exact ⟨isEmpty, valid⟩
  simp only [makeDetection, isProtocol, dif_pos accepted]
  exact ⟨_, rfl, rfl⟩

end IntrusionDetection
