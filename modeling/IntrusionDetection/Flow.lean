import IntrusionDetection.BinaryRounding
import IntrusionDetection.Event

namespace IntrusionDetection

open PyText

/-!
# Flow records

A `Flow` is the bidirectional connection record that is finally written to the
flow log; a `FlowEntry` is the record together with the fields the tracker
keeps to itself.  The module also contains the directionless key of a flow,
the direction of a packet and the flow identifier.
-/

/-- Transport protocols the tracker follows. -/
inductive FlowProtocol where
  | tcp
  | udp
  deriving Repr, DecidableEq

/-- The protocol as the records spell it. -/
def FlowProtocol.name : FlowProtocol → Str
  | .tcp => lit "TCP"
  | .udp => lit "UDP"

/-- Why a flow left the table. -/
inductive CloseReason where
  | tcpClosed
  | tcpReset
  | idleTimeout
  | handshakeTimeout
  | portReuse
  | evicted
  | flush
  deriving Repr, DecidableEq

/-- One end of a flow: `{"ip": ..., "port": ...}`. -/
structure Endpoint where
  ip : Str
  port : Int
  deriving DecidableEq

namespace Endpoint

/-- Order of the pairs `(ip, port)`: the address first, then the port. -/
def le (first second : Endpoint) : Prop :=
  first.ip < second.ip ∨
    (first.ip = second.ip ∧ first.port ≤ second.port)

instance (first second : Endpoint) : Decidable (le first second) := by
  unfold le
  infer_instance

/-- Any two endpoints are comparable. -/
theorem le_total (first second : Endpoint) :
    le first second ∨ le second first := by
  rcases lt_trichotomy first.ip second.ip with before | same | after
  · exact Or.inl (Or.inl before)
  · rcases Int.le_total first.port second.port with le | ge
    · exact Or.inl (Or.inr ⟨same, le⟩)
    · exact Or.inr (Or.inr ⟨same.symm, ge⟩)
  · exact Or.inr (Or.inl after)

/-- Endpoints that are below each other are equal. -/
theorem le_antisymm
    {first second : Endpoint}
    (below : le first second)
    (above : le second first) :
    first = second := by
  rcases below with ipBelow | ⟨sameIp, portBelow⟩
  · rcases above with ipAbove | ⟨sameIp, _⟩
    · exact (lt_asymm ipBelow ipAbove).elim
    · exact (ne_of_lt ipBelow sameIp.symm).elim
  · rcases above with ipAbove | ⟨_, portAbove⟩
    · exact (ne_of_lt ipAbove sameIp.symm).elim
    · cases first
      cases second
      simp only at sameIp portBelow portAbove
      rw [sameIp, Int.le_antisymm portBelow portAbove]

end Endpoint

/-- Directionless key of a flow; `low` is the smaller endpoint. -/
structure FlowKey where
  protocol : FlowProtocol
  low : Endpoint
  high : Endpoint
  deriving DecidableEq

/--
`make_key`: sort the two endpoints, so that both directions of a conversation
have one key.  The tracker only asks for keys of TCP and UDP packets.
-/
def makeKey
    (protocol : FlowProtocol)
    (srcIp : Str)
    (srcPort : Int)
    (dstIp : Str)
    (dstPort : Int) :
    FlowKey :=
  let ep1 : Endpoint := ⟨srcIp, srcPort⟩
  let ep2 : Endpoint := ⟨dstIp, dstPort⟩
  if ep1.le ep2 then
    ⟨protocol, ep1, ep2⟩
  else
    ⟨protocol, ep2, ep1⟩

/-- `direction_of`: forward iff sent by the flow's first endpoint. -/
def directionOf
    (endpointA : Endpoint)
    (srcIp : Str)
    (srcPort : Int) :
    Direction :=
  if endpointA.ip = srcIp ∧ endpointA.port = srcPort then
    .forward
  else
    .backward

/--
The start time of a flow in microseconds: the float nearest to the product,
rounded.  `round` raises if that float is an infinity.
-/
def startMicroseconds (startTime : Time) : Except PyException Int :=
  match BinaryRounding.double? (startTime * 1000000) with
  | some product => .ok (BinaryRounding.roundHalfEven product)
  | none =>
      .error {
        typeName := lit "OverflowError"
        message := lit "cannot convert float infinity to integer" }

/-- The text `make_flow_id` hashes. -/
def flowIdText (key : FlowKey) (startTime : Time) :
    Except PyException Str := do
  let startUs ← startMicroseconds startTime
  let lowPort ← intText key.low.port
  let highPort ← intText key.high.port
  return key.protocol.name ++ lit "|" ++
    key.low.ip ++ lit ":" ++ lowPort ++ lit "|" ++
    key.high.ip ++ lit ":" ++ highPort ++ lit "|" ++
    ofInt startUs

/--
`make_flow_id`: the hash of the key and the start time in microseconds.  The
hash function is a parameter of the tracker; what it is applied to has to be
encoded first.
-/
def makeFlowId
    (digest : Str → Str)
    (key : FlowKey)
    (startTime : Time) :
    Except PyException Str := do
  let rawStr ← flowIdText key startTime
  let _ ← encodeText rawStr
  return digest rawStr

/-- Flow record of a bidirectional conversation. -/
structure Flow where
  flowId : Str
  protocol : FlowProtocol
  endpointA : Endpoint
  endpointB : Endpoint
  applicationProtocol : Option Str
  startTime : Time
  lastSeen : Time
  packetCount : Nat
  byteCount : Nat
  payloadByteCount : Nat
  fwdPacketCount : Nat
  fwdByteCount : Nat
  bwdPacketCount : Nat
  bwdByteCount : Nat
  synCount : Nat
  ackCount : Nat
  finCount : Nat
  rstCount : Nat
  state : FlowState
  closeReason : Option CloseReason
  midstream : Bool
  deriving DecidableEq

/-- The table key rebuilt from the flow's own endpoints. -/
def Flow.key (flow : Flow) : FlowKey :=
  makeKey flow.protocol
    flow.endpointA.ip flow.endpointA.port
    flow.endpointB.ip flow.endpointB.port

/-- `flow.close_reason = reason`. -/
def Flow.closeWith (flow : Flow) (reason : CloseReason) : Flow :=
  { flow with closeReason := some reason }

/--
A flow with the tracker's own fields.  `serial` stands for the identity of the
`Flow` object, the number of objects constructed before it; the program never
reads it.
-/
structure FlowEntry where
  flow : Flow
  finFwd : Bool
  finBwd : Bool
  synackSeen : Bool
  synackDir : Option Direction
  stateChangedAt : Time
  serial : Nat

/-! ### Facts about keys -/

/-- A key does not depend on which endpoint sent the packet. -/
theorem makeKey_swap
    (protocol : FlowProtocol)
    (srcIp : Str)
    (srcPort : Int)
    (dstIp : Str)
    (dstPort : Int) :
    makeKey protocol srcIp srcPort dstIp dstPort =
      makeKey protocol dstIp dstPort srcIp srcPort := by
  simp only [makeKey]
  split <;> rename_i first
  · split <;> rename_i second
    · have same := Endpoint.le_antisymm first second
      rw [same]
    · rfl
  · split <;> rename_i second
    · rfl
    · rcases Endpoint.le_total ⟨srcIp, srcPort⟩ ⟨dstIp, dstPort⟩ with
        below | above
      · exact (first below).elim
      · exact (second above).elim

/-- The endpoints of a key, in one of the two orders, are those it was made of. -/
theorem makeKey_endpoints
    (protocol : FlowProtocol)
    (srcIp : Str)
    (srcPort : Int)
    (dstIp : Str)
    (dstPort : Int) :
    makeKey protocol srcIp srcPort dstIp dstPort =
        ⟨protocol, ⟨srcIp, srcPort⟩, ⟨dstIp, dstPort⟩⟩ ∨
      makeKey protocol srcIp srcPort dstIp dstPort =
        ⟨protocol, ⟨dstIp, dstPort⟩, ⟨srcIp, srcPort⟩⟩ := by
  simp only [makeKey]
  split
  · exact Or.inl rfl
  · exact Or.inr rfl

/-- Equal keys come from the same protocol and the same two endpoints. -/
theorem eq_or_swap_of_makeKey_eq
    {firstProtocol secondProtocol : FlowProtocol}
    {first second third fourth : Endpoint}
    (same :
      makeKey firstProtocol first.ip first.port second.ip second.port =
        makeKey secondProtocol third.ip third.port
          fourth.ip fourth.port) :
    firstProtocol = secondProtocol ∧
      ((first = third ∧ second = fourth) ∨
        (first = fourth ∧ second = third)) := by
  rcases makeKey_endpoints firstProtocol
      first.ip first.port second.ip second.port with left | left <;>
    rcases makeKey_endpoints secondProtocol
      third.ip third.port fourth.ip fourth.port with right | right <;>
    rw [left, right] at same <;>
    simp only [FlowKey.mk.injEq] at same <;>
    tauto

/-- A packet is forward exactly if the first endpoint sent it. -/
theorem directionOf_eq_forward_iff
    (endpointA src : Endpoint) :
    directionOf endpointA src.ip src.port = .forward ↔
      src = endpointA := by
  cases endpointA
  cases src
  simp only [directionOf, Endpoint.mk.injEq]
  split <;> rename_i same
  · simp [same.1, same.2]
  · simp only [reduceCtorEq, false_iff]
    exact fun equal => same ⟨equal.1.symm, equal.2.symm⟩

end IntrusionDetection
