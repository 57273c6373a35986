import IntrusionDetection.FlowTracker
import IntrusionDetection.Rule

namespace IntrusionDetection

open PyText

/-!
# Flow contexts

What the rule engine knows about the flow of the packet under test: the state
after the packet, whether the flow is established and the role of the sender.
-/

/--
`FlowContext`.  The states pair with the protocols as the constructor demands:
UDP flows are always `ACTIVE`, TCP flows never are.
-/
structure FlowContext where
  flowId : Str
  protocol : FlowProtocol
  state : FlowState
  role : Option FlowRole
  established : Bool
  midstream : Bool
  direction : Direction
  stateFits : protocol = .udp ↔ state = .active

/-- The state as the records spell it. -/
def FlowState.name : FlowState → Str
  | .handshake => lit "HANDSHAKE"
  | .established => lit "ESTABLISHED"
  | .closing => lit "CLOSING"
  | .closed => lit "CLOSED"
  | .reset => lit "RESET"
  | .active => lit "ACTIVE"

/--
The check of `FlowContext.__post_init__` that the enumerated types leave open.
-/
def FlowContext.create
    (flowId : Str)
    (protocol : FlowProtocol)
    (state : FlowState)
    (role : Option FlowRole)
    (established midstream : Bool)
    (direction : Direction) :
    Except PyException FlowContext :=
  if stateFits : protocol = .udp ↔ state = .active then
    .ok { flowId, protocol, state, role, established, midstream,
          direction, stateFits }
  else
    .error {
      typeName := lit "ValueError"
      message :=
        lit "state '" ++ state.name ++ lit "' does not fit protocol '" ++
          protocol.name ++ lit "'" }

/-- A key of the `ports` section. -/
inductive PortKey where
  | int (port : Int)
  | other
  deriving Repr, DecidableEq

/-- The `ports` section of the configuration, `none` if it is no dictionary. -/
abbrev PortsCfg := Option (List PortKey)

/-- `_known_ports`. -/
def knownPorts (cfg : PortsCfg) : List Int :=
  match cfg with
  | none => []
  | some keys =>
      keys.filterMap fun key =>
        match key with
        | .int port => some port
        | .other => none

/-- Which of two endpoints is meant. -/
inductive Side where
  | first
  | second
  deriving Repr, DecidableEq

/-- `_server_index`: the server judging by ports alone. -/
def serverIndex
    (portA portB : Int)
    (known : List Int) :
    Option Side :=
  let aKnown : Bool := portA ∈ known
  let bKnown : Bool := portB ∈ known
  if aKnown ≠ bKnown then
    if aKnown then some .first else some .second
  else if portA ≠ portB then
    if portA < portB then some .first else some .second
  else
    none

/-- `_packet_direction`. -/
def eventDirection (event : IDSEvent) (flow : Flow) : Option Direction :=
  match event.direction with
  | some direction => some direction
  | none =>
      match event.srcIp, event.srcPort with
      | some srcIp, some srcPort =>
          some (directionOf flow.endpointA srcIp srcPort)
      | _, _ => none

/-- Is the first endpoint of a flow its client? -/
def clientIsA (flow : Flow) (known : List Int) : Bool :=
  if flow.protocol = .tcp ∧ flow.midstream = false then
    true
  else
    serverIndex flow.endpointA.port flow.endpointB.port known ≠
      some .first

/-- The role of a sender, from its direction and the side of the client. -/
def senderRole (direction : Direction) (clientIsA : Bool) : FlowRole :=
  let senderIsA : Bool := direction = .forward
  if senderIsA = clientIsA then .toServer else .toClient

/-- `_from_flow`. -/
def fromFlow
    (event : IDSEvent)
    (flow : Flow)
    (known : List Int) :
    Except PyException (Option FlowContext) :=
  match eventDirection event flow with
  | none => .ok none
  | some direction =>
      let role := senderRole direction (clientIsA flow known)
      let state : FlowState :=
        match flow.protocol with
        | .tcp => event.flowState.getD flow.state
        | .udp => .active
      let established : Bool :=
        match flow.protocol with
        | .tcp =>
            state = .established ∨ state = .closing ∨ state = .closed
        | .udp => 0 < flow.bwdPacketCount
      if flow.protocol = .tcp ∧ state = .active then
        .ok none
      else
        (FlowContext.create flow.flowId flow.protocol state (some role)
          established flow.midstream direction).map some

/-- `build_flow_context`. -/
def buildFlowContext
    (event : IDSEvent)
    (flow : Option Flow)
    (cfg : PortsCfg) :
    Except PyException (Option FlowContext) :=
  match flow with
  | none => .ok none
  | some flow => fromFlow event flow (knownPorts cfg)

/-! ### The constructor never rejects a context -/

/-- A context with a fitting state is built as it is. -/
theorem create_of_fits
    {protocol : FlowProtocol}
    {state : FlowState}
    (stateFits : protocol = .udp ↔ state = .active)
    (flowId : Str)
    (role : Option FlowRole)
    (established midstream : Bool)
    (direction : Direction) :
    FlowContext.create flowId protocol state role established midstream
        direction =
      .ok { flowId, protocol, state, role, established, midstream,
            direction, stateFits } := by
  simp only [FlowContext.create, dif_pos stateFits]

/-- Building a flow context never raises, whatever event and flow are. -/
theorem buildFlowContext_ok
    (event : IDSEvent)
    (flow : Option Flow)
    (cfg : PortsCfg) :
    ∃ context, buildFlowContext event flow cfg = .ok context := by
  cases flow with
  | none =>
      exact ⟨none, rfl⟩
  | some flow =>
      simp only [buildFlowContext, fromFlow]
      cases eventDirection event flow with
      | none =>
          exact ⟨none, rfl⟩
      | some direction =>
          cases protocol : flow.protocol with
          | udp =>
              simp only [reduceCtorEq, false_and, if_false]
              rw [create_of_fits (by simp)]
              exact ⟨_, rfl⟩
          | tcp =>
              simp only [true_and]
              split <;> rename_i state
              · exact ⟨none, rfl⟩
              · rw [create_of_fits (by simpa using state)]
                exact ⟨_, rfl⟩

/-- What the context of a UDP flow says. -/
theorem fromFlow_udp
    {event : IDSEvent}
    {flow : Flow}
    {direction : Direction}
    (protocol : flow.protocol = .udp)
    (isDirection : eventDirection event flow = some direction)
    (known : List Int) :
    ∃ context,
      fromFlow event flow known = .ok (some context) ∧
        context.flowId = flow.flowId ∧
        context.state = .active ∧
        context.direction = direction ∧
        context.role =
          some (senderRole direction (clientIsA flow known)) ∧
        (context.established = true ↔ 0 < flow.bwdPacketCount) := by
  simp only [fromFlow, isDirection, protocol, reduceCtorEq, false_and,
    if_false]
  rw [create_of_fits (by simp)]
  refine ⟨_, rfl, rfl, rfl, rfl, rfl, ?_⟩
  simp

/-- What the context of a TCP flow says. -/
theorem fromFlow_tcp
    {event : IDSEvent}
    {flow : Flow}
    {direction : Direction}
    (protocol : flow.protocol = .tcp)
    (isDirection : eventDirection event flow = some direction)
    (state : event.flowState = some flow.state)
    (notActive : flow.state ≠ .active)
    (known : List Int) :
    ∃ context,
      fromFlow event flow known = .ok (some context) ∧
        context.flowId = flow.flowId ∧
        context.state = flow.state ∧
        context.direction = direction ∧
        context.role =
          some (senderRole direction (clientIsA flow known)) ∧
        (context.established = true ↔
          flow.state = .established ∨ flow.state = .closing ∨
            flow.state = .closed) := by
  simp only [fromFlow, isDirection, protocol, state, Option.getD_some,
    notActive, and_false, if_false]
  rw [create_of_fits (by simpa using notActive)]
  refine ⟨_, rfl, rfl, rfl, rfl, rfl, ?_⟩
  simp

end IntrusionDetection
