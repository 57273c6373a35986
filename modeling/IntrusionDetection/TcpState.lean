import IntrusionDetection.Flow

namespace IntrusionDetection

open PyText

/-!
# TCP state machine

`nextState` computes the state of a TCP flow after one packet, from the flags
of the packet, its direction and the context bits kept with the flow.
-/

/--
`normalize_flags`: the upper-cased names of a collection of flags, as a set.
An element that is not a string has a text that is no flag name, so it is left
out.
-/
def normalizeFlags (flags : PyValue) : List Str :=
  match flags with
  | .list items =>
      items.filterMap fun item =>
        match item with
        | .str name => some (upper name)
        | _ => none
  | _ => []

/-- The context dictionary `next_state` reads and updates. -/
structure TcpContext where
  synackSeen : Bool
  synackDir : Option Direction
  finFwd : Bool
  finBwd : Bool
  midstream : Bool
  tcpCloseRequiresFinalAck : Bool
  deriving Repr, DecidableEq

/-- `next_state`, with the updated context next to the new state. -/
def nextState
    (currentState : FlowState)
    (flags : PyValue)
    (direction : Direction)
    (ctx : TcpContext)
    (isFirstPacket : Bool) :
    FlowState × TcpContext :=
  let flagSet := normalizeFlags flags
  let hasRst := lit "RST" ∈ flagSet
  let hasSyn := lit "SYN" ∈ flagSet
  let hasFin := lit "FIN" ∈ flagSet
  let hasAck := lit "ACK" ∈ flagSet
  -- Late packets do not alter a terminal state.
  if currentState = .closed ∨ currentState = .reset then
    (currentState, ctx)
  else if hasRst then
    (.reset, ctx)
  else if hasSyn then
    if isFirstPacket then
      if hasAck then
        (.handshake,
          { ctx with
            midstream := true
            synackSeen := true
            synackDir := some direction })
      else
        (.handshake, ctx)
    else if currentState = .handshake ∧ hasAck ∧
        direction = .backward then
      (.handshake,
        { ctx with synackSeen := true, synackDir := some direction })
    else
      (currentState, ctx)
  else if hasFin then
    let ctx :=
      if isFirstPacket then { ctx with midstream := true } else ctx
    let ctx :=
      match direction with
      | .forward => { ctx with finFwd := true }
      | .backward => { ctx with finBwd := true }
    if ctx.finFwd ∧ ctx.finBwd ∧
        ctx.tcpCloseRequiresFinalAck = false then
      (.closed, ctx)
    else
      (.closing, ctx)
  else if hasAck then
    if isFirstPacket then
      (.established, { ctx with midstream := true })
    else if currentState = .handshake ∧ ctx.synackSeen ∧
        some direction ≠ ctx.synackDir then
      (.established, ctx)
    else if currentState = .closing ∧ ctx.finFwd ∧ ctx.finBwd ∧
        ctx.tcpCloseRequiresFinalAck then
      (.closed, ctx)
    else
      (currentState, ctx)
  -- Neither RST, SYN, FIN nor ACK.
  else if isFirstPacket then
    (.established, { ctx with midstream := true })
  else
    (currentState, ctx)

/-! ### Flag names are already normal -/

/-- The names of a normalised flag set are in upper case. -/
theorem upper_of_mem_normalizeFlags
    {flags : PyValue}
    {name : Str}
    (member : name ∈ normalizeFlags flags) :
    upper name = name := by
  cases flags with
  | list items =>
      simp only [normalizeFlags, List.mem_filterMap] at member
      obtain ⟨item, _, image⟩ := member
      cases item <;> simp only [Option.some.injEq, reduceCtorEq] at image
      rw [← image, upper_upper]
  | _ => simp [normalizeFlags] at member

/-- Normalising a flag set in upper case changes nothing. -/
theorem normalizeFlags_of_upper
    {names : List Str}
    (isUpper : ∀ name ∈ names, upper name = name) :
    normalizeFlags (.list (names.map .str)) = names := by
  simp only [normalizeFlags]
  induction names with
  | nil =>
      rfl
  | cons name rest inductionHypothesis =>
      have head := isUpper name (by simp)
      have tail := inductionHypothesis
        fun later member => isUpper later (by simp [member])
      simp [head, tail]

end IntrusionDetection
