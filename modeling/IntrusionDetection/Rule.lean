import IntrusionDetection.PyText
import Mathlib.Data.Finset.Insert

namespace IntrusionDetection

open PyText

/-!
# Rules

The internal representation of a parsed rule.  Every specification carries the
checks of its constructor as fields, so a value that the constructor would
reject cannot be built.
-/

/-- Protocol of a rule; an `ip` rule fits TCP and UDP packets. -/
inductive RuleProtocol where
  | tcp
  | udp
  | ip
  deriving Repr, DecidableEq

/-- The protocol as rules and packets spell it. -/
def RuleProtocol.name : RuleProtocol → Str
  | .tcp => lit "tcp"
  | .udp => lit "udp"
  | .ip => lit "ip"

/-- `->` (source to destination only) or `<>` (either way). -/
inductive RuleDirection where
  | oneWay
  | bothWays
  deriving Repr, DecidableEq

/-- Role of the sender of a packet within its flow. -/
inductive FlowRole where
  | toServer
  | toClient
  deriving Repr, DecidableEq

/-- The state a rule may ask of a flow. -/
inductive FlowStateSpec where
  | established
  | notEstablished
  deriving Repr, DecidableEq

/-- How the letters of a `flags` option are compared. -/
inductive FlagsMode where
  | exact
  | all
  | any
  | none
  deriving Repr, DecidableEq

/-- The TCP flag letters of rules. -/
inductive TcpFlag where
  | s
  | a
  | f
  | r
  | p
  | u
  | c
  | e
  deriving Repr, DecidableEq

/-- Comparison of a `dsize` option. -/
inductive DsizeOp where
  | eq
  | lt
  | gt
  | range
  deriving Repr, DecidableEq

/-- `PORT_MAX`. -/
def portMax : Int := 65535

/-- An IPv4 block; 32-bit words keep both numbers in range. -/
structure IpSpec where
  any : Bool
  network : BitVec 32
  mask : BitVec 32
  deriving DecidableEq

/-- An inclusive port range within 0..65535. -/
structure PortSpec where
  lo : Int
  hi : Int
  inRange : 0 ≤ lo ∧ lo ≤ hi ∧ hi ≤ portMax
  deriving DecidableEq

/-- `is_any`: does the range hold every port? -/
def PortSpec.isAny (port : PortSpec) : Bool :=
  port.lo = 0 ∧ port.hi = portMax

/-- One `content` option with its modifiers. -/
structure ContentSpec where
  raw : Str
  pattern : Bytes
  nocase : Bool
  offset : Option Int
  depth : Option Int
  distance : Option Int
  within : Option Int
  patternNotEmpty : pattern ≠ []
  deriving DecidableEq

/-- The `flow` option. -/
structure FlowSpec where
  role : Option FlowRole
  state : Option FlowStateSpec
  deriving DecidableEq

/-- The `flags` option; only the exact mode may ask for no flag at all. -/
structure FlagsSpec where
  mode : FlagsMode
  flags : Finset TcpFlag
  notEmpty : flags ≠ ∅ ∨ mode = .exact
  deriving DecidableEq

/-- The bounds a `dsize` option may have. -/
def DsizeOp.Allows (op : DsizeOp) (a : Int) (b : Option Int) : Prop :=
  0 ≤ a ∧
    match op, b with
    | .range, some upper => a ≤ upper
    | .range, none => False
    | _, some _ => False
    | _, none => True

instance (op : DsizeOp) (a : Int) (b : Option Int) :
    Decidable (op.Allows a b) := by
  unfold DsizeOp.Allows
  cases op <;> cases b <;> infer_instance

/-- The `dsize` option; only a range has an upper bound. -/
structure DsizeSpec where
  op : DsizeOp
  a : Int
  b : Option Int
  allowed : op.Allows a b
  deriving DecidableEq

/-- A parsed rule; its only action is `alert`. -/
structure Rule where
  protocol : RuleProtocol
  srcIp : IpSpec
  srcPort : PortSpec
  direction : RuleDirection
  dstIp : IpSpec
  dstPort : PortSpec
  msg : Str
  sid : Int
  rev : Int
  classtype : Option Str
  priority : Option Int
  contents : List ContentSpec
  flow : Option FlowSpec
  flags : Option FlagsSpec
  dsize : Option DsizeSpec
  passiveOptions : List (Str × Option Str)
  sourceFile : Str
  lineNo : Nat
  raw : Str
  priorityPositive : ∀ value ∈ priority, 1 ≤ value

end IntrusionDetection
