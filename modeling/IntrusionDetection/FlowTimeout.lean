import IntrusionDetection.Flow
import Mathlib.Tactic.Linarith

namespace IntrusionDetection

open PyText

/-!
# Flow settings and timeouts

The tracker reads its numbers from the `flow` section of the configuration
through getters that fall back to built-in defaults, and decides from the
state of a flow how long that flow may stay silent.
-/

/-- A configured value, as far as the getters tell values apart. -/
inductive CfgValue where
  | int (value : Int)
  | float (value : ℚ)
  -- Absent, a bool, NaN, an infinity or any other object.
  | other
  deriving Repr, DecidableEq

/-- The keys of the `flow` section that hold timeouts. -/
inductive TimeoutKey where
  | udpIdleTimeoutSec
  | tcpHandshakeTimeoutSec
  | tcpClosedLingerSec
  | tcpIdleTimeoutSec
  deriving Repr, DecidableEq

/-- The `flow` section of the configuration. -/
structure FlowCfg where
  timeout : TimeoutKey → CfgValue
  sweepIntervalSec : CfgValue
  maxActiveFlows : CfgValue
  tcpCloseRequiresFinalAck : Bool

/-- A `flow` section in which every number falls back to its default. -/
def FlowCfg.empty : FlowCfg where
  timeout := fun _ => .other
  sweepIntervalSec := .other
  maxActiveFlows := .other
  tcpCloseRequiresFinalAck := false

/-- `DEFAULTS` of the timeouts. -/
def defaultTimeout : TimeoutKey → Time
  | .udpIdleTimeoutSec => 60
  | .tcpHandshakeTimeoutSec => 30
  | .tcpClosedLingerSec => 10
  | .tcpIdleTimeoutSec => 300

/-- A positive finite number, else the default. -/
def CfgValue.positiveOr (value : CfgValue) (default : Time) : Time :=
  match value with
  | .int number => if 0 < number then (number : ℚ) else default
  | .float number => if 0 < number then number else default
  | .other => default

namespace FlowCfg

/-- `_get`. -/
def getTimeout (cfg : FlowCfg) (key : TimeoutKey) : Time :=
  (cfg.timeout key).positiveOr (defaultTimeout key)

/-- `_get_sweep_interval`. -/
def getSweepInterval (cfg : FlowCfg) : Time :=
  cfg.sweepIntervalSec.positiveOr 1

/-- `_get_max_active_flows`. -/
def getMaxActiveFlows (cfg : FlowCfg) : Nat :=
  match cfg.maxActiveFlows with
  | .int number => if 0 < number then number.toNat else 100000
  | _ => 100000

end FlowCfg

/-- `timeout_for`. -/
def timeoutFor (entry : FlowEntry) (cfg : FlowCfg) : Time :=
  match entry.flow.protocol with
  | .udp => cfg.getTimeout .udpIdleTimeoutSec
  | .tcp =>
      match entry.flow.state with
      | .handshake => cfg.getTimeout .tcpHandshakeTimeoutSec
      | .closed => cfg.getTimeout .tcpClosedLingerSec
      | .reset => cfg.getTimeout .tcpClosedLingerSec
      | _ => cfg.getTimeout .tcpIdleTimeoutSec

/-- `is_expired`: silent for strictly longer than the timeout. -/
def isExpired (entry : FlowEntry) (now : Time) (cfg : FlowCfg) : Bool :=
  timeoutFor entry cfg < now - entry.flow.lastSeen

/-- `get_close_reason`. -/
def getCloseReason (entry : FlowEntry) : CloseReason :=
  match entry.flow.state with
  | .closed => .tcpClosed
  | .reset => .tcpReset
  | .handshake => .handshakeTimeout
  | _ => .idleTimeout

/-- The reasons with which a flow may be closed in a given final state. -/
def CloseReason.Fits : CloseReason → FlowState → Prop
  | .tcpClosed, state => state = .closed
  | .tcpReset, state => state = .reset
  | .handshakeTimeout, state => state = .handshake
  | .idleTimeout, state =>
      state = .established ∨ state = .closing ∨ state = .active
  | .portReuse, state => state = .closed ∨ state = .reset
  | .flush, state => state ≠ .closed ∧ state ≠ .reset
  | .evicted, _ => True

/-! ### The getters always yield usable numbers -/

theorem positiveOr_pos
    (value : CfgValue)
    {default : Time}
    (positive : 0 < default) :
    0 < value.positiveOr default := by
  cases value with
  | int number =>
      simp only [CfgValue.positiveOr]
      split <;> rename_i isPositive
      · exact_mod_cast isPositive
      · exact positive
  | float number =>
      simp only [CfgValue.positiveOr]
      split <;> rename_i isPositive
      · exact isPositive
      · exact positive
  | other =>
      exact positive

theorem getTimeout_pos (cfg : FlowCfg) (key : TimeoutKey) :
    0 < cfg.getTimeout key := by
  apply positiveOr_pos
  cases key <;> norm_num [defaultTimeout]

theorem getSweepInterval_pos (cfg : FlowCfg) :
    0 < cfg.getSweepInterval := by
  apply positiveOr_pos
  norm_num

theorem getMaxActiveFlows_pos (cfg : FlowCfg) :
    0 < cfg.getMaxActiveFlows := by
  simp only [FlowCfg.getMaxActiveFlows]
  split
  · split
    · omega
    · norm_num
  · norm_num

/-- Every flow may stay silent for a positive time. -/
theorem timeoutFor_pos (entry : FlowEntry) (cfg : FlowCfg) :
    0 < timeoutFor entry cfg := by
  simp only [timeoutFor]
  split
  · exact getTimeout_pos cfg _
  · split <;> exact getTimeout_pos cfg _

/-! ### When a flow is expired -/

theorem isExpired_iff
    {entry : FlowEntry}
    {now : Time}
    {cfg : FlowCfg} :
    isExpired entry now cfg = true ↔
      timeoutFor entry cfg < now - entry.flow.lastSeen := by
  simp [isExpired]

/-- A flow seen at or after a time is not expired at that time. -/
theorem not_isExpired_of_le_lastSeen
    {entry : FlowEntry}
    {now : Time}
    (cfg : FlowCfg)
    (recent : now ≤ entry.flow.lastSeen) :
    isExpired entry now cfg = false := by
  rw [Bool.eq_false_iff, ne_eq, isExpired_iff]
  have positive := timeoutFor_pos entry cfg
  linarith

/-- An expired flow stays expired. -/
theorem isExpired_mono
    {entry : FlowEntry}
    {earlier later : Time}
    {cfg : FlowCfg}
    (expired : isExpired entry earlier cfg = true)
    (ordered : earlier ≤ later) :
    isExpired entry later cfg = true := by
  rw [isExpired_iff] at expired ⊢
  linarith

/-- The reason given to an expired flow fits its state. -/
theorem getCloseReason_fits (entry : FlowEntry) :
    (getCloseReason entry).Fits entry.flow.state := by
  cases state : entry.flow.state <;>
    simp [getCloseReason, CloseReason.Fits, state]

end IntrusionDetection
