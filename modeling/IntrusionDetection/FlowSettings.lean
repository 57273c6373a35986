import IntrusionDetection.Config
import IntrusionDetection.FaultPrecedence
import IntrusionDetection.FlowTimeout

namespace IntrusionDetection

open PyText FaultPrecedence

/-!
# The flow settings the tracker uses

The tracker does not trust the `flow` section it is given: its getters have
their own idea of an acceptable number and fall back to built-in defaults.
This module asks when they return what `load_config` accepted.
-/

/-- The key of a timeout. -/
def TimeoutKey.name : TimeoutKey → Str
  | .udpIdleTimeoutSec => lit "udp_idle_timeout_sec"
  | .tcpHandshakeTimeoutSec => lit "tcp_handshake_timeout_sec"
  | .tcpClosedLingerSec => lit "tcp_closed_linger_sec"
  | .tcpIdleTimeoutSec => lit "tcp_idle_timeout_sec"

namespace FlowSettings

/-- `flow_cfg.get(key) if isinstance(flow_cfg, dict) else None`. -/
def given (flowCfg : PyObject) (key : Str) : Option PyObject :=
  match flowCfg with
  | .dict items => PyDict.get? items (.text key)
  | _ => none

/-- The positive finite number as a float, else the default. -/
def positiveOr (value : Option PyObject) (default : ℚ) :
    Except ConfigError ℚ :=
  match value with
  | some (.int number) =>
      if fitsFloat number then
        .ok (if 0 < number then floatOfInt number else default)
      else
        .error .overflowError
  | some (.float (.finite number)) => .ok (if 0 < number then number else default)
  | _ => .ok default

/-- `_get`. -/
def get (flowCfg : PyObject) (key : TimeoutKey) :
    Except ConfigError ℚ :=
  positiveOr (given flowCfg key.name) (defaultTimeout key)

/-- `_get_sweep_interval`. -/
def getSweepInterval (flowCfg : PyObject) : Except ConfigError ℚ :=
  positiveOr (given flowCfg (lit "sweep_interval_sec")) 1

/-- `_get_max_active_flows`. -/
def getMaxActiveFlows (flowCfg : PyObject) : Int :=
  match given flowCfg (lit "max_active_flows") with
  | some (.int number) => if 0 < number then number else 100000
  | _ => 100000

/-- The number that is configured under a key. -/
def configured (flow : PyDict) (key : Str) : Option ℚ :=
  (flow.get? (.text key)).bind PyObject.number?

/-- The tracker works with exactly the configured numbers. -/
structure UsesConfigured (flow : PyDict) : Prop where
  timeouts :
    ∀ key : TimeoutKey, ∃ number,
      configured flow key.name = some number ∧
        get (.dict flow) key = .ok number
  sweepInterval :
    ∃ number,
      configured flow (lit "sweep_interval_sec") = some number ∧
        getSweepInterval (.dict flow) = .ok number
  maxActiveFlows :
    ∃ number : Int,
      configured flow (lit "max_active_flows") = some (number : ℚ) ∧
        getMaxActiveFlows (.dict flow) = number

/-- A number that a float holds exactly. -/
def Exact : PyObject → Prop
  | .int number => BinaryRounding.spacing 53 number.natAbs ∣ number.natAbs
  | _ => True

/--
The sweep interval is not zero, and the timeouts and the sweep interval that
are given as whole numbers have at most 53 significant binary digits.
-/
structure Carried (flow : PyDict) : Prop where
  timeouts :
    ∀ (key : TimeoutKey) value,
      flow.get? (.text key.name) = some value →
      Exact value
  sweepInterval :
    ∀ value,
      flow.get? (.text (lit "sweep_interval_sec")) = some value →
      Exact value ∧ value.number? ≠ some 0

/-! ### What the checks establish -/

/-- A value of which `_is_number` holds. -/
def IsNumber (value : PyObject) (number : ℚ) : Prop :=
  isNumber value = .ok true ∧ value.number? = some number

/-- What passes a check satisfies it. -/
theorem condition_of_check
    {condition : Bool}
    {message : Str}
    (passed : check condition message = .ok ()) :
    condition = true := by
  cases condition with
  | false =>
      cases passed
  | true =>
      rfl

/-- An item that is read stands in the mapping. -/
theorem get?_of_item
    {dict : PyDict}
    {name : Str}
    {value : PyObject}
    (read : dict.item name = .ok value) :
    dict.get? (.text name) = some value := by
  unfold PyDict.item at read
  split at read
  · rename_i found
    cases read
    exact found
  · cases read

/-- A number that satisfies the test is a number. -/
theorem isNumber_of_isNumberThat
    {test : ℚ → Bool}
    {value : PyObject}
    (accepted : isNumberThat test value = .ok true) :
    ∃ number, IsNumber value number ∧ test number = true := by
  obtain ⟨answer, isAnswer, rest⟩ := exists_of_bind_ok accepted
  cases answer with
  | false =>
      cases rest
  | true =>
      cases found : value.number? with
      | none =>
          rw [found] at rest
          cases rest
      | some number =>
          rw [found] at rest
          exact ⟨number, ⟨isAnswer, found⟩, by injection rest⟩

/-- A key whose number was checked holds a number that passes the test. -/
theorem number_of_check
    {flow : PyDict}
    {key message : Str}
    {test : ℚ → Bool}
    (passed :
      (do
        check (← isNumberThat test (← flow.item key)) message) =
        Except.ok ()) :
    ∃ value number,
      flow.get? (.text key) = some value ∧ IsNumber value number ∧
        test number = true := by
  obtain ⟨value, read, passed⟩ := exists_of_bind_ok passed
  obtain ⟨condition, tested, passed⟩ := exists_of_bind_ok passed
  rw [condition_of_check passed] at tested
  obtain ⟨number, isNumber, isTested⟩ := isNumber_of_isNumberThat tested
  exact ⟨value, number, get?_of_item read, isNumber, isTested⟩

/-- What the checks of the `flow` section let through. -/
structure Accepted (flow : PyDict) : Prop where
  timeouts :
    ∀ key : TimeoutKey, ∃ value number,
      flow.get? (.text key.name) = some value ∧ IsNumber value number ∧
        0 < number
  sweepInterval :
    ∃ value number,
      flow.get? (.text (lit "sweep_interval_sec")) = some value ∧
        IsNumber value number ∧ 0 ≤ number
  maxActiveFlows :
    ∃ number : Int,
      flow.get? (.text (lit "max_active_flows")) = some (.int number) ∧
        1 ≤ number

/-- Every timeout is checked to be positive. -/
theorem timeout_of_validateTimeout
    {flow : PyDict}
    {key : Str}
    (passed : validateTimeout flow key = .ok ()) :
    ∃ value number,
      flow.get? (.text key) = some value ∧ IsNumber value number ∧
        0 < number := by
  obtain ⟨value, number, found, isNumber, positive⟩ :=
    number_of_check passed
  exact ⟨value, number, found, isNumber, of_decide_eq_true positive⟩

/-- The checks of the `flow` section establish what the section promises. -/
theorem accepted_of_validateFlow
    {flow : PyDict}
    (passed : validateFlow flow = .ok ()) :
    Accepted flow := by
  obtain ⟨_, timeouts, passed⟩ := exists_of_bind_ok passed
  obtain ⟨_, tcpIdle, timeouts⟩ := exists_of_bind_ok timeouts
  obtain ⟨_, udpIdle, timeouts⟩ := exists_of_bind_ok timeouts
  obtain ⟨_, handshake, timeouts⟩ := exists_of_bind_ok timeouts
  obtain ⟨_, linger, _⟩ := exists_of_bind_ok timeouts
  obtain ⟨_, _, passed⟩ := exists_of_bind_ok passed
  obtain ⟨_, _, passed⟩ := exists_of_bind_ok passed
  obtain ⟨maxFlows, read, passed⟩ := exists_of_bind_ok passed
  obtain ⟨_, checked, sweepInterval⟩ := exists_of_bind_ok passed
  refine ⟨?_, ?_, ?_⟩
  · intro key
    cases key with
    | udpIdleTimeoutSec =>
        exact timeout_of_validateTimeout udpIdle
    | tcpHandshakeTimeoutSec =>
        exact timeout_of_validateTimeout handshake
    | tcpClosedLingerSec =>
        exact timeout_of_validateTimeout linger
    | tcpIdleTimeoutSec =>
        exact timeout_of_validateTimeout tcpIdle
  · obtain ⟨value, number, found, isNumber, notNegative⟩ :=
      number_of_check sweepInterval
    exact ⟨value, number, found, isNumber, of_decide_eq_true notNegative⟩
  · have isInt := condition_of_check checked
    cases maxFlows with
    | int number =>
        exact ⟨number, get?_of_item read, of_decide_eq_true isInt⟩
    | _ =>
        cases isInt

/--
An accepted configuration is the merged mapping up to the `engine` section, and
its sections passed their checks.
-/
theorem sections_of_loadConfig
    {target : Str}
    {explicit : Bool}
    {file : ConfigFile}
    {config : PyDict}
    (loaded : loadConfig target explicit file = .ok config) :
    ∃ user,
      readConfig target explicit file = .ok user ∧
        (∀ name, lit "engine" ≠ name →
          sectionOf config name =
            sectionOf (mergeConfigs defaultConfig user) name) ∧
        validatePreprocessor
            (sectionOf (mergeConfigs defaultConfig user)
              (lit "preprocessor")) = .ok () ∧
        validateFlow
            (sectionOf (mergeConfigs defaultConfig user) (lit "flow")) =
          .ok () := by
  obtain ⟨user, isUser, loaded⟩ := exists_of_bind_ok loaded
  obtain ⟨_, _, loaded⟩ := exists_of_bind_ok loaded
  obtain ⟨_, _, loaded⟩ := exists_of_bind_ok loaded
  obtain ⟨_, _, loaded⟩ := exists_of_bind_ok loaded
  obtain ⟨_, prepChecked, loaded⟩ := exists_of_bind_ok loaded
  obtain ⟨_, flowChecked, loaded⟩ := exists_of_bind_ok loaded
  obtain ⟨engine, _, filled⟩ := exists_of_bind_ok loaded
  injection filled with filled
  subst filled
  refine ⟨user, isUser, ?_, prepChecked, flowChecked⟩
  intro name different
  simp only [sectionOf, PyDict.get?_setItem, PyKey.text.injEq, different,
    if_false]

/-- The `flow` section is that of the merged mapping, and passed its checks. -/
theorem flow_of_loadConfig
    {target : Str}
    {explicit : Bool}
    {file : ConfigFile}
    {config : PyDict}
    (loaded : loadConfig target explicit file = .ok config) :
    ∃ user,
      readConfig target explicit file = .ok user ∧
        sectionOf config (lit "flow") =
          sectionOf (mergeConfigs defaultConfig user) (lit "flow") ∧
        Accepted (sectionOf config (lit "flow")) := by
  obtain ⟨user, isUser, untouched, _, flowChecked⟩ :=
    sections_of_loadConfig loaded
  have flow := untouched (lit "flow") (by decide)
  refine ⟨user, isUser, flow, ?_⟩
  rw [flow]
  exact accepted_of_validateFlow flowChecked

/-- A number the user writes into the `flow` section is the configured one. -/
theorem configured_of_user
    {user items : PyDict}
    {key : Str}
    {value : PyObject}
    {number : ℚ}
    (distinct : (user.map Prod.fst).Nodup)
    (distinctItems : (items.map Prod.fst).Nodup)
    (hasSection : (.text (lit "flow"), .dict items) ∈ user)
    (hasKey : (.text key, value) ∈ items)
    (isNumber : value.number? = some number) :
    configured
        (sectionOf (mergeConfigs defaultConfig user) (lit "flow")) key =
      some number := by
  have isSection :=
    get?_mergeConfigs_of_mem defaultConfig distinct hasSection
  obtain ⟨known, isKnown⟩ :
      ∃ known,
        defaultConfig.get? (.text (lit "flow")) = some (.dict known) :=
    ⟨_, rfl⟩
  rw [isKnown] at isSection
  have isValue := get?_mergeConfigs_of_mem known distinctItems hasKey
  simp only [configured, sectionOf, isSection, mergedValue, isValue,
    Option.bind_some]
  cases value with
  | int whole =>
      exact isNumber
  | float stored =>
      exact isNumber
  | _ =>
      cases isNumber

/-! ### What the getters return -/

/-- A positive whole number is its float exactly when the digits suffice. -/
theorem floatOfInt_eq_iff
    {number : Int}
    (positive : 0 < number) :
    floatOfInt number = (number : ℚ) ↔ Exact (.int number) := by
  obtain ⟨magnitude, rfl⟩ := Int.eq_ofNat_of_zero_le positive.le
  have isPositive : (magnitude : Int).sign = 1 :=
    Int.sign_eq_one_of_pos positive
  rw [Exact, floatOfInt, isPositive, Int.natAbs_natCast,
    ← BinaryRounding.round_eq_self_iff]
  simp only [Int.cast_one, one_mul, Int.cast_natCast, Nat.cast_inj]

/-- A positive number is returned as it is exactly when a float holds it. -/
theorem positiveOr_eq_iff
    {value : PyObject}
    {number default : ℚ}
    (isANumber : IsNumber value number)
    (positive : 0 < number) :
    positiveOr (some value) default = .ok number ↔ Exact value := by
  obtain ⟨accepted, isValue⟩ := isANumber
  cases value with
  | int whole =>
      injection isValue with isValue
      subst isValue
      have wholePositive : 0 < whole := by
        exact_mod_cast positive
      have fits : fitsFloat whole = true := by
        by_contra tooLarge
        simp [isNumber, tooLarge] at accepted
      simp only [positiveOr, fits, wholePositive, if_true,
        Except.ok.injEq]
      exact floatOfInt_eq_iff wholePositive
  | float stored =>
      cases stored with
      | finite stored =>
          injection isValue with isValue
          subst isValue
          simp [positiveOr, positive, Exact]
      | _ =>
          cases isValue
  | _ =>
      cases isValue

/-- Zero is replaced by the default. -/
theorem positiveOr_zero
    {value : PyObject}
    (default : ℚ)
    (isNumber : IsNumber value 0) :
    positiveOr (some value) default = .ok default := by
  obtain ⟨accepted, isValue⟩ := isNumber
  cases value with
  | int whole =>
      injection isValue with isValue
      have isZero : whole = 0 := by
        exact_mod_cast isValue
      subst isZero
      rfl
  | float stored =>
      cases stored with
      | finite stored =>
          injection isValue with isValue
          subst isValue
          rfl
      | _ =>
          cases isValue
  | _ =>
      cases isValue

/-- What a key holds is what is configured there. -/
theorem configured_of_get?
    {flow : PyDict}
    {key : Str}
    {value : PyObject}
    {number : ℚ}
    (found : flow.get? (.text key) = some value)
    (isNumber : IsNumber value number) :
    configured flow key = some number := by
  rw [configured, found]
  exact isNumber.2

/--
The tracker works with the accepted numbers exactly when the sweep interval is
not zero and no whole number has more digits than a float.
-/
theorem usesConfigured_iff
    {target : Str}
    {explicit : Bool}
    {file : ConfigFile}
    {config : PyDict}
    (loaded : loadConfig target explicit file = .ok config) :
    UsesConfigured (sectionOf config (lit "flow")) ↔
      Carried (sectionOf config (lit "flow")) := by
  obtain ⟨_, _, _, accepted⟩ := flow_of_loadConfig loaded
  obtain ⟨timeouts, sweepInterval, maxActiveFlows⟩ := accepted
  generalize sectionOf config (lit "flow") = flow at *
  constructor
  · intro uses
    constructor
    · intro key value found
      obtain ⟨value', number, found', isNumber, positive⟩ := timeouts key
      cases found.symm.trans found'
      obtain ⟨number', isConfigured, returned⟩ := uses.timeouts key
      cases (configured_of_get? found isNumber).symm.trans isConfigured
      rw [get, given, found] at returned
      exact (positiveOr_eq_iff isNumber positive).mp returned
    · intro value found
      obtain ⟨value', number, found', isNumber, notNegative⟩ :=
        sweepInterval
      cases found.symm.trans found'
      obtain ⟨number', isConfigured, returned⟩ := uses.sweepInterval
      cases (configured_of_get? found isNumber).symm.trans isConfigured
      rw [getSweepInterval, given, found] at returned
      have positive : 0 < number := by
        apply lt_of_le_of_ne notNegative
        intro isZero
        subst isZero
        rw [positiveOr_zero 1 isNumber] at returned
        injection returned with same
        exact absurd same (by norm_num)
      refine ⟨(positiveOr_eq_iff isNumber positive).mp returned, ?_⟩
      rw [isNumber.2]
      intro isZero
      injection isZero with isZero
      exact positive.ne' isZero
  · intro carried
    constructor
    · intro key
      obtain ⟨value, number, found, isNumber, positive⟩ := timeouts key
      refine ⟨number, configured_of_get? found isNumber, ?_⟩
      rw [get, given, found]
      exact (positiveOr_eq_iff isNumber positive).mpr
        (carried.timeouts key value found)
    · obtain ⟨value, number, found, isNumber, notNegative⟩ :=
        sweepInterval
      obtain ⟨isExact, notZero⟩ := carried.sweepInterval value found
      have positive : 0 < number := by
        apply lt_of_le_of_ne notNegative
        intro isZero
        apply notZero
        rw [isNumber.2, isZero]
      refine ⟨number, configured_of_get? found isNumber, ?_⟩
      rw [getSweepInterval, given, found]
      exact (positiveOr_eq_iff isNumber positive).mpr isExact
    · obtain ⟨number, found, atLeastOne⟩ := maxActiveFlows
      refine ⟨number, ?_, ?_⟩
      · rw [configured, found]
        rfl
      · have positive : 0 < number := by
          omega
        simp only [getMaxActiveFlows, given, found, positive, if_true]

/-! ### The settings of the flow tracker -/

/-- A configured number as the getters of the timeouts return it. -/
def asCfgValue : Option PyObject → CfgValue
  | some (.int number) => .float (floatOfInt number)
  | some (.float (.finite number)) => .float number
  | _ => .other

/-- The `flow` section as the tracker reads it. -/
def flowCfgOf (flow : PyDict) : FlowCfg where
  timeout := fun key => asCfgValue (flow.get? (.text key.name))
  sweepIntervalSec :=
    asCfgValue (flow.get? (.text (lit "sweep_interval_sec")))
  maxActiveFlows :=
    match flow.get? (.text (lit "max_active_flows")) with
    | some (.int number) => .int number
    | _ => .other
  tcpCloseRequiresFinalAck :=
    ((flow.get? (.text (lit "tcp_close_requires_final_ack"))).getD
      (.bool false)).truthy

/-- A whole number and its float have the same sign. -/
theorem floatOfInt_pos_iff
    {number : Int} :
    0 < floatOfInt number ↔ 0 < number := by
  unfold floatOfInt
  rcases lt_trichotomy number 0 with negative | rfl | positive
  · have notPositive : ¬ 0 < number := by
      omega
    rw [Int.sign_eq_neg_one_of_neg negative]
    simp [notPositive]
  · simp
  · have rounded : 0 < BinaryRounding.round 53 number.natAbs :=
      BinaryRounding.round_pos (by decide) (by omega)
    rw [Int.sign_eq_one_of_pos positive]
    simp [rounded, positive]

/-- A number that the getter returns is the one the tracker works with. -/
theorem positiveOr_asCfgValue
    {value : Option PyObject}
    {default number : ℚ}
    (returned : positiveOr value default = .ok number) :
    (asCfgValue value).positiveOr default = number := by
  cases value with
  | none =>
      injection returned
  | some value =>
      cases value with
      | int whole =>
          simp only [positiveOr] at returned
          split at returned
          · injection returned with returned
            subst returned
            simp only [asCfgValue, CfgValue.positiveOr, floatOfInt_pos_iff]
          · cases returned
      | float stored =>
          cases stored <;> injection returned
      | _ =>
          injection returned

/-- The timeouts of the tracker are those of the getter. -/
theorem getTimeout_flowCfgOf
    {flow : PyDict}
    {key : TimeoutKey}
    {number : ℚ}
    (returned : get (.dict flow) key = .ok number) :
    (flowCfgOf flow).getTimeout key = number :=
  positiveOr_asCfgValue returned

/-- The sweep interval of the tracker is that of the getter. -/
theorem getSweepInterval_flowCfgOf
    {flow : PyDict}
    {number : ℚ}
    (returned : getSweepInterval (.dict flow) = .ok number) :
    (flowCfgOf flow).getSweepInterval = number :=
  positiveOr_asCfgValue returned

/-- The limit of the tracker is that of the getter. -/
theorem getMaxActiveFlows_flowCfgOf (flow : PyDict) :
    ((flowCfgOf flow).getMaxActiveFlows : Int) =
      getMaxActiveFlows (.dict flow) := by
  unfold getMaxActiveFlows FlowCfg.getMaxActiveFlows flowCfgOf given
  dsimp only
  split
  · rename_i number isInt
    split at isInt
    · rename_i found
      cases isInt
      split
      · omega
      · rfl
    · cases isInt
  · rename_i notInt
    split
    · rename_i number found
      simp only [found] at notInt
      exact absurd rfl (notInt number)
    · rfl

/-! ### The defaults, and a setting that is replaced -/

/-- The defaults pass their own checks unchanged. -/
theorem loadConfig_missing (target : Str) :
    loadConfig target false .missing = .ok defaultConfig :=
  (rfl)

/-- A settings file that changes a timeout, the sweep and the limit. -/
def slowSweepUser : PyDict :=
  configDict [
    ("flow", .dict (configDict [
      ("udp_idle_timeout_sec", .int 120),
      ("sweep_interval_sec", .int 5),
      ("max_active_flows", .int 200)]))]

/-- The tracker works with what the file changes and with the defaults. -/
theorem usesConfigured_slowSweep :
    ∃ config,
      loadConfig (lit "config/settings.yaml") true
          (.document (.dict slowSweepUser)) = .ok config ∧
        configured (sectionOf config (lit "flow"))
            (lit "sweep_interval_sec") = some 5 ∧
        getMaxActiveFlows (.dict (sectionOf config (lit "flow"))) = 200 ∧
        UsesConfigured (sectionOf config (lit "flow")) := by
  have loaded :
      loadConfig (lit "config/settings.yaml") true
          (.document (.dict slowSweepUser)) =
        .ok (mergeConfigs defaultConfig slowSweepUser) :=
    rfl
  refine ⟨mergeConfigs defaultConfig slowSweepUser, loaded, rfl, rfl, ?_⟩
  apply (usesConfigured_iff loaded).mpr
  constructor
  · intro key value found
    cases key <;> cases found <;> exact one_dvd _
  · intro value found
    cases found
    exact ⟨one_dvd _, by decide⟩

/-- A settings file that asks for a sweep at every packet. -/
def zeroSweepUser : PyDict :=
  configDict [
    ("flow", .dict (configDict [("sweep_interval_sec", .int 0)]))]

/-- The zero is accepted and replaced by one second. -/
theorem zeroSweep_replaced :
    ∃ config,
      loadConfig (lit "config/settings.yaml") true
          (.document (.dict zeroSweepUser)) = .ok config ∧
        configured (sectionOf config (lit "flow"))
            (lit "sweep_interval_sec") = some 0 ∧
        getSweepInterval (.dict (sectionOf config (lit "flow"))) = .ok 1 ∧
        ¬ UsesConfigured (sectionOf config (lit "flow")) := by
  refine ⟨mergeConfigs defaultConfig zeroSweepUser, rfl, rfl, rfl, ?_⟩
  intro uses
  obtain ⟨number, isConfigured, returned⟩ := uses.sweepInterval
  cases isConfigured
  injection returned with same
  exact absurd same (by decide)

end FlowSettings

end IntrusionDetection
