import IntrusionDetection.BinaryRounding
import IntrusionDetection.Event
import IntrusionDetection.PyObjects

namespace IntrusionDetection

open PyText

/-!
# The configuration

`load_config` merges the mapping read from the settings file into the defaults
and checks every value of the result before anything uses it.
-/

/-- What can go wrong when a configuration is loaded or read. -/
inductive ConfigError where
  | valueError (message : Str)
  | keyError (name : Str)
  -- A whole number that is too large for a float.
  | overflowError
  | fileNotFoundError (message : Str)
  -- The file could not be opened or decoded.
  | unreadable (exception : PyException)
  deriving DecidableEq

/-- `dict[name]`. -/
def PyDict.item (dict : PyDict) (name : Str) :
    Except ConfigError PyObject :=
  match dict.get? (.text name) with
  | some value => .ok value
  | none => .error (.keyError name)

/-- A mapping whose keys are texts. -/
def configDict (items : List (String × PyObject)) : PyDict :=
  items.map fun item => (.text (lit item.1), item.2)

/-- `DEFAULT_CONFIG`. -/
def defaultConfig : PyDict :=
  configDict [
    ("decoder", .dict (configDict [
      ("enabled", .bool true),
      ("max_payload_bytes", .int 65536),
      ("url_decode_passes", .int 1),
      ("plus_as_space_in_query", .bool true),
      ("html_entity_content_types", .list [
        .str (lit "text/html"),
        .str (lit "text/plain"),
        .str (lit "application/x-www-form-urlencoded")])])),
    ("preprocessor", .dict (configDict [
      ("unsupported_policy", .str (lit "mark")),
      ("invalid_policy", .str (lit "flag")),
      ("max_future_timestamp_skew_sec", .int 86400)])),
    ("flow", .dict (configDict [
      ("tcp_idle_timeout_sec", .int 300),
      ("udp_idle_timeout_sec", .int 60),
      ("tcp_handshake_timeout_sec", .int 30),
      ("tcp_closed_linger_sec", .int 10),
      ("tcp_close_requires_final_ack", .bool false),
      ("max_active_flows", .int 100000),
      ("sweep_interval_sec", .float (.finite 1))])),
    ("engine", .dict (configDict [
      ("enabled", .bool true),
      ("rule_files", .list [.dict (configDict [
        ("path", .str (lit "config/rules/local.rules")),
        ("enabled", .bool true)])]),
      ("disabled_sids", .list []),
      ("default_priority", .int 3)]))]

mutual

/-- `_merge_configs`: merge the items of `user` into `merged`, one by one. -/
def mergeConfigs (merged : PyDict) :
    List (PyKey × PyObject) → PyDict
  | [] => merged
  | entry :: rest => mergeConfigs (mergeEntry merged entry) rest

/-- One item of the loop. -/
def mergeEntry (merged : PyDict) :
    PyKey × PyObject → PyDict
  | (key, value) => mergeValue merged key value

/-- A mapping is merged into a mapping; an empty value keeps what is there. -/
def mergeValue (merged : PyDict) (key : PyKey) :
    PyObject → PyDict
  | .dict items =>
      match merged.get? key with
      | some (.dict known) =>
          merged.setItem key (.dict (mergeConfigs known items))
      | _ => merged.setItem key (.dict items)
  | .none =>
      match merged.get? key with
      | some _ => merged
      | none => merged.setItem key .none
  | value => merged.setItem key value

end

/-- What a key holds after a value was merged into what it held before. -/
def mergedValue (known : Option PyObject) : PyObject → PyObject
  | .dict items =>
      match known with
      | some (.dict known) => .dict (mergeConfigs known items)
      | _ => .dict items
  | .none => known.getD .none
  | value => value

/-- Merging one item touches its own key only. -/
theorem get?_mergeValue
    (merged : PyDict)
    (key wanted : PyKey)
    (value : PyObject) :
    (mergeValue merged key value).get? wanted =
      if key = wanted then
        some (mergedValue (merged.get? key) value)
      else
        merged.get? wanted := by
  cases value with
  | dict items =>
      simp only [mergeValue, mergedValue]
      split <;> exact PyDict.get?_setItem ..
  | none =>
      simp only [mergeValue, mergedValue]
      split
      · rename_i known found
        by_cases isKey : key = wanted
        · subst isKey
          simp [found]
        · simp [isKey]
      · rename_i absent
        rw [PyDict.get?_setItem, absent]
        rfl
  | _ =>
      exact PyDict.get?_setItem merged key wanted _

/-- A key the user does not mention keeps its default. -/
theorem get?_mergeConfigs_of_notMem
    {user : PyDict}
    {wanted : PyKey}
    (merged : PyDict)
    (absent : wanted ∉ user.map Prod.fst) :
    (mergeConfigs merged user).get? wanted = merged.get? wanted := by
  induction user generalizing merged with
  | nil =>
      rw [mergeConfigs]
  | cons entry rest inductionHypothesis =>
      obtain ⟨key, value⟩ := entry
      rw [List.map_cons, List.mem_cons, not_or] at absent
      rw [mergeConfigs, inductionHypothesis _ absent.2, mergeEntry,
        get?_mergeValue, if_neg (Ne.symm absent.1)]

/-- A key the user mentions once holds its value merged into the default. -/
theorem get?_mergeConfigs_of_mem
    {user : PyDict}
    {wanted : PyKey}
    {value : PyObject}
    (merged : PyDict)
    (distinct : (user.map Prod.fst).Nodup)
    (member : (wanted, value) ∈ user) :
    (mergeConfigs merged user).get? wanted =
      some (mergedValue (merged.get? wanted) value) := by
  induction user generalizing merged with
  | nil =>
      cases member
  | cons entry rest inductionHypothesis =>
      obtain ⟨key, stored⟩ := entry
      rw [List.map_cons, List.nodup_cons] at distinct
      rw [mergeConfigs, mergeEntry]
      rcases List.mem_cons.mp member with isHead | inRest
      · cases isHead
        rw [get?_mergeConfigs_of_notMem _ distinct.1, get?_mergeValue,
          if_pos rfl]
      · have different : key ≠ wanted := by
          intro same
          subst same
          exact distinct.1 (List.mem_map.mpr ⟨_, inRest, rfl⟩)
        rw [inductionHypothesis _ distinct.2 inRest, get?_mergeValue,
          if_neg different]

/-! ### Checks -/

/-- The value as an exact number, if it is one and no bool. -/
def PyObject.number? : PyObject → Option ℚ
  | .int value => some value
  | .float (.finite value) => some value
  | _ => Option.none

/-- `float(value)` for a whole number that fits. -/
def floatOfInt (value : Int) : ℚ :=
  value.sign * (BinaryRounding.round 53 value.natAbs : ℚ)

/-- The whole numbers a float can be made of: they round below `2 ^ 1024`. -/
def fitsFloat (value : Int) : Bool :=
  (BinaryRounding.round 53 value.natAbs).log2 < 1024

/-- `_is_number`; `math.isfinite` makes a float of a whole number. -/
def isNumber : PyObject → Except ConfigError Bool
  | .int value =>
      if fitsFloat value then .ok true else .error .overflowError
  | .float (.finite _) => .ok true
  | _ => .ok false

/-- `_is_number(v) and test(v)`. -/
def isNumberThat (test : ℚ → Bool) (value : PyObject) :
    Except ConfigError Bool := do
  if ← isNumber value then
    return value.number?.any test
  else
    return false

/-- `_is_int(v) and v >= least`. -/
def isIntFrom (least : Int) : PyObject → Bool
  | .int value => least ≤ value
  | _ => false

/-- `_is_int`. -/
def isInt : PyObject → Bool
  | .int _ => true
  | _ => false

/-- `isinstance(v, bool)`. -/
def isBool : PyObject → Bool
  | .bool _ => true
  | _ => false

/-- `isinstance(v, list)`. -/
def isList : PyObject → Bool
  | .list _ => true
  | _ => false

/-- `isinstance(v, dict)`, for a value that may be missing. -/
def isDict : Option PyObject → Bool
  | some (.dict _) => true
  | _ => false

/-- A text out of a list of them. -/
def isOneOf (choices : List Str) : PyObject → Bool
  | .str text => text ∈ choices
  | _ => false

/-- `_check`. -/
def check (condition : Bool) (message : Str) : Except ConfigError Unit :=
  if condition then .ok ()
  else .error (.valueError (lit "Config error: " ++ message))

/-- `str(key)`. -/
def PyKey.describe : PyKey → Str
  | .text name => name
  | .other _ description => description

/-- The items of a section that was checked to be a mapping. -/
def sectionOf (config : PyDict) (name : Str) : PyDict :=
  match config.get? (.text name) with
  | some (.dict items) => items
  | _ => []

/-- One section in `_check_unknown_keys`. -/
def checkKnownKeys
    (user : PyDict)
    (known : PyKey × PyObject) :
    Except ConfigError Unit :=
  let name := known.1.describe
  let given : PyObject :=
    match user.get? known.1 with
    | some value => if value.truthy then value else .dict []
    | none => .dict []
  match given with
  | .dict items =>
      items.forM fun entry =>
        check ((sectionOf defaultConfig name).get? entry.1).isSome
          (lit "unknown key '" ++ name ++ lit "." ++ entry.1.describe ++
            lit "'")
  | _ => check false (lit "'" ++ name ++ lit "' must be a mapping")

/-- `_check_unknown_keys`. -/
def checkUnknownKeys (user : PyDict) : Except ConfigError Unit :=
  defaultConfig.forM (checkKnownKeys user)

/-- The checks of the `decoder` section. -/
def validateDecoder (dec : PyDict) : Except ConfigError Unit := do
  check (isBool (← dec.item (lit "enabled")))
    (lit "decoder.enabled must be true/false")
  check (isIntFrom 1 (← dec.item (lit "max_payload_bytes")))
    (lit "decoder.max_payload_bytes must be an integer > 0")
  check (isIntFrom 1 (← dec.item (lit "url_decode_passes")))
    (lit "decoder.url_decode_passes must be an integer >= 1")
  check (isBool (← dec.item (lit "plus_as_space_in_query")))
    (lit "decoder.plus_as_space_in_query must be true/false")
  check (isList (← dec.item (lit "html_entity_content_types")))
    (lit "decoder.html_entity_content_types must be a list")

/-- The checks of the `preprocessor` section. -/
def validatePreprocessor (prep : PyDict) :
    Except ConfigError Unit := do
  check
    (isOneOf [lit "mark", lit "skip"]
      (← prep.item (lit "unsupported_policy")))
    (lit "preprocessor.unsupported_policy must be 'mark' or 'skip'")
  check
    (isOneOf [lit "flag", lit "drop"]
      (← prep.item (lit "invalid_policy")))
    (lit "preprocessor.invalid_policy must be 'flag' or 'drop'")
  check
    (← isNumberThat (0 ≤ ·)
      (← prep.item (lit "max_future_timestamp_skew_sec")))
    (lit "preprocessor.max_future_timestamp_skew_sec must be a number >= 0")

/-- The check of one timeout. -/
def validateTimeout (flow : PyDict) (key : Str) :
    Except ConfigError Unit := do
  check (← isNumberThat (0 < ·) (← flow.item key))
    (lit "flow." ++ key ++ lit " must be a number > 0")

/-- The checks of the `flow` section. -/
def validateFlow (flow : PyDict) : Except ConfigError Unit := do
  [lit "tcp_idle_timeout_sec", lit "udp_idle_timeout_sec",
    lit "tcp_handshake_timeout_sec", lit "tcp_closed_linger_sec"].forM
      (validateTimeout flow)
  check (isBool (← flow.item (lit "tcp_close_requires_final_ack")))
    (lit "flow.tcp_close_requires_final_ack must be true/false")
  check (isIntFrom 1 (← flow.item (lit "max_active_flows")))
    (lit "flow.max_active_flows must be an integer >= 1")
  check (← isNumberThat (0 ≤ ·) (← flow.item (lit "sweep_interval_sec")))
    (lit "flow.sweep_interval_sec must be a number >= 0")

/-- The checks of one rule file; a missing `enabled` is filled in. -/
def validateRuleFile (index : Nat) (entry : PyObject) :
    Except ConfigError PyObject := do
  let place := lit "engine.rule_files[" ++ ofInt index ++ lit "]"
  match entry with
  | .dict items =>
      items.forM fun item =>
        check
          (item.1 = .text (lit "path") || item.1 = .text (lit "enabled"))
          (lit "unknown key '" ++ place ++ lit "." ++ item.1.describe ++
            lit "'")
      let isPath : Bool :=
        match PyDict.get? items (.text (lit "path")) with
        | some (.str text) => strip text ≠ []
        | _ => false
      check isPath (place ++ lit ".path must be a non-empty string")
      let filled : PyDict :=
        match PyDict.get? items (.text (lit "enabled")) with
        | some _ => items
        | none => PyDict.setItem items (.text (lit "enabled")) (.bool true)
      check (isBool (← filled.item (lit "enabled")))
        (place ++ lit ".enabled must be true/false")
      return .dict filled
  | other =>
      check false
        (place ++ lit " must be a mapping with 'path' and 'enabled'")
      return other

/-- The checks of the `engine` section, with what they fill in. -/
def validateEngine (eng : PyDict) : Except ConfigError PyDict := do
  check (isBool (← eng.item (lit "enabled")))
    (lit "engine.enabled must be true/false")
  let files ← eng.item (lit "rule_files")
  check (isList files) (lit "engine.rule_files must be a list")
  let entries : List PyObject :=
    match files with
    | .list entries => entries
    | _ => []
  let entries ← entries.zipIdx.mapM fun (entry, index) =>
    validateRuleFile index entry
  let sids ← eng.item (lit "disabled_sids")
  let areSids : Bool :=
    match sids with
    | .list items => items.all isInt
    | _ => false
  check areSids (lit "engine.disabled_sids must be a list of integers")
  check (isIntFrom 1 (← eng.item (lit "default_priority")))
    (lit "engine.default_priority must be an integer >= 1")
  return eng.setItem (.text (lit "rule_files")) (.list entries)

/-- `_validate`. -/
def validateConfig (config : PyDict) :
    Except ConfigError PyDict := do
  defaultConfig.forM fun known =>
    check (isDict (config.get? known.1))
      (lit "'" ++ known.1.describe ++ lit "' must be a mapping")
  validateDecoder (sectionOf config (lit "decoder"))
  validatePreprocessor (sectionOf config (lit "preprocessor"))
  validateFlow (sectionOf config (lit "flow"))
  let engine ← validateEngine (sectionOf config (lit "engine"))
  return config.setItem (.text (lit "engine")) (.dict engine)

/-- What the settings file holds. -/
inductive ConfigFile where
  | missing
  -- No YAML, with what the parser says about it.
  | malformed (detail : Str)
  | unreadable (exception : PyException)
  | document (value : PyObject)

/-- The mapping in the file; `explicit` when the caller named the file. -/
def readConfig
    (target : Str)
    (explicit : Bool)
    (file : ConfigFile) :
    Except ConfigError PyDict :=
  match file with
  | .missing =>
      if explicit then
        .error (.fileNotFoundError
          (lit "Config file not found: " ++ target))
      else
        .ok []
  | .malformed detail =>
      .error (.valueError
        (lit "Config error: cannot parse " ++ target ++ lit ": " ++ detail))
  | .unreadable exception => .error (.unreadable exception)
  | .document value =>
      match if value.truthy then value else .dict [] with
      | .dict items => .ok items
      | _ =>
          .error (.valueError
            (lit "Config error: " ++ target ++
              lit " must contain a YAML mapping at top level"))

/-- `load_config`. -/
def loadConfig
    (target : Str)
    (explicit : Bool)
    (file : ConfigFile) :
    Except ConfigError PyDict := do
  let user ← readConfig target explicit file
  checkUnknownKeys user
  validateConfig (mergeConfigs defaultConfig user)

end IntrusionDetection
