import IntrusionDetection.GuardedSteps
import IntrusionDetection.PacketParser

namespace IntrusionDetection

open PyText

/-!
# Decoder and preprocessor

The two stages between the packet parser and the flow tracker.  They write the
event in place, and what they wrote before they raised stays written.  What a
step writes is given as the values of the fields it writes.
-/

/-- A computation on an event that may raise. -/
abbrev EventM := EStateM PyException IDSEvent

/-! ### Decoder -/

/-- The fields of an event `decode_event` writes. -/
structure DecoderFields where
  decodedFields : PyValue
  decodeStatus : Option DecodeStatus
  reason : List Str

/-- What decoding one event writes, and the exception it ends in, if any. -/
abbrev DecoderBody := IDSEvent → DecoderFields × Except PyException Unit

/-- Write the fields of the decoder. -/
def IDSEvent.withDecoded
    (event : IDSEvent)
    (fields : DecoderFields) :
    IDSEvent :=
  { event with
    decodedFields := fields.decodedFields
    decodeStatus := fields.decodeStatus
    reason := fields.reason }

/-- `decode_event`, without its decorator. -/
def decodeEvent (body : DecoderBody) : EventM Unit := do
  let event ← get
  let (fields, outcome) := body event
  modify fun event => event.withDecoded fields
  MonadExcept.ofExcept outcome

/-! ### Preprocessor -/

/-- The fields of an event `normalize` writes. -/
structure NormalizedFields where
  timestamp : Option Time
  timestampIso : Option Str
  networkProtocol : Option Str
  transportProtocol : Option Str
  appProtocol : Option Str
  srcIp : Option Str
  dstIp : Option Str
  appFields : PyValue
  reason : List Str

/-- The fields of an event `fill_defaults` writes. -/
structure DefaultFields where
  networkFields : PyValue
  transportFields : PyValue
  appFields : PyValue
  decodedFields : PyValue
  reason : List Str

/--
The functions `preprocess_event` calls.  `normalize` tells whether it changed
anything, `fillDefaults` whether it filled anything.
-/
structure PreprocessorSteps where
  validate : IDSEvent → Except PyException (PreprocessStatus × List Str)
  normalize : IDSEvent → NormalizedFields × Except PyException Bool
  fillDefaults : IDSEvent → DefaultFields × Except PyException Bool

/-- The `preprocessor` section of the configuration. -/
structure PreprocessorCfg where
  unsupportedPolicy : Option Str
  invalidPolicy : Option Str

namespace IDSEvent

/-- Write the fields of the normaliser. -/
def withNormalized
    (event : IDSEvent)
    (fields : NormalizedFields) :
    IDSEvent :=
  { event with
    timestamp := fields.timestamp
    timestampIso := fields.timestampIso
    networkProtocol := fields.networkProtocol
    transportProtocol := fields.transportProtocol
    appProtocol := fields.appProtocol
    srcIp := fields.srcIp
    dstIp := fields.dstIp
    appFields := fields.appFields
    reason := fields.reason }

/-- Write the fields `fill_defaults` repairs. -/
def withDefaults
    (event : IDSEvent)
    (fields : DefaultFields) :
    IDSEvent :=
  { event with
    networkFields := fields.networkFields
    transportFields := fields.transportFields
    appFields := fields.appFields
    decodedFields := fields.decodedFields
    reason := fields.reason }

/-- Set the verdict of the preprocessor. -/
def withVerdict
    (event : IDSEvent)
    (status : PreprocessStatus)
    (action : ProcessingAction) :
    IDSEvent :=
  { event with
    preprocessStatus := some status
    processingAction := some action }

/-- Append a reason that is not there yet. -/
def addReason (event : IDSEvent) (reason : Str) : IDSEvent :=
  if reason ∈ event.reason then
    event
  else
    { event with reason := event.reason ++ [reason] }

/-- Append the reasons that are not there yet. -/
def addReasons (event : IDSEvent) (reasons : List Str) : IDSEvent :=
  reasons.foldl addReason event

end IDSEvent

/-- Does a reason report a protocol that is not supported? -/
def reportsUnsupported (reason : Str) : Bool :=
  startsWith (lit "unsupported_network") reason ||
    startsWith (lit "unsupported_transport") reason

/-- The verdict `apply_policies` reaches. -/
def policyVerdict
    (cfg : PreprocessorCfg)
    (status : PreprocessStatus)
    (reasons : List Str)
    (hasNormalizations hasDefaults : Bool) :
    PreprocessStatus × ProcessingAction :=
  if status = .invalid then
    if cfg.invalidPolicy.getD (lit "flag") = lit "drop" then
      (status, .dropped)
    else
      (status, .flagged)
  else if reasons.any reportsUnsupported then
    if cfg.unsupportedPolicy.getD (lit "mark") = lit "skip" then
      (.partiallyValid, .skipped)
    else
      (.partiallyValid, .flagged)
  else if hasNormalizations then
    (status, .normalized)
  else if hasDefaults then
    (status, .defaultsFilled)
  else
    (status, .none)

/-- `apply_policies`; without its section of the configuration it raises. -/
def applyPolicies
    (cfg : Option PreprocessorCfg)
    (status : PreprocessStatus)
    (reasons : List Str)
    (hasNormalizations hasDefaults : Bool) :
    EventM Unit :=
  match cfg with
  | none =>
      throw {
        typeName := lit "KeyError"
        message := lit "'preprocessor'" }
  | some cfg =>
      let (status, action) :=
        policyVerdict cfg status reasons hasNormalizations hasDefaults
      modify fun event => event.withVerdict status action

/-- Normalise an event that is not invalid. -/
def normalizeUnlessInvalid
    (steps : PreprocessorSteps)
    (status : PreprocessStatus) :
    EventM Bool := do
  if status = .invalid then
    return false
  else
    let event ← get
    let (fields, outcome) := steps.normalize event
    modify fun event => event.withNormalized fields
    MonadExcept.ofExcept outcome

/--
`preprocess_event`, without its decorator.  The conservative verdict is written
first, so that it stands whatever raises afterwards.
-/
def preprocessEvent
    (steps : PreprocessorSteps)
    (cfg : Option PreprocessorCfg) :
    EventM Unit := do
  modify fun event => event.withVerdict .invalid .flagged
  let event ← get
  let (status, reasons) ← MonadExcept.ofExcept (steps.validate event)
  modify fun event => event.addReasons reasons
  let hasNormalizations ← normalizeUnlessInvalid steps status
  let event ← get
  let (fields, outcome) := steps.fillDefaults event
  modify fun event => event.withDefaults fields
  let hasDefaults ← MonadExcept.ofExcept outcome
  let event ← get
  applyPolicies cfg status event.reason hasNormalizations hasDefaults

end IntrusionDetection
