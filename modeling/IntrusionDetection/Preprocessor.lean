import IntrusionDetection.PacketStages
import IntrusionDetection.Validator

namespace IntrusionDetection

open PyText

/-!
# The preprocessor on unchecked events

Validation, normalisation, defaults and policies in sequence, on an event whose
fields may hold anything.  A step that raises leaves what was written before.
-/

/-- The verdict as the event holds it. -/
def PreprocessStatus.text : PreprocessStatus → Str
  | .valid => lit "valid"
  | .partiallyValid => lit "partial"
  | .invalid => lit "invalid"

/-- The action as the event holds it. -/
def ProcessingAction.text : ProcessingAction → Str
  | .none => lit "none"
  | .normalized => lit "normalized"
  | .defaultsFilled => lit "defaults_filled"
  | .flagged => lit "flagged"
  | .skipped => lit "skipped"
  | .dropped => lit "dropped"

/-- What the preprocessor reads from a configuration that was accepted. -/
def preprocessorSettings? (config : PyDict) :
    Option PreprocessorSettings :=
  let prep := sectionOf config (lit "preprocessor")
  match getItem prep "unsupported_policy", getItem prep "invalid_policy",
      getItem prep "max_future_timestamp_skew_sec" with
  | .str unsupportedPolicy, .str invalidPolicy, .int skew =>
      some ⟨unsupportedPolicy, invalidPolicy, floatOfInt skew⟩
  | .str unsupportedPolicy, .str invalidPolicy, .float (.finite skew) =>
      some ⟨unsupportedPolicy, invalidPolicy, skew⟩
  | _, _, _ => none

namespace RawEvent

/-- Set the verdict of the preprocessor. -/
def withVerdict
    (event : RawEvent)
    (status : PreprocessStatus)
    (action : ProcessingAction) :
    RawEvent :=
  { event with
    preprocessStatus := .str status.text
    processingAction := .str action.text }

end RawEvent

/-! ### Defaults -/

/-- A container that is not a dictionary becomes an empty one. -/
def repairDict : PyObject → PyDict × Bool
  | .dict items => (items, false)
  | _ => ([], true)

/-- Store a default under a name that holds nothing. -/
def fillItem (items : PyDict) (name : String) (default : PyObject) :
    PyDict × Bool :=
  if (getItem items name).isNone then
    (items.setItem (fieldKey name) default, true)
  else
    (items, false)

/-- The defaults of HTTP and of DNS. -/
def fillAppFields (appProtocol : PyObject) (appFields : PyDict) :
    PyDict × Bool :=
  if appProtocol.isText (lit "HTTP") then
    let headers := fillItem appFields "headers" (.dict [])
    let pairs := fillItem headers.1 "header_pairs" (.list [])
    (pairs.1, headers.2 || pairs.2)
  else if appProtocol.isText (lit "DNS") then
    let queries := fillItem appFields "queries" (.list [])
    let answers := fillItem queries.1 "answers" (.list [])
    (answers.1, queries.2 || answers.2)
  else
    (appFields, false)

namespace PreprocessorTables

variable (tables : PreprocessorTables)

/-- `fill_defaults`: the event, and whether anything was filled. -/
def fillDefaults (event : RawEvent) :
    RawEvent × Except PyException Bool :=
  let networkFields := repairDict event.networkFields
  let transportFields := repairDict event.transportFields
  let appFields := repairDict event.appFields
  let decodedFields := repairDict event.decodedFields
  let repaired :=
    { event with
      networkFields := .dict networkFields.1
      transportFields := .dict transportFields.1
      appFields := .dict appFields.1
      decodedFields := .dict decodedFields.1 }
  match tables.str event.transportProtocol with
  | .error exception => (repaired, .error exception)
  | .ok transProto =>
      let flags :=
        if upper transProto = lit "TCP" then
          fillItem transportFields.1 "flags" (.list [])
        else
          (transportFields.1, false)
      let filled := fillAppFields event.appProtocol appFields.1
      ({ repaired with
          transportFields := .dict flags.1
          appFields := .dict filled.1 },
        .ok (networkFields.2 || transportFields.2 || appFields.2 ||
          decodedFields.2 || flags.2 || filled.2))

/-! ### Policies -/

/-- Is a reason that of a protocol that is not supported? -/
def anyUnsupported : List PyObject → Except PyException Bool
  | [] => .ok false
  | .str reason :: rest =>
      if reportsUnsupported reason then .ok true else anyUnsupported rest
  | reason :: _ => .error (tables.noMethod reason (lit "startswith"))

/-- The verdict of `apply_policies`. -/
def verdictOf
    (settings : PreprocessorSettings)
    (status : PreprocessStatus)
    (isUnsupported hasNormalizations hasDefaults : Bool) :
    PreprocessStatus × ProcessingAction :=
  if status = .invalid then
    if settings.invalidPolicy = lit "drop" then
      (status, .dropped)
    else
      (status, .flagged)
  else if isUnsupported then
    if settings.unsupportedPolicy = lit "skip" then
      (.partiallyValid, .skipped)
    else
      (.partiallyValid, .flagged)
  else if hasNormalizations then
    (status, .normalized)
  else if hasDefaults then
    (status, .defaultsFilled)
  else
    (status, .none)

/-! ### The stage -/

/-- A reason that is not a list becomes an empty one. -/
def reasonList : PyObject → List PyObject
  | .list reason => reason
  | _ => []

/-- The conservative verdict, which stands until the last step. -/
def startedEvent (event : RawEvent) (reason : PyObject) : RawEvent :=
  { event.withVerdict .invalid .flagged with
    reason := reasonList reason }

/-- Add the reasons of the validator. -/
def judgedEvent (started : RawEvent) (reasons : List Str) : RawEvent :=
  { started with reason := reasons.foldl appendReason started.reason }

/--
`preprocess_event` without its decorator: the event, and the exception if one
was raised.  `reason` is what the event's field holds.
-/
def preprocessEvent
    (settings : PreprocessorSettings)
    (now : ℚ)
    (event : RawEvent)
    (reason : PyObject) :
    RawEvent × Except PyException Unit :=
  let started := startedEvent event reason
  match tables.validate settings now started with
  | .error exception => (started, .error exception)
  | .ok (status, reasons) =>
      let judged := judgedEvent started reasons
      let normalized :=
        if status = .invalid then (judged, [])
        else tables.normalizer.normalize judged
      let filled := tables.fillDefaults normalized.1
      match filled.2, tables.anyUnsupported filled.1.reason with
      | .error exception, _ => (filled.1, .error exception)
      | _, .error exception => (filled.1, .error exception)
      | .ok hasDefaults, .ok isUnsupported =>
          let verdict :=
            verdictOf settings status isUnsupported
              (!normalized.2.isEmpty) hasDefaults
          (filled.1.withVerdict verdict.1 verdict.2, .ok ())

/-- `preprocess_event`: an exception is recorded on the event. -/
def preprocessorStage
    (settings : PreprocessorSettings)
    (now : ℚ)
    (event : RawEvent)
    (reason : PyObject) :
    RawEvent :=
  match tables.preprocessEvent settings now event reason with
  | (left, .ok ()) => left
  | (left, .error exception) =>
      if left.errorInfo.isNone then
        { left with
          errorInfo :=
            .dict
              [(fieldKey "layer", .str (lit "preprocessor")),
                (fieldKey "detail", .str exception.message)] }
      else
        left

end PreprocessorTables

end IntrusionDetection
