import IntrusionDetection.Event
import IntrusionDetection.PyObjects

namespace IntrusionDetection

open PyText

/-!
# Events before their fields are checked

An `IDSEvent` as it reaches the preprocessor: any field may hold an object of
any type, apart from the reasons, which are a list by then.
-/

/-- An `IDSEvent` whose fields may hold anything. -/
structure RawEvent where
  packetId : PyObject
  timestamp : PyObject
  srcIp : PyObject
  dstIp : PyObject
  networkProtocol : PyObject
  networkFields : PyObject
  srcPort : PyObject
  dstPort : PyObject
  transportProtocol : PyObject
  transportFields : PyObject
  appProtocol : PyObject
  detectionMethod : PyObject
  appFields : PyObject
  rawLength : PyObject
  payloadLength : PyObject
  status : PyObject
  errorInfo : PyObject
  decodedFields : PyObject
  decodeStatus : PyObject
  timestampIso : PyObject
  preprocessStatus : PyObject
  processingAction : PyObject
  reason : List PyObject
  flowId : PyObject
  direction : PyObject
  flowState : PyObject
  payload : Payload

/-- `value == text` -/
def PyObject.isText (text : Str) : PyObject → Bool
  | .str known => known = text
  | _ => false

/-- `text in items` -/
def hasText (items : List PyObject) (text : Str) : Bool :=
  items.any (PyObject.isText text)

/-- Append a reason that is not there yet. -/
def appendReason (reason : List PyObject) (text : Str) : List PyObject :=
  if hasText reason text then reason else reason ++ [.str text]

/-- A text that was appended is there. -/
theorem hasText_appendReason (reason : List PyObject) (text : Str) :
    hasText (appendReason reason text) text = true := by
  unfold appendReason
  split
  · assumption
  · simp [hasText, PyObject.isText]

/-- Appending a reason removes none. -/
theorem hasText_appendReason_of_hasText
    {reason : List PyObject}
    {text : Str}
    (known : hasText reason text = true)
    (added : Str) :
    hasText (appendReason reason added) text = true := by
  unfold appendReason
  split
  · exact known
  · rw [hasText, List.any_append]
    exact Bool.or_eq_true_iff.mpr (Or.inl known)

end IntrusionDetection
