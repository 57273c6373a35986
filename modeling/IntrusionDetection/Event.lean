import IntrusionDetection.PyText
import Mathlib.Data.Rat.Defs
import Mathlib.Algebra.Order.Ring.Rat

namespace IntrusionDetection

open PyText

/-!
# Normalised packet events

`IDSEvent` is the record every stage of the pipeline receives and returns.
Times are exact rationals; a timestamp that is missing, not a number, NaN or
infinite is `none`, because every stage treats those alike.
-/

/-- Event time, in seconds since the epoch. -/
abbrev Time := ℚ

/-- A value of one of the free-form dictionaries of an event. -/
inductive PyValue where
  | none
  | bool (value : Bool)
  | int (value : Int)
  | str (value : Str)
  | list (items : List PyValue)
  | dict (items : List (Str × PyValue))
  | other (description : Str)

/-- `d.get(key)` for a dictionary value; anything else has no items. -/
def PyValue.get? (value : PyValue) (key : Str) : Option PyValue :=
  match value with
  | .dict items => (items.find? fun item => item.1 = key).map Prod.snd
  | _ => Option.none

/-- Outcome of the packet parser. -/
inductive EventStatus where
  | ok
  | unknown
  | malformed
  | ignored
  deriving Repr, DecidableEq

/-- Outcome of the decoder. -/
inductive DecodeStatus where
  | ok
  | partiallyDecoded
  | failed
  | skipped
  deriving Repr, DecidableEq

/-- Data quality verdict of the preprocessor. -/
inductive PreprocessStatus where
  | valid
  | partiallyValid
  | invalid
  deriving Repr, DecidableEq

/-- What the preprocessor decided to do with the event. -/
inductive ProcessingAction where
  | none
  | normalized
  | defaultsFilled
  | flagged
  | skipped
  | dropped
  deriving Repr, DecidableEq

/-- Direction of a packet relative to the sender of its flow's first packet. -/
inductive Direction where
  | forward
  | backward
  deriving Repr, DecidableEq

/-- State of a flow; `active` is the only state of a UDP flow. -/
inductive FlowState where
  | handshake
  | established
  | closing
  | closed
  | reset
  | active
  deriving Repr, DecidableEq

/-- `{"layer": ..., "detail": ...}` of a failed stage. -/
structure ErrorInfo where
  layer : Str
  detail : Str
  deriving DecidableEq

/-- An exception of the interpreter: its class name and its text. -/
structure PyException where
  typeName : Str
  message : Str
  deriving DecidableEq

/-- `str` of a whole number, which raises beyond a number of digits. -/
def intText (value : Int) : Except PyException Str :=
  if (Nat.toDigits 10 value.natAbs).length ≤ intMaxStrDigits then
    .ok (ofInt value)
  else
    .error {
      typeName := lit "ValueError"
      message :=
        lit "Exceeds the limit (4300 digits) for integer string " ++
          lit "conversion; use sys.set_int_max_str_digits() to " ++
          lit "increase the limit" }

/-- The text of the exception for the first surrogates of a text. -/
def encodeErrorText (text : Str) : Str :=
  let isEncodable := fun char => (utf8Char? char).isSome
  let start := (text.takeWhile isEncodable).length
  let surrogates :=
    (text.dropWhile isEncodable).takeWhile fun char => !isEncodable char
  let encoding := lit "'utf-8' codec can't encode character"
  let problem := lit ": surrogates not allowed"
  match surrogates with
  | [char] =>
      encoding ++ lit " '\\u" ++
        lit (String.ofList (Nat.toDigits 16 char.val)) ++
        lit "' in position " ++ ofInt start ++ problem
  | _ =>
      encoding ++ lit "s in position " ++ ofInt start ++ lit "-" ++
        ofInt (start + surrogates.length - 1) ++ problem

/-- `text.encode("utf-8")`. -/
def encodeText (text : Str) : Except PyException Bytes :=
  match utf8? text with
  | some encoded => .ok encoded
  | none =>
      .error {
        typeName := lit "UnicodeEncodeError"
        message := encodeErrorText text }

/-- The application bytes of a packet, by the kind of object that holds them. -/
inductive Payload where
  | none
  | bytes (data : Bytes)
  | bytearray (data : Bytes)
  | memoryview (data : Bytes)
  | other (truthy : Bool)
  deriving DecidableEq

/-- The normalised event handed from stage to stage. -/
structure IDSEvent where
  packetId : Int
  timestamp : Option Time
  srcIp : Option Str
  dstIp : Option Str
  networkProtocol : Option Str
  networkFields : PyValue
  srcPort : Option Int
  dstPort : Option Int
  transportProtocol : Option Str
  transportFields : PyValue
  appProtocol : Option Str
  detectionMethod : Option Str
  appFields : PyValue
  rawLength : Int
  payloadLength : Int
  status : EventStatus
  errorInfo : Option ErrorInfo
  decodedFields : PyValue
  decodeStatus : Option DecodeStatus
  timestampIso : Option Str
  preprocessStatus : Option PreprocessStatus
  processingAction : Option ProcessingAction
  reason : List Str
  flowId : Option Str
  direction : Option Direction
  flowState : Option FlowState
  payload : Payload

namespace IDSEvent

/-- `str(event.transport_protocol).upper()`. -/
def transportName (event : IDSEvent) : Str :=
  match event.transportProtocol with
  | none => lit "NONE"
  | some protocol => upper protocol

/-- Record a stage failure; an earlier error is never overwritten. -/
def recordError
    (event : IDSEvent)
    (layer detail : Str) :
    IDSEvent :=
  match event.errorInfo with
  | none => { event with errorInfo := some { layer, detail } }
  | some _ => event

/-- Clear the three fields that tie an event to a flow. -/
def clearFlow (event : IDSEvent) : IDSEvent :=
  { event with flowId := none, direction := none, flowState := none }

/-- An error that was already recorded survives `recordError`. -/
theorem errorInfo_recordError_of_some
    {event : IDSEvent}
    {info : ErrorInfo}
    (recorded : event.errorInfo = some info)
    (layer detail : Str) :
    (event.recordError layer detail).errorInfo = some info := by
  simp [recordError, recorded]

end IDSEvent

end IntrusionDetection
