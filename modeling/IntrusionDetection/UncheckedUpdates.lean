import IntrusionDetection.EncodableTexts
import IntrusionDetection.FlowIdentity
import IntrusionDetection.Preprocessor

namespace IntrusionDetection

open PyText

/-!
# Updates of unchecked events

`FlowTracker.update` on an event whose other fields may hold anything: the
tracker reads it through a view, in which taking the text of an object may
raise.  An update that raises after all does so because a text cannot be had or
because the identifier of a new flow cannot be made.
-/

namespace PreprocessorTables

variable (tables : PreprocessorTables)

/-- The items of a list, a tuple or a set. -/
def flagItems : PyObject → List PyObject
  | .list items => items
  | .tuple items => items
  | .other identity _ => tables.setItems identity
  | _ => []

/-- `str(f)` for every flag. -/
def flagTexts (flags : PyObject) : Except PyException (List Str) :=
  (tables.flagItems flags).mapM tables.str

/-- `normalize_flags`. -/
def flagNames (flags : PyObject) : Except PyException (List Str) :=
  (tables.flagTexts flags).map fun texts => texts.map upper

/-- Normalised flags are in upper case. -/
theorem upper_flagNames
    (flags : PyObject)
    (names : List Str)
    (areNames : tables.flagNames flags = .ok names) :
    ∀ name ∈ names, upper name = name := by
  rw [flagNames] at areNames
  cases texts : tables.flagTexts flags with
  | error exception =>
      rw [texts] at areNames
      cases areNames
  | ok texts' =>
      rw [texts] at areNames
      cases areNames
      intro name member
      obtain ⟨text, _, rfl⟩ := List.mem_map.mp member
      exact upper_upper text

/-- `str(event_app)`, if there is one. -/
def appText : PyObject → Except PyException (Option Str)
  | .none => .ok none
  | value => (tables.str value).map some

end PreprocessorTables

/-- A finite timestamp; `none` if it cannot be used. -/
def usableTime : PyObject → Except PyException (Option Time)
  | .int ts =>
      if fitsFloat ts then
        .ok (some (floatOfInt ts))
      else
        .error {
          typeName := lit "OverflowError"
          message := lit "int too large to convert to float" }
  | .float (.finite ts) => .ok (some ts)
  | _ => .ok none

namespace RawEvent

/-- A text or nothing; `none` is an object of another type. -/
def text? : PyObject → Option (Option Str)
  | .none => some none
  | .str text => some (some text)
  | _ => none

/-- A whole number or nothing; `none` is an object of another type. -/
def int? : PyObject → Option (Option Int)
  | .none => some none
  | .int value => some (some value)
  | _ => none

/-- The frame length, if it is a whole number. -/
def length : PyObject → Int
  | .int value => value
  | _ => 0

/--
The event as the tracker reads it; `none` if an address or a port is of another
type.
-/
def view?
    (tables : PreprocessorTables)
    (event : RawEvent) :
    Option EventView := do
  let srcIp ← text? event.srcIp
  let dstIp ← text? event.dstIp
  let srcPort ← int? event.srcPort
  let dstPort ← int? event.dstPort
  return {
    isInvalid := event.preprocessStatus.isText (lit "invalid")
    timestamp := usableTime event.timestamp
    transportProtocol := tables.str event.transportProtocol
    srcIp
    dstIp
    srcPort
    dstPort
    flags :=
      tables.flagNames (getItem (asDict event.transportFields) "flags")
    upperFlags := tables.upper_flagNames _
    appProtocol := tables.appText event.appProtocol
    rawLength := length event.rawLength
    payload := event.payload }

/-- What `update` leaves on the event. -/
def withResult (event : RawEvent) : UpdateResult → RawEvent
  | .skipped =>
      { event with flowId := .none, direction := .none, flowState := .none }
  | .failed _ => event
  | .placed attachment _ =>
      { event with
        flowId := .str attachment.flowId
        direction :=
          .str
            (if attachment.direction = .forward then lit "forward"
              else lit "backward")
        flowState := .str attachment.flowState.name }

end RawEvent

namespace FlowTracker

variable {setup : TrackerSetup}

/-! ### Identifiers that can be encoded -/

/-- Both addresses can be encoded. -/
def IsScalarKey (key : FlowKey) : Prop :=
  IsScalarText key.low.ip ∧ IsScalarText key.high.ip

/-- The addresses of a key are those of the packet. -/
theorem isScalarKey_iff (packet : TrackedPacket) :
    IsScalarKey packet.key ↔
      IsScalarText packet.src.ip ∧ IsScalarText packet.dst.ip := by
  rcases makeKey_endpoints packet.protocol
      packet.src.ip packet.src.port packet.dst.ip packet.dst.port with
    same | same <;>
    rw [TrackedPacket.key, same]
  · exact Iff.rfl
  · exact and_comm

/-- What the identifier adds to the addresses can be encoded. -/
theorem isScalarText_endpointsText_iff (key : FlowKey) :
    IsScalarText (endpointsText key) ↔ IsScalarKey key := by
  have bar : IsScalarText (lit "|") := by
    simp [IsScalarText, lit, codePoint]
  have colon : IsScalarText (lit ":") := by
    simp [IsScalarText, lit, codePoint]
  have number (value : Int) : IsScalarText (ofInt value) :=
    (isPlain_ofInt value).isScalarText
  simp only [endpointsText, isScalarText_append, bar, colon, number,
    and_true, IsScalarKey]

/-- The text of an identifier can be encoded if the addresses can. -/
theorem isScalarText_flowIdText_iff
    {packet : TrackedPacket}
    {text : Str}
    (written : flowIdText packet.key packet.ts = .ok text) :
    IsScalarText text ↔ IsScalarKey packet.key := by
  obtain ⟨startUs, _, isText⟩ := flowIdText_eq written
  have name : IsScalarText packet.protocol.name := by
    cases packet.protocol <;>
      simp [FlowProtocol.name, IsScalarText, lit, codePoint]
  have bar (rest : Str) :
      IsScalarText (codePoint '|' :: rest) ↔ IsScalarText rest := by
    simp [IsScalarText, codePoint]
  have number : IsScalarText (ofInt startUs) :=
    (isPlain_ofInt startUs).isScalarText
  simp only [isText, isScalarText_append, bar, name, number,
    isScalarText_endpointsText_iff, true_and, and_true]

/-- A text can be encoded exactly if it has no surrogates. -/
theorem isOk_encodeText_iff (text : Str) :
    (encodeText text).isOk = true ↔ IsScalarText text := by
  rw [← utf8?_isSome_iff, encodeText]
  cases utf8? text <;> simp [Except.isOk, Except.toBool]

/-- Both ports have a text. -/
def PortsWritable (key : FlowKey) : Prop :=
  (intText key.low.port).isOk = true ∧
    (intText key.high.port).isOk = true

/-- The text of an identifier needs a finite start and two writable ports. -/
theorem isOk_flowIdText_iff (packet : TrackedPacket) :
    (flowIdText packet.key packet.ts).isOk = true ↔
      (startMicroseconds packet.ts).isOk = true ∧
        PortsWritable packet.key := by
  simp only [flowIdText, PortsWritable]
  cases startMicroseconds packet.ts with
  | error exception =>
      simp [bind, Except.bind, Except.isOk, Except.toBool]
  | ok startUs =>
      cases intText packet.key.low.port <;>
        cases intText packet.key.high.port <;>
        simp [bind, Except.bind, pure, Except.pure, Except.isOk,
          Except.toBool]

/--
An identifier can be made exactly if the number of microseconds is finite, the
ports have a text and the addresses can be encoded.
-/
theorem isOk_makeFlowId_iff
    (digest : Str → Str)
    (packet : TrackedPacket) :
    (makeFlowId digest packet.key packet.ts).isOk = true ↔
      ((startMicroseconds packet.ts).isOk = true ∧
          PortsWritable packet.key) ∧
        IsScalarKey packet.key := by
  rw [← isOk_flowIdText_iff]
  cases written : flowIdText packet.key packet.ts with
  | error exception =>
      simp [makeFlowId, written, bind, Except.bind, Except.isOk,
        Except.toBool]
  | ok text =>
      rw [← isScalarText_flowIdText_iff written, ← isOk_encodeText_iff]
      cases encoded : encodeText text <;>
        simp [makeFlowId, written, encoded, bind, Except.bind, pure,
          Except.pure, Except.isOk, Except.toBool]

/-! ### No live entry lacks an identifier -/

/-- Every live entry is under its own key, and its addresses are encodable. -/
structure KeysEncodable (tracker : FlowTracker) : Prop where
  consistent : tracker.Consistent
  scalar :
    ∀ key entry,
      tracker.table.get? key = some entry →
      IsScalarKey entry.flow.key

namespace KeysEncodable

variable {tracker : FlowTracker}

/-- A fresh tracker has no live entry. -/
theorem fresh : fresh.KeysEncodable where
  consistent := consistent_fresh
  scalar := by
    intro key entry live
    simp [FlowTracker.fresh] at live

/-- Tracking a packet keeps the addresses of the table encodable. -/
theorem track
    (keys : tracker.KeysEncodable)
    (packet : TrackedPacket)
    (event : EventView) :
    (tracker.track setup packet event).1.KeysEncodable where
  consistent := keys.consistent.track setup packet event
  scalar := by
    refine live_track keys.consistent keys.scalar ?_ ?_ ?_
    · intro entry scalar
      exact scalar
    · intro entry scalar _
      rw [recordPacket_key]
      exact scalar
    · intro flowId attachment named _ _
      rw [recordPacket_key]
      have isNamed :
          (makeFlowId setup.digest packet.key packet.ts).isOk = true := by
        rw [named]
        rfl
      exact ((isOk_makeFlowId_iff setup.digest packet).mp isNamed).2

variable (setup) in
/-- Every request leaves encodable keys. -/
theorem answer
    (keys : tracker.KeysEncodable)
    (request : TrackerRequest) :
    (tracker.answer setup request).1.KeysEncodable := by
  by_cases isUpdate : ∃ event, request = .update event
  · obtain ⟨event, rfl⟩ := isUpdate
    cases accepted : trackedPacket? event with
    | none =>
        rw [answer_ignored tracker accepted]
        exact keys
    | some packet =>
        rw [answer_tracked tracker accepted]
        exact keys.track packet event
  · obtain ⟨exported, exports, _, sameTable, _⟩ :=
      answer_exports setup keys.consistent
        fun event isUpdate' => isUpdate ⟨event, isUpdate'⟩
    refine ⟨keys.consistent.answer setup request, ?_⟩
    intro key entry live
    rw [sameTable] at live
    exact keys.scalar key entry (exports.live_before live)

end KeysEncodable

variable (setup) in
/-- Whatever requests came, every live key is encodable. -/
theorem keysEncodable_run (requests : List TrackerRequest) :
    (StepRuns.run (answer setup) fresh requests).1.KeysEncodable :=
  StepRuns.invariant_of_step KeysEncodable.fresh
    fun _ request _ keys => keys.answer setup request

/-! ### Which updates raise -/

/-- Is there an entry the packet of an event may join? -/
def joins
    (setup : TrackerSetup)
    (tracker : FlowTracker)
    (event : EventView) :
    Bool :=
  (trackedPacket? event).any fun packet =>
    (joinable setup.cfg packet event.flagSet
      (tracker.table.get? packet.key)).isSome

/-- The addresses of a packet that joins an entry can be encoded. -/
theorem KeysEncodable.scalar_of_joins
    {tracker : FlowTracker}
    (keys : tracker.KeysEncodable)
    {event : EventView}
    {packet : TrackedPacket}
    (accepted : trackedPacket? event = some packet)
    (joins : tracker.joins setup event = true) :
    IsScalarKey packet.key := by
  rw [FlowTracker.joins, accepted, Option.any_some] at joins
  cases live : tracker.table.get? packet.key with
  | none =>
      simp [live, joinable] at joins
  | some entry =>
      rw [← keys.consistent _ _ live]
      exact keys.scalar _ _ live

/--
A packet whose ports have a text gets its place exactly if its flags have one,
its addresses can be encoded, and it joins an entry or the microseconds of its
time are a finite number.
-/
theorem KeysEncodable.not_fails_iff
    {tracker : FlowTracker}
    (keys : tracker.KeysEncodable)
    {event : EventView}
    {packet : TrackedPacket}
    (accepted : trackedPacket? event = some packet)
    (ports : PortsWritable packet.key) :
    tracker.fails setup event = false ↔
      event.flags.isOk = true ∧
        IsScalarKey packet.key ∧
        (tracker.joins setup event = true ∨
          (startMicroseconds packet.ts).isOk = true) := by
  cases flags : event.flags with
  | error exception =>
      simp [fails, accepted, flags, Except.isOk, Except.toBool]
  | ok names =>
      have named := isOk_makeFlowId_iff setup.digest packet
      simp only [ports, and_true] at named
      have sameFlags : event.flagSet = names := by
        rw [EventView.flagSet, flags]
      have noFailure :
          tracker.fails setup event = false ↔
            tracker.joins setup event = true ∨
              (makeFlowId setup.digest packet.key packet.ts).isOk =
                true := by
        simp only [fails, joins, accepted, flags, Option.any_some,
          sameFlags]
        cases joinable setup.cfg packet names
          (tracker.table.get? packet.key) <;> simp
      have flagsRead : (Except.ok names : Except PyException _).isOk =
          true :=
        rfl
      rw [noFailure, named, flagsRead]
      constructor
      · rintro (joins | ⟨countable, scalar⟩)
        · exact ⟨rfl, keys.scalar_of_joins accepted joins, Or.inl joins⟩
        · exact ⟨rfl, scalar, Or.inr countable⟩
      · rintro ⟨_, scalar, joins | countable⟩
        · exact Or.inl joins
        · exact Or.inr ⟨countable, scalar⟩

/--
An update places its event without raising exactly if it does not fail and the
application protocol has a text.
-/
theorem placed_iff
    {tracker : FlowTracker}
    (consistent : tracker.Consistent)
    {event : EventView}
    {packet : TrackedPacket}
    (accepted : trackedPacket? event = some packet) :
    (∃ attachment,
        (tracker.update setup event).2 = .placed attachment none) ↔
      tracker.fails setup event = false ∧
        event.appProtocol.isOk = true := by
  rw [update_accepted setup tracker accepted]
  cases tracking setup consistent packet event with
  | unread exception noFlags left failed =>
      simp [fails, accepted, noFlags, failed]
  | unnamed released exception flags release noName left failed =>
      rw [fails_of_noName accepted flags release noName, failed]
      simp
  | recorded attached entry flags attaching left placed =>
      rw [attaching.not_fails accepted flags, placed]
      cases app : event.appProtocol <;>
        simp [EventView.appFault, app, Except.isOk, Except.toBool]

/-- `update` on an event: the tracker, and the event unless it raised. -/
def updateRaw
    (tables : PreprocessorTables)
    (setup : TrackerSetup)
    (tracker : FlowTracker)
    (event : RawEvent) :
    Option (FlowTracker × Except PyException RawEvent) :=
  (event.view? tables).map fun view =>
    let updated := tracker.update setup view
    (updated.1,
      match updated.2.raised with
      | none => .ok (event.withResult updated.2)
      | some exception => .error exception)

end FlowTracker

end IntrusionDetection
