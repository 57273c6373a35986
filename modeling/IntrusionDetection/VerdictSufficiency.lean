import IntrusionDetection.FlowSettings
import IntrusionDetection.RuleMatcher
import IntrusionDetection.UncheckedUpdates

namespace IntrusionDetection

open PyText FaultPrecedence

/-!
# What a verdict of the preprocessor is worth

An event that the preprocessor found valid or partial has addresses, ports and
a time the flow tracker can use.  What the verdict does not ensure is that an
address can be encoded, that every object has a text and that the microseconds
of the time are a finite number.
-/

namespace RawEvent

/-- `_valid_port`. -/
def passesPortTest : PyObject → Bool
  | .int port => validPort port
  | _ => false

/-- What the tracker reads can be written as a text and encoded. -/
structure Representable
    (tables : PreprocessorTables)
    (event : RawEvent) :
    Prop where
  srcIp : ∀ text, event.srcIp = .str text → IsScalarText text
  dstIp : ∀ text, event.dstIp = .str text → IsScalarText text
  flags :
    (tables.flagTexts
      (getItem (asDict event.transportFields) "flags")).isOk = true
  appProtocol : (tables.appText event.appProtocol).isOk = true

/-- The microseconds of the time of the event are a finite number. -/
def StartsCountable
    (tables : PreprocessorTables)
    (event : RawEvent) :
    Prop :=
  ∀ ts,
    tables.normalizer.toFloat event.timestamp = some (.finite ts) →
    (startMicroseconds ts).isOk = true

end RawEvent

/-- Is there an entry the packet of an event may join? -/
def FlowTracker.joinsRaw
    (tables : PreprocessorTables)
    (setup : TrackerSetup)
    (tracker : FlowTracker)
    (event : RawEvent) :
    Bool :=
  (event.view? tables).any (tracker.joins setup)

/--
`update` does not raise, it places the event in a flow, and the ports pass the
test of the rules.
-/
def FlowTracker.Tracks
    (tables : PreprocessorTables)
    (setup : TrackerSetup)
    (tracker : FlowTracker)
    (event : RawEvent) :
    Prop :=
  ∃ next updated,
    tracker.updateRaw tables setup event = some (next, .ok updated) ∧
      updated.flowId.isNone = false ∧
      updated.direction.isNone = false ∧
      updated.flowState.isNone = false ∧
      RawEvent.passesPortTest updated.srcPort = true ∧
      RawEvent.passesPortTest updated.dstPort = true

/-! ### What the validator has found -/

/-- No finding makes the event invalid. -/
def Harmless (findings : List Finding) : Prop :=
  ∀ finding ∈ findings, finding.isInvalid = false

@[simp] theorem harmless_append {first second : List Finding} :
    Harmless (first ++ second) ↔ Harmless first ∧ Harmless second :=
  List.forall_mem_append

@[simp] theorem not_harmless_invalid (reason : Str) :
    ¬ Harmless [.invalid reason] := by
  simp [Harmless, Finding.isInvalid]

/-- The verdict is positive exactly if the findings are harmless. -/
theorem statusOf_ne_invalid_iff {findings : List Finding} :
    statusOf findings ≠ .invalid ↔ Harmless findings := by
  unfold statusOf
  cases severe : findings.any Finding.isInvalid with
  | true =>
      obtain ⟨finding, member, isSevere⟩ := List.any_eq_true.mp severe
      simp only [if_true, ne_eq, not_true_eq_false, false_iff]
      intro harmless
      rw [harmless finding member] at isSevere
      cases isSevere
  | false =>
      have harmless := List.any_eq_false.mp severe
      refine iff_of_true ?_ fun finding member =>
        Bool.not_eq_true _ ▸ harmless finding member
      rw [if_neg Bool.false_ne_true]
      split <;> decide

/-- What the tracker needs of an event apart from its texts. -/
structure RawEvent.Usable
    (tables : PreprocessorTables)
    (event : RawEvent) :
    Prop where
  srcIp :
    ∃ text compressed,
      event.srcIp = .str text ∧ text ≠ [] ∧
        IpAddress.compressed? (strip text) = some compressed
  dstIp :
    ∃ text compressed,
      event.dstIp = .str text ∧ text ≠ [] ∧
        IpAddress.compressed? (strip text) = some compressed
  srcPort :
    ∃ port : Int, event.srcPort = .int port ∧ validPort port = true
  dstPort :
    ∃ port : Int, event.dstPort = .int port ∧ validPort port = true
  timestamp :
    ∃ ts, tables.normalizer.toFloat event.timestamp = some (.finite ts)

namespace PreprocessorTables

variable {tables : PreprocessorTables}
variable {settings : PreprocessorSettings} {now : ℚ}
variable {event : RawEvent}

/-- An address that passed is a text that is read as an address. -/
theorem address_of_checks
    {field : Str}
    {address : PyObject}
    (isText : (RawEvent.text? address).isSome = true)
    (given : Harmless (checkRequired (field, address)))
    (readable : Harmless (checkAddress field address)) :
    ∃ text compressed,
      address = .str text ∧ text ≠ [] ∧
        IpAddress.compressed? (strip text) = some compressed := by
  cases address with
  | str text =>
      cases text with
      | nil =>
          simp [checkRequired, PyObject.isNone, PyObject.isText] at given
      | cons first rest =>
          cases read : IpAddress.compressed? (strip (first :: rest)) with
          | none =>
              simp [checkAddress, read] at readable
          | some compressed =>
              exact ⟨_, _, rfl, List.cons_ne_nil _ _, read⟩
  | none =>
      simp [checkRequired, PyObject.isNone] at given
  | _ =>
      cases isText

/-- A port that passed is a port number. -/
theorem port_of_checks
    {field : Str}
    {port : PyObject}
    (given : Harmless (checkPortGiven field port))
    (inRange : Harmless (validatePort field port)) :
    ∃ value : Int, port = .int value ∧ validPort value = true := by
  cases port with
  | int value =>
      refine ⟨value, rfl, decide_eq_true ?_⟩
      by_contra outside
      rw [portMax] at outside
      simp [validatePort, outside] at inRange
  | none =>
      simp [checkPortGiven, PyObject.isNone] at given
  | _ =>
      simp [validatePort] at inRange

/-- A timestamp that passed is a number a float can be made of. -/
theorem timestamp_of_checks
    {field : Str}
    {timestamp : PyObject}
    (given : Harmless (checkRequired (field, timestamp)))
    (finite : Harmless (checkTimestamp settings now timestamp)) :
    ∃ ts, tables.normalizer.toFloat timestamp = some (.finite ts) := by
  cases timestamp with
  | int value =>
      cases fits : fitsFloat value with
      | true =>
          exact ⟨floatOfInt value, by simp [NormalizerTables.toFloat, fits]⟩
      | false =>
          simp [checkTimestamp, fits] at finite
  | float value =>
      cases value with
      | finite ts =>
          exact ⟨ts, rfl⟩
      | infinite negative =>
          simp [checkTimestamp] at finite
      | nan =>
          simp [checkTimestamp] at finite
  | none =>
      simp [checkRequired, PyObject.isNone] at given
  | _ =>
      simp [checkTimestamp] at finite

/-- An event with harmless findings is usable. -/
theorem usable_of_findings
    {findings : List Finding}
    {name : Str}
    (srcText : (RawEvent.text? event.srcIp).isSome = true)
    (dstText : (RawEvent.text? event.dstIp).isSome = true)
    (protocol : event.transportProtocol = .str name)
    (tracked : isTcpOrUdp (some (upper name)) = true)
    (found : tables.findings settings now event = .ok findings)
    (harmless : Harmless findings) :
    event.Usable tables := by
  have notEmpty : name ≠ [] := by
    rintro rfl
    exact absurd tracked (by decide)
  obtain ⟨network, _, found⟩ := exists_of_bind_ok found
  obtain ⟨transProto, isTransProto, found⟩ := exists_of_bind_ok found
  obtain ⟨transport, isTransport, found⟩ := exists_of_bind_ok found
  cases found
  have transProtoName :
      tables.transProtoUpper event = .ok (some (upper name)) := by
    simp [transProtoUpper, protocol, PyObject.truthy, notEmpty, str]
  cases isTransProto.symm.trans transProtoName
  have transportPorts :
      tables.checkTransport event (some (upper name)) =
        .ok (checkPortGiven (lit "src_port") event.srcPort ++
          checkPortGiven (lit "dst_port") event.dstPort) := by
    simp only [checkTransport, tracked, if_true]
    rfl
  cases isTransport.symm.trans transportPorts
  simp only [harmless_append, requiredFields, List.flatMap_cons,
    List.flatMap_nil, checkPorts, tracked, if_true] at harmless
  obtain ⟨⟨⟨⟨⟨⟨⟨⟨required, _⟩, srcReadable⟩, dstReadable⟩, srcPortGiven,
    dstPortGiven⟩, srcInRange, dstInRange⟩, finite⟩, _⟩, _⟩ := harmless
  obtain ⟨_, timeGiven, srcGiven, dstGiven, _⟩ := required
  exact {
    srcIp := address_of_checks srcText srcGiven srcReadable
    dstIp := address_of_checks dstText dstGiven dstReadable
    srcPort := port_of_checks srcPortGiven srcInRange
    dstPort := port_of_checks dstPortGiven dstInRange
    timestamp := timestamp_of_checks timeGiven finite }

/-- An event that was judged positively, by checks, is usable. -/
theorem usable_of_validate
    {status : PreprocessStatus}
    {reasons : List Str}
    {name : Str}
    (parsed :
      event.status.isText (lit "MALFORMED") = false ∧
        event.status.isText (lit "UNKNOWN") = false)
    (srcText : (RawEvent.text? event.srcIp).isSome = true)
    (dstText : (RawEvent.text? event.dstIp).isSome = true)
    (protocol : event.transportProtocol = .str name)
    (tracked : isTcpOrUdp (some (upper name)) = true)
    (validated :
      tables.validate settings now event = .ok (status, reasons))
    (positive : status ≠ .invalid) :
    event.Usable tables := by
  simp only [validate, parsed.1, parsed.2, Bool.false_eq_true, if_false]
    at validated
  obtain ⟨findings, found, result⟩ := exists_of_bind_ok validated
  cases result
  exact usable_of_findings srcText dstText protocol tracked found
    (statusOf_ne_invalid_iff.mp positive)

/-! ### What the later steps leave -/

/-- A repaired container holds what there was of a dictionary. -/
theorem repairDict_fst (value : PyObject) :
    (repairDict value).1 = asDict value := by
  cases value <;> rfl

/-- Only `None` is `None`. -/
theorem eq_none_of_isNone
    {value : PyObject}
    (isNone : value.isNone = true) :
    value = .none := by
  cases value with
  | none =>
      rfl
  | _ =>
      cases isNone

/-- An item that is filled in under `flags` adds no text. -/
theorem flagTexts_fillItem (items : PyDict) :
    tables.flagTexts
        (getItem (fillItem items "flags" (.list [])).1 "flags") =
      tables.flagTexts (getItem items "flags") := by
  cases missing : (getItem items "flags").isNone with
  | false =>
      simp only [fillItem, missing, Bool.false_eq_true, if_false]
  | true =>
      have stored :
          getItem (items.setItem (fieldKey "flags") (.list [])) "flags" =
            .list [] := by
        rw [getItem, PyDict.get?_setItem, if_pos rfl, Option.getD_some]
      simp only [fillItem, missing, if_true, stored]
      rw [eq_none_of_isNone missing]
      rfl

/-- The defaults change containers only. -/
theorem fillDefaults_eq (tables : PreprocessorTables) (event : RawEvent) :
    ∃ networkFields transportFields appFields decodedFields,
      (tables.fillDefaults event).1 =
          { event with
            networkFields
            transportFields
            appFields
            decodedFields } ∧
        ((tables.fillDefaults event).2.isOk = true →
          tables.flagTexts (getItem (asDict transportFields) "flags") =
            tables.flagTexts
              (getItem (asDict event.transportFields) "flags")) := by
  unfold fillDefaults
  cases tables.str event.transportProtocol with
  | error exception =>
      refine ⟨_, _, _, _, rfl, fun isOk => ?_⟩
      cases isOk
  | ok transProto =>
      refine ⟨_, _, _, _, rfl, fun _ => ?_⟩
      split
      · rw [asDict, flagTexts_fillItem, repairDict_fst]
      · rw [asDict, repairDict_fst]

/-- The texts of the verdicts tell them apart. -/
theorem isPositive_iff (status : PreprocessStatus) :
    ((PyObject.str status.text).isText (lit "valid") = true ∨
        (PyObject.str status.text).isText (lit "partial") = true) ↔
      status ≠ .invalid := by
  cases status <;> decide

/-- Filling in defaults leaves the verdict alone. -/
theorem fillDefaults_preprocessStatus
    (tables : PreprocessorTables)
    (event : RawEvent) :
    (tables.fillDefaults event).1.preprocessStatus =
      event.preprocessStatus := by
  obtain ⟨_, _, _, _, same, _⟩ := tables.fillDefaults_eq event
  rw [same]

/-- Where a step raises before the verdict is written, it is negative. -/
theorem not_positive_of_error
    {reason : PyObject}
    {left : RawEvent}
    {exception : PyException}
    (ended :
      tables.preprocessEvent settings now event reason =
        (left, .error exception))
    (unchanged :
      left.preprocessStatus = .str PreprocessStatus.invalid.text) :
    ¬ ((tables.preprocessorStage settings now event
          reason).preprocessStatus.isText (lit "valid") = true ∨
        (tables.preprocessorStage settings now event
          reason).preprocessStatus.isText (lit "partial") = true) := by
  have verdict :
      (tables.preprocessorStage settings now event
        reason).preprocessStatus = .str PreprocessStatus.invalid.text := by
    simp only [preprocessorStage, ended]
    split <;> exact unchanged
  rw [verdict, isPositive_iff]
  exact not_not_intro rfl

/-- What a positive verdict says about the steps before it. -/
theorem steps_of_positive
    {reason : PyObject}
    (positive :
      (tables.preprocessorStage settings now event
          reason).preprocessStatus.isText (lit "valid") = true ∨
        (tables.preprocessorStage settings now event
          reason).preprocessStatus.isText (lit "partial") = true) :
    ∃ status reasons verdict action,
      tables.validate settings now (startedEvent event reason) =
          .ok (status, reasons) ∧
        status ≠ .invalid ∧
        verdict ≠ .invalid ∧
        (tables.fillDefaults
          (tables.normalizer.normalize
            (judgedEvent (startedEvent event reason)
              reasons)).1).2.isOk = true ∧
        tables.preprocessorStage settings now event reason =
          (tables.fillDefaults
            (tables.normalizer.normalize
              (judgedEvent (startedEvent event reason)
                reasons)).1).1.withVerdict verdict action := by
  cases validated :
      tables.validate settings now (startedEvent event reason) with
  | error exception =>
      have ended :
          tables.preprocessEvent settings now event reason =
            (startedEvent event reason, .error exception) := by
        simp only [preprocessEvent, validated]
      exact (not_positive_of_error ended rfl positive).elim
  | ok result =>
      obtain ⟨status, reasons⟩ := result
      generalize isNormalized :
        (if status = .invalid then
          (judgedEvent (startedEvent event reason) reasons, [])
        else
          tables.normalizer.normalize
            (judgedEvent (startedEvent event reason) reasons)) =
          normalized
      have unchanged :
          (tables.fillDefaults normalized.1).1.preprocessStatus =
            .str PreprocessStatus.invalid.text := by
        rw [tables.fillDefaults_preprocessStatus, ← isNormalized]
        split <;> rfl
      cases filled : (tables.fillDefaults normalized.1).2 with
      | error exception =>
          have ended :
              tables.preprocessEvent settings now event reason =
                ((tables.fillDefaults normalized.1).1,
                  .error exception) := by
            simp only [preprocessEvent, validated, isNormalized, filled]
          exact (not_positive_of_error ended unchanged positive).elim
      | ok hasDefaults =>
          cases unsupported :
              tables.anyUnsupported
                (tables.fillDefaults normalized.1).1.reason with
          | error exception =>
              have ended :
                  tables.preprocessEvent settings now event reason =
                    ((tables.fillDefaults normalized.1).1,
                      .error exception) := by
                simp only [preprocessEvent, validated, isNormalized,
                  filled, unsupported]
              exact (not_positive_of_error ended unchanged positive).elim
          | ok isUnsupported =>
              generalize isVerdict :
                verdictOf settings status isUnsupported
                  (!normalized.2.isEmpty) hasDefaults = verdict
              have stage :
                  tables.preprocessorStage settings now event reason =
                    (tables.fillDefaults normalized.1).1.withVerdict
                      verdict.1 verdict.2 := by
                simp only [preprocessorStage, preprocessEvent, validated,
                  isNormalized, filled, unsupported, isVerdict]
              rw [stage] at positive
              have verdictPositive := (isPositive_iff verdict.1).mp positive
              have statusPositive : status ≠ .invalid := by
                rintro rfl
                apply verdictPositive
                rw [← isVerdict, verdictOf, if_pos rfl]
                split <;> rfl
              rw [if_neg statusPositive] at isNormalized
              subst isNormalized
              refine ⟨status, reasons, verdict.1, verdict.2, rfl,
                statusPositive, verdictPositive, ?_, stage⟩
              rw [filled]
              rfl

/-- TCP and UDP are normalised from any letter case. -/
theorem protoStd_of_tracked
    (tables : NormalizerTables)
    {name : Str}
    (tracked : isTcpOrUdp (some (upper name)) = true) :
    tables.protoStd name = upper name := by
  have isName : upper name = lit "TCP" ∨ upper name = lit "UDP" := by
    simpa [isTcpOrUdp] using tracked
  have ascii : ∀ char ∈ name, char.val < 0x80 := by
    apply ascii_of_upper
    rcases isName with same | same <;> rw [same] <;>
      simp [lit, codePoint]
  have lowered : tables.characters.lower name = lower (upper name) :=
    (tables.characters.lower_ascii name ascii).trans
      (lower_upper ascii).symm
  rw [NormalizerTables.protoStd, lowered]
  rcases isName with same | same <;> rw [same] <;> rfl

/-- The application protocol has a text before exactly if it has one after. -/
theorem appText_normalizeProtocol (protocol : PyObject) :
    (tables.appText
        (tables.normalizer.normalizeProtocol protocol).1).isOk =
      (tables.appText protocol).isOk := by
  cases protocol <;> rfl

/-- A usable address is replaced by its compressed form. -/
theorem normalizeIp_of_compressed
    {field text compressed : Str}
    {address : PyObject}
    {reason : List PyObject}
    (isText : address = .str text)
    (notEmpty : text ≠ [])
    (read : IpAddress.compressed? (strip text) = some compressed) :
    (tables.normalizer.normalizeIp field address reason).1.1 =
      .str compressed := by
  subst isText
  cases text with
  | nil =>
      exact (notEmpty rfl).elim
  | cons first rest =>
      have same : tables.normalizer.compressed (strip (first :: rest)) =
          some compressed :=
        read
      simp only [NormalizerTables.normalizeIp, same]

/-- A usable time is replaced by a float. -/
theorem normalizeTimestamp_of_float
    {timestamp timestampIso : PyObject}
    {ts : PyFloat}
    (read : tables.normalizer.toFloat timestamp = some ts) :
    (tables.normalizer.normalizeTimestamp timestamp timestampIso).1.1 =
      .float ts := by
  simp only [NormalizerTables.normalizeTimestamp, read]
  split <;> rfl

end PreprocessorTables

/-! ### What the tracker makes of it -/

/-- An event with the fields that are left of a usable one. -/
structure RawEvent.Prepared
    (event : RawEvent)
    (packet : TrackedPacket) :
    Prop where
  srcIp : event.srcIp = .str packet.src.ip
  dstIp : event.dstIp = .str packet.dst.ip
  srcPort : event.srcPort = .int packet.src.port
  dstPort : event.dstPort = .int packet.dst.port
  timestamp : event.timestamp = .float (.finite packet.ts)
  transportProtocol :
    event.transportProtocol = .str packet.protocol.name
  positive : event.preprocessStatus.isText (lit "invalid") = false

namespace RawEvent.Prepared

variable {tables : PreprocessorTables} {setup : TrackerSetup}
variable {event : RawEvent} {packet : TrackedPacket}

/-- Valid ports have a text. -/
theorem portsWritable_of_valid
    (srcPort : validPort packet.src.port = true)
    (dstPort : validPort packet.dst.port = true) :
    FlowTracker.PortsWritable packet.key := by
  have writable
      {port : Int}
      (valid : validPort port = true) :
      (intText port).isOk = true := by
    have bounds : 0 ≤ port ∧ port ≤ portMax := of_decide_eq_true valid
    have small : port.natAbs < 10 ^ 5 := by
      rw [portMax] at bounds
      omega
    have short : (Nat.toDigits 10 port.natAbs).length ≤ 5 :=
      (Nat.length_toDigits_le_iff (by decide) (by decide)).mpr small
    rw [intText, if_pos (short.trans (by decide))]
    rfl
  rcases makeKey_endpoints packet.protocol
      packet.src.ip packet.src.port packet.dst.ip packet.dst.port with
    same | same <;>
    rw [TrackedPacket.key, same]
  · exact ⟨writable srcPort, writable dstPort⟩
  · exact ⟨writable dstPort, writable srcPort⟩

/-- The tracker can read a prepared event, and its filter lets it pass. -/
theorem exists_view
    (tables : PreprocessorTables)
    (prepared : event.Prepared packet) :
    ∃ view,
      event.view? tables = some view ∧
        trackedPacket? view = some packet ∧
        view.flags =
          tables.flagNames
            (getItem (asDict event.transportFields) "flags") ∧
        view.appProtocol = tables.appText event.appProtocol := by
  simp only [view?, prepared.srcIp, prepared.dstIp, prepared.srcPort,
    prepared.dstPort, text?, int?, Option.bind_eq_bind, Option.bind_some]
  refine ⟨_, rfl, ?_, rfl, rfl⟩
  obtain ⟨ts, protocol, src, dst⟩ := packet
  simp only [trackedPacket?, EventView.filter, EventView.select,
    prepared.timestamp, prepared.transportProtocol, prepared.positive,
    usableTime]
  cases protocol <;> rfl

/-- The flags have names exactly if they have texts. -/
theorem isOk_flagNames (flags : PyObject) :
    (tables.flagNames flags).isOk = (tables.flagTexts flags).isOk := by
  rw [PreprocessorTables.flagNames]
  cases tables.flagTexts flags <;> rfl

/--
A prepared event is tracked exactly if all texts can be had and it joins an
entry or the microseconds of its time are a finite number.
-/
theorem tracks_iff
    (prepared : event.Prepared packet)
    (srcPort : validPort packet.src.port = true)
    (dstPort : validPort packet.dst.port = true)
    {tracker : FlowTracker}
    (keys : tracker.KeysEncodable) :
    tracker.Tracks tables setup event ↔
      ((tables.flagTexts
            (getItem (asDict event.transportFields) "flags")).isOk =
            true ∧
          (IsScalarText packet.src.ip ∧ IsScalarText packet.dst.ip) ∧
          (tables.appText event.appProtocol).isOk = true) ∧
        ((startMicroseconds packet.ts).isOk = true ∨
          tracker.joinsRaw tables setup event = true) := by
  obtain ⟨view, isView, accepted, flags, app⟩ :=
    exists_view tables prepared
  have placed :=
    @FlowTracker.placed_iff setup tracker keys.consistent _ _ accepted
  rw [keys.not_fails_iff accepted
      (portsWritable_of_valid srcPort dstPort),
    flags, app, isOk_flagNames, FlowTracker.isScalarKey_iff] at placed
  have joins :
      tracker.joinsRaw tables setup event = tracker.joins setup view := by
    rw [FlowTracker.joinsRaw, isView, Option.any_some]
  have same :
      tracker.Tracks tables setup event ↔
        ∃ attachment,
          (tracker.update setup view).2 = .placed attachment none := by
    simp only [FlowTracker.Tracks, FlowTracker.updateRaw, isView,
      Option.map_some]
    cases result : (tracker.update setup view).2 with
    | skipped =>
        simp [UpdateResult.raised, withResult, PyObject.isNone]
    | failed exception =>
        simp [UpdateResult.raised]
    | placed attachment raised =>
        cases raised with
        | some exception =>
            simp [UpdateResult.raised]
        | none =>
            refine iff_of_true ?_ ⟨attachment, rfl⟩
            refine ⟨_, _, rfl, rfl, rfl, rfl, ?_, ?_⟩
            · simpa only [withResult, prepared.srcPort, passesPortTest]
                using srcPort
            · simpa only [withResult, prepared.dstPort, passesPortTest]
                using dstPort
  rw [same, placed, joins]
  tauto

end RawEvent.Prepared

/-! ### The whole stage -/

namespace PreprocessorTables

/-- A name of TCP or UDP in any letter case is that of a protocol. -/
theorem exists_protocol
    {name : Str}
    (tracked : isTcpOrUdp (some (upper name)) = true) :
    ∃ protocol : FlowProtocol, upper name = protocol.name := by
  have isName : upper name = lit "TCP" ∨ upper name = lit "UDP" := by
    simpa [isTcpOrUdp] using tracked
  rcases isName with same | same
  · exact ⟨.tcp, same⟩
  · exact ⟨.udp, same⟩

/-- The raw address can be encoded exactly if its compressed form can. -/
theorem isScalarText_iff_raw
    {address : PyObject}
    {raw compressed : Str}
    (isText : address = .str raw)
    (read : IpAddress.compressed? (strip raw) = some compressed) :
    IsScalarText compressed ↔
      ∀ text, address = .str text → IsScalarText text := by
  rw [IpAddress.isScalarText_compressed? read, isScalarText_strip_iff,
    isText]
  constructor
  · intro scalar text same
    cases same
    exact scalar
  · intro scalar
    exact scalar raw rfl

/--
The event after a positive verdict is prepared; its addresses are those of the
raw event in another form, and its other texts can be had exactly if those of
the raw event can.
-/
theorem prepared_of_positive
    {tables : PreprocessorTables}
    {settings : PreprocessorSettings}
    {now : ℚ}
    {event : RawEvent}
    {reason : PyObject}
    {name : Str}
    (parsed :
      event.status.isText (lit "MALFORMED") = false ∧
        event.status.isText (lit "UNKNOWN") = false)
    (srcText : (RawEvent.text? event.srcIp).isSome = true)
    (dstText : (RawEvent.text? event.dstIp).isSome = true)
    (protocol : event.transportProtocol = .str name)
    (tracked : isTcpOrUdp (some (upper name)) = true)
    {processed : RawEvent}
    (isProcessed :
      processed = tables.preprocessorStage settings now event reason)
    (positive :
      processed.preprocessStatus.isText (lit "valid") = true ∨
        processed.preprocessStatus.isText (lit "partial") = true) :
    ∃ packet : TrackedPacket,
      processed.Prepared packet ∧
        validPort packet.src.port = true ∧
        validPort packet.dst.port = true ∧
        ((startMicroseconds packet.ts).isOk = true ↔
          event.StartsCountable tables) ∧
        ((tables.flagTexts
              (getItem (asDict processed.transportFields)
                "flags")).isOk = true ∧
            (IsScalarText packet.src.ip ∧ IsScalarText packet.dst.ip) ∧
            (tables.appText processed.appProtocol).isOk = true ↔
          event.Representable tables) := by
  rw [isProcessed] at positive
  obtain ⟨status, reasons, verdict, action, validated, statusPositive,
    verdictPositive, filled, stage⟩ :=
      steps_of_positive positive
  obtain ⟨⟨srcRaw, src, srcIs, srcGiven, srcRead⟩,
    ⟨dstRaw, dst, dstIs, dstGiven, dstRead⟩, ⟨srcPort, srcPortIs, srcValid⟩,
    ⟨dstPort, dstPortIs, dstValid⟩, ⟨ts, tsIs⟩⟩ :=
      usable_of_validate parsed srcText dstText protocol tracked validated
        statusPositive
  obtain ⟨flowProtocol, isProtocol⟩ := exists_protocol tracked
  generalize isJudged :
    judgedEvent (startedEvent event reason) reasons = judged at *
  -- Up to the verdict and the reasons, this is still the raw event.
  obtain ⟨rawSrc, rawDst, rawSrcPort, rawDstPort, rawTime, rawProtocol,
    rawFields, rawApp⟩ :
      judged.srcIp = event.srcIp ∧ judged.dstIp = event.dstIp ∧
        judged.srcPort = event.srcPort ∧ judged.dstPort = event.dstPort ∧
        judged.timestamp = event.timestamp ∧
        judged.transportProtocol = event.transportProtocol ∧
        judged.transportFields = event.transportFields ∧
        judged.appProtocol = event.appProtocol := by
    subst isJudged
    exact ⟨rfl, rfl, rfl, rfl, rfl, rfl, rfl, rfl⟩
  obtain ⟨networkFields, transportFields, appFields, decodedFields, same,
    flags⟩ :=
      tables.fillDefaults_eq (tables.normalizer.normalize judged).1
  rw [stage, same] at isProcessed
  subst isProcessed
  refine ⟨⟨ts, flowProtocol, ⟨src, srcPort⟩, ⟨dst, dstPort⟩⟩, ?_, srcValid,
    dstValid, ?_, ?_⟩
  · constructor
    · exact normalizeIp_of_compressed (rawSrc.trans srcIs) srcGiven srcRead
    · exact normalizeIp_of_compressed (rawDst.trans dstIs) dstGiven dstRead
    · exact rawSrcPort.trans srcPortIs
    · exact rawDstPort.trans dstPortIs
    · apply normalizeTimestamp_of_float
      rw [rawTime]
      exact tsIs
    · have standard := protoStd_of_tracked tables.normalizer tracked
      have isText := rawProtocol.trans protocol
      simp only [RawEvent.withVerdict, NormalizerTables.normalize, isText,
        NormalizerTables.normalizeProtocol, standard, isProtocol]
    · cases verdict with
      | invalid => exact (verdictPositive rfl).elim
      | valid => rfl
      | partiallyValid => rfl
  · constructor
    · intro countable other isOther
      rw [tsIs] at isOther
      cases isOther
      exact countable
    · intro countable
      exact countable ts tsIs
  · have flagsSame := flags filled
    have app :
        (tables.appText
            (tables.normalizer.normalize judged).1.appProtocol).isOk =
          (tables.appText event.appProtocol).isOk := by
      rw [← rawApp]
      exact appText_normalizeProtocol judged.appProtocol
    have fields :
        (tables.normalizer.normalize judged).1.transportFields =
          event.transportFields :=
      rawFields
    rw [fields] at flagsSame
    simp only [RawEvent.withVerdict, flagsSame, app]
    rw [isScalarText_iff_raw srcIs srcRead,
      isScalarText_iff_raw dstIs dstRead]
    constructor
    · rintro ⟨flagTexts, ⟨srcScalar, dstScalar⟩, appText⟩
      exact ⟨srcScalar, dstScalar, flagTexts, appText⟩
    · rintro ⟨srcScalar, dstScalar, flagTexts, appText⟩
      exact ⟨flagTexts, ⟨srcScalar, dstScalar⟩, appText⟩

end PreprocessorTables

open FlowSettings in
/-- An accepted configuration has the settings of the preprocessor. -/
theorem exists_settings_of_loadConfig
    {target : Str}
    {explicit : Bool}
    {file : ConfigFile}
    {config : PyDict}
    (loaded : loadConfig target explicit file = .ok config) :
    ∃ settings, preprocessorSettings? config = some settings := by
  obtain ⟨user, _, untouched, checked, _⟩ := sections_of_loadConfig loaded
  unfold preprocessorSettings?
  rw [untouched (lit "preprocessor") (by decide)]
  generalize sectionOf (mergeConfigs defaultConfig user)
    (lit "preprocessor") = prep at checked
  obtain ⟨unsupported, isUnsupported, checked⟩ := exists_of_bind_ok checked
  obtain ⟨_, unsupportedChecked, checked⟩ := exists_of_bind_ok checked
  obtain ⟨invalid, isInvalid, checked⟩ := exists_of_bind_ok checked
  obtain ⟨_, invalidChecked, skewChecked⟩ := exists_of_bind_ok checked
  obtain ⟨skew, number, isSkew, isNumber, _⟩ := number_of_check skewChecked
  have isText :
      ∀ choices value,
        isOneOf choices value = true →
        ∃ text, value = .str text := by
    intro choices value chosen
    cases value with
    | str text =>
        exact ⟨text, rfl⟩
    | _ =>
        cases chosen
  obtain ⟨unsupportedPolicy, rfl⟩ :=
    isText _ _ (condition_of_check unsupportedChecked)
  obtain ⟨invalidPolicy, rfl⟩ :=
    isText _ _ (condition_of_check invalidChecked)
  have items (name : String) (value : PyObject)
      (found : prep.get? (.text (lit name)) = some value) :
      getItem prep name = value := by
    rw [getItem, fieldKey, found, Option.getD_some]
  simp only [items _ _ (get?_of_item isUnsupported),
    items _ _ (get?_of_item isInvalid), items _ _ isSkew]
  cases skew with
  | int value =>
      exact ⟨_, rfl⟩
  | float value =>
      cases value with
      | finite value =>
          exact ⟨_, rfl⟩
      | infinite negative =>
          cases isNumber.1
      | nan =>
          cases isNumber.1
  | _ =>
      cases isNumber.1

/-! ### Events for which the verdict suffices -/

/--
After a positive verdict on a TCP or UDP event whose addresses are texts, the
tracker tracks the event in a state it can reach exactly if no address has a
lone surrogate, `str` succeeds on the application protocol and on the flags,
and the microseconds of the time are a finite number or the packet joins a live
flow.
-/
theorem verdict_suffices_iff
    (tables : PreprocessorTables)
    (settings : PreprocessorSettings)
    (now : ℚ)
    (event : RawEvent)
    (reason : PyObject)
    (setup : TrackerSetup)
    (requests : List TrackerRequest)
    (parsed :
      event.status.isText (lit "MALFORMED") = false ∧
        event.status.isText (lit "UNKNOWN") = false)
    (texts :
      (RawEvent.text? event.srcIp).isSome = true ∧
        (RawEvent.text? event.dstIp).isSome = true)
    (protocol :
      ∃ name,
        event.transportProtocol = .str name ∧
          (upper name = lit "TCP" ∨ upper name = lit "UDP"))
    (positive :
      (tables.preprocessorStage settings now event
          reason).preprocessStatus.isText (lit "valid") = true ∨
        (tables.preprocessorStage settings now event
          reason).preprocessStatus.isText (lit "partial") = true) :
    (StepRuns.run (FlowTracker.answer setup)
          FlowTracker.fresh requests).1.Tracks tables setup
        (tables.preprocessorStage settings now event reason) ↔
      event.Representable tables ∧
        (event.StartsCountable tables ∨
          (StepRuns.run (FlowTracker.answer setup)
              FlowTracker.fresh requests).1.joinsRaw tables setup
            (tables.preprocessorStage settings now event reason) =
              true) := by
  obtain ⟨name, isName, tracked⟩ := protocol
  have isTracked :
      PreprocessorTables.isTcpOrUdp (some (upper name)) = true := by
    simpa [PreprocessorTables.isTcpOrUdp] using tracked
  obtain ⟨packet, prepared, srcPort, dstPort, countable, texts⟩ :=
    PreprocessorTables.prepared_of_positive parsed texts.1 texts.2 isName
      isTracked rfl positive
  have keys := FlowTracker.keysEncodable_run setup requests
  rw [prepared.tracks_iff srcPort dstPort keys, texts, countable]

/-- Tables that know ASCII, one date and no objects but texts and numbers. -/
def textTables : PreprocessorTables where
  characters := .ascii
  floatOfText := fun _ => none
  floatOfOther := fun _ => none
  isoFormat := fun value =>
    if value = 1700000000 then
      some (lit "2023-11-14T22:13:20+00:00")
    else
      none
  strOf := fun _ =>
    .error { typeName := lit "TypeError", message := [] }
  setItems := fun _ => []
  noMethod := fun _ _ =>
    { typeName := lit "AttributeError", message := [] }

/-- The default settings. -/
def defaultSettings : PreprocessorSettings where
  unsupportedPolicy := lit "mark"
  invalidPolicy := lit "flag"
  maxFutureTimestampSkewSec := 86400

/-- A tracker with its defaults and no callback. -/
def plainSetup : TrackerSetup where
  cfg := .empty
  onExport := none
  digest := id

/-- The first segment of a connection, from a given address. -/
def firstSegment (srcIp : Str) : RawEvent where
  packetId := .int 1
  timestamp := .int 1700000000
  srcIp := .str srcIp
  dstIp := .str (lit " 10.0.0.2")
  networkProtocol := .str (lit "ip")
  networkFields := .dict []
  srcPort := .int 50000
  dstPort := .int 80
  transportProtocol := .str (lit "Tcp")
  transportFields :=
    .dict [(fieldKey "flags", .list [.str (lit "syn")])]
  appProtocol := .none
  detectionMethod := .none
  appFields := .dict []
  rawLength := .int 60
  payloadLength := .int 0
  status := .str (lit "OK")
  errorInfo := .none
  decodedFields := .dict []
  decodeStatus := .none
  timestampIso := .none
  preprocessStatus := .none
  processingAction := .none
  reason := []
  flowId := .none
  direction := .none
  flowState := .none
  payload := .none

/-- A segment in odd spelling is tracked, by a tracker that was used before. -/
theorem firstSegment_tracked :
    (StepRuns.run (FlowTracker.answer plainSetup)
          FlowTracker.fresh [.sweep (some 3), .flush]).1.Tracks
        textTables plainSetup
        (textTables.preprocessorStage defaultSettings 1700000000
          (firstSegment (lit "FE80:0::1%eth0")) .none) := by
  refine (verdict_suffices_iff textTables defaultSettings 1700000000
    (firstSegment (lit "FE80:0::1%eth0")) .none plainSetup
    [.sweep (some 3), .flush] (by decide) (by decide)
    ⟨lit "Tcp", rfl, by decide⟩ (by decide +kernel)).mpr ⟨?_, Or.inl ?_⟩
  · constructor
    · intro text same
      cases same
      simp [IsScalarText, lit, codePoint]
    · intro text same
      cases same
      simp [IsScalarText, lit, codePoint]
    · rfl
    · rfl
  · intro ts isTime
    cases isTime
    decide +kernel

/-- A tracker that tracks an event does not raise. -/
theorem FlowTracker.Tracks.isOk
    {tables : PreprocessorTables}
    {setup : TrackerSetup}
    {tracker : FlowTracker}
    {event : RawEvent}
    (tracks : tracker.Tracks tables setup event) :
    (tracker.updateRaw tables setup event).map (fun answer => answer.2.isOk) =
      some true := by
  obtain ⟨next, updated, answer, _⟩ := tracks
  rw [answer]
  rfl

/-- A segment from an address with a lone surrogate in its scope. -/
def surrogateSegment : RawEvent :=
  firstSegment (lit "fe80::1%" ++ [chr 0xD800])

/-- The verdict on that segment is positive, and the tracker raises. -/
theorem surrogateSegment_raises :
    (surrogateSegment.status.isText (lit "MALFORMED") = false ∧
        surrogateSegment.status.isText (lit "UNKNOWN") = false) ∧
      ((RawEvent.text? surrogateSegment.srcIp).isSome = true ∧
        (RawEvent.text? surrogateSegment.dstIp).isSome = true) ∧
      surrogateSegment.transportProtocol = .str (lit "Tcp") ∧
      (textTables.preprocessorStage defaultSettings 1700000000
          surrogateSegment .none).preprocessStatus.isText
        (lit "valid") = true ∧
      ¬ FlowTracker.fresh.Tracks textTables plainSetup
        (textTables.preprocessorStage defaultSettings 1700000000
          surrogateSegment .none) := by
  refine ⟨by decide, by decide, rfl, by decide +kernel, fun tracks => ?_⟩
  have raises :
      (FlowTracker.fresh.updateRaw textTables plainSetup
          (textTables.preprocessorStage defaultSettings 1700000000
            surrogateSegment .none)).map (fun answer => answer.2.isOk) =
        some false := by
    decide +kernel
  cases tracks.isOk.symm.trans raises

end IntrusionDetection
