import IntrusionDetection.FaultPrecedence
import IntrusionDetection.FlowContext
import IntrusionDetection.FlowIdentity
import IntrusionDetection.JsonlLogger
import IntrusionDetection.LoaderAccounting
import Mathlib.Data.Rat.Encodable

namespace IntrusionDetection

open PyText FaultPrecedence
open Json (Numerals)

/-!
# Records as they are logged

`to_dict` of a rule record and of a flow, and the report of a load.  The times
of a flow are exact, and so is its duration.  A report that is read back has
the numbers of the load.
-/

/-- A field that may be `None`. -/
def optional
    {Value Number : Type}
    (write : Value → Json Number)
    (value : Option Value) :
    Json Number :=
  match value with
  | none => .null
  | some value => write value

/-! ### Rule records -/

/-- The status as the report spells it. -/
def RuleStatus.text : RuleStatus → Str
  | .valid => lit "valid"
  | .invalid => lit "invalid"
  | .unsupported => lit "unsupported"
  | .disabled => lit "disabled"

/-- The reason as the report spells it. -/
def RecordOutcome.reason : RecordOutcome → Option Str
  | .valid => none
  | .rejected reason => some reason.code
  | .disabled => some (lit "disabled:sid")

/-- `RuleRecord.to_dict`. -/
def RuleRecord.toDict
    {Number : Type}
    (record : RuleRecord) :
    Json Number :=
  .dict [
    (lit "file", .str record.file),
    (lit "line", .int record.line),
    (lit "status", .str record.outcome.status.text),
    (lit "reason", optional .str record.outcome.reason),
    (lit "sid", optional .int record.sid),
    (lit "text", .str record.text)]

/-! ### Flows -/

/-- The reason as the flow log spells it. -/
def CloseReason.text : CloseReason → Str
  | .tcpClosed => lit "tcp_closed"
  | .tcpReset => lit "tcp_reset"
  | .idleTimeout => lit "idle_timeout"
  | .handshakeTimeout => lit "handshake_timeout"
  | .portReuse => lit "port_reuse"
  | .evicted => lit "evicted"
  | .flush => lit "flush"

/-- One end of a flow. -/
def Endpoint.toDict (endpoint : Endpoint) : Json Time :=
  .dict [(lit "ip", .str endpoint.ip), (lit "port", .int endpoint.port)]

/-- `Flow.duration`. -/
def Flow.duration (flow : Flow) : Time :=
  max 0 (flow.lastSeen - flow.startTime)

/-- `Flow.to_dict`. -/
def Flow.toDict (flow : Flow) : Json Time :=
  .dict [
    (lit "flow_id", .str flow.flowId),
    (lit "protocol", .str flow.protocol.name),
    (lit "endpoint_a", flow.endpointA.toDict),
    (lit "endpoint_b", flow.endpointB.toDict),
    (lit "application_protocol", optional .str flow.applicationProtocol),
    (lit "start_time", .number flow.startTime),
    (lit "last_seen", .number flow.lastSeen),
    (lit "duration", .number flow.duration),
    (lit "packet_count", .int flow.packetCount),
    (lit "byte_count", .int flow.byteCount),
    (lit "payload_byte_count", .int flow.payloadByteCount),
    (lit "fwd_packet_count", .int flow.fwdPacketCount),
    (lit "fwd_byte_count", .int flow.fwdByteCount),
    (lit "bwd_packet_count", .int flow.bwdPacketCount),
    (lit "bwd_byte_count", .int flow.bwdByteCount),
    (lit "syn_count", .int flow.synCount),
    (lit "ack_count", .int flow.ackCount),
    (lit "fin_count", .int flow.finCount),
    (lit "rst_count", .int flow.rstCount),
    (lit "state", .str flow.state.name),
    (lit "close_reason", optional (fun reason => .str reason.text)
      flow.closeReason),
    (lit "midstream", .bool flow.midstream)]

/-- A field shows whether it is there, and its value. -/
theorem optional_injective
    {Value Number : Type}
    {write : Value → Json Number}
    (injective : Function.Injective write)
    (neverNull : ∀ value, write value ≠ .null) :
    Function.Injective (optional write) := by
  intro first second same
  cases first with
  | none =>
      cases second with
      | none =>
          rfl
      | some value =>
          exact absurd same.symm (neverNull value)
  | some value =>
      cases second with
      | none =>
          exact absurd same (neverNull value)
      | some other =>
          exact congrArg some (injective same)

/-- Values that a table finds by their texts have different texts. -/
theorem injective_of_table
    {Value : Type}
    {text : Value → Str}
    (table : List Value)
    (found :
      ∀ value,
        table.find? (fun other => decide (text other = text value)) =
          some value) :
    Function.Injective text := by
  intro first second same
  have isFirst := found first
  rw [same, found second] at isFirst
  exact (Option.some.inj isFirst).symm

/-- Different states are spelled differently. -/
theorem FlowState.name_injective : Function.Injective FlowState.name :=
  injective_of_table
    [.handshake, .established, .closing, .closed, .reset, .active]
    fun state => by cases state <;> rfl

/-- Different reasons are spelled differently. -/
theorem CloseReason.text_injective :
    Function.Injective CloseReason.text :=
  injective_of_table
    [.tcpClosed, .tcpReset, .idleTimeout, .handshakeTimeout, .portReuse,
      .evicted, .flush]
    fun reason => by cases reason <;> rfl

/-- An endpoint is determined by its dictionary. -/
theorem Endpoint.toDict_injective : Function.Injective Endpoint.toDict := by
  intro first second same
  cases first
  cases second
  simp only [toDict, Json.dict.injEq, List.cons.injEq, Prod.mk.injEq,
    Json.str.injEq, Json.int.injEq, true_and, and_true] at same
  rw [same.1, same.2]

/-- A flow is determined by its dictionary. -/
theorem Flow.toDict_injective : Function.Injective Flow.toDict := by
  have optionalText :
      Function.Injective (@optional _ Time Json.str) :=
    optional_injective (fun _ _ same => Json.str.inj same)
      fun _ same => by cases same
  have optionalReason :
      Function.Injective
        (@optional _ Time fun reason : CloseReason => .str reason.text) :=
    optional_injective
      (fun _ _ same => CloseReason.text_injective (Json.str.inj same))
      fun _ same => by cases same
  intro first second same
  simp only [toDict, Json.dict.injEq, List.cons.injEq, Prod.mk.injEq,
    Json.str.injEq, Json.int.injEq, Json.number.injEq, Json.bool.injEq,
    true_and, and_true, Int.ofNat_inj] at same
  obtain ⟨flowId, protocol, endpointA, endpointB, application, start, last,
    _, packets, bytes, payload, fwdPackets, fwdBytes, bwdPackets, bwdBytes,
    syn, ack, fin, rst, state, reason, midstream⟩ := same
  cases first
  cases second
  rw [Flow.mk.injEq]
  exact ⟨flowId, name_injective protocol,
    Endpoint.toDict_injective endpointA, Endpoint.toDict_injective endpointB,
    optionalText application, start, last, packets, bytes, payload,
    fwdPackets, fwdBytes, bwdPackets, bwdBytes, syn, ack, fin, rst,
    FlowState.name_injective state, optionalReason reason, midstream⟩

/-! ### The flow log -/

section FlowLog

open JsonlLogger

variable (numerals : Numerals Time)

/-- The flow log after some flows were exported. -/
def logFlows (file : Bytes) (flows : List Flow) : JsonlLogger :=
  (openFile file).logAll numerals (flows.map fun flow => some flow.toDict)

/-- The flows whose texts can be encoded. -/
def encodable (flows : List Flow) : List Flow :=
  flows.filter fun flow => decide flow.toDict.IsScalar

/-- A flow is written exactly if its texts can be encoded. -/
theorem written?_toDict (flow : Flow) :
    written? numerals (some flow.toDict) =
      if flow.toDict.IsScalar then some flow.toDict else none := by
  have isWritten := isSome_line?_iff numerals (some flow.toDict)
  by_cases scalar : flow.toDict.IsScalar
  · rw [if_pos scalar, written?, if_pos]
    exact isWritten.mpr ⟨_, rfl, scalar⟩
  · rw [if_neg scalar, written?, if_neg]
    intro isSome
    obtain ⟨_, isDict, isScalar⟩ := isWritten.mp isSome
    cases isDict
    exact scalar isScalar

/-- The first flow is written, or it is left out. -/
theorem encodable_cons (flow : Flow) (rest : List Flow) :
    encodable (flow :: rest) =
      if flow.toDict.IsScalar then flow :: encodable rest
      else encodable rest := by
  by_cases scalar : flow.toDict.IsScalar
  · simp [encodable, scalar]
  · simp [encodable, scalar]

/-- The flows that are written are those whose texts can be encoded. -/
theorem written_flows (flows : List Flow) :
    (flows.map fun flow => some flow.toDict).filterMap
        (written? numerals) =
      (encodable flows).map Flow.toDict := by
  induction flows with
  | nil =>
      rfl
  | cons flow rest inductionHypothesis =>
      rw [List.map_cons, List.filterMap_cons, written?_toDict,
        encodable_cons, inductionHypothesis]
      by_cases scalar : flow.toDict.IsScalar
      · rw [if_pos scalar, if_pos scalar, List.map_cons]
      · rw [if_neg scalar, if_neg scalar]

/-- Only the flows that can be encoded leave a line, after what was there. -/
theorem file_logFlows (file : Bytes) (flows : List Flow) :
    (logFlows numerals file flows).file =
      file ++ (encodable flows).flatMap fun flow =>
        (line? numerals (some flow.toDict)).getD [] := by
  rw [logFlows, file_logAll]
  change List.foldl _ file _ = _
  induction flows generalizing file with
  | nil =>
      exact (List.append_nil file).symm
  | cons flow rest inductionHypothesis =>
      have isWritten := isSome_line?_iff numerals (some flow.toDict)
      rw [line?_eq, Option.isSome_map] at isWritten
      rw [List.map_cons, List.foldl_cons, inductionHypothesis,
        LineFile.appendRecord, encodable_cons]
      by_cases scalar : flow.toDict.IsScalar
      · obtain ⟨line, isLine⟩ :=
          Option.isSome_iff_exists.mp (isWritten.mpr ⟨_, rfl, scalar⟩)
        rw [if_pos scalar, isLine, List.flatMap_cons, line?_eq, isLine,
          ← List.append_assoc]
        rfl
      · have noLine : content? numerals (some flow.toDict) = none := by
          rw [← Option.not_isSome_iff_eq_none, isWritten]
          rintro ⟨_, isDict, isScalar⟩
          cases isDict
          exact scalar isScalar
        rw [if_neg scalar, noLine]

/--
Whatever the log held, it tells the exported flows apart: two runs leave the
same file if and only if they exported the same flows in the same order, up to
those with a text that cannot be encoded.
-/
theorem logFlows_file_eq_iff (file : Bytes) (first second : List Flow) :
    (logFlows numerals file first).file =
        (logFlows numerals file second).file ↔
      encodable first = encodable second := by
  rw [file_logFlows, file_logFlows]
  constructor
  · intro same
    have closed : LineFile.EndsLine newline ([] : Bytes) := by
      intro sign isLast
      cases isLast
    have reads :
        ∀ flows,
          readLog numerals (logFlows numerals [] flows).file =
            some ((encodable flows).map Flow.toDict) := by
      intro flows
      rw [← written_flows numerals flows]
      exact (readLog_file_logAll numerals closed
        (show readLog numerals [] = some [] from rfl) _).2
    have sameFile :
        (logFlows numerals [] first).file =
          (logFlows numerals [] second).file := by
      rw [file_logFlows, file_logFlows, List.append_cancel_left same]
    have sameDicts :
        some ((encodable first).map Flow.toDict) =
          some ((encodable second).map Flow.toDict) := by
      rw [← reads, ← reads, sameFile]
    exact List.map_injective_iff.mpr Flow.toDict_injective
      (Option.some.inj sameDicts)
  · intro same
    rw [same]

/-- A time by its number among all times, and a point. -/
def countedTime (time : Time) : Str :=
  ofInt (.ofNat (Encodable.encode time)) ++ lit ".0"

/-- The time of a number with a point. -/
def timeOf? (word : Str) : Option Time :=
  (Json.intOf? (word.take (word.length - 2))).bind fun number =>
    Encodable.decode number.toNat

theorem timeOf?_countedTime (time : Time) :
    timeOf? (countedTime time) = some time := by
  have pointed : (lit ".0").length = 2 :=
    rfl
  rw [timeOf?, countedTime, List.length_append, pointed,
    Nat.add_sub_cancel, List.take_left, Json.intOf?_ofInt]
  exact Encodable.encodek time

theorem isWord_countedTime (time : Time) :
    Json.IsWord (countedTime time) := by
  have isWord := Json.isWord_ofInt (.ofNat (Encodable.encode time))
  have pointed : (lit ".0").all Json.isWordChar = true :=
    rfl
  exact ⟨List.append_ne_nil_of_left_ne_nil isWord.1 _,
    List.forall_mem_append.mpr ⟨isWord.2, List.all_eq_true.mp pointed⟩⟩

theorem knownWord?_countedTime (time : Time) :
    (Json.knownWord? (countedTime time) : Option (Json Time)) = none := by
  have point : codePoint '.' ∈ countedTime time :=
    List.mem_append_right _ (by decide)
  have areDigits :=
    (Json.digits_of_toDigits (Encodable.encode time)).1
  rw [countedTime, ofInt_ofNat] at point ⊢
  generalize (Nat.toDigits 10 (Encodable.encode time)).map codePoint =
    digits at point areDigits ⊢
  cases digits with
  | nil =>
      cases areDigits
  | cons digit rest =>
      have isDigit : isAsciiDigit digit = true :=
        List.all_eq_true.mp (Bool.and_eq_true_iff.mp areDigits).2 digit
          List.mem_cons_self
      have isNot :
          ∀ sign, isAsciiDigit sign = false → digit ≠ sign := by
        rintro sign notDigit rfl
        rw [isDigit] at notDigit
        cases notDigit
      have notDigits :
          ¬ isAsciiDigits (digit :: (rest ++ lit ".0")) = true := by
        intro allDigits
        have isPoint :=
          List.all_eq_true.mp (Bool.and_eq_true_iff.mp allDigits).2 _ point
        cases isPoint
      have notNamed :
          ∀ char ∈ (digit :: rest ++ lit ".0").head?,
            char ≠ codePoint 'n' ∧ char ≠ codePoint 't' ∧
              char ≠ codePoint 'f' := by
        rintro char isHead
        cases isHead
        exact ⟨isNot _ rfl, isNot _ rfl, isNot _ rfl⟩
      rw [Json.knownWord?_of_digits notNamed, List.cons_append,
        Json.intOf?, if_neg (isNot (codePoint '-') rfl), if_neg notDigits]
      rfl

/-- Numerals for all times. -/
def countedTimes : Numerals Time where
  write := countedTime
  read := timeOf?
  read_write := timeOf?_countedTime
  isWord_write := isWord_countedTime
  notKnown_write := knownWord?_countedTime

/-- A flow of one packet from an address. -/
def onePacketFlow (srcIp : Str) : Flow :=
  (recordPacket .empty
    (newEntry
      (newFlow (lit "f1") ⟨100, .tcp, ⟨srcIp, 50000⟩, ⟨lit "10.0.0.2", 443⟩⟩)
      0)
    ⟨100, .tcp, ⟨srcIp, 50000⟩, ⟨lit "10.0.0.2", 443⟩⟩
    (tcpSegment 100 ⟨srcIp, 50000⟩ ⟨lit "10.0.0.2", 443⟩
      [lit "SYN"]).view).flow

/--
A flow of an address that cannot be encoded leaves no trace, and the order of
the others can be told from the file.
-/
theorem unencodableFlow_unlogged :
    let here := onePacketFlow (lit "10.0.0.1")
    let there := onePacketFlow (lit "10.0.0.7")
    let unwritable := onePacketFlow (lit "fe80::1%" ++ [chr 0xD800])
    (logFlows countedTimes [] [here, unwritable, there]).file =
        (logFlows countedTimes [] [here, there]).file ∧
      (logFlows countedTimes [] [here, there]).file ≠
        (logFlows countedTimes [] [there, here]).file := by
  intro here there unwritable
  constructor
  · apply (logFlows_file_eq_iff countedTimes [] _ _).mpr
    decide +kernel
  · intro same
    have sameFlows := (logFlows_file_eq_iff countedTimes [] _ _).mp same
    revert sameFlows
    decide +kernel

end FlowLog

/-! ### The report of a load -/

/-- `write_report`: the new file, and the number of records written. -/
def writeReport
    {Number : Type}
    (numerals : Numerals Number)
    (previous : Option Bytes)
    (records : List RuleRecord) :
    Bytes × Int :=
  -- A file that exists is removed, and opening creates it anew.
  let kept := if previous.isSome then none else previous
  let logger :=
    (JsonlLogger.openFile (kept.getD [])).logAll numerals
      (records.map fun record => some record.toDict)
  (logger.file, records.length - logger.writeErrors)

/-- The counter of a status. -/
def LoadReport.count (report : LoadReport) : RuleStatus → Nat
  | .valid => report.valid
  | .invalid => report.invalid
  | .unsupported => report.unsupported
  | .disabled => report.disabled

/-- The value of a key, as a reader of the report looks it up. -/
def lookUp?
    {Number : Type}
    (key : Str)
    (value : Json Number) :
    Option (Json Number) :=
  match value with
  | .dict items => (items.find? fun item => item.1 = key).map Prod.snd
  | _ => none

/-- Does a line of the report show the status? -/
def showsStatus
    {Number : Type}
    (status : RuleStatus)
    (line : Json Number) :
    Bool :=
  match lookUp? (lit "status") line with
  | some (.str text) => text = status.text
  | _ => false

/-- Different statuses are spelled differently. -/
theorem RuleStatus.text_injective : Function.Injective RuleStatus.text :=
  injective_of_table [.valid, .invalid, .unsupported, .disabled]
    fun status => by cases status <;> rfl

/-- A line shows the status of its record. -/
theorem showsStatus_toDict
    {Number : Type}
    (status : RuleStatus)
    (record : RuleRecord) :
    showsStatus status (record.toDict : Json Number) =
      decide (record.outcome.status = status) := by
  have shown :
      lookUp? (lit "status") (record.toDict : Json Number) =
        some (.str record.outcome.status.text) :=
    rfl
  rw [showsStatus, shown]
  exact decide_eq_decide.mpr RuleStatus.text_injective.eq_iff

namespace LoaderState

/-- Every counter is the number of records with its status. -/
def CountsRecords (state : LoaderState) : Prop :=
  ∀ status,
    state.report.count status =
      state.records.countP fun record =>
        decide (record.outcome.status = status)

variable {state : LoaderState}

/-- A record is counted as it is written. -/
theorem CountsRecords.conclude
    (counts : state.CountsRecords)
    (line : RuleLine)
    (outcome : RecordOutcome)
    (sid : Option Int) :
    (state.conclude line outcome sid).CountsRecords := by
  intro status
  have before := counts status
  rw [LoaderState.conclude, List.countP_append, ← before,
    List.countP_singleton]
  generalize outcome.status = concluded
  cases concluded <;> cases status <;> rfl

/-- Every rule line is counted as it is recorded. -/
theorem CountsRecords.loadLine
    (counts : state.CountsRecords)
    (parseFn : ParseFn)
    (disabledSids : List Int)
    (file : Str)
    (line : LogicalLine) :
    (loadLine parseFn disabledSids file state line).CountsRecords := by
  have lineCounted :
      CountsRecords { state with report := state.report.countLine line } := by
    intro status
    rw [← counts status]
    cases line <;> cases status <;> rfl
  cases line with
  | blank =>
      exact lineCounted
  | comment =>
      exact lineCounted
  | rule lineNo text =>
      rw [IntrusionDetection.loadLine]
      unfold collect
      split
      · exact CountsRecords.conclude lineCounted _ _ _
      · split
        · exact CountsRecords.conclude lineCounted _ _ _
        · dsimp only
          split
          · exact CountsRecords.conclude lineCounted _ _ _
          · exact CountsRecords.conclude lineCounted _ _ _

/-- Every file keeps the counts. -/
theorem CountsRecords.loadFile
    (counts : state.CountsRecords)
    {files : FileSystem}
    {parseFn : ParseFn}
    {disabledSids : List Int}
    {path : Str}
    {next : LoaderState}
    (isNext :
      loadFile files parseFn disabledSids state path = .ok next) :
    next.CountsRecords := by
  unfold IntrusionDetection.loadFile at isNext
  split at isNext
  · rename_i content _
    cases isNext
    generalize iterRuleLines content = logical
    induction logical generalizing state with
    | nil =>
        exact counts
    | cons line rest inductionHypothesis =>
        rw [List.foldl_cons]
        exact inductionHypothesis
          (counts.loadLine parseFn disabledSids path line)
  · split at isNext
    · cases isNext
      intro status
      rw [← counts status]
      cases status <;> rfl
    · cases isNext

/-- A list of files keeps the counts. -/
theorem CountsRecords.loadSources
    (counts : state.CountsRecords)
    {files : FileSystem}
    {parseFn : ParseFn}
    {disabledSids : List Int}
    {loadedPaths paths : List Str}
    {final : LoaderState}
    (isFinal :
      loadSources files parseFn disabledSids state loadedPaths paths =
        .ok final) :
    final.CountsRecords := by
  induction paths generalizing state loadedPaths with
  | nil =>
      cases isFinal
      exact counts
  | cons path rest inductionHypothesis =>
      rw [IntrusionDetection.loadSources] at isFinal
      obtain ⟨key, _, isFinal⟩ := exists_of_bind_ok isFinal
      split at isFinal
      · exact inductionHypothesis counts isFinal
      · obtain ⟨next, isNext, isFinal⟩ := exists_of_bind_ok isFinal
        exact inductionHypothesis (counts.loadFile isNext) isFinal

end LoaderState

/-- The records of a load have the numbers of its report. -/
theorem countP_records
    {files : FileSystem}
    {cfg : LoaderCfg}
    {parseFn : ParseFn}
    {extras : List Str}
    {loaded : LoadedRules}
    (isLoaded : loadRules files cfg parseFn extras = .ok loaded)
    (status : RuleStatus) :
    loaded.report.count status =
      loaded.records.countP fun record =>
        decide (record.outcome.status = status) := by
  have initially : (LoaderState.initial cfg).CountsRecords := by
    intro status
    cases status <;> rfl
  obtain ⟨_, _, isLoaded⟩ := exists_of_bind_ok isLoaded
  obtain ⟨final, isFinal, isLoaded⟩ := exists_of_bind_ok isLoaded
  cases isLoaded
  exact initially.loadSources isFinal status

open JsonlLogger

/-- The report is read back as the records that hold no lone surrogate. -/
theorem writeReport_reads
    {Number : Type}
    (numerals : Numerals Number)
    (previous : Option Bytes)
    (records : List RuleRecord) :
    let report := writeReport numerals previous records
    let written :=
      (records.map fun record => some record.toDict).filterMap
        (written? numerals)
    readLog numerals report.1 = some written ∧
      report.2 = written.length := by
  have emptyFile :
      (if previous.isSome then none else previous).getD [] = [] := by
    cases previous <;> rfl
  have closed : LineFile.EndsLine newline ([] : Bytes) := by
    intro sign isLast
    cases isLast
  obtain ⟨_, isRead⟩ := readLog_file_logAll numerals closed
    (show readLog numerals [] = some [] from rfl)
    (records.map fun record => some record.toDict)
  have counted := writeErrors_logAll numerals (openFile [])
    (records.map fun record => some record.toDict)
  have start : (openFile []).writeErrors = 0 :=
    rfl
  rw [start, List.length_map] at counted
  rw [writeReport]
  dsimp only
  rw [emptyFile]
  refine ⟨isRead, ?_⟩
  omega

/--
The report of a load is read back as the records that hold no lone surrogate,
in file order, and their number is returned.  If that is all of them, there is
one line for each rule line, and as many lines show a status as the counters of
the load say.
-/
theorem writeReport_of_loadRules
    {Number : Type}
    (numerals : Numerals Number)
    (previous : Option Bytes)
    {files : FileSystem}
    {cfg : LoaderCfg}
    {parseFn : ParseFn}
    {extras : List Str}
    {loaded : LoadedRules}
    (isLoaded : loadRules files cfg parseFn extras = .ok loaded) :
    let report := writeReport numerals previous loaded.records
    let lines : List (Json Number) :=
      (loaded.records.filter fun record =>
        (record.toDict : Json Number).IsScalar).map RuleRecord.toDict
    readLog numerals report.1 = some lines ∧
      report.2 = lines.length ∧
      ((∀ record ∈ loaded.records,
          (record.toDict : Json Number).IsScalar) →
        lines.length = loaded.report.ruleLines ∧
          ∀ status,
            lines.countP (showsStatus status) =
              loaded.report.count status) := by
  intro report lines
  obtain ⟨isRead, returned⟩ :=
    writeReport_reads numerals previous loaded.records
  have sameLines :
      (loaded.records.map fun record =>
          some (record.toDict : Json Number)).filterMap
          (written? numerals) = lines := by
    have sameDicts :
        (loaded.records.map fun record =>
            some (record.toDict : Json Number)) =
          (loaded.records.map RuleRecord.toDict).map some := by
      rw [List.map_map]
      rfl
    rw [sameDicts, written_dicts, List.filter_map]
    rfl
  rw [sameLines] at isRead returned
  refine ⟨isRead, returned, fun scalar => ?_⟩
  have all : lines = loaded.records.map RuleRecord.toDict := by
    simp only [lines]
    rw [List.filter_eq_self.mpr]
    exact fun record member => decide_eq_true (scalar record member)
  constructor
  · rw [all, List.length_map]
    obtain ⟨passed, checked, _⟩ := exists_of_bind_ok isLoaded
    rcases loadRules_keeps checked cfg parseFn with
      ⟨_, final, isFinal, keeps⟩ | ⟨_, exception, raised⟩
    · rw [isLoaded] at isFinal
      cases isFinal
      exact keeps.ruleLines.symm
    · rw [isLoaded] at raised
      cases raised
  · intro status
    rw [all, countP_records isLoaded status, List.countP_map]
    exact List.countP_congr fun record _ => by
      rw [Function.comp_apply, showsStatus_toDict]

/-- Two rule files; the name of the second has a byte that is no UTF-8. -/
def twoRuleFiles : FileSystem where
  pathText := id
  isFile := fun _ => .ok true
  resolve := .ok
  read := fun path =>
    .ok
      (if path = lit "local.rules" then
        lit "# none yet\nalert\nalert tcp\n"
      else
        lit "drop\n")

/-- The configuration that names the files. -/
def twoRuleCfg : LoaderCfg where
  ruleFiles :=
    [⟨lit "local.rules", true⟩,
      ⟨lit "r" ++ [chr 0xDCE9] ++ lit "gles.rules", true⟩]
  disabledSids := []

/-- A parser that finds no header. -/
def findsNoHeader : ParseFn :=
  fun _ _ => .result (.rejected .badHeader none)

/--
Three lines are recorded, and the report has the two of the file whose name can
be written, whatever it said before.
-/
theorem twoRuleFiles_reported :
    ∃ loaded,
      loadRules twoRuleFiles twoRuleCfg findsNoHeader [] = .ok loaded ∧
        loaded.records.length = 3 ∧
        ∃ lines : List (Json Empty),
          readLog noFractions
              (writeReport noFractions (some oneList) loaded.records).1 =
            some lines ∧
            lines.length = 2 ∧
              lines.countP (showsStatus .invalid) = 2 := by
  refine ⟨_, rfl, by decide +kernel, ?_⟩
  obtain ⟨isRead, _⟩ :=
    @writeReport_of_loadRules Empty noFractions (some oneList)
      twoRuleFiles twoRuleCfg findsNoHeader [] _ rfl
  exact ⟨_, isRead, by decide +kernel, by decide +kernel⟩

end IntrusionDetection
