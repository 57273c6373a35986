import IntrusionDetection.Loader
import IntrusionDetection.RuleRepository
import Mathlib.Data.List.ReduceOption

namespace IntrusionDetection

open PyText MapEarlier

/-!
# What the loader keeps

The rules, the records and the counters of a load, described by the sequence
of the parse results alone.  A load comes to its end exactly if the file system
raises nothing but an `OSError`.
-/

/-! ### The files of a load -/

/-- Does a call of the file system raise nothing but an `OSError`? -/
def recovers {Value : Type} : Except FileFault Value → Bool
  | .ok _ => true
  | .error fault => fault.isOsError

namespace FileSystem

variable (files : FileSystem)

/-- The key of a file the loader finds a key for. -/
def keyText (path : Str) : Str :=
  match files.resolve path with
  | .ok key => key
  | .error _ => path

/-- A file has its key unless resolving it raises what is not caught. -/
theorem pathKey_cases (path : Str) :
    (recovers (files.resolve path) = true ∧
        files.pathKey path = .ok (files.keyText path)) ∨
      (recovers (files.resolve path) = false ∧
        ∃ exception, files.pathKey path = .error exception) := by
  rw [pathKey, keyText]
  cases files.resolve path with
  | ok key =>
      exact Or.inl ⟨rfl, rfl⟩
  | error fault =>
      cases caught : fault.isOsError with
      | true =>
          exact Or.inl ⟨caught, if_pos caught⟩
      | false =>
          refine Or.inr ⟨caught, fault.exception, ?_⟩
          simp [caught]

end FileSystem

/-- The files of a list whose keys are not loaded yet, each once. -/
def unloaded
    (files : FileSystem)
    (loadedPaths : List Str) :
    List Str → List Str
  | path :: rest =>
      if files.keyText path ∈ loadedPaths then
        unloaded files loadedPaths rest
      else
        path :: unloaded files (loadedPaths ++ [files.keyText path]) rest
  | [] => []

/-- No two of the files to load have the same key. -/
theorem keyText_unloaded_nodup
    (files : FileSystem)
    (loadedPaths paths : List Str) :
    ((unloaded files loadedPaths paths).map files.keyText).Nodup ∧
      ∀ path ∈ unloaded files loadedPaths paths,
        files.keyText path ∉ loadedPaths := by
  induction paths generalizing loadedPaths with
  | nil =>
      exact ⟨List.nodup_nil, by simp [unloaded]⟩
  | cons path rest inductionHypothesis =>
      simp only [unloaded]
      split <;> rename_i isLoaded
      · exact inductionHypothesis loadedPaths
      · obtain ⟨distinct, notLoaded⟩ :=
          inductionHypothesis (loadedPaths ++ [files.keyText path])
        constructor
        · rw [List.map_cons, List.nodup_cons]
          refine ⟨?_, distinct⟩
          intro again
          obtain ⟨other, member, same⟩ := List.mem_map.mp again
          apply notLoaded other member
          simp [same]
        · intro other member
          rcases List.mem_cons.mp member with isFirst | later
          · rw [isFirst]
            exact isLoaded
          · intro loaded
            apply notLoaded other later
            simp [loaded]

/-! ### The rule lines of a load -/

/-- A rule line with the result of parsing it. -/
abbrev ParsedLine := RuleLine × ParseResult

/-- The rule line a logical line of a file is. -/
def LogicalLine.ruleLine? (file : Str) : LogicalLine → Option RuleLine
  | .blank => none
  | .comment => none
  | .rule lineNo text => some { file, lineNo, text }

/-- The rule lines of a file; a file that cannot be read has none. -/
def FileSystem.ruleLines (files : FileSystem) (path : Str) :
    List RuleLine :=
  match files.read path with
  | .error _ => []
  | .ok content =>
      (iterRuleLines content).filterMap (LogicalLine.ruleLine? path)

/-- The rule lines with their results, in file order. -/
def parsedLines (parseFn : ParseFn) (lines : List RuleLine) :
    List ParsedLine :=
  mapEarlier
    (fun earlier line => (line, safeParse (parseFn earlier line))) [] lines

/-- The sid of a valid line. -/
def ParsedLine.validSid? (parsed : ParsedLine) : Option Int :=
  parsed.2.rule?.map Rule.sid

/--
What becomes of a line: a valid rule is a duplicate if an earlier valid rule
has its sid, else it may be switched off.
-/
def expectedOutcome
    (disabledSids : List Int)
    (earlier : List ParsedLine)
    (parsed : ParsedLine) :
    RecordOutcome :=
  match parsed.2 with
  | .rejected reason _ => .rejected reason
  | .valid rule _ =>
      if rule.sid ∈ earlier.filterMap ParsedLine.validSid? then
        .rejected .duplicateSid
      else if rule.sid ∈ disabledSids then
        .disabled
      else
        .valid

/-- The record of a line. -/
def expectedRecord
    (disabledSids : List Int)
    (earlier : List ParsedLine)
    (parsed : ParsedLine) :
    RuleRecord where
  file := parsed.1.file
  line := parsed.1.lineNo
  outcome := expectedOutcome disabledSids earlier parsed
  sid := parsed.validSid?.or parsed.2.sid
  text := parsed.1.text

/-- The rule a line adds to the active ones. -/
def activeRule?
    (disabledSids : List Int)
    (earlier : List ParsedLine)
    (parsed : ParsedLine) :
    Option Rule :=
  if expectedOutcome disabledSids earlier parsed = .valid then
    parsed.2.rule?
  else
    none

/-- The active rules of a sequence of parse results. -/
def activeRules (disabledSids : List Int) (parsed : List ParsedLine) :
    List Rule :=
  (mapEarlier (activeRule? disabledSids) [] parsed).reduceOption

/-! ### The state after some rule lines -/

/--
What the loader has kept of the rule lines it has parsed, and how its counters
and lists agree.
-/
structure LoaderState.Keeps
    (state : LoaderState)
    (parseFn : ParseFn)
    (disabledSids : List Int)
    (lines : List RuleLine) : Prop where
  history : state.parsed = lines
  records :
    state.records =
      mapEarlier (expectedRecord disabledSids) []
        (parsedLines parseFn lines)
  rules : state.rules = activeRules disabledSids (parsedLines parseFn lines)
  seenSids :
    ∀ sid, sid ∈ state.seenSids ↔
      sid ∈ (parsedLines parseFn lines).filterMap ParsedLine.validSid?
  logicalLines :
    state.report.totalLines =
      state.report.blank + state.report.comment + state.report.ruleLines
  ruleLines : state.report.ruleLines = state.records.length
  statuses :
    state.report.valid + state.report.invalid +
        state.report.unsupported + state.report.disabled =
      state.records.length
  valid : state.report.valid = state.rules.length
  registered : ∀ rule ∈ state.rules, rule.sid ∈ state.seenSids
  distinct : (state.rules.map Rule.sid).Nodup

/-! ### One more rule line -/

/-- One more rule line adds one parse result. -/
theorem parsedLines_snoc
    (parseFn : ParseFn)
    (lines : List RuleLine)
    (line : RuleLine) :
    parsedLines parseFn (lines ++ [line]) =
      parsedLines parseFn lines ++
        [(line, safeParse (parseFn lines line))] := by
  simp [parsedLines, mapEarlier_snoc]

/-- One more parse result adds at most one active rule. -/
theorem activeRules_snoc
    (disabledSids : List Int)
    (earlier : List ParsedLine)
    (parsed : ParsedLine) :
    activeRules disabledSids (earlier ++ [parsed]) =
      activeRules disabledSids earlier ++
        (activeRule? disabledSids earlier parsed).toList := by
  simp only [activeRules, mapEarlier_snoc, List.nil_append,
    List.reduceOption_append]
  cases activeRule? disabledSids earlier parsed <;> rfl

/-- What collecting a result adds to the state. -/
structure Collects
    (disabledSids : List Int)
    (state next : LoaderState)
    (earlier : List ParsedLine)
    (parsed : ParsedLine) : Prop where
  sameHistory : next.parsed = state.parsed
  records :
    next.records =
      state.records ++ [expectedRecord disabledSids earlier parsed]
  rules :
    next.rules =
      state.rules ++ (activeRule? disabledSids earlier parsed).toList
  seenSids :
    ∀ sid, sid ∈ next.seenSids ↔
      sid ∈ state.seenSids ∨ parsed.validSid? = some sid
  report :
    next.report =
      state.report.countStatus
        (expectedOutcome disabledSids earlier parsed).status

/-- `_collect` does with a line what is expected of it. -/
theorem collect_collects
    {state : LoaderState}
    {earlier : List ParsedLine}
    (seen :
      ∀ sid, sid ∈ state.seenSids ↔
        sid ∈ earlier.filterMap ParsedLine.validSid?)
    (disabledSids : List Int)
    (line : RuleLine)
    (result : ParseResult) :
    Collects disabledSids state (collect disabledSids state line result)
      earlier (line, result) := by
  cases result with
  | rejected reason sid =>
      constructor <;>
        simp [collect, LoaderState.conclude, expectedRecord,
          expectedOutcome, activeRule?, ParsedLine.validSid?,
          ParseResult.rule?, ParseResult.sid]
  | valid rule sid =>
      have sameSid :
          ParsedLine.validSid? (line, .valid rule sid) =
            some rule.sid :=
        rfl
      simp only [collect]
      split <;> rename_i isSeen
      · -- The sid is registered already.
        have outcome :
            expectedOutcome disabledSids earlier
                (line, .valid rule sid) = .rejected .duplicateSid :=
          if_pos ((seen rule.sid).mp isSeen)
        constructor <;>
          simp [LoaderState.conclude, expectedRecord, activeRule?,
            outcome, sameSid]
        exact isSeen
      · have unseen : rule.sid ∉ earlier.filterMap ParsedLine.validSid? :=
          fun member => isSeen ((seen rule.sid).mpr member)
        split <;> rename_i isDisabled
        · have outcome :
              expectedOutcome disabledSids earlier
                  (line, .valid rule sid) = .disabled := by
            simp only [expectedOutcome, if_neg unseen, if_pos isDisabled]
          constructor <;>
            simp [LoaderState.conclude, expectedRecord, activeRule?,
              outcome, sameSid, eq_comm]
        · have outcome :
              expectedOutcome disabledSids earlier
                  (line, .valid rule sid) = .valid := by
            simp only [expectedOutcome, if_neg unseen, if_neg isDisabled]
          constructor <;>
            simp [LoaderState.conclude, expectedRecord, activeRule?,
              outcome, sameSid, ParseResult.rule?, eq_comm]

/-- A rule that becomes active has a sid no earlier valid rule has. -/
theorem activeRule?_eq_some
    {disabledSids : List Int}
    {earlier : List ParsedLine}
    {parsed : ParsedLine}
    {rule : Rule}
    (active : activeRule? disabledSids earlier parsed = some rule) :
    expectedOutcome disabledSids earlier parsed = .valid ∧
      parsed.validSid? = some rule.sid ∧
      rule.sid ∉ earlier.filterMap ParsedLine.validSid? := by
  obtain ⟨line, result⟩ := parsed
  simp only [activeRule?] at active
  split at active <;> rename_i outcome
  · cases result with
    | rejected reason sid =>
        cases active
    | valid stored sid =>
        cases active
        refine ⟨outcome, rfl, ?_⟩
        intro known
        simp only [expectedOutcome, if_pos known] at outcome
        cases outcome
  · cases active

/-- A line that is not valid adds no active rule. -/
theorem activeRule?_eq_none
    {disabledSids : List Int}
    {earlier : List ParsedLine}
    {parsed : ParsedLine}
    (inactive : activeRule? disabledSids earlier parsed = none) :
    expectedOutcome disabledSids earlier parsed ≠ .valid := by
  intro outcome
  obtain ⟨line, result⟩ := parsed
  cases result with
  | rejected reason sid =>
      cases outcome
  | valid rule sid =>
      rw [activeRule?, if_pos outcome] at inactive
      cases inactive

/-- Counting a status keeps the sum of the statuses in step. -/
theorem countStatus_sum (report : LoadReport) (status : RuleStatus) :
    let next := report.countStatus status
    next.valid + next.invalid + next.unsupported + next.disabled =
      report.valid + report.invalid + report.unsupported +
        report.disabled + 1 := by
  cases status <;> simp only [LoadReport.countStatus] <;> omega

/-- Counting a status leaves the counters of the lines alone. -/
theorem countStatus_lines (report : LoadReport) (status : RuleStatus) :
    let next := report.countStatus status
    next.totalLines = report.totalLines ∧
      next.blank = report.blank ∧
      next.comment = report.comment ∧
      next.ruleLines = report.ruleLines := by
  cases status <;> exact ⟨rfl, rfl, rfl, rfl⟩

/-- Only valid lines are counted as valid. -/
theorem countStatus_valid
    (report : LoadReport)
    (outcome : RecordOutcome) :
    (report.countStatus outcome.status).valid =
      report.valid + if outcome = .valid then 1 else 0 := by
  cases outcome with
  | valid =>
      rfl
  | rejected reason =>
      simp only [RecordOutcome.status, RuleReason.status]
      split <;> rfl
  | disabled =>
      rfl

/-- A line that is collected as expected counts one active rule or none. -/
theorem Collects.valid
    {disabledSids : List Int}
    {state next : LoaderState}
    {earlier : List ParsedLine}
    {parsed : ParsedLine}
    (collects : Collects disabledSids state next earlier parsed)
    (counted : state.report.valid = state.rules.length) :
    next.report.valid = next.rules.length := by
  rw [collects.report, collects.rules, countStatus_valid, counted,
    List.length_append]
  cases active : activeRule? disabledSids earlier parsed with
  | none =>
      rw [if_neg (activeRule?_eq_none active)]
      rfl
  | some rule =>
      rw [if_pos (activeRule?_eq_some active).1]
      rfl

/-- A line that is collected as expected keeps the sids distinct. -/
theorem Collects.distinct
    {disabledSids : List Int}
    {state next : LoaderState}
    {earlier : List ParsedLine}
    {parsed : ParsedLine}
    (collects : Collects disabledSids state next earlier parsed)
    (seen :
      ∀ sid, sid ∈ state.seenSids ↔
        sid ∈ earlier.filterMap ParsedLine.validSid?)
    (registered : ∀ rule ∈ state.rules, rule.sid ∈ state.seenSids)
    (distinct : (state.rules.map Rule.sid).Nodup) :
    (∀ rule ∈ next.rules, rule.sid ∈ next.seenSids) ∧
      (next.rules.map Rule.sid).Nodup := by
  have stillRegistered :
      ∀ rule ∈ state.rules, rule.sid ∈ next.seenSids :=
    fun rule member =>
      (collects.seenSids rule.sid).mpr (Or.inl (registered rule member))
  rw [collects.rules]
  cases active : activeRule? disabledSids earlier parsed with
  | none =>
      simpa using And.intro stillRegistered distinct
  | some added =>
      obtain ⟨_, isSid, unseen⟩ := activeRule?_eq_some active
      rw [← seen] at unseen
      constructor
      · intro rule member
        rcases List.mem_append.mp member with stored | isAdded
        · exact stillRegistered rule stored
        · rw [Option.toList_some, List.mem_singleton] at isAdded
          subst isAdded
          exact (collects.seenSids rule.sid).mpr (Or.inr isSid)
      · rw [List.map_append, List.nodup_append]
        refine ⟨distinct, by simp, ?_⟩
        intro stored storedMember other otherMember same
        obtain ⟨rule, member, rfl⟩ := List.mem_map.mp storedMember
        rw [Option.toList_some, List.map_singleton, List.mem_singleton]
          at otherMember
        rw [otherMember] at same
        exact unseen (same ▸ registered rule member)

namespace LoaderState

variable {parseFn : ParseFn}
variable {disabledSids : List Int}
variable {state : LoaderState}
variable {lines : List RuleLine}

/-- A line that is not a rule changes only the counters of the lines. -/
theorem Keeps.report
    (keeps : state.Keeps parseFn disabledSids lines)
    {report : LoadReport}
    (lineCount :
      report.totalLines = report.blank + report.comment + report.ruleLines)
    (sameRules : report.ruleLines = state.report.ruleLines)
    (sameValid : report.valid = state.report.valid)
    (sameInvalid : report.invalid = state.report.invalid)
    (sameUnsupported : report.unsupported = state.report.unsupported)
    (sameDisabled : report.disabled = state.report.disabled) :
    { state with report }.Keeps parseFn disabledSids lines where
  history := keeps.history
  records := keeps.records
  rules := keeps.rules
  seenSids := keeps.seenSids
  logicalLines := lineCount
  ruleLines := sameRules.trans keeps.ruleLines
  statuses := by
    simp only [sameValid, sameInvalid, sameUnsupported, sameDisabled,
      keeps.statuses]
  valid := sameValid.trans keeps.valid
  registered := keeps.registered
  distinct := keeps.distinct

/-- One rule line keeps the books of the loader. -/
theorem Keeps.collect
    (keeps : state.Keeps parseFn disabledSids lines)
    (line : RuleLine)
    {next : LoaderState}
    (collects :
      Collects disabledSids
        { state with
          report :=
            { state.report with
              totalLines := state.report.totalLines + 1
              ruleLines := state.report.ruleLines + 1 }
          parsed := lines ++ [line] }
        next (parsedLines parseFn lines)
        (line, safeParse (parseFn lines line))) :
    next.Keeps parseFn disabledSids (lines ++ [line]) := by
  obtain ⟨registered, distinct⟩ :=
    collects.distinct keeps.seenSids keeps.registered keeps.distinct
  have valid := collects.valid keeps.valid
  obtain ⟨sameHistory, records, rules, seenSids, report⟩ := collects
  have sum := countStatus_sum
    { state.report with
      totalLines := state.report.totalLines + 1
      ruleLines := state.report.ruleLines + 1 }
    (expectedOutcome disabledSids (parsedLines parseFn lines)
      (line, safeParse (parseFn lines line))).status
  obtain ⟨sameTotal, sameBlank, sameComment, sameRules⟩ :=
    countStatus_lines
      { state.report with
        totalLines := state.report.totalLines + 1
        ruleLines := state.report.ruleLines + 1 }
      (expectedOutcome disabledSids (parsedLines parseFn lines)
        (line, safeParse (parseFn lines line))).status
  simp only [← report] at sum sameTotal sameBlank sameComment sameRules
  have before := keeps.logicalLines
  have beforeRules := keeps.ruleLines
  have beforeStatuses := keeps.statuses
  constructor
  · exact sameHistory
  · rw [records, parsedLines_snoc, mapEarlier_snoc, keeps.records]
    rfl
  · rw [rules, parsedLines_snoc, activeRules_snoc, keeps.rules]
  · intro sid
    rw [seenSids, parsedLines_snoc, List.filterMap_append, List.mem_append,
      ← keeps.seenSids]
    simp
  · omega
  · rw [records, sameRules, beforeRules, List.length_append]
    rfl
  · rw [records, sum, beforeStatuses, List.length_append]
    rfl
  · exact valid
  · exact registered
  · exact distinct

/-- One logical line keeps the books of the loader. -/
theorem Keeps.loadLine
    (keeps : state.Keeps parseFn disabledSids lines)
    (file : Str)
    (line : LogicalLine) :
    (loadLine parseFn disabledSids file state line).Keeps parseFn
      disabledSids (lines ++ (line.ruleLine? file).toList) := by
  have before := keeps.logicalLines
  cases line with
  | blank =>
      rw [LogicalLine.ruleLine?, Option.toList_none, List.append_nil]
      refine keeps.report ?_ rfl rfl rfl rfl rfl
      simp only [LoadReport.countLine]
      omega
  | comment =>
      rw [LogicalLine.ruleLine?, Option.toList_none, List.append_nil]
      refine keeps.report ?_ rfl rfl rfl rfl rfl
      simp only [LoadReport.countLine]
      omega
  | rule lineNo text =>
      refine keeps.collect ⟨file, lineNo, text⟩ ?_
      rw [← keeps.history]
      apply collect_collects
      rw [keeps.history]
      exact keeps.seenSids

/-- The lines of a file keep the books of the loader. -/
theorem Keeps.loadLines
    (keeps : state.Keeps parseFn disabledSids lines)
    (file : Str)
    (logical : List LogicalLine) :
    (logical.foldl (IntrusionDetection.loadLine parseFn disabledSids file)
        state).Keeps parseFn disabledSids
      (lines ++ logical.filterMap (LogicalLine.ruleLine? file)) := by
  induction logical generalizing state lines with
  | nil =>
      simpa using keeps
  | cons line rest inductionHypothesis =>
      have later := inductionHypothesis (keeps.loadLine file line)
      rw [List.append_assoc] at later
      rw [List.foldl_cons, List.filterMap_cons]
      cases isRule : line.ruleLine? file <;>
        simpa [isRule] using later

/-- One file keeps the books of the loader, whether it can be read or not. -/
theorem Keeps.loadFile
    (keeps : state.Keeps parseFn disabledSids lines)
    (files : FileSystem)
    (path : Str) :
    (recovers (files.read path) = true ∧
        ∃ next,
          loadFile files parseFn disabledSids state path = .ok next ∧
            next.Keeps parseFn disabledSids
              (lines ++ files.ruleLines path)) ∨
      (recovers (files.read path) = false ∧
        ∃ exception,
          loadFile files parseFn disabledSids state path =
            .error exception) := by
  simp only [IntrusionDetection.loadFile, FileSystem.ruleLines]
  cases files.read path with
  | ok content =>
      exact Or.inl
        ⟨rfl, _, rfl, keeps.loadLines path (iterRuleLines content)⟩
  | error fault =>
      cases caught : fault.isOsError with
      | true =>
          refine Or.inl ⟨caught, _, if_pos caught, ?_⟩
          rw [List.append_nil]
          exact keeps.report keeps.logicalLines rfl rfl rfl rfl rfl
      | false =>
          refine Or.inr ⟨caught, fault.exception, ?_⟩
          simp [caught]

/--
A list of files keeps the books of the loader, and loading it comes to its end
exactly if every file has a key and every file to load can be read or raises an
`OSError`.
-/
theorem Keeps.loadSources
    (keeps : state.Keeps parseFn disabledSids lines)
    (files : FileSystem)
    (loadedPaths paths : List Str) :
    let recovered :=
      (∀ path ∈ paths, recovers (files.resolve path) = true) ∧
        ∀ path ∈ unloaded files loadedPaths paths,
          recovers (files.read path) = true
    (recovered ∧
        ∃ final,
          loadSources files parseFn disabledSids state loadedPaths paths =
              .ok final ∧
            final.Keeps parseFn disabledSids
              (lines ++
                (unloaded files loadedPaths paths).flatMap
                  files.ruleLines)) ∨
      (¬ recovered ∧
        ∃ exception,
          loadSources files parseFn disabledSids state loadedPaths paths =
            .error exception) := by
  induction paths generalizing state lines loadedPaths with
  | nil =>
      refine Or.inl ⟨by simp [unloaded], state, rfl, ?_⟩
      simpa [unloaded] using keeps
  | cons path rest inductionHypothesis =>
      rw [List.forall_mem_cons]
      rcases files.pathKey_cases path with
        ⟨resolved, key⟩ | ⟨unresolved, exception, noKey⟩
      · rw [and_iff_right resolved]
        by_cases isLoaded : files.keyText path ∈ loadedPaths
        · have skipped :
              IntrusionDetection.loadSources files parseFn disabledSids
                  state loadedPaths (path :: rest) =
                IntrusionDetection.loadSources files parseFn disabledSids
                  state loadedPaths rest := by
            rw [IntrusionDetection.loadSources, key]
            exact if_pos isLoaded
          rw [skipped, unloaded, if_pos isLoaded]
          exact inductionHypothesis keeps loadedPaths
        · have opened :
              IntrusionDetection.loadSources files parseFn disabledSids
                  state loadedPaths (path :: rest) =
                IntrusionDetection.loadFile files parseFn disabledSids
                    state path >>= fun next =>
                  IntrusionDetection.loadSources files parseFn
                    disabledSids next
                    (loadedPaths ++ [files.keyText path]) rest := by
            rw [IntrusionDetection.loadSources, key]
            exact if_neg isLoaded
          rw [opened, unloaded, if_neg isLoaded, List.forall_mem_cons,
            List.flatMap_cons, ← List.append_assoc]
          rcases keeps.loadFile files path with
            ⟨isRead, next, isNext, keepsNext⟩ | ⟨unread, exception, raised⟩
          · rw [isNext, and_iff_right isRead]
            exact inductionHypothesis keepsNext _
          · refine Or.inr ⟨by simp [unread], exception, ?_⟩
            rw [raised]
            rfl
      · refine Or.inr ⟨by simp [unresolved], exception, ?_⟩
        rw [IntrusionDetection.loadSources, noKey]
        rfl

/-- The books of a load that has not begun. -/
theorem keeps_initial (cfg : LoaderCfg) (parseFn : ParseFn) :
    (initial cfg).Keeps parseFn cfg.disabledSids [] where
  history := rfl
  records := rfl
  rules := rfl
  seenSids := by simp [initial, parsedLines]
  logicalLines := rfl
  ruleLines := rfl
  statuses := rfl
  valid := rfl
  registered := by simp [initial]
  distinct := List.nodup_nil

end LoaderState

/-! ### The whole load -/

/-- The rule lines a load parses, in file order. -/
def loadedLines
    (files : FileSystem)
    (cfg : LoaderCfg)
    (extras : List Str) :
    List RuleLine :=
  (unloaded files [] (sourceFiles files cfg extras)).flatMap
    files.ruleLines

/--
The file system raises nothing but an `OSError` where the loader resolves the
paths of its files and opens those it has not loaded yet.
-/
def SourcesRecover
    (files : FileSystem)
    (cfg : LoaderCfg)
    (extras : List Str) :
    Prop :=
  (∀ path ∈ sourceFiles files cfg extras,
      recovers (files.resolve path) = true) ∧
    ∀ path ∈ unloaded files [] (sourceFiles files cfg extras),
      recovers (files.read path) = true

/--
A load that is not refused keeps the books of all its lines, or the file system
raised what is not caught.
-/
theorem loadRules_keeps
    {files : FileSystem}
    {extras : List Str}
    (checked : checkExtras files extras = .ok ())
    (cfg : LoaderCfg)
    (parseFn : ParseFn) :
    (SourcesRecover files cfg extras ∧
        ∃ final : LoaderState,
          loadRules files cfg parseFn extras =
              .ok ⟨final.rules, final.report, final.records⟩ ∧
            final.Keeps parseFn cfg.disabledSids
              (loadedLines files cfg extras)) ∨
      (¬ SourcesRecover files cfg extras ∧
        ∃ exception,
          loadRules files cfg parseFn extras = .error exception) := by
  rcases (LoaderState.keeps_initial cfg parseFn).loadSources files []
      (sourceFiles files cfg extras) with
    ⟨recovered, final, loaded, keeps⟩ | ⟨failed, exception, raised⟩
  · refine Or.inl ⟨recovered, final, ?_, keeps⟩
    rw [loadRules, checked]
    change (loadSources _ _ _ _ _ _ >>= _) = _
    rw [loaded]
    rfl
  · refine Or.inr ⟨failed, exception, ?_⟩
    rw [loadRules, checked]
    change (loadSources _ _ _ _ _ _ >>= _) = _
    rw [raised]
    rfl

/--
The books of a load: no file is loaded twice; the counters agree with the
lines, the records and the rules; every rule line is recorded as expected; the
rules are the first valid ones of their sids that are not switched off, in file
order; and storing them in a repository does not raise.
-/
structure LoadedRules.Accounts
    (loaded : LoadedRules)
    (files : FileSystem)
    (cfg : LoaderCfg)
    (parseFn : ParseFn)
    (extras : List Str) : Prop where
  loadedOnce :
    ((unloaded files [] (sourceFiles files cfg extras)).map
      files.keyText).Nodup
  logicalLines :
    loaded.report.totalLines =
      loaded.report.blank + loaded.report.comment +
        loaded.report.ruleLines
  statuses :
    loaded.report.ruleLines =
      loaded.report.valid + loaded.report.invalid +
        loaded.report.unsupported + loaded.report.disabled
  ruleLines : loaded.report.ruleLines = loaded.records.length
  valid : loaded.report.valid = loaded.rules.length
  records :
    loaded.records =
      mapEarlier (expectedRecord cfg.disabledSids) []
        (parsedLines parseFn (loadedLines files cfg extras))
  rules :
    loaded.rules =
      activeRules cfg.disabledSids
        (parsedLines parseFn (loadedLines files cfg extras))
  distinct : (loaded.rules.map Rule.sid).Nodup
  stored :
    ∃ repository,
      RuleRepository.empty.addAll loaded.rules = .ok repository ∧
        repository.rules = loaded.rules

/--
A load is refused for an extra file that does not exist.  Any other load keeps
its books if and only if the file system raises nothing but an `OSError` where
paths are resolved and files are opened.
-/
theorem loadRules_accounts_iff
    (files : FileSystem)
    (cfg : LoaderCfg)
    (parseFn : ParseFn)
    (extras : List Str) :
    (∀ exception,
      checkExtras files extras = .error exception →
      loadRules files cfg parseFn extras = .error exception ∧
        ∃ path ∈ extras,
          files.isFile (files.pathText path) = .error exception ∨
            (files.isFile (files.pathText path) = .ok false ∧
              exception.typeName = lit "FileNotFoundError")) ∧
      (checkExtras files extras = .ok () →
        ((∃ loaded,
            loadRules files cfg parseFn extras = .ok loaded ∧
              loaded.Accounts files cfg parseFn extras) ↔
          SourcesRecover files cfg extras)) := by
  constructor
  · intro exception refused
    refine ⟨?_, checkExtras_eq_error refused⟩
    rw [loadRules, refused]
    rfl
  · intro checked
    rcases loadRules_keeps checked cfg parseFn with
      ⟨recovered, final, loaded, keeps⟩ | ⟨failed, exception, raised⟩
    · obtain ⟨repository, stored, rules, _⟩ :=
        RuleRepository.addAll_empty keeps.distinct
      refine iff_of_true ⟨_, loaded, ?_⟩ recovered
      exact {
        loadedOnce := (keyText_unloaded_nodup files [] _).1
        logicalLines := keeps.logicalLines
        statuses := keeps.ruleLines.trans keeps.statuses.symm
        ruleLines := keeps.ruleLines
        valid := keeps.valid
        records := keeps.records
        rules := keeps.rules
        distinct := keeps.distinct
        stored := ⟨repository, stored, rules⟩ }
    · refine iff_of_false ?_ failed
      intro ends
      obtain ⟨loaded, isLoaded, _⟩ := ends
      rw [raised] at isLoaded
      cases isLoaded

/-- A file system whose one rule file is a symbolic link to itself. -/
def selfLink : FileSystem where
  pathText := id
  isFile := fun _ => .ok false
  resolve := fun path =>
    .error {
      isOsError := false
      exception := {
        typeName := lit "RuntimeError"
        message := lit "Symlink loop from '" ++ path ++ lit "'" } }
  read := fun path =>
    .error {
      isOsError := true
      exception := {
        typeName := lit "OSError"
        message :=
          lit "[Errno 40] Too many levels of symbolic links: '" ++ path ++
            lit "'" } }

/-- Opening the link fails with an `OSError`, and yet the load raises. -/
theorem selfLink_raises :
    let cfg : LoaderCfg :=
      { ruleFiles := [⟨lit "/etc/ids.rules", true⟩], disabledSids := [] }
    let parseFn : ParseFn := fun _ _ => .notParseResult (lit "NoneType")
    recovers (selfLink.read (lit "/etc/ids.rules")) = true ∧
      ¬ ∃ loaded,
        loadRules selfLink cfg parseFn [] = .ok loaded ∧
          loaded.Accounts selfLink cfg parseFn [] := by
  refine ⟨rfl, fun ends => ?_⟩
  obtain ⟨loaded, isLoaded, _⟩ := ends
  cases isLoaded

end IntrusionDetection
