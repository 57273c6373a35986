import IntrusionDetection.MapEarlier
import IntrusionDetection.RuleFile

namespace IntrusionDetection

open PyText

/-!
# Rule loader

Loading every configured rule file: line by line through an injected parser,
keeping the rules that are valid, not yet known and not switched off.
-/

/-- An entry of `engine.rule_files`. -/
structure RuleFileEntry where
  path : Str
  enabled : Bool
  deriving DecidableEq

/-- What the loader reads of the `engine` section. -/
structure LoaderCfg where
  ruleFiles : List RuleFileEntry
  disabledSids : List Int

/-- An exception of the file system, and whether it is an `OSError`. -/
structure FileFault where
  isOsError : Bool
  exception : PyException

/--
The file system as the loader sees it.  `pathText` is `str(Path(p))`, and `read`
yields the decoded text of a file.  Resolving and opening a path may raise other
exceptions than an `OSError`: a `RuntimeError` for a loop of symbolic links, a
`ValueError` for a zero byte in the path.
-/
structure FileSystem where
  pathText : Str → Str
  isFile : Str → Except PyException Bool
  resolve : Str → Except FileFault Str
  read : Str → Except FileFault Str

/-- `_path_key`. -/
def FileSystem.pathKey (files : FileSystem) (path : Str) :
    Except PyException Str :=
  match files.resolve path with
  | .ok key => .ok key
  | .error fault =>
      if fault.isOsError then
        .ok path
      else
        .error fault.exception

/-- A rule line and where it stands. -/
structure RuleLine where
  file : Str
  lineNo : Nat
  text : Str
  deriving DecidableEq

/-- What one call of the injected parser comes to. -/
inductive ParseAnswer where
  | result (result : ParseResult)
  | raised (exception : PyException)
  /-- The parser returned something else than a `ParseResult`. -/
  | notParseResult (typeName : Str)

/-- The injected parser; it may depend on the lines it was given before. -/
abbrev ParseFn := List RuleLine → RuleLine → ParseAnswer

/-- `_safe_parse`, on the answer of the parser. -/
def safeParse : ParseAnswer → ParseResult
  | .result result => result
  | .raised _ => .rejected .internalError none
  | .notParseResult _ => .rejected .internalError none

/-- What `load_rules` keeps from line to line. -/
structure LoaderState where
  rules : List Rule
  report : LoadReport
  records : List RuleRecord
  seenSids : List Int
  parsed : List RuleLine

/-- Count and record what becomes of a rule line. -/
def LoaderState.conclude
    (state : LoaderState)
    (line : RuleLine)
    (outcome : RecordOutcome)
    (sid : Option Int) :
    LoaderState :=
  { state with
    report := state.report.countStatus outcome.status
    records :=
      state.records ++
        [{ file := line.file, line := line.lineNo, outcome, sid,
           text := line.text }] }

/-- `_collect`: only a valid rule registers its sid. -/
def collect
    (disabledSids : List Int)
    (state : LoaderState)
    (line : RuleLine)
    (result : ParseResult) :
    LoaderState :=
  match result with
  | .rejected reason sid => state.conclude line (.rejected reason) sid
  | .valid rule _ =>
      if rule.sid ∈ state.seenSids then
        state.conclude line (.rejected .duplicateSid) (some rule.sid)
      else
        let state :=
          { state with seenSids := state.seenSids ++ [rule.sid] }
        if rule.sid ∈ disabledSids then
          state.conclude line .disabled (some rule.sid)
        else
          { state with rules := state.rules ++ [rule] }.conclude line
            .valid (some rule.sid)

/-- The loop body of `load_rules` for one logical line of a file. -/
def loadLine
    (parseFn : ParseFn)
    (disabledSids : List Int)
    (file : Str)
    (state : LoaderState)
    (line : LogicalLine) :
    LoaderState :=
  let state := { state with report := state.report.countLine line }
  match line with
  | .rule lineNo text =>
      let line : RuleLine := { file, lineNo, text }
      let result := safeParse (parseFn state.parsed line)
      collect disabledSids
        { state with parsed := state.parsed ++ [line] } line result
  | _ => state

/-- The loop body of `load_rules` for one file that is not loaded yet. -/
def loadFile
    (files : FileSystem)
    (parseFn : ParseFn)
    (disabledSids : List Int)
    (state : LoaderState)
    (path : Str) :
    Except PyException LoaderState :=
  match files.read path with
  | .ok content =>
      .ok
        ((iterRuleLines content).foldl (loadLine parseFn disabledSids path)
          state)
  | .error fault =>
      if fault.isOsError then
        .ok {
          state with
          report :=
            { state.report with
              filesFailed := state.report.filesFailed + 1 } }
      else
        .error fault.exception

/-- The loop of `load_rules` over the files; each is loaded once. -/
def loadSources
    (files : FileSystem)
    (parseFn : ParseFn)
    (disabledSids : List Int)
    (state : LoaderState)
    (loadedPaths : List Str) :
    List Str → Except PyException LoaderState
  | path :: rest => do
      let key ← files.pathKey path
      if key ∈ loadedPaths then
        loadSources files parseFn disabledSids state loadedPaths rest
      else
        let state ← loadFile files parseFn disabledSids state path
        loadSources files parseFn disabledSids state
          (loadedPaths ++ [key]) rest
  | [] => .ok state

/-- The files to load: the enabled entries in order, then the extra ones. -/
def sourceFiles
    (files : FileSystem)
    (cfg : LoaderCfg)
    (extras : List Str) :
    List Str :=
  ((cfg.ruleFiles.filter RuleFileEntry.enabled).map
      fun entry => files.pathText entry.path) ++
    extras.map files.pathText

/-- Before the first file, only the entries that are off are counted. -/
def LoaderState.initial (cfg : LoaderCfg) : LoaderState where
  rules := []
  report := { LoadReport.zero with
    disabledFiles :=
      (cfg.ruleFiles.filter fun entry => !entry.enabled).length }
  records := []
  seenSids := []
  parsed := []

/-- An extra file that does not exist is refused. -/
def checkExtras (files : FileSystem) : List Str → Except PyException Unit
  | path :: rest => do
      if ← files.isFile (files.pathText path) then
        checkExtras files rest
      else
        .error {
          typeName := lit "FileNotFoundError"
          message := lit "Rule file not found: " ++ files.pathText path }
  | [] => .ok ()

/-- What `load_rules` returns. -/
structure LoadedRules where
  rules : List Rule
  report : LoadReport
  records : List RuleRecord

/-- `load_rules`. -/
def loadRules
    (files : FileSystem)
    (cfg : LoaderCfg)
    (parseFn : ParseFn)
    (extras : List Str) :
    Except PyException LoadedRules := do
  checkExtras files extras
  let final ←
    loadSources files parseFn cfg.disabledSids (.initial cfg) []
      (sourceFiles files cfg extras)
  return {
    rules := final.rules
    report := final.report
    records := final.records }

/--
Only an extra file that does not exist is refused, unless looking it up raises.
-/
theorem checkExtras_eq_error
    {files : FileSystem}
    {extras : List Str}
    {exception : PyException}
    (refused : checkExtras files extras = .error exception) :
    ∃ path ∈ extras,
      files.isFile (files.pathText path) = .error exception ∨
        (files.isFile (files.pathText path) = .ok false ∧
          exception.typeName = lit "FileNotFoundError") := by
  induction extras with
  | nil =>
      cases refused
  | cons path rest inductionHypothesis =>
      rw [checkExtras] at refused
      cases looked : files.isFile (files.pathText path) with
      | error raised =>
          rw [looked] at refused
          cases refused
          exact ⟨path, List.mem_cons_self, Or.inl looked⟩
      | ok isFile =>
          rw [looked] at refused
          cases isFile with
          | false =>
              cases refused
              exact ⟨path, List.mem_cons_self, Or.inr ⟨looked, rfl⟩⟩
          | true =>
              obtain ⟨other, member, reason⟩ :=
                inductionHypothesis refused
              exact ⟨other, List.mem_cons_of_mem path member, reason⟩

end IntrusionDetection
