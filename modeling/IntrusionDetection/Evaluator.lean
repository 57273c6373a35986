import IntrusionDetection.Detection

namespace IntrusionDetection

open PyText

/-!
# Evaluation engine

One event against every candidate rule.  Each rule is isolated: an exception
while it is tested is counted and the next rule is tested.
-/

/--
Which rules raise while an event is evaluated: in the content search, or in the
construction of the detection.
-/
structure CallFaults where
  contentSearch : Rule → Option PyException
  detection : Rule → Option PyException

/-- No rule raises. -/
def CallFaults.none : CallFaults where
  contentSearch := fun _ => Option.none
  detection := fun _ => Option.none

/-- The `content_fn` of one packet. -/
def packetContentFn (faults : CallFaults) (event : IDSEvent) : ContentFn :=
  fun cache rule =>
    let (cache, found) :=
      contentFn (convertPayload event.payload) cache rule
    match faults.contentSearch rule with
    | some exception => (cache, .error exception)
    | none => (cache, .ok found)

/-- What the loop of `_run` keeps from rule to rule. -/
structure LoopState (Item : Type) where
  stats : EvaluationStats
  cache : ContentCache
  items : List Item

/-- `EvaluationEngine`. -/
structure EvaluationEngine where
  repository : RuleRepository
  indexer : RuleIndexer
  enabled : Bool

namespace EvaluationEngine

/-- The engine over a repository, which is frozen and indexed. -/
def ofRepository (repository : RuleRepository) (enabled : Bool) :
    EvaluationEngine where
  repository := repository.freeze
  indexer := .build repository.freeze
  enabled := enabled

/-- `_eligible`. -/
def eligible (event : IDSEvent) : Bool :=
  event.processingAction ≠ some .skipped ∧
    event.processingAction ≠ some .dropped ∧
    event.preprocessStatus ≠ some .invalid ∧
    (packetProtocol? event).isSome ∧
    event.dstPort.isSome

section Loop

variable {Item : Type}

/--
The loop body of `_run`: test one rule, build what is returned for it, and
count the outcome.
-/
def testRule
    (build : RuleMatch → Except PyException Item)
    (faults : CallFaults)
    (event : IDSEvent)
    (ctx : Option FlowContext)
    (state : LoopState Item)
    (rule : Rule) :
    LoopState Item :=
  let (stats, cache, result) :=
    matchRule (packetContentFn faults event) event ctx
      state.stats state.cache rule
  match result with
  | .error _ => { state with stats := stats.recordRuleError, cache }
  | .ok (.failed _ _) => { state with stats, cache }
  | .ok (.matched found) =>
      match build found with
      | .error _ => { state with stats := stats.recordRuleError, cache }
      | .ok item =>
          { stats := stats.recordMatch
            cache
            items := state.items ++ [item] }

/-- `_run`. -/
def run
    (engine : EvaluationEngine)
    (build : RuleMatch → Except PyException Item)
    (faults : CallFaults)
    (stats : EvaluationStats)
    (event : IDSEvent)
    (ctx : Option FlowContext) :
    EvaluationStats × List Item :=
  if engine.enabled = false ∨ engine.repository.size = 0 ∨
      eligible event = false then
    (stats.recordEventSkipped, [])
  else
    let candidates :=
      engine.indexer.candidates event.transportProtocol event.dstPort
    let final := candidates.foldl (testRule build faults event ctx)
      { stats := stats.recordEventEvaluated candidates.length
        cache := none
        items := [] }
    (final.stats, final.items)

end Loop

/-- The item `evaluate` returns for a match: the match itself. -/
def keepMatch (found : RuleMatch) : Except PyException RuleMatch :=
  .ok found

/-- The item `detect` returns for a match: its detection event. -/
def buildDetection
    (faults : CallFaults)
    (event : IDSEvent)
    (ctx : Option FlowContext)
    (found : RuleMatch) :
    Except PyException Detection :=
  match faults.detection found.rule with
  | some exception => .error exception
  | none => makeDetection found.rule event ctx found.details

/-- `evaluate`. -/
def evaluate
    (engine : EvaluationEngine)
    (faults : CallFaults)
    (stats : EvaluationStats)
    (event : IDSEvent)
    (ctx : Option FlowContext) :
    EvaluationStats × List RuleMatch :=
  engine.run keepMatch faults stats event ctx

/-- `detect`. -/
def detect
    (engine : EvaluationEngine)
    (faults : CallFaults)
    (stats : EvaluationStats)
    (event : IDSEvent)
    (ctx : Option FlowContext) :
    EvaluationStats × List Detection :=
  engine.run (buildDetection faults event ctx) faults stats event ctx

end EvaluationEngine

/-! ### The outcome of one rule -/

/-- What testing one rule comes to. -/
inductive Outcome (Item : Type) where
  | rejected (stage : Stage)
  /-- A match that is returned. -/
  | kept (item : Item)
  /-- An exception before the content stage was completed. -/
  | raisedEarly
  /-- An exception after the rule had matched. -/
  | raisedLate

namespace Outcome

variable {Item : Type}

/-- The item returned for the rule, if there is one. -/
def item? : Outcome Item → Option Item
  | .kept item => some item
  | _ => none

/-- Did the rule raise? -/
def raised : Outcome Item → Bool
  | .raisedEarly => true
  | .raisedLate => true
  | _ => false

/-- The outcome of a match, by what building its item comes to. -/
def ofBuild : Except PyException Item → Outcome Item
  | .ok item => .kept item
  | .error _ => .raisedLate

/--
The outcome of testing a rule, without statistics and without the cache shared
by the rules.
-/
def of
    (build : RuleMatch → Except PyException Item)
    (faults : CallFaults)
    (event : IDSEvent)
    (ctx : Option FlowContext)
    (rule : Rule) :
    Outcome Item :=
  if matchHeader rule event = false then
    .rejected .header
  else if matchFlow rule ctx = false then
    .rejected .flow
  else if (matchFlags rule.flags event && matchDsize rule.dsize event) =
      false then
    .rejected .packet
  else if rule.contents = [] then
    ofBuild (build ⟨rule, [.header], header_ne_nil⟩)
  else
    match faults.contentSearch rule with
    | some _ => .raisedEarly
    | none =>
        let details := (matchContents rule event.payload none).getD []
        if notEmpty : details ≠ [] then
          ofBuild (build ⟨rule, details, notEmpty⟩)
        else
          .rejected .content

/-- Does the outcome say that the content stage ran to its end and matched? -/
def contentMatched (rule : Rule) : Outcome Item → Bool
  | .kept _ => rule.contents ≠ []
  | .raisedLate => rule.contents ≠ []
  | _ => false

/-- The statistics after one more outcome. -/
def record
    (stats : EvaluationStats)
    (rule : Rule)
    (outcome : Outcome Item) :
    EvaluationStats :=
  match outcome with
  | .rejected stage => stats.recordStage stage false
  | .raisedEarly => stats.recordRuleError
  | .raisedLate =>
      if rule.contents = [] then stats.recordRuleError
      else (stats.recordStage .content true).recordRuleError
  | .kept _ =>
      if rule.contents = [] then stats.recordMatch
      else (stats.recordStage .content true).recordMatch

end Outcome

namespace EvaluationEngine

variable {Item : Type}

/-- With a valid cache, a packet's `content_fn` searches the payload. -/
theorem packetContentFn_of_valid
    {event : IDSEvent}
    {cache : ContentCache}
    (valid : CacheValid (convertPayload event.payload) cache)
    (faults : CallFaults)
    (rule : Rule) :
    ∃ next,
      CacheValid (convertPayload event.payload) next ∧
        packetContentFn faults event cache rule =
          (next,
            match faults.contentSearch rule with
            | some exception => .error exception
            | none => .ok (matchContents rule event.payload none)) := by
  obtain ⟨answer, stillValid⟩ := contentFn_of_valid valid rule
  rw [matchContents_convertPayload] at answer
  refine ⟨_, stillValid, ?_⟩
  simp only [packetContentFn, answer]
  cases faults.contentSearch rule <;> rfl

/-- Testing one rule records its outcome, and keeps the cache valid. -/
theorem testRule_eq
    (build : RuleMatch → Except PyException Item)
    (faults : CallFaults)
    {event : IDSEvent}
    (ctx : Option FlowContext)
    {state : LoopState Item}
    (valid : CacheValid (convertPayload event.payload) state.cache)
    (rule : Rule) :
    let outcome := Outcome.of build faults event ctx rule
    let next := testRule build faults event ctx state rule
    next.stats = outcome.record state.stats rule ∧
      next.items = state.items ++ outcome.item?.toList ∧
      CacheValid (convertPayload event.payload) next.cache := by
  intro outcome next
  simp only [outcome, next, Outcome.of, testRule, matchRule]
  cases header : matchHeader rule event with
  | false =>
      simpa [Outcome.record, Outcome.item?] using valid
  | true =>
  cases flow : matchFlow rule ctx with
  | false =>
      simpa [Outcome.record, Outcome.item?, EvaluationStats.recordStage]
        using valid
  | true =>
  cases packet :
      (matchFlags rule.flags event && matchDsize rule.dsize event) with
  | false =>
      simpa [Outcome.record, Outcome.item?, EvaluationStats.recordStage]
        using valid
  | true =>
  by_cases noContents : rule.contents = []
  · simp only [noContents, Bool.true_eq_false, if_true, if_false,
      EvaluationStats.recordStage]
    cases built : build ⟨rule, [.header], header_ne_nil⟩ <;>
      simpa [Outcome.ofBuild, Outcome.record, Outcome.item?,
        noContents] using valid
  · obtain ⟨cache, stillValid, answer⟩ :=
      packetContentFn_of_valid valid faults rule
    simp only [noContents, Bool.true_eq_false, if_false, answer,
      EvaluationStats.recordStage]
    cases faults.contentSearch rule with
    | some exception =>
        simpa [Outcome.record, Outcome.item?] using stillValid
    | none =>
        by_cases found :
            (matchContents rule event.payload none).getD [] = []
        · simpa [found, Outcome.record, Outcome.item?,
            EvaluationStats.recordStage] using stillValid
        · simp only [ne_eq, found, not_false_eq_true, dite_true]
          cases built : build ⟨rule, _, found⟩ <;>
            simpa [Outcome.ofBuild, Outcome.record, Outcome.item?,
              noContents, EvaluationStats.recordStage] using stillValid

/-- The loop records the outcome of every candidate and keeps the items. -/
theorem foldl_testRule
    (build : RuleMatch → Except PyException Item)
    (faults : CallFaults)
    {event : IDSEvent}
    (ctx : Option FlowContext)
    {state : LoopState Item}
    (valid : CacheValid (convertPayload event.payload) state.cache)
    (candidates : List Rule) :
    let outcome := Outcome.of build faults event ctx
    let final := candidates.foldl (testRule build faults event ctx) state
    final.stats =
        candidates.foldl
          (fun stats rule => (outcome rule).record stats rule)
          state.stats ∧
      final.items =
        state.items ++
          candidates.filterMap fun rule => (outcome rule).item? := by
  intro outcome final
  induction candidates generalizing state with
  | nil =>
      simp [final]
  | cons rule rest inductionHypothesis =>
      obtain ⟨sameStats, sameItems, stillValid⟩ :=
        testRule_eq build faults ctx valid rule
      obtain ⟨laterStats, laterItems⟩ := inductionHypothesis stillValid
      simp only [final, List.foldl_cons, laterStats, laterItems,
        sameStats, sameItems]
      refine ⟨rfl, ?_⟩
      rw [List.append_assoc, List.filterMap_cons]
      cases (outcome rule).item? <;> rfl

/-- Is the event tested against the rules at all? -/
def tests (engine : EvaluationEngine) (event : IDSEvent) : Bool :=
  engine.enabled = true ∧ engine.repository.size ≠ 0 ∧
    eligible event = true

/-- An event that is not tested is only counted. -/
theorem run_of_not_tests
    {engine : EvaluationEngine}
    {event : IDSEvent}
    (skipped : engine.tests event = false)
    (build : RuleMatch → Except PyException Item)
    (faults : CallFaults)
    (stats : EvaluationStats)
    (ctx : Option FlowContext) :
    engine.run build faults stats event ctx =
      (stats.recordEventSkipped, []) := by
  have untested :
      engine.enabled = false ∨ engine.repository.size = 0 ∨
        eligible event = false := by
    simp only [tests, decide_eq_false_iff_not] at skipped
    by_contra all
    simp only [not_or, Bool.not_eq_false] at all
    exact skipped all
  simp only [run, if_pos untested]

/-- An event that is tested is tested against every candidate. -/
theorem run_of_tests
    {engine : EvaluationEngine}
    {event : IDSEvent}
    (tested : engine.tests event = true)
    (build : RuleMatch → Except PyException Item)
    (faults : CallFaults)
    (stats : EvaluationStats)
    (ctx : Option FlowContext) :
    let outcome := Outcome.of build faults event ctx
    let candidates :=
      engine.indexer.candidates event.transportProtocol event.dstPort
    engine.run build faults stats event ctx =
      (candidates.foldl
          (fun stats rule => (outcome rule).record stats rule)
          (stats.recordEventEvaluated candidates.length),
        candidates.filterMap fun rule => (outcome rule).item?) := by
  intro outcome candidates
  simp only [tests, decide_eq_true_eq] at tested
  have notSkipped :
      ¬ (engine.enabled = false ∨ engine.repository.size = 0 ∨
        eligible event = false) := by
    simp [tested]
  let start : LoopState Item := {
    stats := stats.recordEventEvaluated candidates.length
    cache := none
    items := [] }
  have valid : CacheValid (convertPayload event.payload) start.cache :=
    cacheValid_none _
  obtain ⟨sameStats, sameItems⟩ :=
    foldl_testRule build faults ctx valid candidates
  simp only [run, if_neg notSkipped]
  exact Prod.ext sameStats sameItems

end EvaluationEngine

end IntrusionDetection
