import IntrusionDetection.EvaluatorIndexing
import IntrusionDetection.StepRuns

namespace IntrusionDetection

open PyText

/-!
# Accounting of the evaluation

Every candidate rule ends in exactly one outcome, whatever rules raise, and a
rule that raises does not disturb the others.
-/

/-- `detect` or `evaluate`. -/
inductive CallKind where
  | detect
  | evaluate
  deriving Repr, DecidableEq

/-- One call of the evaluation engine, with the faults that occur in it. -/
structure EvaluationCall where
  kind : CallKind
  event : IDSEvent
  ctx : Option FlowContext
  faults : CallFaults

/-- The list a call returns. -/
inductive Returned where
  | detections (list : List Detection)
  | results (list : List RuleMatch)

/-- Length of the returned list. -/
def Returned.size : Returned → Nat
  | .detections list => list.length
  | .results list => list.length

namespace EvaluationCall

/-- Does testing the rule in this call raise? -/
def raises (call : EvaluationCall) (rule : Rule) : Bool :=
  match call.kind with
  | .detect =>
      (Outcome.of (EvaluationEngine.buildDetection call.faults call.event
        call.ctx) call.faults call.event call.ctx rule).raised
  | .evaluate =>
      (Outcome.of EvaluationEngine.keepMatch call.faults call.event
        call.ctx rule).raised

/--
Is the rule one with contents that matches completely, its content search not
raising?  Its detection may still fail afterwards.
-/
def contentMatches (call : EvaluationCall) (rule : Rule) : Bool :=
  rule.contents ≠ [] ∧
    fullMatch call.event call.ctx rule = true ∧
    (call.faults.contentSearch rule).isNone

end EvaluationCall

namespace EvaluationEngine

/-- Serve one call. -/
def serve
    (engine : EvaluationEngine)
    (stats : EvaluationStats)
    (call : EvaluationCall) :
    EvaluationStats × Returned :=
  match call.kind with
  | .detect =>
      let (stats, list) :=
        engine.detect call.faults stats call.event call.ctx
      (stats, .detections list)
  | .evaluate =>
      let (stats, list) :=
        engine.evaluate call.faults stats call.event call.ctx
      (stats, .results list)

/-- How many content rules matched in a call. -/
def contentMatchCount
    (engine : EvaluationEngine)
    (call : EvaluationCall) :
    Nat :=
  if engine.enabled = true ∧ eligible call.event = true then
    (engine.repository.rules.filter call.contentMatches).length
  else
    0

end EvaluationEngine

/-! ### What one outcome adds -/

/-- What some outcomes add to the statistics. -/
structure Adds
    (before after : EvaluationStats)
    (candidates returned contentMatched : Nat) : Prop where
  evaluated : after.eventsEvaluated = before.eventsEvaluated
  skipped : after.eventsSkipped = before.eventsSkipped
  candidateRules : after.candidateRules = before.candidateRules
  outcomes : after.outcomes = before.outcomes + candidates
  matchCount : after.matchCount = before.matchCount + returned
  content :
    after.contentEvaluations + before.rulesRejectedContent =
      before.contentEvaluations + after.rulesRejectedContent +
        contentMatched

namespace Adds

variable {first second third : EvaluationStats}

/-- No outcome adds nothing. -/
theorem refl (stats : EvaluationStats) : Adds stats stats 0 0 0 :=
  ⟨rfl, rfl, rfl, rfl, rfl, rfl⟩

/-- What two groups of outcomes add is added up. -/
theorem trans
    {candidates returned matched : Nat}
    {moreCandidates moreReturned moreMatched : Nat}
    (former : Adds first second candidates returned matched)
    (latter :
      Adds second third moreCandidates moreReturned moreMatched) :
    Adds first third
      (candidates + moreCandidates)
      (returned + moreReturned)
      (matched + moreMatched) := by
  obtain ⟨e1, s1, c1, o1, m1, t1⟩ := former
  obtain ⟨e2, s2, c2, o2, m2, t2⟩ := latter
  exact ⟨by omega, by omega, by omega, by omega, by omega, by omega⟩

end Adds

namespace Outcome

variable {Item : Type}

/-- One outcome counts one candidate. -/
theorem record_adds
    (stats : EvaluationStats)
    (rule : Rule)
    (outcome : Outcome Item) :
    Adds stats (outcome.record stats rule) 1
      outcome.item?.toList.length
      (if outcome.contentMatched rule then 1 else 0) := by
  cases outcome with
  | rejected stage =>
      cases stage <;>
        constructor <;>
        simp [record, EvaluationStats.recordStage, item?, contentMatched,
          EvaluationStats.outcomes] <;>
        omega
  | raisedEarly =>
      constructor <;>
        simp [record, EvaluationStats.recordRuleError, item?,
          contentMatched, EvaluationStats.outcomes]
      omega
  | raisedLate =>
      by_cases noContents : rule.contents = [] <;>
        constructor <;>
        simp [record, EvaluationStats.recordRuleError,
          EvaluationStats.recordStage, item?, contentMatched,
          EvaluationStats.outcomes, noContents] <;>
        omega
  | kept item =>
      by_cases noContents : rule.contents = [] <;>
        constructor <;>
        simp [record, EvaluationStats.recordMatch,
          EvaluationStats.recordStage, item?, contentMatched,
          EvaluationStats.outcomes, noContents] <;>
        omega

/-- The outcomes of a list of rules count that many candidates. -/
theorem foldl_record_adds
    (stats : EvaluationStats)
    (outcome : Rule → Outcome Item)
    (rules : List Rule) :
    Adds stats
      (rules.foldl
        (fun stats rule => (outcome rule).record stats rule) stats)
      rules.length
      (rules.filterMap fun rule => (outcome rule).item?).length
      (rules.filter fun rule =>
        (outcome rule).contentMatched rule).length := by
  induction rules generalizing stats with
  | nil =>
      exact .refl stats
  | cons rule rest inductionHypothesis =>
      have added :=
        (record_adds stats rule (outcome rule)).trans
          (inductionHypothesis ((outcome rule).record stats rule))
      have candidates : 1 + rest.length = (rule :: rest).length := by
        simp [Nat.add_comm]
      have items :
          (outcome rule).item?.toList.length +
              (rest.filterMap fun rule => (outcome rule).item?).length =
            ((rule :: rest).filterMap
              fun rule => (outcome rule).item?).length := by
        cases item : (outcome rule).item? <;>
          simp [item, Nat.add_comm]
      have contents :
          (if (outcome rule).contentMatched rule then 1 else 0) +
              (rest.filter fun rule =>
                (outcome rule).contentMatched rule).length =
            ((rule :: rest).filter fun rule =>
              (outcome rule).contentMatched rule).length := by
        cases isContent : (outcome rule).contentMatched rule <;>
          simp [isContent, Nat.add_comm]
      rw [candidates, items, contents] at added
      exact added

/-- The content matches, read from the rule and the packet alone. -/
theorem contentMatched_of
    (build : RuleMatch → Except PyException Item)
    (faults : CallFaults)
    (event : IDSEvent)
    (ctx : Option FlowContext)
    (rule : Rule) :
    (of build faults event ctx rule).contentMatched rule = true ↔
      rule.contents ≠ [] ∧ fullMatch event ctx rule = true ∧
        (faults.contentSearch rule).isNone = true := by
  rcases of_cases build faults event ctx rule with
    ⟨noMatch, stage, rejected⟩ | ⟨_, fault, raised⟩ |
      ⟨isMatch, noFault, notEmpty, built⟩
  · simp [rejected, contentMatched, noMatch]
  · simp [raised, contentMatched, Option.isSome_iff_ne_none.mp fault]
  · rw [built]
    cases build ⟨rule, matchDetails event rule, notEmpty⟩ <;>
      simpa [ofBuild, contentMatched, isMatch] using noFault

end Outcome

namespace EvaluationEngine

/-- Selecting rules with a matching header among the candidates. -/
theorem filter_candidates
    (repository : RuleRepository)
    (event : IDSEvent)
    {selected : Rule → Bool}
    (onlyMatching :
      ∀ rule, selected rule = true → matchHeader rule event = true) :
    ((RuleIndexer.build repository).candidates
        event.transportProtocol event.dstPort).filter selected =
      repository.rules.filter selected := by
  rw [← List.filterMap_eq_filter]
  apply filterMap_candidates
  intro rule isSelected
  apply onlyMatching
  simpa [Option.guard] using isSelected

/-- What one call of `_run` adds to the statistics. -/
structure CountsCall
    (before after : EvaluationStats)
    (returned contentMatched : Nat) : Prop where
  events :
    after.eventsEvaluated + after.eventsSkipped =
      before.eventsEvaluated + before.eventsSkipped + 1
  candidates :
    after.candidateRules + before.outcomes =
      before.candidateRules + after.outcomes
  matchCount : after.matchCount = before.matchCount + returned
  content :
    after.contentEvaluations + before.rulesRejectedContent =
      before.contentEvaluations + after.rulesRejectedContent +
        contentMatched

/-- An event that is evaluated counts what its candidates come to. -/
theorem countsCall_of_adds
    {before after : EvaluationStats}
    {candidates returned matched : Nat}
    (added :
      Adds (before.recordEventEvaluated candidates) after candidates
        returned matched) :
    CountsCall before after returned matched := by
  obtain ⟨evaluated, skipped, counted, ended, sameMatches, content⟩ :=
    added
  refine ⟨?_, ?_, sameMatches, content⟩
  · rw [evaluated, skipped]
    simp only [EvaluationStats.recordEventEvaluated]
    omega
  · rw [counted, ended]
    simp only [EvaluationStats.recordEventEvaluated,
      EvaluationStats.outcomes]
    omega

/-- An event that is skipped counts nothing else. -/
theorem countsCall_of_skip (stats : EvaluationStats) :
    CountsCall stats stats.recordEventSkipped 0 0 := by
  constructor <;>
    simp [EvaluationStats.recordEventSkipped, EvaluationStats.outcomes,
      Nat.add_assoc]

/-- Every call of `_run` counts its event, its candidates and its items. -/
theorem run_counts_candidates
    {Item : Type}
    (engine : EvaluationEngine)
    (build : RuleMatch → Except PyException Item)
    (faults : CallFaults)
    (stats : EvaluationStats)
    (event : IDSEvent)
    (ctx : Option FlowContext) :
    let served := engine.run build faults stats event ctx
    CountsCall stats served.1 served.2.length
      (if engine.tests event = true then
        ((engine.indexer.candidates event.transportProtocol
            event.dstPort).filter fun rule =>
          (Outcome.of build faults event ctx rule).contentMatched
            rule).length
      else 0) := by
  intro served
  cases tested : engine.tests event with
  | true =>
      simp only [served, run_of_tests tested, if_true]
      exact countsCall_of_adds (Outcome.foldl_record_adds _ _ _)
  | false =>
      simp only [served, run_of_not_tests tested, Bool.false_eq_true,
        if_false]
      exact countsCall_of_skip stats

/-- Over an indexed repository, the content matches are those of its rules. -/
theorem run_counts
    {Item : Type}
    (repository : RuleRepository)
    (enabled : Bool)
    (build : RuleMatch → Except PyException Item)
    (faults : CallFaults)
    (stats : EvaluationStats)
    (event : IDSEvent)
    (ctx : Option FlowContext) :
    let served :=
      (ofRepository repository enabled).run build faults stats event ctx
    CountsCall stats served.1 served.2.length
      (if enabled = true ∧ eligible event = true then
        (repository.rules.filter fun rule =>
          (Outcome.of build faults event ctx rule).contentMatched
            rule).length
      else 0) := by
  intro served
  have counted := run_counts_candidates
    (ofRepository repository enabled) build faults stats event ctx
  cases tested : (ofRepository repository enabled).tests event with
  | true =>
      have goes : enabled = true ∧ eligible event = true := by
        simp only [tests, decide_eq_true_eq] at tested
        exact ⟨tested.1, tested.2.2⟩
      have headers :
          ∀ rule,
            (Outcome.of build faults event ctx rule).contentMatched
                rule = true →
              matchHeader rule event = true := by
        intro rule matched
        exact matchHeader_of_fullMatch
          ((Outcome.contentMatched_of build faults event ctx rule).mp
            matched).2.1
      have onlyRules := filter_candidates repository.freeze event headers
      rw [if_pos tested] at counted
      change CountsCall stats _ _
        (((RuleIndexer.build repository.freeze).candidates
          event.transportProtocol event.dstPort).filter _).length
        at counted
      rw [onlyRules] at counted
      rw [if_pos goes]
      exact counted
  | false =>
      have nothing :
          (if enabled = true ∧ eligible event = true then
            (repository.rules.filter fun rule =>
              (Outcome.of build faults event ctx rule).contentMatched
                rule).length
          else 0) = 0 := by
        split <;> rename_i goes
        · rw [rules_of_not_tests tested goes]
          rfl
        · rfl
      rw [if_neg (by simp [tested])] at counted
      rw [nothing]
      exact counted

/-! ### What one call returns -/

/-- Without the rules that raise, a call yields the same items. -/
theorem filterMap_without
    {Item : Type}
    (outcome : Rule → Outcome Item)
    (rules : List Rule) :
    (rules.filter fun rule => !(outcome rule).raised).filterMap
        (fun rule => (outcome rule).item?) =
      rules.filterMap fun rule => (outcome rule).item? := by
  rw [List.filterMap_filter]
  apply List.filterMap_congr
  intro rule _
  cases outcome rule <;> rfl

/-- What `_run` returns is what it returns without the rules that raise. -/
theorem run_without
    {Item : Type}
    (repository : RuleRepository)
    (enabled : Bool)
    (build : RuleMatch → Except PyException Item)
    (faults : CallFaults)
    (stats other : EvaluationStats)
    (event : IDSEvent)
    (ctx : Option FlowContext) :
    let raises := fun rule =>
      (Outcome.of build faults event ctx rule).raised
    ((ofRepository repository enabled).run build faults stats event
        ctx).2 =
      ((ofRepository (repository.without raises) enabled).run build
        faults other event ctx).2 := by
  intro raises
  rw [run_items, run_items]
  split
  · exact (filterMap_without _ repository.rules).symm
  · rfl

/-- A call returns what it returns without the rules that raise in it. -/
theorem serve_without
    (repository : RuleRepository)
    (enabled : Bool)
    (stats : EvaluationStats)
    (call : EvaluationCall) :
    ((ofRepository repository enabled).serve stats call).2 =
      ((ofRepository (repository.without call.raises) enabled).serve
        .zero call).2 := by
  obtain ⟨kind, event, ctx, faults⟩ := call
  cases kind with
  | detect =>
      exact congrArg Returned.detections
        (run_without repository enabled
          (buildDetection faults event ctx) faults stats .zero event ctx)
  | evaluate =>
      exact congrArg Returned.results
        (run_without repository enabled keepMatch faults stats .zero
          event ctx)

/-- A call counts its event, its candidates and what it returns. -/
theorem serve_counts
    (repository : RuleRepository)
    (enabled : Bool)
    (stats : EvaluationStats)
    (call : EvaluationCall) :
    let engine := ofRepository repository enabled
    let served := engine.serve stats call
    CountsCall stats served.1 served.2.size
      (engine.contentMatchCount call) := by
  intro engine served
  obtain ⟨kind, event, ctx, faults⟩ := call
  have sameMatches :
      ∀ {Item : Type} (build : RuleMatch → Except PyException Item),
        (fun rule =>
          (Outcome.of build faults event ctx rule).contentMatched rule) =
            EvaluationCall.contentMatches ⟨kind, event, ctx, faults⟩ := by
    intro Item build
    funext rule
    rw [Bool.eq_iff_iff, Outcome.contentMatched_of]
    simp [EvaluationCall.contentMatches]
  cases kind with
  | detect =>
      have counted := run_counts repository enabled
        (buildDetection faults event ctx) faults stats event ctx
      rw [sameMatches] at counted
      exact counted
  | evaluate =>
      have counted := run_counts repository enabled keepMatch faults
        stats event ctx
      rw [sameMatches] at counted
      exact counted

/-! ### Whole runs -/

/-- The books of the engine after some calls and what they returned. -/
structure Accounted
    (repository : RuleRepository)
    (enabled : Bool)
    (stats : EvaluationStats)
    (calls : List EvaluationCall)
    (returned : List Returned) : Prop where
  lists :
    returned = calls.map fun call =>
      ((ofRepository (repository.without call.raises) enabled).serve
        .zero call).2
  consistent : stats.isConsistent = true
  matchCount : stats.matchCount = (returned.map Returned.size).sum
  events : stats.eventsEvaluated + stats.eventsSkipped = calls.length
  content :
    stats.contentEvaluations =
      stats.rulesRejectedContent +
        (calls.map
          (ofRepository repository enabled).contentMatchCount).sum

/-- One more call keeps the books. -/
theorem Accounted.serve
    {repository : RuleRepository}
    {enabled : Bool}
    {stats : EvaluationStats}
    {calls : List EvaluationCall}
    {returned : List Returned}
    (books : Accounted repository enabled stats calls returned)
    (call : EvaluationCall) :
    let served := (ofRepository repository enabled).serve stats call
    Accounted repository enabled served.1 (calls ++ [call])
      (returned ++ [served.2]) := by
  intro served
  have counted :
      CountsCall stats served.1 served.2.size
        ((ofRepository repository enabled).contentMatchCount call) :=
    serve_counts repository enabled stats call
  obtain ⟨events, candidates, matchCount, content⟩ := counted
  constructor
  · rw [List.map_append, ← books.lists]
    exact congrArg (fun last => returned ++ [last])
      (serve_without repository enabled stats call)
  · have before := of_decide_eq_true books.consistent
    apply decide_eq_true
    omega
  · have before := books.matchCount
    simp only [List.map_append, List.sum_append, List.map_cons,
      List.map_nil, List.sum_cons, List.sum_nil]
    omega
  · have before := books.events
    simp only [List.length_append, List.length_cons, List.length_nil]
    omega
  · have before := books.content
    simp only [List.map_append, List.sum_append, List.map_cons,
      List.map_nil, List.sum_cons, List.sum_nil]
    omega

/--
The books of a run: whatever rules raise in whatever calls, every call returns
what it would return without the rules that raise in it, every candidate has
exactly one outcome, and the counters of matches, events and content searches
agree with what was called and returned.
-/
theorem calls_accounted
    (repository : RuleRepository)
    (enabled : Bool)
    (calls : List EvaluationCall) :
    let engine := ofRepository repository enabled
    let served := StepRuns.run engine.serve .zero calls
    let stats := served.1
    served.2 =
        calls.map (fun call =>
          ((ofRepository (repository.without call.raises) enabled).serve
            .zero call).2) ∧
      stats.candidateRules =
        stats.rulesRejectedHeader + stats.rulesRejectedFlow +
          stats.rulesRejectedPacket + stats.rulesRejectedContent +
          stats.matchCount + stats.ruleErrors ∧
      stats.matchCount = (served.2.map Returned.size).sum ∧
      stats.eventsEvaluated + stats.eventsSkipped = calls.length ∧
      stats.contentEvaluations =
        stats.rulesRejectedContent +
          (calls.map engine.contentMatchCount).sum := by
  intro engine served stats
  have books :
      Accounted repository enabled served.1 calls served.2 := by
    refine StepRuns.history_of_run ⟨rfl, rfl, rfl, rfl, rfl⟩ ?_
    intro stats calls returned call books
    exact books.serve call
  exact ⟨books.lists, of_decide_eq_true books.consistent, books.matchCount,
    books.events, books.content⟩

end EvaluationEngine

end IntrusionDetection
