import IntrusionDetection.Evaluator

namespace IntrusionDetection

open PyText

/-!
# The index and the cache are invisible

Evaluating the candidates of the index, with one lower-casing cache for all
rules, returns what testing every rule of the repository on its own returns.
-/

/-- Does a rule match a packet, testing all stages without a cache? -/
def fullMatch
    (event : IDSEvent)
    (ctx : Option FlowContext)
    (rule : Rule) :
    Bool :=
  matchHeader rule event &&
    matchFlow rule ctx &&
    matchFlags rule.flags event &&
    matchDsize rule.dsize event &&
    (rule.contents = [] ||
      (matchChain event.payload rule.contents none).isSome)

/-- The details of a complete match, without a cache. -/
def matchDetails (event : IDSEvent) (rule : Rule) : List MatchDetail :=
  if rule.contents = [] then [.header]
  else (matchContents rule event.payload none).getD []

/-- Contents match exactly when there is something to report. -/
theorem matchContents_getD_ne_nil_iff
    {rule : Rule}
    (notEmpty : rule.contents ≠ [])
    (payload : Payload) :
    (matchContents rule payload none).getD [] ≠ [] ↔
      (matchChain payload rule.contents none).isSome = true := by
  cases chain : matchChain payload rule.contents none with
  | none =>
      simp [matchContents, chain]
  | some found =>
      have reported :
          matchContents rule payload none =
            some (contentDetails rule.contents found) := by
        simp [matchContents, chain]
      simp [reported, (matchContents_valid notEmpty reported).1]

/-- The details of a complete match are valid. -/
theorem matchDetails_valid
    (event : IDSEvent)
    (rule : Rule) :
    ∀ detail ∈ matchDetails event rule, detail.Valid := by
  simp only [matchDetails]
  split <;> rename_i noContents
  · simp [MatchDetail.Valid]
  · cases found : matchContents rule event.payload none with
    | none =>
        simp
    | some details =>
        exact (matchContents_valid noContents found).2

/-- A complete match passes the header stage. -/
theorem matchHeader_of_fullMatch
    {event : IDSEvent}
    {ctx : Option FlowContext}
    {rule : Rule}
    (isMatch : fullMatch event ctx rule = true) :
    matchHeader rule event = true := by
  simp only [fullMatch, Bool.and_eq_true] at isMatch
  exact isMatch.1.1.1.1

/-! ### Only candidates can match -/

/-- The ports that a header match compares. -/
theorem files_of_matchHeader
    {rule : Rule}
    {event : IDSEvent}
    (isMatch : matchHeader rule event = true) :
    ∃ protocol port,
      packetProtocol? event = some protocol ∧
        event.dstPort = some port ∧
        (0 ≤ port ∧ port ≤ portMax) ∧
        RuleIndexer.isCandidate rule protocol port = true := by
  simp only [matchHeader] at isMatch
  split at isMatch
  · cases isMatch
  · rename_i protocol isProtocol
    split at isMatch
    · cases isMatch
    · rename_i sameProtocol
      split at isMatch
      · rename_i srcPort port _ isPort
        split at isMatch
        · rename_i valid
          split at isMatch
          · simp only [validPort, Bool.and_eq_true, decide_eq_true_eq]
              at valid
            refine ⟨protocol, port, isProtocol, isPort, valid.2, ?_⟩
            have filed :
                portIn rule.dstPort port = true ∨
                  rule.direction = .bothWays ∧
                    portIn rule.srcPort port = true := by
              simp only [fitsOneWay, Bool.or_eq_true, Bool.and_eq_true,
                decide_eq_true_eq] at isMatch
              rcases isMatch with forward | ⟨bothWays, reversed⟩
              · exact Or.inl forward.2
              · exact Or.inr ⟨bothWays, reversed.2⟩
            have named : rule.protocol = protocol ∨ rule.protocol = .ip := by
              by_contra neither
              simp only [not_or] at neither
              exact sameProtocol ⟨neither.2, neither.1⟩
            simp only [RuleIndexer.isCandidate, RuleIndexer.files,
              Bool.or_eq_true, decide_eq_true_eq]
            rcases named with same | ip
            · exact Or.inl ⟨same, filed⟩
            · exact Or.inr ⟨ip, filed⟩
          · cases isMatch
        · cases isMatch
      · cases isMatch

/-- The index names the protocol of a packet as the matcher does. -/
theorem protocolNamed?_of_packet
    {event : IDSEvent}
    {protocol : RuleProtocol}
    (isProtocol : packetProtocol? event = some protocol) :
    RuleIndexer.protocolNamed? event.transportProtocol =
      some protocol := by
  simp only [packetProtocol?, RuleIndexer.protocolNamed?] at isProtocol ⊢
  cases text : event.transportProtocol with
  | none =>
      rw [text] at isProtocol
      cases isProtocol
  | some name =>
      rw [text] at isProtocol
      simp only at isProtocol ⊢
      split at isProtocol <;> rename_i isTcp
      · rw [if_pos isTcp]
        exact isProtocol
      · split at isProtocol <;> rename_i isUdp
        · rw [if_neg isTcp, if_pos isUdp]
          exact isProtocol
        · cases isProtocol

/--
Anything that only rules with a matching header yield is yielded by the
candidates of a packet exactly as by all rules, in the same order.
-/
theorem filterMap_candidates
    {Item : Type}
    (repository : RuleRepository)
    (event : IDSEvent)
    {yield : Rule → Option Item}
    (onlyMatching :
      ∀ rule, (yield rule).isSome → matchHeader rule event = true) :
    ((RuleIndexer.build repository).candidates
        event.transportProtocol event.dstPort).filterMap yield =
      repository.rules.filterMap yield := by
  by_cases anyMatch : ∃ rule, matchHeader rule event = true
  · obtain ⟨witness, isMatch⟩ := anyMatch
    obtain ⟨protocol, port, isProtocol, isPort, valid, _⟩ :=
      files_of_matchHeader isMatch
    rw [isPort, RuleIndexer.candidates_eq_filter repository
      (protocolNamed?_of_packet isProtocol) valid, List.filterMap_filter]
    congr 1
    funext rule
    split <;> rename_i isCandidate
    · rfl
    · cases item : yield rule with
      | none =>
          rfl
      | some found =>
          obtain ⟨otherProtocol, otherPort, sameProtocol, samePort, _,
              candidate⟩ :=
            files_of_matchHeader (onlyMatching rule (by simp [item]))
          rw [isProtocol] at sameProtocol
          rw [isPort] at samePort
          cases sameProtocol
          cases samePort
          exact absurd candidate isCandidate
  · have nothing : ∀ rule, yield rule = none := by
      intro rule
      cases item : yield rule with
      | none =>
          rfl
      | some found =>
          exact absurd ⟨rule, onlyMatching rule (by simp [item])⟩ anyMatch
    simp [nothing]

/-- The item of a built match is what was built. -/
@[simp] theorem item?_ofBuild
    {Item : Type}
    (built : Except PyException Item) :
    (Outcome.ofBuild built).item? = built.toOption := by
  cases built <;> rfl

/-- A complete match has something to report. -/
theorem matchDetails_ne_nil
    {event : IDSEvent}
    {ctx : Option FlowContext}
    {rule : Rule}
    (isMatch : fullMatch event ctx rule = true) :
    matchDetails event rule ≠ [] := by
  simp only [fullMatch, Bool.and_eq_true, Bool.or_eq_true,
    decide_eq_true_eq] at isMatch
  simp only [matchDetails]
  split <;> rename_i noContents
  · simp
  · rw [matchContents_getD_ne_nil_iff noContents]
    exact isMatch.2.resolve_left noContents

/--
The three things testing a rule can come to: it is rejected, its content search
raises, or it matches completely and its item is built.
-/
theorem of_cases
    {Item : Type}
    (build : RuleMatch → Except PyException Item)
    (faults : CallFaults)
    (event : IDSEvent)
    (ctx : Option FlowContext)
    (rule : Rule) :
    (fullMatch event ctx rule = false ∧
        ∃ stage,
          Outcome.of build faults event ctx rule = .rejected stage) ∨
      (rule.contents ≠ [] ∧ (faults.contentSearch rule).isSome ∧
        Outcome.of build faults event ctx rule = .raisedEarly) ∨
      (fullMatch event ctx rule = true ∧
        (rule.contents ≠ [] → faults.contentSearch rule = none) ∧
        ∃ notEmpty,
          Outcome.of build faults event ctx rule =
            .ofBuild
              (build ⟨rule, matchDetails event rule, notEmpty⟩)) := by
  simp only [Outcome.of]
  split <;> rename_i header
  · exact Or.inl ⟨by simp [fullMatch, header], _, rfl⟩
  split <;> rename_i flow
  · exact Or.inl ⟨by simp [fullMatch, flow], _, rfl⟩
  split <;> rename_i packet
  · exact Or.inl
      ⟨by simp [fullMatch, Bool.and_assoc, packet], _, rfl⟩
  rw [Bool.not_eq_false] at header flow packet
  split <;> rename_i noContents
  · have details : matchDetails event rule = [.header] :=
      if_pos noContents
    have isMatch : fullMatch event ctx rule = true := by
      simp [fullMatch, header, flow, packet, noContents]
    refine Or.inr (Or.inr ⟨isMatch, fun some => absurd noContents some,
      matchDetails_ne_nil isMatch, ?_⟩)
    simp only [details]
  · split <;> rename_i fault
    · exact Or.inr (Or.inl ⟨noContents, by simp [fault], rfl⟩)
    · have details :
          matchDetails event rule =
            (matchContents rule event.payload none).getD [] :=
        if_neg noContents
      have whenFound :
          fullMatch event ctx rule = true ↔
            (matchContents rule event.payload none).getD [] ≠ [] := by
        rw [matchContents_getD_ne_nil_iff noContents]
        simp [fullMatch, header, flow, packet, noContents]
      split <;> rename_i found
      · have isMatch := whenFound.mpr found
        refine Or.inr (Or.inr ⟨isMatch, fun _ => fault,
          matchDetails_ne_nil isMatch, ?_⟩)
        simp only [details]
      · refine Or.inl ⟨?_, _, rfl⟩
        rw [Bool.eq_false_iff]
        exact fun isMatch => found (whenFound.mp isMatch)

/-- An item is only built for a rule that matches completely. -/
theorem fullMatch_of_item?
    {Item : Type}
    {build : RuleMatch → Except PyException Item}
    {faults : CallFaults}
    {event : IDSEvent}
    {ctx : Option FlowContext}
    {rule : Rule}
    (yields : (Outcome.of build faults event ctx rule).item?.isSome) :
    fullMatch event ctx rule = true := by
  rcases of_cases build faults event ctx rule with
    ⟨_, _, rejected⟩ | ⟨_, _, raised⟩ | ⟨isMatch, _⟩
  · rw [rejected] at yields
    cases yields
  · rw [raised] at yields
    cases yields
  · exact isMatch

namespace EvaluationEngine

/-- An enabled engine leaves an eligible event untested only without rules. -/
theorem rules_of_not_tests
    {repository : RuleRepository}
    {enabled : Bool}
    {event : IDSEvent}
    (skipped : (ofRepository repository enabled).tests event = false)
    (goes : enabled = true ∧ eligible event = true) :
    repository.rules = [] := by
  simpa [tests, ofRepository, goes, RuleRepository.size,
    RuleRepository.freeze] using skipped

/--
What `_run` returns is what testing every rule of the repository on its own
yields, in repository order.
-/
theorem run_items
    {Item : Type}
    (repository : RuleRepository)
    (enabled : Bool)
    (build : RuleMatch → Except PyException Item)
    (faults : CallFaults)
    (stats : EvaluationStats)
    (event : IDSEvent)
    (ctx : Option FlowContext) :
    ((ofRepository repository enabled).run build faults stats event
        ctx).2 =
      if enabled = true ∧ eligible event = true then
        repository.rules.filterMap fun rule =>
          (Outcome.of build faults event ctx rule).item?
      else
        [] := by
  cases tested : (ofRepository repository enabled).tests event with
  | true =>
      have goes : enabled = true ∧ eligible event = true := by
        simp only [tests, decide_eq_true_eq] at tested
        exact ⟨tested.1, tested.2.2⟩
      rw [run_of_tests tested, if_pos goes]
      exact filterMap_candidates repository.freeze event
        fun rule yields =>
          matchHeader_of_fullMatch (fullMatch_of_item? yields)
  | false =>
      rw [run_of_not_tests tested]
      split <;> rename_i goes
      · rw [rules_of_not_tests tested goes, List.filterMap_nil]
      · rfl

/-- The detection of a complete match. -/
theorem item?_detect
    {event : IDSEvent}
    (ctx : Option FlowContext)
    (isPacket : (packetProtocol? event).isSome)
    {rule : Rule}
    (isMatch : fullMatch event ctx rule = true) :
    ∃ detection,
      (Outcome.of (buildDetection .none event ctx) .none event ctx
          rule).item? = some detection ∧
        makeDetection rule event ctx (matchDetails event rule) =
          .ok detection ∧
        detection.sid = rule.sid := by
  obtain ⟨detection, made, sameSid⟩ :=
    makeDetection_ok ctx isPacket (matchDetails_valid event rule)
  refine ⟨detection, ?_, made, sameSid⟩
  rcases of_cases (buildDetection .none event ctx) .none event ctx rule
    with ⟨noMatch, _⟩ | ⟨_, fault, _⟩ | ⟨_, _, notEmpty, built⟩
  · rw [isMatch] at noMatch
    cases noMatch
  · cases fault
  · rw [built, item?_ofBuild]
    simp only [buildDetection, CallFaults.none, made]
    rfl

/-- Rules that are selected yield a fitting item, the others nothing. -/
theorem forall₂_filterMap
    {Item : Type}
    {selected : Rule → Bool}
    {yield : Rule → Option Item}
    {Fits : Rule → Item → Prop}
    (picked :
      ∀ rule, selected rule = true →
        ∃ item, yield rule = some item ∧ Fits rule item)
    (dropped : ∀ rule, selected rule = false → yield rule = none)
    (rules : List Rule) :
    List.Forall₂ Fits (rules.filter selected)
      (rules.filterMap yield) := by
  induction rules with
  | nil =>
      exact .nil
  | cons rule rest inductionHypothesis =>
      cases isSelected : selected rule with
      | true =>
          obtain ⟨item, isItem, fits⟩ := picked rule isSelected
          rw [List.filter_cons_of_pos isSelected,
            List.filterMap_cons_some isItem]
          exact .cons fits inductionHypothesis
      | false =>
          rw [List.filter_cons_of_neg (by simp [isSelected]),
            List.filterMap_cons_none (dropped rule isSelected)]
          exact inductionHypothesis

/--
Refinement of a scan: with no rule raising, `detect` returns one detection for
each rule of the repository that matches completely, in repository order, and
no other.
-/
theorem detect_eq_scan
    (repository : RuleRepository)
    (stats : EvaluationStats)
    (event : IDSEvent)
    (ctx : Option FlowContext)
    (isEligible : eligible event = true) :
    let engine := ofRepository repository true
    let returned := (engine.detect .none stats event ctx).2
    List.Forall₂
        (fun rule detection =>
          makeDetection rule event ctx (matchDetails event rule) =
              .ok detection ∧
            detection.sid = rule.sid)
        (repository.rules.filter (fullMatch event ctx))
        returned ∧
      (returned.map Detection.sid).Nodup := by
  intro engine returned
  have isPacket : (packetProtocol? event).isSome := by
    simp only [eligible, decide_eq_true_eq] at isEligible
    exact isEligible.2.2.2.1
  have scanned := run_items repository true
    (buildDetection .none event ctx) .none stats event ctx
  rw [if_pos ⟨rfl, isEligible⟩] at scanned
  have matched :
      List.Forall₂
        (fun rule detection =>
          makeDetection rule event ctx (matchDetails event rule) =
              .ok detection ∧
            detection.sid = rule.sid)
        (repository.rules.filter (fullMatch event ctx))
        returned := by
    simp only [returned, detect, engine, scanned]
    refine forall₂_filterMap ?_ ?_ _
    · exact fun rule isMatch => item?_detect ctx isPacket isMatch
    · intro rule noMatch
      rw [← Option.not_isSome_iff_eq_none]
      intro yields
      rw [fullMatch_of_item? yields] at noMatch
      cases noMatch
  refine ⟨matched, ?_⟩
  have sameSids :
      returned.map Detection.sid =
        (repository.rules.filter (fullMatch event ctx)).map Rule.sid := by
    symm
    rw [← List.forall₂_eq_eq_eq, List.forall₂_map_left_iff,
      List.forall₂_map_right_iff]
    exact matched.imp fun _ _ fits => fits.2.symm
  rw [sameSids]
  exact (List.filter_sublist.map Rule.sid).nodup repository.sidsNodup

/-- `alert tcp any any -> any 80`, looking for `GET` in any letter case. -/
def httpRule : Rule where
  protocol := .tcp
  srcIp := ⟨true, 0, 0⟩
  srcPort := ⟨0, 65535, by decide⟩
  direction := .oneWay
  dstIp := ⟨true, 0, 0⟩
  dstPort := ⟨80, 80, by decide⟩
  msg := lit "GET request"
  sid := 1
  rev := 1
  classtype := none
  priority := some 3
  contents :=
    [{ raw := lit "get"
       pattern := [0x67, 0x65, 0x74]
       nocase := true
       offset := none
       depth := none
       distance := none
       within := none
       patternNotEmpty := by simp }]
  flow := none
  flags := none
  dsize := none
  passiveOptions := []
  sourceFile := lit "local.rules"
  lineNo := 1
  raw := lit "alert tcp any any -> any 80 (...)"
  priorityPositive := by simp

/-- The request `httpRule` looks for. -/
def httpRequest : IDSEvent :=
  { tcpSegment 0 ⟨lit "10.0.0.1", 50000⟩ ⟨lit "10.0.0.2", 80⟩
      [lit "ACK"] with
    payload := .bytes [0x47, 0x45, 0x54, 0x20] }

/-- The scan at one rule and one request, without a flow context. -/
theorem detect_httpRequest :
    let repository : RuleRepository :=
      { rules := [httpRule], frozen := false, sidsNodup := by simp }
    let engine := ofRepository repository true
    let returned := (engine.detect .none .zero httpRequest none).2
    List.Forall₂
        (fun rule detection =>
          makeDetection rule httpRequest none
                (matchDetails httpRequest rule) = .ok detection ∧
            detection.sid = rule.sid)
        (repository.rules.filter (fullMatch httpRequest none))
        returned ∧
      (returned.map Detection.sid).Nodup :=
  detect_eq_scan _ .zero httpRequest none (by decide)

end EvaluationEngine

end IntrusionDetection
