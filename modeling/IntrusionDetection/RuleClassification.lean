import IntrusionDetection.RuleFaults
import Mathlib.Data.List.ReduceOption

namespace IntrusionDetection

open PyText MapEarlier FaultPrecedence

/-!
# Classification of a rule line

The parser reports the first invalid fault of a line and, if there is none, the
first unsupported one.  Each part is shown to report the classification of its
own faults; the whole line then follows by composing the parts.
-/

/-- What a list of faults comes to. -/
abbrev classified : List RuleReason → Option RuleReason :=
  classify RuleReason.isInvalid

/-- The faults of a condition are at most its one fault. -/
theorem mem_faultIf
    {condition : Prop}
    [Decidable condition]
    {fault found : RuleReason} :
    found ∈ faultIf condition fault ↔ condition ∧ found = fault := by
  simp only [faultIf]
  split <;> simp_all

@[simp] theorem faultIf_of_true
    {condition : Prop}
    [Decidable condition]
    (holds : condition)
    (fault : RuleReason) :
    faultIf condition fault = [fault] :=
  if_pos holds

@[simp] theorem faultIf_of_false
    {condition : Prop}
    [Decidable condition]
    (fails : ¬ condition)
    (fault : RuleReason) :
    faultIf condition fault = [] :=
  if_neg fails

/-! ### Header -/

/-- The loop over the header fields reports what their faults come to. -/
theorem errorOf_headerLoop
    {remembered : Option RuleReason}
    (minor : ∀ reason ∈ remembered, reason.isInvalid = false)
    (faults : List (Option RuleReason)) :
    errorOf (headerLoop remembered faults) =
      prefer RuleReason.isInvalid remembered
        (classified faults.reduceOption) := by
  induction faults generalizing remembered with
  | nil =>
      rw [List.reduceOption_nil, classified, classify_nil,
        prefer_none_right]
      cases remembered <;> rfl
  | cons fault rest inductionHypothesis =>
      cases fault with
      | none =>
          rw [List.reduceOption_cons_of_none]
          exact inductionHypothesis minor
      | some reason =>
          rw [List.reduceOption_cons_of_some, classified, classify_cons]
          cases isInvalid : reason.isInvalid with
          | true =>
              rw [prefer_of_severe isInvalid, prefer_severe minor isInvalid]
              simp [headerLoop, isInvalid, errorOf]
          | false =>
              have alsoMinor :
                  ∀ fault ∈ some reason, fault.isInvalid = false := by
                rintro fault ⟨⟩
                exact isInvalid
              have stillMinor :
                  ∀ fault ∈ remembered.or (some reason),
                    fault.isInvalid = false := by
                intro fault member
                rcases Option.or_eq_some_iff.mp member with
                  first | ⟨_, second⟩
                · exact minor fault first
                · exact alsoMinor fault second
              rw [← prefer_assoc, prefer_minor minor alsoMinor,
                ← inductionHypothesis stillMinor]
              simp [headerLoop, isInvalid]

/-- Without a faulty field the header is parsed. -/
theorem parseHeader_of_headerFaults
    {tokens : HeaderTokens}
    (faultless : headerFaults tokens = []) :
    ∃ header, parseHeader tokens = .ok header := by
  obtain ⟨count, allNone⟩ := List.reduceOption_eq_nil_iff _ |>.mp faultless
  have parsed : ∀ fault ∈ fieldFaults tokens, fault = none := by
    rw [allNone]
    exact fun fault member => (List.mem_replicate.mp member).2
  simp only [fieldFaults, List.mem_cons, List.not_mem_nil, or_false,
    forall_eq_or_imp, forall_eq, errorOf_eq_none_iff] at parsed
  obtain ⟨⟨_, action⟩, ⟨protocol, isProtocol⟩, ⟨srcIp, isSrcIp⟩,
    ⟨srcPort, isSrcPort⟩, ⟨direction, isDirection⟩, ⟨dstIp, isDstIp⟩,
    ⟨dstPort, isDstPort⟩⟩ := parsed
  refine ⟨⟨protocol, srcIp, srcPort, direction, dstIp, dstPort⟩, ?_⟩
  simp only [parseHeader, fieldFaults, action, isProtocol, isSrcIp,
    isSrcPort, isDirection, isDstIp, isDstPort, errorOf, headerLoop]
  rfl

/-- The header parser reports what the faults of the fields come to. -/
theorem errorOf_parseHeader (tokens : HeaderTokens) :
    errorOf (parseHeader tokens) = classified (headerFaults tokens) := by
  have looped :
      errorOf (headerLoop none (fieldFaults tokens)) =
        classified (headerFaults tokens) :=
    errorOf_headerLoop (by rintro reason ⟨⟩) (fieldFaults tokens)
  cases loop : headerLoop none (fieldFaults tokens) with
  | error reason =>
      rw [← looped, parseHeader, loop]
      rfl
  | ok passed =>
      rw [loop] at looped
      have faultless : headerFaults tokens = [] :=
        classify_eq_none_iff.mp looped.symm
      obtain ⟨header, parsed⟩ := parseHeader_of_headerFaults faultless
      rw [parsed, faultless]
      rfl

/-! ### Identification -/

/-- What the loop over the identification options knows of earlier ones. -/
structure IdentState.Fits
    (defaultPriority : Int)
    (state : IdentState)
    (earlier : List OptionPair) : Prop where
  seen : ∀ keyword, keyword ∈ state.seen ↔ hasIdent earlier keyword
  sid : state.sid.isSome ↔ hasIdent earlier .sid
  msg : state.msg.isSome ↔ hasIdent earlier .msg
  priority : state.priority = defaultPriority ∨ 1 ≤ state.priority

/-- One more option that is no identification option. -/
theorem hasIdent_snoc
    {earlier : List OptionPair}
    {option : OptionPair}
    {keyword : IdentKeyword} :
    hasIdent (earlier ++ [option]) keyword ↔
      hasIdent earlier keyword ∨
        option.key = .identification keyword := by
  simp [hasIdent, or_and_right, exists_or]

/-- The faults of an identification option are all invalid. -/
theorem identOptionFaults_invalid
    {earlier : List OptionPair}
    {option : OptionPair}
    {fault : RuleReason}
    (member : fault ∈ identOptionFaults earlier option) :
    fault.isInvalid = true := by
  simp only [identOptionFaults] at member
  split at member
  · rename_i keyword isKey
    rcases List.mem_append.mp member with duplicate | value
    · rw [(mem_faultIf.mp duplicate).2]
      rfl
    · cases keyword <;>
        rw [(mem_faultIf.mp value).2] <;>
        rfl
  · cases member

/-- An option integer is positive. -/
theorem positiveInt?_pos
    {text : Option Str}
    {number : Nat}
    (read : positiveInt? text = some number) :
    1 ≤ number := by
  cases text with
  | none =>
      cases read
  | some text =>
      simp only [positiveInt?] at read
      simpa using (Option.filter_eq_some_iff.mp read).2

/-- The value of an identification option is read unless it is faulty. -/
theorem identValue_stops
    (state : IdentState)
    (keyword : IdentKeyword)
    (value : Option Str) :
    StopsAt RuleReason.isInvalid (identValueFaults keyword value)
      (fun next =>
        next.seen = state.seen ∧
          (next.sid.isSome ↔ state.sid.isSome ∨ keyword = .sid) ∧
          (next.msg.isSome ↔ state.msg.isSome ∨ keyword = .msg) ∧
          (next.priority = state.priority ∨ 1 ≤ next.priority))
      (identValue state keyword value) := by
  cases keyword with
  | msg =>
      cases read : unquoteString value <;>
        simp [StopsAt, identValueFaults, identValue, read, faultIf,
          RuleReason.isInvalid]
  | sid =>
      cases read : positiveInt? value <;>
        simp [StopsAt, identValueFaults, identValue, read, faultIf,
          RuleReason.isInvalid]
  | rev =>
      cases read : positiveInt? value <;>
        simp [StopsAt, identValueFaults, identValue, read, faultIf,
          RuleReason.isInvalid]
  | classtype =>
      cases read : classtype? value <;>
        simp [StopsAt, identValueFaults, identValue, read, faultIf,
          RuleReason.isInvalid]
  | priority =>
      cases read : positiveInt? value with
      | none =>
          simp [StopsAt, identValueFaults, identValue, read, faultIf,
            RuleReason.isInvalid]
      | some number =>
          have positive := positiveInt?_pos read
          simp [StopsAt, identValueFaults, identValue, read, faultIf]
          omega

/-- The loop body stops at the fault of an option, if it has one. -/
theorem identOption_stops (defaultPriority : Int) :
    StopsAtFaults RuleReason.isInvalid identOption identOptionFaults
      (IdentState.Fits defaultPriority) := by
  intro state earlier option fits
  obtain ⟨key, value⟩ := option
  cases key with
  | identification keyword =>
      by_cases duplicate : keyword ∈ state.seen
      · have given := (fits.seen keyword).mp duplicate
        simp only [identOption, if_pos duplicate]
        apply stopsAt_of_error
        simp [identOptionFaults, given, RuleReason.isInvalid]
      · have notGiven : ¬ hasIdent earlier keyword :=
          fun given => duplicate ((fits.seen keyword).mpr given)
        simp only [identOption, if_neg duplicate, identOptionFaults,
          faultIf_of_false notGiven, List.nil_append]
        rcases (identValue_stops
            { state with seen := state.seen ++ [keyword] } keyword
            value).cases with
          ⟨fault, found, stopped⟩ |
            ⟨next, nothing, read, seen, sid, msg, priority⟩
        · rw [stopped]
          exact stopsAt_of_error found
        · rw [read]
          refine stopsAt_of_ok nothing ⟨?_, ?_, ?_, ?_⟩
          · intro other
            rw [seen, hasIdent_snoc, List.mem_append, fits.seen]
            simp [eq_comm]
          · rw [sid, hasIdent_snoc, fits.sid]
            simp
          · rw [msg, hasIdent_snoc, fits.msg]
            simp
          · rcases priority with same | positive
            · rw [same]
              exact fits.priority
            · exact Or.inr positive
  | _ =>
      refine stopsAt_of_ok rfl ⟨?_, ?_, ?_, fits.priority⟩
      · intro other
        rw [hasIdent_snoc, ← fits.seen]
        simp
      · rw [hasIdent_snoc, ← fits.sid]
        simp
      · rw [hasIdent_snoc, ← fits.msg]
        simp

/-- The faults found along the options are all invalid. -/
theorem identOptionsFaults_invalid
    {options : List OptionPair}
    {fault : RuleReason}
    (member : fault ∈ (mapEarlier identOptionFaults [] options).flatten) :
    fault.isInvalid = true := by
  obtain ⟨faults, ofOption, inFaults⟩ := List.mem_flatten.mp member
  obtain ⟨earlier, option, _, rfl⟩ := exists_of_mem_mapEarlier ofOption
  exact identOptionFaults_invalid inFaults

/-- The identification faults are all invalid. -/
theorem identificationFaults_invalid
    {options : List OptionPair}
    {fault : RuleReason}
    (member : fault ∈ identificationFaults options) :
    fault.isInvalid = true := by
  simp only [identificationFaults, List.mem_append, mem_faultIf]
    at member
  rcases member with (ofOption | ⟨_, rfl⟩) | ⟨_, rfl⟩
  · exact identOptionsFaults_invalid ofOption
  · rfl
  · rfl

/-- The end of the identification stops at a missing option. -/
theorem identEnd_stops
    {defaultPriority : Int}
    {state : IdentState}
    {options : List OptionPair}
    (fits : state.Fits defaultPriority options) :
    StopsAt RuleReason.isInvalid
      (faultIf (¬ hasIdent options .sid) .missingSid ++
        faultIf (¬ hasIdent options .msg) .missingMsg)
      (fun identification =>
        identification.priority = defaultPriority ∨
          1 ≤ identification.priority)
      (identEnd state) := by
  have sid := fits.sid
  have msg := fits.msg
  cases isSid : state.sid with
  | none =>
      rw [isSid] at sid
      have missing : ¬ hasIdent options .sid :=
        fun given => by simpa using sid.mpr given
      rw [faultIf_of_true missing]
      simp only [identEnd, isSid]
      exact stopsAt_of_error rfl
  | some number =>
      rw [isSid] at sid
      rw [faultIf_of_false (not_not.mpr (sid.mp rfl)), List.nil_append]
      cases isMsg : state.msg with
      | none =>
          rw [isMsg] at msg
          have missing : ¬ hasIdent options .msg :=
            fun given => by simpa using msg.mpr given
          rw [faultIf_of_true missing]
          simp only [identEnd, isSid, isMsg]
          exact stopsAt_of_error rfl
      | some text =>
          rw [isMsg] at msg
          rw [faultIf_of_false (not_not.mpr (msg.mp rfl))]
          simp only [identEnd, isSid, isMsg]
          exact stopsAt_of_ok rfl fits.priority

/-- The identification stops at the first of its faults. -/
theorem parseIdentification_stops
    (options : List OptionPair)
    (defaultPriority : Int) :
    StopsAt RuleReason.isInvalid (identificationFaults options)
      (fun identification =>
        identification.priority = defaultPriority ∨
          1 ≤ identification.priority)
      (parseIdentification options defaultPriority) := by
  rw [identificationFaults, List.append_assoc]
  refine ((identOption_stops defaultPriority).foldlM ?_ options).bind ?_
  · constructor <;> simp [hasIdent]
  · exact fun state fits => identEnd_stops fits

/-! ### Contents -/

/-- The text behind the negation of a content is not negated again. -/
theorem isNegated_tail
    {value : Option Str}
    (negated : isNegated value = true) :
    isNegated (value.map List.tail) = false := by
  cases value with
  | none =>
      rfl
  | some text =>
      obtain ⟨rest, rfl⟩ : lit "!\"" <+: text :=
        List.isPrefixOf_iff_prefix.mp negated
      rfl

/-- What the loop over the contents knows of the earlier options. -/
structure ContentsState.Fits
    (state : ContentsState)
    (earlier : List OptionPair) : Prop where
  current :
    state.current.map OpenContent.seen = openModifiers? earlier
  unsupported : state.unsupported = (contentFaults earlier).head?

/-- One more option may add a content or a modifier. -/
theorem openModifiers?_snoc
    (earlier : List OptionPair)
    (option : OptionPair) :
    openModifiers? (earlier ++ [option]) =
      match option.key with
      | .content => some []
      | .modifier modifier =>
          (openModifiers? earlier).map (· ++ [modifier])
      | _ => openModifiers? earlier := by
  simp only [openModifiers?, List.foldl_append]
  rfl

/-- One more option adds its faults. -/
theorem contentFaults_snoc
    (earlier : List OptionPair)
    (option : OptionPair) :
    contentFaults (earlier ++ [option]) =
      contentFaults earlier ++ contentOptionFaults earlier option := by
  simp [contentFaults, mapEarlier_snoc]

/-- What the loop knows after one more option. -/
theorem ContentsState.Fits.snoc
    {state next : ContentsState}
    {earlier : List OptionPair}
    {option : OptionPair}
    (fits : state.Fits earlier)
    (current :
      next.current.map OpenContent.seen =
        openModifiers? (earlier ++ [option]))
    (unsupported :
      next.unsupported =
        state.unsupported.or (contentOptionFaults earlier option).head?) :
    next.Fits (earlier ++ [option]) where
  current := current
  unsupported := by
    rw [unsupported, contentFaults_snoc, List.head?_append,
      fits.unsupported]

/-- The loop body reads a content, or stops at its fault. -/
theorem contentsOption_content
    {state : ContentsState}
    {earlier : List OptionPair}
    (fits : state.Fits earlier)
    (value : Option Str) :
    StopsAt RuleReason.isInvalid
      (contentOptionFaults earlier ⟨.content, value⟩)
      (fun next => next.Fits (earlier ++ [⟨.content, value⟩]))
      (contentsOption state ⟨.content, value⟩) := by
  have opened := openModifiers?_snoc earlier ⟨.content, value⟩
  cases negated : isNegated value with
  | true =>
      have positive : positiveText value = value.map List.tail :=
        if_pos negated
      have once := isNegated_tail negated
      cases decoded : decodeQuoted? (value.map List.tail) with
      | none =>
          simp [StopsAt, contentOptionFaults, negated, positive, decoded,
            RuleReason.isInvalid, badContent, contentsOption,
            decodeContent, once]
      | some content =>
          have faults :
              contentOptionFaults earlier ⟨.content, value⟩ =
                [.contentNegation] := by
            simp [contentOptionFaults, negated, positive, decoded]
          have read :
              contentsOption state ⟨.content, value⟩ =
                .ok {
                  contents := state.close
                  current := some content.open
                  unsupported :=
                    state.unsupported.or (some .contentNegation) } := by
            simp [contentsOption, decodeContent, negated, once, decoded]
          rw [read]
          apply stopsAt_of_ok
          · rw [faults]
            rfl
          · exact fits.snoc opened.symm (by rw [faults]; rfl)
  | false =>
      have positive : positiveText value = value := by
        simp [positiveText, negated]
      cases decoded : decodeQuoted? value with
      | none =>
          simp [StopsAt, contentOptionFaults, negated, positive, decoded,
            RuleReason.isInvalid, badContent, contentsOption,
            decodeContent]
      | some content =>
          have faults :
              contentOptionFaults earlier ⟨.content, value⟩ = [] := by
            simp [contentOptionFaults, negated, positive, decoded]
          have read :
              contentsOption state ⟨.content, value⟩ =
                .ok { state with
                  contents := state.close
                  current := some content.open } := by
            simp [contentsOption, decodeContent, negated, decoded]
          rw [read]
          apply stopsAt_of_ok
          · rw [faults]
            rfl
          · refine fits.snoc opened.symm ?_
            rw [faults, List.head?_nil, Option.or_none]

/-- The loop body reads a modifier, or stops at its fault. -/
theorem contentsOption_modifier
    {state : ContentsState}
    {earlier : List OptionPair}
    (fits : state.Fits earlier)
    (modifier : ContentModifier)
    (value : Option Str) :
    StopsAt RuleReason.isInvalid
      (contentOptionFaults earlier ⟨.modifier modifier, value⟩)
      (fun next => next.Fits (earlier ++ [⟨.modifier modifier, value⟩]))
      (contentsOption state ⟨.modifier modifier, value⟩) := by
  have opened := openModifiers?_snoc earlier ⟨.modifier modifier, value⟩
  have current := fits.current
  cases isCurrent : state.current with
  | none =>
      rw [isCurrent] at current
      simp [StopsAt, contentOptionFaults, ← current,
        RuleReason.isInvalid, contentsOption, isCurrent]
  | some content =>
      rw [isCurrent, Option.map_some] at current
      by_cases duplicate : modifier ∈ content.seen
      · simp only [contentsOption, isCurrent, if_pos duplicate]
        apply stopsAt_of_error
        simp [contentOptionFaults, ← current, duplicate,
          RuleReason.isInvalid]
      · cases read : modifierValue? modifier value with
        | none =>
            simp [StopsAt, contentOptionFaults, ← current, duplicate, read,
              RuleReason.isInvalid, contentsOption, isCurrent]
        | some number =>
            have faults :
                contentOptionFaults earlier ⟨.modifier modifier, value⟩ =
                  [] := by
              simp [contentOptionFaults, ← current, duplicate, read]
            simp only [contentsOption, isCurrent, if_neg duplicate, read]
            apply stopsAt_of_ok
            · rw [faults]
              rfl
            · refine fits.snoc ?_ ?_
              · simp [opened, ← current]
              · rw [faults, List.head?_nil, Option.or_none]

/-- The loop over the contents stops at the first invalid fault. -/
theorem contentsOption_stops :
    StopsAtFaults RuleReason.isInvalid contentsOption contentOptionFaults
      ContentsState.Fits := by
  intro state earlier option fits
  obtain ⟨key, value⟩ := option
  cases key with
  | content =>
      exact contentsOption_content fits value
  | modifier modifier =>
      exact contentsOption_modifier fits modifier value
  | _ =>
      refine stopsAt_of_ok rfl (fits.snoc ?_ (Option.or_none).symm)
      rw [openModifiers?_snoc]
      exact fits.current

/--
The content parser stops at the first invalid fault; otherwise the reason it
hands back is the first fault of all.
-/
theorem parseContentsFull_stops (options : List OptionPair) :
    StopsAt RuleReason.isInvalid (contentFaults options)
      (fun parsed => parsed.2 = (contentFaults options).head?)
      (parseContentsFull options) := by
  let start : ContentsState :=
    { contents := [], current := none, unsupported := none }
  have initially : start.Fits [] := ⟨rfl, rfl⟩
  have looped := contentsOption_stops.foldlM initially options
  simp only [parseContentsFull]
  rcases looped.cases with
    ⟨fault, found, stopped⟩ | ⟨final, nothing, read, fits⟩
  · simp only [start] at stopped
    rw [stopped]
    exact stopsAt_of_error found
  · simp only [start] at read
    rw [read]
    exact stopsAt_of_ok nothing fits.unsupported

/-- The checker of the contents reports what their faults come to. -/
theorem checkContents_reports (options : List OptionPair) :
    Checker.Reports RuleReason.isInvalid
      (RuleChecker.checkContents options)
      (classified (contentFaults options))
      fun contents =>
        ∃ reason, parseContentsFull options = .ok (contents, reason) := by
  intro remembered
  rcases (parseContentsFull_stops options).cases with
    ⟨fault, found, stopped⟩ | ⟨parsed, nothing, read, isHead⟩
  · have isInvalid := List.find?_some found
    simp [RuleChecker.checkContents, Checker.andThen, Checker.attempt,
      stopped, isInvalid, classified, classify, found]
  · have reported : classified (contentFaults options) = parsed.2 := by
      rw [isHead, classified, classify, nothing, Option.none_or]
    have minor : ∀ fault ∈ parsed.2, fault.isInvalid = false := by
      intro fault member
      rw [isHead] at member
      simpa using List.find?_eq_none.mp nothing fault
        (List.mem_of_head? member)
    simp only [RuleChecker.checkContents, Checker.andThen,
      Checker.attempt, Checker.note, Checker.pure, read, reported]
    refine ⟨minor, ?_, parsed.2, rfl⟩
    cases remembered <;> cases parsed.2 <;> rfl

/-! ### Flow, flags and dsize -/

/-- A flow value reports what its faults come to. -/
theorem errorOf_parseFlowValue (value : Option Str) :
    errorOf (parseFlowValue value) = classified (flowValueFaults value) := by
  simp only [parseFlowValue, flowValueFaults]
  cases flowItems? value with
  | none =>
      simp [errorOf]
  | some items =>
      by_cases conflict : flowConflict items = true
      · simp only [if_pos conflict, faultIf_of_true conflict]
        exact (classify_cons_of_severe rfl _).symm
      · have minor :
            ∀ fault ∈ (items.filter isUnknownFlowItem).map
                RuleReason.flowOption,
              fault.isInvalid = false := by
          intro fault member
          obtain ⟨item, _, rfl⟩ := List.mem_map.mp member
          rfl
        simp only [if_neg conflict, faultIf_of_false conflict,
          List.nil_append, classified, classify_of_minor minor,
          List.head?_map, List.head?_filter]
        cases items.find? isUnknownFlowItem <;> rfl

/-- A flags value reports what its faults come to. -/
theorem errorOf_parseFlagsValue (value : Option Str) :
    errorOf (parseFlagsValue value) =
      classified (flagsValueFaults value) := by
  cases value with
  | none =>
      simp [parseFlagsValue, flagsValueFaults, errorOf]
  | some text =>
      simp only [parseFlagsValue, flagsValueFaults]
      cases flagsMain? (partition (codePoint ',') text).1 with
      | none =>
          exact (classify_cons_of_severe rfl _).symm
      | some flags =>
          cases (partition (codePoint ',') text).2 <;>
            simp [errorOf]

/-- A dsize value reports its only fault. -/
theorem errorOf_parseDsizeValue (value : Option Str) :
    errorOf (parseDsizeValue value) =
      classified (dsizeValueFaults value) := by
  simp only [dsizeValueFaults]
  cases errorOf (parseDsizeValue value) <;> simp

/-- An option that may be given once reports what its faults come to. -/
theorem errorOf_parseSingle
    {Spec : Type}
    {parseValue : Option Str → Except RuleReason Spec}
    {valueFaults : Option Str → List RuleReason}
    (described :
      ∀ value,
        errorOf (parseValue value) = classified (valueFaults value))
    (key : Keyword)
    (options : List OptionPair) :
    errorOf (parseSingle key parseValue options) =
      classified (singleFaults key valueFaults options) := by
  simp only [parseSingle, singleOption, singleFaults]
  cases options.filter fun option => option.key = key with
  | nil =>
      simp [errorOf]
  | cons option rest =>
      cases rest with
      | nil =>
          have value := described option.value
          cases read : parseValue option.value <;>
            rw [read] at value <;>
            simpa [errorOf, Except.map, read] using value
      | cons other later =>
          exact (classify_cons_of_severe rfl _).symm

/-! ### Cross-option checks and keywords -/

/-- The options of a content report their first conflict. -/
theorem errorOf_validateContent (content : ContentSpec) :
    errorOf (validateContent content) =
      (contentCrossFaults content).head? := by
  have depth :
      (content.depth.any (· < (content.pattern.length : Int)) = true) ↔
        ∃ depth ∈ content.depth, depth < content.pattern.length := by
    cases content.depth <;> simp
  have within :
      (content.within.any (· < (content.pattern.length : Int)) = true) ↔
        ∃ within ∈ content.within, within < content.pattern.length := by
    cases content.within <;> simp
  simp only [validateContent, depth, within, Bool.and_eq_true,
    Bool.or_eq_true, contentCrossFaults, faultIf]
  split_ifs <;> rfl

/-- The conflicts of a content are all invalid. -/
theorem contentCrossFaults_invalid
    {content : ContentSpec}
    {fault : RuleReason}
    (member : fault ∈ contentCrossFaults content) :
    fault.isInvalid = true := by
  simp only [contentCrossFaults, List.mem_append, mem_faultIf] at member
  rcases member with (⟨_, rfl⟩ | ⟨_, rfl⟩) | ⟨_, rfl⟩ <;> rfl

/-- The cross-option checks stop at the first conflict of all contents. -/
theorem validateContents_stops (contents : List ContentSpec) :
    StopsAt RuleReason.isInvalid (contents.flatMap contentCrossFaults)
      (fun _ => True) (validateContents contents) := by
  induction contents with
  | nil =>
      exact stopsAt_of_ok rfl trivial
  | cons content rest inductionHypothesis =>
      have first :
          StopsAt RuleReason.isInvalid (contentCrossFaults content)
            (fun _ => True) (validateContent content) :=
        stopsAt_of_errorOf (fun _ => contentCrossFaults_invalid)
          (errorOf_validateContent content)
      rw [List.flatMap_cons]
      exact first.bind fun _ _ => inductionHypothesis

/-- Flags on a UDP rule stop the parser. -/
theorem validateFlagsProtocol_stops
    (tokens : HeaderTokens)
    (options : List OptionPair) :
    StopsAt RuleReason.isInvalid (udpFaults tokens options)
      (fun _ => True)
      (validateFlagsProtocol tokens.protocol
        (options.any fun option => option.key = .flags)) := by
  have given :
      ((options.any fun option => option.key = .flags) &&
          tokens.protocol = lit "udp") = true ↔
        (∃ option ∈ options, option.key = .flags) ∧
          tokens.protocol = lit "udp" := by
    simp
  simp only [validateFlagsProtocol, given, udpFaults, faultIf]
  split_ifs
  · exact stopsAt_of_error rfl
  · exact stopsAt_of_ok rfl trivial

/-- The faults of flags on a UDP rule are invalid. -/
theorem udpFaults_invalid
    {tokens : HeaderTokens}
    {options : List OptionPair}
    {fault : RuleReason}
    (member : fault ∈ udpFaults tokens options) :
    fault.isInvalid = true := by
  rw [(mem_faultIf.mp member).2]
  rfl

/-- Keywords outside the subset are merely unsupported. -/
theorem keywordFaults_minor
    {options : List OptionPair}
    {fault : RuleReason}
    (member : fault ∈ keywordFaults options) :
    fault.isInvalid = false := by
  obtain ⟨option, _, isFault⟩ := List.mem_filterMap.mp member
  simp only [keywordFault] at isFault
  split at isFault <;> cases isFault
  rfl

/-- The first keyword outside the subset is noted. -/
theorem unsupportedKeyword_reports (options : List OptionPair) :
    Checker.Reports RuleReason.isInvalid
      (Checker.note (unsupportedKeyword options))
      (classified (keywordFaults options)) fun _ => True := by
  rw [classified, classify_of_minor fun _ => keywordFaults_minor]
  apply Checker.reports_note
  intro fault member
  exact keywordFaults_minor (List.mem_of_head? member)

/-! ### The whole line -/

/-- The checks after the tokenizer report what the faults come to. -/
theorem checkParts_reports
    (tokens : HeaderTokens)
    (options : List OptionPair)
    (defaultPriority : Int) :
    Checker.Reports RuleReason.isInvalid
      (RuleChecker.checkParts tokens options defaultPriority)
      (classified (partFaults tokens options))
      fun parts =>
        (classified (headerFaults tokens) = none →
          parts.header.isSome) ∧
        (parts.identification.priority = defaultPriority ∨
          1 ≤ parts.identification.priority) := by
  have header :
      errorOf ((parseHeader tokens).map some) =
        classified (headerFaults tokens) := by
    rw [← errorOf_parseHeader]
    cases parseHeader tokens <;> rfl
  simp only [partFaults, classified, classify_append]
  refine (Checker.reports_attempt none header).andThen
    fun parsedHeader isHeader => ?_
  refine (Checker.reports_demand
    (fun _ => identificationFaults_invalid)
    (parseIdentification_stops options defaultPriority)).andThen
    fun identification priority => ?_
  refine (checkContents_reports options).andThen
    fun contents ⟨reason, read⟩ => ?_
  refine (Checker.reports_attempt none
    (errorOf_parseSingle errorOf_parseFlowValue .flow options)).andThen
    fun flow _ => ?_
  refine (Checker.reports_attempt none
    (errorOf_parseSingle errorOf_parseFlagsValue .flags options)).andThen
    fun flags _ => ?_
  refine (Checker.reports_attempt none
    (errorOf_parseSingle errorOf_parseDsizeValue .dsize options)).andThen
    fun dsize _ => ?_
  have cross : crossFaults options = contents.flatMap contentCrossFaults := by
    simp only [crossFaults, read]
  rw [cross]
  refine (Checker.reports_demand ?_ (validateContents_stops contents)).andThen
    fun _ _ => ?_
  · intro fault member
    obtain ⟨content, _, ofContent⟩ := List.mem_flatMap.mp member
    exact contentCrossFaults_invalid ofContent
  refine (Checker.reports_demand (fun _ => udpFaults_invalid)
    (validateFlagsProtocol_stops tokens options)).andThen fun _ _ => ?_
  rw [← prefer_none_right (classify RuleReason.isInvalid _)]
  refine (unsupportedKeyword_reports options).andThen fun _ _ =>
    Checker.reports_pure ⟨fun faultless => ?_, priority⟩
  have parsed := isHeader faultless
  cases isParsed : parseHeader tokens <;>
    rw [isParsed] at parsed <;>
    cases parsed
  rfl

/-- A valid line becomes a rule if the configured priority is positive. -/
theorem create_of_accepted
    {cfg : ParserCfg}
    (accepted : ∀ priority ∈ cfg.defaultPriority, 1 ≤ priority)
    (header : Header)
    {parts : RuleParts}
    (priority :
      parts.identification.priority = cfg.priority ∨
        1 ≤ parts.identification.priority)
    (text sourceFile : Str)
    (lineNo : Nat) :
    ∃ rule, Rule.create header parts text sourceFile lineNo = .ok rule := by
  have configured : 1 ≤ cfg.priority := by
    simp only [ParserCfg.priority]
    cases isSet : cfg.defaultPriority with
    | none =>
        decide
    | some value =>
        exact accepted value isSet
  have positive : 1 ≤ parts.identification.priority := by
    rcases priority with same | positive
    · rw [same]
      exact configured
    · exact positive
  exact ⟨_, dif_pos positive⟩

/-- The reason of a line is what its faults come to. -/
theorem reason?_parseRule
    {cfg : ParserCfg}
    (accepted : ∀ priority ∈ cfg.defaultPriority, 1 ≤ priority)
    (text sourceFile : Str)
    (lineNo : Nat) :
    (parseRule cfg text sourceFile lineNo).reason? =
      classified (ruleFaults text) := by
  simp only [parseRule, parseRuleUnguarded, ruleFaults]
  cases tokenizeRule text with
  | error reason =>
      simp [ParseResult.reason?]
  | ok tokenized =>
      obtain ⟨tokens, options⟩ := tokenized
      have reports := checkParts_reports tokens options cfg.priority []
      simp only
      cases checked :
          RuleChecker.checkParts tokens options cfg.priority [] with
      | error reason =>
          rw [checked] at reports
          exact reports.2.symm
      | ok result =>
          obtain ⟨parts, unsupported⟩ := result
          rw [checked] at reports
          obtain ⟨_, isHead, isHeader, priority⟩ := reports
          rw [List.head?_nil, Option.none_or] at isHead
          cases unsupported with
          | cons reason rest =>
              exact isHead
          | nil =>
              have faultless : partFaults tokens options = [] :=
                classify_eq_none_iff.mp isHead.symm
              have noHeaderFaults : headerFaults tokens = [] :=
                (List.append_eq_nil_iff.mp faultless).1
              obtain ⟨header, hasHeader⟩ := Option.isSome_iff_exists.mp
                (isHeader (by rw [noHeaderFaults]; rfl))
              obtain ⟨rule, created⟩ :=
                create_of_accepted accepted header priority text
                  sourceFile lineNo
              simp only [hasHeader, created]
              exact isHead

/-- The status of a result goes with its reason. -/
theorem ParseResult.status_eq (result : ParseResult) :
    result.status =
      match result.reason? with
      | none => .valid
      | some reason => reason.status := by
  cases result <;> rfl

/-- Only an invalid reason makes a line invalid. -/
theorem RuleReason.status_eq_invalid_iff {reason : RuleReason} :
    reason.status = .invalid ↔ reason.isInvalid = true := by
  simp only [RuleReason.status]
  split <;> simp_all

/-- A rejected line is not valid. -/
theorem RuleReason.status_ne_valid (reason : RuleReason) :
    reason.status ≠ .valid := by
  simp only [RuleReason.status]
  split <;> simp

/--
Classification of a rule line: the reason `parse_rule` reports is the first
invalid fault of the line and, if it has none, its first unsupported one; the
status is the one that goes with the reason, so a line is invalid whenever any
of its faults is, and valid only without faults.
-/
theorem parseRule_classifies
    (cfg : ParserCfg)
    (accepted : ∀ priority ∈ cfg.defaultPriority, 1 ≤ priority)
    (text sourceFile : Str)
    (lineNo : Nat) :
    let result := parseRule cfg text sourceFile lineNo
    result.reason? = classify RuleReason.isInvalid (ruleFaults text) ∧
      (result.status =
        match classify RuleReason.isInvalid (ruleFaults text) with
        | none => .valid
        | some reason => reason.status) ∧
      (result.status = .invalid ↔
        ∃ fault ∈ ruleFaults text, fault.isInvalid = true) ∧
      (result.status = .valid ↔ ruleFaults text = []) := by
  intro result
  have reason :
      result.reason? = classify RuleReason.isInvalid (ruleFaults text) :=
    reason?_parseRule accepted text sourceFile lineNo
  have status := result.status_eq
  rw [reason] at status
  have severe :
      (∃ fault,
          classify RuleReason.isInvalid (ruleFaults text) = some fault ∧
            fault.isInvalid = true) ↔
        ∃ fault ∈ ruleFaults text, fault.isInvalid = true :=
    classify_severe_iff
  have nothing :
      classify RuleReason.isInvalid (ruleFaults text) = none ↔
        ruleFaults text = [] :=
    classify_eq_none_iff
  refine ⟨reason, status, ?_, ?_⟩
  · rw [status, ← severe]
    cases classify RuleReason.isInvalid (ruleFaults text) with
    | none =>
        simp
    | some fault =>
        simp [RuleReason.status_eq_invalid_iff]
  · rw [status, ← nothing]
    cases classify RuleReason.isInvalid (ruleFaults text) with
    | none =>
        simp
    | some fault =>
        simp [fault.status_ne_valid]

/-- An unsupported address, a negated content and a depth that is too small. -/
def mixedFaultsLine : Str :=
  lit "alert tcp $HOME any -> any 80 " ++
    lit "(msg:\"m\"; content:!\"abc\"; depth:2; sid:1;)"

/-- The classification of a line with faults of both kinds. -/
theorem parseRule_mixedFaultsLine :
    let result :=
      parseRule { defaultPriority := some 3 } mixedFaultsLine [] 1
    result.reason? =
        classify RuleReason.isInvalid (ruleFaults mixedFaultsLine) ∧
      (result.status =
        match classify RuleReason.isInvalid
            (ruleFaults mixedFaultsLine) with
        | none => .valid
        | some reason => reason.status) ∧
      (result.status = .invalid ↔
        ∃ fault ∈ ruleFaults mixedFaultsLine, fault.isInvalid = true) ∧
      (result.status = .valid ↔ ruleFaults mixedFaultsLine = []) :=
  parseRule_classifies { defaultPriority := some 3 } (by simp) _ [] 1

example :
    ruleFaults mixedFaultsLine =
      [.ipSyntax, .contentNegation, .depthLtPattern] := by
  decide +kernel

end IntrusionDetection
