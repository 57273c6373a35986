import IntrusionDetection.RuleParser

namespace IntrusionDetection

open PyText FaultPrecedence

/-!
# Accepted rules

The options of a rule line are walked by several parsers, each of which passes
over the options of the others.  When the line becomes a rule, every option has
had an owner: the contents carry their own modifiers, and the other options are
set just where they were given.
-/

/-! ### The options as the rule should carry them -/

/-- The modifier an option is, with its value. -/
def OptionPair.modifier? (option : OptionPair) :
    Option (ContentModifier × Option Str) :=
  match option.key with
  | .modifier modifier => some (modifier, option.value)
  | _ => none

/-- The modifiers of a rule, in order. -/
def modifiersOf (options : List OptionPair) :
    List (ContentModifier × Option Str) :=
  options.filterMap OptionPair.modifier?

/-- The modifiers before the next content. -/
def modifiersBeforeContent (options : List OptionPair) :
    List (ContentModifier × Option Str) :=
  modifiersOf (options.takeWhile fun option => option.key ≠ .content)

/-- A content option with the modifiers between it and the next one. -/
structure ContentGroup where
  value : Option Str
  modifiers : List (ContentModifier × Option Str)

/-- The content options of a rule with their modifiers, in order. -/
def contentGroups : List OptionPair → List ContentGroup
  | [] => []
  | option :: rest =>
      if option.key = .content then
        ⟨option.value, modifiersBeforeContent rest⟩ :: contentGroups rest
      else
        contentGroups rest

/-- The value of an option that is only stored, under its name. -/
def OptionPair.passive? (option : OptionPair) :
    Option (Str × Option Str) :=
  match option.key with
  | .passive keyword => some (keyword.word.text, option.value)
  | _ => none

/-- The value a content has for a modifier, if it was given. -/
def ContentSpec.modifier? (content : ContentSpec) :
    ContentModifier → Option ModifierValue
  | .nocase => if content.nocase then some .flag else none
  | .offset => content.offset.map .number
  | .depth => content.depth.map .number
  | .distance => content.distance.map .number
  | .within => content.within.map .number

/-- A content looks for the text of its option, exactly as its modifiers say. -/
structure ContentSpec.Carries
    (content : ContentSpec)
    (group : ContentGroup) : Prop where
  decoded :
    ∃ decoded,
      decodeContent group.value = .ok decoded ∧
        content.raw = decoded.raw ∧ content.pattern = decoded.pattern
  once : (group.modifiers.map Prod.fst).Nodup
  carried :
    ∀ modifier text,
      (modifier, text) ∈ group.modifiers →
      ∃ value,
        modifierValue? modifier text = some value ∧
          content.modifier? modifier = some value
  noOthers :
    ∀ modifier,
      modifier ∉ group.modifiers.map Prod.fst →
      content.modifier? modifier = none

/-- An option that may be given once is set just if it is given. -/
structure GivenOnce
    {Spec : Type}
    (key : Keyword)
    (parseValue : Option Str → Except RuleReason Spec)
    (options : List OptionPair)
    (spec : Option Spec) : Prop where
  atMostOnce : (options.filter fun option => option.key = key).length ≤ 1
  set_iff : spec.isSome ↔ ∃ option ∈ options, option.key = key
  value :
    ∀ option ∈ options,
      option.key = key →
      ∃ parsed, parseValue option.value = .ok parsed ∧ spec = some parsed

/-- A rule carries its options: none is dropped, moved or invented. -/
structure Rule.CarriesOptions
    (rule : Rule)
    (options : List OptionPair) : Prop where
  supported : ∀ option ∈ options, option.key ∈ Keyword.supported
  contents :
    List.Forall₂ ContentSpec.Carries rule.contents (contentGroups options)
  modifiers :
    (contentGroups options).flatMap ContentGroup.modifiers =
      modifiersOf options
  flow : GivenOnce .flow parseFlowValue options rule.flow
  flags : GivenOnce .flags parseFlagsValue options rule.flags
  dsize : GivenOnce .dsize parseDsizeValue options rule.dsize
  passive : rule.passiveOptions = options.filterMap OptionPair.passive?

/-- A content the matcher can search for. -/
structure ContentSpec.Searchable (content : ContentSpec) : Prop where
  pattern : content.pattern ≠ []
  depth : ∀ depth ∈ content.depth, (content.pattern.length : Int) ≤ depth
  within :
    ∀ within ∈ content.within, (content.pattern.length : Int) ≤ within
  notMixed :
    ¬ ((content.offset.isSome ∨ content.depth.isSome) ∧
      (content.distance.isSome ∨ content.within.isSome))

/-- What the engine relies on in a rule. -/
structure Rule.Usable (rule : Rule) : Prop where
  sid : 1 ≤ rule.sid ∧ rule.sid ≤ 2 ^ 32 - 1
  rev : 1 ≤ rule.rev ∧ rule.rev ≤ 2 ^ 32 - 1
  priority : ∃ priority, rule.priority = some priority ∧ 1 ≤ priority
  ports :
    ∀ port ∈ [rule.srcPort, rule.dstPort],
      0 ≤ port.lo ∧ port.lo ≤ port.hi ∧ port.hi ≤ 65535
  addresses :
    ∀ ip ∈ [rule.srcIp, rule.dstIp], ip.network &&& ip.mask = ip.network
  contents : ∀ content ∈ rule.contents, content.Searchable
  flags : rule.flags.isSome → rule.protocol = .tcp ∨ rule.protocol = .ip

/-! ### Grouping the modifiers -/

section Groups

variable (option : OptionPair) (rest : List OptionPair)

/-- A content ends the modifiers of the one before. -/
theorem modifiersBeforeContent_content
    (isContent : option.key = .content) :
    modifiersBeforeContent (option :: rest) = [] := by
  simp [modifiersBeforeContent, modifiersOf, isContent]

/-- Any other option passes on the modifiers after it. -/
theorem modifiersBeforeContent_other
    (notContent : option.key ≠ .content) :
    modifiersBeforeContent (option :: rest) =
      option.modifier?.toList ++ modifiersBeforeContent rest := by
  cases isModifier : option.modifier? <;>
    simp [modifiersBeforeContent, modifiersOf, notContent, isModifier]

end Groups

/-- Every modifier comes before the first content or in one group. -/
theorem modifiersOf_eq (options : List OptionPair) :
    modifiersOf options =
      modifiersBeforeContent options ++
        (contentGroups options).flatMap ContentGroup.modifiers := by
  induction options with
  | nil =>
      rfl
  | cons option rest inductionHypothesis =>
      have first :
          modifiersOf (option :: rest) =
            option.modifier?.toList ++ modifiersOf rest := by
        cases isModifier : option.modifier? <;>
          simp [modifiersOf, isModifier]
      by_cases isContent : option.key = .content
      · have notModifier : option.modifier? = none := by
          simp [OptionPair.modifier?, isContent]
        rw [first, notModifier, inductionHypothesis,
          modifiersBeforeContent_content option rest isContent]
        simp [contentGroups, isContent]
      · rw [first, inductionHypothesis,
          modifiersBeforeContent_other option rest isContent]
        simp [contentGroups, isContent]

/-! ### The loop over the contents -/

/-- Only `nocase` has no number. -/
theorem modifierValue?_kind
    {modifier : ContentModifier}
    {text : Option Str}
    {value : ModifierValue}
    (read : modifierValue? modifier text = some value) :
    (modifier = .nocase ∧ value = .flag) ∨
      (modifier ≠ .nocase ∧ ∃ number, value = .number number) := by
  cases modifier <;> cases text <;>
    simp only [modifierValue?, reduceCtorEq, Option.some.injEq] at read
  case nocase.none =>
    exact Or.inl ⟨rfl, read.symm⟩
  case distance.some text =>
    refine Or.inr ⟨by decide, ?_⟩
    split at read
    · obtain ⟨number, _, rfl⟩ := Option.map_eq_some_iff.mp read
      exact ⟨_, rfl⟩
    · obtain ⟨number, _, rfl⟩ := Option.map_eq_some_iff.mp read
      exact ⟨_, rfl⟩
  all_goals
    obtain ⟨number, _, rfl⟩ := Option.map_eq_some_iff.mp read
    exact Or.inr ⟨by decide, _, rfl⟩

/-- Setting a modifier sets that one and leaves the others. -/
theorem modifier?_setModifier
    {modifier : ContentModifier}
    {text : Option Str}
    {value : ModifierValue}
    (read : modifierValue? modifier text = some value)
    (content : ContentSpec)
    (other : ContentModifier) :
    (content.setModifier modifier value).modifier? other =
      if other = modifier then some value
      else content.modifier? other := by
  rcases modifierValue?_kind read with ⟨rfl, rfl⟩ | ⟨notFlag, number, rfl⟩
  · cases other <;> rfl
  · cases modifier <;> cases other <;> first | rfl | simp at notFlag

/-- Setting a modifier leaves the text of a content. -/
theorem text_setModifier
    (content : ContentSpec)
    (modifier : ContentModifier)
    (value : ModifierValue) :
    (content.setModifier modifier value).raw = content.raw ∧
      (content.setModifier modifier value).pattern = content.pattern := by
  cases modifier <;> cases value <;> exact ⟨rfl, rfl⟩

/-- A content is finished from an open one by the modifiers still to come. -/
structure OpenContent.Finishes
    (current : OpenContent)
    (modifiers : List (ContentModifier × Option Str))
    (content : ContentSpec) : Prop where
  raw : content.raw = current.content.raw
  pattern : content.pattern = current.content.pattern
  once : (modifiers.map Prod.fst).Nodup
  unseen : ∀ modifier ∈ modifiers.map Prod.fst, modifier ∉ current.seen
  carried :
    ∀ modifier text,
      (modifier, text) ∈ modifiers →
      ∃ value,
        modifierValue? modifier text = some value ∧
          content.modifier? modifier = some value
  others :
    ∀ modifier,
      modifier ∉ modifiers.map Prod.fst →
      content.modifier? modifier = current.content.modifier? modifier

/-- Without further modifiers the open content is finished. -/
theorem OpenContent.finishes_nil (current : OpenContent) :
    current.Finishes [] current.content := by
  constructor <;> simp

/-- One modifier more before the others. -/
theorem OpenContent.Finishes.cons
    {current : OpenContent}
    {modifier : ContentModifier}
    {text : Option Str}
    {value : ModifierValue}
    {modifiers : List (ContentModifier × Option Str)}
    {content : ContentSpec}
    (unseen : modifier ∉ current.seen)
    (read : modifierValue? modifier text = some value)
    (finishes :
      OpenContent.Finishes
        { content := current.content.setModifier modifier value
          seen := current.seen ++ [modifier] }
        modifiers content) :
    current.Finishes ((modifier, text) :: modifiers) content := by
  have sameText := text_setModifier current.content modifier value
  have notAgain : modifier ∉ modifiers.map Prod.fst := by
    intro again
    exact finishes.unseen modifier again (by simp)
  have isSet : content.modifier? modifier = some value := by
    rw [finishes.others modifier notAgain, modifier?_setModifier read,
      if_pos rfl]
  constructor
  case raw =>
    exact finishes.raw.trans sameText.1
  case pattern =>
    exact finishes.pattern.trans sameText.2
  case once =>
    exact List.nodup_cons.mpr ⟨notAgain, finishes.once⟩
  case unseen =>
    intro other member
    rcases List.mem_cons.mp member with rfl | later
    · exact unseen
    · intro seen
      exact finishes.unseen other later (List.mem_append_left _ seen)
  case carried =>
    intro other otherText member
    rcases List.mem_cons.mp member with same | later
    · cases same
      exact ⟨value, read, isSet⟩
    · exact finishes.carried other otherText later
  case others =>
    intro other absent
    obtain ⟨different, absentLater⟩ :=
      not_or.mp (mt List.mem_cons.mpr absent)
    rw [finishes.others other absentLater, modifier?_setModifier read,
      if_neg different]

/-- What is finished from a new content carries its group. -/
theorem DecodedContent.carries_of_finishes
    {value : Option Str}
    {decoded : DecodedContent}
    (isDecoded : decodeContent value = .ok decoded)
    {modifiers : List (ContentModifier × Option Str)}
    {content : ContentSpec}
    (finishes : decoded.open.Finishes modifiers content) :
    content.Carries ⟨value, modifiers⟩ where
  decoded := ⟨decoded, isDecoded, finishes.raw, finishes.pattern⟩
  once := finishes.once
  carried := finishes.carried
  noOthers := by
    intro modifier absent
    rw [finishes.others modifier absent]
    cases modifier <;> rfl

/-- What the loop over the contents does with one option. -/
inductive ContentsStep
    (state : ContentsState)
    (option : OptionPair) :
    ContentsState → Prop where
  | opened
      (isContent : option.key = .content)
      (decoded : DecodedContent)
      (isDecoded : decodeContent option.value = .ok decoded) :
      ContentsStep state option
        { state with
          contents := state.close
          current := some decoded.open }
  | negated
      (isContent : option.key = .content)
      (decoded : DecodedContent) :
      ContentsStep state option {
        contents := state.close
        current := some decoded.open
        unsupported := state.unsupported.or (some .contentNegation) }
  | modified
      (modifier : ContentModifier)
      (isModifier : option.key = .modifier modifier)
      (current : OpenContent)
      (isCurrent : state.current = some current)
      (unseen : modifier ∉ current.seen)
      (value : ModifierValue)
      (read : modifierValue? modifier option.value = some value) :
      ContentsStep state option
        { state with
          current := some {
            content := current.content.setModifier modifier value
            seen := current.seen ++ [modifier] } }
  | passed
      (notContent : option.key ≠ .content)
      (notModifier : option.modifier? = none) :
      ContentsStep state option state

/-- The loop body takes one of these steps, unless it raises. -/
theorem contentsStep_of_contentsOption
    {state next : ContentsState}
    {option : OptionPair}
    (stepped : contentsOption state option = .ok next) :
    ContentsStep state option next := by
  obtain ⟨key, value⟩ := option
  cases key with
  | content =>
      simp only [contentsOption] at stepped
      split at stepped
      · rename_i decoded isDecoded
        cases stepped
        exact .opened rfl decoded isDecoded
      · split at stepped
        · rename_i negated
          split at stepped
          · rename_i decoded _
            cases stepped
            rw [negated]
            exact .negated rfl decoded
          · cases stepped
        · cases stepped
  | modifier modifier =>
      simp only [contentsOption] at stepped
      split at stepped
      · cases stepped
      · rename_i current isCurrent
        split at stepped
        · cases stepped
        · rename_i unseen
          split at stepped
          · cases stepped
          · rename_i number read
            cases stepped
            exact .modified modifier rfl current isCurrent unseen number
              read
  | _ =>
      cases stepped
      exact .passed (by simp) rfl

/-- A negated content is remembered to the end. -/
theorem unsupported_of_foldlM
    {state final : ContentsState}
    {options : List OptionPair}
    (read : options.foldlM contentsOption state = .ok final)
    (supported : final.unsupported = none) :
    state.unsupported = none := by
  induction options generalizing state with
  | nil =>
      cases read
      exact supported
  | cons option rest inductionHypothesis =>
      rw [List.foldlM_cons] at read
      obtain ⟨next, stepped, readRest⟩ := exists_of_bind_ok read
      have later : next.unsupported = none := inductionHypothesis readRest
      cases contentsStep_of_contentsOption stepped with
      | negated isContent decoded =>
          exact (Option.or_eq_none_iff.mp later).1
      | _ =>
          exact later

/-- An open content is finished as it is before a content or at the end. -/
theorem finishes_current (current : Option OpenContent) :
    List.Forall₂
      (fun current content => OpenContent.Finishes current [] content)
      current.toList (current.map OpenContent.content).toList := by
  cases current with
  | none =>
      exact .nil
  | some current =>
      exact .cons current.finishes_nil .nil

/--
The loop adds to the closed contents what the open one is finished to, and one
content for each group of the options still to come.
-/
theorem foldlM_contentsOption
    {state final : ContentsState}
    {options : List OptionPair}
    (read : options.foldlM contentsOption state = .ok final)
    (supported : final.unsupported = none) :
    ∃ finished later,
      final.close = state.contents ++ finished ++ later ∧
        List.Forall₂
          (fun current content =>
            OpenContent.Finishes current (modifiersBeforeContent options)
              content)
          state.current.toList finished ∧
        (state.current = none → modifiersBeforeContent options = []) ∧
        List.Forall₂ ContentSpec.Carries later (contentGroups options) := by
  induction options generalizing state with
  | nil =>
      cases read
      refine ⟨_, [], ?_, finishes_current final.current, fun _ => rfl,
        .nil⟩
      rw [List.append_nil]
      rfl
  | cons option rest inductionHypothesis =>
      rw [List.foldlM_cons] at read
      obtain ⟨next, stepped, readRest⟩ := exists_of_bind_ok read
      obtain ⟨finished, later, isClose, finishes, noneOpen, carries⟩ :=
        inductionHypothesis readRest
      have isSupported : next.unsupported = none :=
        unsupported_of_foldlM readRest supported
      cases contentsStep_of_contentsOption stepped with
      | opened isContent decoded isDecoded =>
          obtain ⟨content, _, finishesNew, isNil, rfl⟩ :=
            List.forall₂_cons_left_iff.mp finishes
          cases isNil
          have ends :=
            modifiersBeforeContent_content option rest isContent
          have groups :
              contentGroups (option :: rest) =
                ⟨option.value, modifiersBeforeContent rest⟩ ::
                  contentGroups rest :=
            if_pos isContent
          refine ⟨_, content :: later, ?_,
            ends ▸ finishes_current state.current, fun _ => ends, ?_⟩
          · rw [isClose]
            simp [ContentsState.close]
          · rw [groups]
            exact .cons
              (DecodedContent.carries_of_finishes isDecoded
                finishesNew)
              carries
      | negated isContent decoded =>
          simp at isSupported
      | modified modifier isModifier current isCurrent unseen value
          isValue =>
          have notContent : option.key ≠ .content := by
            rw [isModifier]
            simp
          have before :
              modifiersBeforeContent (option :: rest) =
                (modifier, option.value) ::
                  modifiersBeforeContent rest := by
            rw [modifiersBeforeContent_other option rest notContent]
            simp [OptionPair.modifier?, isModifier]
          have groups :
              contentGroups (option :: rest) = contentGroups rest :=
            if_neg notContent
          obtain ⟨content, _, finishesNext, isNil, rfl⟩ :=
            List.forall₂_cons_left_iff.mp finishes
          refine ⟨[content], later, ?_, ?_, ?_, groups ▸ carries⟩
          · cases isNil
            exact isClose
          · rw [isCurrent, before]
            exact .cons (finishesNext.cons unseen isValue) .nil
          · simp [isCurrent]
      | passed notContent notModifier =>
          have before :
              modifiersBeforeContent (option :: rest) =
                modifiersBeforeContent rest := by
            rw [modifiersBeforeContent_other option rest notContent,
              notModifier]
            rfl
          have groups :
              contentGroups (option :: rest) = contentGroups rest :=
            if_neg notContent
          rw [before, groups]
          exact ⟨finished, later, isClose, finishes, noneOpen, carries⟩

/-- The contents of a rule carry the groups, and every modifier is in one. -/
theorem carries_of_parseContentsFull
    {options : List OptionPair}
    {contents : List ContentSpec}
    (read : parseContentsFull options = .ok (contents, none)) :
    List.Forall₂ ContentSpec.Carries contents (contentGroups options) ∧
      modifiersBeforeContent options = [] := by
  simp only [parseContentsFull] at read
  obtain ⟨final, looped, same⟩ := exists_of_map_ok read
  obtain ⟨isContents, supported⟩ := Prod.mk.inj same
  obtain ⟨finished, later, isClose, finishes, noneOpen, carries⟩ :=
    foldlM_contentsOption looped supported
  cases finishes
  rw [← isContents, isClose]
  exact ⟨carries, noneOpen rfl⟩

/-! ### The other options -/

/-- An option parsed by itself is set just if it is given. -/
theorem givenOnce_of_parseSingle
    {Spec : Type}
    {key : Keyword}
    {parseValue : Option Str → Except RuleReason Spec}
    {options : List OptionPair}
    {spec : Option Spec}
    (read : parseSingle key parseValue options = .ok spec) :
    GivenOnce key parseValue options spec := by
  have given :
      ∀ option,
        option ∈ options.filter (fun option => option.key = key) ↔
          option ∈ options ∧ option.key = key := by
    simp
  simp only [parseSingle, singleOption] at read
  cases filtered : options.filter fun option => option.key = key with
  | nil =>
      rw [filtered] at read given
      cases read
      have absent : ∀ option ∈ options, option.key ≠ key :=
        fun option member same =>
          List.not_mem_nil ((given option).mpr ⟨member, same⟩)
      refine ⟨by simp [filtered], ?_, fun option member same => ?_⟩
      · simpa using absent
      · exact absurd same (absent option member)
  | cons only others =>
      cases others with
      | cons second others =>
          rw [filtered] at read
          cases read
      | nil =>
          rw [filtered] at read given
          cases parsed : parseValue only.value with
          | error reason =>
              simp only [parsed] at read
              cases read
          | ok value =>
              simp only [parsed] at read
              cases read
              have isGiven :=
                (given only).mp (List.mem_singleton_self only)
              refine ⟨by simp [filtered], ?_, fun option member same => ?_⟩
              · simpa using ⟨only, isGiven⟩
              · have isOnly : option = only :=
                  List.mem_singleton.mp
                    ((given option).mpr ⟨member, same⟩)
                rw [isOnly]
                exact ⟨value, parsed, rfl⟩

/-- Numbers of options are in range. -/
theorem positiveInt?_bounds
    {text : Option Str}
    {number : Nat}
    (read : positiveInt? text = some number) :
    1 ≤ number ∧ number ≤ maxOptionInt := by
  cases text with
  | none =>
      cases read
  | some text =>
      simp only [positiveInt?, nonNegativeInt?] at read
      obtain ⟨inner, positive⟩ := Option.filter_eq_some_iff.mp read
      split at inner
      · have bounded := (Option.filter_eq_some_iff.mp inner).2
        exact ⟨of_decide_eq_true positive, of_decide_eq_true bounded⟩
      · cases inner

/-- What the loop over the identification options has stored. -/
structure IdentState.Stores
    (state : IdentState)
    (earlier : List OptionPair) : Prop where
  sid : ∀ sid ∈ state.sid, 1 ≤ sid ∧ sid ≤ maxOptionInt
  rev : 1 ≤ state.rev ∧ state.rev ≤ maxOptionInt
  passive : state.passive = earlier.filterMap OptionPair.passive?

/-- One identification option stores a number in range. -/
theorem IdentState.Stores.identValue
    {state next : IdentState}
    {earlier : List OptionPair}
    (stores : state.Stores earlier)
    {keyword : IdentKeyword}
    {value : Option Str}
    (stepped : identValue state keyword value = .ok next) :
    next.Stores earlier := by
  cases keyword <;> simp only [IntrusionDetection.identValue] at stepped
  case sid =>
    split at stepped
    · cases stepped
    · rename_i sid read
      cases stepped
      refine { stores with sid := ?_ }
      rintro _ ⟨⟩
      exact positiveInt?_bounds read
  case rev =>
    split at stepped
    · cases stepped
    · rename_i rev read
      cases stepped
      exact { stores with rev := positiveInt?_bounds read }
  all_goals
    split at stepped
    · cases stepped
    · cases stepped
      exact ⟨stores.sid, stores.rev, stores.passive⟩

/-- The loop stores every option that is only stored, in order. -/
theorem IdentState.Stores.snoc
    {state next : IdentState}
    {earlier : List OptionPair}
    {option : OptionPair}
    (stores : state.Stores earlier)
    (stepped : identOption state option = .ok next) :
    next.Stores (earlier ++ [option]) := by
  obtain ⟨key, value⟩ := option
  have skipped :
      ∀ {kept : IdentState},
        (⟨key, value⟩ : OptionPair).passive? = none →
        kept.Stores earlier →
        kept.Stores (earlier ++ [⟨key, value⟩]) := by
    intro kept notPassive before
    refine ⟨before.sid, before.rev, ?_⟩
    simp [before.passive, notPassive]
  cases key with
  | passive keyword =>
      cases stepped
      refine ⟨stores.sid, stores.rev, ?_⟩
      simp [stores.passive, OptionPair.passive?]
  | identification keyword =>
      simp only [identOption] at stepped
      split at stepped
      · cases stepped
      · have marked :
            IdentState.Stores
              { state with seen := state.seen ++ [keyword] } earlier :=
          ⟨stores.sid, stores.rev, stores.passive⟩
        exact skipped rfl (marked.identValue stepped)
  | _ =>
      cases stepped
      exact skipped rfl stores

/-- What the identification of a rule is. -/
theorem stores_of_parseIdentification
    {options : List OptionPair}
    {defaultPriority : Int}
    {identification : Identification}
    (read :
      parseIdentification options defaultPriority = .ok identification) :
    (1 ≤ identification.sid ∧ identification.sid ≤ maxOptionInt) ∧
      (1 ≤ identification.rev ∧ identification.rev ≤ maxOptionInt) ∧
      identification.passiveOptions =
        options.filterMap OptionPair.passive? := by
  simp only [parseIdentification] at read
  generalize isStart : IdentState.mk _ _ _ _ _ _ _ = start at read
  have initially : start.Stores [] := by
    subst isStart
    have defaultRev : 1 ≤ 1 ∧ 1 ≤ maxOptionInt := by decide
    exact ⟨by simp, defaultRev, rfl⟩
  obtain ⟨final, looped, ends⟩ := exists_of_bind_ok read
  have stores : final.Stores options :=
    history_of_foldlM
      (fun _ _ _ _ before stepped => before.snoc stepped)
      initially looped
  simp only [identEnd] at ends
  split at ends
  · cases ends
  · cases ends
  · rename_i sid msg isSid isMsg
    cases ends
    exact ⟨stores.sid sid isSid, stores.rev, stores.passive⟩

/-! ### The header and the checks across options -/

/-- Host bits of a parsed address are clear. -/
theorem network_and_mask
    {token : Str}
    {ip : IpSpec}
    (read : parseIp token = .ok ip) :
    ip.network &&& ip.mask = ip.network := by
  simp only [parseIp] at read
  split at read
  · cases read
    rfl
  · split at read
    · cases read
    · split at read
      · cases read
        simp [BitVec.and_assoc]
      · cases read

/-- Only the word `udp` is read as UDP. -/
theorem token_of_udp
    {token : Str}
    (read : parseProtocol token = .ok .udp) :
    token = lit "udp" := by
  simp only [parseProtocol] at read
  split at read
  · cases read
  · split at read
    · assumption
    · split at read
      · cases read
      · split at read <;> cases read

/-- A content that passes the cross-option checks can be searched for. -/
theorem searchable_of_validateContent
    {content : ContentSpec}
    (valid : validateContent content = .ok ()) :
    content.Searchable := by
  simp only [validateContent] at valid
  split at valid
  · cases valid
  · rename_i deepEnough
    split at valid
    · cases valid
    · rename_i wideEnough
      split at valid
      · cases valid
      · rename_i notMixed
        refine ⟨content.patternNotEmpty, ?_, ?_, by simpa using notMixed⟩
        · intro depth isDepth
          rw [Option.mem_def.mp isDepth] at deepEnough
          simpa using deepEnough
        · intro within isWithin
          rw [Option.mem_def.mp isWithin] at wideEnough
          simpa using wideEnough

/-- Every content that passes the checks can be searched for. -/
theorem searchable_of_validateContents
    {contents : List ContentSpec}
    (valid : validateContents contents = .ok ()) :
    ∀ content ∈ contents, content.Searchable := by
  induction contents with
  | nil =>
      simp
  | cons content rest inductionHypothesis =>
      simp only [validateContents, List.forM_eq_forM, List.forM_cons]
        at valid
      obtain ⟨_, checked, validRest⟩ := exists_of_bind_ok valid
      rw [List.forall_mem_cons]
      exact ⟨searchable_of_validateContent checked,
        inductionHypothesis validRest⟩

/-! ### The whole line -/

/-- Every part of a rule is what its own parser makes of the line. -/
structure RuleParts.ParsedFrom
    (parts : RuleParts)
    (tokens : HeaderTokens)
    (options : List OptionPair)
    (defaultPriority : Int) : Prop where
  header :
    ∃ header,
      parseHeader tokens = .ok header ∧ parts.header = some header
  identification :
    parseIdentification options defaultPriority =
      .ok parts.identification
  contents : parseContentsFull options = .ok (parts.contents, none)
  flow : parseFlow options = .ok parts.flow
  flags : parseFlags options = .ok parts.flags
  dsize : parseDsize options = .ok parts.dsize
  searchable : validateContents parts.contents = .ok ()
  flagsProtocol :
    validateFlagsProtocol tokens.protocol
      (options.any fun option => option.key = .flags) = .ok ()
  keywords : unsupportedKeyword options = none

open Checker in
/-- Checks that find nothing are the parsers of the parts. -/
theorem parsedFrom_of_checkParts
    {tokens : HeaderTokens}
    {options : List OptionPair}
    {defaultPriority : Int}
    {parts : RuleParts}
    (checked :
      RuleChecker.checkParts tokens options defaultPriority [] =
        .ok (parts, [])) :
    parts.ParsedFrom tokens options defaultPriority := by
  have contents :
      Clears (RuleChecker.checkContents options)
        fun contents =>
          ∃ parsed,
            parseContentsFull options = .ok parsed ∧
              ∃ _ : Unit, parsed.2 = none ∧ contents = parsed.1 :=
    (clears_attempt _ _ _).andThen fun parsed =>
      (clears_note _).andThen fun _ => clears_pure _
  have clears :=
    (clears_attempt RuleReason.isInvalid none
        ((parseHeader tokens).map some)).andThen fun header =>
      (clears_demand (parseIdentification options defaultPriority)).andThen
        fun identification =>
      contents.andThen fun contents =>
      (clears_attempt RuleReason.isInvalid none
          (parseFlow options)).andThen fun flow =>
      (clears_attempt RuleReason.isInvalid none
          (parseFlags options)).andThen fun flags =>
      (clears_attempt RuleReason.isInvalid none
          (parseDsize options)).andThen fun dsize =>
      (clears_demand (validateContents contents)).andThen fun _ =>
      (clears_demand (validateFlagsProtocol tokens.protocol
          (options.any fun option => option.key = .flags))).andThen
        fun _ =>
      (clears_note (unsupportedKeyword options)).andThen fun _ =>
      clears_pure
        (RuleParts.mk header identification contents flow flags dsize)
  obtain ⟨_, yields⟩ := clears [] parts [] checked
  obtain ⟨header, isHeader, identification, isIdentification, contents,
    ⟨⟨parsed, unsupported⟩, isParsed, _, rfl, rfl⟩, flow, isFlow, flags,
    isFlags, dsize, isDsize, _, searchable, _, flagsProtocol, _, keywords,
    rfl⟩ := yields rfl
  refine ⟨?_, isIdentification, isParsed, isFlow, isFlags, isDsize,
    searchable, flagsProtocol, keywords⟩
  obtain ⟨made, read, rfl⟩ := exists_of_map_ok isHeader
  exact ⟨made, read, rfl⟩

/-- A valid line was tokenized, and its parts parsed without a fault. -/
theorem exists_of_valid
    {cfg : ParserCfg}
    {text sourceFile : Str}
    {lineNo : Nat}
    {rule : Rule}
    {sid : Option Int}
    (valid : parseRule cfg text sourceFile lineNo = .valid rule sid) :
    ∃ tokens options parts header,
      tokenizeRule text = .ok (tokens, options) ∧
        parts.ParsedFrom tokens options cfg.priority ∧
        parseHeader tokens = .ok header ∧
        Rule.create header parts text sourceFile lineNo = .ok rule := by
  simp only [parseRule] at valid
  cases parsed : parseRuleUnguarded cfg text sourceFile lineNo with
  | error exception =>
      rw [parsed] at valid
      cases valid
  | ok result =>
      rw [parsed] at valid
      cases valid
      simp only [parseRuleUnguarded] at parsed
      cases tokenized : tokenizeRule text with
      | error reason =>
          rw [tokenized] at parsed
          cases parsed
      | ok tokensOptions =>
          obtain ⟨tokens, options⟩ := tokensOptions
          simp only [tokenized] at parsed
          cases checked :
              RuleChecker.checkParts tokens options cfg.priority [] with
          | error reason =>
              rw [checked] at parsed
              cases parsed
          | ok outcome =>
              obtain ⟨parts, remembered⟩ := outcome
              rw [checked] at parsed
              cases remembered with
              | cons reason others =>
                  cases parsed
              | nil =>
                  have parsedFrom := parsedFrom_of_checkParts checked
                  obtain ⟨header, isHeader, hasHeader⟩ :=
                    parsedFrom.header
                  simp only [hasHeader] at parsed
                  obtain ⟨made, created, same⟩ :=
                    exists_of_map_ok parsed
                  cases same
                  exact ⟨tokens, options, parts, header, rfl, parsedFrom,
                    isHeader, created⟩

/-- Keywords outside the subset are reported. -/
theorem supported_of_unsupportedKeyword
    {options : List OptionPair}
    (noneUnsupported : unsupportedKeyword options = none) :
    ∀ option ∈ options, option.key ∈ Keyword.supported := by
  intro option member
  have notOther : keywordFault option = none := by
    have empty := List.head?_eq_none_iff.mp noneUnsupported
    exact List.filterMap_eq_nil_iff.mp empty option member
  obtain ⟨key, value⟩ := option
  cases key with
  | identification keyword =>
      cases keyword <;> simp [Keyword.supported]
  | passive keyword =>
      cases keyword <;> simp [Keyword.supported]
  | modifier modifier =>
      cases modifier <;> simp [Keyword.supported]
  | other key =>
      cases notOther
  | _ =>
      simp [Keyword.supported]

/-- The fields of a header are what their own parsers make of the tokens. -/
theorem fields_of_parseHeader
    {tokens : HeaderTokens}
    {header : Header}
    (read : parseHeader tokens = .ok header) :
    parseProtocol tokens.protocol = .ok header.protocol ∧
      parseIp tokens.srcIp = .ok header.srcIp ∧
      parseIp tokens.dstIp = .ok header.dstIp := by
  obtain ⟨_, _, read⟩ := exists_of_bind_ok read
  obtain ⟨protocol, isProtocol, read⟩ := exists_of_bind_ok read
  obtain ⟨srcIp, isSrcIp, read⟩ := exists_of_bind_ok read
  obtain ⟨srcPort, _, read⟩ := exists_of_bind_ok read
  obtain ⟨direction, _, read⟩ := exists_of_bind_ok read
  obtain ⟨dstIp, isDstIp, read⟩ := exists_of_bind_ok read
  obtain ⟨dstPort, _, read⟩ := exists_of_bind_ok read
  cases read
  exact ⟨isProtocol, isSrcIp, isDstIp⟩

section Created

variable {header : Header} {parts : RuleParts} {rule : Rule}
variable {tokens : HeaderTokens} {options : List OptionPair}
variable {defaultPriority : Int}
variable {text sourceFile : Str} {lineNo : Nat}

/-- A rule created from parsed parts carries the options. -/
theorem carriesOptions_of_create
    (parsed : parts.ParsedFrom tokens options defaultPriority)
    (created :
      Rule.create header parts text sourceFile lineNo = .ok rule) :
    rule.CarriesOptions options := by
  simp only [Rule.create] at created
  split at created
  · cases created
    obtain ⟨contents, noneBefore⟩ :=
      carries_of_parseContentsFull parsed.contents
    obtain ⟨_, _, passive⟩ :=
      stores_of_parseIdentification parsed.identification
    constructor
    case supported =>
      exact supported_of_unsupportedKeyword parsed.keywords
    case contents =>
      exact contents
    case modifiers =>
      rw [modifiersOf_eq options, noneBefore, List.nil_append]
    case flow =>
      exact givenOnce_of_parseSingle parsed.flow
    case flags =>
      exact givenOnce_of_parseSingle parsed.flags
    case dsize =>
      exact givenOnce_of_parseSingle parsed.dsize
    case passive =>
      exact passive
  · cases created

/-- A rule created from parsed parts is one the engine can use. -/
theorem usable_of_create
    (parsed : parts.ParsedFrom tokens options defaultPriority)
    (isHeader : parseHeader tokens = .ok header)
    (created :
      Rule.create header parts text sourceFile lineNo = .ok rule) :
    rule.Usable := by
  simp only [Rule.create] at created
  split at created
  · rename_i positive
    cases created
    obtain ⟨sid, rev, _⟩ :=
      stores_of_parseIdentification parsed.identification
    obtain ⟨isProtocol, isSrcIp, isDstIp⟩ := fields_of_parseHeader isHeader
    simp only [maxOptionInt] at sid rev
    constructor
    case sid =>
      dsimp only
      omega
    case rev =>
      dsimp only
      omega
    case priority =>
      exact ⟨_, rfl, positive⟩
    case ports =>
      intro port _
      exact port.inRange
    case addresses =>
      intro ip member
      rcases List.mem_pair.mp member with rfl | rfl
      · exact network_and_mask isSrcIp
      · exact network_and_mask isDstIp
    case contents =>
      exact searchable_of_validateContents parsed.searchable
    case flags =>
      intro hasFlags
      have given :
          options.any (fun option => option.key = .flags) = true := by
        have once := givenOnce_of_parseSingle parsed.flags
        simpa using once.set_iff.mp hasFlags
      have notUdp : header.protocol ≠ .udp := by
        intro isUdp
        have token := token_of_udp (isUdp ▸ isProtocol)
        have refused := parsed.flagsProtocol
        rw [validateFlagsProtocol, given, token] at refused
        simp at refused
      cases protocol : header.protocol with
      | tcp => exact Or.inl rfl
      | udp => exact absurd protocol notUdp
      | ip => exact Or.inr rfl
  · cases created

end Created

/--
A rule line that is accepted: every option of the line is supported and is in
the rule where it belongs, with the modifiers at their own contents, and the
rule is one the engine can use.
-/
theorem valid_rule_carries_options
    (cfg : ParserCfg)
    (text sourceFile : Str)
    (lineNo : Nat)
    (rule : Rule)
    (sid : Option Int)
    (valid : parseRule cfg text sourceFile lineNo = .valid rule sid) :
    ∃ tokens options,
      tokenizeRule text = .ok (tokens, options) ∧
        rule.CarriesOptions options ∧ rule.Usable := by
  obtain ⟨tokens, options, parts, header, tokenized, parsed, isHeader,
    created⟩ := exists_of_valid valid
  exact ⟨tokens, options, tokenized, carriesOptions_of_create parsed created,
    usable_of_create parsed isHeader created⟩

/-- Two contents, with an option of another parser among their modifiers. -/
def interleavedLine : Str :=
  lit "alert tcp any any -> 10.0.0.0/8 80 (msg:\"m\"; content:\"GET\"; " ++
    lit "offset:1; gid:7; depth:9; content:\"|2f|\"; flow:established; " ++
    lit "distance:-2; flags:PA; sid:5; reference:url,x;)"

/-- The rule of that line carries its options. -/
theorem interleavedLine_carries_options :
    ∃ rule sid,
      parseRule { defaultPriority := none } interleavedLine [] 1 =
          .valid rule sid ∧
        ∃ tokens options,
          tokenizeRule interleavedLine = .ok (tokens, options) ∧
            rule.CarriesOptions options ∧ rule.Usable := by
  have accepted :
      (parseRule { defaultPriority := none } interleavedLine []
        1).rule?.isSome = true := by
    decide +kernel
  cases parsed :
      parseRule { defaultPriority := none } interleavedLine [] 1 with
  | rejected reason sid =>
      rw [parsed] at accepted
      cases accepted
  | valid rule sid =>
      exact ⟨rule, sid, rfl,
        valid_rule_carries_options _ _ _ _ rule sid parsed⟩

example :
    ((parseRule { defaultPriority := none } interleavedLine [] 1).rule?.map
        fun rule => rule.contents.map fun content =>
          (content.offset, content.depth, content.distance)) =
      some [(some 1, some 9, none), (none, none, some (-2))] := by
  decide +kernel

end IntrusionDetection
