import IntrusionDetection.WrittenValues

namespace IntrusionDetection

open PyText FaultPrecedence

/-!
# Rules that can be written

The parser reads a rule back from the line that its fields spell: every option
is found by the parser that owns it, and the parsers of the others pass over
it.
-/

/-! ### The line of a rule -/

namespace ContentSpec

/-- The option of a modifier, if it is given. -/
def modifierOption? (content : ContentSpec) (modifier : ContentModifier) :
    Option OptionPair :=
  (content.modifier? modifier).map fun value =>
    ⟨.modifier modifier, value.text?⟩

/-- A content option with its modifiers. -/
def options (content : ContentSpec) : List OptionPair :=
  ⟨.content, some (quoted content.raw)⟩ ::
    ContentModifier.all.filterMap content.modifierOption?

end ContentSpec

/-- The keyword of an option that is only stored. -/
def PassiveKeyword.of? (name : Str) : Option PassiveKeyword :=
  [PassiveKeyword.reference, .metadata, .gid].find? fun keyword =>
    keyword.word.text = name

/-- The option that is stored under a name. -/
def passiveOption? (stored : Str × Option Str) : Option OptionPair :=
  (PassiveKeyword.of? stored.1).map fun keyword =>
    ⟨.passive keyword, stored.2⟩

namespace Rule

/-- The header of a rule. -/
def headerTokens (rule : Rule) : HeaderTokens where
  action := lit "alert"
  protocol := rule.protocol.name
  srcIp := rule.srcIp.text
  srcPort := rule.srcPort.text
  direction := rule.direction.text
  dstIp := rule.dstIp.text
  dstPort := rule.dstPort.text

/-- The priority that is written, if it is not the default one. -/
def givenPriority (cfg : ParserCfg) (rule : Rule) : Option Int :=
  rule.priority.filter (· ≠ cfg.priority)

/-- The identification options of a rule. -/
def identOptions (cfg : ParserCfg) (rule : Rule) : List OptionPair :=
  [⟨.identification .msg, some (quote rule.msg)⟩,
    ⟨.identification .sid, some (ofInt rule.sid)⟩,
    ⟨.identification .rev, some (ofInt rule.rev)⟩] ++
  ((rule.classtype.map fun name =>
      ⟨.identification .classtype, some name⟩).toList ++
    ((rule.givenPriority cfg).map fun priority =>
      ⟨.identification .priority, some (ofInt priority)⟩).toList)

/-- The options of a rule that have a parser of their own. -/
def singleOptions (rule : Rule) : List OptionPair :=
  (rule.flow.map fun flow => ⟨.flow, some flow.text⟩).toList ++
    ((rule.flags.map fun flags => ⟨.flags, some flags.text⟩).toList ++
      (rule.dsize.map fun dsize => ⟨.dsize, some dsize.text⟩).toList)

/-- The options of a rule, each parser's together. -/
def options (cfg : ParserCfg) (rule : Rule) : List OptionPair :=
  rule.identOptions cfg ++
    (rule.passiveOptions.filterMap passiveOption? ++
      (rule.contents.flatMap ContentSpec.options ++ rule.singleOptions))

/-- The line that spells a rule. -/
def text (cfg : ParserCfg) (rule : Rule) : Str :=
  lineOf rule.headerTokens (rule.options cfg)

/-- What a line can ask for, with this default priority. -/
structure Writable (cfg : ParserCfg) (rule : Rule) : Prop where
  srcIp : rule.srcIp.Writable
  dstIp : rule.dstIp.Writable
  sid : 1 ≤ rule.sid ∧ rule.sid ≤ maxOptionInt
  rev : 1 ≤ rule.rev ∧ rule.rev ≤ maxOptionInt
  classtype :
    ∀ name ∈ rule.classtype,
      name ≠ [] ∧ ∀ char ∈ name, isClasstypeChar char = true
  priority :
    ∃ priority,
      rule.priority = some priority ∧
        (priority = cfg.priority ∨ priority ≤ maxOptionInt)
  contents : ∀ content ∈ rule.contents, content.Writable
  flow : ∀ flow ∈ rule.flow, flow.Writable
  flags : rule.flags.isSome → rule.protocol ≠ .udp
  dsize : ∀ dsize ∈ rule.dsize, dsize.Writable
  passive :
    ∀ stored ∈ rule.passiveOptions,
      (PassiveKeyword.of? stored.1).isSome ∧
        ∀ value ∈ stored.2, IsValue value

end Rule

/-! ### The header -/

/-- A direction is a word of a header and read back. -/
theorem parseDirection_text (direction : RuleDirection) :
    IsHeaderWord direction.text ∧
      parseDirection direction.text = .ok direction := by
  cases direction <;> exact ⟨by decide, by decide⟩

/-- A protocol is a word of a header and read back. -/
theorem parseProtocol_name (protocol : RuleProtocol) :
    IsHeaderWord protocol.name ∧
      parseProtocol protocol.name = .ok protocol := by
  cases protocol <;> exact ⟨by decide, by decide⟩

namespace Rule

/-- The fields of a header are words. -/
theorem isHeaderWord_headerTokens (rule : Rule) :
    ∀ word ∈ rule.headerTokens.list, IsHeaderWord word := by
  simp only [HeaderTokens.list, headerTokens, List.forall_mem_cons]
  refine ⟨by decide, (parseProtocol_name rule.protocol).1,
    rule.srcIp.isHeaderWord_text, rule.srcPort.isHeaderWord_text,
    (parseDirection_text rule.direction).1, rule.dstIp.isHeaderWord_text,
    rule.dstPort.isHeaderWord_text, ?_⟩
  intro word member
  cases member

/-- The header of a rule is read back. -/
theorem parseHeader_headerTokens
    {cfg : ParserCfg}
    {rule : Rule}
    (writable : rule.Writable cfg) :
    parseHeader rule.headerTokens =
      .ok {
        protocol := rule.protocol
        srcIp := rule.srcIp
        srcPort := rule.srcPort
        direction := rule.direction
        dstIp := rule.dstIp
        dstPort := rule.dstPort } := by
  have action : parseAction (lit "alert") = .ok () := by
    decide
  have protocol := (parseProtocol_name rule.protocol).2
  have srcIp := IpSpec.parseIp_text writable.srcIp
  have srcPort := rule.srcPort.parsePort_text
  have direction := (parseDirection_text rule.direction).2
  have dstIp := IpSpec.parseIp_text writable.dstIp
  have dstPort := rule.dstPort.parsePort_text
  have noFaults :
      headerLoop none (fieldFaults rule.headerTokens) = .ok () := by
    simp only [fieldFaults, headerTokens, action, protocol, srcIp, srcPort,
      direction, dstIp, dstPort, errorOf, headerLoop]
  rw [parseHeader, noFaults]
  simp only [headerTokens, protocol, srcIp, srcPort, direction, dstIp,
    dstPort]
  rfl

end Rule

/-! ### Which parser an option belongs to -/

/-- The keywords that the parser of the identification looks at. -/
def Keyword.IsIdentifying : Keyword → Prop
  | .identification _ => True
  | .passive _ => True
  | _ => False

/-- The keywords that the parser of the contents looks at. -/
def Keyword.IsOfContent : Keyword → Prop
  | .content => True
  | .modifier _ => True
  | _ => False

section Owners

variable {option : OptionPair}

/-- A stored option keeps its name. -/
theorem passive?_of_passiveOption?
    {stored : Str × Option Str}
    (isOption : passiveOption? stored = some option) :
    (∃ keyword, option.key = .passive keyword) ∧
      option.value = stored.2 ∧ option.passive? = some stored := by
  obtain ⟨keyword, isKeyword, rfl⟩ := Option.map_eq_some_iff.mp isOption
  have name : keyword.word.text = stored.1 := by
    rw [PassiveKeyword.of?] at isKeyword
    simpa using List.find?_some isKeyword
  refine ⟨⟨keyword, rfl⟩, rfl, ?_⟩
  simp only [OptionPair.passive?, name]

/-- The identification options have identification keywords. -/
theorem identifying_of_mem_identOptions
    {cfg : ParserCfg}
    {rule : Rule}
    (member : option ∈ rule.identOptions cfg) :
    ∃ keyword, option.key = .identification keyword := by
  simp only [Rule.identOptions, List.mem_append, List.mem_cons,
    List.not_mem_nil, or_false, Option.mem_toList,
    Option.map_eq_some_iff] at member
  rcases member with
    (rfl | rfl | rfl) | ⟨_, _, rfl⟩ | ⟨_, _, rfl⟩ <;>
    exact ⟨_, rfl⟩

/-- The options of a content have its keywords. -/
theorem isOfContent_of_mem_options
    {content : ContentSpec}
    (member : option ∈ content.options) :
    option.key.IsOfContent := by
  rcases List.mem_cons.mp member with rfl | isModifier
  · trivial
  · obtain ⟨modifier, _, isOption⟩ := List.mem_filterMap.mp isModifier
    obtain ⟨value, _, rfl⟩ := Option.map_eq_some_iff.mp isOption
    trivial

/-- The other options are of a flow, of flags or of a payload size. -/
theorem key_of_mem_singleOptions
    {rule : Rule}
    (member : option ∈ rule.singleOptions) :
    option.key = .flow ∨ option.key = .flags ∨ option.key = .dsize := by
  simp only [Rule.singleOptions, List.mem_append, Option.mem_toList,
    Option.map_eq_some_iff] at member
  rcases member with ⟨_, _, rfl⟩ | ⟨_, _, rfl⟩ | ⟨_, _, rfl⟩
  · exact Or.inl rfl
  · exact Or.inr (Or.inl rfl)
  · exact Or.inr (Or.inr rfl)

/-- The parser of the identification passes over the other options. -/
theorem identOption_other
    (isOther : ¬ option.key.IsIdentifying)
    (state : IdentState) :
    identOption state option = .ok state := by
  obtain ⟨key, value⟩ := option
  cases key with
  | identification keyword =>
      exact absurd trivial isOther
  | passive keyword =>
      exact absurd trivial isOther
  | _ =>
      rfl

/-- The parser of the contents passes over the other options. -/
theorem contentsOption_other
    (isOther : ¬ option.key.IsOfContent)
    (state : ContentsState) :
    contentsOption state option = .ok state := by
  obtain ⟨key, value⟩ := option
  cases key with
  | content =>
      exact absurd trivial isOther
  | modifier modifier =>
      exact absurd trivial isOther
  | _ =>
      rfl

end Owners

/-! ### Loops that take their steps -/

section Loops

variable {State Item Error : Type}
variable {step : State → Item → Except Error State}
variable {state next : State}

/-- A loop goes on from where its first step ends. -/
theorem foldlM_cons_of_ok
    {item : Item}
    (stepped : step state item = .ok next)
    (rest : List Item) :
    (item :: rest).foldlM step state = rest.foldlM step next := by
  rw [List.foldlM_cons, stepped]
  rfl

/-- A loop goes on from where its first items lead. -/
theorem foldlM_append_of_ok
    {items : List Item}
    (looped : items.foldlM step state = .ok next)
    (rest : List Item) :
    (items ++ rest).foldlM step state = rest.foldlM step next := by
  rw [List.foldlM_append, looped]
  rfl

/-- A loop passes over the items that leave its state. -/
theorem foldlM_unchanged
    {items : List Item}
    (unchanged : ∀ item ∈ items, step state item = .ok state) :
    items.foldlM step state = .ok state := by
  induction items with
  | nil =>
      rfl
  | cons item rest inductionHypothesis =>
      obtain ⟨first, others⟩ := List.forall_mem_cons.mp unchanged
      rw [foldlM_cons_of_ok first]
      exact inductionHypothesis others

end Loops

/-! ### The identification -/

/-- The number of an option is read back. -/
theorem positiveInt?_ofInt
    {number : Int}
    (inRange : 1 ≤ number ∧ number ≤ maxOptionInt) :
    ∃ value : Nat,
      number = value ∧ positiveInt? (some (ofInt number)) = some value ∧
        IsValue (ofInt number) := by
  obtain ⟨value, same, isRead⟩ :=
    nonNegativeInt?_ofInt_of_nonneg (by omega) inRange.2
  have positive : 1 ≤ value := by
    omega
  refine ⟨value, same, ?_, (isBare_ofInt_of_int number).isValue⟩
  rw [positiveInt?, isRead, Option.filter_some,
    if_pos (decide_eq_true positive)]

/-- The stored options are stored in their order. -/
theorem foldlM_passive
    {stored : List (Str × Option Str)}
    (isPassive : ∀ entry ∈ stored, (PassiveKeyword.of? entry.1).isSome)
    (state : IdentState) :
    (stored.filterMap passiveOption?).foldlM identOption state =
      .ok { state with passive := state.passive ++ stored } := by
  induction stored generalizing state with
  | nil =>
      rw [List.append_nil]
      rfl
  | cons entry rest inductionHypothesis =>
      obtain ⟨first, others⟩ := List.forall_mem_cons.mp isPassive
      obtain ⟨keyword, isKeyword⟩ := Option.isSome_iff_exists.mp first
      have isOption :
          passiveOption? entry = some ⟨.passive keyword, entry.2⟩ := by
        rw [passiveOption?, isKeyword]
        rfl
      have name : (keyword.word.text, entry.2) = entry := by
        have same := (passive?_of_passiveOption? isOption).2.2
        exact Option.some.inj same
      have stepped :
          identOption state ⟨.passive keyword, entry.2⟩ =
            .ok { state with passive := state.passive ++ [entry] } := by
        rw [← name]
        rfl
      rw [List.filterMap_cons_some isOption, foldlM_cons_of_ok stepped,
        inductionHypothesis others, List.append_assoc]
      rfl

/-- An option that was not seen before is given its value. -/
theorem identOption_unseen
    {state next : IdentState}
    {keyword : IdentKeyword}
    {value : Option Str}
    (unseen : keyword ∉ state.seen)
    (isValue :
      identValue { state with seen := state.seen ++ [keyword] } keyword
        value = .ok next) :
    identOption state ⟨.identification keyword, value⟩ = .ok next := by
  simp only [identOption, if_neg unseen]
  exact isValue

namespace Rule

variable {cfg : ParserCfg} {rule : Rule} (writable : rule.Writable cfg)
include writable

/-- The message and the numbers of a rule are read back. -/
theorem foldlM_named (state : IdentState) (unseen : state.seen = []) :
    ∃ sid rev : Nat,
      rule.sid = sid ∧ rule.rev = rev ∧
        List.foldlM identOption state
            [⟨.identification .msg, some (quote rule.msg)⟩,
              ⟨.identification .sid, some (ofInt rule.sid)⟩,
              ⟨.identification .rev, some (ofInt rule.rev)⟩] =
          .ok { state with
            seen := [.msg, .sid, .rev]
            msg := some rule.msg
            sid := some sid
            rev } := by
  obtain ⟨sid, isSid, readSid, _⟩ := positiveInt?_ofInt writable.sid
  obtain ⟨rev, isRev, readRev, _⟩ := positiveInt?_ofInt writable.rev
  refine ⟨sid, rev, isSid, isRev, ?_⟩
  obtain ⟨seen, msg, oldSid, oldRev, classtype, priority, passive⟩ := state
  cases unseen
  have msgStep :
      identOption ⟨[], msg, oldSid, oldRev, classtype, priority, passive⟩
          ⟨.identification .msg, some (quote rule.msg)⟩ =
        .ok ⟨[.msg], some rule.msg, oldSid, oldRev, classtype, priority,
          passive⟩ := by
    apply identOption_unseen List.not_mem_nil
    simp only [identValue, unquoteString_quote]
    rfl
  have sidStep :
      identOption
          ⟨[.msg], some rule.msg, oldSid, oldRev, classtype, priority,
            passive⟩
          ⟨.identification .sid, some (ofInt rule.sid)⟩ =
        .ok ⟨[.msg, .sid], some rule.msg, some sid, oldRev, classtype,
          priority, passive⟩ := by
    apply identOption_unseen (by simp)
    simp only [identValue, readSid]
    rfl
  have revStep :
      identOption
          ⟨[.msg, .sid], some rule.msg, some sid, oldRev, classtype,
            priority, passive⟩
          ⟨.identification .rev, some (ofInt rule.rev)⟩ =
        .ok ⟨[.msg, .sid, .rev], some rule.msg, some sid, rev, classtype,
          priority, passive⟩ := by
    apply identOption_unseen (by simp)
    simp only [identValue, readRev]
    rfl
  rw [foldlM_cons_of_ok msgStep, foldlM_cons_of_ok sidStep,
    foldlM_cons_of_ok revStep]
  rfl

/-- The class of a rule is read back. -/
theorem foldlM_classtype
    (state : IdentState)
    (noClasstype : state.classtype = none)
    (unseen : .classtype ∉ state.seen) :
    ∃ seen,
      (rule.classtype.map fun name =>
          (⟨.identification .classtype, some name⟩ :
            OptionPair)).toList.foldlM identOption state =
        .ok { state with seen, classtype := rule.classtype } ∧
      ∀ keyword ∈ seen, keyword ∈ state.seen ∨ keyword = .classtype := by
  cases isName : rule.classtype with
  | none =>
      refine ⟨state.seen, ?_, fun keyword member => Or.inl member⟩
      obtain ⟨seen, msg, sid, rev, classtype, priority, passive⟩ := state
      cases noClasstype
      rfl
  | some name =>
      obtain ⟨notEmpty, plain⟩ := writable.classtype name isName
      have isRead : classtype? (some name) = some name := by
        have all := List.all_eq_true.mpr plain
        simp [classtype?, notEmpty, all]
      have stepped :
          identOption state ⟨.identification .classtype, some name⟩ =
            .ok { state with
              seen := state.seen ++ [.classtype]
              classtype := some name } := by
        apply identOption_unseen unseen
        simp only [identValue, isRead]
      refine ⟨state.seen ++ [.classtype],
        (foldlM_cons_of_ok stepped []).trans rfl, ?_⟩
      intro keyword member
      simpa using member

/-- The priority of a rule is read back, or it is the default one. -/
theorem foldlM_priority
    {priority : Int}
    (isPriority : rule.priority = some priority)
    (state : IdentState)
    (default : state.priority = cfg.priority)
    (unseen : .priority ∉ state.seen) :
    ∃ seen,
      ((rule.givenPriority cfg).map fun priority =>
          (⟨.identification .priority, some (ofInt priority)⟩ :
            OptionPair)).toList.foldlM identOption state =
        .ok { state with seen, priority } := by
  by_cases isDefault : priority = cfg.priority
  · have notGiven : rule.givenPriority cfg = none := by
      rw [givenPriority, isPriority, Option.filter_some, if_neg]
      simp [isDefault]
    refine ⟨state.seen, ?_⟩
    rw [notGiven, isDefault, ← default]
    rfl
  · have given : rule.givenPriority cfg = some priority := by
      rw [givenPriority, isPriority, Option.filter_some, if_pos]
      simp [isDefault]
    have bounded : priority ≤ maxOptionInt := by
      obtain ⟨_, same, bounded⟩ := writable.priority
      cases isPriority.symm.trans same
      exact bounded.resolve_left isDefault
    obtain ⟨value, same, isRead, _⟩ :=
      positiveInt?_ofInt
        ⟨rule.priorityPositive priority isPriority, bounded⟩
    have stepped :
        identOption state
            ⟨.identification .priority, some (ofInt priority)⟩ =
          .ok { state with
            seen := state.seen ++ [.priority]
            priority } := by
      apply identOption_unseen unseen
      simp only [identValue, isRead, ← same]
    rw [given]
    exact ⟨state.seen ++ [.priority],
      (foldlM_cons_of_ok stepped []).trans rfl⟩

/-- The identification of a rule is read back. -/
theorem parseIdentification_options :
    ∃ identification,
      parseIdentification (rule.options cfg) cfg.priority =
          .ok identification ∧
        identification.msg = rule.msg ∧
        (identification.sid : Int) = rule.sid ∧
        (identification.rev : Int) = rule.rev ∧
        identification.classtype = rule.classtype ∧
        some identification.priority = rule.priority ∧
        identification.passiveOptions = rule.passiveOptions := by
  obtain ⟨priority, isPriority, _⟩ := writable.priority
  let start : IdentState := {
    seen := []
    msg := none
    sid := none
    rev := 1
    classtype := none
    priority := cfg.priority
    passive := [] }
  obtain ⟨sid, rev, isSid, isRev, named⟩ := foldlM_named writable start rfl
  obtain ⟨classSeen, classed, fewer⟩ :=
    foldlM_classtype writable
      { start with
        seen := [.msg, .sid, .rev]
        msg := some rule.msg
        sid := some sid
        rev } rfl (by simp)
  have unseen : IdentKeyword.priority ∉ classSeen := by
    intro member
    rcases fewer _ member with known | same
    · simp at known
    · cases same
  obtain ⟨seen, prioritized⟩ :=
    foldlM_priority writable isPriority
      { start with
        seen := classSeen
        msg := some rule.msg
        sid := some sid
        rev
        classtype := rule.classtype } rfl unseen
  have stored :=
    foldlM_passive (fun entry member => (writable.passive entry member).1)
      { start with
        seen
        msg := some rule.msg
        sid := some sid
        rev
        classtype := rule.classtype
        priority }
  have looped :
      (rule.options cfg).foldlM identOption start =
        .ok {
          seen
          msg := some rule.msg
          sid := some sid
          rev
          classtype := rule.classtype
          priority
          passive := rule.passiveOptions } := by
    rw [options, identOptions, List.append_assoc, List.append_assoc,
      foldlM_append_of_ok named, foldlM_append_of_ok classed,
      foldlM_append_of_ok prioritized, foldlM_append_of_ok stored]
    apply foldlM_unchanged
    intro option member
    apply identOption_other
    rcases List.mem_append.mp member with ofContent | single
    · obtain ⟨content, _, isOption⟩ := List.mem_flatMap.mp ofContent
      have known := isOfContent_of_mem_options isOption
      cases key : option.key <;> rw [key] at known <;>
        first | exact id | exact known.elim
    · rcases key_of_mem_singleOptions single with key | key | key <;>
        rw [key] <;> exact id
  refine ⟨⟨rule.msg, sid, rev, rule.classtype, priority,
    rule.passiveOptions⟩, ?_, rfl, isSid.symm, isRev.symm, rfl,
    isPriority.symm, rfl⟩
  change ((rule.options cfg).foldlM identOption start).bind identEnd = _
  rw [looped]
  rfl

end Rule

/-! ### The contents -/

/-- A content is its text and its modifiers. -/
theorem ContentSpec.eq_of_modifier?
    {first second : ContentSpec}
    (sameRaw : first.raw = second.raw)
    (samePattern : first.pattern = second.pattern)
    (sameModifiers :
      ∀ modifier, first.modifier? modifier = second.modifier? modifier) :
    first = second := by
  have number : Function.Injective ModifierValue.number :=
    fun _ _ same => ModifierValue.number.inj same
  have nocase := sameModifiers .nocase
  have offset := Option.map_injective number (sameModifiers .offset)
  have depth := Option.map_injective number (sameModifiers .depth)
  have distance := Option.map_injective number (sameModifiers .distance)
  have within := Option.map_injective number (sameModifiers .within)
  obtain ⟨_, _, firstFlag, _, _, _, _, _⟩ := first
  obtain ⟨_, _, secondFlag, _, _, _, _, _⟩ := second
  cases sameRaw
  cases samePattern
  cases offset
  cases depth
  cases distance
  cases within
  cases firstFlag <;> cases secondFlag <;> simp_all [modifier?]

/-- The modifiers that are left complete an open content. -/
theorem foldlM_modifiers
    {content : ContentSpec}
    (writable : content.Writable)
    {modifiers : List ContentModifier}
    (different : modifiers.Nodup)
    {current : OpenContent}
    (sameRaw : current.content.raw = content.raw)
    (samePattern : current.content.pattern = content.pattern)
    (unseen : ∀ modifier ∈ modifiers, modifier ∉ current.seen)
    (unset :
      ∀ modifier ∈ modifiers, current.content.modifier? modifier = none)
    (others :
      ∀ modifier, modifier ∉ modifiers →
        current.content.modifier? modifier = content.modifier? modifier)
    (contents : List ContentSpec)
    (unsupported : Option RuleReason) :
    ∃ seen,
      (modifiers.filterMap content.modifierOption?).foldlM contentsOption
          ⟨contents, some current, unsupported⟩ =
        .ok ⟨contents, some ⟨content, seen⟩, unsupported⟩ := by
  induction modifiers generalizing current with
  | nil =>
      have same : current.content = content :=
        ContentSpec.eq_of_modifier? sameRaw samePattern
          fun modifier => others modifier List.not_mem_nil
      refine ⟨current.seen, ?_⟩
      rw [← same]
      rfl
  | cons modifier rest inductionHypothesis =>
      obtain ⟨notAgain, differentRest⟩ := List.nodup_cons.mp different
      obtain ⟨firstUnseen, restUnseen⟩ := List.forall_mem_cons.mp unseen
      obtain ⟨firstUnset, restUnset⟩ := List.forall_mem_cons.mp unset
      cases isValue : content.modifier? modifier with
      | none =>
          have absent : content.modifierOption? modifier = none := by
            rw [ContentSpec.modifierOption?, isValue]
            rfl
          rw [List.filterMap_cons_none absent]
          apply inductionHypothesis differentRest sameRaw samePattern
            restUnseen restUnset
          intro other notRest
          by_cases same : other = modifier
          · rw [same, firstUnset, isValue]
          · exact others other
              (fun member => (List.mem_cons.mp member).elim same notRest)
      | some value =>
          have given :
              content.modifierOption? modifier =
                some ⟨.modifier modifier, value.text?⟩ := by
            rw [ContentSpec.modifierOption?, isValue]
            rfl
          have isRead := modifierValue?_text writable isValue
          have sameText :=
            text_setModifier current.content modifier value
          have stepped :
              contentsOption ⟨contents, some current, unsupported⟩
                  ⟨.modifier modifier, value.text?⟩ =
                .ok ⟨contents,
                  some ⟨current.content.setModifier modifier value,
                    current.seen ++ [modifier]⟩, unsupported⟩ := by
            simp only [contentsOption, if_neg firstUnseen, isRead]
          rw [List.filterMap_cons_some given, foldlM_cons_of_ok stepped]
          apply inductionHypothesis differentRest
            (sameText.1.trans sameRaw) (sameText.2.trans samePattern)
          · intro other member seen
            rcases List.mem_append.mp seen with before | same
            · exact restUnseen other member before
            · rw [List.mem_singleton.mp same] at member
              exact notAgain member
          · intro other member
            have notSame : other ≠ modifier := by
              rintro rfl
              exact notAgain member
            rw [modifier?_setModifier isRead, if_neg notSame]
            exact restUnset other member
          · intro other notRest
            rw [modifier?_setModifier isRead]
            split
            · rename_i same
              rw [same, isValue]
            · rename_i notSame
              exact others other
                (fun member => (List.mem_cons.mp member).elim notSame notRest)

/-- What is written between quotation marks is found there. -/
theorem betweenQuotes?_quoted (raw : Str) :
    betweenQuotes? (quoted raw) = some raw := by
  have long : 2 ≤ (quoted raw).length := by
    simp [quoted]
  have first : (quoted raw).head? = some (codePoint '"') := rfl
  have last : (quoted raw).getLast? = some (codePoint '"') := by
    rw [quoted]
    exact List.getLast?_concat
  rw [betweenQuotes?, if_pos ⟨long, first, last⟩]
  rw [quoted, List.cons_append, List.tail_cons, List.dropLast_concat]

/-- The text of a content is read back. -/
theorem decodeContent_quoted
    {content : ContentSpec}
    (writable : content.Writable) :
    decodeContent (some (quoted content.raw)) =
      .ok ⟨content.raw, content.pattern, content.patternNotEmpty⟩ := by
  have notNegated : isNegated (some (quoted content.raw)) = false := by
    rfl
  have isRead :
      decodeQuoted? (some (quoted content.raw)) =
        some ⟨content.raw, content.pattern, content.patternNotEmpty⟩ := by
    rw [decodeQuoted?, Option.bind_some, betweenQuotes?_quoted]
    simp only [writable.scanned, dif_pos content.patternNotEmpty]
  rw [decodeContent, notNegated, isRead]
  rfl

/-- A content is read back. -/
theorem foldlM_content
    {content : ContentSpec}
    (writable : content.Writable)
    (state : ContentsState) :
    ∃ seen,
      content.options.foldlM contentsOption state =
        .ok ⟨state.close, some ⟨content, seen⟩, state.unsupported⟩ := by
  let decoded : DecodedContent :=
    ⟨content.raw, content.pattern, content.patternNotEmpty⟩
  have opened :
      contentsOption state ⟨.content, some (quoted content.raw)⟩ =
        .ok ⟨state.close, some decoded.open, state.unsupported⟩ := by
    simp only [contentsOption, decodeContent_quoted writable]
    rfl
  rw [ContentSpec.options, foldlM_cons_of_ok opened]
  apply foldlM_modifiers writable (by decide) rfl rfl
  · exact fun modifier _ => List.not_mem_nil
  · intro modifier _
    cases modifier <;> rfl
  · intro modifier absent
    cases modifier <;> exact absurd (by decide) absent

/-- The contents of a rule are read back in their order. -/
theorem foldlM_contents
    {contents : List ContentSpec}
    (writable : ∀ content ∈ contents, content.Writable)
    (state : ContentsState) :
    ∃ final,
      (contents.flatMap ContentSpec.options).foldlM contentsOption state =
          .ok final ∧
        final.close = state.close ++ contents ∧
        final.unsupported = state.unsupported := by
  induction contents generalizing state with
  | nil =>
      exact ⟨state, rfl, (List.append_nil _).symm, rfl⟩
  | cons content rest inductionHypothesis =>
      obtain ⟨first, others⟩ := List.forall_mem_cons.mp writable
      obtain ⟨seen, isRead⟩ := foldlM_content first state
      obtain ⟨final, looped, closed, unsupported⟩ :=
        inductionHypothesis others
          ⟨state.close, some ⟨content, seen⟩, state.unsupported⟩
      refine ⟨final, ?_, ?_, unsupported⟩
      · rw [List.flatMap_cons, foldlM_append_of_ok isRead, looped]
      · rw [closed, ContentsState.close]
        simp

end IntrusionDetection
