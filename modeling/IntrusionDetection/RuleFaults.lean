import IntrusionDetection.RuleParser

namespace IntrusionDetection

open PyText MapEarlier FaultPrecedence

/-!
# Faults of a rule line

Everything that is wrong or unsupported in a rule line, part by part and in the
order of the checks.  These lists say what the parser should look for; they
know nothing of where it stops.
-/

/-- The one fault a condition stands for. -/
def faultIf (condition : Prop) [Decidable condition] (fault : RuleReason) :
    List RuleReason :=
  if condition then [fault] else []

/-- The faults of the header fields. -/
def headerFaults (tokens : HeaderTokens) : List RuleReason :=
  (fieldFaults tokens).reduceOption

/-- Was an identification option with this keyword given? -/
def hasIdent (options : List OptionPair) (keyword : IdentKeyword) : Prop :=
  ∃ option ∈ options, option.key = .identification keyword

instance (options : List OptionPair) (keyword : IdentKeyword) :
    Decidable (hasIdent options keyword) :=
  inferInstanceAs (Decidable (∃ option ∈ options, _))

/-- The fault of the value of an identification option. -/
def identValueFaults (keyword : IdentKeyword) (value : Option Str) :
    List RuleReason :=
  match keyword with
  | .msg => faultIf (unquoteString value = none) .missingMsg
  | .sid => faultIf (positiveInt? value = none) .badSid
  | .classtype =>
      faultIf (classtype? value = none) (.badOptionValue keyword.word)
  | .rev =>
      faultIf (positiveInt? value = none) (.badOptionValue keyword.word)
  | .priority =>
      faultIf (positiveInt? value = none) (.badOptionValue keyword.word)

/-- The faults of an option as far as it identifies the rule. -/
def identOptionFaults (earlier : List OptionPair) (option : OptionPair) :
    List RuleReason :=
  match option.key with
  | .identification keyword =>
      faultIf (hasIdent earlier keyword) (.duplicateOption keyword.word) ++
        identValueFaults keyword option.value
  | _ => []

/-- The faults of the identification options. -/
def identificationFaults (options : List OptionPair) : List RuleReason :=
  (mapEarlier identOptionFaults [] options).flatten ++
    faultIf (¬ hasIdent options .sid) .missingSid ++
    faultIf (¬ hasIdent options .msg) .missingMsg

/-- The text a content looks for, or looks for in vain. -/
def positiveText (value : Option Str) : Option Str :=
  if isNegated value then value.map List.tail else value

/-- The modifiers given after the last content, if there is a content. -/
def openModifiers? : List OptionPair → Option (List ContentModifier) :=
  List.foldl
    (fun modifiers option =>
      match option.key with
      | .content => some []
      | .modifier modifier => modifiers.map (· ++ [modifier])
      | _ => modifiers)
    none

/-- The faults of an option as far as it is a content or its modifier. -/
def contentOptionFaults (earlier : List OptionPair) (option : OptionPair) :
    List RuleReason :=
  match option.key with
  | .content =>
      faultIf (isNegated option.value) .contentNegation ++
        faultIf ((decodeQuoted? (positiveText option.value)).isNone)
          badContent
  | .modifier modifier =>
      match openModifiers? earlier with
      | none => [.modifierWithoutContent]
      | some modifiers =>
          faultIf (modifier ∈ modifiers)
              (.duplicateOption modifier.word) ++
            faultIf ((modifierValue? modifier option.value).isNone)
              (.badOptionValue modifier.word)
  | _ => []

/-- The faults of the contents and their modifiers. -/
def contentFaults (options : List OptionPair) : List RuleReason :=
  (mapEarlier contentOptionFaults [] options).flatten

/-- The faults of an option that may be given once. -/
def singleFaults
    (key : Keyword)
    (valueFaults : Option Str → List RuleReason)
    (options : List OptionPair) :
    List RuleReason :=
  let given := options.filter fun option => option.key = key
  faultIf (1 < given.length) (.duplicateOption key.word) ++
    given.flatMap fun option => valueFaults option.value

/-- The faults of a flow value. -/
def flowValueFaults (value : Option Str) : List RuleReason :=
  match flowItems? value with
  | none => [.badOptionValue Keyword.flow.word]
  | some items =>
      faultIf (flowConflict items) .conflictingFlow ++
        (items.filter isUnknownFlowItem).map .flowOption

/-- The faults of a flags value. -/
def flagsValueFaults (value : Option Str) : List RuleReason :=
  match value with
  | none => [.badOptionValue Keyword.flags.word]
  | some text =>
      let (main, mask) := partition (codePoint ',') text
      faultIf ((flagsMain? main).isNone)
          (.badOptionValue Keyword.flags.word) ++
        faultIf mask.isSome .flagsMask

/-- The faults of a dsize value. -/
def dsizeValueFaults (value : Option Str) : List RuleReason :=
  (errorOf (parseDsizeValue value)).toList

/-- The faults of a content whose options do not fit each other. -/
def contentCrossFaults (content : ContentSpec) : List RuleReason :=
  let length : Int := content.pattern.length
  faultIf (∃ depth ∈ content.depth, depth < length) .depthLtPattern ++
    faultIf (∃ within ∈ content.within, within < length)
      .withinLtPattern ++
    faultIf
      ((content.offset.isSome ∨ content.depth.isSome) ∧
        (content.distance.isSome ∨ content.within.isSome))
      .mixedAbsoluteRelative

/-- The cross-option faults of the contents, once all of them are read. -/
def crossFaults (options : List OptionPair) : List RuleReason :=
  match parseContentsFull options with
  | .error _ => []
  | .ok (contents, _) => contents.flatMap contentCrossFaults

/-- Flags on a UDP rule. -/
def udpFaults (tokens : HeaderTokens) (options : List OptionPair) :
    List RuleReason :=
  faultIf
    ((∃ option ∈ options, option.key = .flags) ∧
      tokens.protocol = lit "udp")
    .flagsRequiresTcp

/-- The keywords outside the supported subset. -/
def keywordFaults (options : List OptionPair) : List RuleReason :=
  options.filterMap keywordFault

/-- The faults of a line whose structure is sound, in checking order. -/
def partFaults (tokens : HeaderTokens) (options : List OptionPair) :
    List RuleReason :=
  headerFaults tokens ++
    (identificationFaults options ++
    (contentFaults options ++
    (singleFaults .flow flowValueFaults options ++
    (singleFaults .flags flagsValueFaults options ++
    (singleFaults .dsize dsizeValueFaults options ++
    (crossFaults options ++
    (udpFaults tokens options ++
    keywordFaults options)))))))

/-- Everything that is wrong or unsupported in a rule line. -/
def ruleFaults (text : Str) : List RuleReason :=
  match tokenizeRule text with
  | .error reason => [reason]
  | .ok (tokens, options) => partFaults tokens options

end IntrusionDetection
