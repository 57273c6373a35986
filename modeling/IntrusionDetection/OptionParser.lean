import IntrusionDetection.FaultPrecedence
import IntrusionDetection.RuleTokenizer

namespace IntrusionDetection

open PyText FaultPrecedence

/-!
# Rule options

The parsers of the identification options, of the contents with their
modifiers, and of the flow, flags and dsize options.
-/

/-- `MAX_OPTION_INT`. -/
def maxOptionInt : Nat := 0xFFFFFFFF

/-- `_non_negative_int`. -/
def nonNegativeInt? (text : Str) : Option Nat :=
  if isAsciiDigits text then
    (intOfDigits? text).filter (· ≤ maxOptionInt)
  else
    none

/-- `_positive_int`. -/
def positiveInt? (text : Option Str) : Option Nat :=
  match text with
  | none => none
  | some text => (nonNegativeInt? text).filter (1 ≤ ·)

/-! ### Identification -/

/-- The characters after a backslash that lose it. -/
def isEscapable (char : CodePoint) : Bool :=
  char = codePoint ';' || char = codePoint '"' || char = codePoint '\\'

/-- The scanner of `unquote_string`. -/
def unescape? : Str → Option Str
  | [] => some []
  | char :: rest =>
      if char = codePoint '\\' then
        match rest with
        | [] => none
        | next :: later =>
            (unescape? later).map fun unescaped =>
              if isEscapable next then
                next :: unescaped
              else
                char :: next :: unescaped
      else if char = codePoint '"' then
        none
      else
        (unescape? rest).map (char :: ·)

/-- The text between the quotes of a value. -/
def betweenQuotes? (value : Str) : Option Str :=
  if 2 ≤ value.length ∧ value.head? = some (codePoint '"') ∧
      value.getLast? = some (codePoint '"') then
    some value.tail.dropLast
  else
    none

/-- `unquote_string`. -/
def unquoteString (value : Option Str) : Option Str :=
  (value.bind betweenQuotes?).bind unescape?

/-- A letter, a digit, an underscore or a hyphen. -/
def isClasstypeChar (char : CodePoint) : Bool :=
  isAsciiDigit char ||
    (0x41 ≤ char.val && char.val ≤ 0x5A) ||
    (0x61 ≤ char.val && char.val ≤ 0x7A) ||
    char = codePoint '_' || char = codePoint '-'

/-- The value of `classtype`, if it is a plain name. -/
def classtype? (value : Option Str) : Option Str :=
  value.filter fun text => text ≠ [] && text.all isClasstypeChar

/-- `Identification`. -/
structure Identification where
  msg : Str
  sid : Nat
  rev : Nat
  classtype : Option Str
  priority : Int
  passiveOptions : List (Str × Option Str)

/-- What the loop of `parse_identification` keeps. -/
structure IdentState where
  seen : List IdentKeyword
  msg : Option Str
  sid : Option Nat
  rev : Nat
  classtype : Option Str
  priority : Int
  passive : List (Str × Option Str)

/-- One identification option that was not given before. -/
def identValue
    (state : IdentState)
    (keyword : IdentKeyword)
    (value : Option Str) :
    Except RuleReason IdentState :=
  match keyword with
  | .msg =>
      match unquoteString value with
      | none => .error .missingMsg
      | some msg => .ok { state with msg := some msg }
  | .sid =>
      match positiveInt? value with
      | none => .error .badSid
      | some sid => .ok { state with sid := some sid }
  | .rev =>
      match positiveInt? value with
      | none => .error (.badOptionValue IdentKeyword.rev.word)
      | some rev => .ok { state with rev }
  | .priority =>
      match positiveInt? value with
      | none => .error (.badOptionValue IdentKeyword.priority.word)
      | some priority => .ok { state with priority }
  | .classtype =>
      match classtype? value with
      | none => .error (.badOptionValue IdentKeyword.classtype.word)
      | some name => .ok { state with classtype := some name }

/-- The loop body of `parse_identification`. -/
def identOption
    (state : IdentState)
    (option : OptionPair) :
    Except RuleReason IdentState :=
  match option.key with
  | .passive keyword =>
      .ok { state with
        passive := state.passive ++ [(keyword.word.text, option.value)] }
  | .identification keyword =>
      if keyword ∈ state.seen then
        .error (.duplicateOption keyword.word)
      else
        identValue { state with seen := state.seen ++ [keyword] } keyword
          option.value
  | _ => .ok state

/-- The end of `parse_identification`: sid and msg are required. -/
def identEnd (state : IdentState) : Except RuleReason Identification :=
  match state.sid, state.msg with
  | none, _ => .error .missingSid
  | some _, none => .error .missingMsg
  | some sid, some msg =>
      .ok {
        msg, sid
        rev := state.rev
        classtype := state.classtype
        priority := state.priority
        passiveOptions := state.passive }

/-- `parse_identification`. -/
def parseIdentification
    (options : List OptionPair)
    (defaultPriority : Int) :
    Except RuleReason Identification :=
  let start : IdentState := {
    seen := []
    msg := none
    sid := none
    rev := 1
    classtype := none
    priority := defaultPriority
    passive := [] }
  options.foldlM identOption start >>= identEnd

/-! ### Contents -/

/-- Value of a hexadecimal digit. -/
def hexDigit? (char : CodePoint) : Option Nat :=
  if isAsciiDigit char then
    some (char.val - 0x30)
  else if 0x41 ≤ char.val ∧ char.val ≤ 0x46 then
    some (char.val - 0x41 + 10)
  else if 0x61 ≤ char.val ∧ char.val ≤ 0x66 then
    some (char.val - 0x61 + 10)
  else
    none

/-- `bytes.fromhex` on an even number of digits. -/
def bytesFromHex : List Nat → Bytes
  | high :: low :: rest =>
      UInt8.ofNat (16 * high + low) :: bytesFromHex rest
  | _ => []

/-- `_encode_text`; `none` is a character that is rejected. -/
def encodeText? (text : Str) : Option Bytes :=
  if codePoint '\uFFFD' ∈ text then none else utf8? text

/--
The scanner of `decode_content`.  Inside a hexadecimal block the digits read so
far are collected.
-/
def scanContent (hexDigits : Option (List Nat)) (out : Bytes) :
    Str → Option Bytes
  | [] =>
      match hexDigits with
      | none => some out
      | some _ => none
  | char :: rest =>
      match hexDigits with
      | some digits =>
          if char = codePoint '|' then
            if digits.length % 2 = 0 then
              scanContent none (out ++ bytesFromHex digits) rest
            else
              none
          else
            match hexDigit? char with
            | some digit => scanContent (some (digits ++ [digit])) out rest
            | none =>
                if char = codePoint ' ' ∨ char = codePoint '\t' then
                  scanContent (some digits) out rest
                else
                  none
      | none =>
          if char = codePoint '|' then
            scanContent (some []) out rest
          else if char = codePoint '\\' then
            match rest with
            | [] => none
            | next :: later =>
                match encodeText?
                    (if isEscapable next then [next]
                      else [char, next]) with
                | none => none
                | some encoded => scanContent none (out ++ encoded) later
          else if char = codePoint '"' then
            none
          else
            match encodeText? [char] with
            | none => none
            | some encoded => scanContent none (out ++ encoded) rest

/-- The text of a content as written and the bytes it stands for. -/
structure DecodedContent where
  raw : Str
  pattern : Bytes
  patternNotEmpty : pattern ≠ []

/-- The content a quoted value stands for. -/
def decodeQuoted? (value : Option Str) : Option DecodedContent :=
  match value.bind betweenQuotes? with
  | none => none
  | some raw =>
      match scanContent none [] raw with
      | none => none
      | some pattern =>
          if patternNotEmpty : pattern ≠ [] then
            some { raw, pattern, patternNotEmpty }
          else
            none

/-- Is the content negated, as in `content:!"..."`? -/
def isNegated (value : Option Str) : Bool :=
  match value with
  | none => false
  | some text => startsWith (lit "!\"") text

/-- `_bad_content`. -/
def badContent : RuleReason := .badOptionValue Keyword.content.word

/-- `decode_content`. -/
def decodeContent (value : Option Str) :
    Except RuleReason DecodedContent :=
  if isNegated value then
    .error .contentNegation
  else
    match decodeQuoted? value with
    | none => .error badContent
    | some decoded => .ok decoded

/-- The value of a content modifier; `nocase` has none. -/
inductive ModifierValue where
  | flag
  | number (number : Int)

/-- `_modifier_value`. -/
def modifierValue?
    (modifier : ContentModifier)
    (value : Option Str) :
    Option ModifierValue :=
  match modifier, value with
  | .nocase, none => some .flag
  | .nocase, some _ => none
  | _, none => none
  | .distance, some text =>
      if startsWith (lit "-") text then
        (nonNegativeInt? text.tail).map fun number => .number (-number)
      else
        (nonNegativeInt? text).map fun number => .number number
  | .within, some text =>
      ((nonNegativeInt? text).filter (1 ≤ ·)).map
        fun number => .number number
  | .offset, some text =>
      (nonNegativeInt? text).map fun number => .number number
  | .depth, some text =>
      (nonNegativeInt? text).map fun number => .number number

/-- The content being built and its modifiers so far. -/
structure OpenContent where
  content : ContentSpec
  seen : List ContentModifier

/-- Set a modifier of a content. -/
def ContentSpec.setModifier
    (content : ContentSpec)
    (modifier : ContentModifier)
    (value : ModifierValue) :
    ContentSpec :=
  match modifier, value with
  | .nocase, _ => { content with nocase := true }
  | .offset, .number number => { content with offset := some number }
  | .depth, .number number => { content with depth := some number }
  | .distance, .number number => { content with distance := some number }
  | .within, .number number => { content with within := some number }
  | _, .flag => content

/-- What the loop of `parse_contents_full` keeps. -/
structure ContentsState where
  contents : List ContentSpec
  current : Option OpenContent
  unsupported : Option RuleReason

/-- The `close` of `parse_contents_full`. -/
def ContentsState.close (state : ContentsState) : List ContentSpec :=
  state.contents ++ (state.current.map OpenContent.content).toList

/-- A content without modifiers. -/
def DecodedContent.open (decoded : DecodedContent) : OpenContent where
  content := {
    raw := decoded.raw
    pattern := decoded.pattern
    nocase := false
    offset := none
    depth := none
    distance := none
    within := none
    patternNotEmpty := decoded.patternNotEmpty }
  seen := []

/-- The loop body of `parse_contents_full`. -/
def contentsOption
    (state : ContentsState)
    (option : OptionPair) :
    Except RuleReason ContentsState :=
  match option.key with
  | .content =>
      match decodeContent option.value with
      | .ok decoded =>
          .ok { state with
            contents := state.close
            current := some decoded.open }
      | .error reason =>
          if reason = .contentNegation then
            -- The negated text is checked too.
            match decodeContent (option.value.map List.tail) with
            | .ok decoded =>
                .ok {
                  contents := state.close
                  current := some decoded.open
                  unsupported := state.unsupported.or (some reason) }
            | .error inner => .error inner
          else
            .error reason
  | .modifier modifier =>
      match state.current with
      | none => .error .modifierWithoutContent
      | some current =>
          if modifier ∈ current.seen then
            .error (.duplicateOption modifier.word)
          else
            match modifierValue? modifier option.value with
            | none => .error (.badOptionValue modifier.word)
            | some value =>
                .ok { state with
                  current := some {
                    content := current.content.setModifier modifier value
                    seen := current.seen ++ [modifier] } }
  | _ => .ok state

/-- `parse_contents_full`. -/
def parseContentsFull (options : List OptionPair) :
    Except RuleReason (List ContentSpec × Option RuleReason) :=
  let start : ContentsState :=
    { contents := [], current := none, unsupported := none }
  (options.foldlM contentsOption start).map
    fun state => (state.close, state.unsupported)

/-! ### Flow, flags and dsize -/

/-- `_single_option`: the value of an option that may be given once. -/
def singleOption (options : List OptionPair) (key : Keyword) :
    Except RuleReason (Option (Option Str)) :=
  match options.filter fun option => option.key = key with
  | [] => .ok none
  | [option] => .ok (some option.value)
  | _ :: _ :: _ => .error (.duplicateOption key.word)

/-- `_FLOW_ROLES`. -/
def flowRole? (item : Word) : Option FlowRole :=
  if item.text = lit "to_server" ∨ item.text = lit "from_client" then
    some .toServer
  else if item.text = lit "to_client" ∨ item.text = lit "from_server" then
    some .toClient
  else
    none

/-- `_FLOW_STATES`. -/
def flowState? (item : Word) : Option FlowStateSpec :=
  if item.text = lit "established" then
    some .established
  else if item.text = lit "not_established" then
    some .notEstablished
  else
    none

/-- The items of a flow value, none of them empty. -/
def flowItems? (value : Option Str) : Option (List Word) :=
  match value with
  | none => none
  | some text =>
      if strip text = [] then
        none
      else
        (PyText.splitAt (codePoint ',') text).mapM
          fun item => Word.of? (strip item)

/-- Is a flow item a word outside the supported subset? -/
def isUnknownFlowItem (item : Word) : Bool :=
  (flowRole? item).isNone && (flowState? item).isNone

/-- Does a flow value ask for both roles, or for both states? -/
def flowConflict (items : List Word) : Bool :=
  1 < (items.filterMap flowRole?).dedup.length ||
    1 < (items.filterMap flowState?).dedup.length

/-- `parse_flow_value`. -/
def parseFlowValue (value : Option Str) : Except RuleReason FlowSpec :=
  match flowItems? value with
  | none => .error (.badOptionValue Keyword.flow.word)
  | some items =>
      if flowConflict items then
        .error .conflictingFlow
      else
        match items.find? isUnknownFlowItem with
        | some item => .error (.flowOption item)
        | none =>
            .ok {
              role := (items.filterMap flowRole?).head?
              state := (items.filterMap flowState?).head? }

/-- The letters of the TCP flags. -/
def tcpFlag? (char : CodePoint) : Option TcpFlag :=
  if char = codePoint 'S' then some .s
  else if char = codePoint 'A' then some .a
  else if char = codePoint 'F' then some .f
  else if char = codePoint 'R' then some .r
  else if char = codePoint 'P' then some .p
  else if char = codePoint 'U' then some .u
  else if char = codePoint 'C' then some .c
  else if char = codePoint 'E' then some .e
  else none

/-- The mode of a flags value and what is left of it. -/
def flagsMode (main : Str) : FlagsMode × Str :=
  if startsWith (lit "!") main then
    (.none, main.tail)
  else if main.getLast? = some (codePoint '+') then
    (.all, main.dropLast)
  else if main.getLast? = some (codePoint '*') then
    (.any, main.dropLast)
  else
    (.exact, main)

/-- The flags part of a value, before any mask. -/
def flagsMain? (main : Str) : Option FlagsSpec :=
  let (mode, letters) := flagsMode main
  if letters = lit "0" then
    if isExact : mode = .exact then
      some { mode, flags := ∅, notEmpty := Or.inr isExact }
    else
      none
  else
    match letters.mapM tcpFlag? with
    | none => none
    | some flags =>
        if notEmpty : flags.toFinset ≠ ∅ then
          some { mode, flags := flags.toFinset,
                 notEmpty := Or.inl notEmpty }
        else
          none

/-- `parse_flags_value`. -/
def parseFlagsValue (value : Option Str) : Except RuleReason FlagsSpec :=
  match value with
  | none => .error (.badOptionValue Keyword.flags.word)
  | some text =>
      let (main, mask) := partition (codePoint ',') text
      match flagsMain? main with
      | none => .error (.badOptionValue Keyword.flags.word)
      | some flags =>
          match mask with
          | some _ => .error .flagsMask
          | none => .ok flags

/-- The parts of a dsize value: the operator and its operands. -/
def dsizeParts? (text : Str) : Option (DsizeOp × Str × Option Str) :=
  let digits := text.takeWhile isAsciiDigit
  let rest := lstrip (text.dropWhile isAsciiDigit)
  if isAsciiDigits text then
    some (.eq, text, none)
  else if startsWith (lit "<") text ∧
      isAsciiDigits (lstrip text.tail) then
    some (.lt, lstrip text.tail, none)
  else if startsWith (lit ">") text ∧
      isAsciiDigits (lstrip text.tail) then
    some (.gt, lstrip text.tail, none)
  else if digits ≠ [] ∧ startsWith (lit "<>") rest ∧
      isAsciiDigits (lstrip (rest.drop 2)) then
    some (.range, digits, some (lstrip (rest.drop 2)))
  else
    none

/-- The dsize of an operator and its operands, if they fit. -/
def dsizeOf? (op : DsizeOp) (a : Str) (b : Option Str) :
    Option DsizeSpec :=
  match nonNegativeInt? a, b with
  | none, _ => none
  | some lower, none =>
      if allowed : op.Allows lower none then
        some { op, a := lower, b := none, allowed }
      else
        none
  | some lower, some b =>
      match nonNegativeInt? b with
      | none => none
      | some upper =>
          if allowed : op.Allows lower (some (upper : Int)) then
            some { op, a := lower, b := some (upper : Int), allowed }
          else
            none

/-- `parse_dsize_value`. -/
def parseDsizeValue (value : Option Str) : Except RuleReason DsizeSpec :=
  match (value.bind fun text => dsizeParts? (strip text)) with
  | none => .error (.badOptionValue Keyword.dsize.word)
  | some (op, a, b) =>
      match dsizeOf? op a b with
      | none => .error (.badOptionValue Keyword.dsize.word)
      | some dsize => .ok dsize

/-- An option that may be given once, parsed if it is there. -/
def parseSingle
    {Spec : Type}
    (key : Keyword)
    (parseValue : Option Str → Except RuleReason Spec)
    (options : List OptionPair) :
    Except RuleReason (Option Spec) :=
  match singleOption options key with
  | .error reason => .error reason
  | .ok none => .ok none
  | .ok (some value) => (parseValue value).map some

/-- `parse_flow`. -/
def parseFlow : List OptionPair → Except RuleReason (Option FlowSpec) :=
  parseSingle .flow parseFlowValue

/-- `parse_flags`. -/
def parseFlags : List OptionPair → Except RuleReason (Option FlagsSpec) :=
  parseSingle .flags parseFlagsValue

/-- `parse_dsize`. -/
def parseDsize : List OptionPair → Except RuleReason (Option DsizeSpec) :=
  parseSingle .dsize parseDsizeValue

end IntrusionDetection
