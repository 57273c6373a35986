import IntrusionDetection.CheckedHeaderParser

namespace IntrusionDetection.Checked

open PyText

/-!
# Rule options with their exceptions

The option parsers as the source runs them, on keys that are plain texts.
-/

/-- The reason of a bad value: `invalid:bad_option_value:<key>`. -/
def badOptionValue {Object : Type} (key : Str) : Parser Object :=
  raise (lit "invalid:bad_option_value:" ++ key)

/-- `_non_negative_int`. -/
def nonNegativeInt (text : Str) : Parser (Option Int) :=
  if isAsciiDigits text then do
    let number ←
      exceptValueError (do return some (← int text)) (return none)
    return number.filter (· ≤ maxOptionInt)
  else
    return none

/-- `_positive_int`. -/
def positiveInt (text : Option Str) : Parser (Option Int) :=
  match text with
  | none => return none
  | some text =>
      if isAsciiDigits text then do
        let number ←
          exceptValueError (do return some (← int text)) (return none)
        return number.filter fun number =>
          1 ≤ number && number ≤ maxOptionInt
      else
        return none

/-! ### Identification -/

/-- `IDENTIFICATION_KEYWORDS`. -/
def identificationKeywords : List Str :=
  [lit "msg", lit "sid", lit "rev", lit "classtype", lit "priority"]

/-- `PASSIVE_KEYWORDS`. -/
def passiveKeywords : List Str :=
  [lit "reference", lit "metadata", lit "gid"]

/-- `MATCH_KEYWORDS`. -/
def matchKeywords : List Str :=
  [lit "content", lit "nocase", lit "offset", lit "depth",
    lit "distance", lit "within", lit "flow", lit "flags", lit "dsize"]

/-- `SUPPORTED_KEYWORDS`. -/
def supportedKeywords : List Str :=
  identificationKeywords ++ passiveKeywords ++ matchKeywords

/-- `unsupported_keyword`. -/
def unsupportedKeyword (options : List RawOption) : Option Str :=
  (options.find? fun option =>
      !supportedKeywords.contains option.1).map fun option =>
    lit "unsupported:keyword:" ++ option.1

/-- `Identification`. -/
structure Identification where
  msg : Str
  sid : Int
  rev : Int
  classtype : Option Str
  priority : Int
  passiveOptions : List RawOption

/-- What the loop of `parse_identification` keeps. -/
structure IdentState where
  seen : List Str
  msg : Option Str
  sid : Option Int
  rev : Int
  classtype : Option Str
  priority : Int
  passive : List RawOption

/-- The branches of the loop on an option that was not given before. -/
def identValue
    (state : IdentState)
    (key : Str)
    (value : Option Str) :
    Parser IdentState :=
  if key = lit "msg" then
    match unquoteString value with
    | none => raise (lit "invalid:missing_msg")
    | some msg => return { state with msg := some msg }
  else if key = lit "sid" then do
    match ← positiveInt value with
    | none => raise (lit "invalid:bad_sid")
    | some sid => return { state with sid := some sid }
  else if key = lit "rev" then do
    match ← positiveInt value with
    | none => badOptionValue (lit "rev")
    | some rev => return { state with rev }
  else if key = lit "priority" then do
    match ← positiveInt value with
    | none => badOptionValue (lit "priority")
    | some priority => return { state with priority }
  else
    match classtype? value with
    | none => badOptionValue (lit "classtype")
    | some name => return { state with classtype := some name }

/-- The loop body of `parse_identification`. -/
def identOption (state : IdentState) (option : RawOption) :
    Parser IdentState :=
  if passiveKeywords.contains option.1 then
    return { state with passive := state.passive ++ [option] }
  else if !identificationKeywords.contains option.1 then
    return state
  else if state.seen.contains option.1 then
    raise (lit "invalid:duplicate_option:" ++ option.1)
  else
    identValue { state with seen := state.seen ++ [option.1] } option.1
      option.2

/-- The end of `parse_identification`. -/
def identEnd (state : IdentState) : Parser Identification :=
  match state.sid, state.msg with
  | none, _ => raise (lit "invalid:missing_sid")
  | some _, none => raise (lit "invalid:missing_msg")
  | some sid, some msg =>
      return {
        msg, sid
        rev := state.rev
        classtype := state.classtype
        priority := state.priority
        passiveOptions := state.passive }

/-- `parse_identification`. -/
def parseIdentification
    (options : List RawOption)
    (defaultPriority : Int) :
    Parser Identification := do
  let state ← options.foldlM identOption {
    seen := []
    msg := none
    sid := none
    rev := 1
    classtype := none
    priority := defaultPriority
    passive := [] }
  identEnd state

/-! ### Contents -/

/-- `_CONTENT_MODIFIERS`. -/
def contentModifiers : List Str :=
  [lit "nocase", lit "offset", lit "depth", lit "distance", lit "within"]

/-- `_HEX_DIGITS`. -/
def hexDigits : Str :=
  lit "0123456789abcdefABCDEF"

/-- `raise _bad_content()`. -/
def badContent {Object : Type} : Parser Object :=
  badOptionValue (lit "content")

/-- `_encode_text`. -/
def encodeText (text : Str) : Parser Bytes :=
  if codePoint '\uFFFD' ∈ text then
    badContent
  else
    exceptUnicodeEncodeError (encode text) badContent

/--
The scanner of `decode_content`.  Inside a hexadecimal block the digits read so
far are collected.
-/
def scanContent (digits : Option Str) (out : Bytes) : Str → Parser Bytes
  | [] =>
      match digits with
      | none => return out
      | some _ => badContent
  | char :: rest =>
      match digits with
      | some digits =>
          if char = codePoint '|' then
            if digits.length % 2 = 0 then do
              let block ← fromHex digits
              scanContent none (out ++ block) rest
            else
              badContent
          else if hexDigits.contains char then
            scanContent (some (digits ++ [char])) out rest
          else if char = codePoint ' ' ∨ char = codePoint '\t' then
            scanContent (some digits) out rest
          else
            badContent
      | none =>
          if char = codePoint '|' then
            scanContent (some []) out rest
          else if char = codePoint '\\' then
            match rest with
            | [] => badContent
            | next :: later => do
                let encoded ←
                  encodeText
                    (if isEscapable next then [next] else [char, next])
                scanContent none (out ++ encoded) later
          else if char = codePoint '"' then
            badContent
          else do
            let encoded ← encodeText [char]
            scanContent none (out ++ encoded) rest

/-- `decode_content`. -/
def decodeContent (value : Option Str) : Parser (Str × Bytes) :=
  if isNegated value then
    raise (lit "unsupported:content_negation")
  else
    match value.bind betweenQuotes? with
    | none => badContent
    | some raw => do
        let out ← scanContent none [] raw
        if out = [] then
          badContent
        else
          return (raw, out)

/-- `_modifier_value`. -/
def modifierValue (key : Str) (value : Option Str) :
    Parser ModifierValue :=
  if key = lit "nocase" then
    match value with
    | some _ => badOptionValue key
    | none => return .flag
  else
    match value with
    | none => badOptionValue key
    | some text =>
        if key = lit "distance" then do
          let negative := startsWith (lit "-") text
          match ← nonNegativeInt (if negative then text.tail else text) with
          | none => badOptionValue key
          | some number =>
              return .number (if negative then -number else number)
        else do
          match ← nonNegativeInt text with
          | none => badOptionValue key
          | some number =>
              if key = lit "within" ∧ number < 1 then
                badOptionValue key
              else
                return .number number

/--
A keyword argument of `ContentSpec(...)`; any other keyword is a `TypeError`,
and so is here a value of the wrong kind.
-/
def ContentSpec.setKeyword
    (content : ContentSpec)
    (key : Str)
    (value : ModifierValue) :
    Option ContentSpec :=
  match value with
  | .flag =>
      if key = lit "nocase" then some { content with nocase := true }
      else none
  | .number number =>
      if key = lit "offset" then
        some { content with offset := some number }
      else if key = lit "depth" then
        some { content with depth := some number }
      else if key = lit "distance" then
        some { content with distance := some number }
      else if key = lit "within" then
        some { content with within := some number }
      else
        none

/-- The content being built. -/
structure OpenContent where
  raw : Str
  pattern : Bytes
  mods : List (Str × ModifierValue)
  seen : List Str

/-- A content without keyword arguments. -/
def OpenContent.bare (current : OpenContent) : ContentSpec where
  raw := current.raw
  pattern := current.pattern
  nocase := false
  offset := none
  depth := none
  distance := none
  within := none

/-- `ContentSpec(raw, pattern, **mods)`. -/
def OpenContent.create (current : OpenContent) : Parser ContentSpec :=
  match current.mods.foldlM
      (fun content item => content.setKeyword item.1 item.2)
      current.bare with
  | none => throw .typeError
  | some content => make .contentSpec content

/-- The branch of the loop on a modifier of the content being built. -/
def OpenContent.modify
    (current : OpenContent)
    (key : Str)
    (value : Option Str) :
    Parser OpenContent :=
  if current.seen.contains key then
    raise (lit "invalid:duplicate_option:" ++ key)
  else do
    let value ← modifierValue key value
    return { current with
      mods := current.mods ++ [(key, value)]
      seen := current.seen ++ [key] }

/-- What the loop of `parse_contents_full` keeps. -/
structure ContentsState where
  contents : List ContentSpec
  current : Option OpenContent
  unsupported : Option Str

/-- The `close` of `parse_contents_full`. -/
def ContentsState.close (state : ContentsState) :
    Parser (List ContentSpec) :=
  match state.current with
  | none => return state.contents
  | some current => do
      let content ← current.create
      return state.contents ++ [content]

/-- The text after the first character; `None` cannot be sliced. -/
def afterFirst (value : Option Str) : Parser (Option Str) :=
  match value with
  | none => throw .typeError
  | some text => return some text.tail

/-- The content of an option, and why it is unsupported if it is negated. -/
def contentValue (value unsupported : Option Str) :
    Parser ((Str × Bytes) × Option Str) :=
  exceptRuleSyntaxError
    (do
      let decoded ← decodeContent value
      return (decoded, unsupported))
    fun reason =>
      if reason ≠ lit "unsupported:content_negation" then
        throw (.ruleSyntaxError reason)
      else do
        -- The negated text is checked too.
        let negated ← afterFirst value
        let decoded ← decodeContent negated
        return (decoded, unsupported.or (some reason))

/-- The loop body of `parse_contents_full`. -/
def contentsOption (state : ContentsState) (option : RawOption) :
    Parser ContentsState :=
  if option.1 = lit "content" then do
    let contents ← state.close
    let value ← contentValue option.2 state.unsupported
    return {
      contents
      current := some {
        raw := value.1.1
        pattern := value.1.2
        mods := []
        seen := [] }
      unsupported := value.2 }
  else if contentModifiers.contains option.1 then
    match state.current with
    | none => raise (lit "invalid:modifier_without_content")
    | some current => do
        let current ← current.modify option.1 option.2
        return { state with current := some current }
  else
    return state

/-- `parse_contents_full`. -/
def parseContentsFull (options : List RawOption) :
    Parser (List ContentSpec × Option Str) := do
  let state ← options.foldlM contentsOption {
    contents := []
    current := none
    unsupported := none }
  let contents ← state.close
  return (contents, state.unsupported)

/-! ### Flow, flags and dsize -/

/-- `_FLOW_ROLES`. -/
def flowRoles : List (Str × Str) :=
  [(lit "to_server", lit "to_server"),
    (lit "from_client", lit "to_server"),
    (lit "to_client", lit "to_client"),
    (lit "from_server", lit "to_client")]

/-- The role a flow item asks for. -/
def flowRoleOf? (item : Str) : Option Str :=
  List.lookup item flowRoles

/-- `parse_flow_value`. -/
def parseFlowValue (value : Option Str) : Parser FlowSpec :=
  match value with
  | none => badOptionValue (lit "flow")
  | some text =>
      if strip text = [] then
        badOptionValue (lit "flow")
      else
        let items := (PyText.splitAt (codePoint ',') text).map strip
        if [] ∈ items then
          badOptionValue (lit "flow")
        else
          let roles := (items.filterMap flowRoleOf?).dedup
          let states := (items.filter flowStateNames.contains).dedup
          if 1 < roles.length ∨ 1 < states.length then
            raise (lit "invalid:conflicting_flow")
          else
            match items.find? fun item =>
                (flowRoleOf? item).isNone &&
                  !flowStateNames.contains item with
            | some item => raise (lit "unsupported:flow_option:" ++ item)
            | none =>
                make .flowSpec {
                  role := roles.head?
                  state := states.head? }

/-- How the source names a mode. -/
def modeName : FlagsMode → Str
  | .exact => lit "exact"
  | .all => lit "all"
  | .any => lit "any"
  | .none => lit "none"

/-- The flags of a value, without its mode. -/
def flagLetters (mode : FlagsMode) (letters : Str) :
    Parser (Finset CodePoint) :=
  if letters = lit "0" then
    if modeName mode ≠ lit "exact" then
      badOptionValue (lit "flags")
    else
      return ∅
  else if letters = [] ∨
      (letters.any fun letter => !tcpFlagNames.contains letter) then
    badOptionValue (lit "flags")
  else
    return letters.toFinset

/-- `parse_flags_value`. -/
def parseFlagsValue (value : Option Str) : Parser FlagsSpec :=
  match value with
  | none => badOptionValue (lit "flags")
  | some text => do
      let (main, mask) := partition (codePoint ',') text
      let (mode, letters) := flagsMode main
      let flags ← flagLetters mode letters
      if mask.isSome then
        raise (lit "unsupported:flags_mask")
      else
        make .flagsSpec { mode := modeName mode, flags }

/-- How the source names a comparison. -/
def opName : DsizeOp → Str
  | .eq => lit "eq"
  | .lt => lit "lt"
  | .gt => lit "gt"
  | .range => lit "range"

/-- The second operand of a dsize, if it is there. -/
def secondOperand (text : Option Str) : Parser (Option Int) :=
  match text with
  | none => return none
  | some text => nonNegativeInt text

/-- `parse_dsize_value`. -/
def parseDsizeValue (value : Option Str) : Parser DsizeSpec :=
  match value with
  | none => badOptionValue (lit "dsize")
  | some text =>
      match dsizeParts? (strip text) with
      | none => badOptionValue (lit "dsize")
      | some (op, a, b) => do
          let lower ← nonNegativeInt a
          let upper ← secondOperand b
          match lower with
          | none => badOptionValue (lit "dsize")
          | some lower =>
              if b.isSome ∧ upper.all (· < lower) then
                badOptionValue (lit "dsize")
              else
                make .dsizeSpec { op := opName op, a := lower, b := upper }

/-- The loop body of `_single_option`. -/
def seenOnce
    (name : Str)
    (found : Option (Option Str))
    (option : RawOption) :
    Parser (Option (Option Str)) :=
  if option.1 = name then
    if found.isSome then
      raise (lit "invalid:duplicate_option:" ++ name)
    else
      return some option.2
  else
    return found

/-- `_single_option`. -/
def singleOption (options : List RawOption) (name : Str) :
    Parser (Option (Option Str)) :=
  options.foldlM (seenOnce name) none

/-- The parser of an option that may be given once. -/
def parseSingle
    {Spec : Type}
    (name : Str)
    (parseValue : Option Str → Parser Spec)
    (options : List RawOption) :
    Parser (Option Spec) := do
  match ← singleOption options name with
  | none => return none
  | some value => return some (← parseValue value)

/-- `parse_flow`. -/
def parseFlow : List RawOption → Parser (Option FlowSpec) :=
  parseSingle (lit "flow") parseFlowValue

/-- `parse_flags`. -/
def parseFlags : List RawOption → Parser (Option FlagsSpec) :=
  parseSingle (lit "flags") parseFlagsValue

/-- `parse_dsize`. -/
def parseDsize : List RawOption → Parser (Option DsizeSpec) :=
  parseSingle (lit "dsize") parseDsizeValue

end IntrusionDetection.Checked
