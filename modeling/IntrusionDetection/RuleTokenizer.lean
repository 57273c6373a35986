import IntrusionDetection.RuleReport

namespace IntrusionDetection

open PyText

/-!
# Rule tokenizer

The first step of the rule parser: splitting a rule line into the seven header
tokens and the options.  Every keyword falls into exactly one of the kinds the
later parsers tell apart.
-/

/-- Keywords of the identification options. -/
inductive IdentKeyword where
  | msg
  | sid
  | rev
  | classtype
  | priority
  deriving Repr, DecidableEq

/-- Keywords of the options that are only stored. -/
inductive PassiveKeyword where
  | reference
  | metadata
  | gid
  deriving Repr, DecidableEq

/-- The modifiers of a `content` option. -/
inductive ContentModifier where
  | nocase
  | offset
  | depth
  | distance
  | within
  deriving Repr, DecidableEq

/-- The keyword of an option; `other` is a keyword that is not supported. -/
inductive Keyword where
  | identification (keyword : IdentKeyword)
  | passive (keyword : PassiveKeyword)
  | content
  | modifier (modifier : ContentModifier)
  | flow
  | flags
  | dsize
  | other (key : Word)
  deriving DecidableEq

/-- How rules spell an identification keyword. -/
def IdentKeyword.word : IdentKeyword → Word
  | .msg => ⟨lit "msg", by decide⟩
  | .sid => ⟨lit "sid", by decide⟩
  | .rev => ⟨lit "rev", by decide⟩
  | .classtype => ⟨lit "classtype", by decide⟩
  | .priority => ⟨lit "priority", by decide⟩

/-- How rules spell a keyword that is only stored. -/
def PassiveKeyword.word : PassiveKeyword → Word
  | .reference => ⟨lit "reference", by decide⟩
  | .metadata => ⟨lit "metadata", by decide⟩
  | .gid => ⟨lit "gid", by decide⟩

/-- How rules spell a content modifier. -/
def ContentModifier.word : ContentModifier → Word
  | .nocase => ⟨lit "nocase", by decide⟩
  | .offset => ⟨lit "offset", by decide⟩
  | .depth => ⟨lit "depth", by decide⟩
  | .distance => ⟨lit "distance", by decide⟩
  | .within => ⟨lit "within", by decide⟩

namespace Keyword

/-- How rules spell a keyword. -/
def word : Keyword → Word
  | .identification keyword => keyword.word
  | .passive keyword => keyword.word
  | .content => ⟨lit "content", by decide⟩
  | .modifier keyword => keyword.word
  | .flow => ⟨lit "flow", by decide⟩
  | .flags => ⟨lit "flags", by decide⟩
  | .dsize => ⟨lit "dsize", by decide⟩
  | .other key => key

/-- `SUPPORTED_KEYWORDS`. -/
def supported : List Keyword :=
  [.identification .msg, .identification .sid, .identification .rev,
    .identification .classtype, .identification .priority,
    .passive .reference, .passive .metadata, .passive .gid,
    .content, .modifier .nocase, .modifier .offset, .modifier .depth,
    .modifier .distance, .modifier .within, .flow, .flags, .dsize]

/-- The keyword a rule spells this way; the letter case matters. -/
def ofWord (key : Word) : Keyword :=
  (supported.find? fun keyword => keyword.word = key).getD (other key)

/-- Reading a keyword does not lose its spelling. -/
theorem word_ofWord (key : Word) : (ofWord key).word = key := by
  simp only [ofWord]
  cases found : supported.find? fun keyword => keyword.word = key with
  | none =>
      rfl
  | some keyword =>
      simpa using List.find?_some found

end Keyword

/-- An option of a rule; a bare keyword has no value. -/
structure OptionPair where
  key : Keyword
  value : Option Str
  deriving DecidableEq

/-- The seven words of a rule header. -/
structure HeaderTokens where
  action : Str
  protocol : Str
  srcIp : Str
  srcPort : Str
  direction : Str
  dstIp : Str
  dstPort : Str
  deriving DecidableEq

/-- The tokens in their order. -/
def HeaderTokens.list (tokens : HeaderTokens) : List Str :=
  [tokens.action, tokens.protocol, tokens.srcIp, tokens.srcPort,
    tokens.direction, tokens.dstIp, tokens.dstPort]

/--
The scanner of `_split_options`: cut at every `;` outside quotes that is not
escaped.  An unterminated quote has no pieces.
-/
def splitPieces (inQuote : Bool) (current : Str) :
    Str → Option (List Str)
  | [] => if inQuote then none else some [current]
  | char :: rest =>
      if char = codePoint '\\' then
        match rest with
        | [] => splitPieces inQuote (current ++ [char]) []
        | next :: later =>
            -- An escaped character is never a delimiter or a quote.
            splitPieces inQuote (current ++ [char, next]) later
      else
        let inQuote := if char = codePoint '"' then !inQuote else inQuote
        if char = codePoint ';' ∧ inQuote = false then
          (splitPieces inQuote [] rest).map (current :: ·)
        else
          splitPieces inQuote (current ++ [char]) rest

/-- The option a piece is; an empty piece is none. -/
def parsePiece (piece : Str) : Except RuleReason (Option OptionPair) :=
  if strip piece = [] then
    .ok none
  else
    let (key, value) := partition (codePoint ':') (strip piece)
    match Word.of? (strip key) with
    | none => .error .malformedRule
    | some key =>
        .ok (some { key := .ofWord key, value := value.map strip })

/-- `_split_options`. -/
def splitOptions (body : Str) : Except RuleReason (List OptionPair) :=
  match splitPieces false [] body with
  | none => .error .malformedRule
  | some pieces => (pieces.mapM parsePiece).map List.reduceOption

/-- The header tokens a list of words is. -/
def HeaderTokens.of? : List Str → Option HeaderTokens
  | [action, protocol, srcIp, srcPort, direction, dstIp, dstPort] =>
      some { action, protocol, srcIp, srcPort, direction, dstIp, dstPort }
  | _ => none

/-- `tokenize_rule`. -/
def tokenizeRule (text : Str) :
    Except RuleReason (HeaderTokens × List OptionPair) :=
  let text := strip text
  match PyText.find? (codePoint '(') text, rfind? (codePoint ')') text with
  | some openIdx, some closeIdx =>
      if closeIdx < openIdx ∨ strip (text.drop (closeIdx + 1)) ≠ [] then
        .error .malformedRule
      else
        match splitOptions ((text.take closeIdx).drop (openIdx + 1)) with
        | .error reason => .error reason
        | .ok options =>
            match HeaderTokens.of? (words (text.take openIdx)) with
            | none => .error .badHeader
            | some tokens => .ok (tokens, options)
  | _, _ => .error .malformedRule

end IntrusionDetection
