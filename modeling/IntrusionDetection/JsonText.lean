import IntrusionDetection.PyText

/-!
# JSON texts

`render` writes a value on one line as `json.dumps` does with
`ensure_ascii=False`, and `parse` is a reader of JSON.  How fractions are
written is a parameter.
-/

namespace PyText

/-- A JSON value. -/
inductive Json (Number : Type) where
  | null
  | bool (value : Bool)
  | int (value : Int)
  | number (value : Number)
  | str (text : Str)
  | list (items : List (Json Number))
  | dict (items : List (Str × Json Number))

namespace Json

variable {Number : Type}

/-! ### Texts -/

/-- A hexadecimal digit. -/
def hexDigitChar (value : Nat) : CodePoint :=
  chr (if value < 10 then 0x30 + value else 0x57 + value)

/-- One character as it stands in quotes. -/
def escapeChar (char : CodePoint) : Str :=
  if char = codePoint '"' then lit "\\\""
  else if char = codePoint '\\' then lit "\\\\"
  else if char = codePoint '\n' then lit "\\n"
  else if char = codePoint '\r' then lit "\\r"
  else if char = codePoint '\t' then lit "\\t"
  else if char = chr 0x08 then lit "\\b"
  else if char = chr 0x0C then lit "\\f"
  else if char.val < 0x20 then
    lit "\\u00" ++
      [hexDigitChar (char.val / 16), hexDigitChar (char.val % 16)]
  else [char]

/-- A text in quotes. -/
def quoted (text : Str) : Str :=
  codePoint '"' :: (text.flatMap escapeChar ++ [codePoint '"'])

/-- The value of a hexadecimal digit. -/
def hexDigitValue? (char : CodePoint) : Option Nat :=
  if 0x30 ≤ char.val ∧ char.val ≤ 0x39 then some (char.val - 0x30)
  else if 0x41 ≤ char.val ∧ char.val ≤ 0x46 then some (char.val - 0x37)
  else if 0x61 ≤ char.val ∧ char.val ≤ 0x66 then some (char.val - 0x57)
  else none

/-- The character a short escape stands for. -/
def shortEscape? (char : CodePoint) : Option CodePoint :=
  if char = codePoint '"' ∨ char = codePoint '\\' ∨ char = codePoint '/' then
    some char
  else if char = codePoint 'n' then some (codePoint '\n')
  else if char = codePoint 'r' then some (codePoint '\r')
  else if char = codePoint 't' then some (codePoint '\t')
  else if char = codePoint 'b' then some (chr 0x08)
  else if char = codePoint 'f' then some (chr 0x0C)
  else none

/-- The character four hexadecimal digits stand for. -/
def longEscape? (digits : Str) : Option CodePoint :=
  (digits.mapM hexDigitValue?).map fun values =>
    chr (values.foldl (fun value digit => 16 * value + digit) 0)

/-- The character an escape stands for, and its length after the backslash. -/
def escaped? (text : Str) : Option (CodePoint × Nat) :=
  text.head?.bind fun kind =>
    if kind = codePoint 'u' then
      if 5 ≤ text.length then
        (longEscape? ((text.drop 1).take 4)).map fun char => (char, 5)
      else
        none
    else
      (shortEscape? kind).map fun char => (char, 1)

/--
Read up to the closing quote: the text, and what follows the quote.  The first
`skip` characters belong to an escape that has been read.
-/
def readQuotedFrom : Nat → Str → Option (Str × Str)
  | _, [] => none
  | skip + 1, _ :: rest => readQuotedFrom skip rest
  | 0, char :: rest =>
      if char = codePoint '"' then
        some ([], rest)
      else if char = codePoint '\\' then
        (escaped? rest).bind fun found =>
          (readQuotedFrom found.2 rest).map fun later =>
            (found.1 :: later.1, later.2)
      else if char.val < 0x20 then
        none
      else
        (readQuotedFrom 0 rest).map fun later =>
          (char :: later.1, later.2)

/-- Read the rest of a text in quotes. -/
def readQuoted (text : Str) : Option (Str × Str) :=
  readQuotedFrom 0 text

/-! ### Words -/

/-- May the character stand in a word, as numbers and `null` are? -/
def isWordChar (char : CodePoint) : Bool :=
  0x20 < char.val && char.val < 0x7F &&
    !(lit "\",:[]\x7b\x7d").contains char

/-- Is the text a word? -/
def IsWord (word : Str) : Prop :=
  word ≠ [] ∧ ∀ char ∈ word, isWordChar char = true

/-- The integer that a word denotes. -/
def intOf? (word : Str) : Option Int :=
  match word with
  | [] => none
  | sign :: digits =>
      if sign = codePoint '-' then
        if isAsciiDigits digits then some (-digitsValue digits) else none
      else if isAsciiDigits word then
        some (digitsValue word)
      else
        none

/-- The value of a word that is no fraction. -/
def knownWord? (word : Str) : Option (Json Number) :=
  if word = lit "null" then some .null
  else if word = lit "true" then some (.bool true)
  else if word = lit "false" then some (.bool false)
  else (intOf? word).map .int

/-- How fractions are written and read. -/
structure Numerals (Number : Type) where
  write : Number → Str
  read : Str → Option Number
  read_write : ∀ value, read (write value) = some value
  isWord_write : ∀ value, IsWord (write value)
  -- A fraction has a point or an exponent.
  notKnown_write :
    ∀ value, (knownWord? (write value) : Option (Json Number)) = none

/-! ### What a value is made of -/

mutual

/-- The texts of a value, keys included. -/
def texts : Json Number → List Str
  | .null => []
  | .bool _ => []
  | .int _ => []
  | .number _ => []
  | .str text => [text]
  | .list items => textsOfItems items
  | .dict items => textsOfPairs items

/-- The texts of the items of a list. -/
def textsOfItems : List (Json Number) → List Str
  | [] => []
  | item :: rest => texts item ++ textsOfItems rest

/-- The texts of the items of a dictionary. -/
def textsOfPairs : List (Str × Json Number) → List Str
  | [] => []
  | (key, value) :: rest => key :: texts value ++ textsOfPairs rest

end

/-! ### Writing -/

/-- Texts, separated by commas and ended by a closing sign. -/
def sequence (close : CodePoint) (texts : List Str) : Str :=
  (lit ", ").intercalate texts ++ [close]

section Writing

variable (numerals : Numerals Number)

mutual

/-- `json.dumps(value, ensure_ascii=False)`. -/
def render : Json Number → Str
  | .null => lit "null"
  | .bool value => if value then lit "true" else lit "false"
  | .int value => ofInt value
  | .number value => numerals.write value
  | .str text => quoted text
  | .list items =>
      codePoint '[' :: sequence (codePoint ']') (renderItems items)
  | .dict items =>
      chr 0x7B :: sequence (chr 0x7D) (renderPairs items)

/-- The items of a list. -/
def renderItems : List (Json Number) → List Str
  | [] => []
  | item :: rest => render item :: renderItems rest

/-- The items of a dictionary. -/
def renderPairs : List (Str × Json Number) → List Str
  | [] => []
  | (key, value) :: rest =>
      (quoted key ++ lit ": " ++ render value) :: renderPairs rest

end

end Writing

/-! ### Reading -/

/-- Is it a blank of JSON? -/
def isSpacing (char : CodePoint) : Bool :=
  (lit " \n\r\t").contains char

/-- Drop the blanks at the front. -/
def skipBlanks (text : Str) : Str :=
  text.dropWhile isSpacing

section Reading

variable {Item : Type}

/-- The items of a sequence that is not empty. -/
def readItems
    (readOne : Str → Option (Item × Str))
    (close : CodePoint) :
    Nat → Str → Option (List Item × Str)
  | 0, _ => none
  | fuel + 1, text => do
      let (first, after) ← readOne text
      match skipBlanks after with
      | [] => none
      | sign :: rest =>
          if sign = close then
            some ([first], rest)
          else if sign = codePoint ',' then do
            let (others, last) ← readItems readOne close fuel rest
            some (first :: others, last)
          else
            none

/-- The items of a sequence, after its opening sign. -/
def readSequence
    (readOne : Str → Option (Item × Str))
    (close : CodePoint)
    (fuel : Nat)
    (text : Str) :
    Option (List Item × Str) :=
  if (skipBlanks text).head? = some close then
    some ([], (skipBlanks text).tail)
  else
    readItems readOne close fuel text

/-- A key and its value. -/
def readPair
    (readOne : Str → Option (Item × Str))
    (text : Str) :
    Option ((Str × Item) × Str) :=
  match skipBlanks text with
  | [] => none
  | sign :: rest =>
      if sign = codePoint '"' then do
        let (key, after) ← readQuoted rest
        match skipBlanks after with
        | [] => none
        | colon :: rest =>
            if colon = codePoint ':' then do
              let (value, last) ← readOne rest
              some ((key, value), last)
            else
              none
      else
        none

variable (numerals : Numerals Number)

/-- Read a word. -/
def readWord (text : Str) : Option (Json Number × Str) :=
  let word := text.takeWhile isWordChar
  ((knownWord? word).or ((numerals.read word).map .number)).map fun value =>
    (value, text.dropWhile isWordChar)

/-- Read one value: the value, and what follows it. -/
def readValue : Nat → Str → Option (Json Number × Str)
  | 0, _ => none
  | fuel + 1, text =>
      match skipBlanks text with
      | [] => none
      | sign :: rest =>
          if sign = codePoint '"' then
            (readQuoted rest).map fun found => (.str found.1, found.2)
          else if sign = codePoint '[' then
            (readSequence (readValue fuel) (codePoint ']') fuel rest).map
              fun found => (.list found.1, found.2)
          else if sign = chr 0x7B then
            (readSequence (readPair (readValue fuel)) (chr 0x7D) fuel
              rest).map fun found => (.dict found.1, found.2)
          else
            readWord numerals (sign :: rest)

/-- Read a text that holds one value. -/
def parse (text : Str) : Option (Json Number) :=
  match readValue numerals text.length text with
  | none => none
  | some (value, rest) => if skipBlanks rest = [] then some value else none

end Reading

end Json

end PyText
