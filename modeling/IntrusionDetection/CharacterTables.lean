import IntrusionDetection.PyText

/-!
# The character tables of the interpreter

Lower-case forms and digits of all scripts come from tables of the
interpreter.  They are a parameter; on ASCII they are what everyone expects.
-/

namespace PyText

/-- What the interpreter knows about characters. -/
structure CharacterTables where
  -- `str.lower`
  lower : Str → Str
  -- `str.isdigit` of one character
  isDigit : CodePoint → Bool
  -- The value of a decimal digit of any script.
  decimal : CodePoint → Option Nat
  lower_ascii :
    ∀ text : Str,
      (∀ char ∈ text, char.val < 0x80) → lower text = PyText.lower text
  isDigit_ascii :
    ∀ char : CodePoint, char.val < 0x80 → isDigit char = isAsciiDigit char
  decimal_ascii :
    ∀ char : CodePoint,
      char.val < 0x80 →
      decimal char =
        if isAsciiDigit char then some (char.val - 0x30) else none

namespace CharacterTables

/-- Tables that know ASCII and nothing else. -/
def ascii : CharacterTables where
  lower := PyText.lower
  isDigit := isAsciiDigit
  decimal := fun char =>
    if isAsciiDigit char then some (char.val - 0x30) else none
  lower_ascii := fun _ _ => rfl
  isDigit_ascii := fun _ _ => rfl
  decimal_ascii := fun _ _ => rfl

variable (tables : CharacterTables)

/-- `str.isdigit`. -/
def isDigits (text : Str) : Bool :=
  !text.isEmpty && text.all tables.isDigit

/--
`int` of a text without blanks at its ends: a sign and decimal digits, single
underscores between them.  `none` is its `ValueError`.
-/
def int? (text : Str) : Option Int :=
  let (sign, digits) : Int × Str :=
    match text with
    | [] => (1, [])
    | first :: rest =>
        if first = codePoint '+' then (1, rest)
        else if first = codePoint '-' then (-1, rest)
        else (1, text)
  let runs := splitAt (codePoint '_') digits
  if runs.all (fun run => !run.isEmpty &&
      run.all fun char => (tables.decimal char).isSome) &&
      runs.flatten.length ≤ intMaxStrDigits then
    some
      (sign * (runs.flatten.foldl
        (fun value char => 10 * value + (tables.decimal char).getD 0) 0 :
          Nat))
  else
    none

/-- The text of the `ValueError` that `int` raises on digits. -/
def intError (text : Str) : Str :=
  let known := text.takeWhile fun char => (tables.decimal char).isSome
  if intMaxStrDigits < known.length then
    lit "Exceeds the limit (4300 digits) for integer string conversion: " ++
      lit "value has " ++ ofInt known.length ++
      lit " digits; use sys.set_int_max_str_digits() to increase the limit"
  else
    lit "invalid literal for int() with base 10: " ++
      (lit "'" ++ text ++ lit "'").take 200

example : ascii.int? (lit "-1_000") = some (-1000) := by
  decide

end CharacterTables

end PyText
