import Mathlib.Data.List.Lex
import Mathlib.Data.List.DropRight
import Mathlib.Order.Fin.Basic

/-!
# Text as sequences of code points

Text values of the modelled program are sequences of Unicode code points,
surrogates included, compared code point by code point.  This module gives the
string operations the program uses: trimming, splitting, searching, decimal
digits, ASCII letter case and UTF-8 encoding.
-/

namespace PyText

/-- A Unicode code point; the surrogate range is part of it. -/
abbrev CodePoint := Fin 0x110000

/-- A text value. -/
abbrev Str := List CodePoint

instance : LawfulBEq CodePoint :=
  inferInstance

instance : LawfulBEq Str :=
  inferInstance

/-- A string of bytes. -/
abbrev Bytes := List UInt8

/-- The code point of a character. -/
def codePoint (char : Char) : CodePoint :=
  Fin.ofNat 0x110000 char.toNat

/-- The text of a string literal. -/
def lit (literal : String) : Str :=
  literal.toList.map codePoint

/-- `chr` of a value in its range. -/
def chr (value : Nat) : CodePoint :=
  Fin.ofNat 0x110000 value

/-! ### Blanks -/

/-- The characters `str.strip`, `str.split` and `\s` treat as blanks. -/
def isBlank (char : CodePoint) : Bool :=
  (0x09 ≤ char.val && char.val ≤ 0x0D) ||
    (0x1C ≤ char.val && char.val ≤ 0x20) ||
    char.val == 0x85 ||
    char.val == 0xA0 ||
    char.val == 0x1680 ||
    (0x2000 ≤ char.val && char.val ≤ 0x200A) ||
    char.val == 0x2028 ||
    char.val == 0x2029 ||
    char.val == 0x202F ||
    char.val == 0x205F ||
    char.val == 0x3000

/-- Drop the leading blanks. -/
def lstrip (text : Str) : Str :=
  text.dropWhile isBlank

/-- Drop the trailing blanks. -/
def rstrip (text : Str) : Str :=
  text.rdropWhile isBlank

/-- Drop the blanks at both ends. -/
def strip (text : Str) : Str :=
  rstrip (lstrip text)

/-! ### Splitting and searching -/

/-- The maximal blank-free words, in order. -/
def words (text : Str) : List Str :=
  (text.splitOnP isBlank).filter (· ≠ [])

/-- The pieces between the occurrences of a separator. -/
def splitAt (separator : CodePoint) (text : Str) : List Str :=
  text.splitOnP (· = separator)

/--
The text before the first occurrence of a separator and, when there is one,
the text after it.
-/
def partition (separator : CodePoint) (text : Str) : Str × Option Str :=
  (text.takeWhile (· ≠ separator),
    match text.dropWhile (· ≠ separator) with
    | [] => none
    | _ :: after => some after)

/-- Position of the first occurrence of a character. -/
def find? (char : CodePoint) (text : Str) : Option Nat :=
  text.findIdx? (· = char)

/-- Position of the last occurrence of a character. -/
def rfind? (char : CodePoint) (text : Str) : Option Nat :=
  (text.reverse.findIdx? (· = char)).map (text.length - 1 - ·)

/-- Does the text begin with the given one? -/
def startsWith (leading text : Str) : Bool :=
  leading.isPrefixOf text

/-! ### Decimal digits -/

/-- One of `0` to `9`. -/
def isAsciiDigit (char : CodePoint) : Bool :=
  0x30 ≤ char.val && char.val ≤ 0x39

/-- `s.isascii() and s.isdigit()`: a non-empty run of `0` to `9`. -/
def isAsciiDigits (text : Str) : Bool :=
  !text.isEmpty && text.all isAsciiDigit

/-- The number a run of decimal digits denotes. -/
def digitsValue (text : Str) : Nat :=
  text.foldl (fun value char => 10 * value + (char.val - 0x30)) 0

/-- Longest decimal text that `int` converts. -/
def intMaxStrDigits : Nat := 4300

/-- `int` on a run of decimal digits; `none` is its `ValueError`. -/
def intOfDigits? (text : Str) : Option Nat :=
  if text.length ≤ intMaxStrDigits then
    some (digitsValue text)
  else
    none

/-- Decimal text of an integer, as `str` and f-strings write it. -/
def ofInt (number : Int) : Str :=
  lit (toString number)

/-! ### Letter case -/

/-- The other characters whose upper-case form is made of ASCII letters. -/
def upperSpecials : List (Nat × Str) :=
  [(0xDF, lit "SS"), (0x131, lit "I"), (0x17F, lit "S"),
    (0xFB00, lit "FF"), (0xFB01, lit "FI"), (0xFB02, lit "FL"),
    (0xFB03, lit "FFI"), (0xFB04, lit "FFL"), (0xFB05, lit "ST"),
    (0xFB06, lit "ST")]

/--
Upper-case form of one character.  Every character whose upper-case form is
made of ASCII letters is mapped to them.  Any other character keeps its code
point: upper-cased text is compared with ASCII names, and the one that is kept,
the application protocol of a flow, is an ASCII name wherever a parser set it.
-/
def upperChar (char : CodePoint) : Str :=
  if 0x61 ≤ char.val ∧ char.val ≤ 0x7A then
    [Fin.ofNat 0x110000 (char.val - 0x20)]
  else
    match upperSpecials.find? fun special => special.1 = char.val with
    | some special => special.2
    | none => [char]

/-- `str.upper`, up to characters without an ASCII upper-case form. -/
def upper (text : Str) : Str :=
  text.flatMap upperChar

/--
Lower-case form of one character: the ASCII letters and the Kelvin sign, the
only characters whose lower-case form is an ASCII letter.
-/
def lowerChar (char : CodePoint) : CodePoint :=
  if 0x41 ≤ char.val && char.val ≤ 0x5A then
    Fin.ofNat 0x110000 (char.val + 0x20)
  else if char.val = 0x212A then codePoint 'k'
  else char

/-- `str.lower`, up to characters without an ASCII lower-case form. -/
def lower (text : Str) : Str :=
  text.map lowerChar

/-! ### UTF-8 -/

/-- UTF-8 bytes of one character; a surrogate has none. -/
def utf8Char? (char : CodePoint) : Option Bytes :=
  let value := char.val
  if value < 0x80 then
    some [UInt8.ofNat value]
  else if value < 0x800 then
    some [UInt8.ofNat (0xC0 + value / 0x40),
      UInt8.ofNat (0x80 + value % 0x40)]
  else if 0xD800 ≤ value && value ≤ 0xDFFF then
    none
  else if value < 0x10000 then
    some [UInt8.ofNat (0xE0 + value / 0x1000),
      UInt8.ofNat (0x80 + value / 0x40 % 0x40),
      UInt8.ofNat (0x80 + value % 0x40)]
  else
    some [UInt8.ofNat (0xF0 + value / 0x40000),
      UInt8.ofNat (0x80 + value / 0x1000 % 0x40),
      UInt8.ofNat (0x80 + value / 0x40 % 0x40),
      UInt8.ofNat (0x80 + value % 0x40)]

/-- `str.encode("utf-8")`; `none` is its `UnicodeEncodeError`. -/
def utf8? (text : Str) : Option Bytes :=
  (text.mapM utf8Char?).map List.flatten

/-! ### Facts about the operations -/

/-- The special upper-case forms are made of capital ASCII letters. -/
private theorem upperSpecials_capital :
    ∀ special ∈ upperSpecials,
      0x5A < special.1 ∧
        (special.2.all fun char => char.val ≤ 0x5A) := by
  decide

/-- A capital ASCII letter is its own upper-case form. -/
theorem upperChar_of_le
    {char : CodePoint}
    (capital : char.val ≤ 0x5A) :
    upperChar char = [char] := by
  have notSpecial :
      (upperSpecials.find? fun special => special.1 = char.val) =
        none := by
    rw [List.find?_eq_none]
    intro special member same
    have above := (upperSpecials_capital special member).1
    simp only [decide_eq_true_eq] at same
    omega
  rw [upperChar, if_neg (by omega), notSpecial]

/-- Upper-casing text without small letters changes nothing. -/
theorem upper_of_le
    {text : Str}
    (capital : ∀ char ∈ text, char.val ≤ 0x5A) :
    upper text = text := by
  induction text with
  | nil =>
      rfl
  | cons char rest inductionHypothesis =>
      have head := upperChar_of_le (capital char (by simp))
      have tail := inductionHypothesis
        fun later member => capital later (by simp [member])
      simp only [upper, List.flatMap_cons, head] at tail ⊢
      rw [tail]
      rfl

/-- Upper-casing an upper-cased character changes nothing. -/
theorem upper_upperChar (char : CodePoint) :
    upper (upperChar char) = upperChar char := by
  by_cases letter : 0x61 ≤ char.val ∧ char.val ≤ 0x7A
  · have value :
        (Fin.ofNat 0x110000 (char.val - 0x20)).val = char.val - 0x20 := by
      rw [Fin.val_ofNat]
      omega
    rw [upperChar, if_pos letter]
    apply upper_of_le
    intro other member
    rw [List.mem_singleton] at member
    subst member
    omega
  · cases found :
        upperSpecials.find? fun special => special.1 = char.val with
    | some special =>
        rw [upperChar, if_neg letter, found]
        have capital := (upperSpecials_capital special
          (List.mem_of_find?_eq_some found)).2
        exact upper_of_le (by simpa using capital)
    | none =>
        have image : upperChar char = [char] := by
          rw [upperChar, if_neg letter, found]
        rw [image, upper, List.flatMap_cons, List.flatMap_nil, image]
        rfl

/-- Lower-casing first changes no upper-case form but that of the Kelvin sign. -/
theorem upperChar_lowerChar
    {char : CodePoint}
    (notK : lowerChar char ≠ codePoint 'k') :
    upperChar (lowerChar char) = upperChar char := by
  simp only [lowerChar] at notK ⊢
  split <;> rename_i capital
  · simp only [Bool.and_eq_true, decide_eq_true_eq] at capital
    have value :
        (Fin.ofNat 0x110000 (char.val + 0x20)).val = char.val + 0x20 := by
      rw [Fin.val_ofNat]
      omega
    rw [upperChar_of_le capital.2, upperChar, if_pos (by omega), value,
      Nat.add_sub_cancel]
    simp
  · split <;> rename_i kelvin
    · simp [kelvin] at notK
    · rfl

/-- Lower-casing first does not change the upper-case form of a text. -/
theorem upper_lower
    {text : Str}
    (noK : codePoint 'k' ∉ lower text) :
    upper (lower text) = upper text := by
  induction text with
  | nil =>
      rfl
  | cons char rest inductionHypothesis =>
      simp only [lower, List.map_cons, List.mem_cons, not_or] at noK
      have head := upperChar_lowerChar (Ne.symm noK.1)
      have tail := inductionHypothesis noK.2
      simp only [upper, lower, List.map_cons, List.flatMap_cons, head]
        at tail ⊢
      rw [tail]

/-- Upper-casing is idempotent. -/
theorem upper_upper (text : Str) : upper (upper text) = upper text := by
  induction text with
  | nil =>
      rfl
  | cons char rest inductionHypothesis =>
      have head := upper_upperChar char
      simp only [upper, List.flatMap_cons, List.flatMap_append]
        at inductionHypothesis head ⊢
      rw [inductionHypothesis, head]

/-- A special upper-case form contains one of these letters. -/
private theorem upperSpecials_letters :
    ∀ special ∈ upperSpecials,
      special.2.any fun char => (lit "FIS").contains char := by
  decide

/-- A text is ASCII if its upper-case form is, and has no special letter. -/
theorem ascii_of_upper
    {text : Str}
    (ascii : ∀ char ∈ upper text, char.val < 0x80 ∧ char ∉ lit "FIS") :
    ∀ char ∈ text, char.val < 0x80 := by
  intro char member
  have image :
      ∀ capital ∈ upperChar char,
        capital.val < 0x80 ∧ capital ∉ lit "FIS" :=
    fun capital isImage =>
      ascii capital (List.mem_flatMap.mpr ⟨char, member, isImage⟩)
  by_cases letter : 0x61 ≤ char.val ∧ char.val ≤ 0x7A
  · omega
  · rw [upperChar, if_neg letter] at image
    split at image
    · rename_i special found
      obtain ⟨capital, isImage, isLetter⟩ := List.any_eq_true.mp
        (upperSpecials_letters special
          (List.mem_of_find?_eq_some found))
      exact ((image capital isImage).2
        (List.contains_iff_mem.mp isLetter)).elim
    · exact (image char List.mem_cons_self).1

/-- Lower-casing undoes upper-casing an ASCII character. -/
theorem lower_upperChar
    {char : CodePoint}
    (ascii : char.val < 0x80) :
    lower (upperChar char) = [lowerChar char] := by
  have all :
      ∀ value < 0x80,
        lower (upperChar (chr value)) = [lowerChar (chr value)] := by
    decide
  have same : chr char.val = char :=
    Fin.ofNat_val_eq_self char
  rw [← same]
  exact all char.val ascii

/-- Lower-casing undoes upper-casing an ASCII text. -/
theorem lower_upper
    {text : Str}
    (ascii : ∀ char ∈ text, char.val < 0x80) :
    lower (upper text) = lower text := by
  induction text with
  | nil =>
      rfl
  | cons char rest inductionHypothesis =>
      rw [List.forall_mem_cons] at ascii
      have head := lower_upperChar ascii.1
      have tail := inductionHypothesis ascii.2
      simp only [lower, upper, List.flatMap_cons, List.map_append,
        List.map_cons] at head tail ⊢
      rw [head, tail]
      rfl

/-! ### Decimal text -/

/-- Different characters have different code points. -/
theorem codePoint_injective : Function.Injective codePoint := by
  intro first second same
  have values := congrArg Fin.val same
  have firstBound : first.toNat < 0x110000 := by
    rcases first.valid with below | ⟨_, below⟩
    · exact Nat.lt_trans below (by omega)
    · exact below
  have secondBound : second.toNat < 0x110000 := by
    rcases second.valid with below | ⟨_, below⟩
    · exact Nat.lt_trans below (by omega)
    · exact below
  simp only [codePoint, Fin.val_ofNat] at values
  rw [Nat.mod_eq_of_lt firstBound, Nat.mod_eq_of_lt secondBound] at values
  exact Char.ext (UInt32.toNat_inj.mp values)

/-- Decimal text of a natural number. -/
theorem ofInt_ofNat (number : Nat) :
    ofInt (.ofNat number) =
      (Nat.toDigits 10 number).map codePoint := by
  simp only [ofInt, lit]
  rw [← Nat.toList_repr]
  rfl

/-- Decimal text of a negative number. -/
theorem ofInt_negSucc (number : Nat) :
    ofInt (.negSucc number) =
      codePoint '-' ::
        (Nat.toDigits 10 (number + 1)).map codePoint := by
  simp only [ofInt, lit]
  rw [← Nat.toList_repr]
  have unfolded :
      toString (Int.negSucc number) = "-" ++ (number + 1).repr :=
    rfl
  rw [unfolded, String.toList_append, List.map_append]
  rfl

/-- Decimal text consists of digits and a minus sign. -/
theorem codePoint_notMem_ofInt
    {char : Char}
    (notDigit : char.isDigit = false)
    (notMinus : char ≠ '-')
    (number : Int) :
    codePoint char ∉ ofInt number := by
  have notInDigits :
      ∀ value, codePoint char ∉ (Nat.toDigits 10 value).map codePoint := by
    intro value member
    obtain ⟨digit, isMember, same⟩ := List.mem_map.mp member
    have isDigit :=
      Nat.isDigit_of_mem_toDigits (by omega) (by omega) isMember
    rw [codePoint_injective same, notDigit] at isDigit
    cases isDigit
  cases number with
  | ofNat value =>
      rw [ofInt_ofNat]
      exact notInDigits value
  | negSucc value =>
      rw [ofInt_negSucc, List.mem_cons, not_or]
      exact ⟨fun same => notMinus (codePoint_injective same),
        notInDigits (value + 1)⟩

/-- Decimal digits determine the number. -/
theorem toDigits_injective
    {first second : Nat}
    (same :
      (Nat.toDigits 10 first).map codePoint =
        (Nat.toDigits 10 second).map codePoint) :
    first = second := by
  have digits := List.map_injective_iff.mpr codePoint_injective same
  have value := congrArg (Nat.ofDigitChars 10 · 0) digits
  simpa only [Nat.ofDigitChars_ten_toDigits] using value

/-- Different numbers have different decimal texts. -/
theorem ofInt_injective : Function.Injective ofInt := by
  have noMinus :
      ∀ value, codePoint '-' ∉ (Nat.toDigits 10 value).map codePoint := by
    intro value member
    obtain ⟨digit, isMember, same⟩ := List.mem_map.mp member
    have isDigit :=
      Nat.isDigit_of_mem_toDigits (by omega) (by omega) isMember
    rw [codePoint_injective same] at isDigit
    cases isDigit
  intro first second same
  cases first with
  | ofNat left =>
      cases second with
      | ofNat right =>
          rw [ofInt_ofNat, ofInt_ofNat] at same
          rw [toDigits_injective same]
      | negSucc right =>
          rw [ofInt_ofNat, ofInt_negSucc] at same
          exact (noMinus left (by simp [same])).elim
  | negSucc left =>
      cases second with
      | ofNat right =>
          rw [ofInt_ofNat, ofInt_negSucc] at same
          exact (noMinus right (by simp [← same])).elim
      | negSucc right =>
          rw [ofInt_negSucc, ofInt_negSucc, List.cons.injEq] at same
          have sameSucc := toDigits_injective same.2
          omega

/-- A text is cut in one way at the first occurrence of a separator. -/
theorem append_inj_of_first
    {separator : CodePoint}
    {left right leftRest rightRest : Str}
    (leftFree : separator ∉ left)
    (rightFree : separator ∉ right)
    (same :
      left ++ separator :: leftRest = right ++ separator :: rightRest) :
    left = right ∧ leftRest = rightRest := by
  induction left generalizing right with
  | nil =>
      cases right with
      | nil =>
          simpa using same
      | cons char rest =>
          simp only [List.nil_append, List.cons_append,
            List.cons.injEq] at same
          exact (rightFree (by simp [same.1])).elim
  | cons char rest inductionHypothesis =>
      simp only [List.mem_cons, not_or] at leftFree
      cases right with
      | nil =>
          simp only [List.nil_append, List.cons_append,
            List.cons.injEq] at same
          exact (leftFree.1 same.1.symm).elim
      | cons other later =>
          simp only [List.mem_cons, not_or] at rightFree
          simp only [List.cons_append, List.cons.injEq] at same
          obtain ⟨front, back⟩ :=
            inductionHypothesis leftFree.2 rightFree.2 same.2
          exact ⟨by rw [same.1, front], back⟩

/-- A text is cut in one way at the last occurrence of a separator. -/
theorem append_inj_of_last
    {separator : CodePoint}
    {left right leftRest rightRest : Str}
    (leftFree : separator ∉ leftRest)
    (rightFree : separator ∉ rightRest)
    (same :
      left ++ separator :: leftRest = right ++ separator :: rightRest) :
    left = right ∧ leftRest = rightRest := by
  have reversed :
      leftRest.reverse ++ separator :: left.reverse =
        rightRest.reverse ++ separator :: right.reverse := by
    simpa using congrArg List.reverse same
  obtain ⟨rests, fronts⟩ :=
    append_inj_of_first (by simpa using leftFree)
      (by simpa using rightFree) reversed
  exact ⟨List.reverse_injective fronts, List.reverse_injective rests⟩

end PyText
