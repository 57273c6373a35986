import IntrusionDetection.EncodableTexts
import IntrusionDetection.IpAddress
import IntrusionDetection.OptionSplitting

namespace IntrusionDetection

open PyText

/-!
# Two ways to undo escapes

`unquote_string` and `decode_content` each read escapes with a loop of their
own, one making a text and one making bytes.  Where no hexadecimal block
begins, they accept the same values and read them alike; and hexadecimal
blocks are read as the bytes that they spell.
-/

/-- A value in quotation marks. -/
def quoted (raw : Str) : Str :=
  codePoint '"' :: raw ++ [codePoint '"']

/-- Every bar is the second character of a backslash pair. -/
def BarsEscaped (text : Str) : Prop :=
  ∀ position,
    text[position]? = some (codePoint '|') →
    isSecond text position = true

instance (text : Str) : Decidable (BarsEscaped text) :=
  decidable_of_iff
    (∀ position < text.length,
      text[position]? = some (codePoint '|') →
      isSecond text position = true)
    ⟨fun inside position isBar =>
      inside position (List.getElem?_eq_some_iff.mp isBar).1 isBar,
    fun escaped position _ => escaped position⟩

/-! ### Pairs of a text and of its rest -/

/-- The pairs behind a character that opens none. -/
theorem isSecond_cons
    {char : CodePoint}
    (noPair : char ≠ codePoint '\\')
    (rest : Str)
    (position : Nat) :
    isSecond (char :: rest) (position + 1) = isSecond rest position := by
  induction position with
  | zero =>
      simp [isSecond, noPair]
  | succ position inductionHypothesis =>
      rw [isSecond, inductionHypothesis, isSecond,
        List.getElem?_cons_succ]

/-- The pairs behind a pair. -/
theorem isSecond_pair
    (next : CodePoint)
    (later : Str)
    (position : Nat) :
    isSecond (codePoint '\\' :: next :: later) (position + 2) =
      isSecond later position := by
  induction position with
  | zero =>
      simp [isSecond]
  | succ position inductionHypothesis =>
      rw [isSecond, inductionHypothesis, isSecond,
        List.getElem?_cons_succ, List.getElem?_cons_succ]

/-- What follows a text does not matter to its pairs. -/
theorem isSecond_append
    {text : Str}
    (tail : Str)
    {position : Nat}
    (inside : position ≤ text.length) :
    isSecond (text ++ tail) position = isSecond text position := by
  induction position with
  | zero =>
      rfl
  | succ position inductionHypothesis =>
      rw [isSecond, isSecond, inductionHypothesis (Nat.le_of_succ_le inside),
        List.getElem?_append_left inside]

namespace BarsEscaped

/-- A character that opens no pair is no bar. -/
theorem of_cons
    {char : CodePoint}
    {rest : Str}
    (escaped : BarsEscaped (char :: rest))
    (noPair : char ≠ codePoint '\\') :
    char ≠ codePoint '|' ∧ BarsEscaped rest := by
  constructor
  · rintro rfl
    cases escaped 0 rfl
  · intro position isBar
    rw [← isSecond_cons noPair]
    exact escaped (position + 1) isBar

/-- Behind a pair every bar is escaped, too. -/
theorem of_pair
    {next : CodePoint}
    {later : Str}
    (escaped : BarsEscaped (codePoint '\\' :: next :: later)) :
    BarsEscaped later := by
  intro position isBar
  rw [← isSecond_pair next]
  exact escaped (position + 2) isBar

/-- Between quotation marks every bar is escaped, too. -/
theorem of_quoted
    {raw : Str}
    (escaped : BarsEscaped (quoted raw)) :
    BarsEscaped raw := by
  have rest : BarsEscaped (raw ++ [codePoint '"']) :=
    (of_cons escaped (by decide)).2
  intro position isBar
  have inside : position < raw.length :=
    (List.getElem?_eq_some_iff.mp isBar).1
  rw [← isSecond_append [codePoint '"'] (Nat.le_of_lt inside)]
  apply rest
  rw [List.getElem?_append_left inside]
  exact isBar

end BarsEscaped

/-! ### Encoding a text in parts -/

/-- Two texts are encoded one after the other. -/
theorem encodeText?_append (first second : Str) :
    encodeText? (first ++ second) =
      (encodeText? first).bind fun encoded =>
        (encodeText? second).map (encoded ++ ·) := by
  have bytes :
      utf8? (first ++ second) =
        (utf8? first).bind fun encoded =>
          (utf8? second).map (encoded ++ ·) := by
    unfold utf8?
    rw [List.mapM_append]
    cases first.mapM utf8Char? with
    | none =>
        rfl
    | some start =>
        cases second.mapM utf8Char? with
        | none =>
            rfl
        | some rest =>
            exact congrArg some List.flatten_append
  simp only [encodeText?, List.mem_append]
  by_cases inFirst : codePoint '\uFFFD' ∈ first
  · simp [inFirst]
  · by_cases inSecond : codePoint '\uFFFD' ∈ second
    · cases utf8? first <;> simp [inFirst, inSecond]
    · simp [inFirst, inSecond, bytes]

/-- A text can be encoded unless it has a surrogate or a replacement. -/
theorem encodeText?_isSome_iff {text : Str} :
    (encodeText? text).isSome = true ↔
      codePoint '\uFFFD' ∉ text ∧ IsScalarText text := by
  unfold encodeText?
  by_cases replaced : codePoint '\uFFFD' ∈ text
  · simp [replaced]
  · simp [replaced, utf8?_isSome_iff]

/-- Only the empty text is encoded as no bytes. -/
theorem encodeText?_eq_nil_iff
    {text : Str}
    {encoded : Bytes}
    (isEncoded : encodeText? text = some encoded) :
    encoded = [] ↔ text = [] := by
  unfold encodeText? at isEncoded
  split at isEncoded
  · cases isEncoded
  · have decoded := decodeUtf8?_of_utf8? isEncoded
    constructor
    · rintro rfl
      cases decoded
      rfl
    · rintro rfl
      cases isEncoded
      rfl

/-! ### Reading escapes -/

/-- What a backslash pair stands for. -/
def pairText (next : CodePoint) : Str :=
  if isEscapable next then [next] else [codePoint '\\', next]

/-- Both loops read a backslash pair at once. -/
theorem read_pair (next : CodePoint) (later : Str) (out : Bytes) :
    scanContent none out (codePoint '\\' :: next :: later) =
        (encodeText? (pairText next)).bind
          (fun encoded => scanContent none (out ++ encoded) later) ∧
      unescape? (codePoint '\\' :: next :: later) =
        (unescape? later).map (pairText next ++ ·) := by
  constructor
  · have notBar : codePoint '\\' ≠ codePoint '|' := by
      decide
    rw [scanContent.eq_def]
    simp only [notBar, if_false, if_true, pairText]
    cases encodeText?
      (if isEscapable next then [next] else [codePoint '\\', next]) <;> rfl
  · rw [unescape?.eq_def]
    simp only [if_true, pairText]
    cases isEscapable next <;> rfl

/-- Both loops read any other character alone. -/
theorem read_other
    {char : CodePoint}
    (notBackslash : char ≠ codePoint '\\')
    (notQuote : char ≠ codePoint '"')
    (notBar : char ≠ codePoint '|')
    (rest : Str)
    (out : Bytes) :
    scanContent none out (char :: rest) =
        (encodeText? [char]).bind
          (fun encoded => scanContent none (out ++ encoded) rest) ∧
      unescape? (char :: rest) = (unescape? rest).map ([char] ++ ·) := by
  constructor
  · rw [scanContent.eq_def]
    simp only [notBackslash, notQuote, notBar, if_false]
    cases encodeText? [char] <;> rfl
  · rw [unescape?.eq_def]
    simp only [notBackslash, notQuote, if_false]
    rfl

/-- A part that is read alike does not matter to reading the rest alike. -/
theorem bind_read
    {part rest : Str}
    {out : Bytes}
    (read :
      ∀ out,
        scanContent none out rest =
          (unescape? rest).bind fun unescaped =>
            (encodeText? unescaped).map (out ++ ·)) :
    ((encodeText? part).bind fun encoded =>
        scanContent none (out ++ encoded) rest) =
      ((unescape? rest).map (part ++ ·)).bind fun unescaped =>
        (encodeText? unescaped).map (out ++ ·) := by
  simp only [read]
  cases unescape? rest with
  | none =>
      cases encodeText? part <;> rfl
  | some unescaped =>
      simp only [Option.map_some, Option.bind_some, encodeText?_append]
      cases encodeText? part with
      | none =>
          rfl
      | some first =>
          cases encodeText? unescaped with
          | none =>
              rfl
          | some second =>
              exact congrArg some (List.append_assoc out first second)

/-- Without hexadecimal blocks the bytes are those of the unescaped text. -/
theorem scanContent_of_barsEscaped
    {text : Str}
    (escaped : BarsEscaped text)
    (out : Bytes) :
    scanContent none out text =
      (unescape? text).bind fun unescaped =>
        (encodeText? unescaped).map (out ++ ·) := by
  induction text using unescape?.induct generalizing out with
  | case1 =>
      simp [scanContent, unescape?, encodeText?, utf8?]
  | case2 =>
      rfl
  | case3 next later inductionHypothesis =>
      obtain ⟨scanned, unescaped⟩ := read_pair next later out
      rw [scanned, unescaped]
      exact bind_read (inductionHypothesis escaped.of_pair)
  | case4 rest notBackslash =>
      rw [scanContent.eq_def, unescape?.eq_def]
      simp [codePoint]
  | case5 char rest notBackslash notQuote inductionHypothesis =>
      obtain ⟨notBar, restEscaped⟩ := escaped.of_cons notBackslash
      obtain ⟨scanned, unescaped⟩ :=
        read_other notBackslash notQuote notBar rest out
      rw [scanned, unescaped]
      exact bind_read (inductionHypothesis restEscaped)

/-! ### Quoted values -/

/-- What is between the quotation marks of a value. -/
theorem betweenQuotes?_eq_some_iff {value raw : Str} :
    betweenQuotes? value = some raw ↔ value = quoted raw := by
  unfold betweenQuotes?
  constructor
  · intro between
    split at between
    · rename_i marks
      obtain ⟨long, isFirst, isLast⟩ := marks
      cases between
      cases value with
      | nil =>
          cases isFirst
      | cons first rest =>
          cases isFirst
          have notEmpty : rest ≠ [] := by
            rintro rfl
            exact absurd long (by decide)
          rw [List.getLast?_cons_of_ne_nil notEmpty] at isLast
          rw [quoted, List.tail_cons, List.cons_append,
            List.dropLast_append_getLast? _ isLast]
    · cases between
  · rintro rfl
    have long : 2 ≤ (quoted raw).length := by
      simp [quoted]
    have isLast : (quoted raw).getLast? = some (codePoint '"') := by
      rw [quoted, List.getLast?_append]
      rfl
    rw [if_pos ⟨long, rfl, isLast⟩]
    simp [quoted]

/-- A value is decoded by scanning what is between its quotation marks. -/
theorem decodeContent_ok_iff
    {value : Option Str}
    {decoded : DecodedContent} :
    decodeContent value = .ok decoded ↔
      value = some (quoted decoded.raw) ∧
        scanContent none [] decoded.raw = some decoded.pattern := by
  unfold decodeContent decodeQuoted?
  constructor
  · intro isDecoded
    split at isDecoded
    · cases isDecoded
    · split at isDecoded
      · cases isDecoded
      · rename_i found
        cases isDecoded
        split at found
        · cases found
        · rename_i raw between
          obtain ⟨text, rfl, inside⟩ := Option.bind_eq_some_iff.mp between
          split at found
          · cases found
          · rename_i pattern scanned
            obtain ⟨_, isResult⟩ := Option.dite_none_right_eq_some.mp found
            cases isResult
            exact ⟨congrArg some (betweenQuotes?_eq_some_iff.mp inside),
              scanned⟩
  · rintro ⟨rfl, scanned⟩
    have notNegated : isNegated (some (quoted decoded.raw)) = false :=
      rfl
    have between : betweenQuotes? (quoted decoded.raw) = some decoded.raw :=
      betweenQuotes?_eq_some_iff.mpr rfl
    rw [notNegated, Option.bind_some, between]
    simp only [Bool.false_eq_true, if_false, scanned]
    rw [dif_pos decoded.patternNotEmpty]

/-- Without hexadecimal blocks a value is decoded as it is unquoted. -/
theorem decodeContent_iff_unquoteString
    {value : Option Str}
    (escaped : ∀ text ∈ value, BarsEscaped text)
    {decoded : DecodedContent} :
    decodeContent value = .ok decoded ↔
      value = some (quoted decoded.raw) ∧
        ∃ unescaped,
          unquoteString value = some unescaped ∧
            encodeText? unescaped = some decoded.pattern := by
  rw [decodeContent_ok_iff]
  apply and_congr_right
  rintro rfl
  have between : betweenQuotes? (quoted decoded.raw) = some decoded.raw :=
    betweenQuotes?_eq_some_iff.mpr rfl
  rw [scanContent_of_barsEscaped (escaped _ rfl).of_quoted, unquoteString,
    Option.bind_some, between, Option.bind_some, Option.bind_eq_some_iff]
  simp

/-! ### Hexadecimal blocks -/

/-- A blank or a tab, as it may stand in a block. -/
def isGap (char : CodePoint) : Bool :=
  char = codePoint ' ' || char = codePoint '\t'

/-- The halves of bytes, the higher ones first. -/
def halvesOf (bytes : Bytes) : List Nat :=
  bytes.flatMap fun byte => [byte.toNat / 16, byte.toNat % 16]

/-- Digits in any letter case, with gaps anywhere, that spell some bytes. -/
def SpellsHex (inner : Str) (bytes : Bytes) : Prop :=
  lower (inner.filter fun char => !isGap char) =
    (halvesOf bytes).map IpAddress.hexDigit

instance (inner : Str) (bytes : Bytes) : Decidable (SpellsHex inner bytes) :=
  inferInstanceAs (Decidable (_ = _))

/-- A block between bars. -/
def hexBlock (inner : Str) : Str :=
  codePoint '|' :: inner ++ [codePoint '|']

/-- A digit is read in either letter case. -/
theorem hexDigit?_of_lower
    {char : CodePoint}
    {value : Nat}
    (small : value < 16)
    (isDigit : lowerChar char = IpAddress.hexDigit value) :
    hexDigit? char = some value := by
  have ascii :
      ∀ code < 0x80, ∀ value < 16,
        lowerChar (chr code) = IpAddress.hexDigit value →
        hexDigit? (chr code) = some value := by
    decide +kernel
  have digits :
      ∀ value < 16,
        (IpAddress.hexDigit value).val < 0x67 ∧
          IpAddress.hexDigit value ≠ codePoint 'k' := by
    decide
  have same : chr char.val = char :=
    Fin.ofNat_val_eq_self char
  by_cases isAscii : char.val < 0x80
  · rw [← same] at isDigit ⊢
    exact ascii char.val isAscii value small isDigit
  · -- Only the Kelvin sign becomes a letter, and `k` is no digit.
    obtain ⟨below, notK⟩ := digits value small
    rw [← isDigit] at below notK
    unfold lowerChar at below notK
    split at below
    · rename_i capital
      simp only [Bool.and_eq_true, decide_eq_true_eq] at capital
      omega
    · rename_i notCapital
      rw [if_neg notCapital] at notK
      split at below
      · rename_i kelvin
        exact (notK (if_pos kelvin)).elim
      · omega

/-- Digits are read one after the other. -/
theorem mapM_hexDigit?
    {values : List Nat}
    (small : ∀ value ∈ values, value < 16)
    {text : Str}
    (digits : lower text = values.map IpAddress.hexDigit) :
    text.mapM hexDigit? = some values := by
  induction text generalizing values with
  | nil =>
      cases values with
      | nil =>
          rfl
      | cons value rest =>
          cases digits
  | cons char later inductionHypothesis =>
      cases values with
      | nil =>
          cases digits
      | cons value rest =>
          rw [List.forall_mem_cons] at small
          obtain ⟨first, others⟩ := List.cons.inj digits
          rw [List.mapM_cons, hexDigit?_of_lower small.1 first,
            inductionHypothesis small.2 others]
          rfl

/-- In a block gaps are passed over and digits are collected. -/
theorem scanContent_digits
    {inner : Str}
    {values : List Nat}
    (read :
      (inner.filter fun char => !isGap char).mapM hexDigit? = some values)
    (digits : List Nat)
    (out : Bytes)
    (rest : Str) :
    scanContent (some digits) out (inner ++ rest) =
      scanContent (some (digits ++ values)) out rest := by
  induction inner generalizing digits values with
  | nil =>
      cases read
      simp
  | cons char inner inductionHypothesis =>
      rw [List.cons_append, scanContent.eq_def]
      cases gap : isGap char with
      | true =>
          rw [List.filter_cons_of_neg (by simp [gap])] at read
          have isSpace : char = codePoint ' ' ∨ char = codePoint '\t' := by
            simpa [isGap] using gap
          have notBar : char ≠ codePoint '|' := by
            rcases isSpace with rfl | rfl <;> decide
          have noDigit : hexDigit? char = none := by
            rcases isSpace with rfl | rfl <;> rfl
          simp only [notBar, if_false, noDigit, isSpace, if_true]
          exact inductionHypothesis read digits
      | false =>
          rw [List.filter_cons_of_pos (by simp [gap]), List.mapM_cons]
            at read
          obtain ⟨value, isDigit, read⟩ := Option.bind_eq_some_iff.mp read
          obtain ⟨others, areDigits, read⟩ :=
            Option.bind_eq_some_iff.mp read
          cases read
          have notBar : char ≠ codePoint '|' := by
            rintro rfl
            cases isDigit
          simp only [notBar, if_false, isDigit]
          rw [inductionHypothesis areDigits, List.append_assoc]
          rfl

/-- Bytes are made from their halves. -/
theorem bytesFromHex_halvesOf (bytes : Bytes) :
    bytesFromHex (halvesOf bytes) = bytes := by
  induction bytes with
  | nil =>
      rfl
  | cons byte rest inductionHypothesis =>
      have whole : 16 * (byte.toNat / 16) + byte.toNat % 16 = byte.toNat :=
        Nat.div_add_mod _ _
      simp only [halvesOf, List.flatMap_cons, List.cons_append,
        List.nil_append, bytesFromHex, whole, UInt8.ofNat_toNat]
      exact congrArg (byte :: ·) inductionHypothesis

/-- A block is read as the bytes that it spells. -/
theorem scanContent_hexBlock
    {inner : Str}
    {bytes : Bytes}
    (spelled : SpellsHex inner bytes)
    (out : Bytes)
    (rest : Str) :
    scanContent none out (hexBlock inner ++ rest) =
      scanContent none (out ++ bytes) rest := by
  have small : ∀ value ∈ halvesOf bytes, value < 16 := by
    intro value member
    obtain ⟨byte, _, isHalf⟩ := List.mem_flatMap.mp member
    have bound := byte.toNat_lt
    simp only [List.mem_cons, List.not_mem_nil, or_false] at isHalf
    omega
  have even : (halvesOf bytes).length % 2 = 0 := by
    simp [halvesOf]
  have opened :
      scanContent none out (hexBlock inner ++ rest) =
        scanContent (some []) out (inner ++ codePoint '|' :: rest) := by
    rw [hexBlock, scanContent.eq_def]
    simp
  rw [opened, scanContent_digits (mapM_hexDigit? small spelled),
    List.nil_append, scanContent.eq_def]
  simp only [if_true, even, bytesFromHex_halvesOf]

/-- Blocks are read as the bytes that they spell together. -/
theorem scanContent_hexBlocks
    {blocks : List (Str × Bytes)}
    (spelled : ∀ block ∈ blocks, SpellsHex block.1 block.2)
    (out : Bytes) :
    scanContent none out (blocks.flatMap fun block => hexBlock block.1) =
      some (out ++ blocks.flatMap Prod.snd) := by
  induction blocks generalizing out with
  | nil =>
      simp [scanContent]
  | cons block rest inductionHypothesis =>
      rw [List.forall_mem_cons] at spelled
      rw [List.flatMap_cons, scanContent_hexBlock spelled.1,
        inductionHypothesis spelled.2, List.flatMap_cons,
        List.append_assoc]

/-! ### Values and blocks -/

/-- When a value without hexadecimal blocks can be decoded. -/
theorem exists_decodeContent_iff
    {value : Option Str}
    (escaped : ∀ text ∈ value, BarsEscaped text) :
    (∃ decoded, decodeContent value = .ok decoded) ↔
      ∃ unescaped,
        unquoteString value = some unescaped ∧
          unescaped ≠ [] ∧
          codePoint '\uFFFD' ∉ unescaped ∧
          IsScalarText unescaped := by
  constructor
  · rintro ⟨decoded, isDecoded⟩
    obtain ⟨_, unescaped, isUnescaped, isEncoded⟩ :=
      (decodeContent_iff_unquoteString escaped).mp isDecoded
    have encodable := encodeText?_isSome_iff.mp
      (Option.isSome_of_eq_some isEncoded)
    refine ⟨unescaped, isUnescaped, ?_, encodable⟩
    exact mt (encodeText?_eq_nil_iff isEncoded).mpr decoded.patternNotEmpty
  · rintro ⟨unescaped, isUnescaped, notEmpty, encodable⟩
    obtain ⟨pattern, isEncoded⟩ := Option.isSome_iff_exists.mp
      (encodeText?_isSome_iff.mpr encodable)
    obtain ⟨raw, between, _⟩ := Option.bind_eq_some_iff.mp isUnescaped
    obtain ⟨text, rfl, inside⟩ := Option.bind_eq_some_iff.mp between
    have patternNotEmpty : pattern ≠ [] :=
      mt (encodeText?_eq_nil_iff isEncoded).mp notEmpty
    refine ⟨⟨raw, pattern, patternNotEmpty⟩, ?_⟩
    exact (decodeContent_iff_unquoteString escaped).mpr
      ⟨congrArg some (betweenQuotes?_eq_some_iff.mp inside), unescaped,
        isUnescaped, isEncoded⟩

/-- A text that is encoded by itself has its own bytes. -/
theorem utf8?_of_encodeText?
    {text : Str}
    {encoded : Bytes}
    (isEncoded : encodeText? text = some encoded) :
    utf8? text = some encoded := by
  unfold encodeText? at isEncoded
  split at isEncoded
  · cases isEncoded
  · exact isEncoded

/--
Where every bar is escaped, a value is decoded exactly if it is unquoted to a
text that is not empty and can be encoded, and its pattern is that text
encoded.  Hexadecimal blocks are decoded to the bytes they spell.
-/
theorem unescapers_agree :
    (∀ value : Option Str,
        (∀ text ∈ value, BarsEscaped text) →
        ((∃ decoded, decodeContent value = .ok decoded) ↔
            ∃ unescaped,
              unquoteString value = some unescaped ∧
                unescaped ≠ [] ∧
                codePoint '\uFFFD' ∉ unescaped ∧
                IsScalarText unescaped) ∧
          ∀ decoded unescaped,
            decodeContent value = .ok decoded →
            unquoteString value = some unescaped →
            utf8? unescaped = some decoded.pattern ∧
              value = some (quoted decoded.raw)) ∧
      ∀ blocks : List (Str × Bytes),
        (∀ block ∈ blocks, SpellsHex block.1 block.2) →
        blocks.flatMap Prod.snd ≠ [] →
        ∃ decoded,
          decodeContent
              (some (quoted (blocks.flatMap fun block =>
                hexBlock block.1))) =
            .ok decoded ∧
            decoded.pattern = blocks.flatMap Prod.snd := by
  constructor
  · intro value escaped
    refine ⟨exists_decodeContent_iff escaped, ?_⟩
    intro decoded unescaped isDecoded isUnescaped
    obtain ⟨whole, other, isOther, isEncoded⟩ :=
      (decodeContent_iff_unquoteString escaped).mp isDecoded
    cases isOther.symm.trans isUnescaped
    exact ⟨utf8?_of_encodeText? isEncoded, whole⟩
  · intro blocks spelled notEmpty
    refine ⟨⟨blocks.flatMap fun block => hexBlock block.1,
      blocks.flatMap Prod.snd, notEmpty⟩, ?_, rfl⟩
    exact decodeContent_ok_iff.mpr ⟨rfl, scanContent_hexBlocks spelled []⟩

/-- Escapes are read alike, and blocks in odd spelling as their bytes. -/
theorem unescapers_agree_on_odd_values :
    ((∃ decoded,
          decodeContent (some (lit "\"a\\|b\\;\\\"\"")) = .ok decoded) ↔
        ∃ unescaped,
          unquoteString (some (lit "\"a\\|b\\;\\\"\"")) =
              some unescaped ∧
            unescaped ≠ [] ∧
            codePoint '\uFFFD' ∉ unescaped ∧
            IsScalarText unescaped) ∧
      ∃ decoded,
        decodeContent
            (some (quoted
              (hexBlock (lit " 4 7\t45 ") ++ hexBlock (lit "fF0a")))) =
          .ok decoded ∧
          decoded.pattern = [0x47, 0x45, 0xFF, 0x0A] := by
  constructor
  · refine (unescapers_agree.1 _ ?_).1
    rintro text ⟨⟩
    decide
  · exact unescapers_agree.2
      [(lit " 4 7\t45 ", [0x47, 0x45]), (lit "fF0a", [0xFF, 0x0A])]
      (by decide) (by decide)

end IntrusionDetection
