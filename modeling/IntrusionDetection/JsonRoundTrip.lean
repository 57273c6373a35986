import IntrusionDetection.EncodableTexts
import IntrusionDetection.JsonText
import Mathlib.Tactic.IntervalCases

/-!
# What is written as JSON is read back

A reader that is given a rendered value, and anything behind it that does not
continue a word, returns the value and stops where it ends.  A rendered value
holds no control character, so it is one line.
-/

namespace PyText

namespace Json

variable {Number : Type}

/-! ### Texts -/

/-- A hexadecimal digit has its value. -/
theorem hexDigitValue?_hexDigitChar
    {value : Nat}
    (small : value < 16) :
    hexDigitValue? (hexDigitChar value) = some value := by
  interval_cases value <;> rfl

/-- A long escape that was written is read back. -/
theorem longEscape?_of_lt
    {char : CodePoint}
    (control : char.val < 0x20) :
    longEscape? [codePoint '0', codePoint '0',
        hexDigitChar (char.val / 16), hexDigitChar (char.val % 16)] =
      some char := by
  have zero : hexDigitValue? (codePoint '0') = some 0 :=
    rfl
  have high := hexDigitValue?_hexDigitChar
    (show char.val / 16 < 16 by omega)
  have low := hexDigitValue?_hexDigitChar
    (show char.val % 16 < 16 by omega)
  have value : 16 * (char.val / 16) + char.val % 16 = char.val :=
    Nat.div_add_mod _ _
  simp [longEscape?, zero, high, low, value, chr]

/-- An escape is read as the character it stands for. -/
theorem readQuoted_escape
    {char : CodePoint}
    {escape : Str}
    (rest : Str)
    (decoded : escaped? (escape ++ rest) = some (char, escape.length)) :
    readQuoted (codePoint '\\' :: (escape ++ rest)) =
      (readQuoted rest).map fun found => (char :: found.1, found.2) := by
  have notQuote : codePoint '\\' ≠ codePoint '"' := by
    decide
  have skips :
      ∀ escape : Str,
        readQuotedFrom escape.length (escape ++ rest) =
          readQuotedFrom 0 rest := by
    intro escape
    induction escape with
    | nil =>
        rfl
    | cons first later inductionHypothesis =>
        rw [List.length_cons, List.cons_append, readQuotedFrom,
          inductionHypothesis]
  rw [readQuoted, readQuotedFrom, if_neg notQuote, if_pos rfl, decoded,
    Option.bind_some]
  dsimp only
  rw [skips, readQuoted]

/-- A character in quotes is read back. -/
theorem readQuoted_escapeChar (char : CodePoint) (rest : Str) :
    readQuoted (escapeChar char ++ rest) =
      (readQuoted rest).map fun found => (char :: found.1, found.2) := by
  have short :
      ∀ kind decoded,
        char = decoded → kind ≠ codePoint 'u' →
          shortEscape? kind = some decoded →
            readQuoted ([codePoint '\\', kind] ++ rest) =
              (readQuoted rest).map fun found =>
                (char :: found.1, found.2) := by
    rintro kind _ rfl notLong decoded
    apply @readQuoted_escape char [kind] rest
    rw [escaped?, List.cons_append, List.head?_cons, Option.bind_some,
      if_neg notLong, decoded]
    rfl
  unfold escapeChar
  split
  · exact short (codePoint '"') _ ‹_› (by decide) rfl
  · split
    · exact short (codePoint '\\') _ ‹_› (by decide) rfl
    · split
      · exact short (codePoint 'n') _ ‹_› (by decide) rfl
      · split
        · exact short (codePoint 'r') _ ‹_› (by decide) rfl
        · split
          · exact short (codePoint 't') _ ‹_› (by decide) rfl
          · split
            · exact short (codePoint 'b') _ ‹_› (by decide) rfl
            · split
              · exact short (codePoint 'f') _ ‹_› (by decide) rfl
              · split
                · rename_i control
                  apply @readQuoted_escape char
                    [codePoint 'u', codePoint '0', codePoint '0',
                      hexDigitChar (char.val / 16),
                      hexDigitChar (char.val % 16)] rest
                  have long := longEscape?_of_lt control
                  simp [escaped?, long]
                · rename_i notQuote notEscape _ _ _ _ _ notControl
                  rw [List.singleton_append, readQuoted, readQuotedFrom,
                    if_neg notQuote, if_neg notEscape,
                    if_neg notControl, readQuoted]

/-- A text in quotes is read back. -/
theorem readQuoted_text (text rest : Str) :
    readQuoted (text.flatMap escapeChar ++ codePoint '"' :: rest) =
      some (text, rest) := by
  induction text with
  | nil =>
      rw [List.flatMap_nil, List.nil_append, readQuoted, readQuotedFrom,
        if_pos rfl]
  | cons char later inductionHypothesis =>
      rw [List.flatMap_cons, List.append_assoc, readQuoted_escapeChar,
        inductionHypothesis, Option.map_some]

/-! ### Words -/

/-- Does what follows end a word? -/
def EndsWord (rest : Str) : Prop :=
  ∀ char ∈ rest.head?, isWordChar char = false

/-- Is it a word? -/
theorem isWord_of_all
    {word : Str}
    (nonempty : word ≠ [])
    (chars : word.all isWordChar = true) :
    IsWord word :=
  ⟨nonempty, List.all_eq_true.mp chars⟩

/-- A word is cut where it ends. -/
theorem takeWhile_word
    {word rest : Str}
    (isWord : IsWord word)
    (ends : EndsWord rest) :
    (word ++ rest).takeWhile isWordChar = word ∧
      (word ++ rest).dropWhile isWordChar = rest := by
  rw [List.takeWhile_append_of_pos isWord.2,
    List.dropWhile_append_of_pos isWord.2]
  cases rest with
  | nil =>
      exact ⟨List.append_nil _, rfl⟩
  | cons char rest =>
      have stops := ends char rfl
      rw [List.takeWhile_cons_of_neg (by simp [stops]),
        List.dropWhile_cons_of_neg (by simp [stops])]
      exact ⟨List.append_nil _, rfl⟩

/-- The code of a decimal digit. -/
theorem code_of_isDigit
    {digit : Char}
    (isDigit : digit.isDigit = true) :
    (codePoint digit).val = digit.toNat ∧
      isAsciiDigit (codePoint digit) = true := by
  obtain ⟨low, high⟩ := Bool.and_eq_true_iff.mp isDigit
  have least : 48 ≤ digit.toNat := of_decide_eq_true low
  have most : digit.toNat ≤ 57 := of_decide_eq_true high
  have value : (codePoint digit).val = digit.toNat :=
    Nat.mod_eq_of_lt (Nat.lt_of_le_of_lt most (by decide))
  refine ⟨value, ?_⟩
  simp only [isAsciiDigit, value, Bool.and_eq_true, decide_eq_true_eq]
  exact ⟨least, most⟩

/-- The value of decimal digits, read from the left. -/
theorem foldl_digits
    {digits : List Char}
    (areDigits : ∀ digit ∈ digits, digit.isDigit = true)
    (start : Nat) :
    (digits.map codePoint).foldl
        (fun value char => 10 * value + (char.val - 0x30)) start =
      Nat.ofDigitChars 10 digits start := by
  induction digits generalizing start with
  | nil =>
      rfl
  | cons digit rest inductionHypothesis =>
      rw [List.forall_mem_cons] at areDigits
      rw [List.map_cons, List.foldl_cons, Nat.ofDigitChars_cons,
        inductionHypothesis areDigits.2, (code_of_isDigit areDigits.1).1]
      rfl

/-- The decimal digits of a number. -/
theorem digits_of_toDigits (number : Nat) :
    isAsciiDigits ((Nat.toDigits 10 number).map codePoint) = true ∧
      digitsValue ((Nat.toDigits 10 number).map codePoint) = number := by
  have areDigits :
      ∀ digit ∈ Nat.toDigits 10 number, digit.isDigit = true :=
    fun digit member =>
      Nat.isDigit_of_mem_toDigits (by decide) (by decide) member
  constructor
  · rw [isAsciiDigits, List.isEmpty_map, List.all_map, Bool.and_eq_true,
      Bool.not_eq_true', List.isEmpty_eq_false_iff, List.all_eq_true]
    exact ⟨Nat.toDigits_ne_nil,
      fun digit member => (code_of_isDigit (areDigits digit member)).2⟩
  · rw [digitsValue, foldl_digits areDigits, Nat.ofDigitChars_ten_toDigits]

/-- Digits may stand in a word. -/
theorem isWordChar_of_isAsciiDigit
    {char : CodePoint}
    (isDigit : isAsciiDigit char = true) :
    isWordChar char = true := by
  have signs :
      (lit "\",:[]\x7b\x7d").all (fun sign => !isAsciiDigit sign) = true :=
    rfl
  have inRange : 0x20 < char.val ∧ char.val < 0x7F := by
    simp only [isAsciiDigit, Bool.and_eq_true, decide_eq_true_eq] at isDigit
    omega
  rw [isWordChar, Bool.and_eq_true, Bool.and_eq_true, decide_eq_true_eq,
    decide_eq_true_eq, Bool.not_eq_true', List.contains_eq_mem,
    decide_eq_false_iff_not]
  refine ⟨inRange, fun member => ?_⟩
  have notDigit := List.all_eq_true.mp signs char member
  rw [isDigit] at notDigit
  cases notDigit

/-- A word of digits, with a sign or without one, is none of the names. -/
theorem knownWord?_of_digits
    {word : Str}
    (notNamed :
      ∀ char ∈ word.head?, char ≠ codePoint 'n' ∧ char ≠ codePoint 't' ∧
        char ≠ codePoint 'f') :
    (knownWord? word : Option (Json Number)) = (intOf? word).map .int := by
  have differs :
      ∀ {name : Str} {first : CodePoint},
        name.head? = some first →
          (∀ char ∈ word.head?, char ≠ first) → word ≠ name := by
    rintro name first isFirst notFirst rfl
    exact notFirst first isFirst rfl
  have notNull : word ≠ lit "null" :=
    differs rfl fun char member => (notNamed char member).1
  have notTrue : word ≠ lit "true" :=
    differs rfl fun char member => (notNamed char member).2.1
  have notFalse : word ≠ lit "false" :=
    differs rfl fun char member => (notNamed char member).2.2
  rw [knownWord?, if_neg notNull, if_neg notTrue, if_neg notFalse]

/-- An integer is written with digits and a sign. -/
theorem isWord_ofInt (number : Int) : IsWord (ofInt number) := by
  have digits :
      ∀ value, ∀ char ∈ (Nat.toDigits 10 value).map codePoint,
        isWordChar char = true := by
    intro value char member
    have all := (Bool.and_eq_true_iff.mp (digits_of_toDigits value).1).2
    exact isWordChar_of_isAsciiDigit (List.all_eq_true.mp all char member)
  cases number with
  | ofNat value =>
      rw [ofInt_ofNat]
      exact ⟨fun empty => Nat.toDigits_ne_nil (List.map_eq_nil_iff.mp empty),
        digits value⟩
  | negSucc value =>
      rw [ofInt_negSucc]
      exact ⟨List.cons_ne_nil _ _,
        List.forall_mem_cons.mpr ⟨rfl, digits (value + 1)⟩⟩

/-- An integer that is written is read back. -/
theorem intOf?_ofInt (number : Int) :
    intOf? (ofInt number) = some number := by
  cases number with
  | ofNat value =>
      have noSign :
          codePoint '-' ∉ ofInt (.ofNat value) := by
        rw [ofInt_ofNat]
        intro member
        have all := (Bool.and_eq_true_iff.mp (digits_of_toDigits value).1).2
        exact absurd (List.all_eq_true.mp all _ member) (by decide)
      obtain ⟨areDigits, isValue⟩ := digits_of_toDigits value
      rw [← ofInt_ofNat] at areDigits isValue
      unfold intOf?
      split
      · rename_i empty
        exact absurd empty (isWord_ofInt (.ofNat value)).1
      · rename_i sign digits whole
        rw [if_neg, if_pos areDigits, isValue]
        · rfl
        · rintro rfl
          exact noSign (by rw [whole]; exact List.mem_cons_self)
  | negSucc value =>
      obtain ⟨areDigits, isValue⟩ := digits_of_toDigits (value + 1)
      rw [ofInt_negSucc, intOf?, if_pos rfl, if_pos areDigits, isValue]
      rfl

/-- An integer is a known word. -/
theorem knownWord?_ofInt (number : Int) :
    (knownWord? (ofInt number) : Option (Json Number)) =
      some (.int number) := by
  rw [knownWord?_of_digits, intOf?_ofInt, Option.map_some]
  intro char isHead
  have member := List.mem_of_head? isHead
  have absent :
      ∀ letter : Char, letter.isDigit = false → letter ≠ '-' →
        char ≠ codePoint letter := by
    rintro letter notDigit notMinus rfl
    exact codePoint_notMem_ofInt notDigit notMinus number member
  exact ⟨absent 'n' rfl (by decide), absent 't' rfl (by decide),
    absent 'f' rfl (by decide)⟩

/-- A word is read, and what follows it is left. -/
theorem readWord_append
    (numerals : Numerals Number)
    {word rest : Str}
    {value : Json Number}
    (isWord : IsWord word)
    (isValue :
      (knownWord? word).or ((numerals.read word).map .number) = some value)
    (ends : EndsWord rest) :
    readWord numerals (word ++ rest) = some (value, rest) := by
  obtain ⟨isTaken, isLeft⟩ := takeWhile_word isWord ends
  rw [readWord, isTaken, isLeft, isValue, Option.map_some]

/-! ### Sequences -/

/-- A sign that is no blank stays in front. -/
theorem skipBlanks_cons
    {sign : CodePoint}
    (notBlank : isSpacing sign = false)
    (rest : Str) :
    skipBlanks (sign :: rest) = sign :: rest :=
  List.dropWhile_cons_of_neg (by simp [notBlank])

/-- A space is a blank. -/
theorem skipBlanks_space (rest : Str) :
    skipBlanks (codePoint ' ' :: rest) = skipBlanks rest :=
  List.dropWhile_cons_of_pos rfl

/-- The texts of a sequence stand one after the other. -/
theorem sequence_cons_cons
    (close : CodePoint)
    (first second : Str)
    (others : List Str) :
    sequence close (first :: second :: others) =
      first ++ codePoint ',' :: codePoint ' ' ::
        sequence close (second :: others) := by
  rw [sequence, List.intercalate_cons_cons, List.append_assoc,
    List.append_assoc, sequence]
  rfl

/-- A sequence of one text. -/
theorem sequence_singleton (close : CodePoint) (text : Str) :
    sequence close [text] = text ++ [close] := by
  rw [sequence, List.intercalate_singleton]

/-- A sequence is as long as each of its texts, and has no fewer signs. -/
theorem length_le_sequence (close : CodePoint) (texts : List Str) :
    texts.length ≤ (sequence close texts).length ∧
      ∀ text ∈ texts, text.length ≤ (sequence close texts).length := by
  induction texts with
  | nil =>
      exact ⟨Nat.zero_le _, fun _ member => absurd member
        List.not_mem_nil⟩
  | cons first rest inductionHypothesis =>
      cases rest with
      | nil =>
          rw [sequence_singleton]
          simp
      | cons second others =>
          obtain ⟨count, sizes⟩ := inductionHypothesis
          have size :
              (sequence close (first :: second :: others)).length =
                first.length +
                  ((sequence close (second :: others)).length + 2) := by
            rw [sequence_cons_cons, List.length_append]
            rfl
          rw [size]
          constructor
          · rw [List.length_cons]
            omega
          · intro text member
            rcases List.mem_cons.mp member with rfl | member
            · omega
            · have shorter := sizes text member
              omega

section Sequences

variable
    {Item : Type}
    {readOne : Str → Option (Item × Str)}
    {write : Item → Str}
    {close : CodePoint}

/-- What items are written as is read back, up to the closing sign. -/
theorem readItems_sequence
    (closes : isSpacing close = false ∧ isWordChar close = false ∧
      close ≠ codePoint ',')
    (skips : ∀ text, readOne (codePoint ' ' :: text) = readOne text)
    {items : List Item}
    (reads :
      ∀ item ∈ items, ∀ rest, EndsWord rest →
        readOne (write item ++ rest) = some (item, rest))
    (nonempty : items ≠ [])
    {fuel : Nat}
    (enough : items.length ≤ fuel)
    (rest : Str) :
    readItems readOne close fuel
        (sequence close (items.map write) ++ rest) =
      some (items, rest) := by
  induction items generalizing fuel with
  | nil =>
      exact absurd rfl nonempty
  | cons first others inductionHypothesis =>
      rw [List.forall_mem_cons] at reads
      cases fuel with
      | zero =>
          exact absurd enough (Nat.not_succ_le_zero _)
      | succ fuel =>
          cases others with
          | nil =>
              have ends : EndsWord (close :: rest) := by
                intro char isHead
                cases isHead
                exact closes.2.1
              rw [List.map_singleton, sequence_singleton,
                List.append_assoc, List.singleton_append, readItems,
                reads.1 _ ends, Option.bind_eq_bind, Option.bind_some]
              dsimp only
              rw [skipBlanks_cons closes.1]
              dsimp only
              rw [if_pos rfl]
          | cons second more =>
              have later := inductionHypothesis reads.2
                (List.cons_ne_nil _ _) (Nat.le_of_succ_le_succ enough)
              have space :
                  ∀ text,
                    readItems readOne close fuel (codePoint ' ' :: text) =
                      readItems readOne close fuel text := by
                intro text
                cases fuel with
                | zero =>
                    rfl
                | succ fuel =>
                    rw [readItems, skips, readItems]
              have ends :
                  EndsWord (codePoint ',' :: codePoint ' ' ::
                    sequence close ((second :: more).map write) ++
                      rest) := by
                intro char isHead
                cases isHead
                rfl
              rw [List.map_cons, List.map_cons, sequence_cons_cons,
                List.append_assoc, readItems]
              rw [List.map_cons] at later ends
              rw [reads.1 _ ends, Option.bind_eq_bind, Option.bind_some]
              dsimp only
              rw [List.cons_append, skipBlanks_cons rfl]
              dsimp only
              rw [if_neg (Ne.symm closes.2.2), if_pos rfl,
                List.cons_append, space, later]
              rfl

end Sequences

/-! ### Values -/

/-- What holds of a value if it holds of its parts holds of all values. -/
theorem induct
    {motive : Json Number → Prop}
    (null : motive .null)
    (bool : ∀ value, motive (.bool value))
    (int : ∀ value, motive (.int value))
    (number : ∀ value, motive (.number value))
    (str : ∀ text, motive (.str text))
    (list : ∀ items, (∀ item ∈ items, motive item) → motive (.list items))
    (dict :
      ∀ items, (∀ item ∈ items, motive item.2) → motive (.dict items))
    (value : Json Number) :
    motive value := by
  refine @Json.rec Number motive
    (fun items => ∀ item ∈ items, motive item)
    (fun items => ∀ item ∈ items, motive item.2)
    (fun item => motive item.2)
    null bool int number str list dict ?_ ?_ ?_ ?_ ?_ value
  · exact fun _ member => absurd member List.not_mem_nil
  · exact fun _ _ first rest => List.forall_mem_cons.mpr ⟨first, rest⟩
  · exact fun _ member => absurd member List.not_mem_nil
  · exact fun _ _ first rest => List.forall_mem_cons.mpr ⟨first, rest⟩
  · exact fun _ _ holds => holds

section Values

variable (numerals : Numerals Number)

/-- A key and a value as they are written. -/
def renderPair (pair : Str × Json Number) : Str :=
  quoted pair.1 ++ lit ": " ++ render numerals pair.2

/-- Every item of a list is written. -/
theorem renderItems_eq (items : List (Json Number)) :
    renderItems numerals items = items.map (render numerals) := by
  induction items with
  | nil =>
      rfl
  | cons item rest inductionHypothesis =>
      rw [renderItems, inductionHypothesis, List.map_cons]

/-- Every item of a dictionary is written. -/
theorem renderPairs_eq (items : List (Str × Json Number)) :
    renderPairs numerals items = items.map (renderPair numerals) := by
  induction items with
  | nil =>
      rfl
  | cons item rest inductionHypothesis =>
      rw [renderPairs, inductionHypothesis, List.map_cons, renderPair]

/-- A word begins with no blank and no closing sign. -/
theorem head_of_isWord
    {word : Str}
    (isWord : IsWord word) :
    ∃ sign rest,
      word = sign :: rest ∧ isSpacing sign = false ∧
        sign ≠ codePoint ']' ∧ sign ≠ codePoint '"' ∧
          sign ≠ codePoint '[' ∧ sign ≠ chr 0x7B := by
  obtain ⟨nonempty, chars⟩ := isWord
  cases word with
  | nil =>
      exact absurd rfl nonempty
  | cons sign rest =>
      have isChar := chars sign List.mem_cons_self
      refine ⟨sign, rest, rfl, ?_, ?_, ?_, ?_, ?_⟩
      · rw [isSpacing, List.contains_eq_mem, decide_eq_false_iff_not]
        intro member
        have none_ :
            (lit " \n\r\t").all (fun sign => !isWordChar sign) = true :=
          rfl
        have notChar := List.all_eq_true.mp none_ sign member
        rw [isChar] at notChar
        cases notChar
      all_goals
        rintro rfl
        cases isChar

/-- No value begins with a blank or a closing bracket. -/
theorem render_head (value : Json Number) :
    ∃ sign rest,
      render numerals value = sign :: rest ∧ isSpacing sign = false ∧
        sign ≠ codePoint ']' := by
  have word :
      ∀ {word : Str}, IsWord word →
        ∃ sign rest,
          word = sign :: rest ∧ isSpacing sign = false ∧
            sign ≠ codePoint ']' := by
    intro word isWord
    obtain ⟨sign, rest, whole, notBlank, notClose, _⟩ :=
      head_of_isWord isWord
    exact ⟨sign, rest, whole, notBlank, notClose⟩
  cases value with
  | null =>
      exact ⟨_, _, rfl, rfl, by decide⟩
  | bool value =>
      cases value with
      | false =>
          exact ⟨_, _, rfl, rfl, by decide⟩
      | true =>
          exact ⟨_, _, rfl, rfl, by decide⟩
  | int value =>
      rw [render]
      exact word (isWord_ofInt value)
  | number value =>
      rw [render]
      exact word (numerals.isWord_write value)
  | str text =>
      rw [render, quoted]
      exact ⟨_, _, rfl, rfl, by decide⟩
  | list items =>
      rw [render]
      exact ⟨_, _, rfl, rfl, by decide⟩
  | dict items =>
      rw [render]
      exact ⟨_, _, rfl, rfl, by decide⟩

/-- A space before a value is skipped. -/
theorem readValue_space (fuel : Nat) (text : Str) :
    readValue numerals fuel (codePoint ' ' :: text) =
      readValue numerals fuel text := by
  cases fuel with
  | zero =>
      rfl
  | succ fuel =>
      rw [readValue, skipBlanks_space, readValue]

/-- A word is read as its value. -/
theorem readValue_word
    {word rest : Str}
    {value : Json Number}
    (isWord : IsWord word)
    (isValue :
      (knownWord? word).or ((numerals.read word).map .number) = some value)
    (ends : EndsWord rest)
    (fuel : Nat) :
    readValue numerals (fuel + 1) (word ++ rest) = some (value, rest) := by
  have whole := readWord_append numerals isWord isValue ends
  obtain ⟨sign, later, rfl, notBlank, _, notQuote, notList, notDict⟩ :=
    head_of_isWord isWord
  rw [List.cons_append] at whole ⊢
  rw [readValue, skipBlanks_cons notBlank]
  dsimp only
  rw [if_neg notQuote, if_neg notList, if_neg notDict, whole]

/-- A pair that is written is read back, if its value is. -/
theorem readPair_renderPair
    {readOne : Str → Option (Json Number × Str)}
    (skips : ∀ text, readOne (codePoint ' ' :: text) = readOne text)
    {pair : Str × Json Number}
    {rest : Str}
    (reads :
      readOne (render numerals pair.2 ++ rest) = some (pair.2, rest)) :
    readPair readOne (renderPair numerals pair ++ rest) =
      some (pair, rest) := by
  have shape :
      renderPair numerals pair ++ rest =
        codePoint '"' :: (pair.1.flatMap escapeChar ++ codePoint '"' ::
          codePoint ':' :: codePoint ' ' ::
            (render numerals pair.2 ++ rest)) := by
    simp [renderPair, quoted, lit]
  rw [shape, readPair, skipBlanks_cons rfl]
  dsimp only
  rw [if_pos rfl, readQuoted_text, Option.bind_eq_bind, Option.bind_some]
  dsimp only
  rw [skipBlanks_cons rfl]
  dsimp only
  rw [if_pos rfl, skips, reads]
  rfl

/-- A sequence of any length is read back. -/
theorem readSequence_sequence
    {Item : Type}
    {readOne : Str → Option (Item × Str)}
    {write : Item → Str}
    {close : CodePoint}
    (closes : isSpacing close = false ∧ isWordChar close = false ∧
      close ≠ codePoint ',')
    (skips : ∀ text, readOne (codePoint ' ' :: text) = readOne text)
    {items : List Item}
    (heads :
      ∀ item ∈ items, ∃ sign rest,
        write item = sign :: rest ∧ isSpacing sign = false ∧ sign ≠ close)
    {fuel : Nat}
    (enough : (sequence close (items.map write)).length ≤ fuel)
    (reads :
      ∀ item ∈ items, (write item).length ≤ fuel →
        ∀ rest, EndsWord rest →
          readOne (write item ++ rest) = some (item, rest))
    (rest : Str) :
    readSequence readOne close fuel
        (sequence close (items.map write) ++ rest) =
      some (items, rest) := by
  obtain ⟨count, sizes⟩ := length_le_sequence close (items.map write)
  rw [List.length_map] at count
  cases items with
  | nil =>
      have shape : sequence close ([].map write) ++ rest = close :: rest :=
        rfl
      rw [shape, readSequence, skipBlanks_cons closes.1, List.head?_cons,
        if_pos rfl, List.tail_cons]
  | cons first others =>
      have whole := readItems_sequence closes skips
        (fun item member => reads item member
          ((sizes _ (List.mem_map_of_mem member)).trans enough))
        (List.cons_ne_nil first others) (count.trans enough) rest
      obtain ⟨sign, later, isFirst, notBlank, notClose⟩ :=
        heads first List.mem_cons_self
      have begins :
          ∃ tail,
            sequence close ((first :: others).map write) ++ rest =
              sign :: tail := by
        cases others with
        | nil =>
            rw [List.map_singleton, sequence_singleton, isFirst]
            exact ⟨_, rfl⟩
        | cons second more =>
            rw [List.map_cons, List.map_cons, sequence_cons_cons, isFirst]
            exact ⟨_, rfl⟩
      obtain ⟨tail, shape⟩ := begins
      rw [shape] at whole ⊢
      rw [readSequence, skipBlanks_cons notBlank, List.head?_cons,
        if_neg (fun same => notClose (Option.some.inj same)), whole]

/-- A value that is written is read back, whatever follows it. -/
theorem readValue_render
    (value : Json Number)
    {fuel : Nat}
    (enough : (render numerals value).length ≤ fuel + 1)
    {rest : Str}
    (ends : EndsWord rest) :
    readValue numerals (fuel + 1) (render numerals value ++ rest) =
      some (value, rest) := by
  induction value using Json.induct generalizing fuel rest with
  | null =>
      rw [render]
      apply readValue_word numerals _ rfl ends
      exact isWord_of_all (List.cons_ne_nil _ _) rfl
  | bool value =>
      rw [render]
      cases value with
      | false =>
          apply readValue_word numerals _ rfl ends
          exact isWord_of_all (List.cons_ne_nil _ _) rfl
      | true =>
          apply readValue_word numerals _ rfl ends
          exact isWord_of_all (List.cons_ne_nil _ _) rfl
  | int value =>
      rw [render]
      exact readValue_word numerals (isWord_ofInt value)
        (by rw [knownWord?_ofInt, Option.some_or]) ends fuel
  | number value =>
      rw [render]
      exact readValue_word numerals (numerals.isWord_write value)
        (by rw [numerals.notKnown_write, numerals.read_write,
          Option.none_or, Option.map_some]) ends fuel
  | str text =>
      have shape :
          render numerals (.str text) ++ rest =
            codePoint '"' ::
              (text.flatMap escapeChar ++ codePoint '"' :: rest) := by
        simp [render, quoted]
      rw [shape, readValue, skipBlanks_cons rfl]
      dsimp only
      rw [if_pos rfl, readQuoted_text, Option.map_some]
  | list items inductionHypothesis =>
      rw [render, renderItems_eq, List.length_cons] at enough
      have notQuote : codePoint '[' ≠ codePoint '"' := by
        decide
      have whole := @readSequence_sequence (Json Number)
        (readValue numerals fuel) (render numerals) (codePoint ']')
        ⟨rfl, rfl, by decide⟩ (readValue_space numerals fuel) items
        (fun item _ => render_head numerals item) fuel
        (Nat.le_of_succ_le_succ enough)
        (by
          intro item member short rest ends
          obtain ⟨sign, later, shape, _⟩ := render_head numerals item
          cases fuel with
          | zero =>
              rw [shape] at short
              exact absurd short (Nat.not_succ_le_zero _)
          | succ fuel =>
              exact inductionHypothesis item member short ends)
        rest
      rw [render, renderItems_eq, List.cons_append, readValue,
        skipBlanks_cons rfl]
      dsimp only
      rw [if_neg notQuote, if_pos rfl, whole, Option.map_some]
  | dict items inductionHypothesis =>
      rw [render, renderPairs_eq, List.length_cons] at enough
      have notQuote : chr 0x7B ≠ codePoint '"' := by
        decide
      have notList : chr 0x7B ≠ codePoint '[' := by
        decide
      have whole := @readSequence_sequence (Str × Json Number)
        (readPair (readValue numerals fuel)) (renderPair numerals)
        (chr 0x7D) ⟨rfl, rfl, by decide⟩
        (fun text => by rw [readPair, skipBlanks_space, readPair]) items
        (fun item _ => ⟨codePoint '"', _, rfl, rfl, by decide⟩) fuel
        (Nat.le_of_succ_le_succ enough)
        (by
          intro item member short rest ends
          apply readPair_renderPair numerals (readValue_space numerals fuel)
          have shorter :
              (render numerals item.2).length ≤ fuel := by
            rw [renderPair, List.length_append] at short
            omega
          obtain ⟨sign, later, shape, _⟩ := render_head numerals item.2
          cases fuel with
          | zero =>
              rw [shape] at shorter
              exact absurd shorter (Nat.not_succ_le_zero _)
          | succ fuel =>
              exact inductionHypothesis item member shorter ends)
        rest
      rw [render, renderPairs_eq, List.cons_append, readValue,
        skipBlanks_cons rfl]
      dsimp only
      rw [if_neg notQuote, if_neg notList, if_pos rfl, whole,
        Option.map_some]

/-- Reading undoes writing. -/
theorem parse_render (value : Json Number) :
    parse numerals (render numerals value) = some value := by
  obtain ⟨sign, rest, shape, _⟩ := render_head numerals value
  have positive :
      ∃ fuel, (render numerals value).length = fuel + 1 := by
    rw [shape]
    exact ⟨_, rfl⟩
  obtain ⟨fuel, isLength⟩ := positive
  have ends : EndsWord [] := by
    intro char isHead
    cases isHead
  have whole := readValue_render numerals value (Nat.le_of_eq isLength) ends
  rw [List.append_nil] at whole
  rw [parse, isLength, whole]
  exact if_pos rfl

end Values

/-! ### One line -/

/-- Is nothing in the text a control character? -/
def Printable (text : Str) : Prop :=
  ∀ char ∈ text, 0x20 ≤ char.val

/-- Nothing in a word is a control character. -/
theorem printable_of_isWord
    {word : Str}
    (isWord : IsWord word) :
    Printable word := by
  intro char member
  have isChar := isWord.2 char member
  rw [isWordChar, Bool.and_eq_true, Bool.and_eq_true,
    decide_eq_true_eq] at isChar
  exact Nat.le_of_lt isChar.1.1

/-- Whether a text holds a control character can be computed. -/
theorem printable_of_all
    {text : Str}
    (chars : text.all (fun char => decide (0x20 ≤ char.val)) = true) :
    Printable text := by
  intro char member
  exact of_decide_eq_true (List.all_eq_true.mp chars char member)

/-- Texts without control characters can be joined. -/
theorem printable_append
    {first second : Str} :
    Printable (first ++ second) ↔ Printable first ∧ Printable second :=
  List.forall_mem_append

/-- A character is escaped by printable ASCII characters, or stands for itself. -/
theorem escapeChar_cases (char : CodePoint) :
    (char.val < 0x80 ∧
        ∀ sign ∈ escapeChar char, 0x20 ≤ sign.val ∧ sign.val < 0x80) ∨
      (0x20 ≤ char.val ∧ escapeChar char = [char]) := by
  have short :
      ∀ {known : CodePoint} {escape : Str},
        char = known → known.val < 0x80 →
          escape.all (fun sign =>
            decide (0x20 ≤ sign.val ∧ sign.val < 0x80)) = true →
            char.val < 0x80 ∧
              ∀ sign ∈ escape, 0x20 ≤ sign.val ∧ sign.val < 0x80 := by
    intro known escape same small signs
    rw [same]
    exact ⟨small, fun sign member =>
      of_decide_eq_true (List.all_eq_true.mp signs sign member)⟩
  have digit :
      ∀ {value : Nat}, value < 16 →
        0x20 ≤ (hexDigitChar value).val ∧
          (hexDigitChar value).val < 0x80 := by
    intro value small
    interval_cases value <;> decide
  unfold escapeChar
  split
  · exact Or.inl (short ‹_› (by decide) rfl)
  · split
    · exact Or.inl (short ‹_› (by decide) rfl)
    · split
      · exact Or.inl (short ‹_› (by decide) rfl)
      · split
        · exact Or.inl (short ‹_› (by decide) rfl)
        · split
          · exact Or.inl (short ‹_› (by decide) rfl)
          · split
            · exact Or.inl (short ‹_› (by decide) rfl)
            · split
              · exact Or.inl (short ‹_› (by decide) rfl)
              · split
                · rename_i control
                  left
                  constructor
                  · omega
                  · have opens := (@short char (lit "\\u00") rfl (by omega)
                      rfl).2
                    refine List.forall_mem_append.mpr ⟨opens,
                      List.forall_mem_cons.mpr ⟨?_,
                        List.forall_mem_singleton.mpr ?_⟩⟩
                    · exact digit (by omega)
                    · exact digit (by omega)
                · exact Or.inr ⟨Nat.le_of_not_lt ‹_›, rfl⟩

/-- Nothing in quotes is a control character. -/
theorem printable_quoted (text : Str) : Printable (quoted text) := by
  intro char member
  rw [quoted, List.mem_cons, List.mem_append, List.mem_flatMap,
    List.mem_singleton] at member
  rcases member with rfl | ⟨source, _, member⟩ | rfl
  · decide
  · rcases escapeChar_cases source with ⟨_, signs⟩ | ⟨least, itself⟩
    · exact (signs char member).1
    · rw [itself, List.mem_singleton] at member
      rw [member]
      exact least
  · decide

/-- A sequence of such texts is such a text. -/
theorem printable_sequence
    {close : CodePoint}
    (closes : 0x20 ≤ close.val)
    {texts : List Str}
    (printable : ∀ text ∈ texts, Printable text) :
    Printable (sequence close texts) := by
  induction texts with
  | nil =>
      exact List.forall_mem_singleton.mpr closes
  | cons first rest inductionHypothesis =>
      rw [List.forall_mem_cons] at printable
      cases rest with
      | nil =>
          rw [sequence_singleton, printable_append]
          exact ⟨printable.1, List.forall_mem_singleton.mpr closes⟩
      | cons second others =>
          rw [sequence_cons_cons, printable_append]
          refine ⟨printable.1, List.forall_mem_cons.mpr ⟨by decide,
            List.forall_mem_cons.mpr ⟨by decide, ?_⟩⟩⟩
          exact inductionHypothesis printable.2

/-- Nothing that is written is a control character. -/
theorem printable_render
    (numerals : Numerals Number)
    (value : Json Number) :
    Printable (render numerals value) := by
  induction value using Json.induct with
  | null =>
      exact printable_of_all rfl
  | bool value =>
      cases value with
      | false =>
          exact printable_of_all rfl
      | true =>
          exact printable_of_all rfl
  | int value =>
      exact printable_of_isWord (isWord_ofInt value)
  | number value =>
      rw [render]
      exact printable_of_isWord (numerals.isWord_write value)
  | str text =>
      rw [render]
      exact printable_quoted text
  | list items inductionHypothesis =>
      rw [render, renderItems_eq]
      refine List.forall_mem_cons.mpr ⟨?_, printable_sequence ?_ ?_⟩
      · decide
      · decide
      intro text member
      obtain ⟨item, isItem, rfl⟩ := List.mem_map.mp member
      exact inductionHypothesis item isItem
  | dict items inductionHypothesis =>
      rw [render, renderPairs_eq]
      refine List.forall_mem_cons.mpr ⟨?_, printable_sequence ?_ ?_⟩
      · decide
      · decide
      intro text member
      obtain ⟨item, isItem, rfl⟩ := List.mem_map.mp member
      rw [renderPair, printable_append, printable_append]
      exact ⟨⟨printable_quoted item.1, printable_of_all rfl⟩,
        inductionHypothesis item isItem⟩

/-! ### Which values can be encoded -/

/-- Does no text of the value hold a lone surrogate? -/
def IsScalar (value : Json Number) : Prop :=
  ∀ text ∈ texts value, IsScalarText text

instance (value : Json Number) : Decidable value.IsScalar :=
  -- Character by character, not for every character there is.
  decidable_of_iff
    ((texts value).all (fun text => text.all fun char =>
      !decide (0xD800 ≤ char.val ∧ char.val ≤ 0xDFFF)) = true)
    (by simp only [IsScalar, IsScalarText, List.all_eq_true,
      Bool.not_eq_true', decide_eq_false_iff_not])

/-- The texts of a list are those of its items. -/
theorem textsOfItems_eq (items : List (Json Number)) :
    textsOfItems items = items.flatMap texts := by
  induction items with
  | nil =>
      rfl
  | cons item rest inductionHypothesis =>
      rw [textsOfItems, inductionHypothesis, List.flatMap_cons]

/-- The texts of a dictionary are its keys and those of its values. -/
theorem textsOfPairs_eq (items : List (Str × Json Number)) :
    textsOfPairs items =
      items.flatMap fun item => item.1 :: texts item.2 := by
  induction items with
  | nil =>
      rfl
  | cons item rest inductionHypothesis =>
      rw [textsOfPairs, inductionHypothesis, List.flatMap_cons]

/-- A word is plain. -/
theorem isPlain_of_isWord
    {word : Str}
    (isWord : IsWord word) :
    IsPlain word := by
  intro char member
  have isChar := isWord.2 char member
  rw [isWordChar, Bool.and_eq_true, Bool.and_eq_true, decide_eq_true_eq,
    decide_eq_true_eq] at isChar
  exact isChar.1.2.trans (by decide)

/-- Whether a text is plain can be computed. -/
theorem isPlain_of_all
    {text : Str}
    (chars : text.all (fun char => decide (char.val < 0x80)) = true) :
    IsPlain text := by
  intro char member
  exact of_decide_eq_true (List.all_eq_true.mp chars char member)

/-- A character in quotes is as good as the character. -/
theorem isScalarText_escapeChar (char : CodePoint) :
    IsScalarText (escapeChar char) ↔ IsScalarText [char] := by
  rcases escapeChar_cases char with ⟨small, signs⟩ | ⟨_, itself⟩
  · apply iff_of_true
    · exact IsPlain.isScalarText fun sign member => (signs sign member).2
    · exact IsPlain.isScalarText (List.forall_mem_singleton.mpr small)
  · rw [itself]

/-- A text in quotes can be encoded exactly if the text can. -/
theorem isScalarText_quoted (text : Str) :
    IsScalarText (quoted text) ↔ IsScalarText text := by
  have inner :
      IsScalarText (text.flatMap escapeChar) ↔ IsScalarText text := by
    induction text with
    | nil =>
        exact Iff.rfl
    | cons char rest inductionHypothesis =>
        rw [List.flatMap_cons, isScalarText_append, inductionHypothesis,
          isScalarText_escapeChar, ← isScalarText_append,
          List.singleton_append]
  have quote : IsScalarText [codePoint '"'] :=
    (isPlain_of_all rfl).isScalarText
  have shape :
      quoted text =
        [codePoint '"'] ++ text.flatMap escapeChar ++ [codePoint '"'] :=
    rfl
  rw [shape, isScalarText_append, isScalarText_append, inner,
    and_iff_left quote, and_iff_right quote]

/-- A sequence can be encoded exactly if its texts can. -/
theorem isScalarText_sequence
    {close : CodePoint}
    (closes : close.val < 0x80)
    (texts : List Str) :
    IsScalarText (sequence close texts) ↔
      ∀ text ∈ texts, IsScalarText text := by
  have ending : IsScalarText [close] :=
    IsPlain.isScalarText (List.forall_mem_singleton.mpr closes)
  have between : IsScalarText [codePoint ',', codePoint ' '] :=
    (isPlain_of_all rfl).isScalarText
  induction texts with
  | nil =>
      exact iff_of_true ending fun _ member =>
        absurd member List.not_mem_nil
  | cons first rest inductionHypothesis =>
      cases rest with
      | nil =>
          rw [sequence_singleton, isScalarText_append,
            and_iff_left ending, List.forall_mem_singleton]
      | cons second others =>
          have shape :
              sequence close (first :: second :: others) =
                first ++ [codePoint ',', codePoint ' '] ++
                  sequence close (second :: others) := by
            rw [sequence_cons_cons, List.append_assoc]
            rfl
          rw [shape, isScalarText_append, isScalarText_append,
            and_iff_left between, List.forall_mem_cons]
          exact and_congr_right fun _ => inductionHypothesis

/-- A value can be encoded exactly if its texts can. -/
theorem isScalarText_render
    (numerals : Numerals Number)
    (value : Json Number) :
    IsScalarText (render numerals value) ↔ value.IsScalar := by
  have noTexts :
      ∀ {word : Str} {value : Json Number},
        IsPlain word → texts value = [] →
          (IsScalarText word ↔ value.IsScalar) := by
    intro word value plain none_
    refine iff_of_true plain.isScalarText fun text member => ?_
    rw [none_] at member
    exact absurd member List.not_mem_nil
  induction value using Json.induct with
  | null =>
      exact noTexts (isPlain_of_all rfl) rfl
  | bool value =>
      cases value with
      | false =>
          exact noTexts (isPlain_of_all rfl) rfl
      | true =>
          exact noTexts (isPlain_of_all rfl) rfl
  | int value =>
      exact noTexts (isPlain_ofInt value) rfl
  | number value =>
      rw [render]
      exact noTexts (isPlain_of_isWord (numerals.isWord_write value)) rfl
  | str text =>
      rw [render, isScalarText_quoted, IsScalar, texts,
        List.forall_mem_singleton]
  | list items inductionHypothesis =>
      have opens : IsScalarText [codePoint '['] :=
        (isPlain_of_all rfl).isScalarText
      have shape :
          render numerals (.list items) =
            [codePoint '['] ++
              sequence (codePoint ']') (items.map (render numerals)) := by
        rw [render, renderItems_eq, List.singleton_append]
      rw [shape, isScalarText_append, and_iff_right opens,
        isScalarText_sequence (by decide), List.forall_mem_map,
        IsScalar, texts, textsOfItems_eq, List.forall_mem_flatMap]
      exact forall₂_congr inductionHypothesis
  | dict items inductionHypothesis =>
      have opens : IsScalarText [chr 0x7B] :=
        (isPlain_of_all rfl).isScalarText
      have colon : IsScalarText (lit ": ") :=
        (isPlain_of_all rfl).isScalarText
      have shape :
          render numerals (.dict items) =
            [chr 0x7B] ++
              sequence (chr 0x7D) (items.map (renderPair numerals)) := by
        rw [render, renderPairs_eq, List.singleton_append]
      rw [shape, isScalarText_append, and_iff_right opens,
        isScalarText_sequence (by decide), List.forall_mem_map,
        IsScalar, texts, textsOfPairs_eq, List.forall_mem_flatMap]
      apply forall₂_congr
      intro item member
      rw [renderPair, isScalarText_append, isScalarText_append,
        isScalarText_quoted, and_iff_left colon, List.forall_mem_cons]
      exact and_congr_right fun _ => inductionHypothesis item member

end Json

end PyText
