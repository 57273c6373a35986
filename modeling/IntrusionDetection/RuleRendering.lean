import IntrusionDetection.OptionParser
import IntrusionDetection.TextSplitting
import Mathlib.Data.List.ReduceOption

namespace IntrusionDetection

open PyText

/-!
# Rendered rules

A rule line written from header words and options, and read back by the
tokenizer.  The scanner, the search for the outer parentheses, the cut at the
first colon and the unquoting each look at the characters by themselves; on a
rendered line they agree about where every word and every option ends.
-/

/-! ### Rendering -/

/-- The blank between two words. -/
def blank : CodePoint := codePoint ' '

/-- The blank is one. -/
theorem isBlank_blank : isBlank blank = true := by
  decide

/-- A word that can stand in a rule header. -/
def IsHeaderWord (word : Str) : Prop :=
  word ≠ [] ∧ (∀ char ∈ word, isBlank char = false) ∧
    codePoint '(' ∉ word

instance (word : Str) : Decidable (IsHeaderWord word) :=
  decidable_of_iff
    (word ≠ [] ∧ (word.all fun char => !isBlank char) = true ∧
      codePoint '(' ∉ word)
    (by simp [IsHeaderWord])

/-- Is the text without characters the scanner of options looks at? -/
def IsPlainOption (text : Str) : Prop :=
  ∀ char ∈ text, isEscapable char = false

instance (text : Str) : Decidable (IsPlainOption text) :=
  decidable_of_iff
    ((text.all fun char => !isEscapable char) = true)
    (by simp [IsPlainOption])

/-- A character inside quotes. -/
def escapeChar (char : CodePoint) : Str :=
  if isEscapable char then [codePoint '\\', char] else [char]

/-- A text in quotes, with `;`, `"` and the backslash escaped. -/
def quote (text : Str) : Str :=
  codePoint '"' :: (text.flatMap escapeChar ++ [codePoint '"'])

/-- What can stand after the key of an option. -/
inductive OptionValue where
  | absent
  | plain
      (text : Str)
      (trimmed : strip text = text)
      (isPlain : IsPlainOption text)
  | quoted (text : Str)

/-- The value as it is written. -/
def OptionValue.text? : OptionValue → Option Str
  | absent => none
  | plain text _ _ => some text
  | quoted text => some (quote text)

/-- An option that can be written into a rule. -/
structure OptionItem where
  key : Word
  keyTrimmed : strip key.text = key.text
  keyPlain : IsPlainOption key.text
  noColon : codePoint ':' ∉ key.text
  value : OptionValue

namespace OptionItem

/-- The option without the semicolon after it. -/
def piece (item : OptionItem) : Str :=
  item.key.text ++
    (item.value.text?.map (codePoint ':' :: ·)).getD []

/-- The option with the semicolon after it. -/
def render (item : OptionItem) : Str :=
  item.piece ++ [codePoint ';']

/-- The option the tokenizer should make of it. -/
def pair (item : OptionItem) : OptionPair where
  key := .ofWord item.key
  value := item.value.text?

end OptionItem

/-- A rule line: the words with blanks between them, and the options. -/
def renderRule (tokens : HeaderTokens) (items : List OptionItem) : Str :=
  [blank].intercalate tokens.list ++
    (codePoint '(' :: (items.flatMap OptionItem.render ++
      [codePoint ')']))

/-! ### The values -/

/-- A quoted text is trimmed. -/
theorem strip_quote (text : Str) : strip (quote text) = quote text := by
  have notBlank : isBlank (codePoint '"') = false := by decide
  apply strip_eq_self
  · rintro _ ⟨⟩
    exact notBlank
  · intro char isLast
    have same : codePoint '"' = char := by
      simpa [quote, List.getLast?_cons] using isLast
    exact same ▸ notBlank

/-- Every value that can be written is trimmed. -/
theorem strip_value
    {value : OptionValue}
    {text : Str}
    (isText : value.text? = some text) :
    strip text = text := by
  cases value with
  | absent =>
      cases isText
  | plain plainText trimmed isPlain =>
      cases isText
      exact trimmed
  | quoted inner =>
      cases isText
      exact strip_quote inner

/-! ### The pieces of the options -/

section Scanner

variable (inQuote : Bool) (current rest : Str)

/-- The scanner goes over a backslash and the character after it. -/
theorem splitPieces_backslash (next : CodePoint) :
    splitPieces inQuote current (codePoint '\\' :: next :: rest) =
      splitPieces inQuote (current ++ [codePoint '\\', next]) rest := by
  rw [splitPieces.eq_def]
  simp

/-- A quote that is not escaped opens or closes a quoted text. -/
theorem splitPieces_quotationMark :
    splitPieces inQuote current (codePoint '"' :: rest) =
      splitPieces (!inQuote) (current ++ [codePoint '"']) rest := by
  have notBackslash : codePoint '"' ≠ codePoint '\\' := by decide
  have notSemicolon : codePoint '"' ≠ codePoint ';' := by decide
  rw [splitPieces.eq_def]
  simp [notBackslash, notSemicolon]

/-- A semicolon outside quotes ends a piece. -/
theorem splitPieces_semicolon :
    splitPieces false current (codePoint ';' :: rest) =
      (splitPieces false [] rest).map (current :: ·) := by
  have notBackslash : codePoint ';' ≠ codePoint '\\' := by decide
  have notQuote : codePoint ';' ≠ codePoint '"' := by decide
  rw [splitPieces.eq_def]
  simp [notBackslash, notQuote]

/-- The scanner goes over any other character. -/
theorem splitPieces_other
    {char : CodePoint}
    (notEscapable : isEscapable char = false) :
    splitPieces inQuote current (char :: rest) =
      splitPieces inQuote (current ++ [char]) rest := by
  simp only [isEscapable, Bool.or_eq_false_iff, decide_eq_false_iff_not]
    at notEscapable
  rw [splitPieces.eq_def]
  simp [notEscapable]

end Scanner

/-- The scanner goes over plain text. -/
theorem splitPieces_plain
    {text : Str}
    (isPlain : IsPlainOption text)
    (inQuote : Bool)
    (current rest : Str) :
    splitPieces inQuote current (text ++ rest) =
      splitPieces inQuote (current ++ text) rest := by
  induction text generalizing current with
  | nil =>
      simp
  | cons char text inductionHypothesis =>
      obtain ⟨first, others⟩ := List.forall_mem_cons.mp isPlain
      rw [List.cons_append, splitPieces_other _ _ _ first,
        inductionHypothesis others, List.append_assoc,
        List.singleton_append]

/-- The scanner goes over an escaped character. -/
theorem splitPieces_escapeChar
    (char : CodePoint)
    (inQuote : Bool)
    (current rest : Str) :
    splitPieces inQuote current (escapeChar char ++ rest) =
      splitPieces inQuote (current ++ escapeChar char) rest := by
  by_cases escapable : isEscapable char = true
  · simp only [escapeChar, if_pos escapable]
    exact splitPieces_backslash inQuote current rest char
  · simp only [escapeChar, if_neg escapable]
    exact splitPieces_other inQuote current rest
      (Bool.eq_false_iff.mpr escapable)

/-- The scanner goes over the inside of a quoted text. -/
theorem splitPieces_escaped
    (text : Str)
    (inQuote : Bool)
    (current rest : Str) :
    splitPieces inQuote current (text.flatMap escapeChar ++ rest) =
      splitPieces inQuote (current ++ text.flatMap escapeChar) rest := by
  induction text generalizing current with
  | nil =>
      simp
  | cons char text inductionHypothesis =>
      rw [List.flatMap_cons, List.append_assoc, splitPieces_escapeChar,
        inductionHypothesis, List.append_assoc]

/-- The scanner goes over a quoted text, and is outside quotes again. -/
theorem splitPieces_quote (text current rest : Str) :
    splitPieces false current (quote text ++ rest) =
      splitPieces false (current ++ quote text) rest := by
  simp only [quote, List.cons_append, List.append_assoc,
    List.nil_append]
  rw [splitPieces_quotationMark, splitPieces_escaped,
    splitPieces_quotationMark]
  simp

/-- The scanner goes over a value. -/
theorem splitPieces_value
    {value : OptionValue}
    {text : Str}
    (isText : value.text? = some text)
    (current rest : Str) :
    splitPieces false current (text ++ rest) =
      splitPieces false (current ++ text) rest := by
  cases value with
  | absent =>
      cases isText
  | plain plainText trimmed isPlain =>
      cases isText
      exact splitPieces_plain isPlain false current rest
  | quoted inner =>
      cases isText
      exact splitPieces_quote inner current rest

namespace OptionItem

/-- The scanner goes over an option up to its semicolon. -/
theorem splitPieces_piece (item : OptionItem) (rest : Str) :
    splitPieces false [] (item.piece ++ rest) =
      splitPieces false item.piece rest := by
  have colon : isEscapable (codePoint ':') = false := by decide
  cases isText : item.value.text? with
  | none =>
      simp only [piece, isText, Option.map_none, Option.getD_none,
        List.append_nil]
      rw [splitPieces_plain item.keyPlain, List.nil_append]
  | some text =>
      simp only [piece, isText, Option.map_some, Option.getD_some,
        List.append_assoc, List.cons_append]
      rw [splitPieces_plain item.keyPlain, splitPieces_other _ _ _ colon,
        splitPieces_value isText]
      simp

/-- The scanner cuts the options where they end. -/
theorem splitPieces_render (items : List OptionItem) :
    splitPieces false [] (items.flatMap render) =
      some (items.map piece ++ [[]]) := by
  induction items with
  | nil =>
      rfl
  | cons item rest inductionHypothesis =>
      simp only [List.flatMap_cons, render, List.append_assoc,
        List.singleton_append]
      rw [splitPieces_piece, splitPieces_semicolon]
      rw [inductionHypothesis]
      rfl

/-- A written option is trimmed. -/
theorem strip_piece (item : OptionItem) :
    strip item.piece = item.piece := by
  obtain ⟨firstKey, lastKey⟩ := ends_of_strip_eq_self item.keyTrimmed
  have colon : isBlank (codePoint ':') = false := by decide
  apply strip_eq_self
  · intro char isFirst
    rw [piece, List.head?_append_of_ne_nil _ item.key.notEmpty] at isFirst
    exact firstKey char isFirst
  · intro char isLast
    cases isText : item.value.text? with
    | none =>
        simp only [piece, isText, Option.map_none, Option.getD_none,
          List.append_nil] at isLast
        exact lastKey char isLast
    | some text =>
        obtain ⟨_, lastText⟩ := ends_of_strip_eq_self (strip_value isText)
        simp only [piece, isText, Option.map_some, Option.getD_some,
          List.getLast?_append, List.getLast?_cons] at isLast
        cases ends : text.getLast? with
        | none =>
            simp only [ends] at isLast
            cases isLast
            exact colon
        | some last =>
            simp only [ends] at isLast
            cases isLast
            exact lastText _ ends

/-- A written option is cut at its first colon. -/
theorem partition_piece (item : OptionItem) :
    partition (codePoint ':') item.piece =
      (item.key.text, item.value.text?) := by
  cases isText : item.value.text? with
  | none =>
      simp only [piece, isText, Option.map_none, Option.getD_none,
        List.append_nil]
      exact partition_of_notMem item.noColon
  | some text =>
      simp only [piece, isText, Option.map_some, Option.getD_some]
      exact partition_append item.noColon text

/-- A written option is read back. -/
theorem parsePiece_piece (item : OptionItem) :
    parsePiece item.piece = .ok (some item.pair) := by
  have notEmpty : item.piece ≠ [] := by
    simp [piece, item.key.notEmpty]
  have sameValue : item.value.text?.map strip = item.value.text? := by
    cases isText : item.value.text? with
    | none =>
        rfl
    | some text =>
        rw [Option.map_some, strip_value isText]
  have isWord : Word.of? item.key.text = some item.key :=
    dif_pos item.key.notEmpty
  simp only [parsePiece, strip_piece, if_neg notEmpty, partition_piece,
    item.keyTrimmed, isWord, sameValue]
  rfl

/-- Written options are read back in their order. -/
theorem mapM_parsePiece (items : List OptionItem) :
    (items.map piece ++ [[]]).mapM parsePiece =
      .ok ((items.map pair).map some ++ [none]) := by
  induction items with
  | nil =>
      rfl
  | cons item rest inductionHypothesis =>
      rw [List.map_cons, List.cons_append, List.mapM_cons,
        parsePiece_piece, inductionHypothesis]
      rfl

/-- The body of a rendered rule is split into its options. -/
theorem splitOptions_render (items : List OptionItem) :
    splitOptions (items.flatMap render) = .ok (items.map pair) := by
  have reduced :
      ((items.map pair).map some ++ [none]).reduceOption =
        items.map pair := by
    rw [List.reduceOption_append]
    induction items.map pair with
    | nil =>
        rfl
    | cons first rest inductionHypothesis =>
        simpa using inductionHypothesis
  rw [splitOptions, splitPieces_render]
  simp only [mapM_parsePiece, Except.map, reduced]

end OptionItem

/-! ### The whole line -/

section Line

variable {tokens : HeaderTokens}

/-- The words of a header make no parenthesis. -/
theorem paren_notMem_header
    (areWords : ∀ word ∈ tokens.list, IsHeaderWord word) :
    codePoint '(' ∉ [blank].intercalate tokens.list := by
  have notBlank : codePoint '(' ≠ blank := by decide
  have absent := fun word member => (areWords word member).2.2
  simp only [HeaderTokens.list, List.forall_mem_cons] at absent
  simp [HeaderTokens.list, List.intercalate_cons_cons, notBlank, absent]

/-- A rendered line is trimmed. -/
theorem strip_renderRule
    (areWords : ∀ word ∈ tokens.list, IsHeaderWord word)
    (items : List OptionItem) :
    strip (renderRule tokens items) = renderRule tokens items := by
  have notBlank : isBlank (codePoint ')') = false := by decide
  obtain ⟨notEmpty, noBlanks, _⟩ :=
    areWords tokens.action (List.mem_cons_self ..)
  apply strip_eq_self
  · intro char isFirst
    rw [renderRule, HeaderTokens.list, List.intercalate_cons_cons,
      List.append_assoc, List.append_assoc,
      List.head?_append_of_ne_nil _ notEmpty] at isFirst
    exact noBlanks char (List.mem_of_head? isFirst)
  · intro char isLast
    have same : codePoint ')' = char := by
      simpa [renderRule, List.getLast?_append, List.getLast?_cons]
        using isLast
    exact same ▸ notBlank

/-- A rendered line is read back. -/
theorem tokenizeRule_renderRule
    (areWords : ∀ word ∈ tokens.list, IsHeaderWord word)
    (items : List OptionItem) :
    tokenizeRule (renderRule tokens items) =
      .ok (tokens, items.map OptionItem.pair) := by
  let header := [blank].intercalate tokens.list
  let body := items.flatMap OptionItem.render
  let upToClose := header ++ codePoint '(' :: body
  let text := renderRule tokens items
  have atOpen : text = header ++ codePoint '(' :: (body ++ [codePoint ')']) :=
    rfl
  have atClose : text = upToClose ++ [codePoint ')'] := by
    simp [atOpen, upToClose]
  have opens : find? (codePoint '(') text = some header.length := by
    rw [atOpen]
    exact find?_append (paren_notMem_header areWords) _
  have closes : rfind? (codePoint ')') text = some upToClose.length := by
    rw [atClose]
    exact rfind?_concat _ _
  have ordered : ¬ upToClose.length < header.length := by
    simp [upToClose]
  have nothingAfter : text.drop (upToClose.length + 1) = [] := by
    simp [atClose]
  have inside :
      (text.take upToClose.length).drop (header.length + 1) = body := by
    rw [atClose, List.take_left]
    simp [upToClose]
  have before : text.take header.length = header := by
    rw [atOpen, List.take_left]
  have readWords : words header = tokens.list :=
    words_intercalate isBlank_blank
      (fun word member => (areWords word member).1)
      (fun word member => (areWords word member).2.1)
  have readOptions : splitOptions body = .ok (items.map OptionItem.pair) :=
    OptionItem.splitOptions_render items
  have trimmed : strip text = text := strip_renderRule areWords items
  have accepted :
      ¬ (upToClose.length < header.length ∨ strip ([] : Str) ≠ []) := by
    rintro (early | left)
    · exact ordered early
    · exact left rfl
  change tokenizeRule text = _
  simp only [tokenizeRule, trimmed, opens, closes, nothingAfter,
    if_neg accepted, inside, readOptions, before, readWords]
  rfl

end Line

/-! ### Quoted values -/

/-- What is inside the quotes of a quoted text. -/
theorem betweenQuotes?_quote (text : Str) :
    betweenQuotes? (quote text) = some (text.flatMap escapeChar) := by
  have long : 2 ≤ (quote text).length := by
    simp [quote]
  have last : (quote text).getLast? = some (codePoint '"') := by
    simp [quote, List.getLast?_cons]
  rw [betweenQuotes?, if_pos ⟨long, rfl, last⟩]
  simp [quote]

/-- An escaped character is read back. -/
theorem unescape?_escapeChar (char : CodePoint) (rest : Str) :
    unescape? (escapeChar char ++ rest) =
      (unescape? rest).map (char :: ·) := by
  by_cases escapable : isEscapable char = true
  · simp only [escapeChar, if_pos escapable, List.cons_append,
      List.nil_append]
    rw [unescape?.eq_def]
    simp [escapable]
  · have kept := Bool.eq_false_iff.mpr escapable
    simp only [isEscapable, Bool.or_eq_false_iff,
      decide_eq_false_iff_not] at kept
    simp only [escapeChar, if_neg escapable, List.cons_append,
      List.nil_append]
    rw [unescape?.eq_def]
    simp [kept]

/-- Unescaping undoes escaping. -/
theorem unescape?_escaped (text : Str) :
    unescape? (text.flatMap escapeChar) = some text := by
  induction text with
  | nil =>
      rfl
  | cons char text inductionHypothesis =>
      rw [List.flatMap_cons, unescape?_escapeChar, inductionHypothesis]
      rfl

/-- Unquoting undoes quoting. -/
theorem unquoteString_quote (text : Str) :
    unquoteString (some (quote text)) = some text := by
  rw [unquoteString, Option.bind_some, betweenQuotes?_quote,
    Option.bind_some, unescape?_escaped]

/-- The options read back have the keys and values that were written. -/
theorem pairs_spell_items (items : List OptionItem) :
    (items.map OptionItem.pair).map
        (fun option => (option.key.word, option.value)) =
      items.map fun item => (item.key, item.value.text?) := by
  rw [List.map_map]
  refine List.map_congr_left fun item _ => ?_
  simp [OptionItem.pair, Keyword.word_ofWord]

/--
Rendering then tokenizing is the identity: a line written from seven words and
any options is read back as those words and those options, in order; and
unquoting undoes quoting, whatever the text.
-/
theorem tokenizer_inverts_rendering :
    (∀ (tokens : HeaderTokens) (items : List OptionItem),
        (∀ word ∈ tokens.list, IsHeaderWord word) →
        ∃ options,
          tokenizeRule (renderRule tokens items) =
              .ok (tokens, options) ∧
            options.map (fun option => (option.key.word, option.value)) =
              items.map fun item => (item.key, item.value.text?)) ∧
      ∀ text, unquoteString (some (quote text)) = some text :=
  ⟨fun _ items areWords =>
    ⟨_, tokenizeRule_renderRule areWords items, pairs_spell_items items⟩,
    unquoteString_quote⟩

/-- A value that looks like the end of a rule and the beginning of one. -/
def hostileMsg : OptionItem where
  key := IdentKeyword.msg.word
  keyTrimmed := by decide
  keyPlain := by decide
  noColon := by decide
  value := .quoted (lit "a\\\"; sid:1;) alert tcp (\\")

/-- A header for a rule with that value. -/
def anyHeader : HeaderTokens where
  action := lit "alert"
  protocol := lit "tcp"
  srcIp := lit "any"
  srcPort := lit "any)"
  direction := lit "->"
  dstIp := lit "any"
  dstPort := lit "80"

/-- The rule with that value has that one option. -/
theorem hostileMsg_read_back :
    (∃ options,
        tokenizeRule (renderRule anyHeader [hostileMsg]) =
            .ok (anyHeader, options) ∧
          options.map (fun option => (option.key.word, option.value)) =
            [(IdentKeyword.msg.word, hostileMsg.value.text?)]) ∧
      unquoteString hostileMsg.value.text? =
        some (lit "a\\\"; sid:1;) alert tcp (\\") :=
  ⟨tokenizer_inverts_rendering.1 anyHeader [hostileMsg] (by decide),
    tokenizer_inverts_rendering.2 _⟩

end IntrusionDetection
