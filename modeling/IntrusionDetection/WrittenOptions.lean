import IntrusionDetection.RuleRendering

namespace IntrusionDetection

open PyText FaultPrecedence

/-!
# Options that can be written

The values that the tokenizer can read, whatever their option does with them: a
scan of the value ends outside quotes and meets no semicolon there.  A line with
such options is read back as it was written, and a line that is read has such
options only.
-/

/-! ### The scan of a value -/

/-- Does a scan from here end outside quotes, without a `;` outside them? -/
def closes (inQuote : Bool) : Str → Bool
  | [] => !inQuote
  | char :: rest =>
      if char = codePoint '\\' then
        match rest with
        -- What comes after the text is escaped.
        | [] => !inQuote
        | _ :: later => closes inQuote later
      else if char = codePoint '"' then
        closes (!inQuote) rest
      else
        !(char = codePoint ';' && !inQuote) && closes inQuote rest

/-- A character that the scan does not look at. -/
theorem closes_other
    {char : CodePoint}
    (notEscapable : isEscapable char = false)
    (inQuote : Bool)
    (rest : Str) :
    closes inQuote (char :: rest) = closes inQuote rest := by
  simp only [isEscapable, Bool.or_eq_false_iff, decide_eq_false_iff_not]
    at notEscapable
  obtain ⟨⟨notSemicolon, notQuote⟩, notBackslash⟩ := notEscapable
  rw [closes.eq_def]
  simp [notSemicolon, notQuote, notBackslash]

/-- Blanks are not looked at. -/
theorem isEscapable_of_isBlank
    {char : CodePoint}
    (isBlank : isBlank char = true) :
    isEscapable char = false := by
  by_contra escapable
  have known := Bool.eq_true_of_not_eq_false escapable
  simp only [isEscapable, Bool.or_eq_true, decide_eq_true_eq] at known
  rcases known with (rfl | rfl) | rfl <;> cases isBlank

/-- The scanner goes over a closed text, a blank after it included. -/
theorem splitPieces_closes
    {inQuote : Bool}
    {text : Str}
    (isClosed : closes inQuote text = true)
    (current tail : Str) :
    splitPieces inQuote current (text ++ blank :: tail) =
      splitPieces false (current ++ text ++ [blank]) tail := by
  have blankOther := isEscapable_of_isBlank isBlank_blank
  induction inQuote, text using closes.induct generalizing current with
  | case1 inQuote =>
      cases inQuote with
      | true =>
          cases isClosed
      | false =>
          rw [List.nil_append, splitPieces_other _ _ _ blankOther,
            List.append_nil]
  | case2 inQuote =>
      cases inQuote with
      | true =>
          cases isClosed
      | false =>
          rw [List.singleton_append, splitPieces_backslash]
          simp
  | case3 inQuote next later inductionHypothesis =>
      rw [List.cons_append, List.cons_append, splitPieces_backslash]
      rw [closes.eq_def] at isClosed
      rw [inductionHypothesis isClosed]
      simp
  | case4 inQuote rest notBackslash inductionHypothesis =>
      rw [closes.eq_def] at isClosed
      simp only [notBackslash, if_false, if_true] at isClosed
      rw [List.cons_append, splitPieces_quotationMark,
        inductionHypothesis isClosed]
      simp
  | case5 inQuote char rest notBackslash notQuote inductionHypothesis =>
      rw [closes.eq_def] at isClosed
      simp only [notBackslash, notQuote, if_false, Bool.and_eq_true,
        Bool.not_eq_true', Bool.and_eq_false_iff, decide_eq_false_iff_not]
        at isClosed
      have passed :
          splitPieces inQuote current (char :: (rest ++ blank :: tail)) =
            splitPieces inQuote (current ++ [char]) (rest ++ blank :: tail) := by
        rw [splitPieces.eq_def]
        simp only [notBackslash, notQuote, if_false]
        rw [if_neg]
        rintro ⟨isSemicolon, outside⟩
        simp [isSemicolon, outside] at isClosed
      rw [List.cons_append, passed, inductionHypothesis isClosed.2]
      simp

/-- What the scanner cuts out is closed. -/
theorem closes_of_splitPieces
    {inQuote : Bool}
    {current text : Str}
    {pieces : List Str}
    (isCut : splitPieces inQuote current text = some pieces) :
    ∃ first others,
      pieces = (current ++ first) :: others ∧
        closes inQuote first = true ∧
        ∀ piece ∈ others, closes false piece = true := by
  induction inQuote, current, text using splitPieces.induct
    generalizing pieces with
  | case1 current =>
      cases isCut
  | case2 inQuote current outside =>
      rw [splitPieces, if_neg outside] at isCut
      cases isCut
      refine ⟨[], [], by rw [List.append_nil], ?_, by simp⟩
      simpa [closes] using outside
  | case3 inQuote current _ =>
      rw [splitPieces.eq_def] at isCut
      simp only [if_true] at isCut
      cases inQuote with
      | true =>
          cases isCut
      | false =>
          cases isCut
          exact ⟨[codePoint '\\'], [], rfl, rfl, by simp⟩
  | case4 inQuote current next later inductionHypothesis =>
      rw [splitPieces_backslash] at isCut
      obtain ⟨first, others, isPieces, firstCloses, othersClose⟩ :=
        inductionHypothesis isCut
      refine ⟨codePoint '\\' :: next :: first, others, ?_, ?_, othersClose⟩
      · rw [isPieces]
        simp
      · rw [closes.eq_def]
        simpa using firstCloses
  | case5 inQuote current char rest notBackslash quoted cut =>
      rename_i inductionHypothesis
      simp only [quoted] at cut inductionHypothesis
      obtain ⟨isSemicolon, outside⟩ := cut
      have notQuote : char ≠ codePoint '"' := by
        rw [isSemicolon]
        decide
      rw [if_neg notQuote] at outside inductionHypothesis
      rw [isSemicolon, outside, splitPieces_semicolon] at isCut
      obtain ⟨pieces, isLater, rfl⟩ := Option.map_eq_some_iff.mp isCut
      rw [outside] at inductionHypothesis
      obtain ⟨first, others, rfl, firstCloses, othersClose⟩ :=
        inductionHypothesis isLater
      refine ⟨[], first :: others, by simp, by rw [outside]; rfl, ?_⟩
      exact List.forall_mem_cons.mpr ⟨firstCloses, othersClose⟩
  | case6 inQuote current char rest notBackslash quoted notCut =>
      rename_i inductionHypothesis
      simp only [quoted] at notCut inductionHypothesis
      rw [splitPieces.eq_def] at isCut
      simp only [if_neg notBackslash] at isCut
      rw [if_neg notCut] at isCut
      obtain ⟨first, others, isPieces, firstCloses, othersClose⟩ :=
        inductionHypothesis isCut
      refine ⟨char :: first, others, ?_, ?_, othersClose⟩
      · rw [isPieces]
        simp
      · by_cases isQuote : char = codePoint '"'
        · rw [if_pos isQuote] at firstCloses
          rw [closes.eq_def]
          simp only [if_neg notBackslash, if_pos isQuote]
          exact firstCloses
        · rw [if_neg isQuote] at firstCloses notCut
          rw [closes.eq_def]
          simp only [if_neg notBackslash, if_neg isQuote, firstCloses,
            Bool.and_true, Bool.not_eq_true']
          rw [Bool.and_eq_false_iff, decide_eq_false_iff_not,
            Bool.not_eq_false']
          by_contra cut
          rw [not_or, not_not, Bool.not_eq_true] at cut
          exact notCut cut

/-! ### Blanks around a value -/

/-- Blanks at the start do not matter to the scan. -/
theorem closes_lstrip (inQuote : Bool) (text : Str) :
    closes inQuote (lstrip text) = closes inQuote text := by
  induction text with
  | nil =>
      rfl
  | cons char rest inductionHypothesis =>
      cases blank : isBlank char with
      | true =>
          rw [lstrip, List.dropWhile_cons_of_pos blank,
            closes_other (isEscapable_of_isBlank blank)]
          exact inductionHypothesis
      | false =>
          rw [lstrip, List.dropWhile_cons_of_neg (by simp [blank])]

/-- Nor does a blank at the end, which may be escaped. -/
theorem closes_concat
    {char : CodePoint}
    (blank : isBlank char = true)
    (inQuote : Bool)
    (text : Str) :
    closes inQuote (text ++ [char]) = closes inQuote text := by
  have other := isEscapable_of_isBlank blank
  induction inQuote, text using closes.induct with
  | case1 inQuote =>
      exact closes_other other inQuote []
  | case2 inQuote =>
      rfl
  | case3 inQuote next later inductionHypothesis =>
      rw [closes.eq_def]
      exact inductionHypothesis
  | case4 inQuote rest notBackslash inductionHypothesis =>
      rw [List.cons_append, closes.eq_def, closes.eq_def inQuote (_ :: rest)]
      simp only [if_neg notBackslash, if_true]
      exact inductionHypothesis
  | case5 inQuote first rest notBackslash notQuote inductionHypothesis =>
      rw [List.cons_append, closes.eq_def,
        closes.eq_def inQuote (first :: rest)]
      simp only [if_neg notBackslash, if_neg notQuote, inductionHypothesis]

/-- Blanks at the ends do not matter to the scan. -/
theorem closes_strip (inQuote : Bool) (text : Str) :
    closes inQuote (strip text) = closes inQuote text := by
  have trailing : ∀ text, closes inQuote (rstrip text) = closes inQuote text := by
    intro text
    induction text using List.reverseRecOn with
    | nil =>
        rfl
    | append_singleton others char inductionHypothesis =>
        cases blank : isBlank char with
        | true =>
            have dropped : rstrip [char] = [] := by
              rw [rstrip, List.rdropWhile_singleton, blank]
              rfl
            rw [rstrip_append, if_pos dropped, inductionHypothesis,
              closes_concat blank]
        | false =>
            have kept : rstrip [char] = [char] :=
              rstrip_cons blank []
            rw [rstrip_append, kept, if_neg (List.cons_ne_nil _ _)]
  rw [strip, trailing, closes_lstrip]

/-- The scan goes over plain text. -/
theorem closes_plain
    {text : Str}
    (isPlain : IsPlainOption text)
    (inQuote : Bool)
    (rest : Str) :
    closes inQuote (text ++ rest) = closes inQuote rest := by
  induction text with
  | nil =>
      rfl
  | cons char text inductionHypothesis =>
      obtain ⟨first, others⟩ := List.forall_mem_cons.mp isPlain
      rw [List.cons_append, closes_other first, inductionHypothesis others]

/-- A trimmed text has no blanks at its end. -/
theorem rstrip_of_trimmed
    {text : Str}
    (trimmed : strip text = text) :
    rstrip text = text := by
  rw [← trimmed]
  exact rstrip_rstrip _

/-- Only the end of a text that begins with a trimmed one is trimmed. -/
theorem strip_append_cons
    {text : Str}
    {char : CodePoint}
    (notEmpty : text ≠ [])
    (trimmed : strip text = text)
    (notBlank : isBlank char = false)
    (rest : Str) :
    strip (text ++ char :: rest) = text ++ char :: rstrip rest := by
  have leading :
      lstrip (text ++ char :: rest) = text ++ char :: rest := by
    cases text with
    | nil =>
        exact absurd rfl notEmpty
    | cons first others =>
        have first := (ends_of_strip_eq_self trimmed).1 first rfl
        rw [List.cons_append, lstrip, List.dropWhile_cons_of_neg]
        simp [first]
  rw [strip, leading, rstrip_append, rstrip_cons notBlank,
    if_neg (List.cons_ne_nil _ _)]

/-! ### Options -/

/-- A value that can be written after a colon. -/
def IsValue (value : Str) : Prop :=
  strip value = value ∧ closes false value = true

instance (value : Str) : Decidable (IsValue value) :=
  inferInstanceAs (Decidable (_ ∧ _))

namespace OptionPair

/-- An option that can be written. -/
structure Written (option : OptionPair) : Prop where
  supported : option.key ∈ Keyword.supported
  value : ∀ value ∈ option.value, IsValue value

/-- The option on a line, without its semicolon. -/
def piece (option : OptionPair) : Str :=
  option.key.word.text ++
    (option.value.map fun value =>
      codePoint ':' :: (value ++ [blank])).getD []

end OptionPair

/-- What the tokenizer needs to know of the supported keywords. -/
theorem facts_of_supported
    {key : Keyword}
    (isSupported : key ∈ Keyword.supported) :
    strip key.word.text = key.word.text ∧
      IsPlainOption key.word.text ∧
        codePoint ':' ∉ key.word.text ∧ Keyword.ofWord key.word = key := by
  have all :
      Keyword.supported.all (fun key =>
        strip key.word.text = key.word.text ∧
          IsPlainOption key.word.text ∧
            codePoint ':' ∉ key.word.text ∧
              Keyword.ofWord key.word = key) = true := by
    decide +kernel
  exact of_decide_eq_true (List.all_eq_true.mp all key isSupported)

section Written

variable {option : OptionPair} (written : option.Written)
include written

/-- The scanner cuts a written option at its semicolon. -/
theorem splitPieces_written (rest : Str) :
    splitPieces false [] (option.piece ++ codePoint ';' :: rest) =
      (splitPieces false [] rest).map (option.piece :: ·) := by
  obtain ⟨_, isPlain, _, _⟩ := facts_of_supported written.supported
  have colon : isEscapable (codePoint ':') = false := by decide
  rw [← splitPieces_semicolon]
  cases isValue : option.value with
  | none =>
      simp only [OptionPair.piece, isValue, Option.map_none,
        Option.getD_none, List.append_nil]
      exact splitPieces_plain isPlain false [] _
  | some value =>
      have isClosed := (written.value value isValue).2
      simp only [OptionPair.piece, isValue, Option.map_some,
        Option.getD_some, List.append_assoc, List.cons_append,
        List.nil_append]
      rw [splitPieces_plain isPlain, splitPieces_other _ _ _ colon,
        splitPieces_closes isClosed]
      simp

/-- A written option is read back. -/
theorem parsePiece_written :
    parsePiece option.piece = .ok (some option) := by
  obtain ⟨trimmed, _, noColon, isKey⟩ :=
    facts_of_supported written.supported
  have notEmpty := option.key.word.notEmpty
  have isWord : Word.of? option.key.word.text = some option.key.word :=
    dif_pos notEmpty
  have sameValue : option.value.map strip = option.value := by
    cases isValue : option.value with
    | none =>
        rfl
    | some value =>
        rw [Option.map_some, (written.value value isValue).1]
  cases isValue : option.value with
  | none =>
      have piece : option.piece = option.key.word.text := by
        simp only [OptionPair.piece, isValue, Option.map_none,
          Option.getD_none, List.append_nil]
      simp only [parsePiece, piece, trimmed, if_neg notEmpty,
        partition_of_notMem noColon, isWord, isKey, ← isValue]
      rw [sameValue]
  | some value =>
      have isTrimmed := (written.value value isValue).1
      have ended : rstrip (value ++ [blank]) = value := by
        have dropped : rstrip [blank] = [] := by
          decide
        rw [rstrip_append, if_pos dropped, rstrip_of_trimmed isTrimmed]
      have piece :
          strip option.piece =
            option.key.word.text ++ codePoint ':' :: value := by
        simp only [OptionPair.piece, isValue, Option.map_some,
          Option.getD_some]
        rw [strip_append_cons notEmpty trimmed (by decide), ended]
      have visible :
          option.key.word.text ++ codePoint ':' :: value ≠ [] := by
        simp
      simp only [parsePiece, piece, if_neg visible,
        partition_append noColon, trimmed, isWord, isKey, ← isValue]
      rw [sameValue]

end Written

/-- Options are written one after the other. -/
def optionsText (options : List OptionPair) : Str :=
  options.flatMap fun option => option.piece ++ [codePoint ';']

/-- Written options are read back in their order. -/
theorem splitOptions_written
    {options : List OptionPair}
    (written : ∀ option ∈ options, option.Written) :
    splitOptions (optionsText options) = .ok options := by
  have cut :
      splitPieces false [] (optionsText options) =
        some (options.map OptionPair.piece ++ [[]]) := by
    induction options with
    | nil =>
        rfl
    | cons option rest inductionHypothesis =>
        obtain ⟨first, others⟩ := List.forall_mem_cons.mp written
        rw [optionsText, List.flatMap_cons, List.append_assoc,
          List.singleton_append, splitPieces_written first]
        change (splitPieces false [] (optionsText rest)).map _ = _
        rw [inductionHypothesis others]
        rfl
  have parsed :
      (options.map OptionPair.piece ++ [[]]).mapM parsePiece =
        .ok (options.map some ++ [none]) := by
    clear cut
    induction options with
    | nil =>
        rfl
    | cons option rest inductionHypothesis =>
        obtain ⟨first, others⟩ := List.forall_mem_cons.mp written
        rw [List.map_cons, List.cons_append, List.mapM_cons,
          parsePiece_written first, inductionHypothesis others]
        rfl
  have reduced :
      (options.map some ++ [none]).reduceOption = options := by
    rw [List.reduceOption_append, List.reduceOption, List.filterMap_map]
    simp
  rw [splitOptions, cut]
  simp only [parsed, Except.map, reduced]

/-- A line with seven words and options. -/
def lineOf (tokens : HeaderTokens) (options : List OptionPair) : Str :=
  [blank].intercalate tokens.list ++
    (codePoint '(' :: (optionsText options ++ [codePoint ')']))

/-- A line is read back. -/
theorem tokenizeRule_lineOf
    {tokens : HeaderTokens}
    {options : List OptionPair}
    (areWords : ∀ word ∈ tokens.list, IsHeaderWord word)
    (written : ∀ option ∈ options, option.Written) :
    tokenizeRule (lineOf tokens options) = .ok (tokens, options) := by
  let header := [blank].intercalate tokens.list
  let body := optionsText options
  let upToClose := header ++ codePoint '(' :: body
  let text := lineOf tokens options
  have atOpen : text = header ++ codePoint '(' :: (body ++ [codePoint ')']) :=
    rfl
  have atClose : text = upToClose ++ [codePoint ')'] := by
    simp [atOpen, upToClose]
  have trimmed : strip text = text := by
    obtain ⟨notEmpty, noBlanks, _⟩ :=
      areWords tokens.action List.mem_cons_self
    apply strip_eq_self
    · intro char isFirst
      rw [atOpen] at isFirst
      simp only [header, HeaderTokens.list] at isFirst
      rw [List.intercalate_cons_cons, List.append_assoc,
        List.append_assoc, List.head?_append_of_ne_nil _ notEmpty]
        at isFirst
      exact noBlanks char (List.mem_of_head? isFirst)
    · intro char isLast
      have same : codePoint ')' = char := by
        simpa [atClose] using isLast
      rw [← same]
      decide
  have opens : find? (codePoint '(') text = some header.length := by
    rw [atOpen]
    exact find?_append (paren_notMem_header areWords) _
  have closes : rfind? (codePoint ')') text = some upToClose.length := by
    rw [atClose]
    exact rfind?_concat _ _
  have nothingAfter : text.drop (upToClose.length + 1) = [] := by
    simp [atClose]
  have ordered : ¬ upToClose.length < header.length := by
    simp [upToClose]
  have accepted :
      ¬ (upToClose.length < header.length ∨ strip ([] : Str) ≠ []) := by
    rintro (early | left)
    · exact ordered early
    · exact left rfl
  have inside :
      (text.take upToClose.length).drop (header.length + 1) = body := by
    rw [atClose, List.take_left]
    simp [upToClose]
  have before : text.take header.length = header := by
    rw [atOpen, List.take_left]
  have readWords : words header = tokens.list :=
    words_intercalate isBlank_blank
      (fun word member => (areWords word member).1)
      (fun word member => (areWords word member).2.1)
  have readOptions : splitOptions body = .ok options :=
    splitOptions_written written
  change tokenizeRule text = _
  simp only [tokenizeRule, trimmed, opens, closes, nothingAfter,
    if_neg accepted, inside, readOptions, before, readWords]
  rfl

/-! ### The options of a line that is read -/

/-- A text is plain if it is plain between its blanks. -/
theorem isPlain_of_strip
    {text : Str}
    (isPlain : IsPlainOption (strip text)) :
    IsPlainOption text := by
  intro char member
  cases blank : isBlank char with
  | true =>
      exact isEscapable_of_isBlank blank
  | false =>
      exact isPlain char ((mem_strip_iff blank).mpr member)

/-- An option that is read from a closed piece can be written. -/
theorem written_of_parsePiece
    {piece : Str}
    {option : OptionPair}
    (isClosed : closes false piece = true)
    (isSupported : option.key ∈ Keyword.supported)
    (isRead : parsePiece piece = .ok (some option)) :
    option.Written := by
  simp only [parsePiece] at isRead
  split at isRead
  · cases isRead
  · split at isRead
    · cases isRead
    · rename_i word isWord
      cases isRead
      refine ⟨isSupported, ?_⟩
      intro value isValue
      obtain ⟨inner, isInner, rfl⟩ := Option.map_eq_some_iff.mp isValue
      have isKey : strip (partition (codePoint ':') (strip piece)).1 =
          word.text := by
        rw [Word.of?] at isWord
        split at isWord
        · cases isWord
          rfl
        · cases isWord
      have isPlain :
          IsPlainOption (partition (codePoint ':') (strip piece)).1 := by
        apply isPlain_of_strip
        have plainKey := (facts_of_supported isSupported).2.1
        rw [Keyword.word_ofWord] at plainKey
        rw [isKey]
        exact plainKey
      have whole :
          strip piece =
            (partition (codePoint ':') (strip piece)).1 ++
              codePoint ':' :: inner :=
        eq_of_partition_some (Prod.ext rfl isInner)
      have colon : isEscapable (codePoint ':') = false := by decide
      refine ⟨strip_strip inner, ?_⟩
      rw [closes_strip, ← closes_other colon, ← closes_plain isPlain,
        ← whole, closes_strip]
      exact isClosed

/-- What a loop yields comes from one of its rounds. -/
theorem exists_of_mem_mapM
    {Item Value Error : Type}
    {read : Item → Except Error Value}
    {items : List Item}
    {values : List Value}
    (isRead : items.mapM read = .ok values)
    {value : Value}
    (member : value ∈ values) :
    ∃ item ∈ items, read item = .ok value := by
  induction items generalizing values with
  | nil =>
      cases isRead
      cases member
  | cons item rest inductionHypothesis =>
      rw [List.mapM_cons] at isRead
      obtain ⟨first, isFirst, isRead⟩ := exists_of_bind_ok isRead
      obtain ⟨others, isOthers, isRead⟩ := exists_of_bind_ok isRead
      cases isRead
      rcases List.mem_cons.mp member with rfl | isLater
      · exact ⟨item, List.mem_cons_self, isFirst⟩
      · obtain ⟨later, isMember, isValue⟩ :=
          inductionHypothesis isOthers isLater
        exact ⟨later, List.mem_cons_of_mem item isMember, isValue⟩

/-- The options of a line can be written, if they are supported. -/
theorem written_of_tokenizeRule
    {text : Str}
    {tokens : HeaderTokens}
    {options : List OptionPair}
    (isRead : tokenizeRule text = .ok (tokens, options))
    (supported : ∀ option ∈ options, option.key ∈ Keyword.supported) :
    ∀ option ∈ options, option.Written := by
  have isSplit : ∃ body, splitOptions body = .ok options := by
    simp only [tokenizeRule] at isRead
    split at isRead
    · split at isRead
      · cases isRead
      · split at isRead
        · cases isRead
        · rename_i read isSplit
          split at isRead
          · cases isRead
          · cases isRead
            exact ⟨_, isSplit⟩
    · cases isRead
  obtain ⟨body, isSplit⟩ := isSplit
  rw [splitOptions] at isSplit
  split at isSplit
  · cases isSplit
  · rename_i pieces isCut
    obtain ⟨first, others, isPieces, firstCloses, othersClose⟩ :=
      closes_of_splitPieces isCut
    rw [List.nil_append] at isPieces
    have allClosed : ∀ piece ∈ pieces, closes false piece = true := by
      rw [isPieces]
      exact List.forall_mem_cons.mpr ⟨firstCloses, othersClose⟩
    obtain ⟨parsed, isParsed, rfl⟩ := exists_of_map_ok isSplit
    intro option member
    obtain ⟨piece, isPiece, isOption⟩ :=
      exists_of_mem_mapM isParsed (List.reduceOption_mem_iff.mp member)
    exact written_of_parsePiece (allClosed piece isPiece)
      (supported option member) isOption

end IntrusionDetection
