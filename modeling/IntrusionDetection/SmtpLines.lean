import IntrusionDetection.DecodedLines
import IntrusionDetection.SmtpParser

namespace IntrusionDetection

open PyText

namespace SmtpParser

/-!
# The three ways of cutting lines

The type of a packet is decided on lines of the decoded text, its header
section ends where a pattern of bytes matches, and the lines of that section
are cut by a third rule.  This module says what each of them finds, in terms
of the bytes of the packet.
-/

/-! ### The end of the header section -/

/-- What `\r?\n` matches. -/
def IsLineBreak (found : Bytes) : Prop :=
  found = [0x0A] ∨ found = [0x0D, 0x0A]

/-- What `HEADER_END_RE` matches. -/
def IsHeaderEnd (found : Bytes) : Prop :=
  ∃ first second,
    IsLineBreak first ∧ IsLineBreak second ∧ found = first ++ second

/-- Is there a line of nothing but its line end? -/
def HasBlankLine (bytes : Bytes) : Prop :=
  [0x0A, 0x0A] <:+: bytes ∨ [0x0A, 0x0D, 0x0A] <:+: bytes

instance (bytes : Bytes) : Decidable (HasBlankLine bytes) :=
  inferInstanceAs (Decidable (_ ∨ _))

/-- A line break at the front is found with its length. -/
theorem lineBreakLength?_eq_some_iff
    {bytes : Bytes}
    {length : Nat} :
    lineBreakLength? bytes = some length ↔
      ∃ found rest,
        IsLineBreak found ∧ found.length = length ∧
          bytes = found ++ rest := by
  constructor
  · intro found
    cases bytes with
    | nil =>
        cases found
    | cons first rest =>
        simp only [lineBreakLength?] at found
        split at found
        · rename_i isFeed
          subst isFeed
          exact ⟨[0x0A], rest, Or.inl rfl, Option.some.inj found, rfl⟩
        · split at found
          · rename_i isPair
            obtain ⟨rfl, next⟩ := isPair
            obtain ⟨others, rfl⟩ := List.head?_eq_some_iff.mp next
            exact ⟨[0x0D, 0x0A], others, Or.inr rfl,
              Option.some.inj found, rfl⟩
          · cases found
  · rintro ⟨found, rest, rfl | rfl, rfl, rfl⟩
    · rfl
    · rfl

/-- The end of a header section at the front is found with its length. -/
theorem headerEndLength?_eq_some_iff
    {bytes : Bytes}
    {length : Nat} :
    headerEndLength? bytes = some length ↔
      ∃ found rest,
        IsHeaderEnd found ∧ found.length = length ∧
          bytes = found ++ rest := by
  simp only [headerEndLength?, Option.bind_eq_bind, Option.pure_def,
    Option.bind_eq_some_iff, Option.some.injEq,
    lineBreakLength?_eq_some_iff]
  constructor
  · rintro ⟨_, ⟨first, rest, isFirst, rfl, rfl⟩,
      _, ⟨second, others, isSecond, rfl, same⟩, rfl⟩
    rw [List.drop_left] at same
    refine ⟨first ++ second, others,
      ⟨first, second, isFirst, isSecond, rfl⟩, List.length_append, ?_⟩
    rw [same, List.append_assoc]
  · rintro ⟨_, rest, ⟨first, second, isFirst, isSecond, rfl⟩, rfl, rfl⟩
    refine ⟨first.length, ⟨first, second ++ rest, isFirst, rfl,
      List.append_assoc _ _ _⟩, second.length,
      ⟨second, rest, isSecond, rfl, ?_⟩, List.length_append.symm⟩
    rw [List.append_assoc, List.drop_left]

namespace IsHeaderEnd

variable {found : Bytes}

/-- It consists of line feeds and carriage returns. -/
theorem mem
    (isEnd : IsHeaderEnd found)
    {byte : UInt8}
    (member : byte ∈ found) :
    byte = 0x0A ∨ byte = 0x0D := by
  obtain ⟨first, second, rfl | rfl, rfl | rfl, rfl⟩ := isEnd <;>
    simp at member <;> tauto

/-- Two of its bytes are line feeds. -/
theorem count (isEnd : IsHeaderEnd found) : found.count 0x0A = 2 := by
  obtain ⟨first, second, rfl | rfl, rfl | rfl, rfl⟩ := isEnd <;> rfl

/-- It ends in a line feed. -/
theorem getLast? (isEnd : IsHeaderEnd found) :
    found.getLast? = some 0x0A := by
  obtain ⟨first, second, rfl | rfl, rfl | rfl, rfl⟩ := isEnd <;> rfl

/-- It contains a blank line. -/
theorem hasBlankLine (isEnd : IsHeaderEnd found) :
    HasBlankLine found := by
  obtain ⟨first, second, isFirst, rfl | rfl, rfl⟩ := isEnd
  · left
    rcases isFirst with rfl | rfl
    · exact List.infix_refl _
    · exact ⟨[0x0D], [], rfl⟩
  · right
    rcases isFirst with rfl | rfl
    · exact List.infix_refl _
    · exact ⟨[0x0D], [], rfl⟩

end IsHeaderEnd

/-- A blank line contains the end of a header section. -/
theorem exists_of_hasBlankLine
    {bytes : Bytes}
    (has : HasBlankLine bytes) :
    ∃ before found after,
      IsHeaderEnd found ∧ bytes = before ++ found ++ after := by
  rcases has with ⟨before, after, whole⟩ | ⟨before, after, whole⟩
  · exact ⟨before, _, after,
      ⟨[0x0A], [0x0A], Or.inl rfl, Or.inl rfl, rfl⟩, whole.symm⟩
  · exact ⟨before, _, after,
      ⟨[0x0A], [0x0D, 0x0A], Or.inl rfl, Or.inr rfl, rfl⟩, whole.symm⟩

/-- Where there is more, there is a blank line as well. -/
theorem HasBlankLine.of_infix
    {bytes others : Bytes}
    (has : HasBlankLine bytes)
    (within : bytes <:+: others) :
    HasBlankLine others :=
  has.imp (·.trans within) (·.trans within)

/-- The search finds the end of a header section. -/
theorem exists_of_searchHeaderEnd
    {raw : Bytes}
    {span : Span}
    (found : searchHeaderEnd raw = some span) :
    ∃ before separator after,
      IsHeaderEnd separator ∧
        raw = before ++ separator ++ after ∧
        span.start = before.length ∧
        span.stop = (before ++ separator).length := by
  induction raw generalizing span with
  | nil =>
      cases found
  | cons byte rest inductionHypothesis =>
      rw [searchHeaderEnd] at found
      split at found
      · rename_i length atFront
        cases Option.some.inj found
        obtain ⟨separator, after, isEnd, rfl, whole⟩ :=
          headerEndLength?_eq_some_iff.mp atFront
        exact ⟨[], separator, after, isEnd, whole, rfl, rfl⟩
      · obtain ⟨later, foundLater, rfl⟩ := Option.map_eq_some_iff.mp found
        obtain ⟨before, separator, after, isEnd, rfl, start, stop⟩ :=
          inductionHypothesis foundLater
        exact ⟨byte :: before, separator, after, isEnd, rfl,
          congrArg Nat.succ start, congrArg Nat.succ stop⟩

/-- Nothing that ends a header section ends within another one. -/
theorem length_le_of_isHeaderEnd
    {before found separator rest after : Bytes}
    (isEnd : IsHeaderEnd found)
    (isSeparator : IsHeaderEnd separator)
    (same : separator ++ rest = before ++ found ++ after) :
    separator.length ≤ (before ++ found).length := by
  rcases List.append_eq_append_iff.mp same with
    ⟨tail, whole, _⟩ | ⟨tail, whole, _⟩
  · rw [whole]
    exact Nat.le_trans (Nat.le_add_right _ _)
      (Nat.le_of_eq List.length_append.symm)
  · -- The bytes that are too many end in a third line feed.
    rcases List.eq_nil_or_concat' tail with rfl | ⟨others, last, rfl⟩
    · rw [whole, List.append_nil]
    · have isFeed := isSeparator.getLast?
      rw [whole, ← List.append_assoc, List.getLast?_concat] at isFeed
      have count := isSeparator.count
      rw [whole, Option.some.inj isFeed] at count
      simp only [List.count_append, isEnd.count, List.count_singleton_self]
        at count
      omega

/-- The search finds the end of a header section that ends first. -/
theorem searchHeaderEnd_first
    {raw before found after : Bytes}
    (isEnd : IsHeaderEnd found)
    (whole : raw = before ++ found ++ after) :
    ∃ span,
      searchHeaderEnd raw = some span ∧
        span.stop ≤ (before ++ found).length := by
  induction raw generalizing before with
  | nil =>
      obtain ⟨first, second, rfl | rfl, rfl | rfl, rfl⟩ := isEnd <;>
        simp at whole
  | cons byte rest inductionHypothesis =>
      rw [searchHeaderEnd]
      split
      · rename_i length atFront
        obtain ⟨separator, others, isSeparator, rfl, same⟩ :=
          headerEndLength?_eq_some_iff.mp atFront
        exact ⟨_, rfl,
          length_le_of_isHeaderEnd isEnd isSeparator
            (same.symm.trans whole)⟩
      · rename_i notAtFront
        cases before with
        | nil =>
            have atFront :=
              headerEndLength?_eq_some_iff.mpr
                ⟨found, after, isEnd, rfl, whole⟩
            cases notAtFront.symm.trans atFront
        | cons first others =>
            obtain ⟨span, foundLater, stop⟩ :=
              inductionHypothesis (List.cons.inj whole).2
            rw [foundLater]
            exact ⟨_, rfl, Nat.succ_le_succ stop⟩

/-! ### The lines of the packet -/

/-- What the lines of a packet end in. -/
def lineSeparator (raw : Bytes) : Bytes :=
  if HasPair 0x0D 0x0A raw then [0x0D, 0x0A] else [0x0A]

/-- The lines of a packet. -/
def byteLines (raw : Bytes) : List Bytes :=
  if HasPair 0x0D 0x0A raw then
    splitPair 0x0D 0x0A raw
  else
    raw.splitOn 0x0A

/-- The packet is its lines with their ends. -/
theorem byteLines_joined (raw : Bytes) :
    (lineSeparator raw).intercalate (byteLines raw) = raw := by
  unfold lineSeparator byteLines
  split
  · exact intercalate_splitPair raw
  · exact List.intercalate_splitOn 0x0A

/-- `text.split` cuts at pairs. -/
theorem splitCrlf_eq_splitPair (text : Str) :
    splitCrlf text =
      splitPair (codePoint '\r') (codePoint '\n') text := by
  induction text using splitCrlf.induct with
  | case1 =>
      rfl
  | case2 char =>
      rfl
  | case3 first second rest isPair inductionHypothesis =>
      rw [splitCrlf, splitPair, if_pos isPair, if_pos isPair,
        inductionHypothesis]
  | case4 first second rest notPair split inductionHypothesis =>
      rw [inductionHypothesis] at split
      exact (splitPair_ne_nil _ split).elim
  | case5 first second rest notPair line lines split
      inductionHypothesis =>
      rw [splitCrlf, if_neg notPair, split]
      rw [inductionHypothesis] at split
      exact (splitPair_cons notPair split).symm

/-- The lines of the decoded text are the decoded lines of the packet. -/
theorem rawLines_decodeUtf8Replace (raw : Bytes) :
    rawLines (decodeUtf8Replace raw) =
      (byteLines raw).map decodeUtf8Replace := by
  have lines :
      splitCrlf (decodeUtf8Replace raw) =
        (splitPair 0x0D 0x0A raw).map decodeUtf8Replace := by
    rw [splitCrlf_eq_splitPair]
    exact @splitPair_decodeUtf8Replace 0x0D 0x0A (by decide) (by decide)
      (by decide) raw
  have feed :
      codePoint '\n' ∈ decodeUtf8Replace raw ↔ (0x0A : UInt8) ∈ raw :=
    @mem_decodeUtf8Replace_iff 0x0A (by decide) raw
  have split :
      splitAt (codePoint '\n') (decodeUtf8Replace raw) =
        (raw.splitOn 0x0A).map decodeUtf8Replace :=
    @splitAt_decodeUtf8Replace 0x0A (by decide) raw
  simp only [rawLines, lines, feed, split, List.length_map, byteLines]
  by_cases hasPair : HasPair 0x0D 0x0A raw
  · rw [if_neg fun single => splitPair_length_ne_one hasPair single.1,
      if_pos hasPair]
  · rw [if_neg hasPair, splitPair_of_without hasPair]
    by_cases hasFeed : (0x0A : UInt8) ∈ raw
    · rw [if_pos ⟨rfl, hasFeed⟩]
    · rw [if_neg fun both => hasFeed both.2,
        List.splitOn_eq_singleton hasFeed]

/-- A line of nothing but blanks. -/
def isBlankLine (line : Bytes) : Bool :=
  (strip (decodeUtf8Replace line)).isEmpty

/-- Where the first line that is not blank ends. -/
def endOfFirst (separatorLength : Nat) : List Bytes → Nat
  | [] => 0
  | line :: rest =>
      if isBlankLine line then
        line.length + separatorLength + endOfFirst separatorLength rest
      else
        line.length

/-- Where the first line of a packet that is not blank ends. -/
def firstLineEnd (raw : Bytes) : Nat :=
  endOfFirst (lineSeparator raw).length (byteLines raw)

/-- Joined lines begin with the first one. -/
theorem begins_intercalate
    (separator line : Bytes)
    (rest : List Bytes) :
    line <+: separator.intercalate (line :: rest) := by
  cases rest with
  | nil =>
      simp
  | cons next others =>
      rw [List.intercalate_cons_cons, List.append_assoc]
      exact List.prefix_append _ _

/-- The first line that is not blank, and what is around it. -/
theorem exists_of_firstNonEmpty
    {separator : Bytes}
    {lines : List Bytes}
    {text : Str}
    (isFirst :
      firstNonEmpty (lines.map decodeUtf8Replace) = some text) :
    ∃ before line after,
      decodeUtf8Replace line = text ∧
        separator.intercalate lines = before ++ line ++ after ∧
        endOfFirst separator.length lines = (before ++ line).length ∧
        (before = [] ∨ separator <:+ before) := by
  induction lines with
  | nil =>
      cases isFirst
  | cons line rest inductionHypothesis =>
      simp only [firstNonEmpty, List.map_cons, List.find?_cons]
        at isFirst
      cases blank : isBlankLine line with
      | false =>
          have notBlank :
              (strip (decodeUtf8Replace line)).isEmpty = false :=
            blank
          simp only [notBlank, Bool.not_false, Option.some.injEq]
            at isFirst
          obtain ⟨after, whole⟩ := begins_intercalate separator line rest
          refine ⟨[], line, after, isFirst, whole.symm, ?_, Or.inl rfl⟩
          simp [endOfFirst, blank]
      | true =>
          have isBlank :
              (strip (decodeUtf8Replace line)).isEmpty = true :=
            blank
          simp only [isBlank, Bool.not_true] at isFirst
          have notLast : rest ≠ [] := by
            rintro rfl
            cases isFirst
          obtain ⟨before, found, after, isText, whole, ends, isEnd⟩ :=
            inductionHypothesis isFirst
          refine ⟨line ++ separator ++ before, found, after, isText,
            ?_, ?_, Or.inr ?_⟩
          · rw [List.intercalate_cons_of_ne_nil notLast, whole]
            simp only [List.append_assoc]
          · simp only [endOfFirst, blank, if_true, ends,
              List.length_append]
            omega
          · rcases isEnd with rfl | isEnd
            · rw [List.append_nil]
              exact List.suffix_append _ _
            · exact isEnd.trans (List.suffix_append _ _)

/-! ### The lines of the header section -/

/-- A line feed ends the first line. -/
theorem splitLines_newline (rest : Str) :
    splitLines (codePoint '\n' :: rest) = [] :: splitLines rest := by
  cases rest with
  | nil =>
      rfl
  | cons second others =>
      rw [splitLines, if_pos rfl]

/-- There is a first line. -/
theorem splitLines_ne_nil (text : Str) : splitLines text ≠ [] := by
  cases text with
  | nil =>
      exact List.cons_ne_nil _ _
  | cons first rest =>
      cases rest with
      | nil =>
          rw [splitLines]
          split <;> exact List.cons_ne_nil _ _
      | cons second others =>
          rw [splitLines]
          split
          · exact List.cons_ne_nil _ _
          · split
            · exact List.cons_ne_nil _ _
            · split <;> exact List.cons_ne_nil _ _

/-- A character that ends no line is added to the first line. -/
theorem splitLines_cons
    {char : CodePoint}
    {rest line : Str}
    {lines : List Str}
    (notNewline : char ≠ codePoint '\n')
    (notPair :
      ¬ (char = codePoint '\r' ∧ rest.head? = some (codePoint '\n')))
    (split : splitLines rest = line :: lines) :
    splitLines (char :: rest) = (char :: line) :: lines := by
  cases rest with
  | nil =>
      rw [splitLines, if_neg notNewline]
      cases split
      rfl
  | cons next others =>
      have isNoPair : ¬ (char = codePoint '\r' ∧ next = codePoint '\n') := by
        rintro ⟨isReturn, rfl⟩
        exact notPair ⟨isReturn, rfl⟩
      rw [splitLines, if_neg notNewline, if_neg isNoPair, split]

/-- What follows a line feed is cut anew. -/
theorem exists_of_splitLines_append (before after : Str) :
    ∃ line lines,
      splitLines (before ++ codePoint '\n' :: after) =
        line :: lines ++ splitLines after := by
  have returnNoFeed : codePoint '\r' ≠ codePoint '\n' := by
    decide
  induction before using splitLines.induct with
  | case1 =>
      exact ⟨[], [], splitLines_newline after⟩
  | case2 =>
      refine ⟨[], [[]], ?_⟩
      rw [List.cons_append, splitLines_newline, List.nil_append,
        splitLines_newline]
      rfl
  | case3 char notFeed =>
      by_cases isReturn : char = codePoint '\r'
      · subst isReturn
        refine ⟨[], [], ?_⟩
        rw [List.cons_append, List.nil_append, splitLines,
          if_neg returnNoFeed, if_pos ⟨rfl, rfl⟩]
        rfl
      · refine ⟨[char], [], ?_⟩
        exact splitLines_cons notFeed (fun both => isReturn both.1)
          (splitLines_newline after)
  | case4 second rest inductionHypothesis =>
      obtain ⟨line, lines, split⟩ := inductionHypothesis
      refine ⟨[], line :: lines, ?_⟩
      rw [List.cons_append, splitLines_newline, split]
      rfl
  | case5 first second rest notFeed isPair inductionHypothesis =>
      obtain ⟨line, lines, split⟩ := inductionHypothesis
      refine ⟨[], line :: lines, ?_⟩
      rw [List.cons_append, List.cons_append, splitLines, if_neg notFeed,
        if_pos isPair, split]
      rfl
  | case6 first second rest notFeed notPair empty inductionHypothesis =>
      exact (splitLines_ne_nil _ empty).elim
  | case7 first second rest notFeed notPair line lines split
      inductionHypothesis =>
      obtain ⟨line, lines, split⟩ := inductionHypothesis
      refine ⟨first :: line, lines, ?_⟩
      apply splitLines_cons notFeed _ split
      rintro ⟨isReturn, next⟩
      exact notPair ⟨isReturn, Option.some.inj next⟩

/-- Characters that end no line stay in front of the first line. -/
theorem exists_of_splitLines_name
    {name : Str}
    (noFeed : codePoint '\n' ∉ name)
    (noReturn : codePoint '\r' ∉ name)
    (rest : Str) :
    ∃ line lines, splitLines (name ++ rest) = (name ++ line) :: lines := by
  induction name with
  | nil =>
      obtain ⟨line, lines, split⟩ :=
        List.exists_cons_of_ne_nil (splitLines_ne_nil rest)
      exact ⟨line, lines, split⟩
  | cons char name inductionHypothesis =>
      rw [List.mem_cons, not_or] at noFeed noReturn
      obtain ⟨line, lines, split⟩ :=
        inductionHypothesis noFeed.2 noReturn.2
      refine ⟨line, lines, ?_⟩
      exact splitLines_cons (Ne.symm noFeed.1)
        (fun both => noReturn.1 both.1.symm) split

/-- No line of the header section contains a line feed. -/
theorem newline_not_mem_of_mem_splitLines (text : Str) :
    ∀ line ∈ splitLines text, codePoint '\n' ∉ line := by
  induction text using splitLines.induct with
  | case1 =>
      simp [splitLines]
  | case2 =>
      simp [splitLines]
  | case3 char notFeed =>
      simp [splitLines, notFeed, Ne.symm notFeed]
  | case4 second rest inductionHypothesis =>
      rw [splitLines_newline, List.forall_mem_cons]
      exact ⟨List.not_mem_nil, inductionHypothesis⟩
  | case5 first second rest notFeed isPair inductionHypothesis =>
      rw [splitLines, if_neg notFeed, if_pos isPair, List.forall_mem_cons]
      exact ⟨List.not_mem_nil, inductionHypothesis⟩
  | case6 first second rest notFeed notPair empty inductionHypothesis =>
      exact (splitLines_ne_nil _ empty).elim
  | case7 first second rest notFeed notPair line lines split
      inductionHypothesis =>
      rw [split, List.forall_mem_cons] at inductionHypothesis
      rw [splitLines, if_neg notFeed, if_neg notPair, split,
        List.forall_mem_cons, List.mem_cons, not_or]
      exact ⟨⟨Ne.symm notFeed, inductionHypothesis.1⟩,
        inductionHypothesis.2⟩

end SmtpParser

end IntrusionDetection
