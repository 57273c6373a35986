import IntrusionDetection.PyText

namespace PyText

/-!
# Splitting joined texts

Texts that were put together from parts, and taken apart again: at blanks, at
separators, at the first or the last occurrence of a character.
-/

/-! ### Texts without blanks at their ends -/

/-- A text is trimmed when neither of its ends is a blank. -/
theorem strip_eq_self
    {text : Str}
    (first : ∀ char ∈ text.head?, isBlank char = false)
    (last : ∀ char ∈ text.getLast?, isBlank char = false) :
    strip text = text := by
  have leading : lstrip text = text := by
    refine List.dropWhile_eq_self_iff.mpr fun nonempty => ?_
    have isFirst := first _ (List.head?_eq_getElem? ▸
      List.getElem?_eq_getElem nonempty)
    simp [isFirst]
  have trailing : rstrip text = text := by
    refine List.rdropWhile_eq_self_iff.mpr fun nonempty => ?_
    simp [last _ (List.getLast?_eq_some_getLast nonempty)]
  rw [strip, leading, trailing]

/-- A trimmed text is trimmed. -/
theorem strip_strip (text : Str) : strip (strip text) = strip text := by
  apply strip_eq_self
  · intro char isFirst
    obtain ⟨trailing, whole⟩ : strip text <+: lstrip text :=
      List.rdropWhile_prefix _ _
    have isHead : (lstrip text).head? = some char := by
      rw [← whole, List.head?_append, isFirst, Option.some_or]
    have notBlank := List.head?_dropWhile_not isBlank text
    rw [lstrip] at isHead
    rw [isHead] at notBlank
    exact notBlank
  · intro char isLast
    have nonempty : strip text ≠ [] :=
      List.ne_nil_of_mem (List.mem_of_getLast? isLast)
    rw [List.getLast?_eq_some_getLast nonempty, Option.mem_some] at isLast
    rw [← isLast, ← Bool.not_eq_true]
    exact List.rdropWhile_last_not isBlank (lstrip text) nonempty

/-- Only blanks are dropped at the start. -/
theorem mem_lstrip_iff
    {char : CodePoint}
    (notBlank : isBlank char = false)
    {text : Str} :
    char ∈ lstrip text ↔ char ∈ text := by
  induction text with
  | nil =>
      rfl
  | cons first rest inductionHypothesis =>
      cases blank : isBlank first with
      | false =>
          rw [lstrip, List.dropWhile_cons_of_neg (by simp [blank])]
      | true =>
          have different : char ≠ first := by
            rintro rfl
            rw [blank] at notBlank
            cases notBlank
          rw [lstrip, List.dropWhile_cons_of_pos blank, List.mem_cons]
          exact inductionHypothesis.trans
            (or_iff_right different).symm

/-- Only blanks are dropped at the ends. -/
theorem mem_strip_iff
    {char : CodePoint}
    (notBlank : isBlank char = false)
    {text : Str} :
    char ∈ strip text ↔ char ∈ text := by
  have trailing : char ∈ rstrip (lstrip text) ↔ char ∈ lstrip text := by
    rw [rstrip, List.rdropWhile, List.mem_reverse]
    exact (mem_lstrip_iff notBlank).trans List.mem_reverse
  exact trailing.trans (mem_lstrip_iff notBlank)

/-- Neither end of a trimmed text is a blank. -/
theorem ends_of_strip_eq_self
    {text : Str}
    (trimmed : strip text = text) :
    (∀ char ∈ text.head?, isBlank char = false) ∧
      ∀ char ∈ text.getLast?, isBlank char = false := by
  have leading : lstrip text = text := by
    have isSuffix : lstrip text <:+ text := List.dropWhile_suffix _
    have isPrefix : strip text <+: lstrip text :=
      List.rdropWhile_prefix _ _
    have long := isPrefix.length_le
    rw [trimmed] at long
    exact isSuffix.eq_of_length (isSuffix.length_le.antisymm long)
  have trailing : rstrip text = text := by
    rwa [strip, leading] at trimmed
  constructor
  · intro char isFirst
    have nonempty : 0 < text.length :=
      List.length_pos_of_mem (List.mem_of_head? isFirst)
    have notBlank :=
      List.dropWhile_eq_self_iff.mp leading nonempty
    rw [Option.mem_def, List.head?_eq_getElem?,
      List.getElem?_eq_getElem nonempty, Option.some.injEq] at isFirst
    simpa [isFirst] using notBlank
  · intro char isLast
    have nonempty : text ≠ [] :=
      List.ne_nil_of_mem (List.mem_of_getLast? isLast)
    have notBlank :=
      List.rdropWhile_eq_self_iff.mp trailing nonempty
    rw [Option.mem_def, List.getLast?_eq_some_getLast nonempty,
      Option.some.injEq] at isLast
    simpa [isLast] using notBlank

/-! ### Blanks at the ends -/

/-- The blanks dropped from two texts are those of the second, at least. -/
theorem rstrip_append (text tail : Str) :
    rstrip (text ++ tail) =
      if rstrip tail = [] then rstrip text else text ++ rstrip tail := by
  have empty :
      (tail.reverse.dropWhile isBlank).isEmpty = true ↔
        rstrip tail = [] := by
    rw [List.isEmpty_iff, rstrip, List.rdropWhile, List.reverse_eq_nil_iff]
  simp only [rstrip, List.rdropWhile, List.reverse_append,
    List.dropWhile_append]
  by_cases allBlank : rstrip tail = []
  · rw [if_pos (empty.mpr allBlank)]
    exact (if_pos allBlank).symm
  · rw [if_neg (mt empty.mp allBlank), List.reverse_append,
      List.reverse_reverse]
    exact (if_neg allBlank).symm

/-- A character that is no blank is kept. -/
theorem rstrip_cons
    {char : CodePoint}
    (notBlank : isBlank char = false)
    (tail : Str) :
    rstrip (char :: tail) = char :: rstrip tail := by
  have single : rstrip [char] = [char] := by
    rw [rstrip, List.rdropWhile_singleton, notBlank]
    rfl
  rw [← List.singleton_append, rstrip_append]
  split
  · rename_i empty
    rw [single, empty]
  · rfl

/-- What is left without the blanks at the end has none there. -/
@[simp] theorem rstrip_rstrip (text : Str) :
    rstrip (rstrip text) = rstrip text :=
  List.rdropWhile_idempotent _ _

/-- A text is its leading blanks and what is left without them. -/
theorem leading_append_lstrip (text : Str) :
    text.takeWhile isBlank ++ lstrip text = text :=
  List.takeWhile_append_dropWhile

/-- A text is blank when nothing is left without its leading blanks. -/
theorem strip_eq_nil_iff {text : Str} : strip text = [] ↔ lstrip text = [] := by
  constructor
  · intro allBlank
    by_contra notEmpty
    have first := List.head_dropWhile_not isBlank notEmpty
    have blank :=
      List.rdropWhile_eq_nil_iff.mp allBlank _ (List.head_mem notEmpty)
    exact Bool.false_ne_true (first.symm.trans blank)
  · intro empty
    rw [strip, empty]
    rfl

/-- The blanks before a text do not matter to its end. -/
theorem rstrip_eq_leading_append
    {text : Str}
    (notBlank : strip text ≠ []) :
    rstrip text = text.takeWhile isBlank ++ strip text := by
  conv_lhs => rw [← leading_append_lstrip text, rstrip_append]
  exact if_neg notBlank

/-- Leading blanks do not matter to what is left without blanks. -/
theorem strip_lstrip (text : Str) : strip (lstrip text) = strip text := by
  rw [strip, strip, lstrip, lstrip, List.dropWhile_idempotent]

/-! ### Cutting at a character -/

section Cut

variable {separator : CodePoint} {text : Str}

/-- A text without the separator is not cut. -/
theorem partition_of_notMem (absent : separator ∉ text) :
    partition separator text = (text, none) := by
  have before : ∀ char ∈ text, decide (char ≠ separator) = true :=
    fun char member =>
      decide_eq_true fun same => absent (same ▸ member)
  have taken := List.takeWhile_eq_self_iff.mpr before
  have dropped := List.dropWhile_eq_nil_iff.mpr before
  rw [partition, taken, dropped]

/-- A text is cut at the first separator. -/
theorem partition_append
    (absent : separator ∉ text)
    (after : Str) :
    partition separator (text ++ separator :: after) =
      (text, some after) := by
  have before : ∀ char ∈ text, decide (char ≠ separator) = true :=
    fun char member =>
      decide_eq_true fun same => absent (same ▸ member)
  have stops : decide (separator ≠ separator) = false := by simp
  rw [partition, List.takeWhile_append_of_pos before,
    List.dropWhile_append_of_pos before,
    List.takeWhile_cons_of_neg (by simp),
    List.dropWhile_cons_of_neg (by simp), List.append_nil]

/-- Without a separator the text is all that comes before one. -/
theorem eq_of_partition_none
    {before : Str}
    (split : partition separator text = (before, none)) :
    text = before := by
  by_cases present : separator ∈ text
  · obtain ⟨leading, trailing, whole, absent⟩ :=
      List.eq_append_cons_of_mem present
    rw [whole, partition_append absent] at split
    cases split
  · rw [partition_of_notMem present] at split
    exact (Prod.mk.inj split).1

/-- A text is put together again from what is around a separator. -/
theorem eq_of_partition_some
    {before after : Str}
    (split : partition separator text = (before, some after)) :
    text = before ++ separator :: after := by
  by_cases present : separator ∈ text
  · obtain ⟨leading, trailing, whole, absent⟩ :=
      List.eq_append_cons_of_mem present
    rw [whole, partition_append absent] at split
    cases split
    exact whole
  · rw [partition_of_notMem present] at split
    cases split

/-- Blanks at the ends do not matter to what comes before a separator. -/
theorem strip_partition_strip
    (notBlank : isBlank separator = false)
    (text : Str) :
    strip (partition separator (strip text)).1 =
      strip (partition separator text).1 := by
  by_cases present : separator ∈ text
  · obtain ⟨before, after, whole, absent⟩ :=
      List.eq_append_cons_of_mem present
    have leading : lstrip text = lstrip before ++ separator :: after := by
      rw [whole, lstrip, lstrip, List.dropWhile_append,
        List.dropWhile_cons_of_neg (by simp [notBlank])]
      split
      · rename_i empty
        rw [List.isEmpty_iff.mp empty, List.nil_append]
      · rfl
    have trimmed :
        strip text = lstrip before ++ separator :: rstrip after := by
      rw [strip, leading, rstrip_append, rstrip_cons notBlank]
      exact if_neg (List.cons_ne_nil _ _)
    have stillAbsent : separator ∉ lstrip before :=
      mt (mem_lstrip_iff notBlank).mp absent
    rw [trimmed, partition_append stillAbsent, whole,
      partition_append absent]
    exact strip_lstrip before
  · rw [partition_of_notMem present,
      partition_of_notMem (mt (mem_strip_iff notBlank).mp present)]
    exact strip_strip text

/-- The first occurrence of a character that does not come before. -/
theorem find?_append
    (absent : separator ∉ text)
    (after : Str) :
    find? separator (text ++ separator :: after) = some text.length := by
  have before : text.findIdx? (fun char => char = separator) = none := by
    rw [List.findIdx?_eq_none_iff]
    intro char member
    exact decide_eq_false fun same => absent (same ▸ member)
  simp [find?, List.findIdx?_append, before, List.findIdx?_cons]

/-- The last occurrence of the last character. -/
theorem rfind?_concat (separator : CodePoint) (text : Str) :
    rfind? separator (text ++ [separator]) = some text.length := by
  simp [rfind?, List.findIdx?_cons]

/-- Parts joined by a separator that is in none of them are split again. -/
theorem splitAt_intercalate
    {parts : List Str}
    (notEmpty : parts ≠ [])
    (absent : ∀ part ∈ parts, separator ∉ part) :
    splitAt separator ([separator].intercalate parts) = parts :=
  List.splitOn_intercalate separator absent notEmpty

end Cut

/-! ### Joined parts -/

/-- A part that is added at the end is joined to those before it. -/
theorem intercalate_concat
    (separator part : Str)
    {parts : List Str}
    (notEmpty : parts ≠ []) :
    separator.intercalate (parts ++ [part]) =
      separator.intercalate parts ++ separator ++ part := by
  induction parts with
  | nil =>
      exact (notEmpty rfl).elim
  | cons first rest inductionHypothesis =>
      cases rest with
      | nil =>
          simp [List.intercalate_cons_cons]
      | cons second others =>
          have joined := inductionHypothesis (List.cons_ne_nil second others)
          simp only [List.cons_append, List.intercalate_cons_cons] at joined ⊢
          simp only [joined, List.append_assoc]

/-! ### Words -/

/-- Words joined by blanks are the pieces between the blanks. -/
theorem splitOnP_intercalate
    {separator : CodePoint}
    (isSeparator : isBlank separator = true)
    {parts : List Str}
    (notEmpty : parts ≠ [])
    (noBlanks : ∀ part ∈ parts, ∀ char ∈ part, isBlank char = false) :
    ([separator].intercalate parts).splitOnP isBlank = parts := by
  induction parts with
  | nil =>
      exact absurd rfl notEmpty
  | cons part rest inductionHypothesis =>
      obtain ⟨inside, later⟩ := List.forall_mem_cons.mp noBlanks
      cases rest with
      | nil =>
          rw [List.intercalate_singleton]
          exact List.splitOnP_eq_singleton inside
      | cons next others =>
          have split := inductionHypothesis (by simp) later
          rw [List.intercalate_cons_cons, List.append_assoc,
            List.singleton_append,
            List.splitOnP_append_cons_of_forall_mem inside _ isSeparator,
            split]

/-- Words joined by blanks are found again. -/
theorem words_intercalate
    {separator : CodePoint}
    (isSeparator : isBlank separator = true)
    {parts : List Str}
    (noneEmpty : ∀ part ∈ parts, part ≠ [])
    (noBlanks : ∀ part ∈ parts, ∀ char ∈ part, isBlank char = false) :
    words ([separator].intercalate parts) = parts := by
  cases parts with
  | nil =>
      rfl
  | cons part rest =>
      rw [words,
        splitOnP_intercalate isSeparator (List.cons_ne_nil part rest)
          noBlanks]
      exact List.filter_eq_self.mpr
        fun word member => decide_eq_true (noneEmpty word member)

end PyText
