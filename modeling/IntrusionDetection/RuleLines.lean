import IntrusionDetection.RuleFile
import IntrusionDetection.TextSplitting

namespace IntrusionDetection

open PyText

/-!
# Physical lines and rule lines

Every physical line of a rule file is read once, as a blank line, as a comment
or as part of a rule.  A rule should go on as long as its lines end in a
backslash.  The joining loop tests the text joined so far instead, which a
blank line does not change, so a second backslash at the end of a line carries
a rule over the blank line after it.
-/

/-- Is a line outside a rule blank? -/
def isBlankLine (line : Str) : Bool :=
  strip line = []

/-- Is a line outside a rule a comment? -/
def isComment (line : Str) : Bool :=
  (strip line).head? = some (codePoint '#')

/-- A logical line with the physical lines it was read from. -/
inductive Segment where
  | blank (line : Str)
  | comment (line : Str)
  | rule (lines : List Str) (text : Str)

namespace Segment

/-- The physical lines of a segment. -/
def lines : Segment → List Str
  | blank line => [line]
  | comment line => [line]
  | rule lines _ => lines

/-- The logical line of a segment that starts at the given number. -/
def numbered (number : Nat) : Segment → LogicalLine
  | blank _ => .blank
  | comment _ => .comment
  | rule _ text => .rule number text

end Segment

/-- The loop of `iter_rule_lines`, with the lines it goes through. -/
def segments : List Str → List Segment
  | [] => []
  | line :: rest =>
      if isBlankLine line then
        .blank line :: segments rest
      else if isComment line then
        .comment line :: segments rest
      else
        let joined := joinContinued rest line
        .rule (line :: rest.take (rest.length - joined.2.length))
            joined.1 ::
          segments joined.2
termination_by lines => lines.length
decreasing_by
  · simp
  · simp
  · exact Nat.lt_succ_of_le (length_joinContinued rest line)

/-- The logical lines of segments, the first one starting at a number. -/
def numberSegments (number : Nat) : List Segment → List LogicalLine
  | [] => []
  | segment :: rest =>
      segment.numbered number ::
        numberSegments (number + segment.lines.length) rest

/-- The number and text of every rule line, in order. -/
def yieldsOf (lines : List LogicalLine) : List (Nat × Str) :=
  lines.filterMap fun line =>
    match line with
    | .rule lineNo text => some (lineNo, text)
    | _ => none

/-- The first line of every rule is neither blank nor a comment. -/
def Segment.StartsWell : Segment → Prop
  | .blank line => isBlankLine line = true
  | .comment line => isBlankLine line = false ∧ isComment line = true
  | .rule lines _ =>
      ∃ first more,
        lines = first :: more ∧ isBlankLine first = false ∧
          isComment first = false

/-- A rule goes on as long as its lines end in a backslash. -/
def Segment.EndsWell (atEnd : Prop) : Segment → Prop
  | .blank _ => True
  | .comment _ => True
  | .rule lines _ =>
      (∀ line ∈ lines.dropLast, continues line = true) ∧
        ((∃ last, lines.getLast? = some last ∧ continues last = false) ∨
          atEnd)

/-- Every rule ends well; only the last one may end with the file. -/
def EndWell : List Segment → Prop
  | [] => True
  | segment :: rest => segment.EndsWell (rest = []) ∧ EndWell rest

/-! ### Surplus backslashes -/

/-- Does a line end in two backslashes? -/
def endsTwice (line : Str) : Bool :=
  continues line && continues (withoutBackslash line)

/-- A lone backslash uses up one backslash and brings one. -/
def leftoverStep (left : Bool) (line : Str) : Bool :=
  if strip line = [codePoint '\\'] then left else endsTwice line

/--
Is a backslash left over after lines that go on?  It is one of the last line
that is more than a lone backslash.
-/
def leftover (lines : List Str) : Bool :=
  lines.foldl leftoverStep false

/-- Lines that go on, a blank line and more lines, and a backslash too many. -/
def isSurplus (left : Bool) (after : List Str) : Bool :=
  left && after.head?.any isBlankLine && !after.tail.isEmpty

/-- No rule is carried over a blank line by a backslash too many. -/
def noSurplus : List Str → Bool
  | [] => true
  | line :: rest =>
      if isBlankLine line || isComment line then
        noSurplus rest
      else
        let after := (line :: rest).dropWhile continues
        !isSurplus (leftover ((line :: rest).takeWhile continues)) after &&
          noSurplus after.tail
termination_by lines => lines.length
decreasing_by
  · simp
  · have shorter := List.length_dropWhile_le continues (line :: rest)
    simp only [List.length_tail, List.length_cons] at shorter ⊢
    omega

/-! ### Joining two lines -/

/-- The end of joined text is the end of the line it ends with. -/
theorem continues_join
    {line : Str}
    (notBlank : isBlankLine line = false)
    (text : Str) :
    continues (text ++ lstrip line) = continues line := by
  have notEmpty : strip line ≠ [] := of_decide_eq_false notBlank
  have ends : rstrip (text ++ lstrip line) = text ++ strip line := by
    rw [rstrip_append]
    exact if_neg notEmpty
  simp only [continues, ends, rstrip_eq_leading_append notEmpty,
    List.getLast?_append_of_ne_nil _ notEmpty]

/-- A lone backslash leaves the text before it. -/
theorem withoutBackslash_join_lone
    {line : Str}
    (lone : strip line = [codePoint '\\'])
    (text : Str) :
    withoutBackslash (text ++ lstrip line) = rstrip text := by
  have notEmpty : strip line ≠ [] := by simp [lone]
  have ends : rstrip (text ++ lstrip line) = text ++ strip line := by
    rw [rstrip_append]
    exact if_neg notEmpty
  rw [withoutBackslash, ends, lone, List.dropLast_concat]

/-- A line that goes on is not blank. -/
theorem notBlank_of_continues
    {line : Str}
    (goesOn : continues line = true) :
    isBlankLine line = false := by
  refine decide_eq_false fun blank => ?_
  have empty : lstrip line = [] := strip_eq_nil_iff.mp blank
  have allBlank : rstrip line = [] :=
    List.rdropWhile_eq_nil_iff.mpr (List.dropWhile_eq_nil_iff.mp empty)
  rw [continues, allBlank] at goesOn
  cases goesOn

/-- The first character of a trimmed text is not blank. -/
theorem rstrip_ne_nil_of_prefix
    {start line : Str}
    (isPrefix : start <+: strip line)
    (notEmpty : start ≠ []) :
    rstrip start ≠ [] := by
  intro allBlank
  have inLine : start <+: lstrip line :=
    isPrefix.trans (List.rdropWhile_prefix _ _)
  obtain ⟨rest, joined⟩ := inLine
  have lineNotEmpty : lstrip line ≠ [] := by
    rw [← joined]
    exact List.append_ne_nil_of_left_ne_nil notEmpty rest
  have first := List.head_dropWhile_not isBlank lineNotEmpty
  have sameHead : (lstrip line).head lineNotEmpty = start.head notEmpty := by
    simp only [← joined, List.head_append_of_ne_nil notEmpty]
  have blank :=
    List.rdropWhile_eq_nil_iff.mp allBlank _ (List.head_mem notEmpty)
  rw [← sameHead] at blank
  exact Bool.false_ne_true (first.symm.trans blank)

/-- Any other line that goes on decides what is left after its backslash. -/
theorem continues_withoutBackslash
    {line : Str}
    (goesOn : continues line = true)
    (notLone : strip line ≠ [codePoint '\\'])
    (text : Str) :
    continues (withoutBackslash (text ++ lstrip line)) =
      continues (strip line).dropLast := by
  have notEmpty : strip line ≠ [] :=
    of_decide_eq_false (notBlank_of_continues goesOn)
  have ends : rstrip (text ++ lstrip line) = text ++ strip line := by
    rw [rstrip_append]
    exact if_neg notEmpty
  have isLast : (strip line).getLast? = some (codePoint '\\') := by
    have last := of_decide_eq_true goesOn
    rwa [rstrip_eq_leading_append notEmpty,
      List.getLast?_append_of_ne_nil _ notEmpty] at last
  have beforeNotEmpty : (strip line).dropLast ≠ [] := by
    intro empty
    refine notLone ?_
    rw [← List.dropLast_append_getLast? _ isLast, empty,
      List.nil_append]
  have beforeNotBlank : rstrip (strip line).dropLast ≠ [] :=
    rstrip_ne_nil_of_prefix (List.dropLast_prefix _) beforeNotEmpty
  have left :
      rstrip (text ++ (strip line).dropLast) =
        text ++ rstrip (strip line).dropLast := by
    rw [rstrip_append]
    exact if_neg beforeNotBlank
  have again :
      rstrip (text ++ rstrip (strip line).dropLast) =
        text ++ rstrip (strip line).dropLast := by
    rw [rstrip_append, rstrip_rstrip]
    exact if_neg beforeNotBlank
  rw [withoutBackslash, ends, List.dropLast_append_of_ne_nil notEmpty,
    left]
  simp only [continues, again,
    List.getLast?_append_of_ne_nil _ beforeNotBlank]

/-- What is left over of the text after one more line that goes on. -/
theorem leftover_join
    {line : Str}
    (goesOn : continues line = true)
    {text : Str}
    (trimmed : rstrip text = text) :
    continues (withoutBackslash (text ++ [codePoint ' '] ++ lstrip line)) =
      leftoverStep (continues text) line := by
  by_cases lone : strip line = [codePoint '\\']
  · have onlyBlank : rstrip [codePoint ' '] = [] := by decide
    have same : rstrip (text ++ [codePoint ' ']) = text := by
      rw [rstrip_append, trimmed]
      exact if_pos onlyBlank
    rw [withoutBackslash_join_lone lone, same, leftoverStep, if_pos lone]
  · have byItself :
        continues (withoutBackslash line) =
          continues (strip line).dropLast := by
      have split := continues_withoutBackslash goesOn lone
        (line.takeWhile isBlank)
      rwa [leading_append_lstrip] at split
    rw [continues_withoutBackslash goesOn lone, leftoverStep,
      if_neg lone, endsTwice, goesOn, Bool.true_and, byItself]

/-- What is left over after the first line of a rule. -/
theorem leftover_first
    {line : Str}
    (goesOn : continues line = true) :
    continues (withoutBackslash line) = leftoverStep false line := by
  by_cases lone : strip line = [codePoint '\\']
  · have alone := withoutBackslash_join_lone lone
      (line.takeWhile isBlank)
    have leading : rstrip (line.takeWhile isBlank) = [] :=
      List.rdropWhile_eq_nil_iff.mpr fun _ => List.mem_takeWhile_imp
    rw [leading_append_lstrip, leading] at alone
    rw [alone, leftoverStep, if_pos lone]
    rfl
  · rw [leftoverStep, if_neg lone, endsTwice, goesOn, Bool.true_and]

/-! ### Joining the lines of a rule -/

/-- Joined text that does not go on takes no further line. -/
theorem joinContinued_of_ends
    {text : Str}
    (ends : continues text = false)
    (rest : List Str) :
    (joinContinued rest text).2 = rest := by
  cases rest <;> simp [joinContinued, ends]

/-- Joined text that goes on takes the next line. -/
theorem length_joinContinued_cons
    {text : Str}
    (goesOn : continues text = true)
    (next : Str)
    (later : List Str) :
    (joinContinued (next :: later) text).2.length ≤ later.length := by
  simp only [joinContinued, goesOn, if_true]
  exact length_joinContinued later _

/-- A line that is not blank is joined after a blank. -/
theorem joinContinued_cons
    {text next : Str}
    (goesOn : continues text = true)
    (notBlank : isBlankLine next = false)
    (later : List Str) :
    joinContinued (next :: later) text =
      joinContinued later
        (withoutBackslash text ++ [codePoint ' '] ++ lstrip next) := by
  have notEmpty : lstrip next ≠ [] :=
    mt strip_eq_nil_iff.mpr (of_decide_eq_false notBlank)
  simp only [joinContinued, goesOn, if_true, if_pos notEmpty]

/-- A blank line only takes the backslash away. -/
theorem joinContinued_blank
    {text next : Str}
    (goesOn : continues text = true)
    (blank : isBlankLine next = true)
    (later : List Str) :
    joinContinued (next :: later) text =
      joinContinued later (withoutBackslash text) := by
  have empty : lstrip next = [] :=
    strip_eq_nil_iff.mp (of_decide_eq_true blank)
  simp [joinContinued, goesOn, empty]

/--
The joining loop stops after the first line that does not go on, or goes
further when that line is blank and a backslash is left over.
-/
theorem joinContinued_rest
    {text : Str}
    (goesOn : continues text = true)
    (rest : List Str) :
    let after := rest.dropWhile continues
    let left :=
      (rest.takeWhile continues).foldl leftoverStep
        (continues (withoutBackslash text))
    let joined := joinContinued rest text
    (isSurplus left after = false → joined.2 = after.tail) ∧
      (isSurplus left after = true →
        joined.2.length < after.tail.length) := by
  induction rest generalizing text with
  | nil =>
      intro after left joined
      simp [joined, joinContinued, goesOn, after, isSurplus]
  | cons next later inductionHypothesis =>
      intro after left joined
      have trimmed : rstrip (withoutBackslash text) = withoutBackslash text :=
        rstrip_rstrip _
      cases nextGoesOn : continues next with
      | true =>
          have notBlank := notBlank_of_continues nextGoesOn
          have stillGoesOn :
              continues
                (withoutBackslash text ++ [codePoint ' '] ++ lstrip next) =
                true := by
            rw [continues_join notBlank, nextGoesOn]
          have whole := inductionHypothesis stillGoesOn
          rw [leftover_join nextGoesOn trimmed] at whole
          simp only [joined, left, after,
            joinContinued_cons goesOn notBlank,
            List.takeWhile_cons_of_pos nextGoesOn,
            List.dropWhile_cons_of_pos nextGoesOn, List.foldl_cons]
          exact whole
      | false =>
          have ends : ¬ continues next = true := by simp [nextGoesOn]
          have isAfter : after = next :: later :=
            List.dropWhile_cons_of_neg ends
          have isLeft : left = continues (withoutBackslash text) := by
            simp only [left, List.takeWhile_cons_of_neg ends,
              List.foldl_nil]
          rw [isAfter, isLeft, List.tail_cons]
          cases blank : isBlankLine next with
          | false =>
              have stops :
                  continues
                    (withoutBackslash text ++ [codePoint ' '] ++
                      lstrip next) = false := by
                rw [continues_join blank, nextGoesOn]
              simp only [joined, joinContinued_cons goesOn blank,
                joinContinued_of_ends stops]
              simp [isSurplus, blank]
          | true =>
              simp only [joined, joinContinued_blank goesOn blank]
              cases leaves : continues (withoutBackslash text) with
              | false =>
                  simp [isSurplus, joinContinued_of_ends leaves]
              | true =>
                  cases later with
                  | nil =>
                      simp [isSurplus, joinContinued, leaves]
                  | cons further others =>
                      have taken :=
                        length_joinContinued_cons leaves further others
                      simp only [isSurplus, blank, List.head?_cons,
                        Option.any_some, List.tail_cons]
                      simpa using Nat.lt_succ_of_le taken

/-- The joining loop yields a tail of the lines it is given. -/
theorem joinContinued_suffix (rest : List Str) (text : Str) :
    (joinContinued rest text).2 <:+ rest := by
  induction rest generalizing text with
  | nil =>
      simp only [joinContinued]
      split <;> exact List.suffix_refl _
  | cons next later inductionHypothesis =>
      simp only [joinContinued]
      split
      · exact (inductionHypothesis _).trans (List.suffix_cons next later)
      · exact List.suffix_refl _

/-- The lines a rule takes and the lines after it are all the lines. -/
theorem taken_append_joinContinued (rest : List Str) (text : Str) :
    rest.take (rest.length - (joinContinued rest text).2.length) ++
        (joinContinued rest text).2 =
      rest := by
  obtain ⟨taken, joined⟩ := joinContinued_suffix rest text
  have length :
      rest.length - (joinContinued rest text).2.length = taken.length := by
    rw [← congrArg List.length joined, List.length_append,
      Nat.add_sub_cancel]
  rw [length]
  conv_rhs => rw [← joined]
  conv_lhs => arg 1; rw [← joined]
  rw [List.take_left]

/-! ### The segments of a file -/

/-- Every physical line is in one segment, in order. -/
theorem segments_lines (lines : List Str) :
    (segments lines).flatMap Segment.lines = lines := by
  induction lines using segments.induct with
  | case1 =>
      simp [segments]
  | case2 line rest blank inductionHypothesis =>
      simp [segments, blank, Segment.lines, inductionHypothesis]
  | case3 line rest notBlank comment inductionHypothesis =>
      simp [segments, notBlank, comment, Segment.lines,
        inductionHypothesis]
  | case4 line rest notBlank notComment joined inductionHypothesis =>
      rw [segments, if_neg notBlank, if_neg notComment, List.flatMap_cons,
        inductionHypothesis]
      simp only [Segment.lines, List.cons_append]
      rw [taken_append_joinContinued]

/-- Blank lines are blank, comments are comments and rules are neither. -/
theorem segments_startWell (lines : List Str) :
    ∀ segment ∈ segments lines, segment.StartsWell := by
  induction lines using segments.induct with
  | case1 =>
      simp [segments]
  | case2 line rest blank inductionHypothesis =>
      rw [segments, if_pos blank, List.forall_mem_cons]
      exact ⟨blank, inductionHypothesis⟩
  | case3 line rest notBlank comment inductionHypothesis =>
      rw [segments, if_neg notBlank, if_pos comment, List.forall_mem_cons]
      exact ⟨⟨Bool.eq_false_iff.mpr notBlank, comment⟩,
        inductionHypothesis⟩
  | case4 line rest notBlank notComment joined inductionHypothesis =>
      rw [segments, if_neg notBlank, if_neg notComment,
        List.forall_mem_cons]
      exact ⟨⟨line, _, rfl, Bool.eq_false_iff.mpr notBlank,
        Bool.eq_false_iff.mpr notComment⟩, inductionHypothesis⟩

/-- The logical lines are the segments, each under its first line. -/
theorem logicalLines_eq (number : Nat) (lines : List Str) :
    logicalLines number lines =
      numberSegments number (segments lines) := by
  induction lines using segments.induct generalizing number with
  | case1 =>
      simp [segments, logicalLines, numberSegments]
  | case2 line rest blank inductionHypothesis =>
      rw [segments, if_pos blank, logicalLines,
        if_pos (of_decide_eq_true blank), inductionHypothesis]
      rfl
  | case3 line rest notBlank comment inductionHypothesis =>
      have notEmpty : ¬ strip line = [] := mt decide_eq_true notBlank
      rw [segments, if_neg notBlank, if_pos comment, logicalLines,
        if_neg notEmpty, if_pos (of_decide_eq_true comment),
        inductionHypothesis]
      rfl
  | case4 line rest notBlank notComment joined inductionHypothesis =>
      have notEmpty : ¬ strip line = [] := mt decide_eq_true notBlank
      have notHash : ¬ (strip line).head? = some (codePoint '#') :=
        mt decide_eq_true notComment
      have taken :
          number + 1 + (rest.length - joined.2.length) =
            number +
              (line :: rest.take
                (rest.length - joined.2.length)).length := by
        rw [List.length_cons, List.length_take,
          Nat.min_eq_left (Nat.sub_le _ _)]
        omega
      rw [segments, if_neg notBlank, if_neg notComment, logicalLines,
        if_neg notEmpty, if_neg notHash]
      simp only [numberSegments, Segment.lines]
      rw [← taken, inductionHypothesis]
      rfl

/-- Only an empty file has no segments. -/
theorem segments_eq_nil_iff {lines : List Str} :
    segments lines = [] ↔ lines = [] := by
  constructor
  · intro empty
    have whole := segments_lines lines
    rw [empty] at whole
    exact whole.symm
  · rintro rfl
    simp [segments]

/-- A rule ends well just if no backslash too many carries it on. -/
theorem endsWell_iff
    {lines block later : List Str}
    (text : Str)
    (joined : block ++ later = lines)
    (stops :
      let after := lines.dropWhile continues
      let left := leftover (lines.takeWhile continues)
      (isSurplus left after = false → later = after.tail) ∧
        (isSurplus left after = true →
          later.length < after.tail.length)) :
    (Segment.rule block text).EndsWell (later = []) ↔
      isSurplus (leftover (lines.takeWhile continues))
        (lines.dropWhile continues) = false := by
  obtain ⟨notSurplus, surplus⟩ := stops
  have bodyGoesOn :
      ∀ line ∈ lines.takeWhile continues, continues line = true :=
    fun _ => List.mem_takeWhile_imp
  have whole :
      lines.takeWhile continues ++ lines.dropWhile continues =
        block ++ later :=
    List.takeWhile_append_dropWhile.trans joined.symm
  cases isAfter : lines.dropWhile continues with
  | nil =>
      rw [isAfter] at notSurplus whole
      have none : isSurplus (leftover (lines.takeWhile continues)) [] =
          false := by
        simp [isSurplus]
      have atEnd : later = [] := notSurplus none
      rw [atEnd, List.append_nil, List.append_nil] at whole
      refine iff_of_true ⟨?_, Or.inr atEnd⟩ none
      intro line member
      exact bodyGoesOn line (whole ▸ List.mem_of_mem_dropLast member)
  | cons last tail =>
      have stopsThere : continues last = false := by
        have notEmpty : lines.dropWhile continues ≠ [] := by
          simp [isAfter]
        have first := List.head_dropWhile_not continues notEmpty
        simpa only [isAfter, List.head_cons] using first
      rw [isAfter] at notSurplus surplus whole
      cases decided :
          isSurplus (leftover (lines.takeWhile continues))
            (last :: tail) with
      | false =>
          have isLater : later = tail := notSurplus decided
          have isBlock : block = lines.takeWhile continues ++ [last] := by
            rw [isLater, ← List.singleton_append,
              ← List.append_assoc] at whole
            exact (List.append_cancel_right whole).symm
          refine iff_of_true ⟨?_, Or.inl ⟨last, ?_, stopsThere⟩⟩ rfl
          · rw [isBlock, List.dropLast_concat]
            exact bodyGoesOn
          · rw [isBlock, List.getLast?_concat]
      | true =>
          have shorter : later.length < tail.length := surplus decided
          obtain ⟨more, isTail⟩ : later <:+ tail := by
            refine List.suffix_of_suffix_length_le
              (List.suffix_append block later) ?_ shorter.le
            rw [← whole]
            exact (List.suffix_cons last tail).trans
              (List.suffix_append _ _)
          have goesFurther : more ≠ [] := by
            rintro rfl
            rw [← isTail, List.nil_append] at shorter
            exact lt_irrefl _ shorter
          have isBlock :
              block = lines.takeWhile continues ++ last :: more := by
            rw [← isTail, ← List.cons_append,
              ← List.append_assoc] at whole
            exact (List.append_cancel_right whole).symm
          refine iff_of_false ?_ (by simp)
          rintro ⟨goesOn, _⟩
          have inside : last ∈ block.dropLast := by
            rw [isBlock, List.dropLast_append_of_ne_nil (by simp),
              List.dropLast_cons_of_ne_nil goesFurther]
            simp
          rw [goesOn last inside] at stopsThere
          cases stopsThere

/-- Where the joining loop stops, from the first line of a rule on. -/
theorem joinContinued_first (line : Str) (rest : List Str) :
    let after := (line :: rest).dropWhile continues
    let left := leftover ((line :: rest).takeWhile continues)
    let later := (joinContinued rest line).2
    (isSurplus left after = false → later = after.tail) ∧
      (isSurplus left after = true →
        later.length < after.tail.length) := by
  intro after left later
  cases goesOn : continues line with
  | false =>
      have ends : ¬ continues line = true := by simp [goesOn]
      simp only [after, left, later, joinContinued_of_ends goesOn,
        List.dropWhile_cons_of_neg ends, List.takeWhile_cons_of_neg ends]
      simp [leftover, isSurplus]
  | true =>
      have whole := joinContinued_rest goesOn rest
      rw [leftover_first goesOn] at whole
      simp only [after, left, later,
        List.dropWhile_cons_of_pos goesOn,
        List.takeWhile_cons_of_pos goesOn, leftover, List.foldl_cons]
      exact whole

/-- All rules end well just if no rule is carried too far. -/
theorem endWell_segments_iff (lines : List Str) :
    EndWell (segments lines) ↔ noSurplus lines = true := by
  induction lines using segments.induct with
  | case1 =>
      simp [segments, EndWell, noSurplus]
  | case2 line rest blank inductionHypothesis =>
      rw [segments, if_pos blank, noSurplus, blank, Bool.true_or,
        if_pos rfl, ← inductionHypothesis]
      exact and_iff_right trivial
  | case3 line rest notBlank comment inductionHypothesis =>
      rw [segments, if_neg notBlank, if_pos comment, noSurplus, comment,
        Bool.or_true, if_pos rfl, ← inductionHypothesis]
      exact and_iff_right trivial
  | case4 line rest notBlank notComment joined inductionHypothesis =>
      have stops := joinContinued_first line rest
      have outside : ¬ (isBlankLine line || isComment line) = true := by
        simp [notBlank, notComment]
      have whole :
          (line :: rest.take (rest.length - joined.2.length)) ++
              joined.2 =
            line :: rest := by
        rw [List.cons_append]
        exact congrArg _ (taken_append_joinContinued rest line)
      have ends := endsWell_iff joined.1 whole stops
      rw [segments, if_neg notBlank, if_neg notComment, noSurplus,
        if_neg outside]
      simp only [EndWell, segments_eq_nil_iff, Bool.and_eq_true,
        Bool.not_eq_true']
      refine (and_congr ends inductionHypothesis).trans ?_
      refine and_congr_right fun notSurplus => ?_
      rw [← stops.1 notSurplus]

/-! ### The lines of a file -/

/-- The numbers of rule lines do not come before the first line. -/
theorem le_of_mem_yieldsOf
    {segments : List Segment}
    {number : Nat}
    {yielded : Nat × Str}
    (member : yielded ∈ yieldsOf (numberSegments number segments)) :
    number ≤ yielded.1 := by
  induction segments generalizing number with
  | nil =>
      cases member
  | cons segment rest inductionHypothesis =>
      have later :
          yielded ∈
              yieldsOf (numberSegments (number + segment.lines.length)
                rest) →
            number ≤ yielded.1 :=
        fun inRest => Nat.le_of_add_right_le (inductionHypothesis inRest)
      cases segment with
      | blank line =>
          exact later member
      | comment line =>
          exact later member
      | rule lines text =>
          rcases List.mem_cons.mp member with rfl | inRest
          · exact Nat.le_refl number
          · exact later inRest

/-- The numbers of rule lines increase. -/
theorem yieldsOf_increasing
    {segments : List Segment}
    (startWell : ∀ segment ∈ segments, segment.StartsWell)
    (number : Nat) :
    ((yieldsOf (numberSegments number segments)).map Prod.fst).Pairwise
      (· < ·) := by
  induction segments generalizing number with
  | nil =>
      exact List.Pairwise.nil
  | cons segment rest inductionHypothesis =>
      obtain ⟨starts, others⟩ := List.forall_mem_cons.mp startWell
      have later :=
        inductionHypothesis others (number + segment.lines.length)
      cases segment with
      | blank line =>
          exact later
      | comment line =>
          exact later
      | rule lines text =>
          obtain ⟨first, more, rfl, _⟩ := starts
          refine List.pairwise_cons.mpr ⟨?_, later⟩
          intro next member
          obtain ⟨yielded, inRest, rfl⟩ := List.mem_map.mp member
          have bound := le_of_mem_yieldsOf inRest
          simp only [Segment.lines, List.length_cons] at bound
          omega

/-- Every logical line is counted once, under its kind. -/
theorem countLine_foldl (lines : List LogicalLine) (report : LoadReport) :
    let counted := lines.foldl LoadReport.countLine report
    report.totalLines + counted.blank + counted.comment +
        (yieldsOf lines).length =
      counted.totalLines + report.blank + report.comment := by
  induction lines generalizing report with
  | nil =>
      simp [yieldsOf]
  | cons line rest inductionHypothesis =>
      have later := inductionHypothesis (report.countLine line)
      cases line <;>
        simp only [List.foldl_cons, LoadReport.countLine, yieldsOf,
          List.filterMap_cons, List.length_cons] at later ⊢ <;>
        omega

/--
What the lines of a file should be: each is in one segment, the logical lines
are the segments with the numbers of their first lines, the segments are
counted, and rules begin and end where they should.
-/
structure Partitioned (content : Str) : Prop where
  partition :
    (segments (physicalLines content)).flatMap Segment.lines =
      physicalLines content
  numbered :
    iterRuleLines content =
      numberSegments 1 (segments (physicalLines content))
  increasing :
    ((yieldsOf (iterRuleLines content)).map Prod.fst).Pairwise (· < ·)
  counted :
    let report :=
      (iterRuleLines content).foldl LoadReport.countLine .zero
    report.blank + report.comment +
        (yieldsOf (iterRuleLines content)).length =
      report.totalLines
  startWell :
    ∀ segment ∈ segments (physicalLines content), segment.StartsWell
  endWell : EndWell (segments (physicalLines content))

/--
The lines of a file are partitioned as they should be, except that rules end
where they should just if no rule of the file is carried over a blank line by a
backslash too many.
-/
theorem partitioned_iff (content : Str) :
    Partitioned content ↔ noSurplus (physicalLines content) = true := by
  have numbered :
      iterRuleLines content =
        numberSegments 1 (segments (physicalLines content)) :=
    logicalLines_eq 1 _
  have startWell := segments_startWell (physicalLines content)
  constructor
  · intro partitioned
    exact (endWell_segments_iff _).mp partitioned.endWell
  · intro clean
    refine ⟨segments_lines _, numbered, ?_, ?_, startWell,
      (endWell_segments_iff _).mpr clean⟩
    · rw [numbered]
      exact yieldsOf_increasing startWell 1
    · have counted := countLine_foldl (iterRuleLines content) .zero
      simpa [LoadReport.zero] using counted

/-- A line that ends in two backslashes, a blank line and another rule. -/
def surplusFile : Str :=
  lit "a \\\\\n\nb\n"

/-- The other rule is swallowed, and the blank line goes on. -/
theorem surplusFile_not_partitioned : ¬ Partitioned surplusFile := by
  intro partitioned
  have carriedOver : noSurplus (physicalLines surplusFile) = false := by
    decide +kernel
  have clean := (endWell_segments_iff _).mp partitioned.endWell
  exact Bool.false_ne_true (carriedOver.symm.trans clean)

example : yieldsOf (iterRuleLines surplusFile) = [(1, lit "a b")] := by
  decide +kernel

end IntrusionDetection
