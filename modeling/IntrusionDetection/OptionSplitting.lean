import IntrusionDetection.NamedFaults
import IntrusionDetection.RuleRendering

namespace IntrusionDetection

open PyText

/-!
# Where the options of a rule are cut

The scanner of `_split_options` is a loop over an index that skips the
character after a backslash.  It ends with every character in exactly one
piece, and where it cuts can be told from the text alone.
-/

/-- What the loop of `_split_options` keeps. -/
structure SplitState where
  index : Nat
  pieces : List Str
  current : Str
  inQuote : Bool

namespace SplitState

/-- Before the first character. -/
def start : SplitState where
  index := 0
  pieces := []
  current := []
  inQuote := false

/-- A quotation mark begins or ends a quote. -/
def quoteAfter (inQuote : Bool) (char : CodePoint) : Bool :=
  if char = codePoint '"' then !inQuote else inQuote

/-- Read a character that does not open a backslash pair. -/
def readChar (state : SplitState) (char : CodePoint) : SplitState :=
  if char = codePoint ';' ∧ quoteAfter state.inQuote char = false then
    { index := state.index + 1
      pieces := state.pieces ++ [state.current]
      current := []
      inQuote := quoteAfter state.inQuote char }
  else
    { index := state.index + 1
      pieces := state.pieces
      current := state.current ++ [char]
      inQuote := quoteAfter state.inQuote char }

/-- Read a backslash and the character that it escapes. -/
def readPair (state : SplitState) (char escaped : CodePoint) :
    SplitState :=
  { state with
    index := state.index + 2
    current := state.current ++ [char, escaped] }

/-- The loop body of `_split_options`. -/
def next
    (body : Str)
    (state : SplitState)
    (inside : state.index < body.length) :
    SplitState :=
  let char := body[state.index]
  if escapes :
      char = codePoint '\\' ∧ state.index + 1 < body.length then
    state.readPair char body[state.index + 1]
  else
    state.readChar char

/-- One character is read. -/
theorem index_readChar (state : SplitState) (char : CodePoint) :
    (state.readChar char).index = state.index + 1 := by
  unfold readChar
  split
  · rfl
  · rfl

/-- The loop goes on. -/
theorem index_lt_next
    {body : Str}
    {state : SplitState}
    (inside : state.index < body.length) :
    state.index < (state.next body inside).index := by
  simp only [next]
  split
  · exact Nat.lt_add_of_pos_right Nat.two_pos
  · rw [index_readChar]
    exact Nat.lt_add_one _

/-- The loop of `_split_options`. -/
def scan (body : Str) (state : SplitState) : SplitState :=
  if inside : state.index < body.length then
    scan body (state.next body inside)
  else
    state
termination_by body.length - state.index
decreasing_by
  have goesOn := index_lt_next inside
  omega

/-- The pieces, with the one that is being read. -/
def allPieces (state : SplitState) : List Str :=
  state.pieces ++ [state.current]

end SplitState

/-! ### What the text says about its cuts -/

/--
Is the character at a position the second one of a backslash pair?  Pairs are
read from left to right.
-/
def isSecond (body : Str) : Nat → Bool
  | 0 => false
  | position + 1 =>
      body[position]? = some (codePoint '\\') && !isSecond body position

/-- Is there a quotation mark that is in no backslash pair? -/
def isQuote (body : Str) (position : Nat) : Bool :=
  body[position]? = some (codePoint '"') && !isSecond body position

/-- How many of these quotation marks come before a position? -/
def quotesBefore (body : Str) (position : Nat) : Nat :=
  (List.range position).countP (isQuote body)

/-- A semicolon outside of backslash pairs and of quotes. -/
def IsCut (body : Str) (position : Nat) : Prop :=
  body[position]? = some (codePoint ';') ∧
    isSecond body position = false ∧
    quotesBefore body position % 2 = 0

/-- The pieces with a semicolon between any two of them. -/
def joinPieces (pieces : List Str) : Str :=
  [codePoint ';'].intercalate pieces

/-- The position of a semicolon between two pieces. -/
def IsJoint (pieces : List Str) (position : Nat) : Prop :=
  ∃ count,
    0 < count ∧
      count < pieces.length ∧
      position = (joinPieces (pieces.take count)).length

/-! ### Pieces that grow -/

/-- Characters that are added to the last piece are added to the text. -/
theorem joinPieces_grow
    (pieces : List Str)
    (current more : Str) :
    joinPieces (pieces ++ [current ++ more]) =
      joinPieces (pieces ++ [current]) ++ more := by
  cases pieces with
  | nil =>
      simp [joinPieces]
  | cons piece rest =>
      have notEmpty := List.cons_ne_nil piece rest
      unfold joinPieces
      rw [intercalate_concat _ _ notEmpty, intercalate_concat _ _ notEmpty,
        ← List.append_assoc]

/-- A piece that is begun adds a semicolon to the text. -/
theorem joinPieces_begin
    {pieces : List Str}
    (notEmpty : pieces ≠ []) :
    joinPieces (pieces ++ [[]]) = joinPieces pieces ++ [codePoint ';'] := by
  unfold joinPieces
  rw [intercalate_concat _ _ notEmpty, List.append_nil]

/-- The pieces are joined behind each of them but the last. -/
theorem isJoint_concat_iff
    {pieces : List Str}
    {last : Str}
    {position : Nat} :
    IsJoint (pieces ++ [last]) position ↔
      ∃ count,
        0 < count ∧
          count ≤ pieces.length ∧
          position = (joinPieces (pieces.take count)).length := by
  unfold IsJoint
  apply exists_congr
  intro count
  rw [List.length_append, List.length_singleton, Nat.lt_succ_iff]
  apply and_congr_right
  intro _
  apply and_congr_right
  intro bound
  rw [List.take_append_of_le_length bound]

/-- Where the pieces are joined does not depend on the last one. -/
theorem isJoint_concat_congr
    {pieces : List Str}
    {position : Nat}
    (last other : Str) :
    IsJoint (pieces ++ [last]) position ↔
      IsJoint (pieces ++ [other]) position :=
  isJoint_concat_iff.trans isJoint_concat_iff.symm

/-- A piece that is begun is joined to the end of those before it. -/
theorem isJoint_begin_iff
    {pieces : List Str}
    {last : Str}
    {position : Nat} :
    IsJoint (pieces ++ [last] ++ [[]]) position ↔
      IsJoint (pieces ++ [last]) position ∨
        position = (joinPieces (pieces ++ [last])).length := by
  rw [isJoint_concat_iff, isJoint_concat_iff]
  constructor
  · rintro ⟨count, positive, bound, same⟩
    rcases Nat.lt_or_eq_of_le bound with before | atEnd
    · left
      rw [List.length_append, List.length_singleton,
        Nat.lt_succ_iff] at before
      rw [List.take_append_of_le_length before] at same
      exact ⟨count, positive, before, same⟩
    · right
      rw [atEnd, List.take_length] at same
      exact same
  · rintro (⟨count, positive, bound, same⟩ | same)
    · refine ⟨count, positive, ?_, ?_⟩
      · rw [List.length_append]
        exact Nat.le_add_right_of_le bound
      · rw [List.take_append_of_le_length bound]
        exact same
    · refine ⟨(pieces ++ [last]).length, by simp, Nat.le_refl _, ?_⟩
      rw [List.take_length]
      exact same

/-! ### The invariant of the loop -/

/-- Up to the index, the state is what the text says. -/
structure SplitState.Reads (body : Str) (state : SplitState) : Prop where
  index_le : state.index ≤ body.length
  joined : joinPieces state.allPieces = body.take state.index
  joints :
    ∀ position,
      IsJoint state.allPieces position ↔
        position < state.index ∧ IsCut body position
  quotes :
    state.inQuote = true ↔ quotesBefore body state.index % 2 = 1
  aligned :
    state.index < body.length → isSecond body state.index = false

/-- Quotation marks before the next position. -/
theorem quotesBefore_succ (body : Str) (position : Nat) :
    quotesBefore body (position + 1) =
      quotesBefore body position +
        if isQuote body position then 1 else 0 := by
  simp only [quotesBefore, List.range_succ, List.countP_append,
    List.countP_singleton]

/-- What is cut before the next position. -/
theorem cut_succ_iff {body : Str} {index position : Nat} :
    position < index + 1 ∧ IsCut body position ↔
      (position < index ∧ IsCut body position) ∨
        position = index ∧ IsCut body index := by
  rw [Nat.lt_succ_iff, Nat.le_iff_lt_or_eq, or_and_right]
  apply or_congr_right
  apply and_congr_right
  rintro rfl
  exact Iff.rfl

namespace SplitState

variable {body : Str} {state : SplitState}

/-- Before the first character nothing is read. -/
theorem reads_start (body : Str) : start.Reads body where
  index_le := Nat.zero_le _
  joined := rfl
  joints := by
    intro position
    refine iff_of_false ?_ fun cut => Nat.not_lt_zero _ cut.1
    rintro ⟨count, positive, single, _⟩
    exact Nat.not_lt_of_le positive single
  quotes := by
    simp [start, quotesBefore]
  aligned := fun _ => rfl

namespace Reads

/-- The index is the length of what was read. -/
theorem length_joined (reads : state.Reads body) :
    (joinPieces state.allPieces).length = state.index := by
  rw [reads.joined, List.length_take, Nat.min_eq_left reads.index_le]

/-- Outside of pairs the text and the state agree on what a quote is. -/
theorem quotes_succ
    (reads : state.Reads body)
    (inside : state.index < body.length) :
    quoteAfter state.inQuote body[state.index] = true ↔
      quotesBefore body (state.index + 1) % 2 = 1 := by
  have known := reads.quotes
  have mark :
      isQuote body state.index = true ↔
        body[state.index] = codePoint '"' := by
    simp [isQuote, reads.aligned inside, List.getElem?_eq_getElem inside]
  rw [quotesBefore_succ, quoteAfter]
  by_cases same : body[state.index] = codePoint '"'
  · rw [if_pos same, if_pos (mark.mpr same), Bool.not_eq_true_eq_eq_false,
      ← Bool.not_eq_true, known]
    omega
  · rw [if_neg same, if_neg (mt mark.mp same)]
    exact known

/-- Outside of pairs the text and the state agree on what a cut is. -/
theorem isCut_iff
    (reads : state.Reads body)
    (inside : state.index < body.length) :
    IsCut body state.index ↔
      body[state.index] = codePoint ';' ∧
        quoteAfter state.inQuote body[state.index] = false := by
  have known := reads.quotes
  unfold IsCut
  rw [List.getElem?_eq_getElem inside, Option.some.injEq]
  apply and_congr_right
  intro same
  have noMark : quoteAfter state.inQuote body[state.index] = state.inQuote := by
    rw [quoteAfter, same]
    exact if_neg (by decide)
  rw [noMark, and_iff_right (reads.aligned inside), ← Bool.not_eq_true,
    known]
  omega

/-- A character that opens no pair is read. -/
theorem readChar
    (reads : state.Reads body)
    (inside : state.index < body.length)
    (noPair :
      ¬ (body[state.index] = codePoint '\\' ∧
        state.index + 1 < body.length)) :
    (state.readChar body[state.index]).Reads body := by
  have read := List.take_concat_get' body state.index inside
  have quotes := reads.quotes_succ inside
  have isCut := reads.isCut_iff inside
  have aligned :
      state.index + 1 < body.length →
      isSecond body (state.index + 1) = false := by
    intro later
    have noBackslash : body[state.index] ≠ codePoint '\\' :=
      fun same => noPair ⟨same, later⟩
    simp [isSecond, List.getElem?_eq_getElem inside, noBackslash]
  unfold SplitState.readChar
  split
  · rename_i isEnd
    constructor
    · exact inside
    · dsimp only [allPieces]
      rw [joinPieces_begin (by simp), ← read, isEnd.1]
      exact congrArg (· ++ [codePoint ';']) reads.joined
    · intro position
      refine isJoint_begin_iff.trans ?_
      rw [cut_succ_iff]
      apply or_congr (reads.joints position)
      have length := reads.length_joined
      rw [allPieces] at length
      rw [length]
      exact (and_iff_left (isCut.mpr isEnd)).symm
    · exact quotes
    · exact aligned
  · rename_i notEnd
    constructor
    · exact inside
    · dsimp only [allPieces]
      rw [joinPieces_grow, ← read]
      exact congrArg (· ++ [body[state.index]]) reads.joined
    · intro position
      rw [cut_succ_iff, or_iff_left fun cut => notEnd (isCut.mp cut.2)]
      exact (isJoint_concat_congr _ _).trans (reads.joints position)
    · exact quotes
    · exact aligned

/-- A backslash is read with the character that it escapes. -/
theorem readPair
    (reads : state.Reads body)
    (inside : state.index < body.length)
    (isBackslash : body[state.index] = codePoint '\\')
    (later : state.index + 1 < body.length) :
    (state.readPair body[state.index] body[state.index + 1]).Reads
      body := by
  have twice : state.index + 2 = state.index + 1 + 1 :=
    rfl
  have first := List.take_concat_get' body state.index inside
  have second := List.take_concat_get' body (state.index + 1) later
  have isFirst := reads.aligned inside
  have isPaired : isSecond body (state.index + 1) = true := by
    simp [isSecond, List.getElem?_eq_getElem inside, isBackslash, isFirst]
  have notFirst : ¬ IsCut body state.index := by
    rintro ⟨isEnd, _⟩
    rw [List.getElem?_eq_getElem inside, isBackslash] at isEnd
    exact absurd isEnd (by decide)
  have notSecond : ¬ IsCut body (state.index + 1) := by
    rintro ⟨_, unpaired, _⟩
    rw [isPaired] at unpaired
    cases unpaired
  constructor
  · exact later
  · dsimp only [SplitState.readPair, allPieces]
    rw [joinPieces_grow, ← second, ← first, List.append_assoc]
    exact congrArg
      (· ++ ([body[state.index]] ++ [body[state.index + 1]])) reads.joined
  · intro position
    dsimp only [SplitState.readPair, allPieces]
    rw [twice, cut_succ_iff, or_iff_left fun cut => notSecond cut.2,
      cut_succ_iff, or_iff_left fun cut => notFirst cut.2]
    exact (isJoint_concat_congr _ _).trans (reads.joints position)
  · have noMark : isQuote body state.index = false := by
      simp [isQuote, List.getElem?_eq_getElem inside, isBackslash, codePoint]
    have pairedMark : isQuote body (state.index + 1) = false := by
      simp [isQuote, isPaired]
    dsimp only [SplitState.readPair]
    rw [twice, quotesBefore_succ, quotesBefore_succ, noMark,
      pairedMark]
    exact reads.quotes
  · intro _
    dsimp only [SplitState.readPair]
    rw [twice]
    simp [isSecond, List.getElem?_eq_getElem inside, isBackslash,
      isFirst]

/-- Every step of the loop keeps the invariant. -/
theorem next
    (reads : state.Reads body)
    (inside : state.index < body.length) :
    (state.next body inside).Reads body := by
  simp only [SplitState.next]
  split
  · rename_i pair
    exact reads.readPair inside pair.1 pair.2
  · rename_i noPair
    exact reads.readChar inside noPair

end Reads

/-- The loop ends behind the last character, with the invariant. -/
theorem reads_scan (reads : state.Reads body) :
    (scan body state).Reads body ∧
      (scan body state).index = body.length := by
  induction state using scan.induct body with
  | case1 state inside inductionHypothesis =>
      rw [scan, dif_pos inside]
      exact inductionHypothesis (reads.next inside)
  | case2 state outside =>
      rw [scan, dif_neg outside]
      exact ⟨reads, reads.index_le.antisymm (Nat.le_of_not_lt outside)⟩

/-! ### The loop and the tokenizer -/

/-- What `splitPieces` finds in the rest of a text, behind the pieces so far. -/
def remaining (body : Str) (state : SplitState) : Option (List Str) :=
  (splitPieces state.inQuote state.current (body.drop state.index)).map
    (state.pieces ++ ·)

/-- A character that opens no pair is read by both in the same way. -/
theorem splitPieces_readChar
    {char : CodePoint}
    {rest : Str}
    (noPair : char = codePoint '\\' → rest = [])
    (state : SplitState) :
    (splitPieces state.inQuote state.current (char :: rest)).map
        (state.pieces ++ ·) =
      (splitPieces (state.readChar char).inQuote
        (state.readChar char).current rest).map
        ((state.readChar char).pieces ++ ·) := by
  by_cases isBackslash : char = codePoint '\\'
  · cases noPair isBackslash
    subst isBackslash
    rw [splitPieces.eq_def]
    simp [SplitState.readChar, quoteAfter, codePoint]
  · have read :
        splitPieces state.inQuote state.current (char :: rest) =
          if char = codePoint ';' ∧
              quoteAfter state.inQuote char = false then
            (splitPieces (quoteAfter state.inQuote char) [] rest).map
              (state.current :: ·)
          else
            splitPieces (quoteAfter state.inQuote char)
              (state.current ++ [char]) rest := by
      rw [splitPieces.eq_def]
      simp only [isBackslash, if_false]
      rfl
    rw [read]
    unfold SplitState.readChar
    by_cases isEnd :
        char = codePoint ';' ∧ quoteAfter state.inQuote char = false
    · rw [if_pos isEnd, if_pos isEnd, Option.map_map]
      simp [Function.comp_def]
    · rw [if_neg isEnd, if_neg isEnd]

/-- A step of the loop leaves what is to be found. -/
theorem remaining_next (inside : state.index < body.length) :
    (state.next body inside).remaining body = state.remaining body := by
  have rest := List.drop_eq_getElem_cons inside
  simp only [SplitState.next]
  split
  · rename_i pair
    have later := List.drop_eq_getElem_cons pair.2
    simp only [remaining, readPair, rest, later, pair.1,
      splitPieces_backslash]
  · rename_i noPair
    have atEnd :
        body[state.index] = codePoint '\\' →
        body.drop (state.index + 1) = [] := by
      intro isBackslash
      exact List.drop_eq_nil_of_le
        (Nat.le_of_not_lt fun later => noPair ⟨isBackslash, later⟩)
    have same := splitPieces_readChar atEnd state
    simp only [remaining, index_readChar, rest, same]

/-- At the end there is one piece more, unless a quote is open. -/
theorem remaining_scan (reads : state.Reads body) :
    state.remaining body =
      if (scan body state).inQuote then none
      else some (scan body state).allPieces := by
  induction state using scan.induct body with
  | case1 state inside inductionHypothesis =>
      rw [scan, dif_pos inside, ← remaining_next inside]
      exact inductionHypothesis (reads.next inside)
  | case2 state outside =>
      rw [scan, dif_neg outside, remaining,
        List.drop_eq_nil_of_le (Nat.le_of_not_lt outside)]
      cases state.inQuote <;> simp [splitPieces, allPieces]

end SplitState

/-! ### What is rejected -/

/-- A piece that is not blank, and is blank up to its first colon. -/
def HasBlankKey (piece : Str) : Prop :=
  strip piece ≠ [] ∧ strip (partition (codePoint ':') piece).1 = []

/-- A piece is malformed exactly if its key is blank. -/
theorem parsePiece_malformed_iff {piece : Str} :
    parsePiece piece = .error .malformedRule ↔ HasBlankKey piece := by
  have key :=
    strip_partition_strip (by decide : isBlank (codePoint ':') = false)
      piece
  unfold parsePiece HasBlankKey
  rw [← key]
  by_cases empty : strip piece = []
  · simp [empty]
  · rw [if_neg empty, and_iff_right empty]
    dsimp only
    unfold Word.of?
    split
    · rename_i noWord
      rw [dite_eq_right_iff] at noWord
      refine iff_of_true rfl ?_
      by_contra isWord
      cases noWord isWord
    · rename_i word isWord
      obtain ⟨notEmpty, _⟩ := Option.dite_none_right_eq_some.mp isWord
      exact iff_of_false (by simp) notEmpty

/-- Pieces are malformed exactly if one of them has a blank key. -/
theorem pieces_malformed_iff {pieces : List Str} :
    (pieces.mapM parsePiece).map List.reduceOption =
        .error .malformedRule ↔
      ∃ piece ∈ pieces, HasBlankKey piece := by
  induction pieces with
  | nil =>
      refine iff_of_false (by rintro ⟨⟩) ?_
      simp
  | cons piece rest inductionHypothesis =>
      have first := @parsePiece_malformed_iff piece
      rw [List.exists_mem_cons_iff, List.mapM_cons, ← first,
        ← inductionHypothesis]
      cases parsed : parsePiece piece with
      | error reason =>
          cases eq_malformedRule_of_parsePiece parsed
          exact iff_of_true rfl (Or.inl rfl)
      | ok option =>
          refine Iff.trans ?_ (or_iff_right (by simp)).symm
          cases rest.mapM parsePiece with
          | error reason =>
              exact Iff.rfl
          | ok options =>
              exact iff_of_false (by rintro ⟨⟩) (by rintro ⟨⟩)

/--
The scanner reads every character once: its pieces, joined by semicolons, are
the text, and they are joined where the text has a semicolon outside of
backslash pairs and quotes.  The options are rejected exactly if a quote stays
open or a piece has a blank key.
-/
theorem splitOptions_scan (body : Str) :
    (SplitState.scan body .start).index = body.length ∧
      joinPieces (SplitState.scan body .start).allPieces = body ∧
      (∀ position,
        IsJoint (SplitState.scan body .start).allPieces position ↔
          IsCut body position) ∧
      (splitOptions body = .error .malformedRule ↔
        quotesBefore body body.length % 2 = 1 ∨
          ∃ piece ∈ (SplitState.scan body .start).allPieces,
            HasBlankKey piece) := by
  have start := SplitState.reads_start body
  obtain ⟨reads, atEnd⟩ := SplitState.reads_scan start
  have found := SplitState.remaining_scan start
  have joined := reads.joined
  have joints := reads.joints
  have quotes := reads.quotes
  rw [atEnd] at joined joints quotes
  rw [List.take_length] at joined
  refine ⟨atEnd, joined, fun position => ?_, ?_⟩
  · refine (joints position).trans (and_iff_right_of_imp fun cut => ?_)
    exact (List.getElem?_eq_some_iff.mp cut.1).1
  · have pieces :
        splitPieces false [] body =
          SplitState.start.remaining body := by
      simp [SplitState.remaining, SplitState.start]
    rw [← quotes, splitOptions, pieces, found]
    cases (SplitState.scan body .start).inQuote with
    | true =>
        exact iff_of_true rfl (Or.inl rfl)
    | false =>
        exact pieces_malformed_iff.trans
          (or_iff_right Bool.false_ne_true).symm

end IntrusionDetection
