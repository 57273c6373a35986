import IntrusionDetection.ContentMatcher
import IntrusionDetection.LeastChoice

namespace IntrusionDetection

open PyText LeastChoice

/-!
# The content search finds the least choice

A choice of positions for the contents of a rule puts every pattern inside its
window.  The search with its memory of failed states returns the least choice,
and nothing exactly when there is none.
-/

/-- What is searched in a payload. -/
def searchedBytes (payload : Payload) : Bytes :=
  (asBytes payload).getD []

/-- A text as a content compares it. -/
def comparedBytes (spec : ContentSpec) (text : Bytes) : Bytes :=
  if spec.nocase then lowerBytes text else text

/-- The pattern of a content stands in the data at a position. -/
def OccursAt
    (data : Bytes)
    (spec : ContentSpec)
    (position : Nat) : Prop :=
  comparedBytes spec ((data.drop position).take spec.pattern.length) =
    comparedBytes spec spec.pattern

/-- Where the window of a content starts. -/
def windowStart (spec : ContentSpec) (prevEnd : Nat) : Int :=
  if isRelative spec then
    max 0 (prevEnd + spec.distance.getD 0)
  else
    spec.offset.getD 0

/-- The size of the window of a content, if it has one. -/
def windowSize (spec : ContentSpec) : Option Int :=
  if isRelative spec then spec.within else spec.depth

/-- Where a content at a position ends. -/
def matchEnd (spec : ContentSpec) (position : Nat) : Nat :=
  position + spec.pattern.length

/-- A content occurs completely inside its window and the data. -/
structure Placed
    (data : Bytes)
    (spec : ContentSpec)
    (prevEnd position : Nat) : Prop where
  occurs : OccursAt data spec position
  notBefore : windowStart spec prevEnd ≤ position
  insideData : matchEnd spec position ≤ data.length
  insideWindow :
    ∀ size,
      windowSize spec = some size →
      (matchEnd spec position : Int) ≤ windowStart spec prevEnd + size

/-- Positions for all contents; the first one counts from zero. -/
def PlacedChoice
    (data : Bytes)
    (contents : List ContentSpec)
    (positions : List Nat) : Prop :=
  Choice (Placed data) matchEnd contents 0 positions

/-- A lower-cased copy that is passed is one of this data. -/
def IsLowered (data : Bytes) (lowered : Option Bytes) : Prop :=
  ∀ text, lowered = some text → text = lowerBytes data

/-! ### One search -/

/-- Comparing a text keeps its length. -/
@[simp] theorem length_comparedBytes
    (spec : ContentSpec)
    (text : Bytes) :
    (comparedBytes spec text).length = text.length := by
  unfold comparedBytes
  split
  · exact List.length_map lowerByte
  · rfl

/-- A part of a text is compared as that part of the compared text. -/
theorem comparedBytes_part
    (spec : ContentSpec)
    (text : Bytes)
    (position length : Nat) :
    comparedBytes spec ((text.drop position).take length) =
      ((comparedBytes spec text).drop position).take length := by
  unfold comparedBytes
  split
  · simp only [lowerBytes, List.map_take, List.map_drop]
  · rfl

/-- A content occurs where its compared pattern is a prefix of what is left. -/
theorem isPrefixOf_compared_iff
    {data : Bytes}
    {spec : ContentSpec}
    {position : Nat} :
    (comparedBytes spec spec.pattern).isPrefixOf
        ((comparedBytes spec data).drop position) = true ↔
      OccursAt data spec position := by
  rw [List.isPrefixOf_iff_prefix, List.prefix_iff_eq_take,
    length_comparedBytes, ← comparedBytes_part]
  exact eq_comm

/-- What occurs lies inside the data. -/
theorem OccursAt.inside
    {data : Bytes}
    {spec : ContentSpec}
    {position : Nat}
    (occurs : OccursAt data spec position) :
    matchEnd spec position ≤ data.length := by
  have lengths := congrArg List.length occurs
  have notEmpty : 0 < spec.pattern.length :=
    List.length_pos_iff.mpr spec.patternNotEmpty
  rw [length_comparedBytes, length_comparedBytes, List.length_take,
    List.length_drop] at lengths
  unfold matchEnd
  omega

/-- An occurrence between a start and a stop. -/
structure Hit
    (data : Bytes)
    (spec : ContentSpec)
    (start : Int)
    (stop : Option Int)
    (position : Nat) : Prop where
  occurs : OccursAt data spec position
  fromStart : start ≤ position
  beforeStop :
    ∀ bound, stop = some bound → (matchEnd spec position : Int) ≤ bound

/-- The first of the positions that satisfy a condition. -/
def IsFirst (condition : Nat → Prop) : Option Nat → Prop
  | none => ∀ position, ¬ condition position
  | some first =>
      condition first ∧ ∀ position, position < first → ¬ condition position

/-- `bytes.find` returns the first position the pattern stands at. -/
theorem findBytes_first
    (data pattern : Bytes)
    (start stop : Nat)
    (notEmpty : pattern ≠ []) :
    IsFirst
      (fun position =>
        start ≤ position ∧ position + pattern.length ≤ stop ∧
          pattern.isPrefixOf (data.drop position) = true)
      (findBytes data pattern start stop) := by
  have lengthPositive : 0 < pattern.length :=
    List.length_pos_iff.mpr notEmpty
  cases found : findBytes data pattern start stop with
  | none =>
      rintro position ⟨fromStart, beforeStop, isPrefix⟩
      have refused :=
        List.find?_range'_eq_none.mp found position fromStart (by omega)
      simp [beforeStop, isPrefix] at refused
  | some first =>
      obtain ⟨accepted, inRange, earlier⟩ :=
        List.find?_range'_eq_some.mp found
      rw [Bool.and_eq_true, decide_eq_true_eq] at accepted
      rw [List.mem_range'_1] at inRange
      refine ⟨⟨inRange.1, accepted.1, accepted.2⟩, ?_⟩
      rintro position before ⟨fromStart, beforeStop, isPrefix⟩
      have refused := earlier position fromStart before
      simp [beforeStop, isPrefix] at refused

/-- Conditions that hold together have the same first position. -/
theorem IsFirst.congr
    {condition condition' : Nat → Prop}
    {first : Option Nat}
    (isFirst : IsFirst condition first)
    (same : ∀ position, condition position ↔ condition' position) :
    IsFirst condition' first := by
  have conditions : condition = condition' :=
    funext fun position => propext (same position)
  rwa [← conditions]

/-- Where a search stops: the end of the data cuts its window. -/
def searchLimit (data : Bytes) : Option Int → Int
  | none => data.length
  | some stop => min stop data.length

/-- What ends in the data ends before the limit if it ends before the stop. -/
theorem le_searchLimit_iff
    {data : Bytes}
    {stop : Option Int}
    {ending : Nat}
    (inside : ending ≤ data.length) :
    (ending : Int) ≤ searchLimit data stop ↔
      ∀ bound, stop = some bound → (ending : Int) ≤ bound := by
  cases stop with
  | none =>
      simp [searchLimit, inside]
  | some bound =>
      simp [searchLimit, inside]

/-- `find` looks for the compared pattern in the compared data. -/
theorem findIn_eq
    {data : Bytes}
    {lowered : Option Bytes}
    (isLowered : IsLowered data lowered)
    (spec : ContentSpec)
    (start : Int)
    (stop : Option Int) :
    findIn data spec start stop lowered =
      if searchLimit data stop ≤ max 0 start ∨
          searchLimit data stop - max 0 start < spec.pattern.length then
        none
      else
        findBytes (comparedBytes spec data)
          (comparedBytes spec spec.pattern) (max 0 start).toNat
          (searchLimit data stop).toNat := by
  unfold findIn comparedBytes
  cases nocase : spec.nocase with
  | false =>
      cases stop <;> rfl
  | true =>
      cases lowered with
      | none =>
          cases stop <;> rfl
      | some text =>
          have sameLength : (lowerBytes data).length = data.length :=
            List.length_map lowerByte
          rw [isLowered text rfl]
          cases stop <;>
            simp only [sameLength, searchLimit, if_true]

/-- `find` returns the first occurrence between its bounds. -/
theorem findIn_first
    {data : Bytes}
    {lowered : Option Bytes}
    (isLowered : IsLowered data lowered)
    (spec : ContentSpec)
    (start : Int)
    (stop : Option Int) :
    IsFirst (Hit data spec start stop)
      (findIn data spec start stop lowered) := by
  have notEmpty : 0 < spec.pattern.length :=
    List.length_pos_iff.mpr spec.patternNotEmpty
  have hitIff :
      ∀ position,
        Hit data spec start stop position ↔
          OccursAt data spec position ∧ start ≤ position ∧
            (matchEnd spec position : Int) ≤ searchLimit data stop := by
    intro position
    constructor
    · intro hit
      exact ⟨hit.occurs, hit.fromStart,
        (le_searchLimit_iff hit.occurs.inside).mpr hit.beforeStop⟩
    · rintro ⟨occurs, fromStart, inLimit⟩
      exact ⟨occurs, fromStart,
        (le_searchLimit_iff occurs.inside).mp inLimit⟩
  rw [findIn_eq isLowered]
  split
  · rename_i tooSmall
    intro position hit
    obtain ⟨_, fromStart, inLimit⟩ := (hitIff position).mp hit
    unfold matchEnd at inLimit
    omega
  · rename_i largeEnough
    have comparedNotEmpty : comparedBytes spec spec.pattern ≠ [] := by
      rw [← List.length_pos_iff, length_comparedBytes]
      exact notEmpty
    refine (findBytes_first _ _ _ _ comparedNotEmpty).congr ?_
    intro position
    rw [hitIff, isPrefixOf_compared_iff, length_comparedBytes]
    unfold matchEnd
    constructor
    · rintro ⟨fromStart, inLimit, occurs⟩
      exact ⟨occurs, by omega, by omega⟩
    · rintro ⟨occurs, fromStart, inLimit⟩
      exact ⟨by omega, by omega, occurs⟩

/-! ### The search with its memory -/

/-- The window a content is searched in starts where its own window does. -/
theorem searchWindow_start (spec : ContentSpec) (prevEnd : Nat) :
    (searchWindow spec prevEnd).1 = windowStart spec prevEnd := by
  unfold searchWindow windowStart
  split <;> rfl

/-- It stops where its own window ends. -/
theorem searchWindow_stop (spec : ContentSpec) (prevEnd : Nat) :
    (searchWindow spec prevEnd).2 =
      (windowSize spec).map (windowStart spec prevEnd + ·) := by
  unfold searchWindow windowStart windowSize
  split <;> rfl

/-- From a start inside the window on, the hits are the positions that fit. -/
theorem hit_iff_placed
    {data : Bytes}
    {spec : ContentSpec}
    {prevEnd : Nat}
    {start : Int}
    (inWindow : windowStart spec prevEnd ≤ start)
    {position : Nat}
    (fromStart : start ≤ position) :
    Hit data spec start (searchWindow spec prevEnd).2 position ↔
      Placed data spec prevEnd position := by
  rw [searchWindow_stop]
  constructor
  · intro hit
    refine ⟨hit.occurs, by omega, hit.occurs.inside, ?_⟩
    intro size isSize
    exact hit.beforeStop _ (by rw [isSize]; rfl)
  · intro placed
    refine ⟨placed.occurs, fromStart, ?_⟩
    intro bound isBound
    rw [Option.map_eq_some_iff] at isBound
    obtain ⟨size, isSize, rfl⟩ := isBound
    exact placed.insideWindow size isSize

/-- States that look the same to the search have the same window. -/
theorem windowStart_of_searchState
    {spec : ContentSpec}
    {index prevEnd prevEnd' : Nat}
    (same :
      searchState index spec prevEnd = searchState index spec prevEnd') :
    windowStart spec prevEnd = windowStart spec prevEnd' := by
  unfold searchState at same
  unfold windowStart
  by_cases relative : isRelative spec = true
  · simp only [relative, if_true, Prod.mk.injEq, true_and] at same
    rw [same]
  · rw [if_neg relative, if_neg relative]

/-- A content fits where it fits from another state that looks the same. -/
theorem Placed.of_searchState
    {data : Bytes}
    {spec : ContentSpec}
    {index prevEnd prevEnd' position : Nat}
    (placed : Placed data spec prevEnd position)
    (same :
      searchState index spec prevEnd = searchState index spec prevEnd') :
    Placed data spec prevEnd' position := by
  have sameStart := windowStart_of_searchState same
  refine ⟨placed.occurs, ?_, placed.insideData, ?_⟩
  · rw [← sameStart]
    exact placed.notBefore
  · rw [← sameStart]
    exact placed.insideWindow

/-- From every remembered state the contents have no choice left. -/
def MemorySound
    (data : Bytes)
    (contents : List ContentSpec)
    (failed : FailedStates) : Prop :=
  ∀ index spec rest prevEnd,
    contents.drop index = spec :: rest →
    searchState index spec prevEnd ∈ failed →
    IsLeast (Placed data) matchEnd (spec :: rest) prevEnd none

/-- Nothing is remembered at first. -/
theorem memorySound_nil (data : Bytes) (contents : List ContentSpec) :
    MemorySound data contents [] := by
  intro index spec rest prevEnd _ member
  cases member

/-- A state without a choice may be remembered. -/
theorem MemorySound.cons
    {data : Bytes}
    {contents rest : List ContentSpec}
    {failed : FailedStates}
    {index prevEnd : Nat}
    {spec : ContentSpec}
    (sound : MemorySound data contents failed)
    (here : contents.drop index = spec :: rest)
    (nowhere :
      IsLeast (Placed data) matchEnd (spec :: rest) prevEnd none) :
    MemorySound data contents (searchState index spec prevEnd :: failed) := by
  intro index' spec' rest' prevEnd' here' member
  rcases List.mem_cons.mp member with same | remembered
  · obtain rfl : index' = index := congrArg Prod.fst same
    obtain ⟨rfl, rfl⟩ := List.cons.inj (here'.symm.trans here)
    rintro _ (_ | ⟨placed, later⟩)
    exact nowhere _ (.cons (placed.of_searchState same) later)
  · exact sound index' spec' rest' prevEnd' here' remembered

/-- The positions of a chain. -/
def chainPositions (chain : Chain) : List Nat :=
  chain.map Prod.fst

/--
The loop over the occurrences of one content returns the least choice that
starts in what is left of the window, if the rest of the chain is searched so.
-/
theorem tryOccurrences_least
    {data : Bytes}
    {lowered : Option Bytes}
    {contents rest : List ContentSpec}
    {spec : ContentSpec}
    {prevEnd : Nat}
    {proceed : Nat → FailedStates → Option Chain × FailedStates}
    (isLowered : IsLowered data lowered)
    (continues :
      ∀ position failed,
        MemorySound data contents failed →
        IsLeast (Placed data) matchEnd rest (matchEnd spec position)
            ((proceed position failed).1.map chainPositions) ∧
          MemorySound data contents (proceed position failed).2)
    (rounds : Nat)
    (start : Int)
    (failed : FailedStates)
    (enough : data.length < rounds + start.toNat)
    (inWindow : windowStart spec prevEnd ≤ start)
    (sound : MemorySound data contents failed) :
    let result :=
      tryOccurrences
        (fun start =>
          findIn data spec start (searchWindow spec prevEnd).2 lowered)
        proceed rounds start failed
    IsLeastFrom (Placed data) matchEnd spec rest prevEnd start.toNat
        (result.1.map fun found => found.1 :: chainPositions found.2) ∧
      MemorySound data contents result.2 := by
  induction rounds generalizing start failed with
  | zero =>
      refine ⟨isLeastFrom_none ?_, sound⟩
      intro position fromStart placed
      have inside := placed.insideData
      unfold matchEnd at inside
      omega
  | succ rounds inductionHypothesis =>
      have first :=
        findIn_first isLowered spec start (searchWindow spec prevEnd).2
      simp only [tryOccurrences]
      cases found :
          findIn data spec start (searchWindow spec prevEnd).2 lowered with
      | none =>
          rw [found] at first
          refine ⟨isLeastFrom_none ?_, sound⟩
          intro position fromStart placed
          exact first position
            ((hit_iff_placed inWindow (by omega)).mpr placed)
      | some position =>
          rw [found] at first
          obtain ⟨hit, earlierMiss⟩ := first
          have fromStart := hit.fromStart
          have placed : Placed data spec prevEnd position :=
            (hit_iff_placed inWindow fromStart).mp hit
          have isFirst :
              ∀ earlier, start.toNat ≤ earlier → earlier < position →
                ¬ Placed data spec prevEnd earlier := by
            intro earlier earlierFrom before earlierPlaced
            exact earlierMiss earlier before
              ((hit_iff_placed inWindow (by omega)).mpr earlierPlaced)
          have tried := continues position failed sound
          rcases outcome : proceed position failed with ⟨answer, known⟩
          rw [outcome] at tried
          simp only [outcome]
          cases answer with
          | some chain =>
              exact ⟨isLeastFrom_first placed isFirst tried.1, tried.2⟩
          | none =>
              have later :=
                inductionHypothesis (position + 1) known (by omega)
                  (by omega) tried.2
              exact ⟨isLeastFrom_next isFirst tried.1 later.1, later.2⟩

/-- The search returns the least choice of the contents that are left. -/
theorem search_least
    {data : Bytes}
    {lowered : Option Bytes}
    (isLowered : IsLowered data lowered)
    (contents rest : List ContentSpec)
    (index prevEnd : Nat)
    (failed : FailedStates)
    (here : contents.drop index = rest)
    (sound : MemorySound data contents failed) :
    let result := search data lowered index rest prevEnd failed
    IsLeast (Placed data) matchEnd rest prevEnd
        (result.1.map chainPositions) ∧
      MemorySound data contents result.2 := by
  induction rest generalizing index prevEnd failed with
  | nil =>
      exact ⟨isLeast_nil prevEnd, sound⟩
  | cons spec rest inductionHypothesis =>
      have after : contents.drop (index + 1) = rest := by
        rw [← List.drop_drop, here]
        rfl
      simp only [search]
      split
      · rename_i remembered
        exact ⟨sound index spec rest prevEnd here remembered, sound⟩
      · obtain ⟨least, known⟩ :=
          tryOccurrences_least isLowered
            (fun position failed sound =>
              inductionHypothesis (index + 1) (matchEnd spec position)
                failed after sound)
            (data.length + 1) (searchWindow spec prevEnd).1 failed
            (by omega) (searchWindow_start spec prevEnd).ge sound
        have all :
            ∀ position,
              Placed data spec prevEnd position →
              (searchWindow spec prevEnd).1.toNat ≤ position := by
          intro position placed
          have notBefore := placed.notBefore
          rw [searchWindow_start]
          omega
        have chosen := least.isLeast all
        split
        · rename_i position chain failed' outcome
          unfold matchEnd at chosen known
          rw [outcome] at chosen known
          exact ⟨chosen, known⟩
        · rename_i failed' outcome
          unfold matchEnd at chosen known
          rw [outcome] at chosen known
          exact ⟨chosen, known.cons here chosen⟩

/-- `match_chain` returns the least choice of all contents. -/
theorem matchChain_isLeast
    {payload : Payload}
    {lowered : Option Bytes}
    (isLowered : IsLowered (searchedBytes payload) lowered)
    (contents : List ContentSpec) :
    IsLeast (Placed (searchedBytes payload)) matchEnd contents 0
      ((matchChain payload contents lowered).map chainPositions) := by
  unfold searchedBytes at isLowered ⊢
  cases contents with
  | nil =>
      exact isLeast_nil 0
  | cons spec rest =>
      simp only [matchChain, List.isEmpty_cons, Bool.false_eq_true,
        if_false]
      cases searched : asBytes payload with
      | none =>
          -- nothing is searched, and no pattern fits into nothing
          rintro _ (_ | ⟨placed, _⟩)
          have inside := placed.insideData
          have notEmpty := List.length_pos_iff.mpr spec.patternNotEmpty
          simp only [Option.getD_none, List.length_nil, matchEnd] at inside
          omega
      | some data =>
          rw [searched] at isLowered
          refine (search_least ?_ (spec :: rest) (spec :: rest) 0 0 [] rfl
            (memorySound_nil data _)).1
          split
          · intro text isText
            exact (Option.some.inj isText).symm
          · exact isLowered

/-- An element that names an occurrence of a content inside the data. -/
def Delimits
    (data : Bytes)
    (spec : ContentSpec)
    (detail : MatchDetail) : Prop :=
  ∃ position,
    detail = .content spec.raw position spec.pattern.length ∧
      OccursAt data spec position ∧
      matchEnd spec position ≤ data.length

/-- The elements reported for a chain of occurrences delimit them. -/
theorem contentDetails_delimit
    {data : Bytes}
    {contents : List ContentSpec}
    {prevEnd : Nat}
    {chain : Chain}
    (lengths :
      List.Forall₂ (fun spec item => item.2 = spec.pattern.length)
        contents chain)
    (choice :
      Choice (Placed data) matchEnd contents prevEnd
        (chainPositions chain)) :
    List.Forall₂ (Delimits data) contents
      (contentDetails contents chain) := by
  induction lengths generalizing prevEnd with
  | nil =>
      exact .nil
  | @cons spec item contents chain sameLength _ inductionHypothesis =>
      rcases choice with _ | ⟨placed, later⟩
      refine .cons ⟨item.1, ?_, placed.occurs, placed.insideData⟩
        (inductionHypothesis later)
      rw [← sameLength]

/--
`match_chain` fails exactly when the contents have no choice of positions, and
otherwise returns the least one with the lengths of the patterns; so what
`match_contents` reports delimits occurrences inside the payload.
-/
theorem matchChain_least
    (payload : Payload)
    (contents : List ContentSpec)
    (lowered : Option Bytes)
    (isLowered : IsLowered (searchedBytes payload) lowered) :
    (matchChain payload contents lowered = none ↔
        ∀ positions,
          ¬ PlacedChoice (searchedBytes payload) contents positions) ∧
      (∀ chain,
        matchChain payload contents lowered = some chain →
        PlacedChoice (searchedBytes payload) contents
            (chainPositions chain) ∧
          chain.map Prod.snd =
            contents.map (fun spec => spec.pattern.length) ∧
          ∀ others,
            PlacedChoice (searchedBytes payload) contents others →
            NotAfter (chainPositions chain) others) ∧
      ∀ rule details,
        rule.contents = contents →
        matchContents rule payload lowered = some details →
        List.Forall₂ (Delimits (searchedBytes payload)) contents
          details := by
  have least := matchChain_isLeast isLowered contents
  refine ⟨?_, ?_, ?_⟩
  · cases outcome : matchChain payload contents lowered with
    | none =>
        rw [outcome] at least
        exact iff_of_true rfl least
    | some chain =>
        rw [outcome] at least
        refine iff_of_false (Option.some_ne_none chain) ?_
        intro nowhere
        exact nowhere _ least.1
  · intro chain isChain
    rw [isChain] at least
    refine ⟨least.1, ?_, least.2⟩
    rw [← List.forall₂_eq_eq_eq, List.forall₂_map_left_iff,
      List.forall₂_map_right_iff]
    exact (matchChain_lengths isChain).flip
  · rintro rule details rfl isMatch
    rw [matchContents, Option.map_eq_some_iff] at isMatch
    obtain ⟨chain, isChain, rfl⟩ := isMatch
    rw [isChain] at least
    exact contentDetails_delimit (matchChain_lengths isChain) least.1

/-- Two contents of which the second has to follow the first at once. -/
def adjacentContents : List ContentSpec :=
  [{ raw := lit "A"
     pattern := [0x41]
     nocase := false
     offset := some 0
     depth := none
     distance := none
     within := none
     patternNotEmpty := by decide },
   { raw := lit "b"
     pattern := [0x62]
     nocase := true
     offset := none
     depth := none
     distance := some 0
     within := some 1
     patternNotEmpty := by decide }]

/-- In `AxAB` the first occurrence of the first content leads nowhere. -/
theorem adjacentContents_least :
    matchChain (.bytes [0x41, 0x78, 0x41, 0x42]) adjacentContents none =
        some [(2, 1), (3, 1)] ∧
      PlacedChoice [0x41, 0x78, 0x41, 0x42] adjacentContents [2, 3] ∧
      ∀ others,
        PlacedChoice [0x41, 0x78, 0x41, 0x42] adjacentContents others →
        NotAfter [2, 3] others := by
  have searched :
      matchChain (.bytes [0x41, 0x78, 0x41, 0x42]) adjacentContents none =
        some [(2, 1), (3, 1)] := by
    decide
  have notLowered :
      IsLowered (searchedBytes (.bytes [0x41, 0x78, 0x41, 0x42])) none := by
    intro text isText
    cases isText
  have least :=
    (matchChain_least (.bytes [0x41, 0x78, 0x41, 0x42]) adjacentContents
      none notLowered).2.1 [(2, 1), (3, 1)] searched
  exact ⟨searched, least.1, least.2.2⟩

end IntrusionDetection
