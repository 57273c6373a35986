import IntrusionDetection.Event
import IntrusionDetection.Rule

namespace IntrusionDetection

open PyText

/-!
# Content matching

The contents of a rule are searched in the payload one after the other, each in
its own window, with backtracking over the occurrences of the earlier ones and
a memory of the states that already failed.
-/

/-- One element of `Detection.matched`. -/
inductive MatchDetail where
  | header
  | content (value : Str) (offset length : Nat)
  deriving DecidableEq

/-- `bytes.lower` on one byte: only the ASCII capital letters change. -/
def lowerByte (byte : UInt8) : UInt8 :=
  if 0x41 ≤ byte ∧ byte ≤ 0x5A then byte + 0x20 else byte

/-- `bytes.lower`. -/
def lowerBytes (data : Bytes) : Bytes :=
  data.map lowerByte

/-- `_as_bytes`: the payload, if there is anything to search. -/
def asBytes (payload : Payload) : Option Bytes :=
  match payload with
  | .bytes data => if data.isEmpty then none else some data
  | .bytearray data => if data.isEmpty then none else some data
  | .memoryview data => if data.isEmpty then none else some data
  | .none => none
  | .other _ => none

/-- `data.find(pattern, start, stop)`. -/
def findBytes
    (data pattern : Bytes)
    (start stop : Nat) :
    Option Nat :=
  (List.range' start (stop - start)).find? fun position =>
    position + pattern.length ≤ stop &&
      pattern.isPrefixOf (data.drop position)

/-- `find` in a payload that has something to search. -/
def findIn
    (data : Bytes)
    (spec : ContentSpec)
    (start : Int)
    (stop : Option Int)
    (lowered : Option Bytes) :
    Option Nat :=
  let start := max 0 start
  let stop : Int :=
    match stop with
    | none => data.length
    | some stop => min stop data.length
  if stop ≤ start ∨ stop - start < spec.pattern.length then
    none
  else if spec.nocase then
    let lowered :=
      match lowered with
      | some text =>
          if text.length = data.length then text else lowerBytes data
      | none => lowerBytes data
    findBytes lowered (lowerBytes spec.pattern) start.toNat stop.toNat
  else
    findBytes data spec.pattern start.toNat stop.toNat

/-- `is_relative`. -/
def isRelative (spec : ContentSpec) : Bool :=
  spec.distance.isSome || spec.within.isSome

/-- `absolute_window`. -/
def absoluteWindow (spec : ContentSpec) : Int × Option Int :=
  let start := spec.offset.getD 0
  (start, spec.depth.map (start + ·))

/-- `relative_window`. -/
def relativeWindow (spec : ContentSpec) (prevEnd : Nat) :
    Int × Option Int :=
  let start := max 0 (prevEnd + spec.distance.getD 0)
  (start, spec.within.map (start + ·))

/-- The window `match_chain` searches a content in. -/
def searchWindow (spec : ContentSpec) (prevEnd : Nat) :
    Int × Option Int :=
  if isRelative spec then relativeWindow spec prevEnd
  else absoluteWindow spec

/-- The positions and lengths of matched contents. -/
abbrev Chain := List (Nat × Nat)

/-- The states `(content, prev_end)` known to fail. -/
abbrev FailedStates := List (Nat × Nat)

/-- What the outcome of a content depends on: an absolute one ignores `prevEnd`. -/
def searchState (index : Nat) (spec : ContentSpec) (prevEnd : Nat) :
    Nat × Nat :=
  (index, if isRelative spec then prevEnd else 0)

/--
The loop over the occurrences of one content: `findNext` finds the next one
from a start, `proceed` tries the rest of the chain.  Every round starts
further right, so the payload length bounds the number of rounds.
-/
def tryOccurrences
    (findNext : Int → Option Nat)
    (proceed : Nat → FailedStates → Option Chain × FailedStates) :
    Nat → Int → FailedStates → Option (Nat × Chain) × FailedStates
  | 0, _, failed => (none, failed)
  | rounds + 1, start, failed =>
      match findNext start with
      | none => (none, failed)
      | some position =>
          match proceed position failed with
          | (some chain, failed) => (some (position, chain), failed)
          | (none, failed) =>
              tryOccurrences findNext proceed rounds
                (position + 1) failed

/-- `search`: match the contents from the one with number `index` on. -/
def search
    (data : Bytes)
    (lowered : Option Bytes) :
    Nat → List ContentSpec → Nat → FailedStates →
      Option Chain × FailedStates
  | _, [], _, failed => (some [], failed)
  | index, spec :: rest, prevEnd, failed =>
      let state := searchState index spec prevEnd
      if state ∈ failed then
        (none, failed)
      else
        let (start, stop) := searchWindow spec prevEnd
        let length := spec.pattern.length
        match
          tryOccurrences
            (fun start => findIn data spec start stop lowered)
            (fun position failed =>
              search data lowered (index + 1) rest
                (position + length) failed)
            (data.length + 1) start failed with
        | (some (position, chain), failed) =>
            (some ((position, length) :: chain), failed)
        | (none, failed) => (none, state :: failed)

/-- `match_chain`. -/
def matchChain
    (payload : Payload)
    (contents : List ContentSpec)
    (lowered : Option Bytes) :
    Option Chain :=
  if contents.isEmpty then
    some []
  else
    match asBytes payload with
    | none => none
    | some data =>
        let lowered :=
          if lowered.isNone ∧ contents.any ContentSpec.nocase then
            some (lowerBytes data)
          else
            lowered
        (search data lowered 0 contents 0 []).1

/-- One reported element for each matched content. -/
def contentDetails (contents : List ContentSpec) (chain : Chain) :
    List MatchDetail :=
  List.zipWith (fun spec item => .content spec.raw item.1 item.2)
    contents chain

/-- `match_contents`. -/
def matchContents
    (rule : Rule)
    (payload : Payload)
    (lowered : Option Bytes) :
    Option (List MatchDetail) :=
  (matchChain payload rule.contents lowered).map
    (contentDetails rule.contents)

/-- The payload as `_content_fn_for` converts it, once a packet. -/
def convertPayload (payload : Payload) : Payload :=
  match payload with
  | .bytearray data => .bytes data
  | .memoryview data => .bytes data
  | other => other

/--
The `content_fn` of a packet, without its faults: the payload is lower-cased
into `cache` when a rule first needs it.  The second component is the cache
afterwards, the third the result.
-/
def contentFn
    (payload : Payload)
    (cache : Option Bytes)
    (rule : Rule) :
    Option Bytes × Option (List MatchDetail) :=
  match payload with
  | .bytes data =>
      if rule.contents.any ContentSpec.nocase then
        let lowered := cache.getD (lowerBytes data)
        (some lowered, matchContents rule payload (some lowered))
      else
        (cache, matchContents rule payload none)
  | _ => (cache, matchContents rule payload none)

/-! ### The cache is invisible -/

/-- The cache holds nothing but the lower-cased payload. -/
def CacheValid (payload : Payload) (cache : Option Bytes) : Prop :=
  ∀ lowered,
    cache = some lowered →
    ∃ data, payload = .bytes data ∧ lowered = lowerBytes data

/-- An empty cache is valid. -/
theorem cacheValid_none (payload : Payload) : CacheValid payload none := by
  intro lowered cached
  cases cached

/-- Passing the lower-cased payload spares the work and nothing else. -/
theorem matchChain_lowered
    {data : Bytes}
    {contents : List ContentSpec}
    (nocase : contents.any ContentSpec.nocase = true) :
    matchChain (.bytes data) contents (some (lowerBytes data)) =
      matchChain (.bytes data) contents none := by
  simp only [matchChain, asBytes]
  split
  · rfl
  · by_cases isEmpty : data.isEmpty = true <;>
      simp [isEmpty, nocase]

/-- Converting the payload does not change what is searched. -/
@[simp] theorem asBytes_convertPayload (payload : Payload) :
    asBytes (convertPayload payload) = asBytes payload := by
  cases payload <;> rfl

/-- Contents match the converted payload as they match the original one. -/
theorem matchContents_convertPayload
    (rule : Rule)
    (payload : Payload)
    (lowered : Option Bytes) :
    matchContents rule (convertPayload payload) lowered =
      matchContents rule payload lowered := by
  simp only [matchContents, matchChain, asBytes_convertPayload]

/--
With a valid cache, `content_fn` answers as matching the un-cached payload
does, and leaves a valid cache.
-/
theorem contentFn_of_valid
    {payload : Payload}
    {cache : Option Bytes}
    (valid : CacheValid payload cache)
    (rule : Rule) :
    (contentFn payload cache rule).2 = matchContents rule payload none ∧
      CacheValid payload (contentFn payload cache rule).1 := by
  cases payload with
  | bytes data =>
      simp only [contentFn]
      split <;> rename_i nocase
      · have cached : cache.getD (lowerBytes data) = lowerBytes data := by
          cases content : cache with
          | none =>
              rfl
          | some lowered =>
              obtain ⟨_, same, isLowered⟩ := valid lowered content
              cases same
              exact isLowered
        rw [cached]
        constructor
        · simp only [matchContents, matchChain_lowered nocase]
        · intro lowered isCached
          cases isCached
          exact ⟨data, rfl, rfl⟩
      · exact ⟨rfl, valid⟩
  | none => exact ⟨rfl, valid⟩
  | bytearray data => exact ⟨rfl, valid⟩
  | memoryview data => exact ⟨rfl, valid⟩
  | other truthy => exact ⟨rfl, valid⟩

/-! ### What a match reports -/

/-- An element that `Detection.__post_init__` accepts. -/
def MatchDetail.Valid : MatchDetail → Prop
  | .header => True
  | .content _ _ length => 1 ≤ length

instance (detail : MatchDetail) : Decidable detail.Valid := by
  unfold MatchDetail.Valid
  cases detail <;> infer_instance

/-- An occurrence that is returned is one from which the chain continues. -/
theorem proceed_of_tryOccurrences
    {findNext : Int → Option Nat}
    {proceed : Nat → FailedStates → Option Chain × FailedStates}
    {rounds position : Nat}
    {start : Int}
    {failed : FailedStates}
    {chain : Chain}
    (found :
      (tryOccurrences findNext proceed rounds start failed).1 =
        some (position, chain)) :
    ∃ known, (proceed position known).1 = some chain := by
  induction rounds generalizing start failed with
  | zero =>
      cases found
  | succ rounds inductionHypothesis =>
      simp only [tryOccurrences] at found
      cases next : findNext start with
      | none =>
          rw [next] at found
          cases found
      | some here =>
          rw [next] at found
          simp only at found
          rcases tried : proceed here failed with ⟨answer, known⟩
          rw [tried] at found
          cases answer with
          | none =>
              exact inductionHypothesis found
          | some rest =>
              cases found
              exact ⟨failed, by rw [tried]⟩

/-- A chain names one match for each content, as long as its pattern. -/
theorem search_lengths
    {data : Bytes}
    {lowered : Option Bytes}
    {index prevEnd : Nat}
    {contents : List ContentSpec}
    {failed : FailedStates}
    {chain : Chain}
    (found :
      (search data lowered index contents prevEnd failed).1 =
        some chain) :
    List.Forall₂ (fun spec item => item.2 = spec.pattern.length)
      contents chain := by
  induction contents generalizing index prevEnd failed chain with
  | nil =>
      simp only [search, Option.some.injEq] at found
      subst found
      exact .nil
  | cons spec rest inductionHypothesis =>
      simp only [search] at found
      split at found
      · cases found
      · split at found
        · rename_i position later known occurrences
          cases found
          obtain ⟨_, continued⟩ :=
            proceed_of_tryOccurrences (congrArg Prod.fst occurrences)
          exact .cons rfl (inductionHypothesis continued)
        · cases found

/-- So does a chain that `match_chain` returns. -/
theorem matchChain_lengths
    {payload : Payload}
    {contents : List ContentSpec}
    {lowered : Option Bytes}
    {chain : Chain}
    (found : matchChain payload contents lowered = some chain) :
    List.Forall₂ (fun spec item => item.2 = spec.pattern.length)
      contents chain := by
  cases contents with
  | nil =>
      cases found
      exact .nil
  | cons spec rest =>
      simp only [matchChain, List.isEmpty_cons, Bool.false_eq_true,
        if_false] at found
      split at found
      · cases found
      · exact search_lengths found

/-- The reported elements have the lengths of their patterns. -/
theorem contentDetails_valid
    {contents : List ContentSpec}
    {chain : Chain}
    (lengths :
      List.Forall₂ (fun spec item => item.2 = spec.pattern.length)
        contents chain) :
    ∀ detail ∈ contentDetails contents chain, detail.Valid := by
  induction lengths with
  | nil =>
      intro detail member
      cases member
  | @cons spec item contents chain sameLength _ inductionHypothesis =>
      intro detail member
      rcases List.mem_cons.mp member with isHead | inRest
      · subst isHead
        simp only [MatchDetail.Valid, sameLength]
        exact List.length_pos_iff.mpr spec.patternNotEmpty
      · exact inductionHypothesis detail inRest

/-- What is reported for a rule with contents is not empty, and valid. -/
theorem matchContents_valid
    {rule : Rule}
    {payload : Payload}
    {lowered : Option Bytes}
    {details : List MatchDetail}
    (notEmpty : rule.contents ≠ [])
    (found : matchContents rule payload lowered = some details) :
    details ≠ [] ∧ ∀ detail ∈ details, detail.Valid := by
  simp only [matchContents, Option.map_eq_some_iff] at found
  obtain ⟨chain, isChain, rfl⟩ := found
  have lengths := matchChain_lengths isChain
  refine ⟨?_, contentDetails_valid lengths⟩
  generalize rule.contents = contents at notEmpty lengths
  cases lengths with
  | nil =>
      exact absurd rfl notEmpty
  | cons _ _ =>
      simp [contentDetails]

end IntrusionDetection
