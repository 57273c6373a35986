import IntrusionDetection.ContentSearch
import Mathlib.Data.List.ProdSigma

namespace IntrusionDetection

open PyText

/-!
# The work of the content search

The search is run a second time with a log: what its body does past the memory
of failed states, and how often it calls `find` there.  The loops have no bound
of their own here; a run that would exceed the given number of rounds has no
result.  The memory makes the logged states distinct, which bounds the work by
the number of contents times the length of the payload.
-/

/-- One execution of the body of `search` past the memory of failed states. -/
structure Entry where
  index : Nat
  spec : ContentSpec
  prevEnd : Nat
  finds : Nat

/-- The state an execution of the body settles. -/
def Entry.state (entry : Entry) : Nat × Nat :=
  searchState entry.index entry.spec entry.prevEnd

/-- The outcome of a part of the search with the log of what it executed. -/
structure Traced (α : Type) where
  answer : Option α
  failed : FailedStates
  entries : List Entry

/-- The loop over the occurrences, with its calls of `find` counted. -/
def tracedOccurrences
    (findNext : Int → Option Nat)
    (proceed : Nat → FailedStates → Option (Traced Chain)) :
    Nat → Int → FailedStates → Option (Nat × Traced (Nat × Chain))
  | 0, _, _ => none
  | rounds + 1, start, failed =>
      match findNext start with
      | none => some (1, ⟨none, failed, []⟩)
      | some position =>
          match proceed position failed with
          | none => none
          | some ⟨some chain, failed, entries⟩ =>
              some (1, ⟨some (position, chain), failed, entries⟩)
          | some ⟨none, failed, entries⟩ =>
              (tracedOccurrences findNext proceed rounds
                (position + 1) failed).map fun later =>
                  (later.1 + 1,
                    ⟨later.2.answer, later.2.failed,
                      entries ++ later.2.entries⟩)

/-- `search` with the log of its executions, in the order they begin. -/
def tracedSearch
    (data : Bytes)
    (lowered : Option Bytes)
    (rounds : Nat) :
    Nat → List ContentSpec → Nat → FailedStates → Option (Traced Chain)
  | _, [], _, failed => some ⟨some [], failed, []⟩
  | index, spec :: rest, prevEnd, failed =>
      let state := searchState index spec prevEnd
      if failed.contains state then
        some ⟨none, failed, []⟩
      else
        let window := searchWindow spec prevEnd
        let length := spec.pattern.length
        (tracedOccurrences
          (fun start => findIn data spec start window.2 lowered)
          (fun position failed =>
            tracedSearch data lowered rounds (index + 1) rest
              (position + length) failed)
          rounds window.1 failed).map fun ended =>
            { answer := ended.2.answer.map fun found =>
                (found.1, length) :: found.2
              failed :=
                if ended.2.answer.isSome then ended.2.failed
                else state :: ended.2.failed
              entries :=
                ⟨index, spec, prevEnd, ended.1⟩ :: ended.2.entries }

/-- `match_chain` with the log of the executions of `search`. -/
def tracedMatchChain
    (rounds : Nat)
    (payload : Payload)
    (contents : List ContentSpec)
    (lowered : Option Bytes) :
    Option (Option Chain × List Entry) :=
  if contents.isEmpty then
    some (some [], [])
  else
    match asBytes payload with
    | none => some (none, [])
    | some data =>
        let lowered :=
          if lowered.isNone ∧ contents.any ContentSpec.nocase then
            some (lowerBytes data)
          else
            lowered
        (tracedSearch data lowered rounds 0 contents 0 []).map
          fun traced => (traced.answer, traced.entries)

/-! ### What one search does -/

/-- `bytes.find` returns a place in its window where the pattern fits. -/
theorem findBytes_inside
    {data pattern : Bytes}
    {start stop position : Nat}
    (found : findBytes data pattern start stop = some position) :
    start ≤ position ∧ position + pattern.length ≤ stop := by
  obtain ⟨accepted, inRange, _⟩ := List.find?_range'_eq_some.mp found
  rw [Bool.and_eq_true, decide_eq_true_eq] at accepted
  rw [List.mem_range'_1] at inRange
  exact ⟨inRange.1, accepted.1⟩

/-- `find` returns a place from its start on where the pattern fits. -/
theorem findIn_inside
    {data : Bytes}
    {spec : ContentSpec}
    {start : Int}
    {stop : Option Int}
    {lowered : Option Bytes}
    {position : Nat}
    (found : findIn data spec start stop lowered = some position) :
    start.toNat ≤ position ∧
      position + spec.pattern.length ≤ data.length := by
  have limitInside : searchLimit data stop ≤ data.length := by
    cases stop with
    | none =>
        exact le_refl _
    | some bound =>
        exact min_le_right _ _
  have sameLength :
      (lowerBytes spec.pattern).length = spec.pattern.length :=
    List.length_map lowerByte
  unfold findIn at found
  change (if searchLimit data stop ≤ max 0 start ∨
      searchLimit data stop - max 0 start < spec.pattern.length then none
    else if spec.nocase then
      findBytes _ _ (max 0 start).toNat (searchLimit data stop).toNat
    else
      findBytes _ _ (max 0 start).toNat (searchLimit data stop).toNat) =
    _ at found
  split at found
  · cases found
  · split at found
    · have inside := findBytes_inside found
      omega
    · have inside := findBytes_inside found
      omega

/-! ### What the memory keeps -/

/-- An execution for a content from `first` on, within the bounds. -/
structure Entry.Fits
    (contents : List ContentSpec)
    (size first : Nat)
    (entry : Entry) : Prop where
  later : first ≤ entry.index
  content : contents[entry.index]? = some entry.spec
  inside : entry.prevEnd ≤ size
  calls : entry.finds ≤ size + 1

/--
The entries of a part of the search that works on the contents from `first` on:
each settles a state that was neither known nor settled before, and a part that
fails leaves all of them in the memory.
-/
structure Explored
    (contents : List ContentSpec)
    (size first : Nat)
    (failed : FailedStates)
    (refused : Prop)
    (failed' : FailedStates)
    (entries : List Entry) : Prop where
  fits : ∀ entry ∈ entries, entry.Fits contents size first
  distinct : (entries.map Entry.state).Nodup
  fresh : ∀ entry ∈ entries, entry.state ∉ failed
  kept : ∀ state ∈ failed, state ∈ failed'
  recorded : refused → ∀ entry ∈ entries, entry.state ∈ failed'

/-- A part that executes nothing leaves the memory as it was. -/
theorem Explored.nothing
    (contents : List ContentSpec)
    (size first : Nat)
    (failed : FailedStates)
    (refused : Prop) :
    Explored contents size first failed refused failed [] := by
  constructor <;> simp

/-- What comes after a part that failed settles other states than it did. -/
theorem Explored.append
    {contents : List ContentSpec}
    {size first : Nat}
    {failed failed' failed'' : FailedStates}
    {refused refused' : Prop}
    {entries entries' : List Entry}
    (before : Explored contents size first failed refused' failed' entries)
    (hasFailed : refused')
    (after : Explored contents size first failed' refused failed'' entries') :
    Explored contents size first failed refused failed''
      (entries ++ entries') where
  fits := List.forall_mem_append.mpr ⟨before.fits, after.fits⟩
  distinct := by
    rw [List.map_append, List.nodup_append]
    refine ⟨before.distinct, after.distinct, ?_⟩
    intro state inBefore state' inAfter same
    subst same
    obtain ⟨entry, isEntry, rfl⟩ := List.mem_map.mp inBefore
    obtain ⟨entry', isEntry', same⟩ := List.mem_map.mp inAfter
    apply after.fresh entry' isEntry'
    rw [same]
    exact before.recorded hasFailed entry isEntry
  fresh := by
    refine List.forall_mem_append.mpr ⟨before.fresh, ?_⟩
    intro entry inAfter known
    exact after.fresh entry inAfter (before.kept _ known)
  kept := fun state known => after.kept state (before.kept state known)
  recorded := by
    intro isRefused
    refine List.forall_mem_append.mpr ⟨?_, after.recorded isRefused⟩
    intro entry inBefore
    exact after.kept _ (before.recorded hasFailed entry inBefore)

/-- The body adds its own state, which none of the later contents settles. -/
theorem Explored.enter
    {contents : List ContentSpec}
    {size index : Nat}
    {failed failed' failed'' : FailedStates}
    {refused refused' : Prop}
    {entry : Entry}
    {entries : List Entry}
    (explored :
      Explored contents size (index + 1) failed refused failed' entries)
    (hasFailed : refused' → refused)
    (entryFits : entry.Fits contents size index)
    (here : entry.index = index)
    (unknown : entry.state ∉ failed)
    (kept : ∀ state ∈ failed', state ∈ failed'')
    (recorded : refused' → entry.state ∈ failed'') :
    Explored contents size index failed refused' failed''
      (entry :: entries) where
  fits := by
    refine List.forall_mem_cons.mpr ⟨entryFits, ?_⟩
    intro later member
    have laterFits := explored.fits later member
    exact { laterFits with later := Nat.le_of_succ_le laterFits.later }
  distinct := by
    rw [List.map_cons, List.nodup_cons]
    refine ⟨?_, explored.distinct⟩
    intro member
    obtain ⟨later, isLater, same⟩ := List.mem_map.mp member
    have sameIndex : later.index = entry.index := congrArg Prod.fst same
    have isLaterIndex := (explored.fits later isLater).later
    omega
  fresh := List.forall_mem_cons.mpr ⟨unknown, explored.fresh⟩
  kept := fun state known => kept state (explored.kept state known)
  recorded := by
    intro isRefused
    refine List.forall_mem_cons.mpr ⟨recorded isRefused, ?_⟩
    intro later member
    exact kept _
      (explored.recorded (hasFailed isRefused) later member)

/-! ### The loop and the search -/

/-- A logged part has the outcome of the part of the search it logs. -/
structure HasOutcome
    {α : Type}
    (contents : List ContentSpec)
    (size first : Nat)
    (failed : FailedStates)
    (outcome : Option α × FailedStates)
    (traced : Traced α) : Prop where
  answer : traced.answer = outcome.1
  known : traced.failed = outcome.2
  explored :
    Explored contents size first failed (outcome.1 = none) outcome.2
      traced.entries

/--
With more rounds than the data has bytes the loop ends by itself, as the one of
the search does, after at most one call of `find` for each place that is left.
-/
theorem tracedOccurrences_outcome
    {contents : List ContentSpec}
    {size first : Nat}
    {findNext : Int → Option Nat}
    {proceed : Nat → FailedStates → Option Chain × FailedStates}
    {traced : Nat → FailedStates → Option (Traced Chain)}
    (hits :
      ∀ start position,
        findNext start = some position →
        start.toNat ≤ position ∧ position < size)
    (continues :
      ∀ start position failed,
        findNext start = some position →
        ∃ logged,
          traced position failed = some logged ∧
            HasOutcome contents size first failed (proceed position failed)
              logged)
    (rounds rounds' : Nat)
    (start : Int)
    (failed : FailedStates)
    (enough : 0 < rounds ∧ size < rounds + start.toNat)
    (enough' : 0 < rounds' ∧ size < rounds' + start.toNat) :
    ∃ finds logged,
      tracedOccurrences findNext traced rounds start failed =
          some (finds, logged) ∧
        finds ≤ size - start.toNat + 1 ∧
        HasOutcome contents size first failed
          (tryOccurrences findNext proceed rounds' start failed)
          logged := by
  induction rounds generalizing rounds' start failed with
  | zero =>
      exact absurd enough.1 (Nat.lt_irrefl 0)
  | succ rounds inductionHypothesis =>
      obtain ⟨rounds', rfl⟩ := Nat.exists_eq_add_one.mpr enough'.1
      simp only [tracedOccurrences, tryOccurrences]
      cases next : findNext start with
      | none =>
          exact ⟨1, _, rfl, by omega, rfl, rfl, Explored.nothing ..⟩
      | some position =>
          obtain ⟨fromStart, inside⟩ := hits start position next
          obtain ⟨⟨answer, known, entries⟩, isTraced, hasOutcome⟩ :=
            continues start position failed next
          obtain ⟨sameAnswer, sameKnown, explored⟩ := hasOutcome
          simp only [isTraced]
          cases outcome : proceed position failed with
          | mk answer' known' =>
              rw [outcome] at sameAnswer sameKnown explored
              subst sameAnswer sameKnown
              cases answer with
              | some chain =>
                  refine ⟨1, _, rfl, by omega, rfl, rfl, ?_⟩
                  exact { explored with
                    recorded := fun isNone => by cases isNone }
              | none =>
                  obtain ⟨finds, others, isLater, few, hasOutcome⟩ :=
                    inductionHypothesis rounds' (position + 1) known
                      (by omega) (by omega)
                  simp only [isLater, Option.map_some]
                  exact ⟨finds + 1, _, rfl, by omega, hasOutcome.answer,
                    hasOutcome.known, explored.append rfl hasOutcome.explored⟩

/-- The logged search ends with the outcome of the search, within its bounds. -/
theorem tracedSearch_outcome
    {data : Bytes}
    {rounds : Nat}
    (lowered : Option Bytes)
    (enough : data.length < rounds)
    {contents remaining : List ContentSpec}
    {index prevEnd : Nat}
    (failed : FailedStates)
    (isRest : contents.drop index = remaining)
    (inside : prevEnd ≤ data.length) :
    ∃ logged,
      tracedSearch data lowered rounds index remaining prevEnd failed =
          some logged ∧
        HasOutcome contents data.length index failed
          (search data lowered index remaining prevEnd failed) logged := by
  induction remaining generalizing index prevEnd failed with
  | nil =>
      exact ⟨_, rfl, rfl, rfl, Explored.nothing ..⟩
  | cons spec rest inductionHypothesis =>
      have isContent : contents[index]? = some spec := by
        rw [← List.head?_drop, isRest]
        rfl
      have isRest' : contents.drop (index + 1) = rest := by
        rw [← List.tail_drop, isRest]
        rfl
      have notEmpty : 0 < spec.pattern.length :=
        List.length_pos_iff.mpr spec.patternNotEmpty
      simp only [tracedSearch, search]
      by_cases known : searchState index spec prevEnd ∈ failed
      · simp only [List.contains_iff_mem, known, if_true]
        exact ⟨_, rfl, rfl, rfl, Explored.nothing ..⟩
      · simp only [List.contains_iff_mem, known, if_false]
        have hits :
            ∀ start position,
              findIn data spec start (searchWindow spec prevEnd).2 lowered =
                some position →
              start.toNat ≤ position ∧ position < data.length := by
          intro start position found
          have fits := findIn_inside found
          omega
        have continues :
            ∀ (start : Int) position known,
              findIn data spec start (searchWindow spec prevEnd).2 lowered =
                some position →
              ∃ logged,
                tracedSearch data lowered rounds (index + 1) rest
                    (position + spec.pattern.length) known =
                  some logged ∧
                HasOutcome contents data.length (index + 1) known
                  (search data lowered (index + 1) rest
                    (position + spec.pattern.length) known)
                  logged := by
          intro start position known found
          exact inductionHypothesis known isRest' (findIn_inside found).2
        obtain ⟨finds, ⟨answer, failed', entries⟩, isTraced, few,
            hasOutcome⟩ :=
          tracedOccurrences_outcome hits continues rounds
            (data.length + 1) (searchWindow spec prevEnd).1 failed
            (by omega) (by omega)
        obtain ⟨sameAnswer, sameKnown, explored⟩ := hasOutcome
        have fits :
            (Entry.mk index spec prevEnd finds).Fits contents data.length
              index :=
          ⟨le_refl _, isContent, inside, few.trans (by omega)⟩
        simp only [isTraced, Option.map_some]
        refine ⟨_, rfl, ?_⟩
        cases outcome : tryOccurrences
            (fun start =>
              findIn data spec start (searchWindow spec prevEnd).2 lowered)
            (fun position failed =>
              search data lowered (index + 1) rest
                (position + spec.pattern.length) failed)
            (data.length + 1) (searchWindow spec prevEnd).1 failed with
        | mk answer' known' =>
            rw [outcome] at sameAnswer sameKnown explored
            subst sameAnswer sameKnown
            cases answer with
            | some found =>
                exact ⟨rfl, rfl, explored.enter
                  (fun isNone => by cases isNone) fits rfl known
                  (fun _ isKnown => isKnown)
                  (fun isNone => by cases isNone)⟩
            | none =>
                exact ⟨rfl, rfl, explored.enter (fun _ => rfl) fits rfl known
                  (fun _ isKnown => List.mem_cons_of_mem _ isKnown)
                  (fun _ => List.mem_cons_self)⟩

/-! ### The bounds -/

/--
The bounds on one call: no pair of a content and a previous end is entered
twice, and no absolute content is.
-/
structure BoundedWork
    (contents : List ContentSpec)
    (size : Nat)
    (entries : List Entry) : Prop where
  fits : ∀ entry ∈ entries, entry.Fits contents size 0
  once : (entries.map fun entry => (entry.index, entry.prevEnd)).Nodup
  onceAbsolute :
    ∀ index spec,
      contents[index]? = some spec →
      isRelative spec = false →
      (entries.filter fun entry => entry.index = index).length ≤ 1
  few : entries.length ≤ contents.length * (size + 1)

/-- Distinct states are distinct pairs, of which there are only so many. -/
theorem Explored.bounded
    {contents : List ContentSpec}
    {size : Nat}
    {failed failed' : FailedStates}
    {refused : Prop}
    {entries : List Entry}
    (explored : Explored contents size 0 failed refused failed' entries) :
    BoundedWork contents size entries := by
  have once :
      (entries.map fun entry => (entry.index, entry.prevEnd)).Nodup := by
    apply List.pairwise_map.mpr
    apply (List.pairwise_map.mp explored.distinct).imp_of_mem
    intro entry entry' member member' different same
    obtain ⟨sameIndex, samePrevEnd⟩ := Prod.mk.inj same
    have content := (explored.fits entry member).content
    have content' := (explored.fits entry' member').content
    rw [sameIndex, content'] at content
    have sameSpec : entry.spec = entry'.spec :=
      (Option.some.inj content).symm
    apply different
    simp only [Entry.state, sameIndex, sameSpec, samePrevEnd]
  refine ⟨explored.fits, once, ?_, ?_⟩
  · intro index spec isContent absolute
    have allSame :
        ∀ state ∈ (entries.filter fun entry => entry.index = index).map
          Entry.state, state = (index, 0) := by
      intro state member
      obtain ⟨entry, isEntry, rfl⟩ := List.mem_map.mp member
      obtain ⟨inEntries, isIndex⟩ := List.mem_filter.mp isEntry
      have sameIndex : entry.index = index := of_decide_eq_true isIndex
      have content := (explored.fits entry inEntries).content
      rw [sameIndex, isContent] at content
      have sameSpec : entry.spec = spec := (Option.some.inj content).symm
      simp [Entry.state, searchState, sameIndex, sameSpec, absolute]
    have distinct :
        ((entries.filter fun entry => entry.index = index).map
          Entry.state).Nodup :=
      explored.distinct.sublist (List.filter_sublist.map Entry.state)
    rw [List.eq_replicate_of_mem allSame, List.nodup_replicate,
      List.length_map] at distinct
    exact distinct
  · have inside :
        (entries.map fun entry => (entry.index, entry.prevEnd)) ⊆
          List.range contents.length ×ˢ List.range (size + 1) := by
      intro pair member
      obtain ⟨entry, isEntry, rfl⟩ := List.mem_map.mp member
      have fits := explored.fits entry isEntry
      have inContents : entry.index < contents.length :=
        (List.getElem?_eq_some_iff.mp fits.content).1
      apply List.mem_product.mpr
      constructor
      · exact List.mem_range.mpr inContents
      · exact List.mem_range.mpr (Nat.lt_succ_of_le fits.inside)
    have short := (once.subperm inside).length_le
    rwa [List.length_map, List.length_product, List.length_range,
      List.length_range] at short

/--
One call of `match_chain` on a payload of `n` bytes ends, with any number of
rounds over `n` at hand, and stays within the bounds.
-/
theorem matchChain_bounded
    (payload : Payload)
    (contents : List ContentSpec)
    (lowered : Option Bytes)
    (spare : Nat) :
    ∃ entries,
      tracedMatchChain ((searchedBytes payload).length + 1 + spare) payload
          contents lowered =
        some (matchChain payload contents lowered, entries) ∧
      BoundedWork contents (searchedBytes payload).length entries := by
  have nothing :
      BoundedWork contents (searchedBytes payload).length [] :=
    (Explored.nothing contents _ 0 [] True).bounded
  unfold tracedMatchChain matchChain searchedBytes
  split
  · exact ⟨[], rfl, nothing⟩
  · cases converted : asBytes payload with
    | none =>
        rw [searchedBytes, converted] at nothing
        exact ⟨[], rfl, nothing⟩
    | some data =>
        obtain ⟨logged, isTraced, hasOutcome⟩ :=
          tracedSearch_outcome
            (if lowered.isNone ∧ contents.any ContentSpec.nocase then
              some (lowerBytes data)
            else
              lowered)
            (show data.length < data.length + 1 + spare by omega)
            [] (List.drop_zero (l := contents)) (Nat.zero_le data.length)
        refine ⟨logged.entries, ?_, hasOutcome.explored.bounded⟩
        simp only [Option.getD_some, isTraced, Option.map_some,
          hasOutcome.answer]

end IntrusionDetection
