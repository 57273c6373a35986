import IntrusionDetection.MapEarlier

/-!
# Faults of two severities

A check may find several faults, some severe and some not, and reports one of
them: the first severe one or, if there is none, the first.  A checker that
stops at a severe fault and remembers the other ones reports, after any
sequence of checks, what one check with all their faults would report.
-/

namespace FaultPrecedence

open MapEarlier

variable {Fault : Type}
variable (severe : Fault → Bool)

/-- The fault a check reports, of all the faults there are. -/
def classify (faults : List Fault) : Option Fault :=
  (faults.find? severe).or faults.head?

/-- What two checks report together, the first one coming first. -/
def prefer (first second : Option Fault) : Option Fault :=
  match first with
  | none => second
  | some former =>
      if severe former then
        some former
      else
        match second with
        | none => some former
        | some latter =>
            if severe latter then some latter else some former

variable {severe}

@[simp] theorem classify_nil : classify severe [] = none :=
  rfl

@[simp] theorem classify_singleton (fault : Fault) :
    classify severe [fault] = some fault := by
  cases isSevere : severe fault <;>
    simp [classify, isSevere]

@[simp] theorem prefer_none_left (second : Option Fault) :
    prefer severe none second = second :=
  rfl

@[simp] theorem prefer_none_right (first : Option Fault) :
    prefer severe first none = first := by
  cases first with
  | none =>
      rfl
  | some former =>
      simp [prefer]

/-- A severe fault hides everything after it. -/
theorem prefer_of_severe
    {fault : Fault}
    (isSevere : severe fault = true)
    (second : Option Fault) :
    prefer severe (some fault) second = some fault := by
  simp [prefer, isSevere]

/-- A fault that is not severe is hidden by any severe one. -/
theorem prefer_severe
    {first : Option Fault}
    {fault : Fault}
    (minor : ∀ former ∈ first, severe former = false)
    (isSevere : severe fault = true) :
    prefer severe first (some fault) = some fault := by
  cases first with
  | none =>
      rfl
  | some former =>
      simp [prefer, minor former rfl, isSevere]

/-- Of two faults that are not severe the first one is reported. -/
theorem prefer_minor
    {first second : Option Fault}
    (minorFirst : ∀ former ∈ first, severe former = false)
    (minorSecond : ∀ latter ∈ second, severe latter = false) :
    prefer severe first second = first.or second := by
  cases first with
  | none =>
      rfl
  | some former =>
      cases second with
      | none =>
          simp [prefer]
      | some latter =>
          simp [prefer, minorFirst former rfl, minorSecond latter rfl]

/-- Reporting does not depend on how the checks are grouped. -/
theorem prefer_assoc (first second third : Option Fault) :
    prefer severe (prefer severe first second) third =
      prefer severe first (prefer severe second third) := by
  cases first with
  | none =>
      rfl
  | some former =>
      cases isSevere : severe former with
      | true =>
          simp only [prefer_of_severe isSevere]
      | false =>
          cases second with
          | none =>
              rw [prefer_none_right, prefer_none_left]
          | some middle =>
              cases third with
              | none =>
                  rw [prefer_none_right, prefer_none_right]
              | some latter =>
                  cases middleSevere : severe middle <;>
                    cases latterSevere : severe latter <;>
                    simp [prefer, isSevere, middleSevere, latterSevere]

/-- What a check reports is severe if any of its faults is. -/
theorem classify_severe_iff {faults : List Fault} :
    (∃ fault, classify severe faults = some fault ∧
        severe fault = true) ↔
      ∃ fault ∈ faults, severe fault = true := by
  constructor
  · rintro ⟨fault, reported, isSevere⟩
    refine ⟨fault, ?_, isSevere⟩
    cases found : faults.find? severe with
    | some first =>
        have same : first = fault := by simpa [classify, found] using reported
        rw [← same]
        exact List.mem_of_find?_eq_some found
    | none =>
        simp only [classify, found, Option.none_or] at reported
        exact List.mem_of_head? reported
  · rintro ⟨fault, member, isSevere⟩
    have found : (faults.find? severe).isSome :=
      List.find?_isSome.mpr ⟨fault, member, isSevere⟩
    obtain ⟨first, isFirst⟩ := Option.isSome_iff_exists.mp found
    exact ⟨first, by simp [classify, isFirst],
      List.find?_some isFirst⟩

/-- What is reported is one of the faults. -/
theorem mem_of_classify
    {faults : List Fault}
    {fault : Fault}
    (reported : classify severe faults = some fault) :
    fault ∈ faults := by
  rcases Option.or_eq_some_iff.mp reported with found | ⟨_, first⟩
  · exact List.mem_of_find?_eq_some found
  · exact List.mem_of_head? first

/-- Nothing is reported only if there is no fault. -/
theorem classify_eq_none_iff {faults : List Fault} :
    classify severe faults = none ↔ faults = [] := by
  constructor
  · intro nothing
    simpa [classify] using (Option.or_eq_none_iff.mp nothing).2
  · rintro rfl
    rfl

/-- Classification composes: the two parts report what the whole reports. -/
theorem classify_append (first second : List Fault) :
    classify severe (first ++ second) =
      prefer severe (classify severe first) (classify severe second) := by
  cases firstFound : first.find? severe with
  | some fault =>
      have isSevere := List.find?_some firstFound
      simp [classify, List.find?_append, firstFound, prefer, isSevere]
  | none =>
      cases first with
      | nil =>
          simp
      | cons head rest =>
          have headMinor : severe head = false := by
            simpa using List.find?_eq_none.mp firstFound head (by simp)
          have restMinor : rest.find? severe = none := by
            simpa [headMinor] using firstFound
          cases secondFound : second.find? severe with
          | some fault =>
              have isSevere := List.find?_some secondFound
              simp [classify, restMinor, secondFound, prefer, headMinor,
                isSevere]
          | none =>
              cases second with
              | nil =>
                  simp
              | cons other later =>
                  have otherMinor : severe other = false := by
                    simpa using
                      List.find?_eq_none.mp secondFound other (by simp)
                  simp [classify, restMinor, secondFound, prefer, headMinor,
                    otherMinor]

/-- One more fault in front. -/
theorem classify_cons (fault : Fault) (faults : List Fault) :
    classify severe (fault :: faults) =
      prefer severe (some fault) (classify severe faults) := by
  rw [← List.singleton_append, classify_append, classify_singleton]

/-- A severe fault in front is reported. -/
theorem classify_cons_of_severe
    {fault : Fault}
    (isSevere : severe fault = true)
    (faults : List Fault) :
    classify severe (fault :: faults) = some fault := by
  simp [classify, isSevere]

/-- The fault a parse fails with. -/
def errorOf {Value : Type} : Except Fault Value → Option Fault
  | .error fault => some fault
  | .ok _ => none

/-- A parse without a fault yields a value. -/
theorem errorOf_eq_none_iff
    {Value : Type}
    {parsed : Except Fault Value} :
    errorOf parsed = none ↔ ∃ value, parsed = .ok value := by
  cases parsed <;> simp [errorOf]

/-- A sequence that ends well came through its first step. -/
theorem exists_of_bind_ok
    {Value Next : Type}
    {first : Except Fault Value}
    {next : Value → Except Fault Next}
    {result : Next}
    (ended : first >>= next = .ok result) :
    ∃ value, first = .ok value ∧ next value = .ok result := by
  cases first with
  | error fault =>
      cases ended
  | ok value =>
      exact ⟨value, rfl, ended⟩

/-- A mapped result that ends well is the image of one. -/
theorem exists_of_map_ok
    {Value Next : Type}
    {first : Except Fault Value}
    {transform : Value → Next}
    {result : Next}
    (ended : first.map transform = .ok result) :
    ∃ value, first = .ok value ∧ transform value = result := by
  cases first with
  | error fault =>
      cases ended
  | ok value =>
      exact ⟨value, rfl, Except.ok.inj ended⟩

/-- A sequence fails in one of its steps. -/
theorem bind_error_cases
    {Value Next : Type}
    {first : Except Fault Value}
    {next : Value → Except Fault Next}
    {fault : Fault}
    (failed : first >>= next = .error fault) :
    first = .error fault ∨
      ∃ value, first = .ok value ∧ next value = .error fault := by
  cases first with
  | error known =>
      exact Or.inl (congrArg Except.error (Except.error.inj failed))
  | ok value =>
      exact Or.inr ⟨value, rfl, failed⟩

/-- A mapped result fails as the result does. -/
theorem error_of_map_error
    {Value Next : Type}
    {first : Except Fault Value}
    {transform : Value → Next}
    {fault : Fault}
    (failed : first.map transform = .error fault) :
    first = .error fault := by
  cases first with
  | error known =>
      exact congrArg Except.error (Except.error.inj failed)
  | ok value =>
      cases failed

/-- Parsing a list fails at one of its elements. -/
theorem exists_of_mapM_error
    {Item Value : Type}
    {parse : Item → Except Fault Value}
    {items : List Item}
    {fault : Fault}
    (failed : items.mapM parse = .error fault) :
    ∃ item ∈ items, parse item = .error fault := by
  induction items with
  | nil =>
      cases failed
  | cons item rest inductionHypothesis =>
      rw [List.mapM_cons] at failed
      rcases bind_error_cases failed with atItem | ⟨value, _, failed⟩
      · exact ⟨item, List.mem_cons_self, atItem⟩
      · rcases bind_error_cases failed with inRest | ⟨values, _, failed⟩
        · obtain ⟨later, member, atLater⟩ := inductionHypothesis inRest
          exact ⟨later, List.mem_cons_of_mem item member, atLater⟩
        · cases failed

/-- Only minor faults: the first one is reported. -/
theorem classify_of_minor
    {faults : List Fault}
    (minor : ∀ fault ∈ faults, severe fault = false) :
    classify severe faults = faults.head? := by
  have nothing : faults.find? severe = none := by
    rw [List.find?_eq_none]
    intro fault member
    simp [minor fault member]
  simp [classify, nothing]

/-- Only severe faults: the first one is the first severe one. -/
theorem find?_of_severe
    {faults : List Fault}
    (onlySevere : ∀ fault ∈ faults, severe fault = true) :
    faults.find? severe = faults.head? := by
  cases faults with
  | nil =>
      rfl
  | cons fault rest =>
      simp [onlySevere fault (by simp)]

/-- Only severe faults: the first one is reported. -/
theorem classify_of_severe
    {faults : List Fault}
    (onlySevere : ∀ fault ∈ faults, severe fault = true) :
    classify severe faults = faults.head? := by
  rw [classify, find?_of_severe onlySevere, Option.or_self]

/--
A computation stops at the first severe fault of a list and, if there is none,
yields a value that satisfies `Yields`.
-/
def StopsAt
    {Value : Type}
    (severe : Fault → Bool)
    (faults : List Fault)
    (Yields : Value → Prop)
    (outcome : Except Fault Value) : Prop :=
  match faults.find? severe with
  | some fault => outcome = .error fault
  | none => ∃ value, outcome = .ok value ∧ Yields value

/-- A computation that stops at a severe fault. -/
theorem stopsAt_of_error
    {Value : Type}
    {faults : List Fault}
    {Yields : Value → Prop}
    {fault : Fault}
    (found : faults.find? severe = some fault) :
    StopsAt severe faults Yields (.error fault) := by
  simp [StopsAt, found]

/-- A computation that finds no severe fault. -/
theorem stopsAt_of_ok
    {Value : Type}
    {faults : List Fault}
    {Yields : Value → Prop}
    {value : Value}
    (nothing : faults.find? severe = none)
    (yields : Yields value) :
    StopsAt severe faults Yields (.ok value) := by
  simp [StopsAt, nothing, yields]

/-- A computation that fails with the first of some severe faults. -/
theorem stopsAt_of_errorOf
    {Value : Type}
    {faults : List Fault}
    {outcome : Except Fault Value}
    (onlySevere : ∀ fault ∈ faults, severe fault = true)
    (reports : errorOf outcome = faults.head?) :
    StopsAt severe faults (fun _ => True) outcome := by
  rw [← find?_of_severe onlySevere] at reports
  cases outcome with
  | error fault =>
      exact stopsAt_of_error reports.symm
  | ok value =>
      exact stopsAt_of_ok reports.symm trivial

/-- The two ways a computation may end. -/
theorem StopsAt.cases
    {Value : Type}
    {faults : List Fault}
    {Yields : Value → Prop}
    {outcome : Except Fault Value}
    (stops : StopsAt severe faults Yields outcome) :
    (∃ fault,
        faults.find? severe = some fault ∧ outcome = .error fault) ∨
      ∃ value,
        faults.find? severe = none ∧ outcome = .ok value ∧
          Yields value := by
  cases found : faults.find? severe with
  | some fault =>
      simp only [StopsAt, found] at stops
      exact Or.inl ⟨fault, rfl, stops⟩
  | none =>
      simp only [StopsAt, found] at stops
      obtain ⟨value, read, yields⟩ := stops
      exact Or.inr ⟨value, rfl, read, yields⟩

/-- Two computations in a row stop at the first severe fault of both. -/
theorem StopsAt.bind
    {Value Next : Type}
    {first second : List Fault}
    {Yields : Value → Prop}
    {YieldsNext : Next → Prop}
    {outcome : Except Fault Value}
    {next : Value → Except Fault Next}
    (former : StopsAt severe first Yields outcome)
    (latter :
      ∀ value, Yields value →
        StopsAt severe second YieldsNext (next value)) :
    StopsAt severe (first ++ second) YieldsNext (outcome >>= next) := by
  rcases former.cases with
    ⟨fault, found, rfl⟩ | ⟨value, nothing, rfl, yields⟩
  · apply stopsAt_of_error
    rw [List.find?_append, found, Option.some_or]
  · change StopsAt severe (first ++ second) YieldsNext (next value)
    rcases (latter value yields).cases with
      ⟨fault, found, stopped⟩ | ⟨final, still, read, yieldsNext⟩
    · rw [stopped]
      apply stopsAt_of_error
      rw [List.find?_append, nothing, Option.none_or, found]
    · rw [read]
      refine stopsAt_of_ok ?_ yieldsNext
      rw [List.find?_append, nothing, Option.none_or, still]

/--
The body of a loop that stops at the first severe fault of an item.  What the
loop knows about the items before is `Fits`; the faults of an item may depend
on them.
-/
def StopsAtFaults
    {State Item : Type}
    (severe : Fault → Bool)
    (step : State → Item → Except Fault State)
    (faults : List Item → Item → List Fault)
    (Fits : State → List Item → Prop) : Prop :=
  ∀ state earlier item,
    Fits state earlier →
    StopsAt severe (faults earlier item)
      (fun next => Fits next (earlier ++ [item]))
      (step state item)

/-- Such a loop stops at the first severe fault of all its items. -/
theorem StopsAtFaults.foldlM
    {State Item : Type}
    {step : State → Item → Except Fault State}
    {faults : List Item → Item → List Fault}
    {Fits : State → List Item → Prop}
    (stops : StopsAtFaults severe step faults Fits)
    {state : State}
    {earlier : List Item}
    (initially : Fits state earlier)
    (items : List Item) :
    StopsAt severe (mapEarlier faults earlier items).flatten
      (fun final => Fits final (earlier ++ items))
      (items.foldlM step state) := by
  induction items generalizing state earlier with
  | nil =>
      exact stopsAt_of_ok rfl (by simpa using initially)
  | cons item rest inductionHypothesis =>
      rw [mapEarlier_cons, List.flatten_cons, List.foldlM_cons]
      refine (stops state earlier item initially).bind ?_
      intro next fits
      have later := inductionHypothesis fits
      rw [List.append_assoc] at later
      exact later

/-! ### Checkers that stop at a severe fault -/

/--
A checker: it stops at a severe fault, and otherwise yields a value and the
faults it remembers.
-/
abbrev Checker (Fault Value : Type) :=
  List Fault → Except Fault (Value × List Fault)

namespace Checker

variable {Value Next : Type}

/-- Yield a value without looking for a fault. -/
def pure (value : Value) : Checker Fault Value :=
  fun remembered => .ok (value, remembered)

/-- Check first, then go on with the value. -/
def andThen
    (checker : Checker Fault Value)
    (next : Value → Checker Fault Next) :
    Checker Fault Next :=
  fun remembered =>
    match checker remembered with
    | .error fault => .error fault
    | .ok (value, remembered) => next value remembered

/-- Stop at any fault. -/
def demand (parsed : Except Fault Value) : Checker Fault Value :=
  fun remembered => parsed.map fun value => (value, remembered)

variable (severe) in
/-- Stop at a severe fault; after any other one go on with a default value. -/
def attempt (default : Value) (parsed : Except Fault Value) :
    Checker Fault Value :=
  fun remembered =>
    match parsed with
    | .ok value => .ok (value, remembered)
    | .error fault =>
        if severe fault then
          .error fault
        else
          .ok (default, remembered ++ [fault])

/-- Remember a fault, if there is one. -/
def note (fault : Option Fault) : Checker Fault Unit :=
  fun remembered => .ok ((), remembered ++ fault.toList)

variable (severe) in
/--
A checker reports a fault: it stops with the fault if that is severe, and
otherwise adds it to the remembered ones and yields a value that satisfies
`Yields`.
-/
def Reports
    (checker : Checker Fault Value)
    (reported : Option Fault)
    (Yields : Value → Prop) : Prop :=
  ∀ remembered,
    match checker remembered with
    | .error fault => severe fault = true ∧ reported = some fault
    | .ok (value, after) =>
        (∀ fault ∈ reported, severe fault = false) ∧
          after.head? = remembered.head?.or reported ∧
          Yields value

/-- Yielding a value reports nothing. -/
theorem reports_pure
    {Yields : Value → Prop}
    {value : Value}
    (yields : Yields value) :
    Reports severe (pure value : Checker Fault Value) none Yields := by
  intro remembered
  simp [pure, yields]

/-- Stopping at any fault reports it, if only severe ones occur. -/
theorem reports_demand
    {faults : List Fault}
    {Yields : Value → Prop}
    {parsed : Except Fault Value}
    (onlySevere : ∀ fault ∈ faults, severe fault = true)
    (stops : StopsAt severe faults Yields parsed) :
    Reports severe (demand parsed) (classify severe faults) Yields := by
  intro remembered
  rw [classify_of_severe onlySevere, ← find?_of_severe onlySevere]
  rcases stops.cases with
    ⟨fault, found, rfl⟩ | ⟨value, nothing, rfl, yields⟩
  · exact ⟨List.find?_some found, found⟩
  · rw [nothing]
    exact ⟨fun _ member => (Option.not_mem_none _ member).elim,
      (Option.or_none).symm, yields⟩

/-- An attempt reports the fault it fails with. -/
theorem reports_attempt
    (default : Value)
    {parsed : Except Fault Value}
    {reported : Option Fault}
    (describes : errorOf parsed = reported) :
    Reports severe (attempt severe default parsed) reported
      fun value => reported = none → parsed = .ok value := by
  intro remembered
  subst describes
  cases parsed with
  | error fault =>
      cases isSevere : severe fault with
      | true =>
          simp [attempt, isSevere, errorOf]
      | false =>
          cases remembered <;> simp [attempt, isSevere, errorOf]
  | ok value =>
      simp [attempt, errorOf]

/-- A noted fault that is not severe is reported. -/
theorem reports_note
    {fault : Option Fault}
    (minor : ∀ noted ∈ fault, severe noted = false) :
    Reports severe (note fault) fault fun _ => True := by
  intro remembered
  refine ⟨minor, ?_, trivial⟩
  cases remembered <;> cases fault <;> rfl

/-- Two checkers report what their faults together would. -/
theorem Reports.andThen
    {checker : Checker Fault Value}
    {next : Value → Checker Fault Next}
    {first second : Option Fault}
    {Yields : Value → Prop}
    {YieldsNext : Next → Prop}
    (former : Reports severe checker first Yields)
    (latter :
      ∀ value, Yields value →
        Reports severe (next value) second YieldsNext) :
    Reports severe (checker.andThen next) (prefer severe first second)
      YieldsNext := by
  intro remembered
  have formerStep := former remembered
  simp only [Checker.andThen]
  cases checked : checker remembered with
  | error fault =>
      rw [checked] at formerStep
      obtain ⟨isSevere, rfl⟩ := formerStep
      exact ⟨isSevere, prefer_of_severe isSevere second⟩
  | ok result =>
      obtain ⟨value, after⟩ := result
      rw [checked] at formerStep
      obtain ⟨minorFirst, kept, yields⟩ := formerStep
      have latterStep := latter value yields after
      simp only
      cases again : next value after with
      | error fault =>
          rw [again] at latterStep
          obtain ⟨isSevere, rfl⟩ := latterStep
          exact ⟨isSevere, prefer_severe minorFirst isSevere⟩
      | ok result =>
          obtain ⟨nextValue, final⟩ := result
          rw [again] at latterStep
          obtain ⟨minorSecond, keptAgain, yieldsNext⟩ := latterStep
          rw [prefer_minor minorFirst minorSecond]
          refine ⟨?_, ?_, yieldsNext⟩
          · intro fault member
            rcases Option.or_eq_some_iff.mp member with
              isFirst | ⟨_, isSecond⟩
            · exact minorFirst fault isFirst
            · exact minorSecond fault isSecond
          · rw [keptAgain, kept, Option.or_assoc]

/-! ### Checks that find nothing -/

/--
A checker never forgets a remembered fault, and where it adds none it yields a
value that satisfies `Yields`.
-/
def Clears
    (checker : Checker Fault Value)
    (Yields : Value → Prop) : Prop :=
  ∀ remembered value after,
    checker remembered = .ok (value, after) →
    remembered.length ≤ after.length ∧
      (after.length = remembered.length → Yields value)

/-- Yielding a value adds no fault. -/
theorem clears_pure (value : Value) :
    Clears (pure value : Checker Fault Value) (· = value) := by
  rintro remembered found after ⟨⟩
  exact ⟨Nat.le_refl _, fun _ => rfl⟩

/-- A demand that goes on was met. -/
theorem clears_demand (parsed : Except Fault Value) :
    Clears (demand parsed) (parsed = .ok ·) := by
  intro remembered value after passed
  cases parsed with
  | error fault =>
      cases passed
  | ok found =>
      cases passed
      exact ⟨Nat.le_refl _, fun _ => rfl⟩

variable (severe) in
/-- An attempt that adds no fault succeeded. -/
theorem clears_attempt (default : Value) (parsed : Except Fault Value) :
    Clears (attempt severe default parsed) (parsed = .ok ·) := by
  intro remembered value after passed
  cases parsed with
  | error fault =>
      simp only [attempt] at passed
      split at passed
      · cases passed
      · cases passed
        simp
  | ok found =>
      cases passed
      exact ⟨Nat.le_refl _, fun _ => rfl⟩

/-- A note that adds no fault had none. -/
theorem clears_note (fault : Option Fault) :
    Clears (note fault) fun _ => fault = none := by
  rintro remembered value after ⟨⟩
  cases fault <;> simp

/-- Two checkers find nothing together just if neither does. -/
theorem Clears.andThen
    {checker : Checker Fault Value}
    {next : Value → Checker Fault Next}
    {Yields : Value → Prop}
    {YieldsNext : Value → Next → Prop}
    (former : Clears checker Yields)
    (latter : ∀ value, Clears (next value) (YieldsNext value)) :
    Clears (checker.andThen next)
      fun final => ∃ value, Yields value ∧ YieldsNext value final := by
  intro remembered final after passed
  simp only [Checker.andThen] at passed
  cases checked : checker remembered with
  | error fault =>
      rw [checked] at passed
      cases passed
  | ok result =>
      obtain ⟨value, between⟩ := result
      rw [checked] at passed
      obtain ⟨kept, yields⟩ := former remembered value between checked
      obtain ⟨keptAgain, yieldsNext⟩ :=
        latter value between final after passed
      refine ⟨Nat.le_trans kept keptAgain, fun none => ⟨value, ?_, ?_⟩⟩
      · exact yields (Nat.le_antisymm (none ▸ keptAgain) kept)
      · exact yieldsNext
          (Nat.le_antisymm (none ▸ kept) keptAgain)

end Checker

/-! ### Loops that come to their end -/

/-- What every step keeps of the items so far holds of all of them. -/
theorem history_of_foldlM
    {State Item : Type}
    {step : State → Item → Except Fault State}
    {Fits : State → List Item → Prop}
    (keeps :
      ∀ state earlier item next,
        Fits state earlier →
        step state item = .ok next →
        Fits next (earlier ++ [item]))
    {start final : State}
    (initially : Fits start [])
    {items : List Item}
    (read : items.foldlM step start = .ok final) :
    Fits final items := by
  suffices later :
      ∀ state earlier,
        Fits state earlier →
        items.foldlM step state = .ok final →
        Fits final (earlier ++ items) from
    later start [] initially read
  clear initially read
  induction items with
  | nil =>
      intro state earlier fits read
      cases read
      simpa using fits
  | cons item rest inductionHypothesis =>
      intro state earlier fits read
      rw [List.foldlM_cons] at read
      obtain ⟨next, stepped, readRest⟩ := exists_of_bind_ok read
      have fitsNext := keeps state earlier item next fits stepped
      have whole :=
        inductionHypothesis next (earlier ++ [item]) fitsNext readRest
      rwa [List.append_assoc, List.singleton_append] at whole

end FaultPrecedence
