import Mathlib.Data.List.Basic
import Mathlib.Data.List.Induction

/-!
# Schedules of enabled steps

Several parties that share a state are one partial step function: an action
belongs to one party and is refused where that party cannot take it.  A
schedule is any interleaving of their actions.  The module says which states a
schedule visits and which steps it takes, and carries an invariant along a
schedule all of whose steps meet a condition.
-/

namespace ScheduledSteps

variable {State Action : Type}

/-- Take the actions of a schedule in order; `none` at a refused action. -/
def follow (step : State → Action → Option State) :
    State → List Action → Option State
  | state, [] => some state
  | state, action :: rest =>
      (step state action).bind fun next => follow step next rest

/-- What the actions of a schedule contribute, each in its state. -/
def gathered
    {Item : Type}
    (step : State → Action → Option State)
    (contribution : State → Action → List Item) :
    State → List Action → List Item
  | _, [] => []
  | state, action :: rest =>
      contribution state action ++
        match step state action with
        | some next => gathered step contribution next rest
        | none => []

/-- The schedule passes through the state. -/
def Visits
    (step : State → Action → Option State)
    (initial : State)
    (schedule : List Action)
    (state : State) :
    Prop :=
  ∃ earlier later,
    schedule = earlier ++ later ∧
      follow step initial earlier = some state

/-- The schedule takes the action in the state. -/
def Takes
    (step : State → Action → Option State)
    (initial : State)
    (schedule : List Action)
    (state : State)
    (action : Action) :
    Prop :=
  ∃ earlier later next,
    schedule = earlier ++ action :: later ∧
      follow step initial earlier = some state ∧
      step state action = some next

variable {step : State → Action → Option State}
variable {initial state next : State}
variable {schedule : List Action} {action : Action}

@[simp] theorem follow_nil (state : State) :
    follow step state [] = some state :=
  rfl

theorem follow_cons_of_step
    (taken : step state action = some next)
    (rest : List Action) :
    follow step state (action :: rest) = follow step next rest := by
  simp [follow, taken]

/-- A concatenated schedule is the second one after the first. -/
theorem follow_append
    (state : State)
    (first second : List Action) :
    follow step state (first ++ second) =
      (follow step state first).bind
        fun middle => follow step middle second := by
  induction first generalizing state with
  | nil =>
      rfl
  | cons action rest inductionHypothesis =>
      cases taken : step state action with
      | none =>
          simp [follow, taken]
      | some next =>
          simp [follow, taken, inductionHypothesis]

theorem follow_append_of_follow
    {middle : State}
    {first second : List Action}
    (reached : follow step state first = some middle) :
    follow step state (first ++ second) = follow step middle second := by
  simp [follow_append, reached]

/-- A step that is taken leads to a visited state. -/
theorem visits_of_takes
    (takes : Takes step initial schedule state action)
    (taken : step state action = some next) :
    Visits step initial schedule next := by
  obtain ⟨earlier, later, _, split, reached, _⟩ := takes
  refine ⟨earlier ++ [action], later, by simp [split], ?_⟩
  rw [follow_append_of_follow reached, follow_cons_of_step taken,
    follow_nil]

/--
What every step meeting a condition preserves holds in every state visited by
a schedule all of whose steps meet the condition.
-/
theorem invariant_of_guarded
    {Invariant : State → Prop}
    {Guard : State → Action → Prop}
    (initially : Invariant initial)
    (guarded :
      ∀ state action,
        Takes step initial schedule state action →
        Guard state action)
    (preserved :
      ∀ state action next,
        Invariant state →
        Guard state action →
        step state action = some next →
        Invariant next) :
    ∀ state, Visits step initial schedule state → Invariant state := by
  rintro final ⟨earlier, later, split, reached⟩
  induction earlier generalizing initial schedule with
  | nil =>
      cases reached
      exact initially
  | cons action rest inductionHypothesis =>
      simp only [follow, Option.bind_eq_some_iff] at reached
      obtain ⟨next, taken, reached⟩ := reached
      have first : Takes step initial schedule initial action :=
        ⟨[], rest ++ later, next, split, rfl, taken⟩
      refine inductionHypothesis
        (preserved initial action next initially
          (guarded initial action first) taken)
        ?_ rfl reached
      rintro laterState laterAction
        ⟨before, after, result, laterSplit, laterReached, laterTaken⟩
      refine guarded laterState laterAction
        ⟨action :: before, after, result, ?_, ?_, laterTaken⟩
      · rw [split, List.cons_append, laterSplit, List.cons_append]
      · rw [follow_cons_of_step taken]
        exact laterReached

/-- What every step preserves holds in every state a schedule visits. -/
theorem invariant_of_step
    {Invariant : State → Prop}
    (initially : Invariant initial)
    (preserved :
      ∀ state action next,
        Invariant state →
        step state action = some next →
        Invariant next) :
    ∀ state, Visits step initial schedule state → Invariant state := by
  have unguarded :
      ∀ state action,
        Takes step initial schedule state action → True :=
    fun _ _ _ => trivial
  refine invariant_of_guarded initially unguarded ?_
  intro state action next before _ taken
  exact preserved state action next before taken

/-- What every step preserves, given the actions before it, holds at the end. -/
theorem history_of_follow
    {Invariant : List Action → State → Prop}
    (initially : Invariant [] initial)
    (preserved :
      ∀ past state action next,
        follow step initial past = some state →
        Invariant past state →
        step state action = some next →
        Invariant (past ++ [action]) next)
    {final : State}
    (followed : follow step initial schedule = some final) :
    Invariant schedule final := by
  induction schedule using List.reverseRecOn generalizing final with
  | nil =>
      cases followed
      exact initially
  | append_singleton past action inductionHypothesis =>
      rw [follow_append, Option.bind_eq_some_iff] at followed
      obtain ⟨middle, reached, taken⟩ := followed
      rw [follow, Option.bind_eq_some_iff] at taken
      obtain ⟨next, taken, same⟩ := taken
      cases same
      exact preserved past middle action _ reached
        (inductionHypothesis reached) taken

section Gathered

variable {Item : Type} {contribution : State → Action → List Item}

/-- The actions after a schedule contribute after it. -/
theorem gathered_append_of_follow
    {middle : State}
    (followed : follow step initial schedule = some middle)
    (actions : List Action) :
    gathered step contribution initial (schedule ++ actions) =
      gathered step contribution initial schedule ++
        gathered step contribution middle actions := by
  induction schedule generalizing initial with
  | nil =>
      cases followed
      rfl
  | cons first rest inductionHypothesis =>
      rw [follow, Option.bind_eq_some_iff] at followed
      obtain ⟨next, taken, followed⟩ := followed
      simp only [List.cons_append, gathered, taken,
        inductionHypothesis followed, List.append_assoc]

/-- A further action contributes after those before it. -/
theorem gathered_concat
    {final : State}
    (followed : follow step initial schedule = some final)
    (action : Action) :
    gathered step contribution initial (schedule ++ [action]) =
      gathered step contribution initial schedule ++
        contribution final action := by
  rw [gathered_append_of_follow followed]
  congr 1
  simp only [gathered]
  split <;> exact List.append_nil _

/-- Actions that contribute nothing add nothing. -/
theorem gathered_append_of_nil
    {final : State}
    {actions : List Action}
    (followed : follow step initial schedule = some final)
    (nothing :
      ∀ action ∈ actions, ∀ state, contribution state action = []) :
    gathered step contribution initial (schedule ++ actions) =
      gathered step contribution initial schedule := by
  have noneGathered :
      ∀ state, gathered step contribution state actions = [] := by
    clear followed
    induction actions with
    | nil =>
        exact fun _ => rfl
    | cons action rest inductionHypothesis =>
        intro state
        rw [List.forall_mem_cons] at nothing
        rw [gathered, nothing.1, List.nil_append]
        split
        · exact inductionHypothesis nothing.2 _
        · rfl
  rw [gathered_append_of_follow followed, noneGathered, List.append_nil]

end Gathered

end ScheduledSteps
