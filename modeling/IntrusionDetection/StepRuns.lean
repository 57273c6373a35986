import Mathlib.Data.List.Basic

/-!
# Runs of a deterministic step function

A component that consumes actions one at a time is a function taking a state
and an action to the next state and one output.  This module runs such a
function over a finite action list and packages the three inductions the
verification of a component needs: an invariant of the state and of the
outputs so far, a simulation between two components fed the same actions, and
a simulation between a component and a second one fed only some of them.
-/

namespace StepRuns

/-- Feed a list of actions to a step function, collecting the outputs. -/
def run
    {State Action Output : Type}
    (step : State → Action → State × Output) :
    State → List Action → State × List Output
  | state, [] => (state, [])
  | state, action :: rest =>
      let next := step state action
      let later := run step next.1 rest
      (later.1, next.2 :: later.2)

variable {State Action Output : Type}
variable {step : State → Action → State × Output}

@[simp] theorem run_nil (state : State) :
    run step state [] = (state, []) :=
  rfl

theorem run_cons
    (state : State)
    (action : Action)
    (rest : List Action) :
    run step state (action :: rest) =
      ((run step (step state action).1 rest).1,
        (step state action).2 ::
          (run step (step state action).1 rest).2) :=
  rfl

/-- A run over a concatenation is the second run after the first one. -/
theorem run_append
    (state : State)
    (first second : List Action) :
    run step state (first ++ second) =
      ((run step (run step state first).1 second).1,
        (run step state first).2 ++
          (run step (run step state first).1 second).2) := by
  induction first generalizing state with
  | nil =>
      simp
  | cons action rest inductionHypothesis =>
      simp [run_cons, inductionHypothesis]

/-- A run followed by one more action is that run followed by one step. -/
theorem run_snoc
    (state : State)
    (actions : List Action)
    (action : Action) :
    run step state (actions ++ [action]) =
      ((step (run step state actions).1 action).1,
        (run step state actions).2 ++
          [(step (run step state actions).1 action).2]) := by
  simp [run_append, run_cons]

/-- What every step of a run preserves holds at its end. -/
theorem invariant_of_step
    {Invariant : State → Prop}
    {state : State}
    {actions : List Action}
    (initially : Invariant state)
    (preserved :
      ∀ state action,
        action ∈ actions →
        Invariant state →
        Invariant (step state action).1) :
    Invariant (run step state actions).1 := by
  induction actions generalizing state with
  | nil =>
      exact initially
  | cons action rest inductionHypothesis =>
      refine inductionHypothesis
        (preserved state action (by simp) initially) ?_
      intro later laterAction member
      exact preserved later laterAction
        (List.mem_cons_of_mem action member)

/--
An invariant relating the state to the actions consumed and the outputs
produced so far holds at the end of every run.
-/
theorem history_of_step
    {Invariant : State → List Action → List Output → Prop}
    {state : State}
    {consumed actions : List Action}
    {produced : List Output}
    (initially : Invariant state consumed produced)
    (preserved :
      ∀ state consumed produced action,
        Invariant state consumed produced →
        Invariant (step state action).1
          (consumed ++ [action])
          (produced ++ [(step state action).2])) :
    Invariant (run step state actions).1
      (consumed ++ actions)
      (produced ++ (run step state actions).2) := by
  induction actions generalizing state consumed produced with
  | nil =>
      simpa using initially
  | cons action rest inductionHypothesis =>
      have stepped := inductionHypothesis
        (preserved state consumed produced action initially)
      simpa [run_cons, List.append_assoc] using stepped

/-- The same, for a run that starts without a history. -/
theorem history_of_run
    {Invariant : State → List Action → List Output → Prop}
    {state : State}
    {actions : List Action}
    (initially : Invariant state [] [])
    (preserved :
      ∀ state consumed produced action,
        Invariant state consumed produced →
        Invariant (step state action).1
          (consumed ++ [action])
          (produced ++ [(step state action).2])) :
    Invariant (run step state actions).1
      actions
      (run step state actions).2 :=
  history_of_step initially preserved

/-! ### Conditions on every step -/

/-- Do all actions of a run meet a condition in the states they find? -/
def always
    {State Action Output : Type}
    (step : State → Action → State × Output)
    (condition : State → Action → Bool) :
    State → List Action → Bool
  | _, [] => true
  | state, action :: rest =>
      condition state action &&
        always step condition (step state action).1 rest

variable {condition : State → Action → Bool}

/-- One more action has to meet the condition in the state after the others. -/
theorem always_snoc
    (state : State)
    (actions : List Action)
    (action : Action) :
    always step condition state (actions ++ [action]) =
      (always step condition state actions &&
        condition (run step state actions).1 action) := by
  induction actions generalizing state with
  | nil =>
      simp [always]
  | cons head rest inductionHypothesis =>
      simp only [List.cons_append, always, inductionHypothesis, run_cons,
        Bool.and_assoc]

/-- What every step that meets the condition preserves holds at the end. -/
theorem invariant_of_always
    {Invariant : State → Prop}
    {state : State}
    {actions : List Action}
    (initially : Invariant state)
    (met : always step condition state actions = true)
    (preserved :
      ∀ state action,
        condition state action = true →
        Invariant state →
        Invariant (step state action).1) :
    Invariant (run step state actions).1 := by
  induction actions generalizing state with
  | nil =>
      exact initially
  | cons action rest inductionHypothesis =>
      obtain ⟨now, later⟩ := Bool.and_eq_true_iff.mp met
      exact inductionHypothesis
        (preserved state action now initially) later

section Simulation

variable {Other Answer : Type}
variable {other : Other → Action → Other × Answer}

/-- Two components fed the same actions stay related, output by output. -/
theorem simulation_of_step
    {Related : State → Other → Prop}
    {Agree : Output → Answer → Prop}
    {left : State}
    {right : Other}
    {actions : List Action}
    (initially : Related left right)
    (preserved :
      ∀ left right action,
        Related left right →
        Related (step left action).1 (other right action).1 ∧
          Agree (step left action).2 (other right action).2) :
    Related (run step left actions).1 (run other right actions).1 ∧
      List.Forall₂ Agree
        (run step left actions).2 (run other right actions).2 := by
  induction actions generalizing left right with
  | nil =>
      exact ⟨initially, .nil⟩
  | cons action rest inductionHypothesis =>
      have stepped := preserved left right action initially
      have later := inductionHypothesis stepped.1
      exact ⟨later.1, .cons stepped.2 later.2⟩

/-- The outputs produced at the selected actions of a list. -/
def selectedOutputs
    (selected : Action → Bool) :
    List Action → List Output → List Output
  | action :: actions, output :: outputs =>
      if selected action then
        output :: selectedOutputs selected actions outputs
      else
        selectedOutputs selected actions outputs
  | _, _ => []

/--
A component fed every action simulates a second one fed only the selected
actions.  The relation may mention the actions still to come, so that an
assumption on the whole action list can be used at every step.
-/
theorem projection_of_step
    {right : Other → Action → Other × Output}
    {Related : State → Other → List Action → Prop}
    {selected : Action → Bool}
    {full : State}
    {alone : Other}
    {actions : List Action}
    (initially : Related full alone actions)
    (own :
      ∀ full alone action rest,
        selected action →
        Related full alone (action :: rest) →
        Related (step full action).1 (right alone action).1 rest ∧
          (step full action).2 = (right alone action).2)
    (foreign :
      ∀ full alone action rest,
        selected action = false →
        Related full alone (action :: rest) →
        Related (step full action).1 alone rest) :
    Related (run step full actions).1
        (run right alone (actions.filter selected)).1 [] ∧
      selectedOutputs selected actions (run step full actions).2 =
        (run right alone (actions.filter selected)).2 := by
  induction actions generalizing full alone with
  | nil =>
      exact ⟨initially, rfl⟩
  | cons action rest inductionHypothesis =>
      cases isSelected : selected action with
      | true =>
          have stepped := own full alone action rest isSelected initially
          have later := inductionHypothesis stepped.1
          simp only [run_cons, List.filter_cons, isSelected,
            selectedOutputs, if_true]
          exact ⟨later.1, by rw [later.2, stepped.2]⟩
      | false =>
          have stepped :=
            foreign full alone action rest isSelected initially
          have later := inductionHypothesis stepped
          simpa only [run_cons, List.filter_cons, isSelected,
            selectedOutputs, Bool.false_eq_true, if_false] using later

end Simulation

end StepRuns
