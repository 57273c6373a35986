import Mathlib.Logic.Basic

/-!
# Computations that write a state and may raise

A computation in `EStateM` keeps what it wrote when it raises, so that the
handler of an enclosing `tryCatch` finds the state half written.  This module
has the rules for such computations.  `Ends` tells how one computation ends
from a given state, `Preserves` which invariant it keeps however it ends, and
`Alike` compares two computations on two states.
-/

namespace GuardedSteps

variable {Exception State Part Value Result : Type}

/-- Run a computation on a part of the state. -/
def zoom
    (part : State → Part)
    (replace : State → Part → State)
    (computation : EStateM Exception Part Value) :
    EStateM Exception State Value :=
  fun state =>
    match computation (part state) with
    | .ok value after => .ok value (replace state after)
    | .error exception after => .error exception (replace state after)

/--
From `state` the computation ends in a value and a state related by `returns`,
or in an exception and a state related by `raises`.
-/
def Ends
    (computation : EStateM Exception State Value)
    (state : State)
    (returns : Value → State → Prop)
    (raises : Exception → State → Prop) :
    Prop :=
  match computation state with
  | .ok value after => returns value after
  | .error exception after => raises exception after

namespace Ends

variable {returns later : Value → State → Prop}
variable {raises : Exception → State → Prop}
variable {computation : EStateM Exception State Value}
variable {state : State}

theorem mono
    {fails : Exception → State → Prop}
    (ends : Ends computation state returns raises)
    (onReturn : ∀ value after, returns value after → later value after)
    (onRaise :
      ∀ exception after, raises exception after → fails exception after) :
    Ends computation state later fails := by
  unfold Ends at ends ⊢
  cases ran : computation state with
  | ok value after =>
      exact onReturn value after (by simpa only [ran] using ends)
  | error exception after =>
      exact onRaise exception after (by simpa only [ran] using ends)

theorem pure
    {value : Value}
    (holds : returns value state) :
    Ends (Pure.pure value) state returns raises :=
  holds

theorem get
    {returns : State → State → Prop}
    (holds : returns state state) :
    Ends (MonadState.get : EStateM Exception State State) state
      returns raises :=
  holds

theorem modify
    {returns : Unit → State → Prop}
    {write : State → State}
    (holds : returns () (write state)) :
    Ends (modify write) state returns raises :=
  holds

theorem ofExcept
    {outcome : Except Exception Value}
    (onOk : ∀ value, outcome = .ok value → returns value state)
    (onError :
      ∀ exception, outcome = .error exception → raises exception state) :
    Ends (MonadExcept.ofExcept outcome) state returns raises := by
  cases outcome with
  | ok value =>
      exact onOk value rfl
  | error exception =>
      exact onError exception rfl

/-- A sequence stops where its first part raises. -/
theorem bind
    {next : Value → EStateM Exception State Result}
    {returns : Result → State → Prop}
    (ends :
      Ends computation state
        (fun value after => Ends (next value) after returns raises)
        raises) :
    Ends (computation >>= next) state returns raises := by
  unfold Ends at ends
  change
    match EStateM.bind computation next state with
    | .ok value after => returns value after
    | .error exception after => raises exception after
  unfold EStateM.bind
  cases ran : computation state with
  | ok value after =>
      simp only [ran] at ends
      exact ends
  | error exception after =>
      simp only [ran] at ends
      exact ends

/-- The handler starts from the state the body left behind. -/
theorem tryCatch
    {handler : Exception → EStateM Exception State Value}
    (ends :
      Ends computation state returns
        (fun exception after =>
          Ends (handler exception) after returns raises)) :
    Ends (MonadExcept.tryCatch computation handler) state
      returns raises := by
  unfold Ends at ends
  change
    match EStateM.tryCatch computation handler state with
    | .ok value after => returns value after
    | .error exception after => raises exception after
  unfold EStateM.tryCatch
  cases ran : computation state with
  | ok value after =>
      simp only [ran] at ends
      exact ends
  | error exception after =>
      simp only [ran] at ends
      exact ends

/-- On a part of the state, the rest of it stays as it was. -/
theorem zoom
    {part : State → Part}
    {replace : State → Part → State}
    {computation : EStateM Exception Part Value}
    (ends :
      Ends computation (part state)
        (fun value after => returns value (replace state after))
        (fun exception after => raises exception (replace state after))) :
    Ends (zoom part replace computation) state returns raises := by
  unfold Ends at ends ⊢
  unfold GuardedSteps.zoom
  cases ran : computation (part state) with
  | ok value after =>
      simpa only [ran] using ends
  | error exception after =>
      simpa only [ran] using ends

end Ends

/-- From `state` the computation returns, and does not raise. -/
abbrev Returns
    (computation : EStateM Exception State Value)
    (state : State)
    (returns : Value → State → Prop) :
    Prop :=
  Ends computation state returns fun _ _ => False

/-- What is returned may be weakened. -/
theorem Returns.mono
    {computation : EStateM Exception State Value}
    {state : State}
    {returns later : Value → State → Prop}
    {raises : Exception → State → Prop}
    (ends : Returns computation state returns)
    (weaker : ∀ value after, returns value after → later value after) :
    Ends computation state later raises :=
  Ends.mono ends weaker fun _ _ impossible => impossible.elim

/-- A computation that returns has a value and a state to return. -/
theorem Returns.exists_eq
    {computation : EStateM Exception State Value}
    {state : State}
    {returns : Value → State → Prop}
    (ends : Returns computation state returns) :
    ∃ value after,
      computation state = .ok value after ∧ returns value after := by
  unfold Returns Ends at ends
  cases ran : computation state with
  | ok value after =>
      exact ⟨value, after, rfl, by simpa only [ran] using ends⟩
  | error exception after =>
      simp only [ran] at ends

/-- Whether it returns or raises, the computation leaves such a state. -/
abbrev Leaves
    (computation : EStateM Exception State Value)
    (state : State)
    (left : State → Prop) :
    Prop :=
  Ends computation state (fun _ after => left after)
    (fun _ after => left after)

/-- A handler that writes the state makes the computation return. -/
theorem Leaves.returns_of_handled
    {computation : EStateM Exception State Unit}
    {state : State}
    {after : State → Prop}
    {write : Exception → State → State}
    (left : State → Prop)
    (leaves : Leaves computation state left)
    (onReturn : ∀ state, left state → after state)
    (onRaise :
      ∀ exception state, left state → after (write exception state)) :
    Returns
      (MonadExcept.tryCatch computation
        fun exception => modify (write exception))
      state (fun _ => after) :=
  .tryCatch (leaves.mono
    (fun _ => onReturn)
    (fun exception state holds =>
      .modify (onRaise exception state holds)))

/-! ### Invariants -/

/-- The computation keeps an invariant, whether it returns or raises. -/
def Preserves
    (Invariant : State → Prop)
    (computation : EStateM Exception State Value) :
    Prop :=
  ∀ state, Invariant state → Leaves computation state Invariant

namespace Preserves

variable {Invariant : State → Prop}
variable {computation : EStateM Exception State Value}

theorem pure (value : Value) :
    Preserves Invariant
      (Pure.pure value : EStateM Exception State Value) :=
  fun _ holds => holds

theorem throw (exception : Exception) :
    Preserves Invariant
      (MonadExcept.throw exception : EStateM Exception State Value) :=
  fun _ holds => holds

theorem get :
    Preserves Invariant
      (MonadState.get : EStateM Exception State State) :=
  fun _ holds => holds

theorem modify
    {write : State → State}
    (keeps : ∀ state, Invariant state → Invariant (write state)) :
    Preserves Invariant
      (modify write : EStateM Exception State Unit) :=
  keeps

theorem ofExcept (outcome : Except Exception Value) :
    Preserves Invariant
      (MonadExcept.ofExcept outcome : EStateM Exception State Value) :=
  fun _ holds => .ofExcept (fun _ _ => holds) (fun _ _ => holds)

theorem bind
    {next : Value → EStateM Exception State Result}
    (first : Preserves Invariant computation)
    (second : ∀ value, Preserves Invariant (next value)) :
    Preserves Invariant (computation >>= next) :=
  fun state holds =>
    .bind ((first state holds).mono
      (fun value after => second value after)
      (fun _ _ kept => kept))

end Preserves

/-! ### Two computations side by side -/

section Alike

variable {Other : Type}

/-- The same value or the same exception, in related states. -/
inductive SameEnd (Related : State → Other → Prop) :
    EStateM.Result Exception State Value →
      EStateM.Result Exception Other Value → Prop where
  | ok
      {value : Value}
      {first : State}
      {second : Other}
      (related : Related first second) :
      SameEnd Related (.ok value first) (.ok value second)
  | error
      {exception : Exception}
      {first : State}
      {second : Other}
      (related : Related first second) :
      SameEnd Related (.error exception first) (.error exception second)

/-- Started in related states, the two computations end the same way. -/
def Alike
    (Related : State → Other → Prop)
    (left : EStateM Exception State Value)
    (right : EStateM Exception Other Value) :
    Prop :=
  ∀ first second,
    Related first second →
    SameEnd Related (left first) (right second)

namespace Alike

variable {Related : State → Other → Prop}
variable {left : EStateM Exception State Value}
variable {right : EStateM Exception Other Value}

theorem pure (value : Value) :
    Alike Related
      (Pure.pure value : EStateM Exception State Value)
      (Pure.pure value : EStateM Exception Other Value) :=
  fun _ _ related => .ok related

theorem throw (exception : Exception) :
    Alike Related
      (MonadExcept.throw exception : EStateM Exception State Value)
      (MonadExcept.throw exception : EStateM Exception Other Value) :=
  fun _ _ related => .error related

theorem bind
    {next : Value → EStateM Exception State Result}
    {later : Value → EStateM Exception Other Result}
    (former : Alike Related left right)
    (latter : ∀ value, Alike Related (next value) (later value)) :
    Alike Related (left >>= next) (right >>= later) := by
  intro first second related
  have ended := former first second related
  change SameEnd Related (EStateM.bind left next first)
    (EStateM.bind right later second)
  unfold EStateM.bind
  generalize left first = leftEnd at ended ⊢
  generalize right second = rightEnd at ended ⊢
  cases ended with
  | ok stillRelated => exact latter _ _ _ stillRelated
  | error stillRelated => exact .error stillRelated

theorem tryCatch
    {handler : Exception → EStateM Exception State Value}
    {otherHandler : Exception → EStateM Exception Other Value}
    (body : Alike Related left right)
    (handles :
      ∀ exception,
        Alike Related (handler exception) (otherHandler exception)) :
    Alike Related (MonadExcept.tryCatch left handler)
      (MonadExcept.tryCatch right otherHandler) := by
  intro first second related
  have ended := body first second related
  change SameEnd Related (EStateM.tryCatch left handler first)
    (EStateM.tryCatch right otherHandler second)
  unfold EStateM.tryCatch
  generalize left first = leftEnd at ended ⊢
  generalize right second = rightEnd at ended ⊢
  cases ended with
  | ok stillRelated => exact .ok stillRelated
  | error stillRelated => exact handles _ _ _ stillRelated

theorem ite
    {condition : Prop}
    [Decidable condition]
    {otherLeft : EStateM Exception State Value}
    {otherRight : EStateM Exception Other Value}
    (holds : condition → Alike Related left right)
    (fails : ¬ condition → Alike Related otherLeft otherRight) :
    Alike Related
      (if condition then left else otherLeft)
      (if condition then right else otherRight) := by
  by_cases test : condition
  · simpa only [if_pos test] using holds test
  · simpa only [if_neg test] using fails test

/-- The same computation on a part of the state that is equal on both sides. -/
theorem zoom
    {part : State → Part}
    {replace : State → Part → State}
    {otherPart : Other → Part}
    {otherReplace : Other → Part → Other}
    (computation : EStateM Exception Part Value)
    (same :
      ∀ first second,
        Related first second →
        part first = otherPart second ∧
          ∀ value,
            Related (replace first value) (otherReplace second value)) :
    Alike Related
      (zoom part replace computation)
      (GuardedSteps.zoom otherPart otherReplace computation) := by
  intro first second related
  obtain ⟨sameParts, stillRelated⟩ := same first second related
  unfold GuardedSteps.zoom
  rw [sameParts]
  cases computation (otherPart second) with
  | ok value after => exact .ok (stillRelated after)
  | error exception after => exact .error (stillRelated after)

/-- Two computations that return nothing but a change of the state. -/
theorem of_returns
    {left : EStateM Exception State Unit}
    {right : EStateM Exception Other Unit}
    (returns :
      ∀ first second,
        Related first second →
        ∃ leaves : State → Prop,
          Returns left first (fun _ => leaves) ∧
            ∃ otherLeaves : Other → Prop,
              Returns right second (fun _ => otherLeaves) ∧
                ∀ after other,
                  leaves after → otherLeaves other →
                  Related after other) :
    Alike Related left right := by
  intro first second related
  obtain ⟨leaves, leftReturns, otherLeaves, rightReturns, meet⟩ :=
    returns first second related
  obtain ⟨_, after, leftRan, left⟩ := leftReturns.exists_eq
  obtain ⟨_, other, rightRan, right⟩ := rightReturns.exists_eq
  rw [leftRan, rightRan]
  exact .ok (meet after other left right)

end Alike

end Alike

end GuardedSteps
