import IntrusionDetection.GuardedSteps
import Mathlib.Data.List.Forall2

/-!
# Computations that make checked objects

A constructor that checks its arguments refuses some of them with an exception.
A computation here keeps every object it makes, the refused ones included, so
that it can be said of a whole run that no constructor refused its arguments.
`Matches` compares such a computation with a plain one whose values carry those
checks in their types.
-/

namespace CheckedSteps

open GuardedSteps

variable {Exception Object Fault : Type}
variable {Value Result Made Next : Type}

/-- A computation that makes objects and may raise. -/
abbrev Making (Exception Object : Type) :=
  EStateM Exception (List Object)

/-- Make an object; the check of its constructor may refuse it. -/
def construct
    (accepts : Object → Bool)
    (refusal : Exception)
    (object : Object) :
    Making Exception Object Unit := do
  modify (· ++ [object])
  if accepts object then
    pure ()
  else
    throw refusal

/-- No object was refused. -/
def AllAccepted (accepts : Object → Bool) (made : List Object) : Prop :=
  ∀ object ∈ made, accepts object = true

/--
A computation ends as a plain one does: with an object that stands for its
value, or by raising what its fault stands for; and no object it makes is
refused.
-/
structure Matches
    (accepts : Object → Bool)
    (raised : Fault → Exception)
    (Stands : Value → Made → Prop)
    (computation : Making Exception Object Made)
    (outcome : Except Fault Value) : Prop where
  ends :
    ∀ made,
      AllAccepted accepts made →
      Ends computation made
        (fun result after =>
          AllAccepted accepts after ∧
            ∃ value, outcome = .ok value ∧ Stands value result)
        (fun exception after =>
          AllAccepted accepts after ∧
            ∃ fault, outcome = .error fault ∧ exception = raised fault)

variable {accepts : Object → Bool} {raised : Fault → Exception}
variable {Stands : Value → Made → Prop} {StandsNext : Next → Result → Prop}
variable {computation : Making Exception Object Made}
variable {outcome : Except Fault Value}

/-- One more accepted object. -/
theorem AllAccepted.snoc
    {made : List Object}
    {object : Object}
    (all : AllAccepted accepts made)
    (accepted : accepts object = true) :
    AllAccepted accepts (made ++ [object]) := by
  intro other member
  rcases List.mem_append.mp member with before | last
  · exact all other before
  · rw [List.mem_singleton.mp last]
    exact accepted

/-- An accepted object is made without an exception. -/
theorem returns_construct
    {refusal : Exception}
    {object : Object}
    {made : List Object}
    (all : AllAccepted accepts made)
    (accepted : accepts object = true) :
    Returns (construct accepts refusal object) made
      fun _ after => AllAccepted accepts after := by
  unfold construct
  refine .bind (.modify ?_)
  rw [accepted]
  exact all.snoc accepted

namespace Matches

theorem pure
    {value : Value}
    {made : Made}
    (stands : Stands value made) :
    Matches accepts raised Stands
      (Pure.pure made : Making Exception Object Made)
      (.ok value) where
  ends _ all := Ends.pure ⟨all, value, rfl, stands⟩

theorem throw
    (fault : Fault) :
    Matches accepts raised Stands
      (MonadExcept.throw (raised fault) : Making Exception Object Made)
      (.error fault) where
  ends _ all := ⟨all, fault, rfl, rfl⟩

/-- After a value the computation goes on with an object for it. -/
theorem bind_ok
    {value : Value}
    {next : Made → Making Exception Object Result}
    {later : Except Fault Next}
    (first : Matches accepts raised Stands computation (.ok value))
    (second :
      ∀ made,
        Stands value made →
        Matches accepts raised StandsNext (next made) later) :
    Matches accepts raised StandsNext (computation >>= next) later := by
  refine ⟨fun made all => .bind ((first.ends made all).mono ?_ ?_)⟩
  · rintro result after ⟨stillAll, _, ⟨⟩, stands⟩
    exact (second result stands).ends after stillAll
  · rintro _ _ ⟨_, _, ⟨⟩, _⟩

/-- After a fault nothing is done. -/
theorem bind_error
    {fault : Fault}
    (first : Matches accepts raised Stands computation (.error fault))
    (next : Made → Making Exception Object Result) :
    Matches accepts raised StandsNext (computation >>= next)
      (.error fault : Except Fault Next) := by
  refine ⟨fun made all => .bind ((first.ends made all).mono ?_ ?_)⟩
  · rintro _ _ ⟨_, _, ⟨⟩, _⟩
  · rintro _ after ⟨stillAll, _, ⟨⟩, rfl⟩
    exact ⟨stillAll, fault, rfl, rfl⟩

theorem bind
    {next : Made → Making Exception Object Result}
    {later : Value → Except Fault Next}
    (first : Matches accepts raised Stands computation outcome)
    (second :
      ∀ value made,
        outcome = .ok value →
        Stands value made →
        Matches accepts raised StandsNext (next made) (later value)) :
    Matches accepts raised StandsNext (computation >>= next)
      (outcome >>= later) := by
  cases outcome with
  | ok value =>
      exact first.bind_ok fun made stands => second value made rfl stands
  | error fault => exact first.bind_error next

/-- An object that stands for a value may stand for a computed one. -/
theorem map
    {change : Made → Result}
    {plain : Value → Next}
    (first : Matches accepts raised Stands computation outcome)
    (stands :
      ∀ value made,
        outcome = .ok value →
        Stands value made →
        StandsNext (plain value) (change made)) :
    Matches accepts raised StandsNext
      (computation >>= fun made => Pure.pure (change made))
      (outcome.map plain) := by
  have both :
      Matches accepts raised StandsNext
        (computation >>= fun made => Pure.pure (change made))
        (outcome >>= fun value => .ok (plain value)) :=
    first.bind fun value made isValue isStanding =>
      .pure (stands value made isValue isStanding)
  cases outcome <;> exact both

/-- An object that its constructor accepts is made. -/
theorem construct_bind
    {refusal : Exception}
    {object : Object}
    (accepted : accepts object = true)
    (rest : Matches accepts raised Stands computation outcome) :
    Matches accepts raised Stands
      (construct accepts refusal object >>= fun _ => computation)
      outcome where
  ends _ all :=
    .bind ((returns_construct all accepted).mono
      fun _ after stillAll => rest.ends after stillAll)

/-- What a handler returns stands for what the plain fault leads to. -/
theorem tryCatch
    {handler : Exception → Making Exception Object Made}
    {handled : Except Fault Value}
    (body : Matches accepts raised Stands computation outcome)
    (keeps : ∀ value, outcome = .ok value → handled = .ok value)
    (handles :
      ∀ fault,
        outcome = .error fault →
        Matches accepts raised Stands (handler (raised fault)) handled) :
    Matches accepts raised Stands
      (MonadExcept.tryCatch computation handler) handled := by
  refine ⟨fun made all => .tryCatch ((body.ends made all).mono ?_ ?_)⟩
  · rintro result after ⟨stillAll, value, isValue, stands⟩
    exact ⟨stillAll, value, keeps value isValue, stands⟩
  · rintro _ after ⟨stillAll, fault, isFault, rfl⟩
    exact (handles fault isFault).ends after stillAll

/-- A loop over items that are read from plain ones. -/
theorem foldlM
    {Item Read : Type}
    {read : Item → Read}
    {step : Made → Read → Making Exception Object Made}
    {plain : Value → Item → Except Fault Value}
    (items : List Item)
    (each :
      ∀ value made,
        ∀ item ∈ items,
          Stands value made →
          Matches accepts raised Stands (step made (read item))
            (plain value item))
    {value : Value}
    {made : Made}
    (stands : Stands value made) :
    Matches accepts raised Stands ((items.map read).foldlM step made)
      (items.foldlM plain value) := by
  induction items generalizing value made with
  | nil =>
      exact .pure stands
  | cons item rest inductionHypothesis =>
      rw [List.map_cons, List.foldlM_cons, List.foldlM_cons]
      refine (each value made item (List.mem_cons_self ..) stands).bind ?_
      intro value made _ stands
      refine inductionHypothesis ?_ stands
      intro value made item member
      exact each value made item (List.mem_cons_of_mem _ member)

/-- Items treated one by one, each on its own. -/
theorem mapM
    {Item : Type}
    {treat : Item → Making Exception Object Made}
    {plain : Item → Except Fault Value}
    (each :
      ∀ item, Matches accepts raised Stands (treat item) (plain item))
    (items : List Item) :
    Matches accepts raised (List.Forall₂ Stands) (items.mapM treat)
      (items.mapM plain) := by
  induction items with
  | nil =>
      exact .pure .nil
  | cons item rest inductionHypothesis =>
      rw [List.mapM_cons, List.mapM_cons]
      refine (each item).bind ?_
      intro value made _ stands
      refine inductionHypothesis.bind ?_
      intro values all _ stand
      exact .pure (.cons stands stand)

end Matches

end CheckedSteps
