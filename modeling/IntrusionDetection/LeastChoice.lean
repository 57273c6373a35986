import Mathlib.Data.List.Lex

/-!
# Least choices

A chain of stages is run by choosing a position for each of them.  Which
positions fit a stage depends on where the stage before it ended.  A search
that tries the positions of every stage from the left finds the choice that is
lexicographically least; the lemmas below are the steps of such a search.
-/

namespace LeastChoice

variable {Stage : Type}

/-- The first of two choices is not lexicographically greater. -/
def NotAfter (positions others : List Nat) : Prop :=
  positions = others ∨ List.Lex (· < ·) positions others

section Definitions

variable (Fits : Stage → Nat → Nat → Prop) (reach : Stage → Nat → Nat)

/-- One fitting position for each stage, from where the one before ended. -/
inductive Choice : List Stage → Nat → List Nat → Prop where
  | nil (start : Nat) :
      Choice [] start []
  | cons
      {stage : Stage}
      {rest : List Stage}
      {start position : Nat}
      {positions : List Nat}
      (fits : Fits stage start position)
      (later : Choice rest (reach stage position) positions) :
      Choice (stage :: rest) start (position :: positions)

/-- The least choice, or none because there is no choice at all. -/
def IsLeast
    (stages : List Stage)
    (start : Nat) :
    Option (List Nat) → Prop
  | none => ∀ positions, ¬ Choice Fits reach stages start positions
  | some positions =>
      Choice Fits reach stages start positions ∧
        ∀ others,
          Choice Fits reach stages start others →
          NotAfter positions others

/-- The same among the choices with a first position from a bound on. -/
def IsLeastFrom
    (stage : Stage)
    (rest : List Stage)
    (start bound : Nat) :
    Option (List Nat) → Prop
  | none =>
      ∀ position positions,
        bound ≤ position →
        ¬ Choice Fits reach (stage :: rest) start (position :: positions)
  | some positions =>
      Choice Fits reach (stage :: rest) start positions ∧
        ∀ position others,
          bound ≤ position →
          Choice Fits reach (stage :: rest) start (position :: others) →
          NotAfter positions (position :: others)

end Definitions

variable {Fits : Stage → Nat → Nat → Prop} {reach : Stage → Nat → Nat}
variable {stage : Stage} {rest : List Stage}
variable {start bound position : Nat} {result : Option (List Nat)}

/-- A choice that starts earlier comes first. -/
theorem NotAfter.of_lt
    {position other : Nat}
    (before : position < other)
    (positions others : List Nat) :
    NotAfter (position :: positions) (other :: others) :=
  Or.inr (.rel before)

/-- Choices that start alike compare as what follows. -/
theorem NotAfter.cons
    {positions others : List Nat}
    (notAfter : NotAfter positions others)
    (position : Nat) :
    NotAfter (position :: positions) (position :: others) := by
  rcases notAfter with same | before
  · exact Or.inl (congrArg (position :: ·) same)
  · exact Or.inr (.cons before)

/-- No stages are left: nothing is to be chosen. -/
theorem isLeast_nil (start : Nat) :
    IsLeast Fits reach [] start (some []) := by
  refine ⟨.nil start, ?_⟩
  rintro _ (_ | _)
  exact Or.inl rfl

/-- The choices from zero on are all choices. -/
theorem IsLeastFrom.isLeast
    (least : IsLeastFrom Fits reach stage rest start bound result)
    (all : ∀ position, Fits stage start position → bound ≤ position) :
    IsLeast Fits reach (stage :: rest) start result := by
  cases result with
  | none =>
      rintro _ (_ | ⟨fits, later⟩)
      exact least _ _ (all _ fits) (.cons fits later)
  | some positions =>
      refine ⟨least.1, ?_⟩
      rintro _ (_ | ⟨fits, later⟩)
      exact least.2 _ _ (all _ fits) (.cons fits later)

/-- No position from the bound on fits. -/
theorem isLeastFrom_none
    (nowhere :
      ∀ position, bound ≤ position → ¬ Fits stage start position) :
    IsLeastFrom Fits reach stage rest start bound none := by
  rintro position positions inBound (_ | ⟨fits, _⟩)
  exact nowhere position inBound fits

/-- The first position that fits leads to a least choice of the rest. -/
theorem isLeastFrom_first
    {positions : List Nat}
    (fits : Fits stage start position)
    (isFirst :
      ∀ earlier, bound ≤ earlier → earlier < position →
        ¬ Fits stage start earlier)
    (later : IsLeast Fits reach rest (reach stage position)
      (some positions)) :
    IsLeastFrom Fits reach stage rest start bound
      (some (position :: positions)) := by
  refine ⟨.cons fits later.1, ?_⟩
  rintro other others otherInBound (_ | ⟨otherFits, otherLater⟩)
  rcases Nat.lt_trichotomy position other with before | same | after
  · exact NotAfter.of_lt before positions others
  · subst same
    exact (later.2 others otherLater).cons position
  · exact (isFirst other otherInBound after otherFits).elim

/-- The first position that fits leads nowhere: the choice starts later. -/
theorem isLeastFrom_next
    (isFirst :
      ∀ earlier, bound ≤ earlier → earlier < position →
        ¬ Fits stage start earlier)
    (nowhere : IsLeast Fits reach rest (reach stage position) none)
    (later :
      IsLeastFrom Fits reach stage rest start (position + 1) result) :
    IsLeastFrom Fits reach stage rest start bound result := by
  have beyond :
      ∀ other others,
        bound ≤ other →
        Choice Fits reach (stage :: rest) start (other :: others) →
        position + 1 ≤ other := by
    rintro other others inBound (_ | ⟨fits, chosen⟩)
    rcases Nat.lt_trichotomy position other with before | same | after
    · exact before
    · subst same
      exact (nowhere others chosen).elim
    · exact (isFirst other inBound after fits).elim
  cases result with
  | none =>
      intro other others inBound choice
      exact later other others (beyond other others inBound choice) choice
  | some positions =>
      refine ⟨later.1, fun other others inBound choice => ?_⟩
      exact later.2 other others (beyond other others inBound choice)
        choice

end LeastChoice
