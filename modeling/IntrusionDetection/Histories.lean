import Mathlib.Data.List.TakeWhile

/-!
# Properties of finite histories

A history is the list of what happened, oldest first.  `Sometime` says that
some element of a history stands in a relation to the elements before it, and
it unfolds along the end of the history, where a run extends it.
-/

namespace Histories

variable {Element : Type}

/-- Some element is in the relation to the history before it. -/
def Sometime
    (Relation : List Element → Element → Prop)
    (history : List Element) :
    Prop :=
  ∃ before element later,
    history = before ++ element :: later ∧ Relation before element

variable {Relation : List Element → Element → Prop}

/-- Nothing ever happened in the empty history. -/
@[simp] theorem not_sometime_nil : ¬ Sometime Relation [] := by
  rintro ⟨before, element, later, split, _⟩
  simp at split

/-- One more element either is the one, or leaves the question as it was. -/
theorem sometime_concat
    {history : List Element}
    {element : Element} :
    Sometime Relation (history ++ [element]) ↔
      Sometime Relation history ∨ Relation history element := by
  constructor
  · rintro ⟨before, found, later, split, related⟩
    rcases List.eq_nil_or_concat later with isLast | ⟨rest, last, isLater⟩
    · rw [isLast] at split
      obtain ⟨sameBefore, sameElement⟩ := List.append_inj' split rfl
      rw [sameBefore, (List.cons.inj sameElement).1]
      exact Or.inr related
    · rw [isLater, List.concat_eq_append, ← List.cons_append,
        ← List.append_assoc] at split
      obtain ⟨sameHistory, _⟩ := List.append_inj' split rfl
      exact Or.inl ⟨before, found, rest, sameHistory, related⟩
  · rintro (⟨before, found, later, split, related⟩ | related)
    · refine ⟨before, found, later ++ [element], ?_, related⟩
      rw [split]
      simp
    · exact ⟨history, element, [], rfl, related⟩

/-- What happened once stays in every longer history. -/
theorem Sometime.append
    {history : List Element}
    (happened : Sometime Relation history)
    (more : List Element) :
    Sometime Relation (history ++ more) := by
  obtain ⟨before, element, later, split, related⟩ := happened
  refine ⟨before, element, later ++ more, ?_, related⟩
  rw [split]
  simp

/-- What never related to a whole history before it did not happen. -/
theorem not_sometime
    {history : List Element}
    (never : ∀ before, ∀ element ∈ history, ¬ Relation before element) :
    ¬ Sometime Relation history := by
  rintro ⟨before, element, later, split, related⟩
  refine never before element ?_ related
  rw [split]
  simp

/-! ### The part before the first element of a kind -/

variable {isKind : Element → Bool}

/-- An element that is not of the kind extends the part before it. -/
theorem takeWhile_concat
    {history : List Element}
    (all : ∀ element ∈ history, isKind element = true)
    (element : Element) :
    (history ++ [element]).takeWhile isKind =
      if isKind element then history ++ [element] else history := by
  rw [List.takeWhile_append_of_pos all]
  cases kind : isKind element <;> simp [kind]

/-- Once the part has ended, nothing extends it. -/
theorem takeWhile_append_of_ended
    {history : List Element}
    (ended : ∃ element ∈ history, isKind element = false)
    (more : List Element) :
    (history ++ more).takeWhile isKind = history.takeWhile isKind := by
  obtain ⟨element, member, ends⟩ := ended
  rw [List.takeWhile_append, if_neg]
  intro sameLength
  have whole : history.takeWhile isKind = history :=
    (List.takeWhile_prefix isKind).eq_of_length sameLength
  have kind := List.takeWhile_eq_self_iff.mp whole element member
  rw [ends] at kind
  cases kind

end Histories
