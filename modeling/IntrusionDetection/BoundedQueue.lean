import Mathlib.Data.List.Basic

/-!
# Bounded first-in first-out queues

A queue that never holds more than `capacity` items: the bound is a field of
the structure.  Putting an item into a full queue is refused and taking one
from an empty queue is not possible, so both operations are partial.
-/

/-- A queue of at most `capacity` items; the head of `items` leaves first. -/
structure BoundedQueue (Item : Type) (capacity : Nat) where
  items : List Item
  bounded : items.length ≤ capacity

namespace BoundedQueue

variable {Item : Type} {capacity : Nat}

/-- Two queues with the same items in the same order are equal. -/
@[ext] theorem ext_items
    {first second : BoundedQueue Item capacity}
    (sameItems : first.items = second.items) :
    first = second := by
  cases first
  cases second
  cases sameItems
  rfl

/-- The queue without any item. -/
def empty (Item : Type) (capacity : Nat) :
    BoundedQueue Item capacity where
  items := []
  bounded := Nat.zero_le capacity

theorem length_snoc_le
    {items : List Item}
    (room : items.length < capacity)
    (item : Item) :
    (items ++ [item]).length ≤ capacity := by
  rw [List.length_append]
  exact room

/-- Put an item at the back; `none` if the queue is full. -/
def putNowait
    (queue : BoundedQueue Item capacity)
    (item : Item) :
    Option (BoundedQueue Item capacity) :=
  if room : queue.items.length < capacity then
    some ⟨queue.items ++ [item], length_snoc_le room item⟩
  else
    none

/-- Take the item at the front; `none` if there is none to take. -/
def get? :
    BoundedQueue Item capacity →
      Option (Item × BoundedQueue Item capacity)
  | ⟨[], _⟩ => none
  | ⟨item :: rest, bounded⟩ =>
      some (item, ⟨rest, Nat.le_of_succ_le bounded⟩)

/-- An item is accepted exactly while there is room, and then comes last. -/
theorem putNowait_eq_some_iff
    {queue next : BoundedQueue Item capacity}
    {item : Item} :
    queue.putNowait item = some next ↔
      queue.items.length < capacity ∧
        next.items = queue.items ++ [item] := by
  simp only [putNowait]
  split <;> rename_i room
  · simp only [Option.some.injEq, room, true_and]
    constructor
    · intro same
      rw [← same]
    · intro same
      exact ext_items same.symm
  · simp [room]

/-- An item is refused exactly by a full queue. -/
theorem putNowait_eq_none_iff
    {queue : BoundedQueue Item capacity}
    {item : Item} :
    queue.putNowait item = none ↔ queue.items.length = capacity := by
  have bounded := queue.bounded
  simp only [putNowait]
  split <;> rename_i room
  · simp only [reduceCtorEq, false_iff]
    omega
  · simp only [true_iff]
    omega

/-- What is taken is the front, and the others keep their order. -/
theorem get?_eq_some_iff
    {queue rest : BoundedQueue Item capacity}
    {item : Item} :
    queue.get? = some (item, rest) ↔
      queue.items = item :: rest.items := by
  obtain ⟨items, bounded⟩ := queue
  obtain ⟨restItems, restBounded⟩ := rest
  cases items with
  | nil =>
      simp [get?]
  | cons front later =>
      simp [get?]

/-- Nothing can be taken exactly from the empty queue. -/
theorem get?_eq_none_iff {queue : BoundedQueue Item capacity} :
    queue.get? = none ↔ queue.items = [] := by
  obtain ⟨items, bounded⟩ := queue
  cases items <;> simp [get?]

end BoundedQueue
