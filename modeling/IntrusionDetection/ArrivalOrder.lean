import Mathlib.Data.List.Basic
import Mathlib.Data.List.Pairwise

/-!
# Orders of arrival

A component that serves one arrival after the other hands each of them to one
owner, or to none.  The last arrival of an owner is its position in that
history, counted from one; comparing last arrivals is comparing how recently
the owners were served.
-/

namespace ArrivalOrder

variable {Owner : Type} [DecidableEq Owner]

/-- Position of the owner's last arrival, or zero if it had none. -/
def lastArrival (arrivals : List (Option Owner)) (owner : Owner) : Nat :=
  arrivals.length - arrivals.reverse.idxOf (some owner)

@[simp] theorem lastArrival_nil (owner : Owner) :
    lastArrival [] owner = 0 :=
  rfl

/-- A further arrival is the last one of its owner and of no other. -/
theorem lastArrival_concat
    (arrivals : List (Option Owner))
    (arrival : Option Owner)
    (owner : Owner) :
    lastArrival (arrivals ++ [arrival]) owner =
      if arrival = some owner then
        arrivals.length + 1
      else
        lastArrival arrivals owner := by
  simp only [lastArrival, List.length_append, List.length_cons,
    List.length_nil, List.reverse_append, List.reverse_cons,
    List.reverse_nil, List.nil_append, List.singleton_append]
  by_cases same : arrival = some owner
  · simp [same]
  · rw [if_neg same, List.idxOf_cons_ne _ same]
    omega

/-- An arrival of another owner does not count. -/
theorem lastArrival_concat_other
    {arrivals : List (Option Owner)}
    {arrival : Option Owner}
    {owner : Owner}
    (other : arrival ≠ some owner) :
    lastArrival (arrivals ++ [arrival]) owner =
      lastArrival arrivals owner := by
  rw [lastArrival_concat, if_neg other]

/-- No last arrival is later than the history is long. -/
theorem lastArrival_le_length
    (arrivals : List (Option Owner))
    (owner : Owner) :
    lastArrival arrivals owner ≤ arrivals.length :=
  Nat.sub_le _ _

/-- An owner has a last arrival exactly if it had one at all. -/
theorem lastArrival_pos_iff
    {arrivals : List (Option Owner)}
    {owner : Owner} :
    0 < lastArrival arrivals owner ↔ some owner ∈ arrivals := by
  rw [lastArrival, Nat.sub_pos_iff_lt, ← List.length_reverse,
    List.idxOf_lt_length_iff, List.mem_reverse]

section Ranked

variable {Item : Type}

/-- A list of items, the least recently served owner first. -/
def LeastRecentFirst
    (arrivals : List (Option Owner))
    (owner : Item → Owner)
    (items : List Item) :
    Prop :=
  items.Pairwise fun first second =>
    lastArrival arrivals (owner first) <
      lastArrival arrivals (owner second)

variable {arrivals : List (Option Owner)} {owner : Item → Owner}
variable {items : List Item}

/-- Different items of an ordered list have different owners. -/
theorem LeastRecentFirst.owner_ne
    (ordered : LeastRecentFirst arrivals owner items)
    {first second : Item}
    (firstMember : first ∈ items)
    (secondMember : second ∈ items)
    (different : first ≠ second) :
    owner first ≠ owner second := by
  have distinct :
      items.Pairwise fun first second => owner first ≠ owner second := by
    refine ordered.imp fun before same => ?_
    rw [same] at before
    exact Nat.lt_irrefl _ before
  have symmetric :
      Std.Symm fun first second : Item => owner first ≠ owner second :=
    ⟨fun _ _ ne => ne.symm⟩
  exact distinct.forall firstMember secondMember different

/-- The head of an ordered list is the least recently served one. -/
theorem LeastRecentFirst.head_lt
    {first other : Item}
    (ordered : LeastRecentFirst arrivals owner items)
    (isHead : items.head? = some first)
    (member : other ∈ items)
    (different : other ≠ first) :
    lastArrival arrivals (owner first) <
      lastArrival arrivals (owner other) := by
  cases items with
  | nil =>
      cases isHead
  | cons head rest =>
      cases isHead
      have inRest := (List.mem_cons.mp member).resolve_left different
      exact (List.pairwise_cons.mp ordered).1 other inRest

/-- The owner served by a new arrival goes to the end of the list. -/
theorem LeastRecentFirst.concat
    (ordered : LeastRecentFirst arrivals owner items)
    (item : Item)
    (others : ∀ other ∈ items, owner other ≠ owner item) :
    LeastRecentFirst (arrivals ++ [some (owner item)]) owner
      (items ++ [item]) := by
  have unserved :
      ∀ other ∈ items,
        lastArrival (arrivals ++ [some (owner item)]) (owner other) =
          lastArrival arrivals (owner other) := by
    intro other member
    refine lastArrival_concat_other fun same => ?_
    exact others other member (Option.some.inj same).symm
  refine List.pairwise_append.mpr ⟨?_, List.pairwise_singleton _ _, ?_⟩
  · refine List.Pairwise.imp_of_mem ?_ ordered
    intro first second firstMember secondMember before
    rw [unserved first firstMember, unserved second secondMember]
    exact before
  · intro other member last lastMember
    rw [List.mem_singleton.mp lastMember, unserved other member,
      lastArrival_concat, if_pos rfl]
    exact Nat.lt_succ_of_le (lastArrival_le_length _ _)

end Ranked

end ArrivalOrder
