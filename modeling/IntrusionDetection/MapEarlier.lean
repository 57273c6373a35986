import Mathlib.Data.List.Basic

/-!
# Mapping a list together with what came earlier

Each element of a list is mapped by a function that may also depend on the
elements before it.  A loop that keeps a history computes such a map; stated
this way its result mentions the list only, not the state of the loop.
-/

namespace MapEarlier

variable {Item Result : Type}

/-- Map every element, given the elements before it. -/
def mapEarlier
    (answer : List Item → Item → Result)
    (earlier : List Item) :
    List Item → List Result
  | [] => []
  | item :: rest =>
      answer earlier item :: mapEarlier answer (earlier ++ [item]) rest

variable {answer : List Item → Item → Result}

@[simp] theorem mapEarlier_nil (earlier : List Item) :
    mapEarlier answer earlier [] = [] :=
  rfl

/-- The first result does not depend on the later elements. -/
theorem mapEarlier_cons
    (earlier : List Item)
    (item : Item)
    (rest : List Item) :
    mapEarlier answer earlier (item :: rest) =
      answer earlier item ::
        mapEarlier answer (earlier ++ [item]) rest :=
  rfl

/-- The results of a concatenation. -/
theorem mapEarlier_append
    (earlier first second : List Item) :
    mapEarlier answer earlier (first ++ second) =
      mapEarlier answer earlier first ++
        mapEarlier answer (earlier ++ first) second := by
  induction first generalizing earlier with
  | nil =>
      simp
  | cons item rest inductionHypothesis =>
      simp [mapEarlier_cons, inductionHypothesis]

/-- One more element adds one result and changes none. -/
theorem mapEarlier_snoc
    (earlier items : List Item)
    (item : Item) :
    mapEarlier answer earlier (items ++ [item]) =
      mapEarlier answer earlier items ++
        [answer (earlier ++ items) item] := by
  simp [mapEarlier_append, mapEarlier_cons]

/-- Every result is the answer to one element. -/
theorem exists_of_mem_mapEarlier
    {earlier items : List Item}
    {result : Result}
    (member : result ∈ mapEarlier answer earlier items) :
    ∃ before, ∃ item ∈ items, answer before item = result := by
  induction items generalizing earlier with
  | nil =>
      cases member
  | cons item rest inductionHypothesis =>
      rcases List.mem_cons.mp member with isFirst | later
      · exact ⟨earlier, item, by simp, isFirst.symm⟩
      · obtain ⟨before, other, otherMember, answered⟩ :=
          inductionHypothesis later
        exact ⟨before, other, List.mem_cons_of_mem item otherMember,
          answered⟩

end MapEarlier
