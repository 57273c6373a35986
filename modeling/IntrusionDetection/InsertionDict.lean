import Mathlib.Algebra.GroupWithZero.Nat
import Mathlib.Data.List.Basic
import Mathlib.Data.List.Nodup

/-!
# Dictionaries as lists

A dictionary that keeps its items in the order in which their keys were first
stored.  Storing under a known key replaces the value where it stands.
-/

namespace InsertionDict

variable {Key Value : Type} [DecidableEq Key]

/-- `dict.get`. -/
def get? : List (Key × Value) → Key → Option Value
  | [], _ => none
  | (known, value) :: rest, key =>
      if known = key then some value else get? rest key

/-- `dict[key] = value`. -/
def setItem : List (Key × Value) → Key → Value → List (Key × Value)
  | [], key, value => [(key, value)]
  | (known, old) :: rest, key, value =>
      if known = key then
        (known, value) :: rest
      else
        (known, old) :: setItem rest key value

/-- A value that was stored is the one that is found. -/
theorem get?_setItem
    (dict : List (Key × Value))
    (key wanted : Key)
    (value : Value) :
    get? (setItem dict key value) wanted =
      if key = wanted then some value else get? dict wanted := by
  induction dict with
  | nil =>
      rfl
  | cons entry rest inductionHypothesis =>
      obtain ⟨known, old⟩ := entry
      by_cases same : known = key
      · subst same
        by_cases isWanted : known = wanted <;>
          simp [setItem, get?, isWanted]
      · simp only [setItem, same, if_false, get?, inductionHypothesis]
        by_cases isWanted : known = wanted
        · subst isWanted
          simp [Ne.symm same]
        · simp [isWanted]

/-- A key that is found belongs to an item. -/
theorem mem_of_get?
    {dict : List (Key × Value)}
    {key : Key}
    {value : Value}
    (found : get? dict key = some value) :
    (key, value) ∈ dict := by
  induction dict with
  | nil =>
      cases found
  | cons item rest inductionHypothesis =>
      by_cases same : item.1 = key
      · simp only [get?, same, if_true,
          Option.some.injEq] at found
        subst same found
        exact List.mem_cons_self
      · simp only [get?, same, if_false] at found
        exact List.mem_cons_of_mem item (inductionHypothesis found)

/-- A key is found exactly if an item has it. -/
theorem get?_eq_none_iff
    {dict : List (Key × Value)}
    {key : Key} :
    get? dict key = none ↔ key ∉ dict.map Prod.fst := by
  induction dict with
  | nil =>
      simp [get?]
  | cons item rest inductionHypothesis =>
      obtain ⟨known, value⟩ := item
      by_cases same : known = key
      · simp [get?, same]
      · simp [get?, same, inductionHypothesis, Ne.symm same]

/-- Storing under a key adds no other key. -/
theorem keys_setItem
    (dict : List (Key × Value))
    (key : Key)
    (value : Value) :
    (setItem dict key value).map Prod.fst =
      if get? dict key = none then
        dict.map Prod.fst ++ [key]
      else
        dict.map Prod.fst := by
  induction dict with
  | nil =>
      rfl
  | cons item rest inductionHypothesis =>
      obtain ⟨known, old⟩ := item
      by_cases same : known = key
      · simp [setItem, get?, same]
      · simp only [setItem, get?, same, if_false, List.map_cons,
          inductionHypothesis]
        split <;> rfl

/-- Every key is stored once. -/
theorem nodup_keys_setItem
    {dict : List (Key × Value)}
    (nodup : (dict.map Prod.fst).Nodup)
    (key : Key)
    (value : Value) :
    ((setItem dict key value).map Prod.fst).Nodup := by
  rw [keys_setItem]
  split
  · rename_i absent
    rw [← List.concat_eq_append]
    exact List.Nodup.concat (get?_eq_none_iff.mp absent) nodup
  · exact nodup

/-- What is stored counts, and what was stored there no longer does. -/
theorem sum_map_setItem
    (weight : Value → Nat)
    (dict : List (Key × Value))
    (key : Key)
    (value : Value) :
    ((setItem dict key value).map fun item => weight item.2).sum +
        (get? dict key).elim 0 weight =
      (dict.map fun item => weight item.2).sum + weight value := by
  induction dict with
  | nil =>
      simp [setItem, get?]
  | cons item rest inductionHypothesis =>
      obtain ⟨known, old⟩ := item
      by_cases same : known = key
      · simp only [setItem, get?, same, if_true, Option.elim_some,
          List.map_cons, List.sum_cons]
        omega
      · simp only [setItem, get?, same, if_false, List.map_cons,
          List.sum_cons]
        omega

/-- A dictionary whose keys and values are written in another form. -/
theorem get?_map
    {NewKey NewValue : Type}
    [DecidableEq NewKey]
    {writeKey : Key → NewKey}
    (injective : Function.Injective writeKey)
    (writeValue : Value → NewValue)
    (dict : List (Key × Value))
    (key : Key) :
    get? (dict.map fun item => (writeKey item.1, writeValue item.2))
        (writeKey key) =
      (get? dict key).map writeValue := by
  induction dict with
  | nil =>
      rfl
  | cons item rest inductionHypothesis =>
      obtain ⟨known, value⟩ := item
      by_cases same : known = key
      · simp [get?, same]
      · simp only [List.map_cons, get?, same, injective.ne same, if_false,
          inductionHypothesis]

end InsertionDict
