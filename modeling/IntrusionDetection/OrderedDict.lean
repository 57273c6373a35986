import Mathlib.Data.List.Nodup
import Mathlib.Data.List.Perm.Basic

/-!
# Ordered dictionaries

A finite map that remembers an order on its keys, oldest first, with the three
operations a least-recently-used table needs: looking a key up, dropping a key
and (re)inserting a key at the recent end.  Distinctness of the keys is a field
of the structure, so every dictionary that can be built is well formed and a
lookup is the same thing as membership.
-/

/-- A dictionary in insertion order; the head of `items` is the oldest entry. -/
structure OrderedDict (Key Value : Type) where
  items : List (Key × Value)
  keysNodup : (items.map Prod.fst).Nodup

namespace OrderedDict

variable {Key Value : Type}

/-- Two dictionaries with the same items in the same order are equal. -/
@[ext] theorem ext_items
    {first second : OrderedDict Key Value}
    (sameItems : first.items = second.items) :
    first = second := by
  cases first
  cases second
  cases sameItems
  rfl

/-- The dictionary without any entry. -/
def empty : OrderedDict Key Value where
  items := []
  keysNodup := List.nodup_nil

/-- Number of entries. -/
def size (dict : OrderedDict Key Value) : Nat :=
  dict.items.length

/-- The values, oldest first. -/
def values (dict : OrderedDict Key Value) : List Value :=
  dict.items.map Prod.snd

/-- The entry at the old end. -/
def oldest? (dict : OrderedDict Key Value) : Option (Key × Value) :=
  dict.items.head?

@[simp] theorem items_empty :
    (empty : OrderedDict Key Value).items = [] :=
  rfl

section Operations

variable [DecidableEq Key]

/-- The value stored under a key. -/
def get? (dict : OrderedDict Key Value) (key : Key) : Option Value :=
  (dict.items.find? fun item => item.1 = key).map Prod.snd

/-- Drop a key; the order of the others does not change. -/
def remove (dict : OrderedDict Key Value) (key : Key) :
    OrderedDict Key Value where
  items := dict.items.filter fun item => item.1 ≠ key
  keysNodup :=
    (List.filter_sublist.map Prod.fst).nodup dict.keysNodup

/-- Store a value under a key and make that key the most recent one. -/
def insertLast
    (dict : OrderedDict Key Value)
    (key : Key)
    (value : Value) :
    OrderedDict Key Value where
  items := (dict.remove key).items ++ [(key, value)]
  keysNodup := by
    rw [List.map_append, List.nodup_append]
    refine ⟨(dict.remove key).keysNodup, by simp, ?_⟩
    intro kept keptMember inserted insertedMember same
    simp only [List.map_cons, List.map_nil, List.mem_singleton]
      at insertedMember
    subst same insertedMember
    simp [remove] at keptMember

/-- Make a present key the most recent one; do nothing for an absent key. -/
def moveToEnd (dict : OrderedDict Key Value) (key : Key) :
    OrderedDict Key Value :=
  match dict.get? key with
  | some value => dict.insertLast key value
  | none => dict

/-! ### Lookup is membership -/

/-- A lookup succeeds exactly on the stored pairs. -/
theorem get?_eq_some_iff
    {dict : OrderedDict Key Value}
    {key : Key}
    {value : Value} :
    dict.get? key = some value ↔ (key, value) ∈ dict.items := by
  rcases dict with ⟨items, keysNodup⟩
  simp only [get?]
  induction items with
  | nil =>
      simp
  | cons item rest inductionHypothesis =>
      rcases item with ⟨firstKey, firstValue⟩
      simp only [List.map_cons, List.nodup_cons] at keysNodup
      by_cases same : firstKey = key
      · subst same
        have absent : (firstKey, value) ∉ rest := by
          intro member
          exact keysNodup.1 (List.mem_map_of_mem member)
        simp [absent, eq_comm]
      · have step := inductionHypothesis keysNodup.2
        simp only [same, decide_false, Bool.false_eq_true,
          not_false_eq_true, List.find?_cons_of_neg, step,
          List.mem_cons, Prod.mk.injEq]
        constructor
        · exact Or.inr
        · rintro (⟨sameKey, _⟩ | member)
          · exact (same sameKey.symm).elim
          · exact member

/-- A lookup fails exactly on the keys that no item carries. -/
theorem get?_eq_none_iff
    {dict : OrderedDict Key Value}
    {key : Key} :
    dict.get? key = none ↔
      ∀ value, (key, value) ∉ dict.items := by
  constructor
  · intro missing value member
    rw [get?_eq_some_iff.mpr member] at missing
    cases missing
  · intro absent
    cases found : dict.get? key with
    | none =>
        rfl
    | some value =>
        exact (absent value (get?_eq_some_iff.mp found)).elim

@[simp] theorem get?_empty (key : Key) :
    (empty : OrderedDict Key Value).get? key = none :=
  rfl

/-! ### What the operations store -/

/-- Removing a key keeps exactly the items of the other keys. -/
theorem mem_remove
    {dict : OrderedDict Key Value}
    {key : Key}
    {item : Key × Value} :
    item ∈ (dict.remove key).items ↔
      item ∈ dict.items ∧ item.1 ≠ key := by
  simp [remove]

/-- Inserting a key replaces its item and keeps those of the other keys. -/
theorem mem_insertLast
    {dict : OrderedDict Key Value}
    {key : Key}
    {value : Value}
    {item : Key × Value} :
    item ∈ (dict.insertLast key value).items ↔
      (item ∈ dict.items ∧ item.1 ≠ key) ∨ item = (key, value) := by
  simp [insertLast, mem_remove]

@[simp] theorem get?_remove_same
    (dict : OrderedDict Key Value)
    (key : Key) :
    (dict.remove key).get? key = none := by
  rw [get?_eq_none_iff]
  intro value member
  exact (mem_remove.mp member).2 rfl

theorem get?_remove_other
    (dict : OrderedDict Key Value)
    {key other : Key}
    (different : other ≠ key) :
    (dict.remove key).get? other = dict.get? other := by
  ext value
  rw [get?_eq_some_iff, get?_eq_some_iff, mem_remove]
  exact and_iff_left different

@[simp] theorem get?_insertLast_same
    (dict : OrderedDict Key Value)
    (key : Key)
    (value : Value) :
    (dict.insertLast key value).get? key = some value := by
  rw [get?_eq_some_iff, mem_insertLast]
  exact Or.inr rfl

theorem get?_insertLast_other
    (dict : OrderedDict Key Value)
    {key other : Key}
    (different : other ≠ key)
    (value : Value) :
    (dict.insertLast key value).get? other = dict.get? other := by
  ext stored
  rw [get?_eq_some_iff, get?_eq_some_iff, mem_insertLast]
  constructor
  · rintro (⟨member, _⟩ | isNew)
    · exact member
    · exact (different (congrArg Prod.fst isNew)).elim
  · intro member
    exact Or.inl ⟨member, different⟩

/-- Moving a present key to the end is inserting its own value again. -/
theorem moveToEnd_of_get?
    {dict : OrderedDict Key Value}
    {key : Key}
    {value : Value}
    (found : dict.get? key = some value) :
    dict.moveToEnd key = dict.insertLast key value := by
  simp [moveToEnd, found]

/-- Only the last of two insertions under one key remains. -/
@[simp] theorem insertLast_insertLast
    (dict : OrderedDict Key Value)
    (key : Key)
    (first second : Value) :
    (dict.insertLast key first).insertLast key second =
      dict.insertLast key second := by
  ext1
  simp [insertLast, remove, List.filter_append]

/-- Removing an absent key changes nothing. -/
theorem remove_of_get?_none
    {dict : OrderedDict Key Value}
    {key : Key}
    (missing : dict.get? key = none) :
    dict.remove key = dict := by
  ext1
  simp only [remove, List.filter_eq_self]
  rintro ⟨storedKey, value⟩ member
  rw [get?_eq_none_iff] at missing
  simp only [decide_eq_true_eq]
  intro same
  subst same
  exact missing value member

/-- Inserting a key appends it to what is left without that key. -/
theorem items_insertLast
    (dict : OrderedDict Key Value)
    (key : Key)
    (value : Value) :
    (dict.insertLast key value).items =
      (dict.remove key).items ++ [(key, value)] :=
  rfl

/-- A present key splits the items into its own and those of the others. -/
theorem items_perm_of_get?
    {dict : OrderedDict Key Value}
    {key : Key}
    {value : Value}
    (found : dict.get? key = some value) :
    dict.items.Perm ((key, value) :: (dict.remove key).items) := by
  have itemsNodup : dict.items.Nodup := dict.keysNodup.of_map
  have restNodup : ((key, value) :: (dict.remove key).items).Nodup := by
    refine List.nodup_cons.mpr ⟨?_, (dict.remove key).keysNodup.of_map⟩
    intro member
    exact (mem_remove.mp member).2 rfl
  rw [List.perm_ext_iff_of_nodup itemsNodup restNodup]
  rintro ⟨storedKey, stored⟩
  simp only [List.mem_cons, mem_remove]
  constructor
  · intro member
    by_cases same : storedKey = key
    · subst same
      rw [get?_eq_some_iff.mpr member] at found
      cases found
      exact Or.inl rfl
    · exact Or.inr ⟨member, same⟩
  · rintro (isOwn | ⟨member, _⟩)
    · rw [isOwn]
      exact get?_eq_some_iff.mp found
    · exact member

/-- Removing a present key shrinks the dictionary by one. -/
theorem size_remove_of_get?
    {dict : OrderedDict Key Value}
    {key : Key}
    {value : Value}
    (found : dict.get? key = some value) :
    (dict.remove key).size + 1 = dict.size := by
  have sameLength := (items_perm_of_get? found).length_eq
  simpa [size] using sameLength.symm

/-! ### The old end -/

/-- The oldest entry is stored. -/
theorem get?_of_oldest?
    {dict : OrderedDict Key Value}
    {key : Key}
    {value : Value}
    (isOldest : dict.oldest? = some (key, value)) :
    dict.get? key = some value := by
  rw [get?_eq_some_iff]
  exact List.mem_of_head? isOldest

/-! ### Removing many keys -/

/-- Removing the oldest key leaves the items after it. -/
theorem items_remove_oldest
    {dict : OrderedDict Key Value}
    {key : Key}
    {value : Value}
    (isOldest : dict.oldest? = some (key, value)) :
    (dict.remove key).items = dict.items.tail := by
  have distinct := dict.keysNodup
  simp only [oldest?] at isOldest
  simp only [remove]
  cases items : dict.items with
  | nil =>
      simp [items] at isOldest
  | cons head rest =>
      rw [items] at isOldest distinct
      cases isOldest
      have others : ∀ item ∈ rest, item.1 ≠ key := by
        intro item member same
        exact (List.nodup_cons.mp distinct).1
          (List.mem_map.mpr ⟨item, member, same⟩)
      simpa using others

/-- Drop every key of a list, one after the other. -/
def removeAll
    (dict : OrderedDict Key Value)
    (keys : List Key) :
    OrderedDict Key Value :=
  keys.foldl remove dict

/-- Removing a list of keys keeps exactly the items of the other keys. -/
theorem items_removeAll
    (dict : OrderedDict Key Value)
    (keys : List Key) :
    (dict.removeAll keys).items =
      dict.items.filter fun item => item.1 ∉ keys := by
  induction keys generalizing dict with
  | nil =>
      simp [removeAll]
  | cons key rest inductionHypothesis =>
      have step := inductionHypothesis (dict.remove key)
      simp only [removeAll, List.foldl_cons] at step ⊢
      rw [step]
      simp only [remove, List.filter_filter, List.mem_cons, not_or]
      congr 1
      funext item
      simp [Bool.and_comm]

end Operations

end OrderedDict
