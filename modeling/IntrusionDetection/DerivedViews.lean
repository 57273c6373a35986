import IntrusionDetection.InsertionDict

/-!
# Views derived from a dictionary

A view is computed from some entries of a dictionary and stored under a key of
its own, next to them.  As long as no view reads what a view has written, the
views may be computed again at any time without changing anything.
-/

namespace DerivedViews

open InsertionDict

variable {Key Value Label : Type} [DecidableEq Key]

/-- A view: where it is stored and what it is, with a mark if it differs. -/
structure View (Key Value Label : Type) where
  target : Key
  label : Label
  compute : (Key → Option Value) → Option (Value × Bool)

/-- The label, if the view differs from what it is computed from. -/
def View.report
    (view : View Key Value Label)
    (lookup : Key → Option Value) :
    List Label :=
  match view.compute lookup with
  | some (_, true) => [view.label]
  | _ => []

/-- Store a view. -/
def View.apply
    (view : View Key Value Label)
    (dict : List (Key × Value)) :
    List (Key × Value) :=
  match view.compute (get? dict) with
  | none => dict
  | some (value, _) => setItem dict view.target value

/-- Store the views one after the other and report those that differ. -/
def applyAll :
    List (View Key Value Label) →
    List (Key × Value) →
    List (Key × Value) × List Label
  | [], dict => (dict, [])
  | view :: rest, dict =>
      let later := applyAll rest (view.apply dict)
      (later.1, view.report (get? dict) ++ later.2)

/-! ### What a view leaves alone -/

/-- Storing under one of the keys keeps the items of the other keys. -/
theorem filter_setItem
    {targets : List Key}
    {key : Key}
    (isTarget : key ∈ targets)
    (dict : List (Key × Value))
    (value : Value) :
    (setItem dict key value).filter (fun item => item.1 ∉ targets) =
      dict.filter fun item => item.1 ∉ targets := by
  induction dict with
  | nil =>
      simp [setItem, isTarget]
  | cons item rest inductionHypothesis =>
      by_cases same : item.1 = key
      · simp [setItem, same, isTarget]
      · simp only [setItem, same, if_false, List.filter_cons,
          inductionHypothesis]

/-- Every view is stored under one of the keys. -/
def StoredIn
    (targets : List Key)
    (views : List (View Key Value Label)) :
    Prop :=
  ∀ view ∈ views, view.target ∈ targets

/-- The items of all other keys are as before, in the same order. -/
theorem filter_applyAll
    {targets : List Key}
    {views : List (View Key Value Label)}
    (stored : StoredIn targets views)
    (dict : List (Key × Value)) :
    (applyAll views dict).1.filter (fun item => item.1 ∉ targets) =
      dict.filter fun item => item.1 ∉ targets := by
  induction views generalizing dict with
  | nil =>
      rfl
  | cons view rest inductionHypothesis =>
      obtain ⟨isTarget, restStored⟩ := List.forall_mem_cons.mp stored
      refine (inductionHypothesis restStored (view.apply dict)).trans ?_
      unfold View.apply
      cases view.compute (get? dict) with
      | none =>
          rfl
      | some computed =>
          exact filter_setItem isTarget dict computed.1

/-! ### What a view reads -/

/-- Two lookups agree on every key but the given ones. -/
def AgreeOutside
    (targets : List Key)
    (first second : Key → Option Value) :
    Prop :=
  ∀ key, key ∉ targets → first key = second key

/-- The view is computed from keys other than the given ones. -/
def View.ReadsOutside
    (targets : List Key)
    (view : View Key Value Label) :
    Prop :=
  ∀ first second,
    AgreeOutside targets first second →
    view.compute first = view.compute second

/-- Storing a view changes no other entry. -/
theorem View.apply_agree
    {targets : List Key}
    {view : View Key Value Label}
    (isTarget : view.target ∈ targets)
    (dict : List (Key × Value)) :
    AgreeOutside targets (get? (view.apply dict)) (get? dict) := by
  intro key outside
  unfold View.apply
  cases view.compute (get? dict) with
  | none =>
      rfl
  | some computed =>
      have differs : view.target ≠ key := by
        intro same
        exact outside (same ▸ isTarget)
      exact (get?_setItem dict view.target key computed.1).trans
        (if_neg differs)

/-- Storing views changes no other entry. -/
theorem applyAll_agree
    {targets : List Key}
    {views : List (View Key Value Label)}
    (stored : StoredIn targets views)
    (dict : List (Key × Value)) :
    AgreeOutside targets (get? (applyAll views dict).1) (get? dict) := by
  induction views generalizing dict with
  | nil =>
      exact fun _ _ => rfl
  | cons view rest inductionHypothesis =>
      obtain ⟨isTarget, restStored⟩ := List.forall_mem_cons.mp stored
      intro key outside
      exact (inductionHypothesis restStored (view.apply dict) key
        outside).trans (View.apply_agree isTarget dict key outside)

/-- The views that differ can be told from the dictionary before them. -/
theorem applyAll_report
    {targets : List Key}
    {views : List (View Key Value Label)}
    (stored : StoredIn targets views)
    (independent : ∀ view ∈ views, view.ReadsOutside targets)
    (dict : List (Key × Value)) :
    (applyAll views dict).2 =
      views.flatMap fun view => view.report (get? dict) := by
  induction views generalizing dict with
  | nil =>
      rfl
  | cons view rest inductionHypothesis =>
      obtain ⟨isTarget, restStored⟩ := List.forall_mem_cons.mp stored
      obtain ⟨_, restIndependent⟩ := List.forall_mem_cons.mp independent
      have later :=
        inductionHypothesis restStored restIndependent (view.apply dict)
      have sameReports :
          ∀ other ∈ rest,
            other.report (get? (view.apply dict)) =
              other.report (get? dict) := by
        intro other member
        unfold View.report
        rw [restIndependent other member _ _
          (View.apply_agree isTarget dict)]
      simp only [applyAll, later, List.flatMap_cons]
      rw [List.flatMap_congr sameReports]

/-! ### Storing views again -/

/-- Storing the value that is there changes nothing. -/
theorem setItem_of_get?
    {dict : List (Key × Value)}
    {key : Key}
    {value : Value}
    (found : get? dict key = some value) :
    setItem dict key value = dict := by
  induction dict with
  | nil =>
      cases found
  | cons item rest inductionHypothesis =>
      obtain ⟨known, old⟩ := item
      by_cases same : known = key
      · simp only [get?, same, if_true, Option.some.injEq] at found
        simp [setItem, same, found]
      · simp only [get?, same, if_false] at found
        simp [setItem, same, inductionHypothesis found]

/-- What a view computes is what is stored under its key. -/
def View.IsStored
    (dict : List (Key × Value))
    (view : View Key Value Label) :
    Prop :=
  ∀ computed,
    view.compute (get? dict) = some computed →
    get? dict view.target = some computed.1

/-- A view that is stored stays as it is. -/
theorem View.apply_of_isStored
    {view : View Key Value Label}
    {dict : List (Key × Value)}
    (stored : view.IsStored dict) :
    view.apply dict = dict := by
  unfold View.apply
  cases computed : view.compute (get? dict) with
  | none =>
      rfl
  | some value =>
      exact setItem_of_get? (stored value computed)

/-- Views that are stored stay as they are. -/
theorem applyAll_of_isStored
    {views : List (View Key Value Label)}
    {dict : List (Key × Value)}
    (stored : ∀ view ∈ views, view.IsStored dict) :
    (applyAll views dict).1 = dict := by
  induction views with
  | nil =>
      rfl
  | cons view rest inductionHypothesis =>
      obtain ⟨isStored, restStored⟩ := List.forall_mem_cons.mp stored
      simp only [applyAll, View.apply_of_isStored isStored]
      exact inductionHypothesis restStored

/-- Views with keys of their own are all stored in the end. -/
theorem isStored_applyAll
    {targets : List Key}
    {views : List (View Key Value Label)}
    (stored : StoredIn targets views)
    (independent : ∀ view ∈ views, view.ReadsOutside targets)
    (distinct : (views.map View.target).Nodup)
    (dict : List (Key × Value)) :
    ∀ view ∈ views, view.IsStored (applyAll views dict).1 := by
  induction views generalizing dict with
  | nil =>
      exact fun _ member => (List.not_mem_nil member).elim
  | cons view rest inductionHypothesis =>
      obtain ⟨isTarget, restStored⟩ := List.forall_mem_cons.mp stored
      obtain ⟨readsOutside, restIndependent⟩ :=
        List.forall_mem_cons.mp independent
      rw [List.map_cons, List.nodup_cons] at distinct
      rw [List.forall_mem_cons]
      refine ⟨?_, inductionHypothesis restStored restIndependent
        distinct.2 (view.apply dict)⟩
      -- The later views leave this one alone, having other keys.
      intro computed isComputed
      have fromRaw : view.compute (get? dict) = some computed := by
        rw [← isComputed]
        exact (readsOutside _ _ (applyAll_agree stored dict)).symm
      have restAgree :
          AgreeOutside (rest.map View.target)
            (get? (applyAll rest (view.apply dict)).1)
            (get? (view.apply dict)) :=
        applyAll_agree
          (fun other member => List.mem_map_of_mem member) _
      refine (restAgree view.target distinct.1).trans ?_
      simp only [View.apply, fromRaw, get?_setItem, if_true]

/--
Storing the views a second time changes nothing and reports the same views.
-/
theorem applyAll_applyAll
    {targets : List Key}
    {views : List (View Key Value Label)}
    (stored : StoredIn targets views)
    (independent : ∀ view ∈ views, view.ReadsOutside targets)
    (distinct : (views.map View.target).Nodup)
    (dict : List (Key × Value)) :
    applyAll views (applyAll views dict).1 = applyAll views dict := by
  apply Prod.ext
  · exact applyAll_of_isStored
      (isStored_applyAll stored independent distinct dict)
  · rw [applyAll_report stored independent,
      applyAll_report stored independent]
    apply List.flatMap_congr
    intro view member
    unfold View.report
    rw [independent view member _ _ (applyAll_agree stored dict)]

end DerivedViews
