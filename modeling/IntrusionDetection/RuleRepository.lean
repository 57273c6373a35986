import IntrusionDetection.Event
import IntrusionDetection.Rule

namespace IntrusionDetection

open PyText

/-!
# Rule repository

The validated rules in the order they were added, which is the order of the
rule files.  Distinctness of the sids is a field of the repository.
-/

/-- The stored rules; once frozen, nothing can be added. -/
structure RuleRepository where
  rules : List Rule
  frozen : Bool
  sidsNodup : (rules.map Rule.sid).Nodup

namespace RuleRepository

/-- `RuleRepository()`. -/
def empty : RuleRepository where
  rules := []
  frozen := false
  sidsNodup := List.nodup_nil

/-- `len(repository)`. -/
def size (repository : RuleRepository) : Nat :=
  repository.rules.length

/-- `add`: append a rule whose sid is not stored yet. -/
def add (repository : RuleRepository) (rule : Rule) :
    Except PyException RuleRepository :=
  if repository.frozen then
    .error {
      typeName := lit "RuntimeError"
      message := lit "RuleRepository is frozen; no more rules can be added" }
  else if unused : rule.sid ∉ repository.rules.map Rule.sid then
    .ok {
      rules := repository.rules ++ [rule]
      frozen := false
      sidsNodup := by
        rw [List.map_append, List.nodup_append]
        refine ⟨repository.sidsNodup, by simp, ?_⟩
        intro stored storedMember added addedMember same
        simp only [List.map_cons, List.map_nil, List.mem_singleton]
          at addedMember
        subst same addedMember
        exact unused storedMember }
  else
    .error {
      typeName := lit "ValueError"
      message := lit "duplicate sid " ++ ofInt rule.sid }

/-- Add rules one after the other, until one is refused. -/
def addAll (repository : RuleRepository) (rules : List Rule) :
    Except PyException RuleRepository :=
  rules.foldlM add repository

/-- `freeze`. -/
def freeze (repository : RuleRepository) : RuleRepository :=
  { repository with frozen := true }

/-- The repository without the rules a test selects. -/
def without (repository : RuleRepository) (dropped : Rule → Bool) :
    RuleRepository where
  rules := repository.rules.filter fun rule => !dropped rule
  frozen := repository.frozen
  sidsNodup :=
    (List.filter_sublist.map Rule.sid).nodup repository.sidsNodup

/-- Rules with new, pairwise distinct sids are all accepted, in order. -/
theorem addAll_of_nodup
    {repository : RuleRepository}
    {rules : List Rule}
    (open' : repository.frozen = false)
    (distinct :
      ((repository.rules ++ rules).map Rule.sid).Nodup) :
    ∃ filled,
      repository.addAll rules = .ok filled ∧
        filled.rules = repository.rules ++ rules ∧
        filled.frozen = false := by
  induction rules generalizing repository with
  | nil =>
      exact ⟨repository, rfl, by simp, open'⟩
  | cons rule rest inductionHypothesis =>
      have unused : rule.sid ∉ repository.rules.map Rule.sid := by
        rw [List.map_append, List.nodup_append] at distinct
        intro member
        exact distinct.2.2 _ member _ (by simp) rfl
      have added :
          ∃ next,
            repository.add rule = .ok next ∧
              next.rules = repository.rules ++ [rule] ∧
              next.frozen = false := by
        simp only [add, open', Bool.false_eq_true, if_false,
          dif_pos unused]
        exact ⟨_, rfl, rfl, rfl⟩
      obtain ⟨next, result, nextRules, nextOpen⟩ := added
      obtain ⟨filled, later, filledRules, filledOpen⟩ :=
        inductionHypothesis nextOpen (by simpa [nextRules] using distinct)
      refine ⟨filled, ?_, ?_, filledOpen⟩
      · simp only [addAll, List.foldlM_cons, result]
        exact later
      · simp [filledRules, nextRules]

/-- Rules with distinct sids are all accepted by a new repository. -/
theorem addAll_empty
    {rules : List Rule}
    (distinct : (rules.map Rule.sid).Nodup) :
    ∃ filled,
      empty.addAll rules = .ok filled ∧
        filled.rules = rules ∧
        filled.frozen = false :=
  addAll_of_nodup rfl distinct

end RuleRepository

end IntrusionDetection
