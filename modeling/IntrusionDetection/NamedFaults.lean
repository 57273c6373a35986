import IntrusionDetection.RuleClassification

namespace IntrusionDetection

open PyText MapEarlier FaultPrecedence

/-!
# An internal error is no fault of a line

Whatever a rule line contains, its checks report what they look for; none of
them reports an internal error, so that reason is left for the last handler.
-/

variable {reason : RuleReason}

/-! ### Structure -/

/-- A piece is only ever malformed. -/
theorem eq_malformedRule_of_parsePiece
    {piece : Str}
    (failed : parsePiece piece = .error reason) :
    reason = .malformedRule := by
  unfold parsePiece at failed
  split at failed
  · cases failed
  · dsimp only at failed
    split at failed
    · cases failed
      rfl
    · cases failed

/-- Options are only ever malformed. -/
theorem eq_malformedRule_of_splitOptions
    {body : Str}
    (failed : splitOptions body = .error reason) :
    reason = .malformedRule := by
  unfold splitOptions at failed
  split at failed
  · cases failed
    rfl
  · obtain ⟨piece, _, atPiece⟩ :=
      exists_of_mapM_error (error_of_map_error failed)
    exact eq_malformedRule_of_parsePiece atPiece

/-- The tokenizer has two reasons. -/
theorem tokenizeRule_reasons
    {text : Str}
    (failed : tokenizeRule text = .error reason) :
    reason = .malformedRule ∨ reason = .badHeader := by
  unfold tokenizeRule at failed
  simp only at failed
  split at failed
  · split at failed
    · cases failed
      exact Or.inl rfl
    · split at failed
      · rename_i isSplit
        cases failed
        exact Or.inl (eq_malformedRule_of_splitOptions isSplit)
      · split at failed
        · cases failed
          exact Or.inr rfl
        · cases failed
  · cases failed
    exact Or.inl rfl

/-! ### Header -/

/-- An address field. -/
theorem parseIp_named (token : Str) :
    parseIp token ≠ .error .internalError := by
  unfold parseIp
  dsimp only
  repeat' split
  all_goals simp

/-- The ends of a port range. -/
theorem portRange_named (lo hi : Option Int) :
    portRange lo hi ≠ .error .internalError := by
  unfold portRange
  repeat' split
  all_goals simp

/-- A port field. -/
theorem parsePort_named (token : Str) :
    parsePort token ≠ .error .internalError := by
  unfold parsePort
  repeat' split
  all_goals
    first
    | exact portRange_named _ _
    | simp

/-- The action. -/
theorem parseAction_named (token : Str) :
    parseAction token ≠ .error .internalError := by
  unfold parseAction
  repeat' split
  all_goals simp

/-- The protocol. -/
theorem parseProtocol_named (token : Str) :
    parseProtocol token ≠ .error .internalError := by
  unfold parseProtocol
  repeat' split
  all_goals simp

/-- The direction. -/
theorem parseDirection_named (token : Str) :
    parseDirection token ≠ .error .internalError := by
  unfold parseDirection
  repeat' split
  all_goals simp

/-- A parse fails with the fault it reports. -/
theorem eq_error_of_errorOf
    {Value : Type}
    {parsed : Except RuleReason Value}
    (reports : errorOf parsed = some reason) :
    parsed = .error reason := by
  cases parsed with
  | error fault =>
      cases reports
      rfl
  | ok value => cases reports

/-- A parse with a named fault reports no internal error. -/
theorem ne_internalError_of_errorOf
    {Value : Type}
    {parsed : Except RuleReason Value}
    (named : parsed ≠ .error .internalError)
    (reports : some reason = errorOf parsed) :
    reason ≠ .internalError := by
  rintro rfl
  exact named (eq_error_of_errorOf reports.symm)

/-- The faults of the header fields. -/
theorem headerFaults_named
    {tokens : HeaderTokens}
    (member : reason ∈ headerFaults tokens) :
    reason ≠ .internalError := by
  have ofField : some reason ∈ fieldFaults tokens :=
    List.reduceOption_mem_iff.mp member
  simp only [fieldFaults, List.mem_cons, List.not_mem_nil, or_false]
    at ofField
  rcases ofField with
    action | protocol | srcIp | srcPort | direction | dstIp | dstPort
  · exact ne_internalError_of_errorOf (parseAction_named _) action
  · exact ne_internalError_of_errorOf (parseProtocol_named _) protocol
  · exact ne_internalError_of_errorOf (parseIp_named _) srcIp
  · exact ne_internalError_of_errorOf (parsePort_named _) srcPort
  · exact ne_internalError_of_errorOf (parseDirection_named _) direction
  · exact ne_internalError_of_errorOf (parseIp_named _) dstIp
  · exact ne_internalError_of_errorOf (parsePort_named _) dstPort

/-! ### Options -/

/-- A fault that is looked for under a condition. -/
theorem faultIf_named
    {condition : Prop}
    [Decidable condition]
    {fault : RuleReason}
    (named : fault ≠ .internalError)
    (member : reason ∈ faultIf condition fault) :
    reason ≠ .internalError := by
  rw [(mem_faultIf.mp member).2]
  exact named

/-- The faults of the identification options. -/
theorem identificationFaults_named
    {options : List OptionPair}
    (member : reason ∈ identificationFaults options) :
    reason ≠ .internalError := by
  simp only [identificationFaults, List.mem_append] at member
  rcases member with (ofOption | sid) | msg
  · obtain ⟨faults, inList, inFaults⟩ := List.mem_flatten.mp ofOption
    obtain ⟨earlier, option, _, rfl⟩ := exists_of_mem_mapEarlier inList
    simp only [identOptionFaults] at inFaults
    split at inFaults
    · rename_i keyword _
      rcases List.mem_append.mp inFaults with duplicate | value
      · exact faultIf_named RuleReason.noConfusion duplicate
      · cases keyword <;>
          exact faultIf_named RuleReason.noConfusion value
    · cases inFaults
  · exact faultIf_named RuleReason.noConfusion sid
  · exact faultIf_named RuleReason.noConfusion msg

/-- The faults of the contents and their modifiers. -/
theorem contentFaults_named
    {options : List OptionPair}
    (member : reason ∈ contentFaults options) :
    reason ≠ .internalError := by
  obtain ⟨faults, inList, inFaults⟩ := List.mem_flatten.mp member
  obtain ⟨earlier, option, _, rfl⟩ := exists_of_mem_mapEarlier inList
  simp only [contentOptionFaults] at inFaults
  split at inFaults
  · rcases List.mem_append.mp inFaults with negated | undecoded
    · exact faultIf_named RuleReason.noConfusion negated
    · exact faultIf_named RuleReason.noConfusion undecoded
  · split at inFaults
    · rw [List.mem_singleton.mp inFaults]
      exact RuleReason.noConfusion
    · rcases List.mem_append.mp inFaults with duplicate | value
      · exact faultIf_named RuleReason.noConfusion duplicate
      · exact faultIf_named RuleReason.noConfusion value
  · cases inFaults

/-- The faults of an option that may be given once. -/
theorem singleFaults_named
    {key : Keyword}
    {valueFaults : Option Str → List RuleReason}
    (named :
      ∀ value, ∀ fault ∈ valueFaults value, fault ≠ .internalError)
    {options : List OptionPair}
    (member : reason ∈ singleFaults key valueFaults options) :
    reason ≠ .internalError := by
  rcases List.mem_append.mp member with duplicate | ofValue
  · exact faultIf_named RuleReason.noConfusion duplicate
  · obtain ⟨option, _, inFaults⟩ := List.mem_flatMap.mp ofValue
    exact named option.value reason inFaults

/-- The faults of a flow value. -/
theorem flowValueFaults_named (value : Option Str) :
    ∀ fault ∈ flowValueFaults value, fault ≠ .internalError := by
  intro fault member
  unfold flowValueFaults at member
  split at member
  · rw [List.mem_singleton.mp member]
    exact RuleReason.noConfusion
  · rcases List.mem_append.mp member with conflict | unknown
    · exact faultIf_named RuleReason.noConfusion conflict
    · obtain ⟨item, _, rfl⟩ := List.mem_map.mp unknown
      exact RuleReason.noConfusion

/-- The faults of a flags value. -/
theorem flagsValueFaults_named (value : Option Str) :
    ∀ fault ∈ flagsValueFaults value, fault ≠ .internalError := by
  intro fault member
  unfold flagsValueFaults at member
  split at member
  · rw [List.mem_singleton.mp member]
    exact RuleReason.noConfusion
  · rcases List.mem_append.mp member with main | mask
    · exact faultIf_named RuleReason.noConfusion main
    · exact faultIf_named RuleReason.noConfusion mask

/-- The faults of a dsize value. -/
theorem dsizeValueFaults_named (value : Option Str) :
    ∀ fault ∈ dsizeValueFaults value, fault ≠ .internalError := by
  intro fault member
  have named : parseDsizeValue value ≠ .error .internalError := by
    unfold parseDsizeValue
    repeat' split
    all_goals simp
  exact ne_internalError_of_errorOf named
    (Option.mem_toList.mp member).symm

/-- The faults of contents whose options do not fit each other. -/
theorem crossFaults_named
    {options : List OptionPair}
    (member : reason ∈ crossFaults options) :
    reason ≠ .internalError := by
  unfold crossFaults at member
  split at member
  · cases member
  · obtain ⟨content, _, inFaults⟩ := List.mem_flatMap.mp member
    simp only [contentCrossFaults, List.mem_append] at inFaults
    rcases inFaults with (depth | within) | mixed
    · exact faultIf_named RuleReason.noConfusion depth
    · exact faultIf_named RuleReason.noConfusion within
    · exact faultIf_named RuleReason.noConfusion mixed

/-- The keywords outside the supported subset. -/
theorem keywordFaults_named
    {options : List OptionPair}
    (member : reason ∈ keywordFaults options) :
    reason ≠ .internalError := by
  obtain ⟨option, _, isFault⟩ := List.mem_filterMap.mp member
  unfold keywordFault at isFault
  split at isFault
  · cases isFault
    exact RuleReason.noConfusion
  · cases isFault

/-! ### The whole line -/

/-- No fault of a line is an internal error. -/
theorem ruleFaults_named
    {text : Str}
    (member : reason ∈ ruleFaults text) :
    reason ≠ .internalError := by
  unfold ruleFaults at member
  split at member
  · rename_i failed
    rw [List.mem_singleton.mp member]
    rcases tokenizeRule_reasons failed with rfl | rfl <;>
      exact RuleReason.noConfusion
  · simp only [partFaults, List.mem_append] at member
    rcases member with
      header | identification | contents | flow | flags | dsize | cross |
        udp | keyword
    · exact headerFaults_named header
    · exact identificationFaults_named identification
    · exact contentFaults_named contents
    · exact singleFaults_named flowValueFaults_named flow
    · exact singleFaults_named flagsValueFaults_named flags
    · exact singleFaults_named dsizeValueFaults_named dsize
    · exact crossFaults_named cross
    · exact faultIf_named RuleReason.noConfusion udp
    · exact keywordFaults_named keyword

end IntrusionDetection
