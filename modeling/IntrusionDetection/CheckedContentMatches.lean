import IntrusionDetection.CheckedOptionMatches

namespace IntrusionDetection

open PyText CheckedSteps FaultPrecedence

/-!
# The content parser ends as the one without exceptions

The contents of a rule are built from keyword arguments; what they make is the
content that the plain parser has built step by step.
-/

open Checked (Parser Construction)

/-- The object a content is. -/
def ContentSpec.object (content : ContentSpec) : Checked.ContentSpec where
  raw := content.raw
  pattern := content.pattern
  nocase := content.nocase
  offset := content.offset
  depth := content.depth
  distance := content.distance
  within := content.within

/-- A content fits into its constructor. -/
theorem ContentSpec.object_accepted (content : ContentSpec) :
    (Construction.contentSpec content.object).accepted = true :=
  decide_eq_true (List.length_pos_iff.mpr content.patternNotEmpty)

/-- The pattern of a content must not be empty. -/
theorem follows_pattern (raw : Str) (pattern : Bytes) :
    FollowsPlain
      (fun decoded made =>
        made = (DecodedContent.raw decoded, decoded.pattern))
      (if pattern = [] then
        Checked.badContent
      else
        pure (raw, pattern))
      (contentScan
        (if patternNotEmpty : pattern ≠ [] then
          some { raw, pattern, patternNotEmpty }
        else
          none)) := by
  by_cases empty : pattern = []
  · rw [if_pos empty, dif_neg (not_not.mpr empty)]
    exact follows_badContent
  · rw [if_neg empty, dif_pos empty]
    exact .pure rfl

/-- The value of a content option. -/
theorem follows_decodeContent (value : Option Str) :
    FollowsPlain
      (fun decoded made =>
        made = (DecodedContent.raw decoded, decoded.pattern))
      (Checked.decodeContent value) (decodeContent value) := by
  unfold Checked.decodeContent decodeContent decodeQuoted?
  split
  · exact follows_raise .contentNegation
  · cases value.bind betweenQuotes? with
    | none => exact follows_badContent
    | some raw =>
        have decoded :
            FollowsPlain
              (fun decoded made =>
                made = (DecodedContent.raw decoded, decoded.pattern))
              (Checked.scanContent none [] raw >>= fun out =>
                if out = [] then Checked.badContent else pure (raw, out))
              (contentScan (scanContent none [] raw) >>= fun pattern =>
                contentScan
                  (if patternNotEmpty : pattern ≠ [] then
                    some { raw, pattern, patternNotEmpty }
                  else
                    none)) := by
          refine ((follows_scanContent raw).1 []).bind ?_
          rintro pattern _ _ rfl
          exact follows_pattern raw _
        simp only
        cases scanned : scanContent none [] raw with
        | none =>
            rw [scanned] at decoded
            exact decoded
        | some pattern =>
            rw [scanned] at decoded
            cases pattern <;> exact decoded

/-! ### Modifiers -/

/-- Content modifiers that are spelled alike are the same. -/
theorem ContentModifier.text_eq_iff {modifier other : ContentModifier} :
    modifier.word.text = other.word.text ↔ modifier = other := by
  have supported :
      ∀ modifier : ContentModifier,
        Keyword.modifier modifier ∈ Keyword.supported := by
    intro modifier
    cases modifier <;> decide
  have isRead : (Keyword.modifier modifier).IsRead :=
    (Keyword.ofWord_of_supported (supported modifier)).symm
  have same := isRead.text_eq_iff (supported other)
  rw [Keyword.modifier.injEq] at same
  exact same

/-- A modifier value, or the fault that names the modifier. -/
def modifierScan (modifier : ContentModifier) (value : Option Str) :
    Except RuleReason ModifierValue :=
  match modifierValue? modifier value with
  | none => .error (.badOptionValue modifier.word)
  | some value => .ok value

/-- What is scanned is the value. -/
theorem modifierValue?_of_scan
    {modifier : ContentModifier}
    {text : Option Str}
    {value : ModifierValue}
    (scanned : modifierScan modifier text = .ok value) :
    modifierValue? modifier text = some value := by
  unfold modifierScan at scanned
  split at scanned
  · cases scanned
  · rename_i read
    cases scanned
    exact read

/-- The value of a content modifier. -/
theorem follows_modifierValue
    (modifier : ContentModifier)
    (value : Option Str) :
    FollowsPlain (fun value made => made = value)
      (Checked.modifierValue modifier.word.text value)
      (modifierScan modifier value) := by
  have isNocase :
      modifier.word.text = lit "nocase" ↔ modifier = .nocase :=
    @ContentModifier.text_eq_iff modifier .nocase
  have isDistance :
      modifier.word.text = lit "distance" ↔ modifier = .distance :=
    @ContentModifier.text_eq_iff modifier .distance
  have isWithin :
      modifier.word.text = lit "within" ↔ modifier = .within :=
    @ContentModifier.text_eq_iff modifier .within
  unfold Checked.modifierValue modifierScan modifierValue?
  simp only [nonNegativeInt_eq, pure_bind, isNocase, isDistance, isWithin]
  cases value with
  | none =>
      cases modifier with
      | nocase => exact .pure rfl
      | _ => exact follows_badOptionValue rfl
  | some text =>
      cases modifier with
      | nocase => exact follows_badOptionValue rfl
      | distance =>
          by_cases negative : startsWith (lit "-") text = true
          · cases read : nonNegativeInt? text.tail with
            | none => simpa [negative, read] using follows_badOptionValue rfl
            | some number => simpa [negative, read] using .pure rfl
          · cases read : nonNegativeInt? text with
            | none => simpa [negative, read] using follows_badOptionValue rfl
            | some number => simpa [negative, read] using .pure rfl
      | within =>
          cases read : nonNegativeInt? text with
          | none => simpa [read] using follows_badOptionValue rfl
          | some number =>
              have sameBound : (number : Int) < 1 ↔ ¬ 1 ≤ number := by
                omega
              by_cases positive : 1 ≤ number
              · simpa [read, sameBound, positive, Option.filter_some]
                  using .pure rfl
              · simpa [read, sameBound, positive, Option.filter_some]
                  using follows_badOptionValue rfl
      | offset =>
          cases read : nonNegativeInt? text with
          | none => simpa [read] using follows_badOptionValue rfl
          | some number => simpa [read] using .pure rfl
      | depth =>
          cases read : nonNegativeInt? text with
          | none => simpa [read] using follows_badOptionValue rfl
          | some number => simpa [read] using .pure rfl

/-- Only `nocase` has no number. -/
theorem modifierValue?_isFlag
    {modifier : ContentModifier}
    {text : Option Str}
    {value : ModifierValue}
    (read : modifierValue? modifier text = some value) :
    match value with
    | .flag => modifier = .nocase
    | .number _ => modifier ≠ .nocase := by
  cases value with
  | flag =>
      cases modifier <;> cases text <;>
        simp [modifierValue?, Option.bind_eq_some_iff] at read ⊢
      split at read <;> simp [Option.bind_eq_some_iff] at read
  | number number =>
      rintro rfl
      cases text <;> simp [modifierValue?] at read

/-- A modifier sets the keyword argument it is named after. -/
theorem setKeyword_object
    {modifier : ContentModifier}
    {text : Option Str}
    {value : ModifierValue}
    (read : modifierValue? modifier text = some value)
    (content : ContentSpec) :
    content.object.setKeyword modifier.word.text value =
      some (content.setModifier modifier value).object := by
  have isNocase :
      modifier.word.text = lit "nocase" ↔ modifier = .nocase :=
    @ContentModifier.text_eq_iff modifier .nocase
  have isOffset :
      modifier.word.text = lit "offset" ↔ modifier = .offset :=
    @ContentModifier.text_eq_iff modifier .offset
  have isDepth : modifier.word.text = lit "depth" ↔ modifier = .depth :=
    @ContentModifier.text_eq_iff modifier .depth
  have isDistance :
      modifier.word.text = lit "distance" ↔ modifier = .distance :=
    @ContentModifier.text_eq_iff modifier .distance
  have isWithin :
      modifier.word.text = lit "within" ↔ modifier = .within :=
    @ContentModifier.text_eq_iff modifier .within
  have kind := modifierValue?_isFlag read
  unfold Checked.ContentSpec.setKeyword
  cases value with
  | flag =>
      obtain rfl : modifier = .nocase := kind
      rfl
  | number number =>
      simp only [isOffset, isDepth, isDistance, isWithin]
      cases modifier with
      | nocase => exact (kind rfl).elim
      | _ => rfl

/-! ### The loop -/

/-- The content being built stands for its keyword arguments. -/
structure OpenContent.Stands
    (current : OpenContent)
    (made : Checked.OpenContent) : Prop where
  content :
    made.mods.foldlM
        (fun content item => content.setKeyword item.1 item.2)
        made.bare =
      some current.content.object
  seen : made.seen = current.seen.map fun modifier => modifier.word.text

/-- The variables of the loop that its state stands for. -/
structure ContentsState.Stands
    (state : ContentsState)
    (made : Checked.ContentsState) : Prop where
  contents : made.contents = state.contents.map ContentSpec.object
  current : Option.Rel OpenContent.Stands state.current made.current
  unsupported : made.unsupported = state.unsupported.map RuleReason.code

/-- Closing the content being built. -/
theorem follows_close
    {state : ContentsState}
    {made : Checked.ContentsState}
    (stands : state.Stands made) :
    FollowsPlain (fun contents made => made = contents.map ContentSpec.object)
      made.close (.ok state.close) := by
  obtain ⟨contents, current, unsupported⟩ := state
  obtain ⟨madeContents, madeCurrent, madeUnsupported⟩ := made
  obtain ⟨rfl, related, _⟩ := stands
  unfold Checked.ContentsState.close ContentsState.close
  cases related with
  | none => exact .pure (by simp)
  | @some current made isStanding =>
      have created :
          FollowsPlain (fun content made => made = ContentSpec.object content)
            made.create (.ok current.content) := by
        unfold Checked.OpenContent.create
        rw [isStanding.content]
        exact follows_make current.content.object_accepted rfl
      have closed :
          FollowsPlain (fun contents made => made = contents.map ContentSpec.object)
            (made.create >>= fun content =>
              pure (contents.map ContentSpec.object ++ [content]))
            ((Except.ok current.content).map fun content =>
              contents ++ [content]) := by
        refine created.map ?_
        rintro content _ _ rfl
        simp
      exact closed

/-- One modifier of the content being built. -/
theorem OpenContent.Stands.modify
    {current : OpenContent}
    {made : Checked.OpenContent}
    (stands : current.Stands made)
    {modifier : ContentModifier}
    {text : Option Str}
    {value : ModifierValue}
    (read : modifierValue? modifier text = some value) :
    OpenContent.Stands
      { content := current.content.setModifier modifier value
        seen := current.seen ++ [modifier] }
      { made with
        mods := made.mods ++ [(modifier.word.text, value)]
        seen := made.seen ++ [modifier.word.text] } where
  content := by
    rw [List.foldlM_append]
    exact (congrArg (· >>= _) stands.content).trans
      (by simpa using setKeyword_object read current.content)
  seen := by simp [stands.seen]

/-- A content option without exceptions, negated or not. -/
def contentValue (value : Option Str) (unsupported : Option RuleReason) :
    Except RuleReason (DecodedContent × Option RuleReason) :=
  match decodeContent value with
  | .ok decoded => .ok (decoded, unsupported)
  | .error reason =>
      if reason = .contentNegation then
        (decodeContent (value.map List.tail)).map fun decoded =>
          (decoded, unsupported.or (some reason))
      else
        .error reason

/-- A content option fails in one of two ways. -/
theorem decodeContent_error
    {value : Option Str}
    {reason : RuleReason}
    (failed : decodeContent value = .error reason) :
    (reason = .contentNegation ∧ ∃ text, value = some text) ∨
      reason = badContent := by
  unfold decodeContent at failed
  split at failed
  · rename_i negated
    cases failed
    cases value with
    | none => simp [isNegated] at negated
    | some text => exact Or.inl ⟨rfl, text, rfl⟩
  · split at failed
    · cases failed
      exact Or.inr rfl
    · cases failed

/-- What a decoded content and its reason stand for. -/
def ValueStands
    (value : DecodedContent × Option RuleReason)
    (made : (Str × Bytes) × Option Str) : Prop :=
  made.1 = (value.1.raw, value.1.pattern) ∧
    made.2 = value.2.map RuleReason.code

/-- A content option. -/
theorem follows_contentValue
    (value : Option Str)
    (unsupported : Option RuleReason) :
    FollowsPlain ValueStands
      (Checked.contentValue value (unsupported.map RuleReason.code))
      (contentValue value unsupported) := by
  have body :
      FollowsPlain ValueStands
        (Checked.decodeContent value >>= fun decoded =>
          pure (decoded, unsupported.map RuleReason.code))
        ((decodeContent value).map fun decoded =>
          (decoded, unsupported)) := by
    refine (follows_decodeContent value).map ?_
    rintro decoded _ _ rfl
    exact ⟨rfl, rfl⟩
  unfold Checked.contentValue contentValue
  refine body.tryCatch ?_ ?_
  · intro decoded isDecoded
    cases outcome : decodeContent value with
    | ok value =>
        rw [outcome] at isDecoded
        exact isDecoded
    | error reason =>
        rw [outcome] at isDecoded
        cases isDecoded
  · intro reason isReason
    cases outcome : decodeContent value with
    | ok value =>
        rw [outcome] at isReason
        cases isReason
    | error reason' =>
        rw [outcome] at isReason
        cases isReason
        rcases decodeContent_error outcome with ⟨rfl, text, rfl⟩ | rfl
        · have negated :
              FollowsPlain ValueStands
                (Checked.decodeContent (some text.tail) >>= fun decoded =>
                  pure (decoded,
                    (unsupported.map RuleReason.code).or
                      (some RuleReason.contentNegation.code)))
                ((decodeContent (some text.tail)).map fun decoded =>
                  (decoded, unsupported.or (some .contentNegation))) := by
            refine (follows_decodeContent (some text.tail)).map ?_
            rintro decoded _ _ rfl
            exact ⟨rfl, by cases unsupported <;> rfl⟩
          exact negated
        · have otherFault :
              badContent.code ≠ lit "unsupported:content_negation" := by
            decide
          simp only [RuleReason.raised, if_pos otherFault]
          exact .throw badContent

/-- A new content has no modifiers yet. -/
theorem DecodedContent.stands_open (decoded : DecodedContent) :
    OpenContent.Stands decoded.open
      { raw := decoded.raw
        pattern := decoded.pattern
        mods := []
        seen := [] } where
  content := rfl
  seen := rfl

/-- The loop body of `parse_contents_full` on a content. -/
theorem contentsOption_of_content
    (state : ContentsState)
    (value : Option Str) :
    contentsOption state { key := .content, value } =
      (contentValue value state.unsupported).map fun decoded =>
        { contents := state.close
          current := some decoded.1.open
          unsupported := decoded.2 } := by
  simp only [contentsOption, contentValue]
  cases decodeContent value with
  | ok decoded => rfl
  | error reason =>
      simp only
      split
      · cases decodeContent (value.map List.tail) <;> rfl
      · rfl

/-- A content option closes the content before it and opens another one. -/
theorem follows_content
    {state : ContentsState}
    {made : Checked.ContentsState}
    (stands : state.Stands made)
    (value : Option Str) :
    FollowsPlain ContentsState.Stands
      (do
        let contents ← made.close
        let value ← Checked.contentValue value made.unsupported
        return {
          contents
          current := some {
            raw := value.1.1
            pattern := value.1.2
            mods := []
            seen := [] }
          unsupported := value.2 })
      ((contentValue value state.unsupported).map fun decoded =>
        { contents := state.close
          current := some decoded.1.open
          unsupported := decoded.2 }) := by
  have closed :
      FollowsPlain ContentsState.Stands
        (do
          let contents ← made.close
          let value ← Checked.contentValue value made.unsupported
          return {
            contents
            current := some {
              raw := value.1.1
              pattern := value.1.2
              mods := []
              seen := [] }
            unsupported := value.2 })
        (Except.ok state.close >>= fun contents =>
          (contentValue value state.unsupported).map fun decoded =>
            { contents
              current := some decoded.1.open
              unsupported := decoded.2 }) := by
    refine (follows_close stands).bind ?_
    rintro contents _ _ rfl
    rw [stands.unsupported]
    refine (follows_contentValue value state.unsupported).map ?_
    rintro decoded ⟨_, unsupported⟩ _ ⟨rfl, sameReason⟩
    exact ⟨rfl, .some decoded.1.stands_open, sameReason⟩
  exact closed

/-- A modifier option of the content being built. -/
theorem follows_modifier
    {current : OpenContent}
    {made : Checked.OpenContent}
    (stands : current.Stands made)
    (modifier : ContentModifier)
    (value : Option Str) :
    FollowsPlain OpenContent.Stands
      (made.modify modifier.word.text value)
      (if modifier ∈ current.seen then
        .error (.duplicateOption modifier.word)
      else
        (modifierScan modifier value).map fun value =>
          { content := current.content.setModifier modifier value
            seen := current.seen ++ [modifier] }) := by
  have given :
      made.seen.contains modifier.word.text = true ↔
        modifier ∈ current.seen := by
    rw [stands.seen, List.contains_iff_mem]
    exact List.mem_map_of_injective fun _ _ same =>
      ContentModifier.text_eq_iff.mp same
  unfold Checked.OpenContent.modify
  simp only [given]
  split
  · exact follows_duplicateOption rfl
  · refine (follows_modifierValue modifier value).map ?_
    rintro number _ isNumber rfl
    exact stands.modify (modifierValue?_of_scan isNumber)

/-- The loop body of `parse_contents_full` on a modifier of a content. -/
theorem contentsOption_of_modifier
    (contents : List ContentSpec)
    (current : OpenContent)
    (unsupported : Option RuleReason)
    (modifier : ContentModifier)
    (value : Option Str) :
    contentsOption { contents, current := some current, unsupported }
        { key := .modifier modifier, value } =
      (if modifier ∈ current.seen then
        .error (.duplicateOption modifier.word)
      else
        (modifierScan modifier value).map fun value =>
          { content := current.content.setModifier modifier value
            seen := current.seen ++ [modifier] }).map fun current =>
        { contents, current := some current, unsupported } := by
  simp only [contentsOption, modifierScan]
  split
  · rfl
  · cases modifierValue? modifier value <;> rfl

/-- The loop body of `parse_contents_full`. -/
theorem follows_contentsOption
    {state : ContentsState}
    {made : Checked.ContentsState}
    (stands : state.Stands made)
    {option : OptionPair}
    (isRead : option.key.IsRead) :
    FollowsPlain ContentsState.Stands
      (Checked.contentsOption made option.raw)
      (contentsOption state option) := by
  obtain ⟨key, value⟩ := option
  have isContent : key.word.text = lit "content" ↔ key = .content :=
    @Keyword.IsRead.text_eq_iff key .content isRead (by decide)
  have isModifier :
      Checked.contentModifiers.contains key.word.text = key.isModifier :=
    isRead.contains_modifier
  change
    FollowsPlain ContentsState.Stands
      (Checked.contentsOption made (key.word.text, value))
      (contentsOption state { key, value })
  simp only [Checked.contentsOption, isContent, isModifier]
  cases key with
  | content =>
      rw [contentsOption_of_content, if_pos rfl]
      exact follows_content stands value
  | modifier modifier =>
      obtain ⟨contents, current, unsupported⟩ := state
      obtain ⟨madeContents, madeCurrent, madeUnsupported⟩ := made
      obtain ⟨sameContents, related, sameReason⟩ := stands
      cases related with
      | none => exact follows_raise .modifierWithoutContent
      | @some current made isStanding =>
          rw [contentsOption_of_modifier]
          have changed :=
            (follows_modifier isStanding modifier value).map
              fun current made _ stands =>
                show ContentsState.Stands
                    { contents, current := some current, unsupported }
                    { contents := madeContents
                      current := some made
                      unsupported := madeUnsupported } from
                  ⟨sameContents, .some stands, sameReason⟩
          exact changed
  | _ => exact .pure stands

/-- The contents of a rule. -/
theorem follows_parseContentsFull
    {options : List OptionPair}
    {raws : List Checked.RawOption}
    (read : ReadFrom options raws) :
    FollowsPlain
      (fun parsed made =>
        made =
          (parsed.1.map ContentSpec.object,
            parsed.2.map RuleReason.code))
      (Checked.parseContentsFull raws) (parseContentsFull options) := by
  obtain ⟨rfl, isRead⟩ := read
  have initially :
      ContentsState.Stands
        { contents := [], current := none, unsupported := none }
        { contents := [], current := none, unsupported := none } :=
    ⟨rfl, .none, rfl⟩
  have loop :=
    Matches.foldlM options
      (fun state made option member stands =>
        follows_contentsOption stands (isRead option member)) initially
  have closed :
      FollowsPlain
        (fun (parsed : List ContentSpec × Option RuleReason) made =>
          made =
            (parsed.1.map ContentSpec.object,
              parsed.2.map RuleReason.code))
        (Checked.parseContentsFull (options.map OptionPair.raw))
        (options.foldlM contentsOption
            { contents := [], current := none, unsupported := none } >>=
          fun state => .ok (state.close, state.unsupported)) := by
    refine loop.bind ?_
    intro state made _ stands
    rw [stands.unsupported]
    have ended :
        FollowsPlain
          (fun (parsed : List ContentSpec × Option RuleReason) made =>
            made =
              (parsed.1.map ContentSpec.object,
                parsed.2.map RuleReason.code))
          (made.close >>= fun contents =>
            pure (contents, state.unsupported.map RuleReason.code))
          ((Except.ok state.close).map fun contents =>
            (contents, state.unsupported)) := by
      refine (follows_close stands).map ?_
      rintro contents _ _ rfl
      rfl
    exact ended
  simp only [parseContentsFull]
  cases outcome :
      options.foldlM contentsOption
        { contents := [], current := none, unsupported := none } <;>
    rw [outcome] at closed <;> exact closed

end IntrusionDetection
