import IntrusionDetection.CheckedOptionMatches
import Mathlib.Data.Finset.Image

namespace IntrusionDetection

open PyText CheckedSteps FaultPrecedence

/-!
# The flow, flags and dsize parsers end as the ones without exceptions

What these parsers look up in tables of texts is what the plain parsers read
into enumerations.
-/

open Checked (Parser Construction)

/-! ### Lists of texts -/

/-- Either some text of a list cannot be read, or all of them are read. -/
theorem mapM_cases
    {Item Value : Type}
    {read : Item → Option Value}
    {text : Value → Item}
    (spells : ∀ item value, read item = some value → text value = item)
    (items : List Item) :
    ((∃ item ∈ items, read item = none) ∧ items.mapM read = none) ∨
      (∀ item ∈ items, (read item).isSome) ∧
        ∃ values,
          items.mapM read = some values ∧ values.map text = items := by
  induction items with
  | nil => exact Or.inr ⟨by simp, [], rfl, rfl⟩
  | cons item rest inductionHypothesis =>
      cases isRead : read item with
      | none =>
          refine Or.inl ⟨⟨item, by simp, isRead⟩, ?_⟩
          simp [List.mapM_cons, isRead]
      | some value =>
          rcases inductionHypothesis with
              ⟨⟨other, member, unread⟩, nothing⟩ |
                ⟨all, values, areRead, same⟩
          · refine Or.inl
              ⟨⟨other, List.mem_cons_of_mem _ member, unread⟩, ?_⟩
            simp [List.mapM_cons, isRead, nothing]
          · refine Or.inr ⟨?_, value :: values, ?_, ?_⟩
            · simpa [isRead] using all
            · simp [List.mapM_cons, isRead, areRead]
            · rw [List.map_cons, same, spells item value isRead]

/-- A list with at most one value begins with it as its set does. -/
theorem head?_dedup
    {Value : Type}
    [DecidableEq Value]
    {values : List Value}
    (atMostOne : values.dedup.length ≤ 1) :
    values.dedup.head? = values.head? := by
  cases values with
  | nil => rfl
  | cons value rest =>
      have member : value ∈ (value :: rest).dedup :=
        List.mem_dedup.mpr (List.mem_cons_self ..)
      rcases values : (value :: rest).dedup with
        _ | ⟨first, _ | ⟨second, later⟩⟩
      · rw [values] at member
        cases member
      · rw [values, List.mem_singleton] at member
        rw [member]
        rfl
      · rw [values] at atMostOne
        simp at atMostOne

/-! ### Flow -/

/-- How rules spell a role. -/
def FlowRole.text : FlowRole → Str
  | .toServer => lit "to_server"
  | .toClient => lit "to_client"

/-- How rules spell a state. -/
def FlowStateSpec.text : FlowStateSpec → Str
  | .established => lit "established"
  | .notEstablished => lit "not_established"

/-- The object a flow option is. -/
def FlowSpec.object (spec : FlowSpec) : Checked.FlowSpec where
  role := spec.role.map FlowRole.text
  state := spec.state.map FlowStateSpec.text

/-- A flow option fits into its constructor. -/
theorem FlowSpec.object_accepted (spec : FlowSpec) :
    (Construction.flowSpec spec.object).accepted = true := by
  obtain ⟨role, state⟩ := spec
  rcases role with _ | ⟨_ | _⟩ <;> rcases state with _ | ⟨_ | _⟩ <;>
    decide

/-- Roles are spelled differently. -/
theorem FlowRole.text_injective : Function.Injective FlowRole.text := by
  intro first second
  cases first <;> cases second <;> decide

/-- States are spelled differently. -/
theorem FlowStateSpec.text_injective :
    Function.Injective FlowStateSpec.text := by
  intro first second
  cases first <;> cases second <;> decide

/-- The role an item asks for is looked up in the table. -/
theorem flowRoleOf?_text (item : Word) :
    Checked.flowRoleOf? item.text = (flowRole? item).map FlowRole.text := by
  obtain ⟨text, notEmpty⟩ := item
  by_cases toServer : text = lit "to_server"
  · subst toServer
    rfl
  by_cases fromClient : text = lit "from_client"
  · subst fromClient
    rfl
  by_cases toClient : text = lit "to_client"
  · subst toClient
    rfl
  by_cases fromServer : text = lit "from_server"
  · subst fromServer
    rfl
  simp [Checked.flowRoleOf?, Checked.flowRoles, flowRole?,
    List.lookup_cons, beq_false_of_ne, toServer, fromClient, toClient,
    fromServer]

/-- The state an item asks for is spelled as the item. -/
theorem flowState?_spells
    {item : Word}
    {state : FlowStateSpec}
    (read : flowState? item = some state) :
    state.text = item.text := by
  unfold flowState? at read
  split at read
  · rename_i same
    cases read
    exact same.symm
  · split at read
    · rename_i same
      cases read
      exact same.symm
    · cases read

/-- The states are those of the table. -/
theorem contains_flowStateNames (item : Word) :
    Checked.flowStateNames.contains item.text =
      (flowState? item).isSome := by
  by_cases established : item.text = lit "established"
  · simp [Checked.flowStateNames, flowState?, established]
  by_cases notEstablished : item.text = lit "not_established"
  · simp [Checked.flowStateNames, flowState?, notEstablished]
    split <;> rfl
  simp [Checked.flowStateNames, flowState?, established, notEstablished]

/-- The items of a flow value are the words of its pieces. -/
theorem flowItems?_cases
    {text : Str}
    (notBlank : strip text ≠ []) :
    let items := (PyText.splitAt (codePoint ',') text).map strip
    ([] ∈ items ∧ flowItems? (some text) = none) ∨
      [] ∉ items ∧
        ∃ words,
          flowItems? (some text) = some words ∧
            words.map Word.text = items := by
  have spells :
      ∀ (item : Str) (word : Word), Word.of? item = some word →
        word.text = item := by
    intro item word read
    unfold Word.of? at read
    split at read
    · cases read
      rfl
    · cases read
  have unread : ∀ item : Str, Word.of? item = none ↔ item = [] := by
    intro item
    simp [Word.of?]
  have asMap :
      flowItems? (some text) =
        ((PyText.splitAt (codePoint ',') text).map strip).mapM
          Word.of? := by
    simp only [flowItems?, if_neg notBlank, List.mapM_map]
    rfl
  intro items
  rw [asMap]
  rcases mapM_cases spells items with
    ⟨⟨item, member, isUnread⟩, nothing⟩ | ⟨all, words, read, same⟩
  · rw [(unread item).mp isUnread] at member
    exact Or.inl ⟨member, nothing⟩
  · refine Or.inr ⟨?_, words, read, same⟩
    intro empty
    have isRead := all [] empty
    rw [(unread []).mpr rfl] at isRead
    cases isRead

/-- What the items of a flow value ask for. -/
theorem flowRoles_map (words : List Word) :
    (words.map Word.text).filterMap Checked.flowRoleOf? =
      (words.filterMap flowRole?).map FlowRole.text := by
  rw [List.filterMap_map, List.map_filterMap]
  exact congrFun (congrArg _ (funext flowRoleOf?_text)) words

/-- The states the items of a flow value ask for. -/
theorem flowStates_map (words : List Word) :
    (words.map Word.text).filter Checked.flowStateNames.contains =
      (words.filterMap flowState?).map FlowStateSpec.text := by
  induction words with
  | nil => rfl
  | cons word rest inductionHypothesis =>
      rw [List.map_cons, List.filter_cons, contains_flowStateNames,
        inductionHypothesis, List.filterMap_cons]
      cases read : flowState? word with
      | none => rfl
      | some state => simp [flowState?_spells read]

/-- The words of a flow value. -/
theorem follows_flowWords (words : List Word) :
    FollowsPlain (fun spec made => made = FlowSpec.object spec)
      (let items := words.map Word.text
        let roles := (items.filterMap Checked.flowRoleOf?).dedup
        let states := (items.filter Checked.flowStateNames.contains).dedup
        if 1 < roles.length ∨ 1 < states.length then
          Checked.raise (lit "invalid:conflicting_flow")
        else
          match items.find? fun item =>
              (Checked.flowRoleOf? item).isNone &&
                !Checked.flowStateNames.contains item with
          | some item =>
              Checked.raise (lit "unsupported:flow_option:" ++ item)
          | none =>
              Checked.make .flowSpec {
                role := roles.head?
                state := states.head? })
      (if flowConflict words then
        .error .conflictingFlow
      else
        match words.find? isUnknownFlowItem with
        | some item => .error (.flowOption item)
        | none =>
            .ok {
              role := (words.filterMap flowRole?).head?
              state := (words.filterMap flowState?).head? }) := by
  have sameTest :
      (fun item =>
          (Checked.flowRoleOf? item).isNone &&
            !Checked.flowStateNames.contains item) ∘ Word.text =
        isUnknownFlowItem := by
    funext word
    simp only [Function.comp_apply, flowRoleOf?_text, Option.isNone_map,
      contains_flowStateNames, isUnknownFlowItem, Option.not_isSome]
  simp only [flowRoles_map, flowStates_map,
    List.dedup_map_of_injective FlowRole.text_injective,
    List.dedup_map_of_injective FlowStateSpec.text_injective,
    List.length_map, List.find?_map, sameTest, flowConflict,
    Bool.or_eq_true, decide_eq_true_eq]
  split
  · exact follows_raise .conflictingFlow
  · rename_i once
    rw [not_or, not_lt, not_lt] at once
    cases words.find? isUnknownFlowItem with
    | some word =>
        exact follows_raise_of (by simp only [RuleReason.code])
    | none =>
        rw [List.head?_map, List.head?_map, head?_dedup once.1,
          head?_dedup once.2]
        exact follows_make (FlowSpec.object_accepted {
          role := (words.filterMap flowRole?).head?
          state := (words.filterMap flowState?).head? }) rfl

/-- The value of a flow option. -/
theorem follows_parseFlowValue (value : Option Str) :
    FollowsPlain (fun spec made => made = FlowSpec.object spec)
      (Checked.parseFlowValue value) (parseFlowValue value) := by
  cases value with
  | none => exact follows_badOptionValue rfl
  | some text =>
      simp only [Checked.parseFlowValue, parseFlowValue]
      by_cases blank : strip text = []
      · have nothing : flowItems? (some text) = none := by
          simp [flowItems?, blank]
        rw [if_pos blank, nothing]
        exact follows_badOptionValue rfl
      · rw [if_neg blank]
        rcases flowItems?_cases blank with
          ⟨empty, nothing⟩ | ⟨noneEmpty, words, read, same⟩
        · rw [if_pos empty, nothing]
          exact follows_badOptionValue rfl
        · rw [if_neg noneEmpty, read, ← same]
          exact follows_flowWords words

/-! ### Flags -/

/-- The letter of a TCP flag. -/
def TcpFlag.letter : TcpFlag → CodePoint
  | .s => codePoint 'S'
  | .a => codePoint 'A'
  | .f => codePoint 'F'
  | .r => codePoint 'R'
  | .p => codePoint 'P'
  | .u => codePoint 'U'
  | .c => codePoint 'C'
  | .e => codePoint 'E'

/-- The object a flags option is. -/
def FlagsSpec.object (spec : FlagsSpec) : Checked.FlagsSpec where
  mode := Checked.modeName spec.mode
  flags := spec.flags.image TcpFlag.letter

/-- The letters of the TCP flags are those of the table. -/
theorem TcpFlag.letter_mem (flag : TcpFlag) :
    flag.letter ∈ Checked.tcpFlagNames := by
  cases flag <;> decide

/-- Every letter of the table is that of a flag. -/
theorem TcpFlag.exists_letter
    {char : CodePoint}
    (member : char ∈ Checked.tcpFlagNames) :
    ∃ flag : TcpFlag, flag.letter = char := by
  have names :
      Checked.tcpFlagNames =
        [TcpFlag.s, .a, .f, .r, .p, .u, .c, .e].map TcpFlag.letter :=
    rfl
  rw [names] at member
  obtain ⟨flag, _, isLetter⟩ := List.mem_map.mp member
  exact ⟨flag, isLetter⟩

/-- The letter of a flag is read as the flag. -/
theorem TcpFlag.tcpFlag?_letter (flag : TcpFlag) :
    tcpFlag? flag.letter = some flag := by
  cases flag <;> decide

/-- A letter that is read is the letter of its flag. -/
theorem tcpFlag?_spells
    {char : CodePoint}
    {flag : TcpFlag}
    (read : tcpFlag? char = some flag) :
    flag.letter = char := by
  unfold tcpFlag? at read
  repeat
    split at read
    · rename_i same
      cases read
      exact same.symm
  cases read

/-- The letters of the table are those that are read. -/
theorem contains_tcpFlagNames (char : CodePoint) :
    Checked.tcpFlagNames.contains char = (tcpFlag? char).isSome := by
  rw [Bool.eq_iff_iff, List.contains_iff_mem]
  constructor
  · intro member
    obtain ⟨flag, rfl⟩ := TcpFlag.exists_letter member
    rw [flag.tcpFlag?_letter]
    rfl
  · intro isRead
    obtain ⟨flag, read⟩ := Option.isSome_iff_exists.mp isRead
    rw [← tcpFlag?_spells read]
    exact flag.letter_mem

/-- A flags option fits into its constructor. -/
theorem FlagsSpec.object_accepted (spec : FlagsSpec) :
    (Construction.flagsSpec spec.object).accepted = true := by
  obtain ⟨mode, flags, notEmpty⟩ := spec
  have isMode :
      Checked.flagsModeNames.contains (Checked.modeName mode) = true := by
    cases mode <;> decide
  have known :
      ∀ letter ∈ flags.image TcpFlag.letter,
        letter ∈ Checked.tcpFlagNames := by
    intro letter member
    obtain ⟨flag, _, rfl⟩ := Finset.mem_image.mp member
    exact flag.letter_mem
  have lettersOrExact :
      (flags.image TcpFlag.letter ≠ ∅ ||
          Checked.modeName mode = lit "exact") =
        true := by
    rcases notEmpty with notEmpty | rfl
    · simp [notEmpty]
    · exact Bool.or_eq_true_iff.mpr (Or.inr (decide_eq_true rfl))
  exact Bool.and_eq_true_iff.mpr
    ⟨Bool.and_eq_true_iff.mpr ⟨isMode, decide_eq_true known⟩,
      lettersOrExact⟩

/-- The flags part of a value, before any mask. -/
theorem follows_flagLetters (main : Str) :
    FollowsPlain
      (fun (spec : FlagsSpec) flags =>
        spec.mode = (flagsMode main).1 ∧ flags = spec.object.flags)
      (Checked.flagLetters (flagsMode main).1 (flagsMode main).2)
      (match flagsMain? main with
        | none => .error (.badOptionValue Keyword.flags.word)
        | some spec => .ok spec) := by
  unfold Checked.flagLetters flagsMain?
  rcases flagsMode main with ⟨mode, letters⟩
  simp only
  by_cases noFlag : letters = lit "0"
  · rw [if_pos noFlag, if_pos noFlag]
    cases mode with
    | exact => exact .pure ⟨rfl, rfl⟩
    | _ => exact follows_badOptionValue rfl
  · rw [if_neg noFlag, if_neg noFlag]
    rcases mapM_cases (fun _ _ => tcpFlag?_spells) letters with
      ⟨⟨letter, member, unread⟩, nothing⟩ | ⟨all, flags, read, same⟩
    · have unknown :
          (letters.any fun letter =>
            !Checked.tcpFlagNames.contains letter) = true := by
        refine List.any_eq_true.mpr ⟨letter, member, ?_⟩
        rw [contains_tcpFlagNames, unread]
        rfl
      rw [if_pos (Or.inr unknown), nothing]
      exact follows_badOptionValue rfl
    · have known :
          (letters.any fun letter =>
            !Checked.tcpFlagNames.contains letter) = false := by
        refine List.any_eq_false.mpr fun letter member => ?_
        rw [contains_tcpFlagNames, all letter member]
        decide
      have sameLetters :
          flags.toFinset.image TcpFlag.letter = letters.toFinset := by
        ext char
        rw [← same]
        simp
      rw [read, known]
      cases flags with
      | nil =>
          rw [← same]
          exact follows_badOptionValue rfl
      | cons flag rest =>
          have notEmpty : (flag :: rest).toFinset ≠ ∅ := by simp
          have given : letters ≠ [] := by
            rw [← same]
            simp
          simp only [given, Bool.false_eq_true, or_self, if_false,
            dif_pos notEmpty]
          exact .pure ⟨rfl, sameLetters.symm⟩

/-- The value of a flags option. -/
theorem follows_parseFlagsValue (value : Option Str) :
    FollowsPlain (fun spec made => made = FlagsSpec.object spec)
      (Checked.parseFlagsValue value) (parseFlagsValue value) := by
  cases value with
  | none => exact follows_badOptionValue rfl
  | some text =>
      simp only [Checked.parseFlagsValue, parseFlagsValue]
      obtain ⟨main, mask⟩ := partition (codePoint ',') text
      have masked :
          ∀ (spec : FlagsSpec) (flags : Finset CodePoint),
            spec.mode = (flagsMode main).1 ∧ flags = spec.object.flags →
            FollowsPlain (fun spec made => made = FlagsSpec.object spec)
              (if mask.isSome then
                Checked.raise (lit "unsupported:flags_mask")
              else
                Checked.make .flagsSpec {
                  mode := Checked.modeName (flagsMode main).1
                  flags })
              (match mask with
                | some _ => .error .flagsMask
                | none => .ok spec) := by
        rintro spec _ ⟨mode, rfl⟩
        cases mask with
        | some _ => exact follows_raise .flagsMask
        | none =>
            rw [← mode]
            exact follows_make spec.object_accepted rfl
      have both :=
        (follows_flagLetters main).bind fun spec flags _ stands =>
          masked spec flags stands
      cases read : flagsMain? main <;> rw [read] at both <;> exact both

/-! ### Dsize -/

/-- The object a dsize option is. -/
def DsizeSpec.object (spec : DsizeSpec) : Checked.DsizeSpec where
  op := Checked.opName spec.op
  a := spec.a
  b := spec.b

/-- Only a range is named so. -/
theorem opName_eq_range_iff {op : DsizeOp} :
    Checked.opName op = lit "range" ↔ op = .range := by
  cases op <;> decide

/-- A dsize option fits into its constructor. -/
theorem DsizeSpec.object_accepted (spec : DsizeSpec) :
    (Construction.dsizeSpec spec.object).accepted = true := by
  obtain ⟨op, a, b, nonNegative, allowed⟩ := spec
  have isOp :
      Checked.dsizeOpNames.contains (Checked.opName op) = true := by
    cases op <;> decide
  simp only [Construction.accepted, Checked.DsizeSpec.postInit,
    DsizeSpec.object, isOp, opName_eq_range_iff]
  cases op <;> cases b <;> simp_all

/-- Only a range has a second operand. -/
theorem dsizeParts?_second
    {text a : Str}
    {op : DsizeOp}
    {b : Option Str}
    (parts : dsizeParts? text = some (op, a, b)) :
    b.isSome ↔ op = .range := by
  simp only [dsizeParts?] at parts
  split at parts
  · cases parts
    decide
  split at parts
  · cases parts
    decide
  split at parts
  · cases parts
    decide
  split at parts
  · cases parts
    simp
  · cases parts

/-- The second operand, if it is there. -/
theorem secondOperand_eq (text : Option Str) :
    Checked.secondOperand text =
      pure ((text.bind nonNegativeInt?).map Int.ofNat) := by
  cases text with
  | none => rfl
  | some text => exact nonNegativeInt_eq text

/-- The value of a dsize option. -/
theorem follows_parseDsizeValue (value : Option Str) :
    FollowsPlain (fun spec made => made = DsizeSpec.object spec)
      (Checked.parseDsizeValue value) (parseDsizeValue value) := by
  cases value with
  | none => exact follows_badOptionValue rfl
  | some text =>
      simp only [Checked.parseDsizeValue, parseDsizeValue, Option.bind_some]
      cases parts : dsizeParts? (strip text) with
      | none => exact follows_badOptionValue rfl
      | some operands =>
          obtain ⟨op, a, b⟩ := operands
          have second := dsizeParts?_second parts
          simp only [nonNegativeInt_eq, secondOperand_eq, pure_bind,
            dsizeOf?]
          cases isLower : nonNegativeInt? a with
          | none => exact follows_badOptionValue rfl
          | some lower =>
              cases b with
              | none =>
                  have allowed : op.Allows lower none := by
                    refine ⟨Int.natCast_nonneg lower, ?_⟩
                    cases op <;> simp_all
                  simp only [dif_pos allowed]
                  exact follows_make (DsizeSpec.object_accepted
                    ⟨op, lower, none, allowed⟩) rfl
              | some b =>
                  obtain rfl : op = .range := second.mp rfl
                  simp only [Option.bind_some]
                  cases isUpper : nonNegativeInt? b with
                  | none => exact follows_badOptionValue rfl
                  | some upper =>
                      by_cases inOrder : (lower : Int) ≤ upper
                      · have allowed :
                            DsizeOp.range.Allows lower
                              (some (upper : Int)) :=
                          ⟨Int.natCast_nonneg lower, inOrder⟩
                        have notLess : ¬ (upper : Int) < lower :=
                          not_lt.mpr inOrder
                        simp only [dif_pos allowed, Option.map_some,
                          Option.isSome_some, Option.all_some, true_and,
                          Int.ofNat_eq_natCast, decide_eq_true_eq,
                          if_neg notLess]
                        exact follows_make (DsizeSpec.object_accepted
                          ⟨.range, lower, some upper, allowed⟩) rfl
                      · have notAllowed :
                            ¬ DsizeOp.range.Allows lower
                                (some (upper : Int)) :=
                          fun allowed => inOrder allowed.2
                        have less : (upper : Int) < lower :=
                          not_le.mp inOrder
                        simp only [dif_neg notAllowed, Option.map_some,
                          Option.isSome_some, Option.all_some, true_and,
                          Int.ofNat_eq_natCast, decide_eq_true_eq,
                          if_pos less]
                        exact follows_badOptionValue rfl

/-! ### Options that may be given once -/

/-- An option of the key and one of another key. -/
theorem seenOnce_raw
    {key : Keyword}
    (supported : key ∈ Keyword.supported)
    (found : Option (Option Str))
    {option : OptionPair}
    (isRead : option.key.IsRead) :
    Checked.seenOnce key.word.text found option.raw =
      if option.key = key then
        if found.isSome then
          Checked.raise (lit "invalid:duplicate_option:" ++ key.word.text)
        else
          pure (some option.value)
      else
        pure found := by
  simp only [Checked.seenOnce, OptionPair.raw,
    isRead.text_eq_iff supported]

/-- Once it is found, the option must not come again. -/
theorem follows_foldlM_seenOnce
    {key : Keyword}
    (supported : key ∈ Keyword.supported)
    (value : Option Str)
    (options : List OptionPair)
    (isRead : ∀ option ∈ options, option.key.IsRead) :
    FollowsPlain (fun value made => made = value)
      ((options.map OptionPair.raw).foldlM
        (Checked.seenOnce key.word.text) (some value))
      (match options.filter fun option => option.key = key with
        | [] => .ok (some value)
        | _ :: _ => .error (.duplicateOption key.word)) := by
  induction options with
  | nil => exact .pure rfl
  | cons option rest inductionHypothesis =>
      rw [List.map_cons, List.foldlM_cons,
        seenOnce_raw supported _ (isRead option (List.mem_cons_self ..))]
      by_cases sameKey : option.key = key
      · rw [if_pos sameKey, Option.isSome_some, if_pos rfl, raise_bind,
          List.filter_cons_of_pos (by simpa using sameKey)]
        exact follows_duplicateOption rfl
      · rw [if_neg sameKey, pure_bind,
          List.filter_cons_of_neg (by simpa using sameKey)]
        apply inductionHypothesis
        intro other member
        exact isRead other (List.mem_cons_of_mem _ member)

/-- The option of a key that may be given once. -/
theorem follows_singleOption
    {key : Keyword}
    (supported : key ∈ Keyword.supported)
    (options : List OptionPair)
    (isRead : ∀ option ∈ options, option.key.IsRead) :
    FollowsPlain (fun value made => made = value)
      (Checked.singleOption (options.map OptionPair.raw) key.word.text)
      (singleOption options key) := by
  unfold Checked.singleOption singleOption
  induction options with
  | nil => exact .pure rfl
  | cons option rest inductionHypothesis =>
      have restRead : ∀ option ∈ rest, option.key.IsRead := by
        intro other member
        exact isRead other (List.mem_cons_of_mem _ member)
      rw [List.map_cons, List.foldlM_cons,
        seenOnce_raw supported _ (isRead option (List.mem_cons_self ..))]
      by_cases sameKey : option.key = key
      · have once :=
          follows_foldlM_seenOnce supported option.value rest restRead
        rw [if_pos sameKey, Option.isSome_none, if_neg Bool.false_ne_true,
          pure_bind, List.filter_cons_of_pos (by simpa using sameKey)]
        cases again : rest.filter fun option => option.key = key <;>
          rw [again] at once <;> exact once
      · rw [if_neg sameKey, pure_bind,
          List.filter_cons_of_neg (by simpa using sameKey)]
        exact inductionHypothesis restRead

/-- Its parser. -/
theorem follows_parseSingle
    {Spec Made : Type}
    {object : Spec → Made}
    {key : Keyword}
    (supported : key ∈ Keyword.supported)
    {parse : Option Str → Parser Made}
    {plain : Option Str → Except RuleReason Spec}
    (follows :
      ∀ value,
        FollowsPlain (fun spec made => made = object spec) (parse value)
          (plain value))
    {options : List OptionPair}
    {raws : List Checked.RawOption}
    (read : ReadFrom options raws) :
    FollowsPlain (fun spec made => made = spec.map object)
      (Checked.parseSingle key.word.text parse raws)
      (parseSingle key plain options) := by
  obtain ⟨rfl, isRead⟩ := read
  have single := follows_singleOption supported options isRead
  unfold Checked.parseSingle parseSingle
  cases given : singleOption options key with
  | error reason =>
      rw [given] at single
      exact single.bind_error _
  | ok found =>
      rw [given] at single
      cases found with
      | none =>
          apply single.bind_ok
          rintro _ rfl
          exact .pure rfl
      | some value =>
          apply single.bind_ok
          rintro _ rfl
          refine (follows value).map ?_
          rintro spec _ _ rfl
          rfl

/-- The flow option. -/
theorem follows_parseFlow
    {options : List OptionPair}
    {raws : List Checked.RawOption}
    (read : ReadFrom options raws) :
    FollowsPlain (fun spec made => made = spec.map FlowSpec.object)
      (Checked.parseFlow raws) (parseFlow options) :=
  @follows_parseSingle _ _ _ .flow (by decide) _ _ follows_parseFlowValue _ _
    read

/-- The flags option. -/
theorem follows_parseFlags
    {options : List OptionPair}
    {raws : List Checked.RawOption}
    (read : ReadFrom options raws) :
    FollowsPlain (fun spec made => made = spec.map FlagsSpec.object)
      (Checked.parseFlags raws) (parseFlags options) :=
  @follows_parseSingle _ _ _ .flags (by decide) _ _ follows_parseFlagsValue _ _
    read

/-- The dsize option. -/
theorem follows_parseDsize
    {options : List OptionPair}
    {raws : List Checked.RawOption}
    (read : ReadFrom options raws) :
    FollowsPlain (fun spec made => made = spec.map DsizeSpec.object)
      (Checked.parseDsize raws) (parseDsize options) :=
  @follows_parseSingle _ _ _ .dsize (by decide) _ _ follows_parseDsizeValue _ _
    read

end IntrusionDetection
