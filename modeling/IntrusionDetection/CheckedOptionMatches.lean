import IntrusionDetection.CheckedHeaderMatches
import IntrusionDetection.CheckedOptionParser

namespace IntrusionDetection

open PyText CheckedSteps FaultPrecedence

/-!
# The option parsers end as the ones without exceptions

Keywords stand for the keys they are read from, and the specifications of the
options for the objects their constructors accept.
-/

open Checked (Parser Construction)

/-! ### Keys -/

/-- Only a supported keyword is read from a supported key. -/
theorem Keyword.ofWord_of_supported
    {known : Keyword}
    (member : known ∈ Keyword.supported) :
    Keyword.ofWord known.word = known := by
  revert known
  decide

/-- A key that is read is one of the supported ones if it is spelled so. -/
theorem Keyword.IsRead.text_eq_iff
    {key known : Keyword}
    (isRead : key.IsRead)
    (member : known ∈ Keyword.supported) :
    key.word.text = known.word.text ↔ key = known := by
  constructor
  · intro sameText
    have sameWord : key.word = known.word := by
      cases wordIs : key.word
      cases knownIs : known.word
      rw [wordIs, knownIs] at sameText
      cases sameText
      rfl
    rw [isRead, sameWord, Keyword.ofWord_of_supported member]
  · rintro rfl
    rfl

/-- The supported keys are those the supported keywords are read from. -/
theorem supportedKeywords_eq :
    Checked.supportedKeywords =
      Keyword.supported.map fun keyword => keyword.word.text :=
  rfl

/-- Any other key is in no table of supported keys. -/
theorem Keyword.IsRead.contains_other
    {key : Word}
    (isRead : (Keyword.other key).IsRead)
    {table : List Str}
    (known : ∀ text ∈ table, text ∈ Checked.supportedKeywords) :
    table.contains key.text = false := by
  refine Bool.eq_false_iff.mpr fun contained => ?_
  have member := known _ (List.contains_iff_mem.mp contained)
  rw [supportedKeywords_eq, List.mem_map] at member
  obtain ⟨keyword, isSupported, sameText⟩ := member
  have same := (isRead.text_eq_iff isSupported).mp sameText.symm
  rw [← same] at isSupported
  simp [Keyword.supported] at isSupported

/-- A key that is read is in a table if its keyword is of that sort. -/
theorem Keyword.IsRead.contains_eq
    {key : Keyword}
    (isRead : key.IsRead)
    {table : List Str}
    {sort : Keyword → Bool}
    (known : ∀ text ∈ table, text ∈ Checked.supportedKeywords)
    (agree :
      ∀ keyword ∈ Keyword.supported,
        table.contains keyword.word.text = sort keyword)
    (others : ∀ word, sort (.other word) = false) :
    table.contains key.word.text = sort key := by
  cases key with
  | other word =>
      rw [others]
      exact isRead.contains_other known
  | identification keyword => exact agree _ (by cases keyword <;> decide)
  | passive keyword => exact agree _ (by cases keyword <;> decide)
  | modifier keyword => exact agree _ (by cases keyword <;> decide)
  | _ => exact agree _ (by decide)

/-- Is the option only stored? -/
def Keyword.isPassive : Keyword → Bool
  | .passive _ => true
  | _ => false

/-- Does the option identify the rule? -/
def Keyword.isIdentification : Keyword → Bool
  | .identification _ => true
  | _ => false

/-- Does the option modify a content? -/
def Keyword.isModifier : Keyword → Bool
  | .modifier _ => true
  | _ => false

/-- Is the option supported at all? -/
def Keyword.isSupported : Keyword → Bool
  | .other _ => false
  | _ => true

/-- The table of the options that are only stored. -/
theorem Keyword.IsRead.contains_passive
    {key : Keyword}
    (isRead : key.IsRead) :
    Checked.passiveKeywords.contains key.word.text = key.isPassive :=
  isRead.contains_eq (by decide) (by decide) fun _ => rfl

/-- The table of the identification options. -/
theorem Keyword.IsRead.contains_identification
    {key : Keyword}
    (isRead : key.IsRead) :
    Checked.identificationKeywords.contains key.word.text =
      key.isIdentification :=
  isRead.contains_eq (by decide) (by decide) fun _ => rfl

/-- The table of the content modifiers. -/
theorem Keyword.IsRead.contains_modifier
    {key : Keyword}
    (isRead : key.IsRead) :
    Checked.contentModifiers.contains key.word.text = key.isModifier :=
  isRead.contains_eq (by decide) (by decide) fun _ => rfl

/-- The table of all supported options. -/
theorem Keyword.IsRead.contains_supported
    {key : Keyword}
    (isRead : key.IsRead) :
    Checked.supportedKeywords.contains key.word.text = key.isSupported :=
  isRead.contains_eq (fun _ member => member) (by decide) fun _ => rfl

/-- The fault of a bad value names the option. -/
theorem follows_badOptionValue
    {Value Made : Type}
    {Stands : Value → Made → Prop}
    {word : Word}
    {key : Str}
    (isKey : word.text = key) :
    FollowsPlain Stands (Checked.badOptionValue key)
      (.error (.badOptionValue word)) := by
  subst isKey
  exact follows_raise_of (by simp only [RuleReason.code])

/-- The fault of a repeated option names it too. -/
theorem follows_duplicateOption
    {Value Made : Type}
    {Stands : Value → Made → Prop}
    {word : Word}
    {key : Str}
    (isKey : word.text = key) :
    FollowsPlain Stands
      (Checked.raise (lit "invalid:duplicate_option:" ++ key))
      (.error (.duplicateOption word)) := by
  subst isKey
  exact follows_raise_of (by simp only [RuleReason.code])

/-! ### Numbers -/

/-- A number, or `None` in the place of the `ValueError` of `int`. -/
theorem nonNegativeInt_eq (text : Str) :
    Checked.nonNegativeInt text =
      pure ((nonNegativeInt? text).map Int.ofNat) := by
  unfold Checked.nonNegativeInt nonNegativeInt? Checked.int
  cases isAsciiDigits text with
  | false => rfl
  | true =>
      cases intOfDigits? text with
      | none => rfl
      | some number =>
          by_cases small : number ≤ maxOptionInt <;>
            simp [Option.filter_some, small]

/-- A positive number, or `None`. -/
theorem positiveInt_eq (text : Option Str) :
    Checked.positiveInt text = pure ((positiveInt? text).map Int.ofNat) := by
  unfold Checked.positiveInt positiveInt?
  cases text with
  | none => rfl
  | some text =>
      simp only [nonNegativeInt?, Checked.int]
      cases isAsciiDigits text with
      | false => rfl
      | true =>
          cases intOfDigits? text with
          | none => rfl
          | some number =>
              have sameBound : (1 : Int) ≤ number ↔ 1 ≤ number := by
                omega
              by_cases small : number ≤ maxOptionInt <;>
                by_cases positive : 1 ≤ number <;>
                simp [Option.filter_some, small, positive, sameBound]

/-! ### Identification -/

/-- The object an identification is. -/
def Identification.object (ident : Identification) :
    Checked.Identification where
  msg := ident.msg
  sid := ident.sid
  rev := ident.rev
  classtype := ident.classtype
  priority := ident.priority
  passiveOptions := ident.passiveOptions

/-- The variables of the loop that its state stands for. -/
def IdentState.object (state : IdentState) : Checked.IdentState where
  seen := state.seen.map fun keyword => keyword.word.text
  msg := state.msg
  sid := state.sid.map Int.ofNat
  rev := state.rev
  classtype := state.classtype
  priority := state.priority
  passive := state.passive

/-- Identification keywords that are spelled alike are the same. -/
theorem IdentKeyword.text_eq_iff {keyword other : IdentKeyword} :
    keyword.word.text = other.word.text ↔ keyword = other := by
  have supported :
      ∀ keyword : IdentKeyword,
        Keyword.identification keyword ∈ Keyword.supported := by
    intro keyword
    cases keyword <;> decide
  have isRead : (Keyword.identification keyword).IsRead :=
    (Keyword.ofWord_of_supported (supported keyword)).symm
  have same := isRead.text_eq_iff (supported other)
  rw [Keyword.identification.injEq] at same
  exact same

/-- The value of an identification option. -/
theorem follows_identValue
    (state : IdentState)
    (keyword : IdentKeyword)
    (value : Option Str) :
    FollowsPlain (fun state made => made = IdentState.object state)
      (Checked.identValue state.object keyword.word.text value)
      (identValue state keyword value) := by
  have isMsg : keyword.word.text = lit "msg" ↔ keyword = .msg :=
    @IdentKeyword.text_eq_iff keyword .msg
  have isSid : keyword.word.text = lit "sid" ↔ keyword = .sid :=
    @IdentKeyword.text_eq_iff keyword .sid
  have isRev : keyword.word.text = lit "rev" ↔ keyword = .rev :=
    @IdentKeyword.text_eq_iff keyword .rev
  have isPriority :
      keyword.word.text = lit "priority" ↔ keyword = .priority :=
    @IdentKeyword.text_eq_iff keyword .priority
  unfold Checked.identValue identValue
  simp only [positiveInt_eq, pure_bind, isMsg, isSid, isRev, isPriority]
  cases keyword with
  | msg =>
      cases unquoteString value with
      | none => exact follows_raise .missingMsg
      | some msg => exact .pure rfl
  | sid =>
      cases positiveInt? value with
      | none => exact follows_raise .badSid
      | some sid => exact .pure rfl
  | rev =>
      cases positiveInt? value with
      | none => exact follows_badOptionValue rfl
      | some rev => exact .pure rfl
  | priority =>
      cases positiveInt? value with
      | none => exact follows_badOptionValue rfl
      | some priority => exact .pure rfl
  | classtype =>
      cases classtype? value with
      | none => exact follows_badOptionValue rfl
      | some name => exact .pure rfl

/-- The loop body of `parse_identification`. -/
theorem follows_identOption
    (state : IdentState)
    {option : OptionPair}
    (isRead : option.key.IsRead) :
    FollowsPlain (fun state made => made = IdentState.object state)
      (Checked.identOption state.object option.raw)
      (identOption state option) := by
  obtain ⟨key, value⟩ := option
  unfold Checked.identOption identOption
  simp only [OptionPair.raw, isRead.contains_passive,
    isRead.contains_identification]
  cases key with
  | passive keyword => exact .pure rfl
  | identification keyword =>
      have seen :
          state.object.seen.contains keyword.word.text = true ↔
            keyword ∈ state.seen := by
        simp only [IdentState.object, List.contains_iff_mem]
        exact List.mem_map_of_injective fun _ _ same =>
          IdentKeyword.text_eq_iff.mp same
      simp only [Keyword.isPassive, Keyword.isIdentification,
        Keyword.word, seen, Bool.not_true, Bool.false_eq_true, if_false]
      split
      · exact follows_duplicateOption rfl
      · have same :
            IdentState.object
                { state with seen := state.seen ++ [keyword] } =
              { state.object with
                seen := state.object.seen ++ [keyword.word.text] } := by
          simp [IdentState.object]
        rw [← same]
        exact follows_identValue _ keyword value
  | _ => exact .pure rfl

/-- The identification of a rule. -/
theorem follows_parseIdentification
    {options : List OptionPair}
    {raws : List Checked.RawOption}
    (read : ReadFrom options raws)
    (defaultPriority : Int) :
    FollowsPlain (fun ident made => made = Identification.object ident)
      (Checked.parseIdentification raws defaultPriority)
      (parseIdentification options defaultPriority) := by
  obtain ⟨rfl, isRead⟩ := read
  have loop :
      ∀ state : IdentState,
        FollowsPlain (fun state made => made = IdentState.object state)
          ((options.map OptionPair.raw).foldlM Checked.identOption
            state.object)
          (options.foldlM identOption state) := by
    intro state
    refine Matches.foldlM options ?_ rfl
    rintro state _ option member rfl
    exact follows_identOption state (isRead option member)
  refine
    (loop
      { seen := []
        msg := none
        sid := none
        rev := 1
        classtype := none
        priority := defaultPriority
        passive := [] }).bind ?_
  rintro ⟨seen, msg, sid, rev, classtype, priority, passive⟩ _ _ rfl
  unfold Checked.identEnd identEnd
  cases sid with
  | none => exact follows_raise .missingSid
  | some sid =>
      cases msg with
      | none => exact follows_raise .missingMsg
      | some msg => exact .pure rfl

/-! ### Content text -/

/-- What a scan yields, or the fault of a bad content. -/
def contentScan {Value : Type} (scanned : Option Value) :
    Except RuleReason Value :=
  match scanned with
  | some value => .ok value
  | none => .error badContent

/-- The fault of a bad content. -/
theorem follows_badContent
    {Value Made : Type}
    {Stands : Value → Made → Prop} :
    FollowsPlain Stands Checked.badContent (.error badContent) :=
  follows_badOptionValue rfl

/-- The hexadecimal digits are those that have a value. -/
theorem contains_hexDigits (char : CodePoint) :
    Checked.hexDigits.contains char = (hexDigit? char).isSome := by
  have member :
      char ∈ Checked.hexDigits ↔
        (0x30 ≤ char.val ∧ char.val ≤ 0x39) ∨
          (0x41 ≤ char.val ∧ char.val ≤ 0x46) ∨
          (0x61 ≤ char.val ∧ char.val ≤ 0x66) := by
    simp [Checked.hexDigits, lit, codePoint, Fin.ext_iff]
    omega
  rw [Bool.eq_iff_iff, List.contains_iff_mem, member]
  simp only [hexDigit?, isAsciiDigit, Bool.and_eq_true, decide_eq_true_eq]
  split
  · simp_all
  · split
    · simp_all
    · split <;> simp_all

/-- What is read item by item has one value for each of them. -/
theorem length_of_mapM
    {Item Value : Type}
    {read : Item → Option Value}
    {items : List Item}
    {values : List Value}
    (all : items.mapM read = some values) :
    values.length = items.length := by
  induction items generalizing values with
  | nil =>
      cases all
      rfl
  | cons item rest inductionHypothesis =>
      simp only [List.mapM_cons, Option.pure_def, Option.bind_eq_bind,
        Option.bind_eq_some_iff, Option.some.injEq] at all
      obtain ⟨value, _, later, isRest, rfl⟩ := all
      simp [inductionHypothesis isRest]

/-- A block of digits has the bytes of their values. -/
theorem fromHex_eq
    {digits : Str}
    {values : List Nat}
    (read : digits.mapM hexDigit? = some values)
    (even : digits.length % 2 = 0) :
    Checked.fromHex digits = pure (bytesFromHex values) := by
  have sameLength := length_of_mapM read
  unfold Checked.fromHex
  rw [read]
  simp only [sameLength, even, if_true]

/-- A character is encoded, or rejected. -/
theorem follows_encodeText (text : Str) :
    FollowsPlain (fun bytes made => made = bytes) (Checked.encodeText text)
      (contentScan (encodeText? text)) := by
  unfold Checked.encodeText encodeText?
  split
  · exact follows_badContent
  · unfold Checked.encode
    cases utf8? text with
    | none => exact follows_badContent
    | some bytes => exact .pure rfl

/-- One more digit and its value. -/
theorem mapM_hexDigit?_snoc
    {digits : Str}
    {values : List Nat}
    {char : CodePoint}
    {value : Nat}
    (read : digits.mapM hexDigit? = some values)
    (isDigit : hexDigit? char = some value) :
    (digits ++ [char]).mapM hexDigit? = some (values ++ [value]) := by
  rw [List.mapM_append, read]
  simp [isDigit]

/-- Text is encoded before the scan goes on. -/
theorem follows_encodeText_bind
    (text : Str)
    {scan : Bytes → Parser Bytes}
    {plain : Bytes → Option Bytes}
    (later :
      ∀ encoded,
        FollowsPlain (fun bytes made => made = bytes) (scan encoded)
          (contentScan (plain encoded))) :
    FollowsPlain (fun bytes made => made = bytes)
      (Checked.encodeText text >>= scan)
      (contentScan ((encodeText? text).bind plain)) := by
  have both :
      FollowsPlain (fun bytes made => made = bytes)
        (Checked.encodeText text >>= scan)
        (contentScan (encodeText? text) >>= fun encoded =>
          contentScan (plain encoded)) := by
    refine (follows_encodeText text).bind ?_
    rintro encoded _ _ rfl
    exact later _
  cases encoded : encodeText? text <;> rw [encoded] at both <;> exact both

/-- The scanner inside and outside of a block of digits. -/
theorem follows_scanContent (text : Str) :
    (∀ out,
      FollowsPlain (fun bytes made => made = bytes)
        (Checked.scanContent none out text)
        (contentScan (scanContent none out text))) ∧
      ∀ digits values out,
        digits.mapM hexDigit? = some values →
        FollowsPlain (fun bytes made => made = bytes)
          (Checked.scanContent (some digits) out text)
          (contentScan (scanContent (some values) out text)) := by
  match text with
  | [] =>
      exact ⟨fun out => .pure rfl, fun _ _ _ _ => follows_badContent⟩
  | char :: rest =>
      obtain ⟨outside, inside⟩ := follows_scanContent rest
      constructor
      · intro out
        unfold Checked.scanContent scanContent
        simp only
        split
        · exact inside [] [] out rfl
        · split
          · match rest with
            | [] => exact follows_badContent
            | next :: later =>
                simp only
                have scanned :=
                  follows_encodeText_bind
                    (if isEscapable next then [next] else [char, next])
                    fun encoded =>
                      (follows_scanContent later).1 (out ++ encoded)
                cases encoded :
                    encodeText?
                      (if isEscapable next then [next]
                        else [char, next]) <;>
                  rw [encoded] at scanned <;> exact scanned
          · split
            · exact follows_badContent
            · have scanned :=
                follows_encodeText_bind [char] fun encoded =>
                  outside (out ++ encoded)
              cases encoded : encodeText? [char] <;>
                rw [encoded] at scanned <;> exact scanned
      · intro digits values out read
        unfold Checked.scanContent scanContent
        simp only [contains_hexDigits, length_of_mapM read]
        split
        · split
          · rename_i even
            rw [fromHex_eq read even, pure_bind]
            exact outside _
          · exact follows_badContent
        · cases isDigit : hexDigit? char with
          | some value =>
              simp only [Option.isSome_some, if_true]
              exact inside _ _ out (mapM_hexDigit?_snoc read isDigit)
          | none =>
              simp only [Option.isSome_none, Bool.false_eq_true, if_false]
              split
              · exact inside _ _ out read
              · exact follows_badContent

end IntrusionDetection
