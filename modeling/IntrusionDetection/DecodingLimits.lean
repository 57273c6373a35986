import IntrusionDetection.EventDecoder
import Mathlib.Algebra.Order.BigOperators.Group.List

namespace IntrusionDetection

open PyText

/-!
# The limit of the decoder

No step of decoding makes more characters than there were bytes.  What is
decoded of a packet is therefore bounded by the limit of the configuration,
however the packet is encoded, and a body that was cut is never reported as
decoded in full.
-/

/-! ### Texts -/

/-- How many characters an item is shown as, or has bytes so far. -/
def stepSize : Utf8Step → Nat
  | .done item => (shownText [item]).length
  | .more pending => pending.bytes.length

/-- A first byte is one character at most. -/
theorem stepSize_beginChar (byte : UInt8) :
    stepSize (beginChar byte) = 1 := by
  unfold beginChar
  dsimp only
  repeat' split
  all_goals rfl

/-- A further byte adds one character at most. -/
theorem stepSize_continueChar_le
    {pending : PendingChar}
    {byte : UInt8}
    {step : Utf8Step}
    (goesOn : continueChar pending byte = some step) :
    stepSize step ≤ pending.bytes.length + 1 := by
  unfold continueChar at goesOn
  dsimp only at goesOn
  split at goesOn
  · split at goesOn
    · cases goesOn
      exact Nat.le_add_left _ _
    · cases goesOn
      rw [stepSize, List.length_append, List.length_singleton]
  · cases goesOn

/-- An item is shown before those after it. -/
theorem shownText_cons (item : Utf8Item) (items : List Utf8Item) :
    shownText (item :: items) = shownText [item] ++ shownText items := by
  rw [shownText, shownText, shownText, List.flatMap_cons,
    List.flatMap_cons, List.flatMap_nil, List.append_nil]

/-- Every character of a text was read from a byte of its own. -/
theorem length_shownText_utf8ItemsFrom_le
    (pending : Option PendingChar)
    (data : Bytes) :
    (shownText (utf8ItemsFrom pending data)).length ≤
      (pending.elim 0 fun pending => pending.bytes.length) +
        data.length := by
  induction data generalizing pending with
  | nil =>
      cases pending with
      | none =>
          exact Nat.zero_le _
      | some pending =>
          simp [utf8ItemsFrom, shownText]
  | cons byte rest inductionHypothesis =>
      have fresh := inductionHypothesis none
      have begun := fun pending => inductionHypothesis (some pending)
      simp only [Option.elim_none, Option.elim_some, Nat.zero_add]
        at fresh begun
      have first := stepSize_beginChar byte
      have starts :
          (shownText (utf8ItemsFrom none (byte :: rest))).length ≤
            1 + rest.length := by
        rw [utf8ItemsFrom]
        cases isStep : beginChar byte with
        | done item =>
            rw [isStep, stepSize] at first
            rw [shownText_cons, List.length_append]
            omega
        | more pending =>
            rw [isStep, stepSize] at first
            have later := begun pending
            dsimp only
            omega
      cases pending with
      | none =>
          rw [Option.elim_none, List.length_cons]
          omega
      | some pending =>
          rw [Option.elim_some, List.length_cons, utf8ItemsFrom]
          cases goesOn : continueChar pending byte with
          | none =>
              rw [utf8ItemsFrom] at starts
              have ends :
                  (shownText [.invalid pending.bytes]).length =
                    pending.bytes.length := by
                simp [shownText]
              dsimp only
              rw [shownText_cons, List.length_append]
              omega
          | some step =>
              have size := stepSize_continueChar_le goesOn
              cases step with
              | done item =>
                  rw [stepSize] at size
                  dsimp only
                  rw [shownText_cons, List.length_append]
                  omega
              | more longer =>
                  rw [stepSize] at size
                  have later := begun longer
                  dsimp only
                  omega

/-- Bytes of a single-byte character set are shown one by one. -/
theorem length_shownText_map
    {item : UInt8 → Utf8Item}
    (single : ∀ byte, (shownText [item byte]).length = 1)
    (data : Bytes) :
    (shownText (data.map item)).length = data.length := by
  induction data with
  | nil =>
      rfl
  | cons byte rest inductionHypothesis =>
      rw [List.map_cons, shownText_cons, List.length_append, single,
        inductionHypothesis, List.length_cons, Nat.add_comm]

/-- No character set makes more characters than there are bytes. -/
theorem length_shownText_items_le
    (codec : Codec)
    (data : Bytes) :
    (shownText (codec.items data)).length ≤ data.length := by
  cases codec with
  | utf8 =>
      have shorter := length_shownText_utf8ItemsFrom_le none data
      rw [Option.elim_none, Nat.zero_add] at shorter
      exact shorter
  | ascii =>
      apply Nat.le_of_eq
      apply length_shownText_map
      intro byte
      split <;> rfl
  | latin1 =>
      exact Nat.le_of_eq (length_shownText_map (fun _ => rfl) data)

/-- Decoding bytes makes no more characters than there are bytes. -/
theorem length_decodeBytes_le
    (tables : DecodingTables)
    (data : Bytes)
    (charsetHint : Option Str)
    (detectBinary : Bool) :
    (decodeBytes tables data charsetHint detectBinary).value.length ≤
      data.length := by
  unfold decodeBytes
  split
  · exact Nat.zero_le _
  · split
    · exact Nat.zero_le _
    · dsimp only
      split <;> exact length_shownText_items_le _ data

/-! ### Percent sequences and forms -/

/-- Unquoting never makes a text longer. -/
theorem length_unquoteFrom_le (skip : Nat) (data : Bytes) :
    (unquoteFrom skip data).length ≤ data.length := by
  induction data generalizing skip with
  | nil =>
      simp [unquoteFrom]
  | cons byte rest inductionHypothesis =>
      have more :
          ∀ (decoded : UInt8) (skip : Nat),
            (decoded :: unquoteFrom skip rest).length ≤
              (byte :: rest).length :=
        fun _ skip => Nat.succ_le_succ (inductionHypothesis skip)
      cases skip with
      | succ skip =>
          exact Nat.le_succ_of_le (inductionHypothesis skip)
      | zero =>
          rw [unquoteFrom]
          split
          · split <;> exact more _ _
          · exact more _ _

/-- Neither does any number of passes. -/
theorem length_percentPasses_le (passes : Nat) (data : Bytes) :
    (percentPasses passes data).1.length ≤ data.length := by
  induction passes generalizing data with
  | zero =>
      exact Nat.le_refl _
  | succ passes inductionHypothesis =>
      rw [percentPasses]
      split
      · dsimp only
        split
        · exact Nat.le_refl _
        · exact (inductionHypothesis _).trans (length_unquoteFrom_le 0 data)
      · exact Nat.le_refl _

section Forms

variable
    (tables : DecodingTables)
    (passes : Nat)
    (plusAsSpace : Bool)
    (charsetHint : Option Str)

/-- The text of a component is decoded from what the passes leave. -/
theorem value_percentDecode (data : Bytes) :
    (percentDecode tables data passes plusAsSpace charsetHint).value =
      (decodeBytes tables
        (percentPasses passes
          (if plusAsSpace then plusToSpace data else data)).1
        charsetHint false).value := by
  cases plusAsSpace with
  | false =>
      simp only [percentDecode, Bool.false_eq_true, if_false]
      split <;> rfl
  | true =>
      simp only [percentDecode, if_true]
      split <;> rfl

/-- A component has no more characters than bytes. -/
theorem length_percentDecode_le (data : Bytes) :
    (percentDecode tables data passes plusAsSpace
      charsetHint).value.length ≤ data.length := by
  have spaces :
      (if plusAsSpace then plusToSpace data else data).length =
        data.length := by
    split
    · exact List.length_map _
    · rfl
  rw [value_percentDecode]
  exact (length_decodeBytes_le tables _ charsetHint false).trans
    ((length_percentPasses_le passes _).trans (Nat.le_of_eq spaces))

/-- How many characters the keys and values of a form have. -/
def formLength (pairs : List (Str × Str)) : Nat :=
  (pairs.map fun pair => pair.1.length + pair.2.length).sum

/-- Key and value are no longer than their pair. -/
theorem length_splitPair_le (pair : Bytes) :
    (splitPair pair).1.length + (splitPair pair).2.length ≤
      pair.length := by
  have whole := congrArg List.length
    (@List.takeWhile_append_dropWhile _ (· ≠ 0x3D) pair)
  rw [List.length_append] at whole
  simp only [splitPair, List.length_tail]
  omega

/-- A pair adds no more characters than it has bytes. -/
theorem formLength_addPair_le (form : DecodedForm) (pair : Bytes) :
    formLength (addPair tables passes plusAsSpace charsetHint form
        pair).value ≤
      formLength form.value + pair.length := by
  unfold addPair
  split
  · exact Nat.le_add_right _ _
  · have key := length_percentDecode_le tables passes plusAsSpace
      charsetHint (splitPair pair).1
    have value := length_percentDecode_le tables passes plusAsSpace
      charsetHint (splitPair pair).2
    have parts := length_splitPair_le pair
    simp only [addPart, formLength, List.map_append, List.map_cons,
      List.map_nil, List.sum_append, List.sum_cons, List.sum_nil]
    omega

/-- Joined pieces are as long as the pieces together, at least. -/
theorem sum_length_le_intercalate
    (separator : Bytes)
    (pieces : List Bytes) :
    (pieces.map List.length).sum ≤
      (separator.intercalate pieces).length := by
  induction pieces with
  | nil =>
      exact Nat.zero_le _
  | cons first rest inductionHypothesis =>
      cases rest with
      | nil =>
          rw [List.intercalate_singleton, List.map_singleton,
            List.sum_singleton]
      | cons second others =>
          rw [List.intercalate_cons_cons, List.length_append,
            List.length_append, List.map_cons, List.sum_cons]
          omega

/-- A form has no more characters than its body has bytes. -/
theorem formLength_decodeFormBody_le (data : Bytes) :
    formLength (decodeFormBody tables data passes plusAsSpace
        charsetHint).value ≤
      data.length := by
  have folded :
      ∀ (pairs : List Bytes) (form : DecodedForm),
        formLength (pairs.foldl
            (addPair tables passes plusAsSpace charsetHint) form).value ≤
          formLength form.value + (pairs.map List.length).sum := by
    intro pairs
    induction pairs with
    | nil =>
        exact fun _ => Nat.le_refl _
    | cons pair rest inductionHypothesis =>
        intro form
        have first := formLength_addPair_le tables passes plusAsSpace
          charsetHint form pair
        have later := inductionHypothesis
          (addPair tables passes plusAsSpace charsetHint form pair)
        rw [List.foldl_cons, List.map_cons, List.sum_cons]
        omega
  unfold decodeFormBody
  split
  · exact Nat.zero_le _
  · have whole := folded (splitPairs data) ⟨[], .ok, [], [], 0⟩
    have pieces := sum_length_le_intercalate [0x26] (splitPairs data)
    rw [splitPairs, List.intercalate_splitOn] at pieces
    rw [splitPairs] at whole ⊢
    exact whole.trans (by simpa [formLength] using pieces)

end Forms

/-! ### HTML entities -/

section Entities

variable
    {tables : DecodingTables}
    (shortens : ∀ text, (tables.unescape text).length ≤ text.length)

include shortens

/-- Unescaping a text does not make it longer. -/
theorem length_unescapeText_le (text : Str) :
    (unescapeText tables text).length ≤ text.length := by
  unfold unescapeText
  split
  · exact shortens text
  · exact Nat.le_refl _

/-- Neither does the HTML step of a body. -/
theorem length_htmlDecodeText_le (decoded : DecodedText) :
    (htmlDecodeText tables decoded).value.length ≤
      decoded.value.length := by
  unfold htmlDecodeText
  dsimp only
  split
  · exact Nat.le_refl _
  · exact length_unescapeText_le shortens _

/-- Nor the HTML step of a form. -/
theorem formLength_htmlDecodeForm_le (form : DecodedForm) :
    formLength (htmlDecodeForm tables form).value ≤
      formLength form.value := by
  unfold htmlDecodeForm
  dsimp only
  split
  · exact Nat.le_refl _
  · rw [formLength, formLength, List.map_map]
    apply List.Forall₂.sum_le_sum
    rw [List.forall₂_map_left_iff, List.forall₂_map_right_iff,
      List.forall₂_same]
    intro pair _
    exact Nat.add_le_add (length_unescapeText_le shortens pair.1)
      (length_unescapeText_le shortens pair.2)

end Entities

/-! ### Mails -/

/-- Removing the end mark does not make a body longer. -/
theorem length_removeTerminator_le (atStart : Bool) (body : Bytes) :
    (removeTerminator atStart body).length ≤ body.length := by
  induction body generalizing atStart with
  | nil =>
      exact Nat.le_refl _
  | cons byte rest inductionHypothesis =>
      rw [removeTerminator]
      split
      · rw [List.length_drop]
        exact Nat.sub_le _ _
      · exact Nat.succ_le_succ (inductionHypothesis false)

/-- Neither does undoing the transfer encoding. -/
theorem length_decodeTransfer_le (cte : Str) (body : Bytes) :
    (decodeTransfer cte body).bytes.length ≤ body.length := by
  by_cases isBase64 : cte = lit "base64"
  · subst isBase64
    cases joined : Base64.joinSextets (Base64.sextets body) with
    | none =>
        rw [decodeTransfer_base64_failed joined]
    | some data =>
        have shorter : data.length ≤ body.length :=
          (Base64.length_le_of_joinSextets joined).trans
            (List.length_filterMap_le _ _)
        rw [decodeTransfer_base64_decoded joined]
        split <;> exact shorter
  · rw [decodeTransfer, if_neg isBase64]
    split
    · exact QuotedPrintable.length_decodeFrom_le _ body
    · split <;> exact Nat.le_refl _

/-- A mail body has no more characters than bytes. -/
theorem length_decodeMimeBody_le
    (tables : DecodingTables)
    (payload : Bytes)
    (bodyOffset : Nat)
    (mimeHeaders : List (Str × Str)) :
    (decodeMimeBody tables payload (some bodyOffset)
        mimeHeaders).value.length ≤
      payload.length - bodyOffset := by
  by_cases hasBody : bodyOffset < payload.length
  · have transferred :
        (decodeTransfer (transferEncoding tables mimeHeaders)
            (removeTerminator true
              (payload.drop bodyOffset))).bytes.length ≤
          payload.length - bodyOffset := by
      rw [← List.length_drop]
      exact (length_decodeTransfer_le _ _).trans
        (length_removeTerminator_le _ _)
    rw [decodeMimeBody_of_lt tables hasBody, decodeTransferred]
    split
    · exact (length_decodeBytes_le tables _ _ _).trans transferred
    · exact (length_decodeBytes_le tables _ _ _).trans transferred
  · rw [decodeMimeBody, Option.filter_some,
      if_neg (by simpa using hasBody)]
    exact Nat.zero_le _

/-! ### The decoded parts of an event -/

/-- What decoding an HTTP packet leaves, by the body it selects. -/
theorem decodeHttp_cases
    {tables : DecodingTables}
    {cfg : DecoderCfg}
    {payload : Bytes}
    {fields : HttpFields}
    {decoded : DecodedHttp}
    (isDecoded : decodeHttp tables cfg payload fields = some decoded) :
    (selectBody payload fields = none ∧ decoded.body = none ∧
      decoded.formParams = none ∧ decoded.truncatedByLimit = false) ∨
    ∃ selected,
      selectBody payload fields = some selected ∧
      decoded.truncatedByLimit =
        decide (cfg.maxPayloadBytes < selected.length) ∧
      ((decoded.formParams = none ∧
        ∃ body, decoded.body = some body ∧
          (body.value = [] ∨
            body = decodeBytes tables (selected.take cfg.maxPayloadBytes)
              fields.charset true ∨
            body = htmlDecodeText tables
              (decodeBytes tables (selected.take cfg.maxPayloadBytes)
                fields.charset true))) ∨
      (decoded.body = none ∧
        ∃ form, decoded.formParams = some form ∧
          (form = decodeFormBody tables
              (selected.take cfg.maxPayloadBytes) cfg.urlDecodePasses
              cfg.plusAsSpaceInQuery fields.charset ∨
            form = htmlDecodeForm tables
              (decodeFormBody tables (selected.take cfg.maxPayloadBytes)
                cfg.urlDecodePasses cfg.plusAsSpaceInQuery
                fields.charset)))) := by
  unfold decodeHttp at isDecoded
  dsimp only at isDecoded
  split at isDecoded
  -- Requests and responses go on alike.
  all_goals
    obtain ⟨uri, _, isDecoded⟩ := Option.bind_eq_some_iff.mp isDecoded
    split at isDecoded
    · rename_i noBody
      cases isDecoded
      exact .inl ⟨noBody, rfl, rfl, rfl⟩
    · rename_i selected isSelected
      refine .inr ⟨selected, isSelected, ?_⟩
      split at isDecoded
      · cases isDecoded
        exact ⟨rfl, .inl ⟨rfl, _, rfl, .inl rfl⟩⟩
      · split at isDecoded
        · cases isDecoded
          refine ⟨rfl, .inr ⟨rfl, _, rfl, ?_⟩⟩
          split
          · exact .inr rfl
          · exact .inl rfl
        · cases isDecoded
          refine ⟨rfl, .inl ⟨rfl, _, rfl, .inr ?_⟩⟩
          split
          · exact .inr rfl
          · exact .inl rfl

/-- The body a packet carries, before it is cut at the limit. -/
def carriedBody (payload : Bytes) (fields : ParsedFields) : Option Bytes :=
  match fields with
  | .http fields => selectBody payload fields
  | .smtp (.data _ (some bodyOffset)) =>
      if payload.isEmpty then none else some (payload.drop bodyOffset)
  | _ => none

/-- What decoding an SMTP packet leaves, by the body it carries. -/
theorem decodeSmtp_cases
    (tables : DecodingTables)
    (cfg : DecoderCfg)
    (payload : Bytes)
    (fields : SmtpFields) :
    (carriedBody payload (.smtp fields) = none ∧
      decodeSmtp tables cfg payload fields = ⟨none, none, none, false⟩) ∨
    ∃ mimeHeaders bodyOffset limited,
      carriedBody payload (.smtp fields) =
        some (payload.drop bodyOffset) ∧
      limited.length - bodyOffset ≤ cfg.maxPayloadBytes ∧
      decodeSmtp tables cfg payload fields =
        ⟨none,
          some (decodeMimeBody tables limited (some bodyOffset) mimeHeaders),
          none,
          decide (cfg.maxPayloadBytes < payload.length - bodyOffset)⟩ := by
  unfold decodeSmtp
  split
  · rename_i mimeHeaders bodyOffset
    rw [carriedBody]
    split
    · exact .inl ⟨rfl, rfl⟩
    · refine .inr ⟨mimeHeaders, bodyOffset, _, rfl, ?_, rfl⟩
      split
      · rw [List.length_take]
        omega
      · rename_i fits
        simp only [decide_eq_true_eq] at fits
        omega
  · rename_i noBody
    refine .inl ⟨?_, rfl⟩
    unfold carriedBody
    split
    · rename_i same
      cases same
    · rename_i same
      cases same
      exact absurd rfl (noBody _ _)
    · rfl

/--
However a packet is encoded, what is decoded of its body has no more characters
than the limit allows bytes.
-/
theorem decodeFields_le_limit
    {tables : DecodingTables}
    (shortens : ∀ text, (tables.unescape text).length ≤ text.length)
    {cfg : DecoderCfg}
    {payload : Bytes}
    {fields : ParsedFields}
    {decoded : DecodedHttp}
    (isDecoded : decodeFields tables cfg payload fields = some decoded) :
    (∀ body ∈ decoded.body, body.value.length ≤ cfg.maxPayloadBytes) ∧
      ∀ form ∈ decoded.formParams,
        formLength form.value ≤ cfg.maxPayloadBytes := by
  cases fields with
  | other =>
      cases isDecoded
      constructor <;>
      · intro part isPart
        cases isPart
  | smtp fields =>
      cases isDecoded
      rcases decodeSmtp_cases tables cfg payload fields with
        ⟨_, same⟩ | ⟨mimeHeaders, bodyOffset, limited, _, fits, same⟩
      · rw [same]
        constructor <;>
        · intro part isPart
          cases isPart
      · rw [same]
        refine ⟨?_, fun form isForm => by cases isForm⟩
        intro body isBody
        cases isBody
        exact (length_decodeMimeBody_le tables _ _ _).trans fits
  | http fields =>
      rcases decodeHttp_cases isDecoded with
        ⟨_, noBody, noForm, _⟩ |
        ⟨selected, _, _,
          ⟨noForm, body, isBody, shape⟩ | ⟨noBody, form, isForm, shape⟩⟩
      · rw [noBody, noForm]
        constructor <;>
        · intro part isPart
          cases isPart
      · have text := (length_decodeBytes_le tables
          (selected.take cfg.maxPayloadBytes) fields.charset true).trans
          (List.length_take_le _ _)
        rw [noForm, isBody]
        refine ⟨?_, fun form isForm => by cases isForm⟩
        intro other same
        cases same
        rcases shape with empty | rfl | rfl
        · rw [empty]
          exact Nat.zero_le _
        · exact text
        · exact (length_htmlDecodeText_le shortens _).trans text
      · have pairs := (formLength_decodeFormBody_le tables
          cfg.urlDecodePasses cfg.plusAsSpaceInQuery fields.charset
          (selected.take cfg.maxPayloadBytes)).trans
          (List.length_take_le _ _)
        rw [noBody, isForm]
        refine ⟨fun body isBody => (by cases isBody), ?_⟩
        intro other same
        cases same
        rcases shape with rfl | rfl
        · exact pairs
        · exact (formLength_htmlDecodeForm_le shortens _).trans pairs

/-- A limit of three bytes leaves three characters of the greeting at most. -/
theorem foldedGreeting_limited :
    ∃ decoded,
      decodeFields plainTables ⟨3, 1, true, []⟩ foldedGreeting
          (.smtp (.data base64Headers (some 4))) = some decoded ∧
        ∀ body ∈ decoded.body, body.value.length ≤ 3 :=
  ⟨_, rfl, (@decodeFields_le_limit plainTables (fun _ => Nat.le_refl _)
    ⟨3, 1, true, []⟩ foldedGreeting (.smtp (.data base64Headers (some 4)))
    _ rfl).1⟩

/-! ### The status of an event -/

/-- The statuses of the parts that were decoded. -/
def partStatuses (decoded : DecodedHttp) : List DecodeStatus :=
  decoded.uri.toList.map DecodedText.status ++
    decoded.body.toList.map DecodedText.status ++
    decoded.formParams.toList.map DecodedForm.status

/-- The highest rank among some statuses. -/
def worstRank (statuses : List DecodeStatus) : Nat :=
  (statuses.map statusRank).foldl max 0

/-- The loop over the statuses finds the highest rank. -/
theorem statusRank_foldl
    (statuses : List DecodeStatus)
    (first : DecodeStatus) :
    statusRank (statuses.foldl
        (fun worst status =>
          if statusRank worst < statusRank status then status else worst)
        first) =
      max (statusRank first) (worstRank statuses) := by
  have folded :
      ∀ first : DecodeStatus,
        statusRank (statuses.foldl
            (fun worst status =>
              if statusRank worst < statusRank status then status
              else worst)
            first) =
          (statuses.map statusRank).foldl max (statusRank first) := by
    induction statuses with
    | nil =>
        exact fun _ => rfl
    | cons status rest inductionHypothesis =>
        intro first
        rw [List.foldl_cons, inductionHypothesis, List.map_cons,
          List.foldl_cons]
        congr 1
        split <;> omega
  have start := @List.foldl_assoc Nat max _ (statuses.map statusRank)
    (statusRank first) 0
  rw [folded, worstRank, ← start, Nat.max_zero]

/--
A packet that carries no body has none decoded.  The body of any other packet
is decoded, and cut exactly if it is longer than the limit.
-/
theorem decodeFields_cases
    {tables : DecodingTables}
    {cfg : DecoderCfg}
    {payload : Bytes}
    {fields : ParsedFields}
    {decoded : DecodedHttp}
    (isDecoded : decodeFields tables cfg payload fields = some decoded) :
    (carriedBody payload fields = none ∧
      decoded.truncatedByLimit = false) ∨
    ∃ body,
      carriedBody payload fields = some body ∧
      decoded.truncatedByLimit =
        decide (cfg.maxPayloadBytes < body.length) ∧
      partStatuses decoded ≠ [] := by
  have hasPart :
      decoded.body ≠ none ∨ decoded.formParams ≠ none →
        partStatuses decoded ≠ [] := by
    intro isPart empty
    simp only [partStatuses, List.append_eq_nil_iff, List.map_eq_nil_iff,
      Option.toList_eq_nil_iff] at empty
    rcases isPart with isBody | isForm
    · exact isBody empty.1.2
    · exact isForm empty.2
  cases fields with
  | other =>
      cases isDecoded
      exact .inl ⟨rfl, rfl⟩
  | smtp fields =>
      cases isDecoded
      rcases decodeSmtp_cases tables cfg payload fields with
        ⟨noBody, same⟩ | ⟨_, bodyOffset, _, isBody, _, same⟩
      · exact .inl ⟨noBody, by rw [same]⟩
      · rw [same] at hasPart ⊢
        exact .inr ⟨_, isBody, by rw [List.length_drop],
          hasPart (.inl (Option.some_ne_none _))⟩
  | http fields =>
      rcases decodeHttp_cases isDecoded with
        ⟨noBody, _, _, notCut⟩ |
        ⟨selected, isSelected, cut,
          ⟨_, body, isBody, _⟩ | ⟨_, form, isForm, _⟩⟩
      · exact .inl ⟨noBody, notCut⟩
      · refine .inr ⟨selected, isSelected, cut, hasPart (.inl ?_)⟩
        rw [isBody]
        exact Option.some_ne_none body
      · refine .inr ⟨selected, isSelected, cut, hasPart (.inr ?_)⟩
        rw [isForm]
        exact Option.some_ne_none form

/-- The overall status by rank. -/
theorem overallStatus_spec
    {decoded : DecodedHttp}
    (hasPart :
      decoded.truncatedByLimit = true → partStatuses decoded ≠ []) :
    (overallStatus decoded).2 = decoded.truncatedByLimit ∧
      statusRank (overallStatus decoded).1 =
        max
          (statusRank
            (if decoded.truncatedByLimit then .partiallyDecoded
            else .skipped))
          (worstRank (partStatuses decoded)) := by
  have worst := statusRank_foldl (partStatuses decoded) .skipped
  unfold overallStatus
  rw [← partStatuses]
  dsimp only
  split
  · rename_i empty
    rw [List.isEmpty_iff] at empty
    cases isCut : decoded.truncatedByLimit with
    | false =>
        rw [empty]
        exact ⟨rfl, rfl⟩
    | true =>
        exact absurd empty (hasPart isCut)
  · split
    · rename_i isCut
      rw [isCut]
      refine ⟨rfl, ?_⟩
      generalize (partStatuses decoded).foldl _ _ = status at worst ⊢
      cases status <;> simp [statusRank] at worst ⊢ <;> omega
    · rename_i notCut
      rw [Bool.not_eq_true] at notCut
      rw [notCut]
      exact ⟨rfl, worst⟩

/--
The status of an event is the worst of its parts, and never better than partial
if its body was cut, which is noted exactly for bodies longer than the limit.
-/
theorem status_decodeParsed
    {tables : DecodingTables}
    {cfg : DecoderCfg}
    {payload : Bytes}
    {fields : ParsedFields}
    {event : DecodedEvent}
    (isDecoded : decodeParsed tables cfg payload fields = some event) :
    (event.notesLimit = true ↔
      ∃ body ∈ carriedBody payload fields,
        cfg.maxPayloadBytes < body.length) ∧
    statusRank event.status =
      max
        (statusRank
          (if event.notesLimit then .partiallyDecoded else .skipped))
        (worstRank (partStatuses event.fields)) := by
  obtain ⟨decoded, isFields, rfl⟩ := Option.map_eq_some_iff.mp isDecoded
  dsimp only
  rcases decodeFields_cases isFields with
    ⟨noBody, notCut⟩ | ⟨body, isBody, cut, hasPart⟩
  · obtain ⟨notes, rank⟩ := @overallStatus_spec decoded
      (fun isCut => by rw [notCut] at isCut; cases isCut)
    refine ⟨?_, by rw [rank, notes]⟩
    rw [notes, notCut, noBody]
    simp
  · obtain ⟨notes, rank⟩ := @overallStatus_spec decoded fun _ => hasPart
    refine ⟨?_, by rw [rank, notes]⟩
    rw [notes, cut, isBody]
    simp

/--
Nothing is decoded of an event exactly if it is malformed or decoding is
disabled; the status and the note of any other are as above.
-/
theorem status_decodeEvent
    {tables : DecodingTables}
    {cfg : DecoderCfg}
    {enabled malformed : Bool}
    {payload : Bytes}
    {fields : ParsedFields}
    {outcome : Option DecodedEvent}
    (returns :
      EventDecoder.decodeEvent tables cfg enabled malformed payload
          fields =
        some outcome) :
    (outcome = none ↔ malformed = true ∨ enabled = false) ∧
    ∀ event ∈ outcome,
      (event.notesLimit = true ↔
        ∃ body ∈ carriedBody payload fields,
          cfg.maxPayloadBytes < body.length) ∧
      statusRank event.status =
        max
          (statusRank
            (if event.notesLimit then .partiallyDecoded else .skipped))
          (worstRank (partStatuses event.fields)) := by
  unfold EventDecoder.decodeEvent at returns
  split at returns
  · rename_i isSkipped
    cases returns
    refine ⟨⟨fun _ => ?_, fun _ => rfl⟩, fun event isEvent => ?_⟩
    · simpa only [Bool.or_eq_true, Bool.not_eq_true'] using isSkipped
    · cases isEvent
  · rename_i notSkipped
    obtain ⟨event, isDecoded, rfl⟩ := Option.map_eq_some_iff.mp returns
    refine ⟨⟨fun isNone => ?_, fun isSkipped => ?_⟩,
      fun other isEvent => ?_⟩
    · cases isNone
    · rw [← Bool.not_eq_true', ← Bool.or_eq_true] at isSkipped
      exact absurd isSkipped notSkipped
    · cases isEvent
      exact status_decodeParsed isDecoded

/-- Cutting the greeting is noted. -/
theorem foldedGreeting_noted :
    ∃ event,
      EventDecoder.decodeEvent plainTables ⟨3, 1, true, []⟩ true false
          foldedGreeting (.smtp (.data base64Headers (some 4))) =
        some (some event) ∧
        event.notesLimit = true :=
  ⟨_, rfl, ((@status_decodeEvent plainTables ⟨3, 1, true, []⟩ true false
    foldedGreeting (.smtp (.data base64Headers (some 4))) _ rfl).2
      _ rfl).1.mpr ⟨_, rfl, by decide⟩⟩

end IntrusionDetection
