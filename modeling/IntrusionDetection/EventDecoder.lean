import IntrusionDetection.HttpDecoder
import IntrusionDetection.TransferDecoding

namespace IntrusionDetection

open PyText

/-!
# The decoder on any event

`decode_event` routes an event by its protocol and reduces what the decoders
report to one status.  What it holds in memory is bounded by the limit of the
configuration.
-/

/-- `app_fields` of an event, by its protocol. -/
inductive ParsedFields where
  | http (fields : HttpFields)
  | smtp (fields : SmtpFields)
  | other

/-- What `decode_event` writes. -/
structure DecodedEvent where
  fields : DecodedHttp
  status : DecodeStatus
  -- Is `truncated_by_limit` appended to the reasons?
  notesLimit : Bool

section Decoding

variable (tables : DecodingTables) (cfg : DecoderCfg)

/-- The SMTP routing of `decode_event`; a mail has a body and no other part. -/
def decodeSmtp (payload : Bytes) (fields : SmtpFields) : DecodedHttp :=
  match fields with
  | .data mimeHeaders (some bodyOffset) =>
      if payload.isEmpty then
        ⟨none, none, none, false⟩
      else
        let truncated : Bool :=
          cfg.maxPayloadBytes < payload.length - bodyOffset
        let payload :=
          if truncated then
            payload.take (bodyOffset + cfg.maxPayloadBytes)
          else
            payload
        ⟨none,
          some (decodeMimeBody tables payload (some bodyOffset) mimeHeaders),
          none, truncated⟩
  | _ => ⟨none, none, none, false⟩

/-- `decoded_fields`; `none` if decoding the URI raises. -/
def decodeFields (payload : Bytes) (fields : ParsedFields) :
    Option DecodedHttp :=
  match fields with
  | .http fields => decodeHttp tables cfg payload fields
  | .smtp fields => some (decodeSmtp tables cfg payload fields)
  | .other => some ⟨none, none, none, false⟩

/-- `decode_event` of an event that is well formed, with decoding enabled. -/
def decodeParsed (payload : Bytes) (fields : ParsedFields) :
    Option DecodedEvent :=
  (decodeFields tables cfg payload fields).map fun decoded =>
    ⟨decoded, (overallStatus decoded).1, (overallStatus decoded).2⟩

/--
`decode_event`; a malformed event, or any if decoding is disabled, is handed on
with no status and nothing decoded.
-/
def EventDecoder.decodeEvent
    (enabled malformed : Bool)
    (payload : Bytes)
    (fields : ParsedFields) :
    Option (Option DecodedEvent) :=
  if malformed || !enabled then
    some none
  else
    (decodeParsed tables cfg payload fields).map some

end Decoding

/-! ### Mails -/

/-- The bytes of a body, written in a transfer encoding. -/
inductive WrittenAs : Str → Bytes → Bytes → Prop where
  -- Blanks may stand anywhere.
  | base64 {data text : Bytes} :
      (text.filter fun byte => !isBlankByte byte) = Base64.encode data →
      WrittenAs (lit "base64") data text
  | quotedPrintable {data text : Bytes} :
      QuotedPrintable.Encodes data text →
      WrittenAs (lit "quoted-printable") data text
  | identity {cte : Str} {data : Bytes} :
      cte ∈ [lit "", lit "7bit", lit "8bit", lit "binary"] →
      WrittenAs cte data data

/-- The `encodings` of a body that was written in a transfer encoding. -/
def transferEncodings (cte : Str) : List Str :=
  if cte ∈ [lit "base64", lit "quoted-printable"] then [cte] else []

/-- The transfer encoding of a body is undone. -/
theorem decodeTransfer_of_writtenAs
    {cte : Str}
    {data text : Bytes}
    (written : WrittenAs cte data text) :
    decodeTransfer cte text =
      ⟨data, transferEncodings cte, .ok, none, false⟩ := by
  cases written with
  | base64 same =>
      have values : Base64.sextets text = Base64.splitBytes data := by
        rw [← Base64.sextets_filter_of notBlank_of_isSymbol, same,
          Base64.sextets_encode]
      have wellPadded : IsWellPadded text := by
        rw [IsWellPadded, same]
        exact Or.inl (Base64.canonical_encode data).symm
      have joined :
          Base64.joinSextets (Base64.sextets text) = some data := by
        rw [values, Base64.joinSextets_splitBytes]
      rw [decodeTransfer_base64_decoded joined, if_pos wellPadded]
      rfl
  | quotedPrintable encodes =>
      have notBase64 : lit "quoted-printable" ≠ lit "base64" := by decide
      rw [decodeTransfer, if_neg notBase64, if_pos rfl,
        QuotedPrintable.decode_of_encodes encodes]
      rfl
  | identity plain =>
      have notEncoded :
          ∀ cte ∈ [lit "", lit "7bit", lit "8bit", lit "binary"],
            cte ≠ lit "base64" ∧ cte ≠ lit "quoted-printable" := by
        decide
      obtain ⟨notBase64, notPrintable⟩ := notEncoded cte plain
      have none_ : transferEncodings cte = [] := by
        rw [transferEncodings, if_neg]
        simp [notBase64, notPrintable]
      rw [decodeTransfer, if_neg notBase64, if_neg notPrintable,
        if_pos plain, none_]

/--
A mail whose body was written in a supported transfer encoding, in whatever
way, and ended by the end mark, is shown as its bytes are.
-/
theorem decodeSmtp_of_writtenAs
    (tables : DecodingTables)
    (cfg : DecoderCfg)
    {payload data text : Bytes}
    {bodyOffset : Nat}
    {mimeHeaders : List (Str × Str)}
    (written : WrittenAs (transferEncoding tables mimeHeaders) data text)
    (isBody :
      payload.drop bodyOffset = text ++ [0x0D, 0x0A, 0x2E, 0x0D, 0x0A])
    (fits : payload.length ≤ bodyOffset + cfg.maxPayloadBytes) :
    let plain :=
      decodeBytes tables data (mimeCharsetHint tables mimeHeaders) true
    decodeSmtp tables cfg payload (.data mimeHeaders (some bodyOffset)) =
      ⟨none,
        some { plain with
          info := { plain.info with
            encodings :=
              transferEncodings (transferEncoding tables mimeHeaders) } },
        none, false⟩ := by
  intro plain
  have hasBody : bodyOffset < payload.length := by
    have long := congrArg List.length isBody
    rw [List.length_drop, List.length_append] at long
    simp only [List.length_cons, List.length_nil] at long
    omega
  have notEmpty : payload.isEmpty = false := by
    cases payload with
    | nil =>
        exact absurd hasBody (Nat.not_lt_zero _)
    | cons =>
        rfl
  have notTruncated :
      decide (cfg.maxPayloadBytes < payload.length - bodyOffset) =
        false := by
    rw [decide_eq_false_iff_not]
    omega
  simp only [decodeSmtp, notEmpty, notTruncated, Bool.false_eq_true,
    if_false]
  rw [decodeMimeBody_of_lt tables hasBody, isBody, removeTerminator_append,
    decodeTransfer_of_writtenAs written]
  simp only [decodeTransferred, reduceCtorEq, if_false, mergeStatus_ok,
    Option.toList_none, List.nil_append, joinReasons_toList]
  rfl

/-- A greeting in Base64, folded and ended by the end mark. -/
def foldedGreeting : Bytes :=
  asciiBytes "\r\n\r\naGVs\r\nbG8=\r\n.\r\n"

/-- It is shown as it was before it was encoded. -/
theorem foldedGreeting_shown :
    (decodeSmtp plainTables ⟨64, 1, true, []⟩ foldedGreeting
        (.data base64Headers (some 4))).body.map DecodedText.value =
      some (lit "hello") := by
  have shown := @decodeSmtp_of_writtenAs plainTables ⟨64, 1, true, []⟩
    foldedGreeting (asciiBytes "hello") (asciiBytes "aGVs\r\nbG8=") 4
    base64Headers (.base64 (by decide)) (by decide) (by decide)
  rw [shown]
  decide +kernel

end IntrusionDetection
