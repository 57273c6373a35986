import IntrusionDetection.HttpParser
import IntrusionDetection.UrlDecoder

namespace IntrusionDetection

open PyText

/-!
# The decoder on HTTP packets

`decode_event` decodes the request target and the body of an HTTP packet.  It
reads the body from the raw payload, with what the parser reported of it.
-/

/-- The `decoder` section of the configuration. -/
structure DecoderCfg where
  maxPayloadBytes : Nat
  urlDecodePasses : Nat
  plusAsSpaceInQuery : Bool
  htmlEntityContentTypes : List Str

/-- `decoded_fields` of an HTTP packet. -/
structure DecodedHttp where
  uri : Option DecodedText
  body : Option DecodedText
  formParams : Option DecodedForm
  truncatedByLimit : Bool

/-- The body, cut at the reported length. -/
def limitBody (contentLength : Option Int) (body : Bytes) : Bytes :=
  match contentLength with
  | some length => if 0 ≤ length then body.take length.toNat else body
  | none => body

/-- `body_bytes`, before it is cut at the limit of the configuration. -/
def selectBody (payload : Bytes) (fields : HttpFields) : Option Bytes :=
  if payload.isEmpty then
    none
  else
    fields.bodyOffset.map fun bodyOffset =>
      limitBody fields.contentLength (payload.drop bodyOffset)

/-- Content types that are not decoded as text. -/
def isBinaryType (contentType : Str) : Bool :=
  [lit "image/", lit "audio/", lit "video/", lit "font/"].any
      (startsWith · contentType) ||
    contentType ∈
      [lit "application/octet-stream", lit "application/zip",
        lit "application/pdf", lit "application/gzip",
        lit "application/x-gzip", lit "application/x-zip-compressed"]

section Decoding

variable (tables : DecodingTables)

/-- `_unescape`. -/
def unescapeText (text : Str) : Str :=
  if codePoint '&' ∈ text then tables.unescape text else text

/-- `apply_html_decoding` of a text. -/
def htmlDecodeText (decoded : DecodedText) : DecodedText :=
  let value := unescapeText tables decoded.value
  if decoded.status = .skipped ∨
      lit "html_entity" ∈ decoded.info.encodings ∨
      value = decoded.value then
    decoded
  else
    { decoded with
      value
      info :=
        { decoded.info with
          encodings := decoded.info.encodings ++ [lit "html_entity"] } }

/-- `apply_html_decoding` of a form. -/
def htmlDecodeForm (form : DecodedForm) : DecodedForm :=
  let value := form.value.map fun pair =>
    (unescapeText tables pair.1, unescapeText tables pair.2)
  if form.status = .skipped ∨
      lit "html_entity" ∈ form.encodings ∨
      value = form.value then
    form
  else
    { form with
      value
      encodings := form.encodings ++ [lit "html_entity"] }

/-- The HTTP routing of `decode_event`; `none` if decoding the URI raises. -/
def decodeHttp
    (cfg : DecoderCfg)
    (payload : Bytes)
    (fields : HttpFields) :
    Option DecodedHttp := do
  let uri ←
    match fields.startLine with
    | .request _ path _ =>
        some <$> decodeUri? tables path cfg.urlDecodePasses
          cfg.plusAsSpaceInQuery
    | .response _ _ _ => some none
  match selectBody payload fields with
  | none => return ⟨uri, none, none, false⟩
  | some selected =>
      let truncated : Bool := cfg.maxPayloadBytes < selected.length
      let body := selected.take cfg.maxPayloadBytes
      let contentType :=
        tables.characters.lower (fields.contentType.getD [])
      let isHtml : Bool := contentType ∈ cfg.htmlEntityContentTypes
      if isBinaryType contentType then
        return ⟨uri,
          some ⟨[], .skipped,
            { DecodeInfo.empty with
              reason := some (lit "binary_content") }⟩,
          none, truncated⟩
      else if contentType = lit "application/x-www-form-urlencoded" then
        let form := decodeFormBody tables body cfg.urlDecodePasses
          cfg.plusAsSpaceInQuery fields.charset
        return ⟨uri, none,
          some (if isHtml then htmlDecodeForm tables form else form),
          truncated⟩
      else
        let text := decodeBytes tables body fields.charset true
        return ⟨uri,
          some (if isHtml then htmlDecodeText tables text else text),
          none, truncated⟩

end Decoding

/-- `_STATUS_RANK`. -/
def statusRank : DecodeStatus → Nat
  | .failed => 4
  | .partiallyDecoded => 3
  | .ok => 2
  | .skipped => 1

/-- The overall `decode_status` and whether `truncated_by_limit` is noted. -/
def overallStatus (decoded : DecodedHttp) : DecodeStatus × Bool :=
  let statuses :=
    decoded.uri.toList.map DecodedText.status ++
      decoded.body.toList.map DecodedText.status ++
      decoded.formParams.toList.map DecodedForm.status
  if statuses.isEmpty then
    (.skipped, false)
  else
    let worst := statuses.foldl
      (fun worst status =>
        if statusRank worst < statusRank status then status else worst)
      .skipped
    if decoded.truncatedByLimit then
      (if worst = .ok ∨ worst = .skipped then .partiallyDecoded else worst,
        true)
    else
      (worst, false)

end IntrusionDetection
