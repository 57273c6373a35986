import IntrusionDetection.Base64
import IntrusionDetection.QuotedPrintable
import IntrusionDetection.SmtpParser
import IntrusionDetection.UrlDecoder
import Mathlib.Data.List.Sort

namespace IntrusionDetection

open PyText

/-!
# The decoder on mails

`decode_mime_body` undoes the transfer encoding of a mail body and decodes what
comes out as text.  Base64 that is malformed is cleaned and decoded all the
same, so that a few wrong bytes do not hide the rest.
-/

/-! ### The end of the data -/

/-- The length of `_SMTP_TERM_RE` at a place; `^` holds at the first only. -/
def terminatorLength? (atStart : Bool) (bytes : Bytes) : Option Nat := do
  let first ←
    (SmtpParser.lineBreakLength? bytes).or (if atStart then some 0 else none)
  let dot := bytes.drop first
  if dot.head? = some 0x2E then
    let second ← SmtpParser.lineBreakLength? dot.tail
    -- `$` also matches before a last line feed.
    if dot.tail.drop second ∈ [[], [0x0A]] then
      some (first + 1 + second)
    else
      none
  else
    none

/-- `_SMTP_TERM_RE.sub(b"", ...)`; what follows a match holds no other. -/
def removeTerminator (atStart : Bool) : Bytes → Bytes
  | [] => []
  | byte :: rest =>
      match terminatorLength? atStart (byte :: rest) with
      | some length => (byte :: rest).drop length
      | none => byte :: removeTerminator false rest

/-! ### What the headers say -/

/-- The text after the first occurrence of a marker. -/
def afterMarker? (marker : Str) : Str → Option Str
  | [] => if marker = [] then some [] else none
  | char :: rest =>
      if startsWith marker (char :: rest) then
        some ((char :: rest).drop marker.length)
      else
        afterMarker? marker rest

/-- The text before the first occurrence of a marker. -/
def beforeMarker (marker : Str) : Str → Str
  | [] => []
  | char :: rest =>
      if startsWith marker (char :: rest) then []
      else char :: beforeMarker marker rest

/-- The `charset_hint` of a content type. -/
def mimeCharset (contentType : Str) : Option Str :=
  let isQuote : CodePoint → Bool :=
    fun char => char = codePoint '"' || char = chr 0x27
  (afterMarker? (lit "charset=") contentType).map fun later =>
    let part := beforeMarker (lit "charset=") later
    ((part.takeWhile (· ≠ codePoint ';')).dropWhile isQuote).rdropWhile
      isQuote

/-! ### Transfer encodings -/

/-- Is it one of the bytes `bytes.split` splits at? -/
def isBlankByte (byte : UInt8) : Bool :=
  byte = 0x20 || (0x09 ≤ byte.toNat && byte.toNat ≤ 0x0D)

/-- `_clean_base64`. -/
def cleanBase64 (data : Bytes) : Bytes :=
  let cleaned := data.filter Base64.isSymbol
  cleaned ++ List.replicate ((4 - cleaned.length % 4) % 4) 0x3D

/-- What undoing the transfer encoding leaves. -/
structure Transferred where
  bytes : Bytes
  encodings : List Str
  status : DecodeStatus
  reason : Option Str
  isUnsupported : Bool

/-- The body without its transfer encoding. -/
def decodeTransfer (cte : Str) (body : Bytes) : Transferred :=
  if cte = lit "base64" then
    match Base64.decode true (body.filter fun byte => !isBlankByte byte) with
    | some decoded => ⟨decoded, [lit "base64"], .ok, none, false⟩
    | none =>
        match Base64.decode false (cleanBase64 body) with
        | some decoded =>
            ⟨decoded, [lit "base64"], .partiallyDecoded,
              some (lit "malformed_base64_cleaned"), false⟩
        | none =>
            ⟨body, [], .failed, some (lit "base64_decode_failed"), false⟩
  else if cte = lit "quoted-printable" then
    ⟨QuotedPrintable.decode body, [lit "quoted-printable"], .ok, none, false⟩
  else if cte ∈ [lit "", lit "7bit", lit "8bit", lit "binary"] then
    ⟨body, [], .ok, none, false⟩
  else
    ⟨body, [], .ok, some (lit "unsupported_encoding:" ++ cte.take 30), true⟩

/-- `", ".join(sorted(reasons))`. -/
def joinReasons (reasons : List Str) : Option Str :=
  if reasons = [] then none
  else
    some ((lit ", ").intercalate (reasons.dedup.insertionSort (· ≤ ·)))

/-- The status of the body, from those of its two steps. -/
def mergeStatus
    (transfer charset : DecodeStatus)
    (isUnsupported : Bool) :
    DecodeStatus :=
  let merged :=
    match charset with
    | .skipped =>
        if transfer = .ok ∨ transfer = .skipped then .skipped else transfer
    | .partiallyDecoded =>
        if transfer = .failed then transfer else .partiallyDecoded
    | .failed => .failed
    | .ok => transfer
  if isUnsupported ∧ merged = .ok then .skipped else merged

section Decoding

variable (tables : DecodingTables)

/-- `str(mime_headers.get(key) or "").strip().lower()`. -/
def mimeHeader (mimeHeaders : List (Str × Str)) (key : Str) : Str :=
  tables.characters.lower
    (strip ((InsertionDict.get? mimeHeaders key).getD []))

/-- `cte`. -/
def transferEncoding (mimeHeaders : List (Str × Str)) : Str :=
  mimeHeader tables mimeHeaders (lit "content-transfer-encoding")

/-- `charset_hint`. -/
def mimeCharsetHint (mimeHeaders : List (Str × Str)) : Option Str :=
  mimeCharset (mimeHeader tables mimeHeaders (lit "content-type"))

/-- The result for a body whose transfer encoding has been undone. -/
def decodeTransferred
    (transferred : Transferred)
    (charsetHint : Option Str) :
    DecodedText :=
  if transferred.status = .failed then
    let text := decodeBytes tables transferred.bytes charsetHint false
    ⟨text.value, .failed,
      { DecodeInfo.empty with
        reason := joinReasons transferred.reason.toList }⟩
  else
    let text := decodeBytes tables transferred.bytes charsetHint true
    ⟨text.value,
      mergeStatus transferred.status text.status transferred.isUnsupported,
      { text.info with
        encodings := transferred.encodings
        reason := joinReasons
          (transferred.reason.toList ++ text.info.reason.toList) }⟩

/-- `decode_mime_body`. -/
def decodeMimeBody
    (payload : Bytes)
    (bodyOffset : Option Nat)
    (mimeHeaders : List (Str × Str)) :
    DecodedText :=
  match bodyOffset.filter (· < payload.length) with
  | none =>
      ⟨[], .skipped,
        { DecodeInfo.empty with reason := some (lit "empty_payload") }⟩
  | some bodyOffset =>
      let body := removeTerminator true (payload.drop bodyOffset)
      decodeTransferred tables
        (decodeTransfer (transferEncoding tables mimeHeaders) body)
        (mimeCharsetHint tables mimeHeaders)

end Decoding

end IntrusionDetection
