import IntrusionDetection.CharacterTables
import IntrusionDetection.Event
import IntrusionDetection.Utf8Decoding

namespace IntrusionDetection

open PyText

/-!
# Decoding of bytes, percent sequences and forms

Everything an attacker encodes is decoded on bytes first and becomes text at
the end, where undecodable bytes stay visible and are counted.
-/

/-! ### Character sets -/

/-- The character sets that are accepted. -/
inductive Codec where
  | utf8
  | ascii
  | latin1
  deriving DecidableEq

/-- The label of `SUPPORTED_CHARSETS`. -/
def Codec.label : Codec → Str
  | .utf8 => lit "utf-8"
  | .ascii => lit "us-ascii"
  | .latin1 => lit "iso-8859-1"

/-- The codec of a name that `codecs.lookup` returns. -/
def supportedCharset (name : Str) : Option Codec :=
  if name = lit "utf-8" then some .utf8
  else if name = lit "ascii" then some .ascii
  else if name = lit "iso8859-1" then some .latin1
  else none

/-- What decoding needs of the interpreter. -/
structure DecodingTables where
  characters : CharacterTables
  -- `codecs.lookup(name).name`; `none` if it raises.
  lookupCodec : Str → Option Str
  -- `html.unescape`
  unescape : Str → Str

/-- The information a decoded part carries. -/
structure DecodeInfo where
  encodings : List Str
  reason : Option Str
  charset : Option Str
  charsetUnsupported : Option Str
  invalidByteCount : Nat
  firstInvalidOffset : Option Nat
  deriving DecidableEq

/-- No information. -/
def DecodeInfo.empty : DecodeInfo where
  encodings := []
  reason := none
  charset := none
  charsetUnsupported := none
  invalidByteCount := 0
  firstInvalidOffset := none

/-- A decoded text with its status and information. -/
structure DecodedText where
  value : Str
  status : DecodeStatus
  info : DecodeInfo
  deriving DecidableEq

/-- The items of a byte string in a character set. -/
def Codec.items : Codec → Bytes → List Utf8Item
  | .utf8, data => utf8Items data
  | .ascii, data =>
      data.map fun byte =>
        if byte.toNat < 0x80 then .char (chr byte.toNat)
        else .invalid [byte]
  | .latin1, data => data.map fun byte => .char (chr byte.toNat)

/-- The bytes an item was read from. -/
def itemLength : Utf8Item → Nat
  | .char decoded => ((utf8Char? decoded).getD []).length
  | .invalid bytes => bytes.length

/-- `e.start` of a strict decoding error. -/
def firstInvalid : List Utf8Item → Option Nat
  | [] => none
  | .invalid _ :: _ => some 0
  | item :: rest => (firstInvalid rest).map (itemLength item + ·)

/-- The text with every undecodable byte shown as `U+FFFD`. -/
def shownText (items : List Utf8Item) : Str :=
  items.flatMap fun item =>
    match item with
    | .char decoded => [decoded]
    | .invalid bytes => bytes.map fun _ => chr 0xFFFD

/-- How many bytes are undecodable. -/
def invalidCount (items : List Utf8Item) : Nat :=
  (items.map fun item =>
    match item with
    | .char _ => 0
    | .invalid bytes => bytes.length).sum

section Decoding

variable (tables : DecodingTables)

/-- `_resolve_charset`. -/
def resolveCharset (hint : Str) : Option Codec :=
  let isQuote : CodePoint → Bool :=
    fun char => char = codePoint '"' || char = chr 0x27
  let bare := ((strip hint).dropWhile isQuote).rdropWhile isQuote
  (tables.lookupCodec (tables.characters.lower bare)).bind
    supportedCharset

/--
`decode_bytes`.  The share of NUL bytes is compared as an exact fraction, which
is what the floats decide for any data that fits in memory.
-/
def decodeBytes
    (data : Bytes)
    (charsetHint : Option Str)
    (detectBinary : Bool) :
    DecodedText :=
  if data.isEmpty then
    ⟨[], .skipped,
      { DecodeInfo.empty with reason := some (lit "empty_payload") }⟩
  else if detectBinary && 3 * data.length ≤ 10 * data.count 0 then
    ⟨[], .skipped,
      { DecodeInfo.empty with reason := some (lit "binary_content") }⟩
  else
    let hint := charsetHint.filter (· ≠ [])
    let resolved := hint.bind (resolveCharset tables)
    let codec := resolved.getD .utf8
    let info :=
      { DecodeInfo.empty with
        charset := some codec.label
        charsetUnsupported :=
          if resolved.isSome then none else hint.map (·.take 64) }
    let items := codec.items data
    match firstInvalid items with
    | none => ⟨shownText items, .ok, info⟩
    | some offset =>
        ⟨shownText items, .partiallyDecoded,
          { info with
            invalidByteCount := invalidCount items
            firstInvalidOffset := some offset }⟩

/-! ### Percent sequences -/

/-- The value of a hexadecimal digit. -/
def hexValue? (byte : UInt8) : Option Nat :=
  let value := byte.toNat
  if 0x30 ≤ value ∧ value ≤ 0x39 then some (value - 0x30)
  else if 0x41 ≤ value ∧ value ≤ 0x46 then some (value - 0x37)
  else if 0x61 ≤ value ∧ value ≤ 0x66 then some (value - 0x57)
  else none

/-- The byte that two hexadecimal digits at the start stand for. -/
def hexPair? : Bytes → Option UInt8
  | first :: second :: _ =>
      (hexValue? first).bind fun high =>
        (hexValue? second).map fun low => UInt8.ofNat (16 * high + low)
  | _ => none

/-- Does `_INVALID_PERCENT_RE` find a `%` without two hexadecimal digits? -/
def hasInvalidPercent : Bytes → Bool
  | [] => false
  | byte :: rest =>
      (byte = 0x25 && (hexPair? rest).isNone) || hasInvalidPercent rest

/-- `unquote_to_bytes`; `skip` bytes belong to the sequence just replaced. -/
def unquoteFrom : Nat → Bytes → Bytes
  | _, [] => []
  | skip + 1, _ :: rest => unquoteFrom skip rest
  | 0, byte :: rest =>
      if byte = 0x25 then
        match hexPair? rest with
        | some decoded => decoded :: unquoteFrom 2 rest
        | none => byte :: unquoteFrom 0 rest
      else
        byte :: unquoteFrom 0 rest

/-- `unquote_to_bytes`. -/
def unquoteToBytes (data : Bytes) : Bytes :=
  unquoteFrom 0 data

/-- `data.replace(b'+', b' ')`. -/
def plusToSpace (data : Bytes) : Bytes :=
  data.map fun byte => if byte = 0x2B then 0x20 else byte

/-- The passes of `percent_decode`: the bytes, the passes that changed
something, and whether a sequence was malformed. -/
def percentPasses : Nat → Bytes → Bytes × Nat × Bool
  | 0, data => (data, 0, false)
  | passes + 1, data =>
      if data.contains 0x25 then
        let malformed := hasInvalidPercent data
        let decoded := unquoteToBytes data
        if decoded = data then
          (data, 0, malformed)
        else
          let (final, changed, later) := percentPasses passes decoded
          (final, changed + 1, malformed || later)
      else
        (data, 0, false)

/-- `percent_decode` of bytes. -/
def percentDecode
    (data : Bytes)
    (passes : Nat)
    (plusAsSpace : Bool)
    (charsetHint : Option Str) :
    DecodedText :=
  let data := if plusAsSpace then plusToSpace data else data
  let (final, changed, malformed) := percentPasses passes data
  let decoded := decodeBytes tables final charsetHint false
  let info :=
    { decoded.info with
      encodings := List.replicate changed (lit "percent") }
  if malformed then
    ⟨decoded.value,
      if decoded.status = .ok then .partiallyDecoded else decoded.status,
      { info with reason := some (lit "invalid_percent_sequence") }⟩
  else
    ⟨decoded.value, decoded.status, info⟩

/-- `_to_bytes` of a text; `none` is its `UnicodeEncodeError`. -/
def toBytes? (text : Str) : Option Bytes :=
  (text.mapM fun char =>
    if 0xDC80 ≤ char.val ∧ char.val ≤ 0xDCFF then
      some [UInt8.ofNat (char.val - 0xDC00)]
    else
      utf8Char? char).map List.flatten

/-- `decode_uri`: `+` is a space after the first `?` only. -/
def decodeUri?
    (uri : Str)
    (passes : Nat)
    (plusAsSpaceInQuery : Bool) :
    Option DecodedText :=
  (toBytes? uri).map fun raw =>
    let path := raw.takeWhile (· ≠ 0x3F)
    let query := raw.dropWhile (· ≠ 0x3F)
    percentDecode tables
      (path ++ if plusAsSpaceInQuery then plusToSpace query else query)
      passes false none

/-! ### Forms -/

/-- A decoded form. -/
structure DecodedForm where
  value : List (Str × Str)
  status : DecodeStatus
  encodings : List Str
  reasons : List Str
  invalidByteCount : Nat
  deriving DecidableEq

/-- `data.split(b'&')`. -/
def splitPairs (data : Bytes) : List Bytes :=
  data.splitOn 0x26

/-- The key and the value of a pair, split at its first `=`. -/
def splitPair (pair : Bytes) : Bytes × Bytes :=
  (pair.takeWhile (· ≠ 0x3D), (pair.dropWhile (· ≠ 0x3D)).tail)

/-- The status of a form after one more part. -/
def combineStatus (overall part : DecodeStatus) : DecodeStatus :=
  match part with
  | .failed => .failed
  | .partiallyDecoded =>
      if overall = .failed then .failed else .partiallyDecoded
  | _ => overall

/-- What a form has after the information of one more part. -/
def addPart (form : DecodedForm) (part : DecodedText) : DecodedForm where
  value := form.value
  status := combineStatus form.status part.status
  encodings :=
    if form.encodings.length < part.info.encodings.length then
      part.info.encodings
    else
      form.encodings
  reasons :=
    match part.info.reason with
    | some reason =>
        if reason ∈ form.reasons then form.reasons
        else form.reasons ++ [reason]
    | none => form.reasons
  invalidByteCount := form.invalidByteCount + part.info.invalidByteCount

/-- One round of the loop over the pairs. -/
def addPair
    (passes : Nat)
    (plusAsSpace : Bool)
    (charsetHint : Option Str)
    (form : DecodedForm)
    (pair : Bytes) :
    DecodedForm :=
  if pair.isEmpty then
    form
  else
    let (key, value) := splitPair pair
    let key := percentDecode tables key passes plusAsSpace charsetHint
    let value := percentDecode tables value passes plusAsSpace charsetHint
    addPart (addPart
      { form with value := form.value ++ [(key.value, value.value)] }
      key) value

/-- `decode_form_body`. -/
def decodeFormBody
    (data : Bytes)
    (passes : Nat)
    (plusAsSpace : Bool)
    (charsetHint : Option Str) :
    DecodedForm :=
  if data.isEmpty then
    ⟨[], .skipped, [], [], 0⟩
  else
    (splitPairs data).foldl
      (addPair tables passes plusAsSpace charsetHint)
      ⟨[], .ok, [], [], 0⟩

end Decoding

end IntrusionDetection
