import IntrusionDetection.HttpBodies
import IntrusionDetection.MimeDecoder
import IntrusionDetection.SmtpLines
import Mathlib.Data.List.Dedup

namespace IntrusionDetection

open PyText SmtpParser

/-!
# Transfer decoding undoes transfer encoding

What the decoder shows of a mail is decided by the bytes that were encoded:
neither the folding of the lines, nor the end mark of the data, nor bytes that
are thrown into the text hide them.
-/

/-! ### The end mark -/

/-- What `_SMTP_TERM_RE` matches. -/
theorem shape_of_terminatorLength?
    {atStart : Bool}
    {bytes : Bytes}
    {length : Nat}
    (found : terminatorLength? atStart bytes = some length) :
    ∃ leading ending rest,
      (leading = [] ∨ IsLineBreak leading) ∧ IsLineBreak ending ∧
        (rest = [] ∨ rest = [0x0A]) ∧
        bytes = leading ++ 0x2E :: (ending ++ rest) ∧
        length = leading.length + 1 + ending.length := by
  obtain ⟨first, isFirst, found⟩ := Option.bind_eq_some_iff.mp found
  obtain ⟨leading, dot, isLeading, sizeLeading, whole⟩ :
      ∃ leading dot,
        (leading = [] ∨ IsLineBreak leading) ∧ leading.length = first ∧
          bytes = leading ++ dot := by
    rcases Option.or_eq_some_iff.mp isFirst with isBreak | ⟨_, isStart⟩
    · obtain ⟨leading, dot, isLeading, size, whole⟩ :=
        lineBreakLength?_eq_some_iff.mp isBreak
      exact ⟨leading, dot, .inr isLeading, size, whole⟩
    · split at isStart
      · cases isStart
        exact ⟨[], bytes, .inl rfl, rfl, rfl⟩
      · cases isStart
  subst sizeLeading whole
  rw [List.drop_left] at found
  dsimp only at found
  split at found
  · rename_i isDot
    obtain ⟨later, rfl⟩ := List.head?_eq_some_iff.mp isDot
    obtain ⟨second, isSecond, found⟩ := Option.bind_eq_some_iff.mp found
    obtain ⟨ending, rest, isEnding, rfl, same⟩ :=
      lineBreakLength?_eq_some_iff.mp isSecond
    rw [List.tail_cons] at same found
    subst same
    rw [List.drop_left] at found
    split at found
    · rename_i isRest
      cases found
      exact ⟨leading, ending, rest, isLeading, isEnding,
        by simpa using isRest, rfl, rfl⟩
    · cases found
  · cases found

/-- The end mark holds no symbol of Base64. -/
theorem sextets_removeTerminator
    (atStart : Bool)
    (body : Bytes) :
    Base64.sextets (removeTerminator atStart body) =
      Base64.sextets body := by
  induction body generalizing atStart with
  | nil =>
      rfl
  | cons byte rest inductionHypothesis =>
      rw [removeTerminator]
      split
      · rename_i length found
        obtain ⟨leading, ending, tail, isLeading, isEnding, _, whole, rfl⟩ :=
          shape_of_terminatorLength? found
        rw [whole]
        rcases isLeading with rfl | rfl | rfl <;>
          rcases isEnding with rfl | rfl <;> rfl
      · simp only [Base64.sextets, List.filterMap_cons]
          at inductionHypothesis ⊢
        rw [inductionHypothesis]

/-- The end mark after a text is what is removed. -/
theorem removeTerminator_append
    (atStart : Bool)
    (text : Bytes) :
    removeTerminator atStart (text ++ [0x0D, 0x0A, 0x2E, 0x0D, 0x0A]) =
      text := by
  induction text generalizing atStart with
  | nil =>
      rfl
  | cons byte rest inductionHypothesis =>
      have notHere :
          terminatorLength? atStart
              (byte :: (rest ++ [0x0D, 0x0A, 0x2E, 0x0D, 0x0A])) =
            none := by
        rw [Option.eq_none_iff_forall_ne_some]
        intro length found
        obtain ⟨leading, ending, tail, isLeading, isEnding, isTail, whole,
            _⟩ := shape_of_terminatorLength? found
        have reversed := congrArg List.reverse whole
        have long := congrArg List.length whole
        rcases isEnding with rfl | rfl <;> rcases isTail with rfl | rfl <;>
          simp at reversed
        rcases isLeading with rfl | rfl | rfl <;> simp at long
      rw [List.cons_append, removeTerminator, notHere, inductionHypothesis]

/-! ### Base64 bodies -/

/-- The cleaned body is its canonical form. -/
theorem cleanBase64_eq_canonical (body : Bytes) :
    cleanBase64 body = Base64.canonical body := by
  rw [cleanBase64, Base64.canonical, Base64.length_sextets,
    Base64.paddingLength, Base64.pad]

/-- No symbol is a blank. -/
theorem notBlank_of_isSymbol
    (byte : UInt8)
    (isSymbol : Base64.isSymbol byte = true) :
    (!isBlankByte byte) = true := by
  by_contra isBlank
  simp only [isBlankByte, Bool.not_eq_true, Bool.not_eq_false',
    Bool.or_eq_true, Bool.and_eq_true, decide_eq_true_eq] at isBlank
  rcases isBlank with rfl | ⟨_, high⟩
  · cases isSymbol
  · have noValue : Base64.sextet? byte = none := by
      simp only [Base64.sextet?]
      repeat rw [if_neg (by omega)]
    rw [Base64.isSymbol, noValue] at isSymbol
    cases isSymbol

/--
Is the body, without its blanks, what an encoder writes, up to more padding
after whole groups?
-/
def IsWellPadded (body : Bytes) : Prop :=
  Base64.IsStrict (body.filter fun byte => !isBlankByte byte)

instance (body : Bytes) : Decidable (IsWellPadded body) :=
  inferInstanceAs (Decidable (Base64.IsStrict _))

/-- A strict decoder accepts the well padded bodies. -/
theorem decode_strict_body_iff
    {body data : Bytes} :
    Base64.decode true (body.filter fun byte => !isBlankByte byte) =
        some data ↔
      IsWellPadded body ∧
        Base64.joinSextets (Base64.sextets body) = some data := by
  rw [Base64.decode_strict_eq_some_iff,
    Base64.sextets_filter_of notBlank_of_isSymbol, IsWellPadded]

/-- A body whose last group has one symbol cannot be decoded. -/
theorem decodeTransfer_base64_failed
    {body : Bytes}
    (isOpen : Base64.joinSextets (Base64.sextets body) = none) :
    decodeTransfer (lit "base64") body =
      ⟨body, [], .failed, some (lit "base64_decode_failed"), false⟩ := by
  have notStrict :
      Base64.decode true (body.filter fun byte => !isBlankByte byte) =
        none := by
    rw [Option.eq_none_iff_forall_ne_some]
    intro data accepted
    rw [(decode_strict_body_iff.mp accepted).2] at isOpen
    cases isOpen
  rw [decodeTransfer, if_pos rfl, notStrict, cleanBase64_eq_canonical,
    Base64.decode_canonical, isOpen]

/--
Any other body is decoded to what its symbols stand for, and is marked unless
it is well padded.
-/
theorem decodeTransfer_base64_decoded
    {body data : Bytes}
    (joined : Base64.joinSextets (Base64.sextets body) = some data) :
    decodeTransfer (lit "base64") body =
      if IsWellPadded body then
        ⟨data, [lit "base64"], .ok, none, false⟩
      else
        ⟨data, [lit "base64"], .partiallyDecoded,
          some (lit "malformed_base64_cleaned"), false⟩ := by
  by_cases wellPadded : IsWellPadded body
  · rw [decodeTransfer, if_pos rfl, if_pos wellPadded,
      decode_strict_body_iff.mpr ⟨wellPadded, joined⟩]
  · have notStrict :
        Base64.decode true (body.filter fun byte => !isBlankByte byte) =
          none := by
      rw [Option.eq_none_iff_forall_ne_some]
      intro other accepted
      exact wellPadded (decode_strict_body_iff.mp accepted).1
    rw [decodeTransfer, if_pos rfl, if_neg wellPadded, notStrict,
      cleanBase64_eq_canonical, Base64.decode_canonical, joined]

/-! ### The decoded body -/

/-- One reason is joined to itself. -/
theorem joinReasons_toList (reason : Option Str) :
    joinReasons reason.toList = reason := by
  cases reason with
  | none =>
      rfl
  | some text =>
      rw [Option.toList_some, joinReasons, if_neg (List.cons_ne_nil _ _),
        List.dedup_eq_self.mpr (List.nodup_singleton text),
        List.insertionSort_cons, List.insertionSort_nil,
        List.orderedInsert_nil, List.intercalate_singleton]

/-- A transfer encoding without a fault leaves the status of the text. -/
theorem mergeStatus_ok (status : DecodeStatus) :
    mergeStatus .ok status false = status := by
  cases status <;> rfl

/-- Bytes are never beyond decoding. -/
theorem status_decodeBytes_ne_failed
    (tables : DecodingTables)
    (data : Bytes)
    (charsetHint : Option Str)
    (detectBinary : Bool) :
    (decodeBytes tables data charsetHint detectBinary).status ≠ .failed := by
  unfold decodeBytes
  split
  · exact DecodeStatus.noConfusion
  · split
    · exact DecodeStatus.noConfusion
    · dsimp only
      split <;> exact DecodeStatus.noConfusion

section Bodies

variable
    (tables : DecodingTables)
    {payload : Bytes}
    {bodyOffset : Nat}
    (hasBody : bodyOffset < payload.length)
    (mimeHeaders : List (Str × Str))

include hasBody

/-- A body that is there is decoded in two steps. -/
theorem decodeMimeBody_of_lt :
    decodeMimeBody tables payload (some bodyOffset) mimeHeaders =
      decodeTransferred tables
        (decodeTransfer (transferEncoding tables mimeHeaders)
          (removeTerminator true (payload.drop bodyOffset)))
        (mimeCharsetHint tables mimeHeaders) := by
  rw [decodeMimeBody, Option.filter_some, if_pos (decide_eq_true hasBody)]

variable {mimeHeaders}

/-- The text that is shown is that of the bytes the symbols stand for. -/
theorem value_of_joinSextets
    (isBase64 : transferEncoding tables mimeHeaders = lit "base64")
    {data : Bytes}
    (joined :
      Base64.joinSextets (Base64.sextets (payload.drop bodyOffset)) =
        some data) :
    (decodeMimeBody tables payload (some bodyOffset) mimeHeaders).value =
      (decodeBytes tables data (mimeCharsetHint tables mimeHeaders)
        true).value := by
  rw [← sextets_removeTerminator true] at joined
  rw [decodeMimeBody_of_lt tables hasBody, isBase64,
    decodeTransfer_base64_decoded joined]
  split <;> rfl

/--
Whatever is thrown between the symbols of a Base64 body, the text that is shown
is that of the bytes that were encoded.
-/
theorem value_decodeMimeBody_of_symbols
    (isBase64 : transferEncoding tables mimeHeaders = lit "base64")
    {data : Bytes}
    (sameSymbols :
      (payload.drop bodyOffset).filter Base64.isSymbol =
        (Base64.encode data).filter Base64.isSymbol) :
    (decodeMimeBody tables payload (some bodyOffset) mimeHeaders).value =
      (decodeBytes tables data (mimeCharsetHint tables mimeHeaders)
        true).value := by
  apply value_of_joinSextets tables hasBody isBase64
  rw [← Base64.sextets_filter, sameSymbols, Base64.sextets_filter,
    Base64.sextets_encode, Base64.joinSextets_splitBytes]

/-- The status is that of the text unless the body was cleaned. -/
theorem status_of_joinSextets
    (isBase64 : transferEncoding tables mimeHeaders = lit "base64")
    {data : Bytes}
    (joined :
      Base64.joinSextets (Base64.sextets (payload.drop bodyOffset)) =
        some data) :
    (decodeMimeBody tables payload (some bodyOffset) mimeHeaders).status =
      if IsWellPadded
          (removeTerminator true (payload.drop bodyOffset)) then
        (decodeBytes tables data (mimeCharsetHint tables mimeHeaders)
          true).status
      else
        .partiallyDecoded := by
  rw [← sextets_removeTerminator true] at joined
  rw [decodeMimeBody_of_lt tables hasBody, isBase64,
    decodeTransfer_base64_decoded joined]
  split
  · exact mergeStatus_ok _
  · have notFailed := status_decodeBytes_ne_failed tables data
      (mimeCharsetHint tables mimeHeaders) true
    simp only [decodeTransferred, reduceCtorEq, if_false]
    cases isStatus :
        (decodeBytes tables data (mimeCharsetHint tables mimeHeaders)
          true).status with
    | failed =>
        exact absurd isStatus notFailed
    | ok | partiallyDecoded | skipped =>
        rfl

/--
A Base64 body fails exactly if one symbol is left over.  Any other body has
the status of its text if it is well padded, and is partial if it is not.
-/
theorem status_decodeMimeBody_base64
    (isBase64 : transferEncoding tables mimeHeaders = lit "base64") :
    ((decodeMimeBody tables payload (some bodyOffset) mimeHeaders).status =
        .failed ↔
      (payload.drop bodyOffset).countP Base64.isSymbol % 4 = 1) ∧
    ∀ data,
      Base64.joinSextets (Base64.sextets (payload.drop bodyOffset)) =
          some data →
        (decodeMimeBody tables payload (some bodyOffset)
            mimeHeaders).status =
          if IsWellPadded
              (removeTerminator true (payload.drop bodyOffset)) then
            (decodeBytes tables data (mimeCharsetHint tables mimeHeaders)
              true).status
          else
            .partiallyDecoded := by
  refine ⟨?_, fun data joined =>
    status_of_joinSextets tables hasBody isBase64 joined⟩
  rw [List.countP_eq_length_filter, ← Base64.length_sextets,
    ← Base64.joinSextets_eq_none_iff]
  constructor
  · intro failed
    cases joined :
        Base64.joinSextets (Base64.sextets (payload.drop bodyOffset)) with
    | none =>
        rfl
    | some data =>
        rw [status_of_joinSextets tables hasBody isBase64 joined] at failed
        split at failed
        · exact absurd failed (status_decodeBytes_ne_failed tables data _ _)
        · cases failed
  · intro isOpen
    rw [← sextets_removeTerminator true] at isOpen
    rw [decodeMimeBody_of_lt tables hasBody, isBase64,
      decodeTransfer_base64_failed isOpen]
    rfl

end Bodies

/-- The tables of an interpreter that knows ASCII and no aliases. -/
def plainTables : DecodingTables where
  characters := .ascii
  lookupCodec := fun _ => none
  unescape := id

/-- The headers of a Base64 mail. -/
def base64Headers : List (Str × Str) :=
  [(lit "content-transfer-encoding", lit " BASE64 ")]

/-- A greeting in Base64, with two bytes thrown in. -/
def junkedGreeting : Bytes :=
  asciiBytes "aG!Vs\r\nbG-8="

/-- It is shown, and marked. -/
theorem junkedGreeting_shown :
    (decodeMimeBody plainTables junkedGreeting (some 0)
      base64Headers).value = lit "hello" :=
  (@value_decodeMimeBody_of_symbols plainTables junkedGreeting 0
    (by decide) base64Headers (by decide) (asciiBytes "hello")
    (by decide)).trans (by decide +kernel)

example :
    (decodeMimeBody plainTables (asciiBytes "YWJj==\r\n") (some 0)
      base64Headers).status = .ok := by
  decide +kernel

/-- It is decoded in part, because it is not well padded. -/
theorem junkedGreeting_partial :
    (decodeMimeBody plainTables junkedGreeting (some 0)
      base64Headers).status = .partiallyDecoded :=
  ((@status_decodeMimeBody_base64 plainTables junkedGreeting 0
    (by decide) base64Headers (by decide)).2 (asciiBytes "hello")
    (by decide)).trans (if_neg (by decide))

end IntrusionDetection
