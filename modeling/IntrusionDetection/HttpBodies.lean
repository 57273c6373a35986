import IntrusionDetection.FaultPrecedence
import IntrusionDetection.HttpDecoder

namespace IntrusionDetection

open PyText FaultPrecedence HttpParser

/-!
# The two bodies of an HTTP packet

The parser previews a body and the decoder decodes one.  Both cut the bytes
after the head at the reported length, but only the decoder tells a length of
zero from a missing one.
-/

/-- The length a header line reports, if it reports one. -/
def reportedLength (tables : CharacterTables) (line : Str) : Option Int :=
  (headerPair line).bind fun pair =>
    if tables.lower pair.1 = lit "content-length" then
      tables.int? pair.2
    else
      none

/-- The lengths the header lines of a packet report, in their order. -/
def reportedLengths (tables : CharacterTables) (raw : Bytes) : List Int :=
  (headLines raw).tail.filterMap (reportedLength tables)

/-- A header line replaces the length exactly when it reports one. -/
theorem contentLength_readHeader
    (tables : CharacterTables)
    (state : HeaderState)
    (line : Str) :
    (readHeader tables state line).contentLength =
      (reportedLength tables line).or state.contentLength := by
  unfold readHeader reportedLength
  cases headerPair line with
  | none =>
      rfl
  | some pair =>
      obtain ⟨key, value⟩ := pair
      simp only [Option.bind_some]
      split
      · cases tables.int? value <;> rfl
      · split <;> rfl

/-- The last length that is reported is the one that is kept. -/
theorem contentLength_foldl
    (tables : CharacterTables)
    (lines : List Str)
    (state : HeaderState) :
    (lines.foldl (readHeader tables) state).contentLength =
      (lines.filterMap (reportedLength tables)).getLast?.or
        state.contentLength := by
  induction lines generalizing state with
  | nil =>
      rfl
  | cons line rest inductionHypothesis =>
      rw [List.foldl_cons, inductionHypothesis, contentLength_readHeader,
        List.filterMap_cons]
      cases reportedLength tables line with
      | none =>
          rfl
      | some length =>
          simp only [List.getLast?_cons, Option.some_or]
          cases (rest.filterMap (reportedLength tables)).getLast? <;> rfl

/-- The parts around a separator, and the separator, make up the whole. -/
theorem splitOnce_eq_some
    {separator data before after : Bytes}
    (found : splitOnce separator data = some (before, after)) :
    data = before ++ separator ++ after := by
  induction data generalizing before with
  | nil =>
      cases found
  | cons byte rest inductionHypothesis =>
      rw [splitOnce] at found
      split at found
      · rename_i isPrefix
        cases found
        obtain ⟨after, whole⟩ := List.isPrefixOf_iff_prefix.mp isPrefix
        rw [← whole, List.drop_left, List.nil_append]
      · obtain ⟨parts, isParts, same⟩ := Option.map_eq_some_iff.mp found
        cases same
        rw [inductionHypothesis isParts]
        rfl

/-- What the parser reports of a packet it accepts. -/
theorem fields_of_parseHttp
    {tables : CharacterTables}
    {raw : Bytes}
    {fields : HttpFields}
    (parsed : parseHttp tables raw = .ok fields) :
    raw ≠ [] ∧
      fields.bodyOffset = bodyOffset raw ∧
      fields.contentLength = (reportedLengths tables raw).getLast? ∧
      fields.bodyPreview =
        if (bodyBytes raw).isEmpty then none
        else
          some (decodeUtf8Replace
            ((actualBody (bodyBytes raw)
              (fields.contentLength.getD 0)).take 1024)) := by
  have accepted : readPacket tables raw = .ok fields := by
    unfold parseHttp at parsed
    split at parsed
    · rename_i isRead
      cases parsed
      exact isRead
    · cases parsed
  clear parsed
  unfold readPacket at accepted
  split at accepted
  · cases accepted
  · rename_i notEmpty
    split at accepted
    · cases accepted
    · rename_i first rest isLines
      split at accepted
      · cases accepted
      · obtain ⟨startLine, _, accepted⟩ := exists_of_bind_ok accepted
        cases accepted
        refine ⟨fun isEmpty => notEmpty (by rw [isEmpty]; rfl), rfl, ?_, rfl⟩
        dsimp only
        rw [readHeaders, contentLength_foldl, Option.or_none,
          reportedLengths, isLines, List.tail_cons]

/--
The decoder's body is the one that is previewed, unless the last reported
length is zero and something follows the head all the same.
-/
theorem selectBody_eq_actualBody_iff
    {tables : CharacterTables}
    {raw : Bytes}
    {fields : HttpFields}
    (parsed : parseHttp tables raw = .ok fields)
    (terminated : fields.bodyOffset.isSome = true) :
    selectBody raw fields =
        some (actualBody (bodyBytes raw) (fields.contentLength.getD 0)) ↔
      ((reportedLengths tables raw).getLast? = some 0 →
        bodyBytes raw = []) := by
  obtain ⟨notEmpty, isOffset, isLength, _⟩ := fields_of_parseHttp parsed
  rw [isOffset, bodyOffset, Option.isSome_map] at terminated
  obtain ⟨⟨before, after⟩, split⟩ := Option.isSome_iff_exists.mp terminated
  have isAfter : bodyBytes raw = after := by
    simp only [bodyBytes, split]
  have dropped : raw.drop (before.length + 4) = after := by
    rw [splitOnce_eq_some split]
    exact List.drop_left' (by simp [terminator])
  have selected :
      selectBody raw fields =
        some (limitBody fields.contentLength after) := by
    simp only [selectBody, List.isEmpty_eq_false_iff.mpr notEmpty,
      isOffset, bodyOffset, split, Option.map_some, dropped]
    rfl
  rw [selected, isAfter, Option.some.injEq, ← isLength]
  cases fields.contentLength with
  | none =>
      simp [actualBody, limitBody]
  | some length =>
      rcases lt_trichotomy length 0 with negative | rfl | positive
      · have notPositive : ¬ 0 < length := by
          omega
        simp [actualBody, limitBody, not_le.mpr negative, notPositive,
          negative.ne]
      · simp [actualBody, limitBody, eq_comm]
      · simp [actualBody, limitBody, positive, positive.le, positive.ne']

/-- The bytes of an ASCII text. -/
def asciiBytes (text : String) : Bytes :=
  text.toList.map fun char => UInt8.ofNat char.toNat

/-- A response that is longer than it says. -/
def chattyResponse : Bytes :=
  asciiBytes "HTTP/1.1 200 OK\r\nContent-Length: 2\r\n\r\nabc"

/-- Both stages take the first two bytes of its body. -/
theorem chattyResponse_bodies :
    ∃ fields,
      parseHttp .ascii chattyResponse = .ok fields ∧
        selectBody chattyResponse fields =
          some (actualBody (bodyBytes chattyResponse)
            (fields.contentLength.getD 0)) := by
  obtain ⟨fields, parsed⟩ :
      ∃ fields,
        parseHttp .ascii chattyResponse = .ok fields :=
    ⟨_, rfl⟩
  refine ⟨fields, parsed, ?_⟩
  apply (selectBody_eq_actualBody_iff parsed ?_).mpr
  · intro isZero
    exact absurd isZero (by decide +kernel)
  · rw [(fields_of_parseHttp parsed).2.1]
    decide +kernel

/-- A response that says it has no body, followed by something else. -/
def emptyResponse : Bytes :=
  asciiBytes "HTTP/1.1 200 OK\r\nContent-Length: 0\r\n\r\nabc"

/-- The parser previews three bytes of it, the decoder decodes none. -/
theorem emptyResponse_bodies :
    ∃ fields,
      parseHttp .ascii emptyResponse = .ok fields ∧
        fields.bodyOffset.isSome = true ∧
        fields.bodyPreview = some (lit "abc") ∧
        selectBody emptyResponse fields = some [] ∧
        selectBody emptyResponse fields ≠
          some (actualBody (bodyBytes emptyResponse)
            (fields.contentLength.getD 0)) :=
  ⟨_, rfl, rfl, rfl, rfl, nofun⟩

end IntrusionDetection
