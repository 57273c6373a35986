import IntrusionDetection.UrlDecoder

namespace IntrusionDetection

open PyText

/-!
# Form decoding undoes form encoding

A form is written with every byte escaped that could be taken for something
else.  One pass of the decoder reads the components back; no component holds
a separator, so the pairs are split where they were joined.
-/

/-! ### Writing a form -/

/-- `A-Z`, `a-z`, `0-9` and `_.~-`. -/
def isUnreserved (byte : UInt8) : Bool :=
  let value := byte.toNat
  (0x41 ≤ value && value ≤ 0x5A) || (0x61 ≤ value && value ≤ 0x7A) ||
    (0x30 ≤ value && value ≤ 0x39) ||
    value = 0x5F || value = 0x2E || value = 0x7E || value = 0x2D

/-- A capital hexadecimal digit. -/
def hexDigitByte (value : Nat) : UInt8 :=
  UInt8.ofNat (if value < 10 then 0x30 + value else 0x37 + value)

/-- One byte of a component, with a space as `escapedSpace`. -/
def encodeByte (escapedSpace byte : UInt8) : Bytes :=
  if byte = 0x20 then [escapedSpace]
  else if isUnreserved byte then [byte]
  else
    [0x25, hexDigitByte (byte.toNat / 16), hexDigitByte (byte.toNat % 16)]

/-- A key or a value as a form writes it; a surrogate cannot be written. -/
def encodeComponent (text : Str) : Option Bytes :=
  (utf8? text).map fun data => data.flatMap (encodeByte 0x2B)

/-- `key=value`. -/
def encodePair (pair : Str × Str) : Option Bytes := do
  let key ← encodeComponent pair.1
  let value ← encodeComponent pair.2
  return key ++ 0x3D :: value

/-- The pairs, joined by `&`. -/
def encodeForm (pairs : List (Str × Str)) : Option Bytes :=
  (pairs.mapM encodePair).map fun parts => [0x26].intercalate parts

/-! ### One component -/

/-- A capital hexadecimal digit has its value, and is no other sign. -/
theorem hexDigitByte_facts
    {value : Nat}
    (small : value < 16) :
    hexValue? (hexDigitByte value) = some value ∧
      isUnreserved (hexDigitByte value) = true := by
  interval_cases value <;> exact ⟨rfl, rfl⟩

/-- The bytes that escape a byte stand for it. -/
theorem hexPair?_encoded (byte : UInt8) (rest : Bytes) :
    hexPair?
        (hexDigitByte (byte.toNat / 16) ::
          hexDigitByte (byte.toNat % 16) :: rest) =
      some byte := by
  have bound := byte.toNat_lt
  have high := (hexDigitByte_facts
    (show byte.toNat / 16 < 16 by omega)).1
  have low := (hexDigitByte_facts
    (show byte.toNat % 16 < 16 by omega)).1
  simp only [hexPair?, high, low, Option.bind_some, Option.map_some,
    Nat.div_add_mod, UInt8.ofNat_toNat]

/-- An unreserved byte is none of the signs a form is made of. -/
theorem ne_of_isUnreserved
    {byte : UInt8}
    (unreserved : isUnreserved byte = true) :
    byte ≠ 0x20 ∧ byte ≠ 0x25 ∧ byte ≠ 0x26 ∧ byte ≠ 0x2B ∧
      byte ≠ 0x3D := by
  refine ⟨?_, ?_, ?_, ?_, ?_⟩ <;>
  · intro same
    subst same
    exact absurd unreserved (by decide)

/-- Which bytes stand in an encoded byte. -/
theorem mem_encodeByte
    {space byte sign : UInt8}
    (member : sign ∈ encodeByte space byte) :
    sign = space ∨ sign = 0x25 ∨ isUnreserved sign = true := by
  have bound := byte.toNat_lt
  unfold encodeByte at member
  split at member
  · exact .inl (List.mem_singleton.mp member)
  · split at member
    · rename_i unreserved
      rw [List.mem_singleton.mp member]
      exact .inr (.inr unreserved)
    · simp only [List.mem_cons, List.not_mem_nil, or_false] at member
      rcases member with rfl | rfl | rfl
      · exact .inr (.inl rfl)
      · exact .inr (.inr (hexDigitByte_facts (by omega)).2)
      · exact .inr (.inr (hexDigitByte_facts (by omega)).2)

/-- Making spaces of the pluses turns the form's escapes into plain ones. -/
theorem plusToSpace_encoded (data : Bytes) :
    plusToSpace (data.flatMap (encodeByte 0x2B)) =
      data.flatMap (encodeByte 0x20) := by
  have keeps :
      ∀ byte : UInt8,
        plusToSpace (encodeByte 0x2B byte) = encodeByte 0x20 byte := by
    intro byte
    have bound := byte.toNat_lt
    unfold encodeByte
    split
    · rfl
    · split
      · rename_i unreserved
        simp [plusToSpace, (ne_of_isUnreserved unreserved).2.2.2.1]
      · have high := ne_of_isUnreserved (hexDigitByte_facts
          (show byte.toNat / 16 < 16 by omega)).2
        have low := ne_of_isUnreserved (hexDigitByte_facts
          (show byte.toNat % 16 < 16 by omega)).2
        simp [plusToSpace, high.2.2.2.1, low.2.2.2.1]
  induction data with
  | nil =>
      rfl
  | cons byte rest inductionHypothesis =>
      have together :
          ∀ first second : Bytes,
            plusToSpace (first ++ second) =
              plusToSpace first ++ plusToSpace second :=
        fun _ _ => List.map_append
      rw [List.flatMap_cons, together, keeps, inductionHypothesis,
        List.flatMap_cons]

/-- Unquoting reads the escaped bytes back. -/
theorem unquoteToBytes_encoded (data : Bytes) :
    unquoteToBytes (data.flatMap (encodeByte 0x20)) = data := by
  unfold unquoteToBytes
  induction data with
  | nil =>
      rfl
  | cons byte rest inductionHypothesis =>
      rw [List.flatMap_cons]
      by_cases isSpace : byte = 0x20
      · subst isSpace
        exact congrArg (0x20 :: ·) inductionHypothesis
      · by_cases unreserved : isUnreserved byte = true
        · have notPercent := (ne_of_isUnreserved unreserved).2.1
          simp only [encodeByte, isSpace, unreserved, if_true, if_false,
            List.singleton_append, unquoteFrom, notPercent,
            inductionHypothesis]
        · simp only [encodeByte, isSpace, unreserved, if_true, if_false,
            Bool.false_eq_true, List.cons_append, List.nil_append,
            unquoteFrom, hexPair?_encoded, inductionHypothesis]

/-- No escape is malformed. -/
theorem hasInvalidPercent_encoded (data : Bytes) :
    hasInvalidPercent (data.flatMap (encodeByte 0x20)) = false := by
  induction data with
  | nil =>
      rfl
  | cons byte rest inductionHypothesis =>
      rw [List.flatMap_cons]
      by_cases isSpace : byte = 0x20
      · subst isSpace
        exact inductionHypothesis
      · by_cases unreserved : isUnreserved byte = true
        · have notPercent := (ne_of_isUnreserved unreserved).2.1
          simp [encodeByte, isSpace, unreserved, hasInvalidPercent,
            notPercent, inductionHypothesis]
        · have bound := byte.toNat_lt
          have high := (ne_of_isUnreserved (hexDigitByte_facts
            (show byte.toNat / 16 < 16 by omega)).2).2.1
          have low := (ne_of_isUnreserved (hexDigitByte_facts
            (show byte.toNat % 16 < 16 by omega)).2).2.1
          simp [encodeByte, isSpace, unreserved, hasInvalidPercent,
            hexPair?_encoded, high, low, inductionHypothesis]

/-- Bytes without a percent sign are not changed. -/
theorem unquoteToBytes_of_notMem
    {data : Bytes}
    (absent : (0x25 : UInt8) ∉ data) :
    unquoteToBytes data = data := by
  unfold unquoteToBytes
  induction data with
  | nil =>
      rfl
  | cons byte rest inductionHypothesis =>
      rw [List.mem_cons, not_or] at absent
      rw [unquoteFrom, if_neg (Ne.symm absent.1),
        inductionHypothesis absent.2]

/-- One pass over an escaped component reads it back. -/
theorem percentPasses_encoded (data : Bytes) :
    ∃ changed,
      percentPasses 1 (data.flatMap (encodeByte 0x20)) =
        (data, changed, false) := by
  have unquoted := unquoteToBytes_encoded data
  simp only [percentPasses]
  split
  · split
    · rename_i unchanged
      rw [unquoted] at unchanged
      exact ⟨0, by rw [hasInvalidPercent_encoded, ← unchanged]⟩
    · exact ⟨1, by rw [unquoted, hasInvalidPercent_encoded]; rfl⟩
  · rename_i absent
    have notMem : (0x25 : UInt8) ∉ data.flatMap (encodeByte 0x20) := by
      simpa using absent
    rw [unquoteToBytes_of_notMem notMem] at unquoted
    exact ⟨0, by rw [unquoted]⟩

/-- Characters alone have no invalid byte, and are shown as they are. -/
theorem items_chars (text : Str) :
    firstInvalid (text.map .char) = none ∧
      shownText (text.map .char) = text := by
  induction text with
  | nil =>
      exact ⟨rfl, rfl⟩
  | cons char rest inductionHypothesis =>
      obtain ⟨noInvalid, shown⟩ := inductionHypothesis
      constructor
      · rw [List.map_cons, firstInvalid, noInvalid]
        · rfl
        · nofun
      · exact congrArg (char :: ·) shown

/-- What a component of a form may be decoded to. -/
structure ReadBack (text : Str) (decoded : DecodedText) : Prop where
  value : decoded.value = text
  status : decoded.status = .ok ∨ decoded.status = .skipped
  reason : decoded.info.reason ≠ some (lit "invalid_percent_sequence")
  noInvalid : decoded.info.invalidByteCount = 0

/-- Encoded text is decoded to itself. -/
theorem decodeBytes_encoded
    (tables : DecodingTables)
    {text : Str}
    {data : Bytes}
    (encoded : utf8? text = some data) :
    ReadBack text (decodeBytes tables data none false) := by
  unfold decodeBytes
  split
  · rename_i isEmpty
    have noBytes : data = [] := List.isEmpty_iff.mp isEmpty
    have decoded := decodeUtf8?_of_utf8? encoded
    rw [noBytes] at decoded
    cases decoded
    exact ⟨rfl, .inr rfl, by decide, rfl⟩
  · obtain ⟨noInvalid, shown⟩ := items_chars text
    simp only [Bool.false_and, Bool.false_eq_true, if_false,
      Option.filter_none, Option.bind_none, Option.getD_none, Codec.items,
      utf8Items_of_utf8? encoded, noInvalid, shown]
    exact ⟨rfl, .inl rfl, nofun, rfl⟩

/-- A component is read back. -/
theorem percentDecode_encoded
    (tables : DecodingTables)
    {text : Str}
    {data : Bytes}
    (encoded : encodeComponent text = some data) :
    ReadBack text (percentDecode tables data 1 true none) := by
  obtain ⟨plain, isPlain, rfl⟩ := Option.map_eq_some_iff.mp encoded
  obtain ⟨changed, passes⟩ := percentPasses_encoded plain
  have decoded := decodeBytes_encoded tables isPlain
  simp only [percentDecode, if_true, plusToSpace_encoded, passes,
    Bool.false_eq_true, if_false]
  exact ⟨decoded.value, decoded.status, decoded.reason, decoded.noInvalid⟩

/-- A component holds no separator. -/
theorem notMem_encodeComponent
    {text : Str}
    {data : Bytes}
    (encoded : encodeComponent text = some data) :
    (0x26 : UInt8) ∉ data ∧ (0x3D : UInt8) ∉ data := by
  obtain ⟨plain, _, rfl⟩ := Option.map_eq_some_iff.mp encoded
  constructor <;>
  · intro member
    obtain ⟨byte, _, inByte⟩ := List.mem_flatMap.mp member
    rcases mem_encodeByte inByte with isSpace | isPercent | unreserved
    · exact absurd isSpace (by decide)
    · exact absurd isPercent (by decide)
    · exact absurd unreserved (by decide)

/-! ### The whole form -/

/-- What a form may be decoded to. -/
structure FormReadBack
    (pairs : List (Str × Str))
    (form : DecodedForm) : Prop where
  value : form.value = pairs
  status : form.status = .ok
  reasons : lit "invalid_percent_sequence" ∉ form.reasons
  noInvalid : form.invalidByteCount = 0

/-- A component that is read back adds no fault to a form. -/
theorem FormReadBack.addPart
    {pairs : List (Str × Str)}
    {form : DecodedForm}
    {text : Str}
    {part : DecodedText}
    (readBack : FormReadBack pairs form)
    (partReadBack : ReadBack text part) :
    FormReadBack pairs (addPart form part) where
  value := readBack.value
  status := by
    rcases partReadBack.status with isOk | isSkipped
    · simp [IntrusionDetection.addPart, combineStatus, isOk, readBack.status]
    · simp [IntrusionDetection.addPart, combineStatus, isSkipped,
        readBack.status]
  reasons := by
    have notReason := partReadBack.reason
    unfold IntrusionDetection.addPart
    dsimp only
    split
    · rename_i reason isReason
      rw [isReason] at notReason
      split
      · exact readBack.reasons
      · intro member
        rcases List.mem_append.mp member with known | new
        · exact readBack.reasons known
        · exact notReason (congrArg some (List.mem_singleton.mp new).symm)
    · exact readBack.reasons
  noInvalid := by
    simp [IntrusionDetection.addPart, readBack.noInvalid,
      partReadBack.noInvalid]

/-- A pair is split where it was joined. -/
theorem splitPair_encoded
    {key value : Bytes}
    (noSeparator : (0x3D : UInt8) ∉ key) :
    splitPair (key ++ 0x3D :: value) = (key, value) := by
  have before : ∀ byte ∈ key, decide (byte ≠ 0x3D) = true :=
    fun byte member =>
      decide_eq_true fun same => noSeparator (same ▸ member)
  rw [splitPair, List.takeWhile_append_of_pos before,
    List.dropWhile_append_of_pos before,
    List.takeWhile_cons_of_neg (by simp),
    List.dropWhile_cons_of_neg (by simp), List.append_nil, List.tail_cons]

/-- The components of a pair that was written. -/
theorem components_of_encodePair
    {pair : Str × Str}
    {part : Bytes}
    (encoded : encodePair pair = some part) :
    ∃ key value,
      encodeComponent pair.1 = some key ∧
        encodeComponent pair.2 = some value ∧
        part = key ++ 0x3D :: value := by
  obtain ⟨key, isKey, encoded⟩ := Option.bind_eq_some_iff.mp encoded
  obtain ⟨value, isValue, encoded⟩ := Option.bind_eq_some_iff.mp encoded
  cases encoded
  exact ⟨key, value, isKey, isValue, rfl⟩

/-- A pair that was written has no separator of pairs. -/
theorem notMem_encodePair
    {pair : Str × Str}
    {part : Bytes}
    (encoded : encodePair pair = some part) :
    (0x26 : UInt8) ∉ part := by
  obtain ⟨key, value, isKey, isValue, rfl⟩ :=
    components_of_encodePair encoded
  have notKey := (notMem_encodeComponent isKey).1
  have notValue := (notMem_encodeComponent isValue).1
  simp [notKey, notValue]

/-- The first part of a form, and the rest. -/
theorem parts_of_encodePairs
    {pair : Str × Str}
    {rest : List (Str × Str)}
    {parts : List Bytes}
    (encoded : (pair :: rest).mapM encodePair = some parts) :
    ∃ part later,
      parts = part :: later ∧
        encodePair pair = some part ∧
        rest.mapM encodePair = some later := by
  rw [List.mapM_cons] at encoded
  obtain ⟨part, isPart, encoded⟩ := Option.bind_eq_some_iff.mp encoded
  obtain ⟨later, isLater, encoded⟩ := Option.bind_eq_some_iff.mp encoded
  cases encoded
  exact ⟨part, later, rfl, isPart, isLater⟩

/-- Nor has any part of a form. -/
theorem notMem_encodePairs
    {pairs : List (Str × Str)}
    {parts : List Bytes}
    (encoded : pairs.mapM encodePair = some parts) :
    ∀ part ∈ parts, (0x26 : UInt8) ∉ part := by
  induction pairs generalizing parts with
  | nil =>
      cases encoded
      exact List.forall_mem_nil _
  | cons pair rest inductionHypothesis =>
      obtain ⟨part, later, rfl, isPart, isLater⟩ :=
        parts_of_encodePairs encoded
      exact List.forall_mem_cons.mpr
        ⟨notMem_encodePair isPart, inductionHypothesis isLater⟩

/-- A round of the loop reads one pair back. -/
theorem FormReadBack.addPair
    (tables : DecodingTables)
    {pairs : List (Str × Str)}
    {form : DecodedForm}
    {pair : Str × Str}
    {part : Bytes}
    (readBack : FormReadBack pairs form)
    (encoded : encodePair pair = some part) :
    FormReadBack (pairs ++ [pair])
      (addPair tables 1 true none form part) := by
  obtain ⟨key, value, isKey, isValue, rfl⟩ :=
    components_of_encodePair encoded
  have keyReadBack := percentDecode_encoded tables isKey
  have valueReadBack := percentDecode_encoded tables isValue
  have notEmpty : (key ++ 0x3D :: value).isEmpty = false := by
    simp
  simp only [IntrusionDetection.addPair, notEmpty, Bool.false_eq_true,
    if_false, splitPair_encoded (notMem_encodeComponent isKey).2,
    keyReadBack.value, valueReadBack.value]
  apply FormReadBack.addPart _ valueReadBack
  apply FormReadBack.addPart _ keyReadBack
  exact ⟨by rw [readBack.value], readBack.status, readBack.reasons,
    readBack.noInvalid⟩

/-- The loop reads all pairs back. -/
theorem FormReadBack.foldl
    (tables : DecodingTables)
    {earlier pairs : List (Str × Str)}
    {form : DecodedForm}
    {parts : List Bytes}
    (readBack : FormReadBack earlier form)
    (encoded : pairs.mapM encodePair = some parts) :
    FormReadBack (earlier ++ pairs)
      (parts.foldl (IntrusionDetection.addPair tables 1 true none)
        form) := by
  induction pairs generalizing earlier form parts with
  | nil =>
      cases encoded
      rwa [List.append_nil]
  | cons pair rest inductionHypothesis =>
      obtain ⟨part, later, rfl, isPart, isLater⟩ :=
        parts_of_encodePairs encoded
      have next := inductionHypothesis (readBack.addPair tables isPart) isLater
      rwa [List.append_assoc, List.singleton_append] at next

/-- Every text without surrogates can be written. -/
theorem exists_encodeComponent
    {text : Str}
    (scalar : IsScalarText text) :
    ∃ data, encodeComponent text = some data := by
  obtain ⟨data, encoded⟩ :=
    Option.isSome_iff_exists.mp (utf8?_isSome_iff.mpr scalar)
  exact ⟨_, by rw [encodeComponent, encoded, Option.map_some]⟩

/-- So can every list of pairs of such texts. -/
theorem exists_encodePairs
    {pairs : List (Str × Str)}
    (scalar :
      ∀ pair ∈ pairs, IsScalarText pair.1 ∧ IsScalarText pair.2) :
    ∃ parts, pairs.mapM encodePair = some parts := by
  induction pairs with
  | nil =>
      exact ⟨[], rfl⟩
  | cons pair rest inductionHypothesis =>
      obtain ⟨scalarPair, scalarRest⟩ := List.forall_mem_cons.mp scalar
      obtain ⟨key, isKey⟩ := exists_encodeComponent scalarPair.1
      obtain ⟨value, isValue⟩ := exists_encodeComponent scalarPair.2
      obtain ⟨parts, isParts⟩ := inductionHypothesis scalarRest
      refine ⟨(key ++ 0x3D :: value) :: parts, ?_⟩
      simp [List.mapM_cons, encodePair, isKey, isValue, isParts]

/--
A form that was written is read back: the same pairs in the same order, no
malformed sequence and no invalid byte.
-/
theorem decodeFormBody_encodeForm
    (tables : DecodingTables)
    {pairs : List (Str × Str)}
    (scalar :
      ∀ pair ∈ pairs, IsScalarText pair.1 ∧ IsScalarText pair.2) :
    ∃ data,
      encodeForm pairs = some data ∧
        (decodeFormBody tables data 1 true none).value = pairs ∧
        lit "invalid_percent_sequence" ∉
          (decodeFormBody tables data 1 true none).reasons ∧
        (decodeFormBody tables data 1 true none).invalidByteCount = 0 ∧
        (pairs ≠ [] →
          (decodeFormBody tables data 1 true none).status = .ok) := by
  obtain ⟨parts, isParts⟩ := exists_encodePairs scalar
  refine ⟨_, by rw [encodeForm, isParts, Option.map_some], ?_⟩
  cases pairs with
  | nil =>
      cases isParts
      exact ⟨rfl, List.not_mem_nil, rfl,
        fun notEmpty => absurd rfl notEmpty⟩
  | cons pair rest =>
      have noSeparator := notMem_encodePairs isParts
      obtain ⟨part, later, rfl, isPart, _⟩ := parts_of_encodePairs isParts
      have split :
          splitPairs ([0x26].intercalate (part :: later)) =
            part :: later :=
        List.splitOn_intercalate 0x26 noSeparator (List.cons_ne_nil _ _)
      have notEmpty :
          ([0x26].intercalate (part :: later)).isEmpty = false := by
        obtain ⟨key, value, _, _, rfl⟩ := components_of_encodePair isPart
        cases later <;> simp [List.intercalate_cons_cons]
      have start : FormReadBack [] ⟨[], .ok, [], [], 0⟩ :=
        ⟨rfl, rfl, List.not_mem_nil, rfl⟩
      have readBack := start.foldl tables isParts
      simp only [decodeFormBody, notEmpty, Bool.false_eq_true, if_false,
        split]
      exact ⟨readBack.value, readBack.reasons, readBack.noInvalid,
        fun _ => readBack.status⟩

/-- A form with separators and escapes inside of its components. -/
def hostileForm : List (Str × Str) :=
  [(lit "a&b=", lit "1+1 %41"), ([], [chr 0, chr 0x1F600])]

/-- It is read back. -/
theorem hostileForm_read_back :
    ∃ data,
      encodeForm hostileForm = some data ∧
        (decodeFormBody ⟨.ascii, fun _ => none, id⟩ data 1 true none).value =
          hostileForm := by
  have scalar :
      ∀ pair ∈ hostileForm, IsScalarText pair.1 ∧ IsScalarText pair.2 := by
    simp [hostileForm, IsScalarText, lit, codePoint, chr]
  obtain ⟨data, encoded, readBack, _⟩ :=
    decodeFormBody_encodeForm ⟨.ascii, fun _ => none, id⟩ scalar
  exact ⟨data, encoded, readBack⟩

end IntrusionDetection
