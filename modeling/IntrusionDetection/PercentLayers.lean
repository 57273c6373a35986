import IntrusionDetection.FormRoundTrip
import IntrusionDetection.HttpBodies

namespace IntrusionDetection

open PyText

/-!
# Percent encoding in several layers

A text can be percent-encoded again and again to hide it.  Every pass of the
decoder takes one layer off; once a pass changes nothing, nothing is left to
take off.
-/

/-! ### One pass -/

/-- A byte that begins no percent sequence stays. -/
theorem unquoteToBytes_literal
    {byte : UInt8}
    {rest : Bytes}
    (literal : byte = 0x25 → hexPair? rest = none) :
    unquoteToBytes (byte :: rest) = byte :: unquoteToBytes rest := by
  rw [unquoteToBytes, unquoteFrom]
  split
  · rename_i isPercent
    rw [literal isPercent]
    rfl
  · rfl

/-- A percent sequence becomes the byte it stands for. -/
theorem unquoteToBytes_escape
    {high low decoded : UInt8}
    {rest : Bytes}
    (escape : hexPair? (high :: low :: rest) = some decoded) :
    unquoteToBytes (0x25 :: high :: low :: rest) =
      decoded :: unquoteToBytes rest := by
  rw [unquoteToBytes, unquoteFrom, if_pos rfl, escape]
  rfl

/-- Bytes are taken one by one, or as a percent sequence. -/
@[elab_as_elim]
theorem percentInduction
    {motive : Bytes → Prop}
    (nil : motive [])
    (literal :
      ∀ byte rest,
        (byte = 0x25 → hexPair? rest = none) →
          motive rest → motive (byte :: rest))
    (escape :
      ∀ high low rest decoded,
        hexPair? (high :: low :: rest) = some decoded →
          motive rest → motive (0x25 :: high :: low :: rest))
    (data : Bytes) :
    motive data := by
  induction size : data.length using Nat.strong_induction_on
    generalizing data with
  | _ length inductionHypothesis =>
      cases data with
      | nil =>
          exact nil
      | cons byte rest =>
          have shorter : rest.length < length := by
            rw [← size]
            exact Nat.lt_succ_self _
          have later := inductionHypothesis _ shorter rest rfl
          by_cases isPercent : byte = 0x25
          · cases pair : hexPair? rest with
            | none =>
                exact literal byte rest (fun _ => pair) later
            | some decoded =>
                match rest with
                | [] =>
                    cases pair
                | [_] =>
                    cases pair
                | high :: low :: others =>
                    have muchShorter : others.length < length :=
                      lt_trans (Nat.lt_succ_of_lt (Nat.lt_succ_self _))
                        shorter
                    rw [isPercent]
                    exact escape high low others decoded pair
                      (inductionHypothesis _ muchShorter others rfl)
          · exact literal byte rest (fun same => absurd same isPercent)
              later

/-- Is there a percent sequence to decode? -/
def hasEscape : Bytes → Bool
  | [] => false
  | byte :: rest =>
      (byte = 0x25 && (hexPair? rest).isSome) || hasEscape rest

/-- A pass changes bytes with a percent sequence, and makes them shorter. -/
theorem unquoteToBytes_shorter (data : Bytes) :
    if hasEscape data then
      (unquoteToBytes data).length + 2 ≤ data.length
    else
      unquoteToBytes data = data := by
  induction data using percentInduction with
  | nil =>
      rfl
  | literal byte rest literal inductionHypothesis =>
      have same : hasEscape (byte :: rest) = hasEscape rest := by
        rw [hasEscape]
        by_cases isPercent : byte = 0x25
        · rw [literal isPercent, Option.isSome_none, Bool.and_false]
          rfl
        · rw [decide_eq_false isPercent]
          rfl
      rw [same, unquoteToBytes_literal literal]
      cases escapes : hasEscape rest with
      | true =>
          rw [escapes, if_pos rfl] at inductionHypothesis
          exact Nat.succ_le_succ inductionHypothesis
      | false =>
          rw [escapes] at inductionHypothesis
          exact congrArg (byte :: ·) inductionHypothesis
  | escape high low rest decoded pair inductionHypothesis =>
      have escapes : hasEscape (0x25 :: high :: low :: rest) = true := by
        rw [hasEscape, pair]
        rfl
      have notLonger : (unquoteToBytes rest).length ≤ rest.length := by
        split at inductionHypothesis
        · exact Nat.le_of_add_right_le inductionHypothesis
        · rw [inductionHypothesis]
      rw [escapes, if_pos rfl, unquoteToBytes_escape pair]
      exact Nat.add_le_add_right notLonger 3

/-- Hexadecimal digits are no percent signs. -/
theorem ne_percent_of_hexPair?
    {high low decoded : UInt8}
    {rest : Bytes}
    (escape : hexPair? (high :: low :: rest) = some decoded) :
    high ≠ 0x25 ∧ low ≠ 0x25 := by
  constructor
  · rintro rfl
    cases escape
  · rintro rfl
    obtain ⟨_, _, noDigit⟩ := Option.bind_eq_some_iff.mp escape
    cases noDigit

/-- A way to write bytes with percent sequences. -/
inductive PercentWritten : Bytes → Bytes → Prop where
  | nil : PercentWritten [] []
  | literal
      {byte : UInt8}
      {data text : Bytes}
      (notPercent : byte ≠ 0x25)
      (others : PercentWritten data text) :
      PercentWritten (byte :: data) (byte :: text)
  | escape
      {byte high low : UInt8}
      {data text : Bytes}
      (digits : hexPair? [high, low] = some byte)
      (others : PercentWritten data text) :
      PercentWritten (byte :: data) (0x25 :: high :: low :: text)

/-- A pass reads what was written, and finds nothing malformed. -/
theorem PercentWritten.unquote
    {data text : Bytes}
    (written : PercentWritten data text) :
    unquoteToBytes text = data ∧ hasInvalidPercent text = false := by
  induction written with
  | nil =>
      exact ⟨rfl, rfl⟩
  | @literal byte data text notPercent others inductionHypothesis =>
      obtain ⟨decoded, wellFormed⟩ := inductionHypothesis
      constructor
      · rw [unquoteToBytes_literal fun same => absurd same notPercent,
          decoded]
      · rw [hasInvalidPercent, wellFormed, decide_eq_false notPercent]
        rfl
  | @escape byte high low data text digits others inductionHypothesis =>
      obtain ⟨decoded, wellFormed⟩ := inductionHypothesis
      have pair : hexPair? (high :: low :: text) = some byte :=
        digits
      constructor
      · rw [unquoteToBytes_escape pair, decoded]
      · obtain ⟨notHigh, notLow⟩ := ne_percent_of_hexPair? pair
        rw [hasInvalidPercent, pair, hasInvalidPercent, hasInvalidPercent,
          wellFormed, decide_eq_false notHigh, decide_eq_false notLow]
        rfl

/-- Bytes without a malformed sequence are written from what a pass reads. -/
theorem percentWritten_iff {data text : Bytes} :
    PercentWritten data text ↔
      unquoteToBytes text = data ∧ hasInvalidPercent text = false := by
  constructor
  · exact PercentWritten.unquote
  · rintro ⟨rfl, wellFormed⟩
    induction text using percentInduction with
    | nil =>
        exact .nil
    | literal byte rest literal inductionHypothesis =>
        rw [hasInvalidPercent, Bool.or_eq_false_iff] at wellFormed
        have notPercent : byte ≠ 0x25 := by
          intro isPercent
          have malformed := wellFormed.1
          rw [decide_eq_true isPercent, literal isPercent] at malformed
          cases malformed
        rw [unquoteToBytes_literal literal]
        exact .literal notPercent (inductionHypothesis wellFormed.2)
    | escape high low rest decoded pair inductionHypothesis =>
        obtain ⟨notHigh, notLow⟩ := ne_percent_of_hexPair? pair
        rw [hasInvalidPercent, pair, hasInvalidPercent, hasInvalidPercent,
          decide_eq_false notHigh, decide_eq_false notLow] at wellFormed
        rw [unquoteToBytes_escape pair]
        exact .escape pair (inductionHypothesis wellFormed)

/-- A way to write bytes with a number of layers of percent sequences. -/
inductive PercentLayers : Nat → Bytes → Bytes → Prop where
  | none (data : Bytes) : PercentLayers 0 data data
  | more
      {layers : Nat}
      {data inner text : Bytes}
      (below : PercentLayers layers data inner)
      (outer : PercentWritten inner text) :
      PercentLayers (layers + 1) data text

/-! ### All passes -/

/-- What is left after a number of passes. -/
def unquoted (passes : Nat) (data : Bytes) : Bytes :=
  unquoteToBytes^[passes] data

/-- Bytes without a percent sequence stay as they are. -/
theorem unquoted_of_fixed
    {data : Bytes}
    (fixed : unquoteToBytes data = data)
    (passes : Nat) :
    unquoted passes data = data :=
  Function.iterate_fixed fixed passes

/-- Bytes without a percent sign have no malformed sequence. -/
theorem hasInvalidPercent_of_notMem
    {data : Bytes}
    (absent : (0x25 : UInt8) ∉ data) :
    hasInvalidPercent data = false := by
  induction data with
  | nil =>
      rfl
  | cons byte rest inductionHypothesis =>
      rw [List.mem_cons, not_or] at absent
      rw [hasInvalidPercent, decide_eq_false (Ne.symm absent.1),
        inductionHypothesis absent.2]
      rfl

/-- A pass changes nothing exactly if there is no percent sequence. -/
theorem unquoteToBytes_eq_self_iff (data : Bytes) :
    unquoteToBytes data = data ↔ hasEscape data = false := by
  have shorter := unquoteToBytes_shorter data
  cases escapes : hasEscape data with
  | true =>
      rw [escapes, if_pos rfl] at shorter
      constructor
      · intro same
        rw [same] at shorter
        omega
      · intro impossible
        cases impossible
  | false =>
      rw [escapes] at shorter
      exact ⟨fun _ => rfl, fun _ => shorter⟩

/-- Passes over bytes without a percent sequence end at once. -/
theorem percentPasses_of_fixed
    {data : Bytes}
    (fixed : unquoteToBytes data = data)
    (passes : Nat) :
    percentPasses (passes + 1) data =
      (data, 0, hasInvalidPercent data) := by
  rw [percentPasses]
  split
  · dsimp only
    rw [if_pos fixed]
  · rename_i absent
    have notMem : (0x25 : UInt8) ∉ data := by
      simpa using absent
    rw [hasInvalidPercent_of_notMem notMem]

/-- A pass that changes something is followed by the others. -/
theorem percentPasses_of_escape
    {data : Bytes}
    (changes : unquoteToBytes data ≠ data)
    (passes : Nat) :
    percentPasses (passes + 1) data =
      ((percentPasses passes (unquoteToBytes data)).1,
        (percentPasses passes (unquoteToBytes data)).2.1 + 1,
        hasInvalidPercent data ||
          (percentPasses passes (unquoteToBytes data)).2.2) := by
  have present : data.contains 0x25 = true := by
    by_contra absent
    have notMem : (0x25 : UInt8) ∉ data := by
      simpa using absent
    exact changes (unquoteToBytes_of_notMem notMem)
  rw [percentPasses, if_pos present]
  dsimp only
  rw [if_neg changes]

/--
What the passes do: they are repeated as often as they are allowed to be,
those that change something are counted, and a malformed sequence is noticed
whenever one comes to light.
-/
theorem percentPasses_eq (passes : Nat) (data : Bytes) :
    (percentPasses passes data).1 = unquoted passes data ∧
      (∀ pass < passes,
        pass < (percentPasses passes data).2.1 ↔
          hasEscape (unquoted pass data) = true) ∧
      (percentPasses passes data).2.1 ≤ passes ∧
      ((percentPasses passes data).2.2 = true ↔
        ∃ pass < passes,
          hasInvalidPercent (unquoted pass data) = true) := by
  induction passes generalizing data with
  | zero =>
      refine ⟨rfl, ?_, le_refl _, ?_⟩
      · intro pass impossible
        cases impossible
      · simp [percentPasses]
  | succ passes inductionHypothesis =>
      by_cases fixed : unquoteToBytes data = data
      · have noEscape := (unquoteToBytes_eq_self_iff data).mp fixed
        rw [percentPasses_of_fixed fixed]
        simp only [unquoted_of_fixed fixed, noEscape]
        refine ⟨trivial, by simp, Nat.zero_le _, ?_⟩
        constructor
        · exact fun malformed => ⟨0, Nat.succ_pos _, malformed⟩
        · rintro ⟨_, _, malformed⟩
          exact malformed
      · have escapes : hasEscape data = true := by
          by_contra noEscape
          exact fixed ((unquoteToBytes_eq_self_iff data).mpr
            (Bool.eq_false_of_not_eq_true noEscape))
        obtain ⟨final, counted, bounded, malformed⟩ :=
          inductionHypothesis (unquoteToBytes data)
        rw [percentPasses_of_escape fixed]
        refine ⟨final, ?_, Nat.succ_le_succ bounded, ?_⟩
        · intro pass below
          cases pass with
          | zero =>
              exact ⟨fun _ => escapes, fun _ => Nat.succ_pos _⟩
          | succ pass =>
              rw [Nat.add_lt_add_iff_right]
              exact counted pass (Nat.lt_of_succ_lt_succ below)
        · rw [Bool.or_eq_true, malformed]
          constructor
          · rintro (first | ⟨pass, below, later⟩)
            · exact ⟨0, Nat.succ_pos _, first⟩
            · exact ⟨pass + 1, Nat.succ_lt_succ below, later⟩
          · rintro ⟨pass, below, found⟩
            cases pass with
            | zero =>
                exact Or.inl found
            | succ pass =>
                exact Or.inr ⟨pass, Nat.lt_of_succ_lt_succ below, found⟩

/-- Every pass that counts makes the bytes shorter. -/
theorem length_unquoted (passes : Nat) (data : Bytes) :
    (unquoted passes data).length +
        2 * (percentPasses passes data).2.1 ≤ data.length := by
  induction passes generalizing data with
  | zero =>
      exact le_refl _
  | succ passes inductionHypothesis =>
      by_cases fixed : unquoteToBytes data = data
      · rw [percentPasses_of_fixed fixed, unquoted_of_fixed fixed]
        exact le_refl _
      · have later := inductionHypothesis (unquoteToBytes data)
        have shorter := unquoteToBytes_shorter data
        have escapes : hasEscape data = true := by
          by_contra noEscape
          exact fixed ((unquoteToBytes_eq_self_iff data).mpr
            (Bool.eq_false_of_not_eq_true noEscape))
        rw [escapes, if_pos rfl] at shorter
        rw [percentPasses_of_escape fixed]
        change (unquoted passes (unquoteToBytes data)).length +
          2 * ((percentPasses passes (unquoteToBytes data)).2.1 + 1) ≤ _
        omega

/-- With enough passes nothing is left to decode. -/
theorem hasEscape_unquoted
    {passes : Nat}
    {data : Bytes}
    (enough : data.length < 2 * (passes + 1)) :
    hasEscape (unquoted passes data) = false := by
  by_contra escapes
  obtain ⟨_, counted, bounded, _⟩ := percentPasses_eq (passes + 1) data
  have last : passes < (percentPasses (passes + 1) data).2.1 := by
    apply (counted passes (Nat.lt_succ_self _)).mpr
    exact Bool.eq_true_of_not_eq_false escapes
  have shorter := length_unquoted (passes + 1) data
  omega

/-- As many passes as there are layers read what was written. -/
theorem PercentLayers.unquoted
    {layers : Nat}
    {data text : Bytes}
    (written : PercentLayers layers data text) :
    IntrusionDetection.unquoted layers text = data ∧
      ∀ pass < layers,
        hasInvalidPercent (IntrusionDetection.unquoted pass text) =
          false := by
  induction written with
  | none data =>
      refine ⟨rfl, fun pass impossible => ?_⟩
      cases impossible
  | @more layers data inner text below outer inductionHypothesis =>
      obtain ⟨decoded, wellFormed⟩ := inductionHypothesis
      obtain ⟨isInner, outside⟩ := outer.unquote
      refine ⟨?_, ?_⟩
      · rw [IntrusionDetection.unquoted, Function.iterate_succ_apply,
          isInner]
        exact decoded
      · intro pass isBelow
        cases pass with
        | zero =>
            exact outside
        | succ pass =>
            rw [IntrusionDetection.unquoted, Function.iterate_succ_apply,
              isInner]
            exact wellFormed pass (Nat.lt_of_succ_lt_succ isBelow)

/-! ### The decoder -/

/-- The decoder of bytes never speaks of percent sequences. -/
theorem reason_decodeBytes_ne
    (tables : DecodingTables)
    (data : Bytes)
    (charsetHint : Option Str) :
    (decodeBytes tables data charsetHint false).info.reason ≠
      some (lit "invalid_percent_sequence") := by
  rw [decodeBytes]
  split
  · exact fun same => absurd (Option.some.inj same) (by decide)
  · rw [Bool.false_and, if_neg Bool.false_ne_true]
    dsimp only
    split
    · exact fun impossible => by cases impossible
    · exact fun impossible => by cases impossible

/-- What is decoded of bytes whose plus signs stand for themselves. -/
theorem percentDecode_literal
    (tables : DecodingTables)
    (data : Bytes)
    (passes : Nat)
    (charsetHint : Option Str) :
    let decoded := percentDecode tables data passes false charsetHint
    let shown :=
      decodeBytes tables (unquoted passes data) charsetHint false
    let malformed :=
      ∃ pass < passes, hasInvalidPercent (unquoted pass data) = true
    decoded.value = shown.value ∧
      decoded.info.invalidByteCount = shown.info.invalidByteCount ∧
      (∃ changed ≤ passes,
        decoded.info.encodings =
            List.replicate changed (lit "percent") ∧
          (∀ pass < passes,
            pass < changed ↔ hasEscape (unquoted pass data) = true) ∧
          (unquoted passes data).length + 2 * changed ≤ data.length) ∧
      (data.length < 2 * (passes + 1) →
        hasEscape (unquoted passes data) = false) ∧
      (decoded.info.reason = some (lit "invalid_percent_sequence") ↔
        malformed) ∧
      (¬ malformed → decoded.status = shown.status) ∧
      (malformed →
        decoded.status =
          if shown.status = .ok then .partiallyDecoded
          else shown.status) := by
  intro decoded shown malformed
  obtain ⟨final, counted, bounded, isMalformed⟩ :=
    percentPasses_eq passes data
  have shorter := length_unquoted passes data
  have isDecoded :
      decoded = percentDecode tables data passes false charsetHint :=
    rfl
  rw [percentDecode, if_neg Bool.false_ne_true] at isDecoded
  dsimp only at isDecoded
  rw [final] at isDecoded
  have isCounted :
      ∃ changed ≤ passes,
        List.replicate (percentPasses passes data).2.1 (lit "percent") =
            List.replicate changed (lit "percent") ∧
          (∀ pass < passes,
            pass < changed ↔ hasEscape (unquoted pass data) = true) ∧
          (unquoted passes data).length + 2 * changed ≤ data.length :=
    ⟨_, bounded, rfl, counted, shorter⟩
  have noReason := reason_decodeBytes_ne tables (unquoted passes data)
    charsetHint
  cases found : (percentPasses passes data).2.2 with
  | true =>
      have holds : malformed := isMalformed.mp found
      rw [found, if_pos rfl] at isDecoded
      rw [isDecoded]
      exact ⟨rfl, rfl, isCounted, hasEscape_unquoted,
        ⟨fun _ => holds, fun _ => rfl⟩,
        fun absent => absurd holds absent, fun _ => rfl⟩
  | false =>
      have fails : ¬ malformed := by
        intro holds
        rw [isMalformed.mpr holds] at found
        cases found
      rw [found, if_neg Bool.false_ne_true] at isDecoded
      rw [isDecoded]
      exact ⟨rfl, rfl, isCounted, hasEscape_unquoted,
        ⟨fun same => absurd same noReason,
          fun holds => absurd holds fails⟩,
        fun _ => rfl, fun holds => absurd holds fails⟩

/-- Plus signs are read as blanks before the first pass, and only there. -/
theorem percentDecode_spaced
    (tables : DecodingTables)
    (data : Bytes)
    (passes : Nat)
    (plusAsSpace : Bool)
    (charsetHint : Option Str) :
    percentDecode tables data passes plusAsSpace charsetHint =
      percentDecode tables
        (if plusAsSpace then plusToSpace data else data)
        passes false charsetHint := by
  cases plusAsSpace <;> rfl

/--
What is decoded is what the passes leave, of bytes whose plus signs are read as
blanks first if they are to be.  The encodings count the passes that found a
percent sequence, each of which made the bytes shorter, and if there are half
as many passes as bytes no sequence is left.  Only a malformed sequence in what
one of the passes was given is reported.
-/
theorem percentDecode_passes
    (tables : DecodingTables)
    (data : Bytes)
    (passes : Nat)
    (plusAsSpace : Bool)
    (charsetHint : Option Str) :
    let spaced := if plusAsSpace then plusToSpace data else data
    let decoded :=
      percentDecode tables data passes plusAsSpace charsetHint
    let shown :=
      decodeBytes tables (unquoted passes spaced) charsetHint false
    let malformed :=
      ∃ pass < passes, hasInvalidPercent (unquoted pass spaced) = true
    decoded.value = shown.value ∧
      decoded.info.invalidByteCount = shown.info.invalidByteCount ∧
      (∃ changed ≤ passes,
        decoded.info.encodings =
            List.replicate changed (lit "percent") ∧
          (∀ pass < passes,
            pass < changed ↔
              hasEscape (unquoted pass spaced) = true) ∧
          (unquoted passes spaced).length + 2 * changed ≤ data.length) ∧
      (data.length < 2 * (passes + 1) →
        hasEscape (unquoted passes spaced) = false) ∧
      (decoded.info.reason = some (lit "invalid_percent_sequence") ↔
        malformed) ∧
      (¬ malformed → decoded.status = shown.status) ∧
      (malformed →
        decoded.status =
          if shown.status = .ok then .partiallyDecoded
          else shown.status) := by
  intro spaced decoded shown malformed
  have sameLength : spaced.length = data.length := by
    cases plusAsSpace with
    | false =>
        rfl
    | true =>
        exact List.length_map _
  have isDecoded :
      decoded = percentDecode tables spaced passes false charsetHint :=
    percentDecode_spaced tables data passes plusAsSpace charsetHint
  rw [isDecoded, ← sameLength]
  exact percentDecode_literal tables spaced passes charsetHint

/-- The bytes of a URI, a plus sign in its query being a space. -/
def spacedUri (plusAsSpaceInQuery : Bool) (raw : Bytes) : Bytes :=
  raw.takeWhile (· ≠ 0x3F) ++
    if plusAsSpaceInQuery then plusToSpace (raw.dropWhile (· ≠ 0x3F))
    else raw.dropWhile (· ≠ 0x3F)

/--
A URI that hides a text under layers of percent encoding, each byte written as
itself or as a sequence in either case, is decoded to that text by as many
passes; more passes do no harm to a text without a percent sign.  The plus
signs of the query are read as blanks before the outermost layer.
-/
theorem decodeUri_layers
    (tables : DecodingTables)
    {uri text : Str}
    {raw data : Bytes}
    {layers passes : Nat}
    {plusAsSpaceInQuery : Bool}
    (isRaw : toBytes? uri = some raw)
    (encoded : utf8? text = some data)
    (written :
      PercentLayers layers data (spacedUri plusAsSpaceInQuery raw))
    (enough : layers ≤ passes)
    (spare : layers < passes → (0x25 : UInt8) ∉ data) :
    ∃ decoded,
      decodeUri? tables uri passes plusAsSpaceInQuery = some decoded ∧
        ReadBack text decoded ∧
        decoded.info.encodings.length ≤ layers := by
  obtain ⟨isData, wellFormed⟩ := written.unquoted
  have fixed :
      layers < passes → unquoteToBytes data = data :=
    fun more => unquoteToBytes_of_notMem (spare more)
  have remains :
      ∀ pass, layers ≤ pass → pass ≤ passes →
        unquoted pass (spacedUri plusAsSpaceInQuery raw) = data := by
    intro pass atLeast atMost
    obtain ⟨others, rfl⟩ := Nat.exists_eq_add_of_le' atLeast
    rw [unquoted, Function.iterate_add_apply]
    change unquoted others (unquoted layers _) = data
    rw [isData]
    cases others with
    | zero =>
        rfl
    | succ others =>
        exact unquoted_of_fixed (fixed (by omega)) _
  obtain ⟨isValue, sameCount, ⟨changed, atMost, isEncodings, counted, _⟩,
    _, isReason, isStatus, _⟩ :=
    percentDecode_literal tables (spacedUri plusAsSpaceInQuery raw) passes
      none
  have noneMalformed :
      ¬ ∃ pass < passes,
        hasInvalidPercent
          (unquoted pass (spacedUri plusAsSpaceInQuery raw)) = true := by
    rintro ⟨pass, below, malformed⟩
    by_cases inside : pass < layers
    · rw [wellFormed pass inside] at malformed
      cases malformed
    · have atLeast := Nat.le_of_not_lt inside
      rw [remains pass atLeast (Nat.le_of_lt below),
        hasInvalidPercent_of_notMem
          (spare (Nat.lt_of_le_of_lt atLeast below))] at malformed
      cases malformed
  have fewChanged : changed ≤ layers := by
    by_contra more
    have inside : layers < changed := Nat.lt_of_not_le more
    have below : layers < passes := Nat.lt_of_lt_of_le inside atMost
    have escapes := (counted layers below).mp inside
    rw [isData, (unquoteToBytes_eq_self_iff data).mp (fixed below)]
      at escapes
    cases escapes
  have shown := decodeBytes_encoded tables encoded
  rw [remains passes enough (le_refl _)] at isValue isStatus sameCount
  refine ⟨percentDecode tables (spacedUri plusAsSpaceInQuery raw) passes
    false none, ?_, ?_, ?_⟩
  · rw [decodeUri?, isRaw]
    rfl
  · refine ⟨isValue.trans shown.value, ?_, ?_, ?_⟩
    · rw [isStatus noneMalformed]
      exact shown.status
    · exact fun same => noneMalformed (isReason.mp same)
    · rw [sameCount]
      exact shown.noInvalid
  · rw [isEncodings, List.length_replicate]
    exact fewChanged

/-- An address with a script in its query, encoded twice. -/
def doublyEncodedUri : Str :=
  lit "/a?q=%253cscript%253E+%2578"

/-- The script comes to light in two passes. -/
theorem decodeUri_doublyEncodedUri :
    ∃ decoded,
      decodeUri? ⟨.ascii, fun _ => none, id⟩ doublyEncodedUri 3 true =
          some decoded ∧
        ReadBack (lit "/a?q=<script> x") decoded ∧
        decoded.info.encodings.length ≤ 2 := by
  have inner :
      PercentWritten (asciiBytes "/a?q=<script> x")
        (asciiBytes "/a?q=%3cscript%3E %78") :=
    percentWritten_iff.mpr (by decide +kernel)
  have outer :
      PercentWritten (asciiBytes "/a?q=%3cscript%3E %78")
        (spacedUri true (asciiBytes "/a?q=%253cscript%253E+%2578")) :=
    percentWritten_iff.mpr (by decide +kernel)
  exact decodeUri_layers ⟨.ascii, fun _ => none, id⟩ (by decide +kernel)
    (by decide +kernel) (.more (.more (.none _) inner) outer) (by decide)
    fun _ => by decide +kernel

end IntrusionDetection
