import Mathlib.Data.List.TakeWhile
import Mathlib.Tactic.IntervalCases

/-!
# Base64

Three bytes are four symbols of six bits.  `decode` reads symbol by symbol, as
the decoders of Python 3.11 and 3.12 do, and is strict or skips what is no
symbol.  What it accepts and what it returns is described on whole groups of
symbols.
-/

namespace Base64

/-! ### Symbols -/

/-- The value of a symbol. -/
def sextet? (byte : UInt8) : Option Nat :=
  let code := byte.toNat
  if 0x41 ≤ code ∧ code ≤ 0x5A then some (code - 0x41)
  else if 0x61 ≤ code ∧ code ≤ 0x7A then some (code - 0x47)
  else if 0x30 ≤ code ∧ code ≤ 0x39 then some (code + 4)
  else if code = 0x2B then some 62
  else if code = 0x2F then some 63
  else none

/-- The symbol of a value. -/
def symbol (sextet : Nat) : UInt8 :=
  UInt8.ofNat
    (if sextet < 26 then sextet + 0x41
    else if sextet < 52 then sextet + 0x47
    else if sextet < 62 then sextet - 4
    else if sextet = 62 then 0x2B
    else 0x2F)

/-- Is it a symbol? -/
def isSymbol (byte : UInt8) : Bool :=
  (sextet? byte).isSome

/-- The sign that fills the last group. -/
def pad : UInt8 := 0x3D

/-- How many signs fill the last group. -/
def paddingLength (symbols : Nat) : Nat :=
  (4 - symbols % 4) % 4

/-- Only the open group matters. -/
theorem paddingLength_mod (symbols : Nat) :
    paddingLength (symbols % 4) = paddingLength symbols := by
  rw [paddingLength, Nat.mod_mod, paddingLength]

/-- The values of the symbols of a text. -/
def sextets (text : List UInt8) : List Nat :=
  text.filterMap sextet?

/-- The symbols of a text, with the padding they need. -/
def canonical (text : List UInt8) : List UInt8 :=
  text.filter isSymbol ++
    List.replicate (paddingLength (sextets text).length) pad

/--
Symbols with the padding they need; after whole groups there may be any number
of pads.
-/
def IsStrict (text : List UInt8) : Prop :=
  text = canonical text ∨
    text.filter isSymbol ≠ [] ∧ (sextets text).length % 4 = 0 ∧
      text =
        canonical text ++
          List.replicate (text.length - (canonical text).length) pad

instance (text : List UInt8) : Decidable (IsStrict text) :=
  inferInstanceAs (Decidable (_ ∨ _))

/-! ### Groups -/

/-- The bytes that groups of symbols stand for. -/
def joinSextets : List Nat → Option (List UInt8)
  | [] => some []
  | [_] => none
  | [first, second] => some [UInt8.ofNat (first * 4 + second / 16)]
  | [first, second, third] =>
      some [UInt8.ofNat (first * 4 + second / 16),
        UInt8.ofNat (second % 16 * 16 + third / 4)]
  | first :: second :: third :: fourth :: rest =>
      (joinSextets rest).map fun later =>
        UInt8.ofNat (first * 4 + second / 16) ::
          UInt8.ofNat (second % 16 * 16 + third / 4) ::
            UInt8.ofNat (third % 4 * 64 + fourth) :: later

/-- The values of the symbols that bytes are written as. -/
def splitBytes : List UInt8 → List Nat
  | [] => []
  | [first] => [first.toNat / 4, first.toNat % 4 * 16]
  | [first, second] =>
      [first.toNat / 4, first.toNat % 4 * 16 + second.toNat / 16,
        second.toNat % 16 * 4]
  | first :: second :: third :: rest =>
      first.toNat / 4 :: (first.toNat % 4 * 16 + second.toNat / 16) ::
        (second.toNat % 16 * 4 + third.toNat / 64) ::
          third.toNat % 64 :: splitBytes rest

/-- Bytes in Base64. -/
def encode (data : List UInt8) : List UInt8 :=
  (splitBytes data).map symbol ++
    List.replicate (paddingLength (splitBytes data).length) pad

/-! ### The scanner -/

/--
The position in the open group, the bits that are left over, the pads since
the last symbol, and whether there was any pad.
-/
structure Scanner where
  position : Nat
  left : Nat
  pads : Nat
  padded : Bool
  deriving DecidableEq

/-- Nothing was read. -/
def Scanner.start : Scanner where
  position := 0
  left := 0
  pads := 0
  padded := false

/-- The byte a symbol completes, and the scanner after it. -/
def Scanner.feed
    (scanner : Scanner)
    (sextet : Nat) :
    List UInt8 × Scanner :=
  match scanner.position with
  | 0 => ([], ⟨1, sextet, 0, scanner.padded⟩)
  | 1 =>
      ([UInt8.ofNat (scanner.left * 4 + sextet / 16)],
        ⟨2, sextet % 16, 0, scanner.padded⟩)
  | 2 =>
      ([UInt8.ofNat (scanner.left * 16 + sextet / 4)],
        ⟨3, sextet % 4, 0, scanner.padded⟩)
  | _ =>
      ([UInt8.ofNat (scanner.left * 64 + sextet)],
        ⟨0, 0, 0, scanner.padded⟩)

/--
Read a text; `none` is an error.  A strict scanner rejects what is no symbol and
what follows a pad or the complete padding of a group; a lenient one skips the
first and stops where the padding is complete.  Both skip pads between groups.
-/
def scan (strict : Bool) (scanner : Scanner) :
    List UInt8 → Option (List UInt8)
  | [] => if scanner.position = 0 then some [] else none
  | byte :: rest =>
      if byte = pad then
        if scanner.position < 2 then
          scan strict { scanner with padded := true } rest
        else if 4 ≤ scanner.position + (scanner.pads + 1) then
          if strict ∧ rest ≠ [] then none else some []
        else
          scan strict
            { scanner with pads := scanner.pads + 1, padded := true } rest
      else
        match sextet? byte with
        | none => if strict then none else scan strict scanner rest
        | some sextet =>
            if strict ∧ scanner.padded then
              none
            else
              (scan strict (scanner.feed sextet).2 rest).map
                ((scanner.feed sextet).1 ++ ·)

/-- Decode a text; a strict decoder rejects one that begins with a pad. -/
def decode (strict : Bool) (text : List UInt8) : Option (List UInt8) :=
  if strict ∧ text.head? = some pad then
    none
  else
    scan strict .start text

/-! ### Symbols and their values -/

/-- A symbol has its value. -/
theorem sextet?_symbol
    {sextet : Nat}
    (small : sextet < 64) :
    sextet? (symbol sextet) = some sextet := by
  interval_cases sextet <;> rfl

/-- The padding sign is no symbol. -/
theorem isSymbol_pad : isSymbol pad = false :=
  rfl

/-- A symbol at the front gives the first value. -/
theorem sextets_cons
    {byte : UInt8}
    {sextet : Nat}
    (isSextet : sextet? byte = some sextet)
    (rest : List UInt8) :
    sextets (byte :: rest) = sextet :: sextets rest :=
  List.filterMap_cons_some isSextet

/-- The values are those of the symbols alone. -/
theorem sextets_filter (text : List UInt8) :
    sextets (text.filter isSymbol) = sextets text := by
  have same :
      (fun byte => Option.guard isSymbol byte >>= sextet?) = sextet? := by
    funext byte
    cases isSextet : sextet? byte with
    | none =>
        simp [Option.guard, isSymbol, isSextet]
    | some sextet =>
        simp [Option.guard, isSymbol, isSextet]
  rw [sextets, ← List.filterMap_eq_filter, List.filterMap_filterMap]
  exact congrArg (List.filterMap · text) same

section Dropping

variable
    {keep : UInt8 → Bool}
    (keeps : ∀ byte, isSymbol byte = true → keep byte = true)
    (text : List UInt8)

include keeps

/-- Dropping what is no symbol keeps the symbols. -/
theorem filter_filter_of :
    (text.filter keep).filter isSymbol = text.filter isSymbol := by
  rw [List.filter_filter]
  apply List.filter_congr
  intro byte _
  cases isKept : isSymbol byte with
  | false =>
      rfl
  | true =>
      rw [keeps byte isKept, Bool.true_and]

/-- Dropping what is no symbol changes no value. -/
theorem sextets_filter_of : sextets (text.filter keep) = sextets text := by
  rw [← sextets_filter, filter_filter_of keeps, sextets_filter]

end Dropping

/-- Every symbol has one value. -/
theorem length_sextets (text : List UInt8) :
    (sextets text).length = (text.filter isSymbol).length := by
  induction text with
  | nil =>
      rfl
  | cons byte rest inductionHypothesis =>
      cases isSextet : sextet? byte with
      | none =>
          have notSymbol : ¬ isSymbol byte = true := by
            rw [isSymbol, isSextet]
            exact Bool.false_ne_true
          rw [List.filter_cons_of_neg notSymbol, ← inductionHypothesis,
            sextets, List.filterMap_cons_none isSextet, sextets]
      | some sextet =>
          have isFirst : isSymbol byte = true := by
            rw [isSymbol, isSextet, Option.isSome_some]
          rw [List.filter_cons_of_pos isFirst, sextets_cons isSextet,
            List.length_cons, List.length_cons, inductionHypothesis]

/-- The values of symbols are the values they were made of. -/
theorem sextets_map_symbol
    {values : List Nat}
    (small : ∀ value ∈ values, value < 64) :
    sextets (values.map symbol) = values := by
  induction values with
  | nil =>
      rfl
  | cons value rest inductionHypothesis =>
      rw [List.forall_mem_cons] at small
      rw [List.map_cons, sextets_cons (sextet?_symbol small.1),
        inductionHypothesis small.2]

/-- What is made of values is a symbol. -/
theorem areSymbols_map
    {values : List Nat}
    (small : ∀ value ∈ values, value < 64) :
    ∀ byte ∈ values.map symbol, isSymbol byte = true := by
  intro byte member
  obtain ⟨value, isValue, rfl⟩ := List.mem_map.mp member
  rw [isSymbol, sextet?_symbol (small value isValue), Option.isSome_some]

/-- A byte has six bits left and right of a cut. -/
theorem splitBytes_small
    (data : List UInt8) :
    ∀ value ∈ splitBytes data, value < 64 := by
  induction data using splitBytes.induct with
  | case1 =>
      simp [splitBytes]
  | case2 first =>
      have bound := first.toNat_lt
      simp only [splitBytes, List.forall_mem_cons]
      exact ⟨by omega, by omega, by simp⟩
  | case3 first second =>
      have firstBound := first.toNat_lt
      have secondBound := second.toNat_lt
      simp only [splitBytes, List.forall_mem_cons]
      exact ⟨by omega, by omega, by omega, by simp⟩
  | case4 first second third rest inductionHypothesis =>
      have firstBound := first.toNat_lt
      have secondBound := second.toNat_lt
      have thirdBound := third.toNat_lt
      simp only [splitBytes, List.forall_mem_cons]
      exact ⟨by omega, by omega, by omega, by omega, inductionHypothesis⟩

/-- Bytes that are split into symbols are joined again. -/
theorem joinSextets_splitBytes
    (data : List UInt8) :
    joinSextets (splitBytes data) = some data := by
  have whole :
      ∀ (value : Nat) (byte : UInt8),
        value = byte.toNat → UInt8.ofNat value = byte := by
    intro value byte same
    rw [same, UInt8.ofNat_toNat]
  induction data using splitBytes.induct with
  | case1 =>
      rfl
  | case2 first =>
      have bound := first.toNat_lt
      rw [splitBytes, joinSextets, whole _ first (by omega)]
  | case3 first second =>
      have firstBound := first.toNat_lt
      have secondBound := second.toNat_lt
      rw [splitBytes, joinSextets, whole _ first (by omega),
        whole _ second (by omega)]
  | case4 first second third rest inductionHypothesis =>
      have firstBound := first.toNat_lt
      have secondBound := second.toNat_lt
      have thirdBound := third.toNat_lt
      rw [splitBytes, joinSextets, inductionHypothesis, Option.map_some,
        whole _ first (by omega), whole _ second (by omega),
        whole _ third (by omega)]

/-- One symbol alone is all that cannot be joined. -/
theorem joinSextets_eq_none_iff
    {values : List Nat} :
    joinSextets values = none ↔ values.length % 4 = 1 := by
  induction values using joinSextets.induct with
  | case1 => simp [joinSextets]
  | case2 => simp [joinSextets]
  | case3 => simp [joinSextets]
  | case4 => simp [joinSextets]
  | case5 first second third fourth rest inductionHypothesis =>
      rw [joinSextets, Option.map_eq_none_iff, inductionHypothesis]
      simp only [List.length_cons]
      omega

/-- Joining never makes more bytes than there were symbols. -/
theorem length_le_of_joinSextets
    {values : List Nat}
    {bytes : List UInt8}
    (joined : joinSextets values = some bytes) :
    bytes.length ≤ values.length := by
  induction values using joinSextets.induct generalizing bytes with
  | case1 =>
      cases joined
      exact Nat.le_refl 0
  | case2 =>
      cases joined
  | case3 =>
      cases joined
      simp
  | case4 =>
      cases joined
      simp
  | case5 first second third fourth rest inductionHypothesis =>
      rw [joinSextets] at joined
      obtain ⟨later, isLater, rfl⟩ := Option.map_eq_some_iff.mp joined
      have shorter := inductionHypothesis isLater
      simp only [List.length_cons]
      omega

/-! ### What is encoded -/

/-- Padding has no values. -/
theorem sextets_append_padding
    (text : List UInt8)
    (count : Nat) :
    sextets (text ++ List.replicate count pad) = sextets text := by
  have padding : (List.replicate count pad).filterMap sextet? = [] := by
    rw [List.filterMap_eq_nil_iff]
    intro byte member
    rw [List.eq_of_mem_replicate member]
    rfl
  rw [sextets, List.filterMap_append, padding, List.append_nil, sextets]

/-- Padding has no symbols. -/
theorem filter_append_padding
    {symbols : List UInt8}
    (areSymbols : ∀ byte ∈ symbols, isSymbol byte = true)
    (count : Nat) :
    (symbols ++ List.replicate count pad).filter isSymbol = symbols := by
  have padding : (List.replicate count pad).filter isSymbol = [] := by
    rw [List.filter_eq_nil_iff]
    intro byte member
    rw [List.eq_of_mem_replicate member, isSymbol_pad]
    exact Bool.false_ne_true
  rw [List.filter_append, padding, List.append_nil,
    List.filter_eq_self.mpr areSymbols]

/-- The canonical form of symbols and pads has the padding they need. -/
theorem canonical_append_padding
    {symbols : List UInt8}
    (areSymbols : ∀ byte ∈ symbols, isSymbol byte = true)
    (count : Nat) :
    canonical (symbols ++ List.replicate count pad) =
      symbols ++
        List.replicate (paddingLength (sextets symbols).length) pad := by
  rw [canonical, sextets_append_padding,
    filter_append_padding areSymbols]

/-- The values of the symbols of encoded bytes. -/
theorem sextets_encode (data : List UInt8) :
    sextets (encode data) = splitBytes data := by
  rw [encode, sextets_append_padding,
    sextets_map_symbol (splitBytes_small data)]

/-- Encoded bytes are in their canonical form. -/
theorem canonical_encode (data : List UInt8) :
    canonical (encode data) = encode data := by
  have padded :=
    canonical_append_padding (areSymbols_map (splitBytes_small data))
      (paddingLength (splitBytes data).length)
  rw [sextets_map_symbol (splitBytes_small data)] at padded
  exact padded

/-! ### What the scanner reads -/

namespace Scanner

/-- Read symbols by their values: the bytes and the scanner after them. -/
def feedAll (scanner : Scanner) : List Nat → List UInt8 × Scanner
  | [] => ([], scanner)
  | sextet :: rest =>
      let (bytes, next) := scanner.feed sextet
      let (later, last) := next.feedAll rest
      (bytes ++ later, last)

/-- A symbol does not change whether there was any pad. -/
theorem padded_feed (scanner : Scanner) (sextet : Nat) :
    (scanner.feed sextet).2.padded = scanner.padded := by
  unfold feed
  split <;> rfl

/-- Whole groups leave a scanner as it began. -/
theorem feedAll_group
    (first second third fourth : Nat)
    (rest : List Nat) :
    start.feedAll (first :: second :: third :: fourth :: rest) =
      (UInt8.ofNat (first * 4 + second / 16) ::
        UInt8.ofNat (second % 16 * 16 + third / 4) ::
          UInt8.ofNat (third % 4 * 64 + fourth) ::
            (start.feedAll rest).1,
        (start.feedAll rest).2) :=
  rfl

/-- What a scanner remembers of the symbols of a text. -/
theorem feedAll_start (values : List Nat) :
    (start.feedAll values).2.position = values.length % 4 ∧
      (start.feedAll values).2.pads = 0 ∧
      (start.feedAll values).2.padded = false ∧
      joinSextets values =
        if values.length % 4 = 1 then none
        else some (start.feedAll values).1 := by
  induction values using joinSextets.induct with
  | case1 => exact ⟨rfl, rfl, rfl, rfl⟩
  | case2 => exact ⟨rfl, rfl, rfl, rfl⟩
  | case3 => exact ⟨rfl, rfl, rfl, rfl⟩
  | case4 => exact ⟨rfl, rfl, rfl, rfl⟩
  | case5 first second third fourth rest inductionHypothesis =>
      obtain ⟨position, pads, padded, joined⟩ := inductionHypothesis
      have length :
          (first :: second :: third :: fourth :: rest).length % 4 =
            rest.length % 4 := by
        simp only [List.length_cons]
        omega
      rw [feedAll_group, length]
      refine ⟨position, pads, padded, ?_⟩
      rw [joinSextets, joined]
      split <;> rfl

end Scanner

/-- Symbols are read one after the other. -/
theorem scan_symbols
    (strict : Bool)
    {symbols : List UInt8}
    (rest : List UInt8)
    (areSymbols : ∀ byte ∈ symbols, isSymbol byte = true)
    {scanner : Scanner}
    (notPadded : scanner.padded = false) :
    scan strict scanner (symbols ++ rest) =
      (scan strict (scanner.feedAll (sextets symbols)).2 rest).map
        ((scanner.feedAll (sextets symbols)).1 ++ ·) := by
  induction symbols generalizing scanner with
  | nil =>
      exact Option.map_id'.symm
  | cons byte later inductionHypothesis =>
      rw [List.forall_mem_cons] at areSymbols
      obtain ⟨sextet, isSextet⟩ :=
        Option.isSome_iff_exists.mp areSymbols.1
      have notPad : byte ≠ pad := by
        rintro rfl
        cases isSextet
      have nextNotPadded : (scanner.feed sextet).2.padded = false := by
        rw [Scanner.padded_feed, notPadded]
      rw [List.cons_append, scan, if_neg notPad, isSextet]
      simp only [notPadded, Bool.false_eq_true, and_false, if_false]
      rw [inductionHypothesis areSymbols.2 nextNotPadded, Option.map_map,
        sextets_cons isSextet]
      simp only [Scanner.feedAll, Function.comp_def, List.append_assoc]

/-- The padding a group needs completes it. -/
theorem scan_padding
    (strict : Bool)
    {scanner : Scanner}
    (inGroup : scanner.position < 4)
    (noPads : scanner.pads = 0) :
    scan strict scanner
        (List.replicate (paddingLength scanner.position) pad) =
      if scanner.position = 1 then none else some [] := by
  obtain ⟨position, left, pads, padded⟩ := scanner
  dsimp only at inGroup noPads ⊢
  subst noPads
  interval_cases position <;> cases strict <;> rfl

/-- A text of symbols and pads begins with a symbol or has none. -/
theorem head?_ne_pad
    {symbols : List UInt8}
    (areSymbols : ∀ byte ∈ symbols, isSymbol byte = true)
    (count : Nat)
    (noneIfEmpty : symbols = [] → count = 0) :
    (symbols ++ List.replicate count pad).head? ≠ some pad := by
  cases symbols with
  | nil =>
      rw [noneIfEmpty rfl]
      intro isPad
      cases isPad
  | cons byte rest =>
      intro isPad
      cases isPad
      cases areSymbols pad List.mem_cons_self

/-- Pads after whole groups are skipped. -/
theorem scan_surplus
    (strict : Bool)
    {scanner : Scanner}
    (betweenGroups : scanner.position = 0)
    (count : Nat) :
    scan strict scanner (List.replicate count pad) = some [] := by
  induction count generalizing scanner with
  | zero =>
      rw [List.replicate_zero, scan, if_pos betweenGroups]
  | succ count inductionHypothesis =>
      rw [List.replicate_succ, scan, if_pos rfl, if_pos (by omega)]
      exact inductionHypothesis betweenGroups

/-- A text in canonical form stands for its joined symbols. -/
theorem decode_canonical
    (strict : Bool)
    (text : List UInt8) :
    decode strict (canonical text) = joinSextets (sextets text) := by
  obtain ⟨position, pads, padded, joined⟩ :=
    Scanner.feedAll_start (sextets text)
  have inGroup : (Scanner.start.feedAll (sextets text)).2.position < 4 := by
    omega
  have padding := scan_padding strict inGroup pads
  rw [position, paddingLength_mod] at padding
  have areSymbols :
      ∀ byte ∈ text.filter isSymbol, isSymbol byte = true :=
    fun byte member => (List.mem_filter.mp member).2
  have noLeadingPad : (canonical text).head? ≠ some pad := by
    apply head?_ne_pad areSymbols
    intro noSymbols
    rw [length_sextets, noSymbols]
    rfl
  rw [decode, if_neg (fun leading => noLeadingPad leading.2), canonical,
    scan_symbols strict _ areSymbols rfl, sextets_filter, padding, joined]
  split
  · rfl
  · rw [Option.map_some, List.append_nil]

/-- After whole groups any number of pads changes nothing. -/
theorem decode_surplus
    (strict : Bool)
    {symbols : List UInt8}
    (areSymbols : ∀ byte ∈ symbols, isSymbol byte = true)
    (hasSymbols : symbols ≠ [])
    (wholeGroups : (sextets symbols).length % 4 = 0)
    (count : Nat) :
    decode strict (symbols ++ List.replicate count pad) =
      joinSextets (sextets symbols) := by
  obtain ⟨position, _, _, joined⟩ :=
    Scanner.feedAll_start (sextets symbols)
  have noLeadingPad := head?_ne_pad areSymbols count
    fun empty => (hasSymbols empty).elim
  rw [decode, if_neg (fun leading => noLeadingPad leading.2),
    scan_symbols strict _ areSymbols rfl,
    scan_surplus strict (position.trans wholeGroups), Option.map_some,
    List.append_nil, joined, wholeGroups]
  rfl

/-! ### What a strict scanner accepts -/

/-- One symbol and a pad are never completed. -/
theorem scan_open
    {scanner : Scanner}
    (isFirst : scanner.position = 1)
    (padded : scanner.padded = true)
    (text : List UInt8) :
    scan true scanner text = none := by
  induction text generalizing scanner with
  | nil =>
      rw [scan, isFirst, if_neg Nat.one_ne_zero]
  | cons byte rest inductionHypothesis =>
      rw [scan]
      split
      · rw [if_pos (by omega)]
        exact inductionHypothesis isFirst rfl
      · split
        · rfl
        · rw [if_pos ⟨rfl, padded⟩]

/-- After a pad between two groups a strict scanner accepts pads only. -/
theorem eq_replicate_of_scan
    {scanner : Scanner}
    (padded : scanner.padded = true)
    {text bytes : List UInt8}
    (betweenGroups : scanner.position = 0)
    (accepted : scan true scanner text = some bytes) :
    ∃ count, text = List.replicate count pad := by
  induction text generalizing scanner with
  | nil =>
      exact ⟨0, rfl⟩
  | cons byte rest inductionHypothesis =>
      rw [scan] at accepted
      split at accepted
      · rename_i isPad
        rw [if_pos (by omega)] at accepted
        obtain ⟨count, isRest⟩ :=
          @inductionHypothesis { scanner with padded := true } rfl
            betweenGroups accepted
        exact ⟨count + 1, by rw [isPad, isRest, List.replicate_succ]⟩
      · split at accepted
        · cases accepted
        · rw [if_pos ⟨rfl, padded⟩] at accepted
          cases accepted

/--
After the symbols a strict scanner accepts the padding they need, or any number
of pads after whole groups.
-/
theorem eq_padding_of_scan
    {scanner : Scanner}
    (inGroup : scanner.position < 4)
    (noPads : scanner.pads = 0)
    {text bytes : List UInt8}
    (noSymbol : ∀ byte ∈ text.head?, isSymbol byte = false)
    (accepted : scan true scanner text = some bytes) :
    text = List.replicate (paddingLength scanner.position) pad ∨
      scanner.position = 0 ∧ ∃ count, text = List.replicate count pad := by
  obtain ⟨position, left, pads, padded⟩ := scanner
  dsimp only at inGroup noPads ⊢
  subst noPads
  have ends :
      ∀ {scanner : Scanner} {rest : List UInt8},
        scanner.position = 3 →
        scan true scanner (pad :: rest) = some bytes → rest = [] := by
    intro scanner rest isThird reads
    rw [scan, if_pos rfl, if_neg (by omega), if_pos (by omega)] at reads
    by_contra more
    rw [if_pos ⟨rfl, more⟩] at reads
    cases reads
  cases text with
  | nil =>
      rw [scan] at accepted
      split at accepted
      · rename_i isZero
        dsimp only at isZero
        subst isZero
        exact Or.inl rfl
      · cases accepted
  | cons byte rest =>
      have notSymbol : sextet? byte = none :=
        Option.isNone_iff_eq_none.mp
          (Option.isSome_eq_false_iff.mp (noSymbol byte rfl))
      by_cases isPad : byte = pad
      · subst isPad
        interval_cases position
        · have reads : scan true ⟨0, left, 0, true⟩ rest = some bytes :=
            accepted
          obtain ⟨count, isRest⟩ := eq_replicate_of_scan rfl rfl reads
          refine Or.inr ⟨rfl, count + 1, ?_⟩
          rw [isRest, List.replicate_succ]
        · have reads : scan true ⟨1, left, 0, true⟩ rest = some bytes :=
            accepted
          rw [scan_open rfl rfl] at reads
          cases reads
        · have reads : scan true ⟨2, left, 1, true⟩ rest = some bytes :=
            accepted
          cases rest with
          | nil =>
              cases reads
          | cons second more =>
              by_cases isPad : second = pad
              · subst isPad
                rw [scan, if_pos rfl, if_neg (by simp), if_pos (by simp)]
                  at reads
                by_cases empty : more = []
                · rw [empty]
                  exact Or.inl rfl
                · rw [if_pos ⟨rfl, empty⟩] at reads
                  cases reads
              · rw [scan, if_neg isPad] at reads
                split at reads
                · cases reads
                · cases reads
        · rw [ends rfl accepted]
          exact Or.inl rfl
      · rw [scan, if_neg isPad, notSymbol] at accepted
        cases accepted

/-- Pads after whole groups are accepted. -/
theorem isStrict_of_surplus
    {symbols : List UInt8}
    (areSymbols : ∀ byte ∈ symbols, isSymbol byte = true)
    (hasSymbols : symbols ≠ [])
    (wholeGroups : (sextets symbols).length % 4 = 0)
    (count : Nat) :
    IsStrict (symbols ++ List.replicate count pad) := by
  have isCanonical :
      canonical (symbols ++ List.replicate count pad) = symbols := by
    rw [canonical_append_padding areSymbols, paddingLength, wholeGroups]
    exact List.append_nil symbols
  refine Or.inr ⟨?_, ?_, ?_⟩
  · rw [filter_append_padding areSymbols]
    exact hasSymbols
  · rw [sextets_append_padding]
    exact wholeGroups
  · rw [isCanonical, List.length_append, List.length_replicate,
      Nat.add_sub_cancel_left]

/-- What a strict decoder accepts. -/
theorem isStrict_of_decode
    {text bytes : List UInt8}
    (accepted : decode true text = some bytes) :
    IsStrict text := by
  have areSymbols :
      ∀ byte ∈ text.takeWhile isSymbol, isSymbol byte = true :=
    fun _ => List.mem_takeWhile_imp
  obtain ⟨position, pads, _, _⟩ :=
    Scanner.feedAll_start (sextets (text.takeWhile isSymbol))
  have noSymbol :
      ∀ byte ∈ (text.dropWhile isSymbol).head?,
        isSymbol byte = false := by
    intro byte isHead
    have stops := List.head?_dropWhile_not isSymbol text
    rw [Option.mem_def.mp isHead] at stops
    exact stops
  have whole :
      text.takeWhile isSymbol ++ text.dropWhile isSymbol = text :=
    List.takeWhile_append_dropWhile
  have reads : scan true .start text = some bytes := by
    rw [decode] at accepted
    split at accepted
    · cases accepted
    · exact accepted
  rw [← whole, scan_symbols true _ areSymbols rfl,
    Option.map_eq_some_iff] at reads
  obtain ⟨_, acceptedTail, _⟩ := reads
  rcases eq_padding_of_scan (by omega) pads noSymbol acceptedTail with
    needed | ⟨wholeGroups, count, surplus⟩
  · rw [position, paddingLength_mod] at needed
    have isCanonical : canonical text = text := by
      rw [← whole, needed, canonical_append_padding areSymbols]
    exact Or.inl isCanonical.symm
  · rw [surplus] at whole
    rw [position] at wholeGroups
    generalize text.takeWhile isSymbol = symbols at *
    rw [← whole] at accepted ⊢
    by_cases noSymbols : symbols = []
    · cases count with
      | zero =>
          rw [noSymbols]
          exact Or.inl rfl
      | succ count =>
          rw [noSymbols, decode, if_pos ⟨rfl, rfl⟩] at accepted
          cases accepted
    · exact isStrict_of_surplus areSymbols noSymbols wholeGroups count

/-- What a strict decoder makes of what it accepts. -/
theorem decode_of_isStrict
    {text : List UInt8}
    (isStrict : IsStrict text) :
    decode true text = joinSextets (sextets text) := by
  rcases isStrict with isCanonical | ⟨hasSymbols, wholeGroups, isText⟩
  · exact (congrArg (decode true) isCanonical).trans
      (decode_canonical true text)
  · have areSymbols :
        ∀ byte ∈ text.filter isSymbol, isSymbol byte = true :=
      fun byte member => (List.mem_filter.mp member).2
    have isSymbols : canonical text = text.filter isSymbol := by
      rw [canonical, paddingLength, wholeGroups]
      exact List.append_nil _
    rw [isSymbols] at isText
    rw [← sextets_filter] at wholeGroups ⊢
    exact (congrArg (decode true) isText).trans
      (decode_surplus true areSymbols hasSymbols wholeGroups _)

/--
A strict decoder accepts symbols with the padding they need, after whole groups
with any number of pads, and reads the symbols no differently than a lenient one
reads their canonical form.
-/
theorem decode_strict_eq_some_iff
    {text bytes : List UInt8} :
    decode true text = some bytes ↔
      IsStrict text ∧ joinSextets (sextets text) = some bytes := by
  constructor
  · intro accepted
    have isStrict := isStrict_of_decode accepted
    rw [← decode_of_isStrict isStrict]
    exact ⟨isStrict, accepted⟩
  · rintro ⟨isStrict, value⟩
    rw [decode_of_isStrict isStrict]
    exact value

end Base64
