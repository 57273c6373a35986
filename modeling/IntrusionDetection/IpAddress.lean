import IntrusionDetection.EncodableTexts
import IntrusionDetection.Ipv4

/-!
# IP addresses

Reading an IPv4 or IPv6 address and writing it in its shortest form, the way
`ipaddress.ip_address` and its `compressed` do.  An IPv6 address is a list of
eight 16-bit groups, with an optional scope behind a percent sign.
-/

namespace IpAddress

open PyText

/-! ### Reading the groups -/

/-- `_HEX_DIGITS`. -/
def hexDigits : Str :=
  lit "0123456789ABCDEFabcdef"

/-- Value of a hexadecimal digit. -/
def hexValue (char : CodePoint) : Nat :=
  if char.val ≤ 0x39 then
    char.val - 0x30
  else if char.val ≤ 0x46 then
    char.val - 0x41 + 10
  else
    char.val - 0x61 + 10

/-- `_parse_hextet`. -/
def parseHextet? (text : Str) : Option Nat :=
  if text ≠ [] ∧ text.length ≤ 4 ∧ text.all hexDigits.contains then
    some (text.foldl (fun value char => 16 * value + hexValue char) 0)
  else
    none

/-- A digit of `%x`. -/
def hexDigit (value : Nat) : CodePoint :=
  (lit "0123456789abcdef").getD value (codePoint '0')

/-- `%x` of a number below `0x10000`. -/
def hexText (value : Nat) : Str :=
  if value < 0x10 then
    [hexDigit value]
  else if value < 0x100 then
    [hexDigit (value / 0x10), hexDigit (value % 0x10)]
  else if value < 0x1000 then
    [hexDigit (value / 0x100), hexDigit (value / 0x10 % 0x10),
      hexDigit (value % 0x10)]
  else
    [hexDigit (value / 0x1000 % 0x10), hexDigit (value / 0x100 % 0x10),
      hexDigit (value / 0x10 % 0x10), hexDigit (value % 0x10)]

/-- An IPv4 address in the last part counts as two groups. -/
def spellOut? (parts : List Str) : Option (List Str) :=
  match parts.getLast? with
  | none => none
  | some last =>
      if codePoint '.' ∈ last then
        (Ipv4.parse? last).map fun word =>
          parts.dropLast ++
            [hexText (word.toNat / 0x10000), hexText (word.toNat % 0x10000)]
      else
        some parts

/--
The groups on one side of `::`.  An empty part at the outer end is allowed if
it is all there is on that side.
-/
def side? (outer : Option Str) (parts : List Str) : Option (List Nat) :=
  if outer = some [] then
    if parts.length = 1 then some [] else none
  else
    parts.mapM parseHextet?

/-- The groups of the parts between the colons. -/
def groups? (parts : List Str) : Option (List Nat) :=
  let inner := parts.tail.dropLast
  match inner.findIdx? (· = []) with
  | none =>
      if parts.length = 8 then parts.mapM parseHextet? else none
  | some before =>
      if 1 < inner.count [] then
        none
      else
        let high := parts.take (before + 1)
        let low := parts.drop (before + 2)
        match side? high.head? high, side? low.getLast? low with
        | some high, some low =>
            if high.length + low.length < 8 then
              some (high ++
                List.replicate (8 - (high.length + low.length)) 0 ++ low)
            else
              none
        | _, _ => none

/-- `_ip_int_from_string` of IPv6, by groups. -/
def parseGroups? (text : Str) : Option (List Nat) :=
  let parts := PyText.splitAt (codePoint ':') text
  if parts.length < 3 then
    none
  else
    match spellOut? parts with
    | none => none
    | some parts => if 9 < parts.length then none else groups? parts

/-! ### Writing -/

/-- A run of zero groups. -/
structure ZeroRun where
  start : Nat
  length : Nat

/-- What the loop of `_compress_hextets` keeps. -/
structure ZeroRuns where
  index : Nat
  current : ZeroRun
  best : ZeroRun

/-- The loop body of `_compress_hextets`. -/
def ZeroRuns.next (runs : ZeroRuns) (hextet : Str) : ZeroRuns :=
  if hextet = lit "0" then
    let current : ZeroRun :=
      if runs.current.length = 0 then
        { start := runs.index, length := 1 }
      else
        { runs.current with length := runs.current.length + 1 }
    { index := runs.index + 1
      current
      best :=
        if runs.best.length < current.length then current else runs.best }
  else
    { runs with
      index := runs.index + 1
      current := { start := 0, length := 0 } }

/-- The first longest run of zero groups. -/
def longestZeros (hextets : List Str) : ZeroRun :=
  (hextets.foldl ZeroRuns.next
    { index := 0
      current := { start := 0, length := 0 }
      best := { start := 0, length := 0 } }).best

/-- `_compress_hextets`. -/
def compressHextets (hextets : List Str) : List Str :=
  let best := longestZeros hextets
  if 1 < best.length then
    let stop := best.start + best.length
    let padded :=
      if stop = hextets.length then hextets ++ [[]] else hextets
    let cut := padded.take best.start ++ [[]] ++ padded.drop stop
    if best.start = 0 then [] :: cut else cut
  else
    hextets

/-- The text of eight groups. -/
def groupsText (groups : List Nat) : Str :=
  List.intercalate [codePoint ':'] (compressHextets (groups.map hexText))

/-- `str` of an IPv4 address. -/
def ipv4Text (word : Ipv4.Address) : Str :=
  List.intercalate [codePoint '.']
    ([word.toNat / 0x1000000 % 0x100, word.toNat / 0x10000 % 0x100,
      word.toNat / 0x100 % 0x100, word.toNat % 0x100].map
        fun octet : Nat => ofInt octet)

/-- `ipaddress.ip_address(text).compressed`; `none` is its `ValueError`. -/
def compressed? (text : Str) : Option Str :=
  match Ipv4.parse? text with
  | some word => some (ipv4Text word)
  | none =>
      if codePoint '/' ∈ text then
        none
      else
        match partition (codePoint '%') text with
        | (address, none) => (parseGroups? address).map groupsText
        | (address, some scope) =>
            if scope = [] ∨ codePoint '%' ∈ scope then
              none
            else
              (parseGroups? address).map fun groups =>
                groupsText groups ++ codePoint '%' :: scope

/-! ### Only a scope contains characters outside of ASCII -/

/-- Items that are all read satisfy what reading one of them implies. -/
theorem forall_of_mapM
    {Item Value : Type}
    {read : Item → Option Value}
    {Holds : Item → Prop}
    (implies : ∀ item value, read item = some value → Holds item)
    {items : List Item}
    {values : List Value}
    (all : items.mapM read = some values) :
    ∀ item ∈ items, Holds item := by
  induction items generalizing values with
  | nil =>
      exact fun _ member => (List.not_mem_nil member).elim
  | cons item rest inductionHypothesis =>
      simp only [List.mapM_cons, Option.pure_def, Option.bind_eq_bind,
        Option.bind_eq_some_iff, Option.some.injEq] at all
      obtain ⟨value, isRead, later, areRead, rfl⟩ := all
      rw [List.forall_mem_cons]
      exact ⟨implies item value isRead, inductionHypothesis areRead⟩

/-- An octet is written in digits. -/
theorem isPlain_of_parseOctet?
    (octet : Str)
    (value : Nat)
    (read : Ipv4.parseOctet? octet = some value) :
    IsPlain octet := by
  unfold Ipv4.parseOctet? at read
  split at read
  · rename_i conditions
    exact isPlain_of_isAsciiDigits conditions.1
  · cases read

/-- An IPv4 address is written in digits and dots. -/
theorem isPlain_of_ipv4
    {text : Str}
    {word : Ipv4.Address}
    (read : Ipv4.parse? text = some word) :
    IsPlain text := by
  unfold Ipv4.parse? at read
  simp only at read
  split at read
  · obtain ⟨octets, areRead, _⟩ := Option.map_eq_some_iff.mp read
    exact isPlain_of_splitAt (by decide)
      (forall_of_mapM isPlain_of_parseOctet? areRead)
  · cases read

/-- A group is written in hexadecimal digits. -/
theorem isPlain_of_parseHextet?
    (text : Str)
    (value : Nat)
    (read : parseHextet? text = some value) :
    IsPlain text := by
  unfold parseHextet? at read
  split at read
  · rename_i conditions
    have ascii : ∀ char ∈ hexDigits, char.val < 0x80 := by
      simp [hexDigits, lit, codePoint]
    intro char member
    have isDigit := List.all_eq_true.mp conditions.2.2 char member
    exact ascii char (List.contains_iff_mem.mp isDigit)
  · cases read

/-- A side of `::` is plain if it is read. -/
theorem isPlain_of_side?
    {outer : Option Str}
    {parts : List Str}
    {groups : List Nat}
    (isOuter :
      ∀ part,
        outer = some part →
        parts.length = 1 →
        parts = [part])
    (read : side? outer parts = some groups) :
    ∀ part ∈ parts, IsPlain part := by
  unfold side? at read
  split at read
  · rename_i empty
    split at read
    · rename_i single
      rw [isOuter [] empty single, List.forall_mem_singleton]
      exact fun _ member => (List.not_mem_nil member).elim
    · cases read
  · exact forall_of_mapM isPlain_of_parseHextet? read

/-- A single part is the first and the last one. -/
theorem eq_singleton_of_length
    {parts : List Str}
    {part : Str}
    (isEnd : parts.head? = some part ∨ parts.getLast? = some part)
    (single : parts.length = 1) :
    parts = [part] := by
  obtain ⟨only, rfl⟩ := List.length_eq_one_iff.mp single
  simpa using isEnd

/-- The parts of an address are plain if they are read. -/
theorem isPlain_of_groups?
    {parts : List Str}
    {groups : List Nat}
    (read : groups? parts = some groups) :
    ∀ part ∈ parts, IsPlain part := by
  unfold groups? at read
  simp only at read
  split at read
  · split at read
    · exact forall_of_mapM isPlain_of_parseHextet? read
    · cases read
  · rename_i before found
    obtain ⟨inside, isEmpty, _⟩ :=
      List.findIdx?_eq_some_iff_getElem.mp found
    split at read
    · cases read
    · split at read
      · rename_i high low readHigh readLow
        have highPlain :=
          isPlain_of_side?
            (fun part isHead => eq_singleton_of_length (.inl isHead))
            readHigh
        have lowPlain :=
          isPlain_of_side?
            (fun part isLast => eq_singleton_of_length (.inr isLast))
            readLow
        -- The empty part between them is the one that was found.
        rw [List.length_dropLast, List.length_tail] at inside
        have bound : before + 1 < parts.length := by
          omega
        have between : parts[before + 1] = [] := by
          simpa using isEmpty
        rw [← List.take_append_drop (before + 1) parts,
          List.drop_eq_getElem_cons bound, between]
        rw [List.forall_mem_append, List.forall_mem_cons]
        exact ⟨highPlain, fun _ member => (List.not_mem_nil member).elim,
          lowPlain⟩
      · cases read

/-- The parts of an address are plain if they are when spelled out. -/
theorem isPlain_of_spellOut?
    {parts spelled : List Str}
    (read : spellOut? parts = some spelled)
    (plain : ∀ part ∈ spelled, IsPlain part) :
    ∀ part ∈ parts, IsPlain part := by
  unfold spellOut? at read
  split at read
  · cases read
  · rename_i last isLast
    split at read
    · obtain ⟨word, isAddress, rfl⟩ := Option.map_eq_some_iff.mp read
      rw [← List.dropLast_append_getLast? last isLast]
      rw [List.forall_mem_append] at plain ⊢
      exact ⟨plain.1,
        List.forall_mem_singleton.mpr (isPlain_of_ipv4 isAddress)⟩
    · cases read
      exact plain

/-- An IPv6 address without scope is plain. -/
theorem isPlain_of_parseGroups?
    {text : Str}
    {groups : List Nat}
    (read : parseGroups? text = some groups) :
    IsPlain text := by
  unfold parseGroups? at read
  simp only at read
  split at read
  · cases read
  · split at read
    · cases read
    · rename_i spelled isSpelled
      split at read
      · cases read
      · exact isPlain_of_splitAt (by decide)
          (isPlain_of_spellOut? isSpelled (isPlain_of_groups? read))

/-- What is written for a group is plain. -/
theorem isPlain_hexText (value : Nat) : IsPlain (hexText value) := by
  have digit :
      ∀ position, (hexDigit position).val < 0x80 := by
    intro position
    have ascii :
        ∀ char ∈ codePoint '0' :: lit "0123456789abcdef",
          char.val < 0x80 := by
      simp [lit, codePoint]
    apply ascii
    unfold hexDigit
    rw [List.getD_eq_getElem?_getD]
    cases found : (lit "0123456789abcdef")[position]? with
    | none =>
        exact List.mem_cons_self
    | some char =>
        exact List.mem_cons_of_mem _ (List.mem_of_getElem? found)
  unfold hexText
  split
  · simp [IsPlain, digit]
  · split
    · simp [IsPlain, digit]
    · split <;> simp [IsPlain, digit]

/-- A cut replaces some parts by an empty one. -/
theorem mem_cut
    {hextets : List Str}
    {before after : Nat}
    {hextet : Str}
    (member :
      hextet ∈ hextets.take before ++ [[]] ++ hextets.drop after) :
    hextet ∈ hextets ∨ hextet = [] := by
  simp only [List.mem_append, List.mem_singleton] at member
  rcases member with (isBefore | isEmpty) | isAfter
  · exact Or.inl (List.mem_of_mem_take isBefore)
  · exact Or.inr isEmpty
  · exact Or.inl (List.mem_of_mem_drop isAfter)

/-- The shortened groups are groups or empty. -/
theorem mem_compressHextets
    {hextets : List Str}
    {hextet : Str}
    (member : hextet ∈ compressHextets hextets) :
    hextet ∈ hextets ∨ hextet = [] := by
  unfold compressHextets at member
  simp only at member
  generalize longestZeros hextets = best at member
  generalize isPadded :
    (if best.start + best.length = hextets.length then
      hextets ++ [[]]
    else
      hextets) = padded at member
  have ofPadded :
      hextet ∈ padded ∨ hextet = [] →
      hextet ∈ hextets ∨ hextet = [] := by
    rw [← isPadded]
    split <;> simp
  split at member
  · split at member
    · rcases List.mem_cons.mp member with isEmpty | isCut
      · exact Or.inr isEmpty
      · exact ofPadded (mem_cut isCut)
    · exact ofPadded (mem_cut member)
  · exact Or.inl member

/-- The text of the groups is plain. -/
theorem isPlain_groupsText (groups : List Nat) :
    IsPlain (groupsText groups) := by
  apply isPlain_intercalate (by decide)
  intro hextet member
  rcases mem_compressHextets member with isGroup | isEmpty
  · obtain ⟨group, _, rfl⟩ := List.mem_map.mp isGroup
    exact isPlain_hexText group
  · subst isEmpty
    exact fun _ member => (List.not_mem_nil member).elim

/-- The text of an IPv4 address is plain. -/
theorem isPlain_ipv4Text (word : Ipv4.Address) :
    IsPlain (ipv4Text word) := by
  apply isPlain_intercalate (by decide)
  intro octet member
  obtain ⟨value, _, rfl⟩ := List.mem_map.mp member
  exact isPlain_ofInt value

/-! ### Addresses that can be encoded -/

/-- An address can be encoded exactly if its compressed form can. -/
theorem isScalarText_compressed?
    {text compressed : Str}
    (read : compressed? text = some compressed) :
    IsScalarText compressed ↔ IsScalarText text := by
  unfold compressed? at read
  split at read
  · rename_i word isAddress
    cases read
    exact iff_of_true (isPlain_ipv4Text word).isScalarText
      (isPlain_of_ipv4 isAddress).isScalarText
  · split at read
    · cases read
    · split at read
      · rename_i address isSplit
        obtain ⟨groups, isRead, rfl⟩ := Option.map_eq_some_iff.mp read
        have whole : text = address := eq_of_partition_none isSplit
        subst whole
        exact iff_of_true (isPlain_groupsText groups).isScalarText
          (isPlain_of_parseGroups? isRead).isScalarText
      · rename_i address scope isSplit
        split at read
        · cases read
        · obtain ⟨groups, isRead, rfl⟩ := Option.map_eq_some_iff.mp read
          have written := (isPlain_groupsText groups).isScalarText
          have readable := (isPlain_of_parseGroups? isRead).isScalarText
          rw [eq_of_partition_some isSplit, isScalarText_append,
            isScalarText_append, and_iff_right written,
            and_iff_right readable]

end IpAddress
