import IntrusionDetection.AcceptedRules
import IntrusionDetection.IpAddress
import IntrusionDetection.JsonRoundTrip
import IntrusionDetection.WrittenOptions

namespace IntrusionDetection

open PyText FaultPrecedence

/-!
# Headers that can be written

A block is written as its address and its prefix length, and a port range as
its two ends.  The parsers of the header read them back.
-/

/-! ### Numbers -/

/-- A character of a word in a header or of a number. -/
def isBare (char : CodePoint) : Bool :=
  !isBlank char && !isEscapable char && char ≠ codePoint '('

/-- A text of such characters. -/
def IsBare (text : Str) : Prop :=
  ∀ char ∈ text, isBare char = true

/-- Two such texts make one. -/
theorem IsBare.append
    {first second : Str}
    (isFirst : IsBare first)
    (isSecond : IsBare second) :
    IsBare (first ++ second) :=
  List.forall_mem_append.mpr ⟨isFirst, isSecond⟩

/-- A bare text that is not empty is a word of a header. -/
theorem IsBare.isHeaderWord
    {text : Str}
    (isBare : IsBare text)
    (notEmpty : text ≠ []) :
    IsHeaderWord text := by
  have facts : ∀ char ∈ text,
      isBlank char = false ∧ char ≠ codePoint '(' := by
    intro char member
    have known := isBare char member
    simp only [IntrusionDetection.isBare, Bool.and_eq_true,
      Bool.not_eq_true', decide_eq_true_eq] at known
    exact ⟨known.1.1, known.2⟩
  exact ⟨notEmpty, fun char member => (facts char member).1,
    fun member => (facts _ member).2 rfl⟩

/-- A bare text can stand after a colon. -/
theorem IsBare.isValue
    {text : Str}
    (isBare : IsBare text) :
    IsValue text := by
  have facts : ∀ char ∈ text,
      isBlank char = false ∧ isEscapable char = false := by
    intro char member
    have known := isBare char member
    simp only [IntrusionDetection.isBare, Bool.and_eq_true,
      Bool.not_eq_true', decide_eq_true_eq] at known
    exact known.1
  constructor
  · apply strip_eq_self
    · exact fun char isFirst =>
        (facts char (List.mem_of_head? isFirst)).1
    · exact fun char isLast =>
        (facts char (List.mem_of_getLast? isLast)).1
  · have scanned := closes_plain
      (fun char member => (facts char member).2) false []
    rw [List.append_nil] at scanned
    exact scanned

/-- Digits are bare. -/
theorem isBare_of_isAsciiDigit
    {char : CodePoint}
    (isDigit : isAsciiDigit char = true) :
    isBare char = true := by
  have notBlank : isBlank char = false := by
    simp only [isAsciiDigit, Bool.and_eq_true, decide_eq_true_eq] at isDigit
    simp only [isBlank, Bool.or_eq_false_iff, Bool.and_eq_false_iff,
      decide_eq_false_iff_not, beq_eq_false_iff_ne]
    omega
  have notEscapable : isEscapable char = false := by
    rw [← Bool.not_eq_true]
    intro escapable
    simp only [isEscapable, Bool.or_eq_true, decide_eq_true_eq] at escapable
    rcases escapable with (rfl | rfl) | rfl <;> cases isDigit
  have notOpen : char ≠ codePoint '(' := by
    rintro rfl
    cases isDigit
  rw [isBare, notBlank, notEscapable, decide_eq_true notOpen]
  rfl

/-- The digits of a number. -/
theorem digits_ofInt (number : Nat) :
    isAsciiDigits (ofInt number) = true ∧
      digitsValue (ofInt number) = number := by
  have text := ofInt_ofNat number
  rw [Int.ofNat_eq_natCast] at text
  rw [text]
  exact Json.digits_of_toDigits number

/-- A number is written in bare characters. -/
theorem isBare_ofInt (number : Nat) : IsBare (ofInt number) := by
  intro char member
  have digits := (Bool.and_eq_true_iff.mp (digits_ofInt number).1).2
  exact isBare_of_isAsciiDigit (List.all_eq_true.mp digits char member)

/-- A number is written with at least one digit. -/
theorem ofInt_ne_nil (number : Nat) : ofInt number ≠ [] := by
  intro empty
  have digits := (digits_ofInt number).1
  rw [empty] at digits
  cases digits

/-- A small number has few digits. -/
theorem length_ofInt_le
    {number digits : Nat}
    (positive : 0 < digits)
    (small : number < 10 ^ digits) :
    (ofInt number).length ≤ digits := by
  have text := ofInt_ofNat number
  rw [Int.ofNat_eq_natCast] at text
  rw [text, List.length_map]
  exact (Nat.length_toDigits_le_iff (by decide) positive).mpr small

/-- A small number is converted. -/
theorem intOfDigits?_ofInt
    {number : Nat}
    (small : number < 10 ^ 10) :
    intOfDigits? (ofInt number) = some number := by
  have short := length_ofInt_le (by decide) small
  rw [intOfDigits?, if_pos (short.trans (by decide)),
    (digits_ofInt number).2]

/-- The number of an option is read back. -/
theorem nonNegativeInt?_ofInt
    {number : Nat}
    (bounded : number ≤ maxOptionInt) :
    nonNegativeInt? (ofInt number) = some number := by
  have small : number < 10 ^ 10 :=
    Nat.lt_of_le_of_lt bounded (by decide)
  rw [nonNegativeInt?, if_pos (digits_ofInt number).1,
    intOfDigits?_ofInt small, Option.filter_some,
    if_pos (decide_eq_true bounded)]

/-! ### Addresses -/

/-- The length of the prefix a netmask leaves. -/
def prefixOf (mask : Ipv4.Address) : Nat :=
  ((List.range 33).find? fun length => netmask length = mask).getD 0

namespace IpSpec

/-- The block as it is written. -/
def text (ip : IpSpec) : Str :=
  if ip.any then
    lit "any"
  else
    IpAddress.ipv4Text ip.network ++
      codePoint '/' :: ofInt (prefixOf ip.mask)

/-- What a header can ask of an address: nothing, or an aligned block. -/
inductive Writable : IpSpec → Prop where
  | any : Writable ⟨true, 0, 0⟩
  | block
      {network : Ipv4.Address}
      {length : Nat}
      (short : length ≤ 32)
      (aligned : network &&& netmask length = network) :
      Writable ⟨false, network, netmask length⟩

end IpSpec

/-- The length of a prefix is found from its netmask, or one like it. -/
theorem netmask_prefixOf
    {length : Nat}
    (short : length ≤ 32) :
    prefixOf (netmask length) ≤ 32 ∧
      netmask (prefixOf (netmask length)) = netmask length := by
  have found :
      ((List.range 33).find? fun other =>
        netmask other = netmask length).isSome = true := by
    rw [List.find?_isSome]
    exact ⟨length, List.mem_range.mpr (Nat.lt_succ_of_le short),
      decide_eq_true rfl⟩
  obtain ⟨other, isOther⟩ := Option.isSome_iff_exists.mp found
  rw [prefixOf, isOther, Option.getD_some]
  have small := List.mem_range.mp (List.mem_of_find?_eq_some isOther)
  have same := List.find?_some isOther
  exact ⟨Nat.le_of_lt_succ small, of_decide_eq_true same⟩

/-- An octet is read back. -/
theorem parseOctet?_ofInt
    {octet : Nat}
    (small : octet < 256) :
    Ipv4.parseOctet? (ofInt octet) = some octet := by
  have all :
      (List.range 256).all (fun octet =>
        Ipv4.parseOctet? (ofInt octet) = some octet) = true := by
    decide +kernel
  exact of_decide_eq_true
    (List.all_eq_true.mp all octet (List.mem_range.mpr small))

/-- The octets of an address. -/
def octetsOf (word : Ipv4.Address) : List Nat :=
  [word.toNat / 0x1000000 % 0x100, word.toNat / 0x10000 % 0x100,
    word.toNat / 0x100 % 0x100, word.toNat % 0x100]

/-- They make the address again. -/
theorem ofOctets_octetsOf (word : Ipv4.Address) :
    Ipv4.ofOctets (octetsOf word) = word := by
  have bound := word.isLt
  apply BitVec.eq_of_toNat_eq
  simp only [Ipv4.ofOctets, octetsOf, List.foldl_cons, List.foldl_nil,
    BitVec.toNat_ofNat]
  omega

/-- An address is its octets with dots between them. -/
theorem ipv4Text_eq (word : Ipv4.Address) :
    IpAddress.ipv4Text word =
      [codePoint '.'].intercalate
        ((octetsOf word).map fun octet : Nat => ofInt octet) :=
  rfl

/-- An address is read back. -/
theorem parse?_ipv4Text (word : Ipv4.Address) :
    Ipv4.parse? (IpAddress.ipv4Text word) = some word := by
  have cut :
      PyText.splitAt (codePoint '.') (IpAddress.ipv4Text word) =
        (octetsOf word).map fun octet : Nat => ofInt octet := by
    have noDot :
        ∀ part ∈ (octetsOf word).map fun octet : Nat => ofInt octet,
          codePoint '.' ∉ part := by
      intro part member
      obtain ⟨octet, _, rfl⟩ := List.mem_map.mp member
      exact codePoint_notMem_ofInt (by decide) (by decide) octet
    exact splitAt_intercalate (List.cons_ne_nil _ _) noDot
  have small : ∀ value, value % 0x100 < 256 :=
    fun value => Nat.mod_lt _ (by decide)
  have read :
      ((octetsOf word).map fun octet : Nat => ofInt octet).mapM
          Ipv4.parseOctet? =
        some (octetsOf word) := by
    simp only [octetsOf, List.map_cons, List.map_nil, List.mapM_cons,
      List.mapM_nil, parseOctet?_ofInt (small _)]
    rfl
  have four :
      ((octetsOf word).map fun octet : Nat => ofInt octet).length = 4 :=
    rfl
  simp only [Ipv4.parse?, cut, four, if_true, read, Option.map_some,
    ofOctets_octetsOf]

/-! ### Tokens -/

/-- An address is written in bare characters. -/
theorem isBare_ipv4Text (word : Ipv4.Address) :
    IsBare (IpAddress.ipv4Text word) := by
  have dot : IsBare [codePoint '.'] := by
    intro char member
    rw [List.mem_singleton.mp member]
    decide
  rw [ipv4Text_eq, octetsOf]
  simp only [List.map_cons, List.map_nil, List.intercalate_cons_cons,
    List.intercalate_singleton]
  exact ((isBare_ofInt _).append dot).append
    (((isBare_ofInt _).append dot).append
      (((isBare_ofInt _).append dot).append (isBare_ofInt _)))

/-- An address begins with a number. -/
theorem exists_ipv4Text (word : Ipv4.Address) :
    ∃ (number : Nat) (rest : Str),
      IpAddress.ipv4Text word = ofInt number ++ rest := by
  rw [ipv4Text_eq, octetsOf, List.map_cons, List.map_cons,
    List.intercalate_cons_cons, List.append_assoc]
  exact ⟨_, _, rfl⟩

/-- What begins with a number is no syntax outside the subset. -/
theorem unsupportedSyntax_ofInt (number : Nat) (rest : Str) :
    unsupportedSyntax (ofInt number ++ rest) = false := by
  obtain ⟨first, others, isText⟩ :=
    List.exists_cons_of_ne_nil (ofInt_ne_nil number)
  have isDigit : isAsciiDigit first = true := by
    have digits := (Bool.and_eq_true_iff.mp (digits_ofInt number).1).2
    exact List.all_eq_true.mp digits first (isText ▸ List.mem_cons_self)
  have differs :
      ∀ sign, isAsciiDigit sign = false →
        startsWith [sign] (first :: (others ++ rest)) = false := by
    intro sign notDigit
    have other : (sign == first) = false := by
      apply beq_eq_false_iff_ne.mpr
      rintro rfl
      rw [isDigit] at notDigit
      cases notDigit
    rw [startsWith, List.isPrefixOf_cons_cons, other]
    rfl
  rw [isText, List.cons_append, unsupportedSyntax]
  have none := fun sign notDigit => differs sign notDigit
  rw [Bool.or_eq_false_iff, Bool.or_eq_false_iff]
  exact ⟨⟨none (codePoint '$') rfl, none (codePoint '!') rfl⟩,
    none (codePoint '[') rfl⟩

namespace IpSpec

/-- A block is a word of a header. -/
theorem isHeaderWord_text (ip : IpSpec) : IsHeaderWord ip.text := by
  rw [text]
  split
  · decide
  · apply IsBare.isHeaderWord
    · apply (isBare_ipv4Text ip.network).append
      exact List.forall_mem_cons.mpr ⟨by decide, isBare_ofInt _⟩
    · simp

/-- A block is read back. -/
theorem parseIp_text
    {ip : IpSpec}
    (writable : ip.Writable) :
    parseIp ip.text = .ok ip := by
  cases writable with
  | any =>
      rfl
  | @block network length short aligned =>
      obtain ⟨stillShort, sameMask⟩ := netmask_prefixOf short
      have slash : codePoint '/' ∈ text ⟨false, network, netmask length⟩ := by
        simp [text]
      have notAny : text ⟨false, network, netmask length⟩ ≠ lit "any" := by
        intro isAny
        rw [isAny] at slash
        exact absurd slash (by decide)
      have noSlash : codePoint '/' ∉ IpAddress.ipv4Text network := by
        have absent : ∀ octet : Int, codePoint '/' ∉ ofInt octet :=
          codePoint_notMem_ofInt (by decide) (by decide)
        have notDot : codePoint '/' ≠ codePoint '.' := by decide
        rw [ipv4Text_eq, octetsOf]
        simp [List.intercalate_cons_cons, absent, notDot]
      have supported :
          unsupportedSyntax (text ⟨false, network, netmask length⟩) =
            false := by
        obtain ⟨number, rest, isAddress⟩ := exists_ipv4Text network
        rw [text, if_neg Bool.false_ne_true, isAddress, List.append_assoc]
        exact unsupportedSyntax_ofInt number _
      have isLength :
          prefixLength? (some (ofInt (prefixOf (netmask length)))) =
            some (prefixOf (netmask length)) := by
        have small : prefixOf (netmask length) < 10 ^ 10 :=
          Nat.lt_of_le_of_lt stillShort (by decide)
        rw [prefixLength?, if_pos (digits_ofInt _).1,
          intOfDigits?_ofInt small, Option.filter_some,
          if_pos (decide_eq_true stillShort)]
      rw [parseIp, if_neg notAny, supported]
      simp only [Bool.false_eq_true, if_false, text,
        partition_append noSlash, parse?_ipv4Text, isLength, sameMask,
        aligned]

/-- What is read can be written. -/
theorem writable_of_parseIp
    {token : Str}
    {ip : IpSpec}
    (isRead : parseIp token = .ok ip) :
    ip.Writable := by
  simp only [parseIp] at isRead
  split at isRead
  · cases isRead
    exact .any
  · split at isRead
    · cases isRead
    · split at isRead
      · rename_i word length isWord isLength
        cases isRead
        refine .block ?_ (by rw [BitVec.and_assoc, BitVec.and_self])
        simp only [prefixLength?] at isLength
        split at isLength
        · cases isLength
          exact le_refl 32
        · split at isLength
          · obtain ⟨_, isShort⟩ := Option.filter_eq_some_iff.mp isLength
            exact of_decide_eq_true isShort
          · cases isLength
      · cases isRead

end IpSpec

namespace PortSpec

/-- A port range as it is written. -/
def text (port : PortSpec) : Str :=
  ofInt port.lo ++ codePoint ':' :: ofInt port.hi

/-- The ends of a range are small numbers. -/
theorem exists_ends (port : PortSpec) :
    ∃ lo hi : Nat,
      port.lo = lo ∧ port.hi = hi ∧ lo < 10 ^ 10 ∧ hi < 10 ^ 10 := by
  obtain ⟨positive, ordered, bounded⟩ := port.inRange
  obtain ⟨lo, isLo⟩ := Int.eq_ofNat_of_zero_le positive
  obtain ⟨hi, isHi⟩ := Int.eq_ofNat_of_zero_le (positive.trans ordered)
  rw [portMax] at bounded
  exact ⟨lo, hi, isLo, isHi, by omega, by omega⟩

/-- A port range is a word of a header. -/
theorem isHeaderWord_text (port : PortSpec) : IsHeaderWord port.text := by
  obtain ⟨lo, hi, isLo, isHi, _, _⟩ := port.exists_ends
  rw [text, isLo, isHi]
  apply IsBare.isHeaderWord
  · apply (isBare_ofInt lo).append
    exact List.forall_mem_cons.mpr ⟨by decide, isBare_ofInt hi⟩
  · simp

/-- The number of a port is read back. -/
theorem portNumber?_ofInt
    {number : Nat}
    (small : number < 10 ^ 10)
    (default : Option Int) :
    portNumber? (ofInt number) default = some (number : Int) := by
  have digits :
      (if isAsciiDigits (ofInt number) then
        (intOfDigits? (ofInt number)).map Int.ofNat
      else none) = some (number : Int) := by
    rw [if_pos (digits_ofInt number).1, intOfDigits?_ofInt small]
    rfl
  cases text : ofInt (number : Int) with
  | nil =>
      exact absurd text (ofInt_ne_nil number)
  | cons first rest =>
      rw [text] at digits
      exact digits

/-- A port range is read back. -/
theorem parsePort_text (port : PortSpec) :
    parsePort port.text = .ok port := by
  obtain ⟨lo, hi, isLo, isHi, smallLo, smallHi⟩ := port.exists_ends
  have colon : codePoint ':' ∈ port.text := by
    simp [text]
  have notAny : port.text ≠ lit "any" := by
    intro isAny
    rw [isAny] at colon
    exact absurd colon (by decide)
  have absent : ∀ number : Int, codePoint ':' ∉ ofInt number :=
    codePoint_notMem_ofInt (by decide) (by decide)
  have supported : unsupportedSyntax port.text = false := by
    rw [text, isLo]
    exact unsupportedSyntax_ofInt lo _
  have cut :
      partition (codePoint ':') port.text =
        (ofInt lo, some (ofInt hi)) := by
    rw [text, isLo, isHi]
    exact partition_append (absent lo) _
  have given :
      ¬ (codePoint ':' ∈ ofInt hi ∨ (ofInt lo = [] ∧ ofInt hi = [])) := by
    rintro (member | ⟨empty, _⟩)
    · exact absent hi member
    · exact ofInt_ne_nil lo empty
  have inRange := port.inRange
  rw [isLo, isHi] at inRange
  rw [parsePort, if_neg notAny, supported]
  simp only [Bool.false_eq_true, if_false, cut, if_neg given,
    portNumber?_ofInt smallLo, portNumber?_ofInt smallHi, portRange,
    dif_pos inRange]
  cases port
  cases isLo
  cases isHi
  rfl

end PortSpec

end IntrusionDetection
