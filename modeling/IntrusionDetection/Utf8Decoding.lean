import IntrusionDetection.PyText
import Mathlib.Tactic.IntervalCases

/-!
# Decoding UTF-8

Bytes are decoded from left to right into characters and ill-formed pieces.  A
piece is as long as the bytes that could still begin a character; what its
bytes become is up to the error handler.
-/

namespace PyText

/-- A character, or the bytes of an ill-formed piece. -/
inductive Utf8Item where
  | char (char : CodePoint)
  | invalid (bytes : Bytes)
  deriving DecidableEq

/--
A character that has begun: how many bytes are missing, the range of the next
one, the value so far and the bytes that were read.
-/
structure PendingChar where
  missing : Nat
  low : Nat
  high : Nat
  value : Nat
  bytes : Bytes

/-- What a byte yields: a finished item, or a character to be continued. -/
inductive Utf8Step where
  | done (item : Utf8Item)
  | more (pending : PendingChar)

/-- The first byte of a character. -/
def beginChar (byte : UInt8) : Utf8Step :=
  let value := byte.toNat
  if value < 0x80 then .done (.char (chr value))
  else if value < 0xC2 then .done (.invalid [byte])
  else if value < 0xE0 then .more ⟨1, 0x80, 0xBF, value - 0xC0, [byte]⟩
  else if value = 0xE0 then .more ⟨2, 0xA0, 0xBF, 0, [byte]⟩
  else if value = 0xED then .more ⟨2, 0x80, 0x9F, 0xD, [byte]⟩
  else if value < 0xF0 then .more ⟨2, 0x80, 0xBF, value - 0xE0, [byte]⟩
  else if value = 0xF0 then .more ⟨3, 0x90, 0xBF, 0, [byte]⟩
  else if value < 0xF4 then .more ⟨3, 0x80, 0xBF, value - 0xF0, [byte]⟩
  else if value = 0xF4 then .more ⟨3, 0x80, 0x8F, 4, [byte]⟩
  else .done (.invalid [byte])

/-- The next byte of a character, unless it does not continue it. -/
def continueChar (pending : PendingChar) (byte : UInt8) :
    Option Utf8Step :=
  if pending.low ≤ byte.toNat ∧ byte.toNat ≤ pending.high then
    let value := 0x40 * pending.value + (byte.toNat - 0x80)
    if pending.missing ≤ 1 then
      some (.done (.char (chr value)))
    else
      some (.more
        ⟨pending.missing - 1, 0x80, 0xBF, value, pending.bytes ++ [byte]⟩)
  else
    none

/-- The items of a byte string, with a character that may have begun. -/
def utf8ItemsFrom : Option PendingChar → Bytes → List Utf8Item
  | none, [] => []
  | some pending, [] => [.invalid pending.bytes]
  | none, byte :: rest =>
      match beginChar byte with
      | .done item => item :: utf8ItemsFrom none rest
      | .more pending => utf8ItemsFrom (some pending) rest
  | some pending, byte :: rest =>
      match continueChar pending byte with
      | some (.done item) => item :: utf8ItemsFrom none rest
      | some (.more pending) => utf8ItemsFrom (some pending) rest
      | none =>
          .invalid pending.bytes ::
            match beginChar byte with
            | .done item => item :: utf8ItemsFrom none rest
            | .more pending => utf8ItemsFrom (some pending) rest

/-- The characters and the ill-formed pieces of a byte string. -/
def utf8Items (data : Bytes) : List Utf8Item :=
  utf8ItemsFrom none data

/-- The characters of a text, if nothing in it is ill-formed. -/
def Utf8Item.char? : Utf8Item → Option CodePoint
  | .char decoded => some decoded
  | .invalid _ => none

/-- `data.decode("utf-8")`; `none` is its `UnicodeDecodeError`. -/
def decodeUtf8? (data : Bytes) : Option Str :=
  (utf8Items data).mapM Utf8Item.char?

/-- `data.decode("utf-8", errors="ignore")`. -/
def decodeUtf8Ignore (data : Bytes) : Str :=
  (utf8Items data).filterMap Utf8Item.char?

/-- `data.decode("utf-8", errors="replace")`. -/
def decodeUtf8Replace (data : Bytes) : Str :=
  (utf8Items data).map fun item =>
    item.char?.getD (chr 0xFFFD)

/-! ### Which texts can be encoded -/

/-- A text without lone surrogates. -/
def IsScalarText (text : Str) : Prop :=
  ∀ char ∈ text, ¬ (0xD800 ≤ char.val ∧ char.val ≤ 0xDFFF)

/-- A character can be encoded unless it is a surrogate. -/
theorem utf8Char?_isSome_iff
    {char : CodePoint} :
    (utf8Char? char).isSome = true ↔
      ¬ (0xD800 ≤ char.val ∧ char.val ≤ 0xDFFF) := by
  simp only [utf8Char?]
  split
  · simp only [Option.isSome_some, true_iff]
    omega
  · split
    · simp only [Option.isSome_some, true_iff]
      omega
    · split
      · rename_i surrogate
        simpa using surrogate
      · rename_i notSurrogate
        split <;> simpa using notSurrogate

/-- A text can be encoded exactly if it has no lone surrogate. -/
theorem utf8?_isSome_iff
    {text : Str} :
    (utf8? text).isSome = true ↔ IsScalarText text := by
  rw [utf8?, Option.isSome_map]
  induction text with
  | nil =>
      simp [IsScalarText]
  | cons char rest inductionHypothesis =>
      have head :
          (utf8Char? char).isSome = true ↔
            ¬ (0xD800 ≤ char.val ∧ char.val ≤ 0xDFFF) :=
        utf8Char?_isSome_iff
      unfold IsScalarText at inductionHypothesis ⊢
      rw [List.forall_mem_cons, ← head, ← inductionHypothesis,
        List.mapM_cons]
      cases utf8Char? char with
      | none =>
          simp
      | some bytes =>
          cases rest.mapM utf8Char? <;> simp

/-! ### What is encoded is decoded again -/

/-- `chr` undoes `ord`. -/
@[simp] theorem chr_val (char : CodePoint) : chr char.val = char :=
  Fin.ofNat_val_eq_self char

/-- The first byte of a character of two. -/
theorem beginChar_two
    {value : Nat}
    (notShorter : 2 ≤ value)
    (small : value < 0x20) :
    beginChar (UInt8.ofNat (0xC0 + value)) =
      .more ⟨1, 0x80, 0xBF, value, [UInt8.ofNat (0xC0 + value)]⟩ := by
  interval_cases value <;> rfl

/-- The first byte of a character of three; its next byte rules out some. -/
theorem beginChar_three
    {value : Nat}
    (small : value < 0x10) :
    beginChar (UInt8.ofNat (0xE0 + value)) =
      .more ⟨2, if value = 0 then 0xA0 else 0x80,
        if value = 0xD then 0x9F else 0xBF, value,
        [UInt8.ofNat (0xE0 + value)]⟩ := by
  interval_cases value <;> rfl

/-- The first byte of a character of four; its next byte rules out some. -/
theorem beginChar_four
    {value : Nat}
    (small : value ≤ 4) :
    beginChar (UInt8.ofNat (0xF0 + value)) =
      .more ⟨3, if value = 0 then 0x90 else 0x80,
        if value = 4 then 0x8F else 0xBF, value,
        [UInt8.ofNat (0xF0 + value)]⟩ := by
  interval_cases value <;> rfl

/-- A byte in its range continues a character by six bits. -/
theorem continueChar_tail
    {pending : PendingChar}
    {bits : Nat}
    (small : bits < 0x40)
    (low : pending.low ≤ 0x80 + bits)
    (high : 0x80 + bits ≤ pending.high) :
    continueChar pending (UInt8.ofNat (0x80 + bits)) =
      some
        (if pending.missing ≤ 1 then
          .done (.char (chr (0x40 * pending.value + bits)))
        else
          .more ⟨pending.missing - 1, 0x80, 0xBF,
            0x40 * pending.value + bits,
            pending.bytes ++ [UInt8.ofNat (0x80 + bits)]⟩) := by
  have byte : (UInt8.ofNat (0x80 + bits)).toNat = 0x80 + bits := by
    rw [UInt8.toNat_ofNat']
    omega
  unfold continueChar
  rw [byte, if_pos ⟨low, high⟩, Nat.add_sub_cancel_left]
  split <;> rfl

section Tails

variable {missing low high value bits : Nat} {known rest : Bytes}

/-- The last byte of a character finishes it. -/
theorem utf8ItemsFrom_last
    (small : bits < 0x40)
    (isLow : low ≤ 0x80 + bits)
    (isHigh : 0x80 + bits ≤ high) :
    utf8ItemsFrom (some ⟨1, low, high, value, known⟩)
        (UInt8.ofNat (0x80 + bits) :: rest) =
      .char (chr (0x40 * value + bits)) :: utf8ItemsFrom none rest := by
  have ends := @continueChar_tail ⟨1, low, high, value, known⟩ bits
    small isLow isHigh
  rw [if_pos (Nat.le_refl 1)] at ends
  rw [utf8ItemsFrom, ends]

/-- Any byte before the last one adds six bits. -/
theorem utf8ItemsFrom_more
    (small : bits < 0x40)
    (isLow : low ≤ 0x80 + bits)
    (isHigh : 0x80 + bits ≤ high) :
    utf8ItemsFrom (some ⟨missing + 2, low, high, value, known⟩)
        (UInt8.ofNat (0x80 + bits) :: rest) =
      utf8ItemsFrom
        (some ⟨missing + 1, 0x80, 0xBF, 0x40 * value + bits,
          known ++ [UInt8.ofNat (0x80 + bits)]⟩)
        rest := by
  have goesOn :=
    @continueChar_tail ⟨missing + 2, low, high, value, known⟩ bits
      small isLow isHigh
  rw [if_neg (Nat.not_le_of_lt (Nat.lt_add_left missing Nat.one_lt_two))]
    at goesOn
  rw [utf8ItemsFrom, goesOn]
  rfl

/-- A byte that begins a character. -/
theorem utf8ItemsFrom_first
    {byte : UInt8}
    {pending : PendingChar}
    (begins : beginChar byte = .more pending) :
    utf8ItemsFrom none (byte :: rest) =
      utf8ItemsFrom (some pending) rest := by
  rw [utf8ItemsFrom, begins]

end Tails

/-- A character that is encoded is decoded again, whatever follows. -/
theorem utf8ItemsFrom_encoded
    {char : CodePoint}
    {bytes : Bytes}
    (encoded : utf8Char? char = some bytes)
    (rest : Bytes) :
    utf8ItemsFrom none (bytes ++ rest) =
      .char char :: utf8ItemsFrom none rest := by
  have bound := char.isLt
  unfold utf8Char? at encoded
  dsimp only at encoded
  split at encoded
  · rename_i small
    cases encoded
    have byte : (UInt8.ofNat char.val).toNat = char.val := by
      rw [UInt8.toNat_ofNat']
      omega
    simp only [List.singleton_append, utf8ItemsFrom, beginChar, byte,
      small, if_true, chr_val]
  · split at encoded
    · cases encoded
      have value : 0x40 * (char.val / 0x40) + char.val % 0x40 = char.val :=
        Nat.div_add_mod _ _
      simp only [List.cons_append, List.nil_append]
      rw [utf8ItemsFrom_first (beginChar_two (by omega) (by omega)),
        utf8ItemsFrom_last (by omega) (by omega) (by omega), value,
        chr_val]
    · split at encoded
      · cases encoded
      · rename_i notSurrogate
        rw [Bool.and_eq_true, decide_eq_true_eq, decide_eq_true_eq]
          at notSurrogate
        split at encoded
        · cases encoded
          have value :
              0x40 * (0x40 * (char.val / 0x1000) + char.val / 0x40 % 0x40) +
                char.val % 0x40 = char.val := by
            omega
          simp only [List.cons_append, List.nil_append]
          rw [utf8ItemsFrom_first (beginChar_three (by omega)),
            utf8ItemsFrom_more (by omega) (by split <;> omega)
              (by split <;> omega),
            utf8ItemsFrom_last (by omega) (by omega) (by omega), value,
            chr_val]
        · cases encoded
          have value :
              0x40 * (0x40 * (0x40 * (char.val / 0x40000) +
                char.val / 0x1000 % 0x40) + char.val / 0x40 % 0x40) +
                char.val % 0x40 = char.val := by
            omega
          simp only [List.cons_append, List.nil_append]
          rw [utf8ItemsFrom_first (beginChar_four (by omega)),
            utf8ItemsFrom_more (by omega) (by split <;> omega)
              (by split <;> omega),
            utf8ItemsFrom_more (by omega) (by omega) (by omega),
            utf8ItemsFrom_last (by omega) (by omega) (by omega), value,
            chr_val]

/-- The items of an encoded text are its characters. -/
theorem utf8Items_of_utf8?
    {text : Str}
    {data : Bytes}
    (encoded : utf8? text = some data) :
    utf8Items data = text.map .char := by
  obtain ⟨parts, isParts, rfl⟩ := Option.map_eq_some_iff.mp encoded
  clear encoded
  induction text generalizing parts with
  | nil =>
      cases isParts
      rfl
  | cons char rest inductionHypothesis =>
      rw [List.mapM_cons] at isParts
      obtain ⟨bytes, isBytes, isParts⟩ := Option.bind_eq_some_iff.mp isParts
      obtain ⟨later, isLater, isParts⟩ := Option.bind_eq_some_iff.mp isParts
      cases isParts
      have restItems := inductionHypothesis later isLater
      rw [utf8Items] at restItems ⊢
      rw [List.flatten_cons, utf8ItemsFrom_encoded isBytes, restItems,
        List.map_cons]

/-- Decoding undoes encoding. -/
theorem decodeUtf8?_of_utf8?
    {text : Str}
    {data : Bytes}
    (encoded : utf8? text = some data) :
    decodeUtf8? data = some text := by
  rw [decodeUtf8?, utf8Items_of_utf8? encoded]
  clear encoded
  induction text with
  | nil =>
      rfl
  | cons char rest inductionHypothesis =>
      rw [List.map_cons, List.mapM_cons, inductionHypothesis]
      rfl

end PyText
