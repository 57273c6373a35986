import IntrusionDetection.TextSplitting
import IntrusionDetection.Utf8Decoding

namespace PyText

/-!
# Texts that can be encoded

A text of ASCII characters can be encoded; what matters of a longer text are
the other characters, which neither stripping nor splitting changes.
-/

/-! ### Plain texts -/

/-- A text of ASCII characters. -/
def IsPlain (text : Str) : Prop :=
  ∀ char ∈ text, char.val < 0x80

theorem IsPlain.append
    {first second : Str}
    (firstPlain : IsPlain first)
    (secondPlain : IsPlain second) :
    IsPlain (first ++ second) :=
  List.forall_mem_append.mpr ⟨firstPlain, secondPlain⟩

/-- Plain parts between plain separators make a plain text. -/
theorem isPlain_intercalate
    {separator : CodePoint}
    (ascii : separator.val < 0x80)
    {parts : List Str}
    (plain : ∀ part ∈ parts, IsPlain part) :
    IsPlain (List.intercalate [separator] parts) := by
  induction parts with
  | nil =>
      rw [List.intercalate_nil]
      exact fun _ member => (List.not_mem_nil member).elim
  | cons part rest inductionHypothesis =>
      rw [List.forall_mem_cons] at plain
      cases rest with
      | nil =>
          rw [List.intercalate_singleton]
          exact plain.1
      | cons next later =>
          rw [List.intercalate_cons_cons]
          have separated : IsPlain [separator] :=
            List.forall_mem_singleton.mpr ascii
          exact (plain.1.append separated).append
            (inductionHypothesis plain.2)

/-- A text is plain if the pieces between its separators are. -/
theorem isPlain_of_splitAt
    {separator : CodePoint}
    (ascii : separator.val < 0x80)
    {text : Str}
    (plain : ∀ part ∈ PyText.splitAt separator text, IsPlain part) :
    IsPlain text := by
  have joined :
      List.intercalate [separator] (PyText.splitAt separator text) =
        text :=
    List.intercalate_splitOn separator
  rw [← joined]
  exact isPlain_intercalate ascii plain

/-- A decimal digit is an ASCII character. -/
theorem isPlain_of_isAsciiDigits
    {text : Str}
    (digits : isAsciiDigits text = true) :
    IsPlain text := by
  intro char member
  have all := (Bool.and_eq_true_iff.mp digits).2
  have digit := List.all_eq_true.mp all char member
  simp only [isAsciiDigit, Bool.and_eq_true, decide_eq_true_eq] at digit
  exact Nat.lt_of_le_of_lt digit.2 (by decide)

/-- A decimal number is plain. -/
theorem isPlain_ofInt (number : Int) : IsPlain (ofInt number) := by
  have digits :
      ∀ value : Nat, IsPlain ((Nat.toDigits 10 value).map codePoint) := by
    intro value char member
    obtain ⟨digit, isMember, rfl⟩ := List.mem_map.mp member
    have isDigit :=
      Nat.isDigit_of_mem_toDigits (by decide) (by decide) isMember
    have small : digit.toNat ≤ 57 :=
      of_decide_eq_true (Bool.and_eq_true_iff.mp isDigit).2
    have value : (codePoint digit).val = digit.toNat :=
      Nat.mod_eq_of_lt (Nat.lt_of_le_of_lt small (by decide))
    rw [value]
    exact Nat.lt_of_le_of_lt small (by decide)
  cases number with
  | ofNat value =>
      rw [ofInt_ofNat]
      exact digits value
  | negSucc value =>
      rw [ofInt_negSucc]
      exact List.forall_mem_cons.mpr ⟨by decide, digits (value + 1)⟩

/-! ### Surrogates -/

/-- A plain text has no surrogates. -/
theorem IsPlain.isScalarText
    {text : Str}
    (plain : IsPlain text) :
    IsScalarText text := by
  intro char member surrogate
  have ascii := plain char member
  omega

/-- Two texts have no surrogates exactly if both have none. -/
theorem isScalarText_append {first second : Str} :
    IsScalarText (first ++ second) ↔
      IsScalarText first ∧ IsScalarText second :=
  List.forall_mem_append

/-- Dropping blanks drops no surrogates. -/
theorem isScalarText_strip_iff {text : Str} :
    IsScalarText (strip text) ↔ IsScalarText text := by
  have notBlank :
      ∀ char : CodePoint,
        0xD800 ≤ char.val ∧ char.val ≤ 0xDFFF →
        isBlank char = false := by
    intro char surrogate
    simp only [isBlank, Bool.or_eq_false_iff, Bool.and_eq_false_iff,
      decide_eq_false_iff_not, beq_eq_false_iff_ne, ne_eq]
    omega
  constructor
  · intro scalar char member surrogate
    exact scalar char
      ((mem_strip_iff (notBlank char surrogate)).mpr member) surrogate
  · intro scalar char member surrogate
    exact scalar char
      ((mem_strip_iff (notBlank char surrogate)).mp member) surrogate

end PyText
