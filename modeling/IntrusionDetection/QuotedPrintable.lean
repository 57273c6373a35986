import Mathlib.Data.List.Basic

/-!
# Quoted-printable

A byte stands for itself or is written as `=` and two hexadecimal digits, and
an `=` before the end of a line takes the end of the line away.  There are many
ways to write the same bytes, so writing is a relation.
-/

namespace QuotedPrintable

/-- The value of a hexadecimal digit. -/
def digit? (byte : UInt8) : Option Nat :=
  let code := byte.toNat
  if 0x30 ≤ code ∧ code ≤ 0x39 then some (code - 0x30)
  else if 0x41 ≤ code ∧ code ≤ 0x46 then some (code - 0x37)
  else if 0x61 ≤ code ∧ code ≤ 0x66 then some (code - 0x57)
  else none

/-- The byte that two hexadecimal digits at the front stand for. -/
def escaped? : List UInt8 → Option UInt8
  | high :: low :: _ =>
      (digit? high).bind fun upper =>
        (digit? low).map fun lower => UInt8.ofNat (16 * upper + lower)
  | _ => none

/-- What is read next. -/
inductive Reading where
  -- The text, after as many bytes of an escape that was decoded.
  | text (escaped : Nat)
  -- Up to the end of the line.
  | lineEnd

/--
Read a text.  An `=` that begins neither an escape nor a soft line break
stands for itself; the second one of `==` is dropped, and so is an `=` at the
very end.
-/
def decodeFrom : Reading → List UInt8 → List UInt8
  | _, [] => []
  | .text (escaped + 1), _ :: rest => decodeFrom (.text escaped) rest
  | .lineEnd, byte :: rest =>
      decodeFrom (if byte = 0x0A then .text 0 else .lineEnd) rest
  | .text 0, byte :: rest =>
      if byte = 0x3D then
        match rest.head? with
        | none => []
        | some next =>
            if next = 0x0A ∨ next = 0x0D then
              decodeFrom .lineEnd rest
            else if next = 0x3D then
              byte :: decodeFrom (.text 1) rest
            else
              match escaped? rest with
              | some decoded => decoded :: decodeFrom (.text 2) rest
              | none => byte :: decodeFrom (.text 0) rest
      else
        byte :: decodeFrom (.text 0) rest

/-- Decode a text. -/
def decode (text : List UInt8) : List UInt8 :=
  decodeFrom (.text 0) text

/-- The texts that bytes may be written as. -/
inductive Encodes : List UInt8 → List UInt8 → Prop where
  | nil : Encodes [] []
  | literal {byte : UInt8} {data text : List UInt8} :
      byte ≠ 0x3D →
      Encodes data text →
      Encodes (byte :: data) (byte :: text)
  | escape {byte high low : UInt8} {data text : List UInt8} :
      escaped? [high, low] = some byte →
      Encodes data text →
      Encodes (byte :: data) (0x3D :: high :: low :: text)
  | softBreak {data text : List UInt8} :
      Encodes data text →
      Encodes data (0x3D :: 0x0D :: 0x0A :: text)
  | bareBreak {data text : List UInt8} :
      Encodes data text →
      Encodes data (0x3D :: 0x0A :: text)

/-- No hexadecimal digit is an end of a line or an `=`. -/
theorem digit?_eq_none
    {byte : UInt8}
    (sign : byte = 0x0A ∨ byte = 0x0D ∨ byte = 0x3D) :
    digit? byte = none := by
  rcases sign with rfl | rfl | rfl <;> rfl

/-- Decoding undoes every way to write the bytes. -/
theorem decode_of_encodes
    {data text : List UInt8}
    (encodes : Encodes data text) :
    decode text = data := by
  unfold decode
  induction encodes with
  | nil =>
      rfl
  | literal notSign _ inductionHypothesis =>
      rw [decodeFrom, if_neg notSign, inductionHypothesis]
  | @escape byte high low data text isEscape _ inductionHypothesis =>
      have isDigit : ∃ upper, digit? high = some upper := by
        simp only [escaped?] at isEscape
        obtain ⟨upper, isUpper, _⟩ := Option.bind_eq_some_iff.mp isEscape
        exact ⟨upper, isUpper⟩
      obtain ⟨upper, isUpper⟩ := isDigit
      have notSign : ¬ (high = 0x0A ∨ high = 0x0D ∨ high = 0x3D) := by
        intro sign
        rw [digit?_eq_none sign] at isUpper
        cases isUpper
      have isEscape : escaped? (high :: low :: text) = some byte :=
        isEscape
      simp only [not_or] at notSign
      simp only [decodeFrom, List.head?_cons, notSign, or_self, isEscape,
        if_true, if_false, inductionHypothesis]
  | softBreak _ inductionHypothesis =>
      exact inductionHypothesis
  | bareBreak _ inductionHypothesis =>
      exact inductionHypothesis

/-- Decoding never makes a text longer. -/
theorem length_decodeFrom_le
    (reading : Reading)
    (text : List UInt8) :
    (decodeFrom reading text).length ≤ text.length := by
  induction text generalizing reading with
  | nil =>
      cases reading <;> simp [decodeFrom]
  | cons byte rest inductionHypothesis =>
      have more :
          ∀ (decoded : UInt8) (reading : Reading),
            (decoded :: decodeFrom reading rest).length ≤
              (byte :: rest).length := by
        intro decoded reading
        exact Nat.succ_le_succ (inductionHypothesis reading)
      have skipped :
          ∀ reading : Reading,
            (decodeFrom reading rest).length ≤ (byte :: rest).length :=
        fun reading => Nat.le_succ_of_le (inductionHypothesis reading)
      cases reading with
      | lineEnd =>
          exact skipped _
      | text escaped =>
          cases escaped with
          | succ escaped =>
              exact skipped _
          | zero =>
              rw [decodeFrom]
              split
              · split
                · exact Nat.zero_le _
                · split
                  · exact skipped _
                  · split
                    · exact more _ _
                    · split
                      · exact more _ _
                      · exact more _ _
              · exact more _ _

end QuotedPrintable
