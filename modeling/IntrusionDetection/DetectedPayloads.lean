import IntrusionDetection.DnsParser
import IntrusionDetection.SmtpHeaders

namespace IntrusionDetection

open PyText

/-!
# Detected payloads are parsed

The detector and the parsers look at a payload each in their own way.  A
payload with the signature of SMTP is accepted by the SMTP parser as what the
signature says, and a payload with the signature of DNS reaches the packet
library.
-/

/-- Tables whose upper-case form of a text is made character by character. -/
structure CaseTables extends SmtpTables where
  upper_append :
    ∀ first second : Str, upper (first ++ second) = upper first ++ upper second

/-- Tables that know ASCII and nothing else. -/
def CaseTables.ascii : CaseTables where
  toSmtpTables := .ascii
  upper_append := fun _ _ => List.flatMap_append

namespace SmtpParser

open ProtocolDetector

/-! ### The first line -/

/-- The text of some ASCII bytes. -/
def asText (bytes : Bytes) : Str :=
  bytes.map fun byte => chr byte.toNat

/-- ASCII bytes at the front are decoded one by one. -/
theorem decodeUtf8Replace_asText
    {front : Bytes}
    (ascii : ∀ byte ∈ front, byte.toNat < 0x80)
    (rest : Bytes) :
    decodeUtf8Replace (front ++ rest) =
      asText front ++ decodeUtf8Replace rest := by
  induction front with
  | nil =>
      rfl
  | cons byte others inductionHypothesis =>
      rw [List.forall_mem_cons] at ascii
      have first :=
        decodeUtf8Replace_append_ascii ascii.1 [] (others ++ rest)
      rw [List.cons_append, ← List.nil_append (byte :: _), first,
        inductionHypothesis ascii.2]
      rfl

/-- Bytes without line ends at the front of a packet begin its first line. -/
theorem exists_of_byteLines
    {front rest : Bytes}
    (noReturn : (0x0D : UInt8) ∉ front)
    (noFeed : (0x0A : UInt8) ∉ front) :
    ∃ line lines,
      byteLines (front ++ rest) = (front ++ line) :: lines := by
  have joined := byteLines_joined (front ++ rest)
  have isEnd :
      ∃ first after,
        lineSeparator (front ++ rest) = first :: after ∧
          first ∉ front := by
    unfold lineSeparator
    split
    · exact ⟨_, _, rfl, noReturn⟩
    · exact ⟨_, _, rfl, noFeed⟩
  obtain ⟨first, after, isSeparator, notInFront⟩ := isEnd
  cases cut : byteLines (front ++ rest) with
  | nil =>
      have notEmpty : byteLines (front ++ rest) ≠ [] := by
        unfold byteLines
        split
        · exact splitPair_ne_nil _
        · exact List.splitOn_ne_nil _ _
      exact absurd cut notEmpty
  | cons whole lines =>
      rw [cut, isSeparator] at joined
      have begins : front <+: whole := by
        cases lines with
        | nil =>
            rw [List.intercalate_singleton] at joined
            rw [joined]
            exact List.prefix_append front rest
        | cons next others =>
            rw [List.intercalate_cons_cons, List.append_assoc,
              List.cons_append] at joined
            have ended : whole ++ [first] <+: front ++ rest := by
              rw [← joined]
              exact ⟨_, List.append_assoc whole [first] _⟩
            rcases List.prefix_or_prefix_of_prefix
              (List.prefix_append front rest) ended with inside | beyond
            · rcases List.prefix_concat_iff.mp inside with
                rfl | isPrefix
              · exact absurd (by simp) notInFront
              · exact isPrefix
            · have member : first ∈ front :=
                beyond.subset (by simp)
              exact absurd member notInFront
      obtain ⟨line, rfl⟩ := begins
      exact ⟨line, lines, rfl⟩

/-- Bytes that begin a packet begin its first line that is not blank. -/
theorem firstNonEmpty_of_begins
    {front rest : Bytes}
    (ascii : ∀ byte ∈ front, byte.toNat < 0x80)
    (noReturn : (0x0D : UInt8) ∉ front)
    (noFeed : (0x0A : UInt8) ∉ front)
    (notBlank : ∃ char ∈ asText front, isBlank char = false) :
    ∃ line lines,
      byteLines (front ++ rest) = (front ++ line) :: lines ∧
        firstNonEmpty (rawLines (decodeUtf8Replace (front ++ rest))) =
          some (asText front ++ decodeUtf8Replace line) := by
  obtain ⟨line, lines, isFirst⟩ :=
    @exists_of_byteLines front rest noReturn noFeed
  refine ⟨line, lines, isFirst, ?_⟩
  obtain ⟨char, member, isVisible⟩ := notBlank
  have visible :
      strip (asText front ++ decodeUtf8Replace line) ≠ [] :=
    List.ne_nil_of_mem ((mem_strip_iff isVisible).mpr
      (List.mem_append_left _ member))
  rw [rawLines_decodeUtf8Replace, isFirst, List.map_cons,
    decodeUtf8Replace_asText ascii, firstNonEmpty,
    List.find?_cons_of_pos (by simpa using visible)]

/-- Visible characters at the front are not trimmed. -/
theorem strip_append_visible
    {front : Str}
    (notEmpty : front ≠ [])
    (trimmed : strip front = front)
    (rest : Str) :
    strip (front ++ rest) = front ++ rstrip rest := by
  have first := (ends_of_strip_eq_self trimmed).1
  have leading : ∀ after, lstrip (front ++ after) = front ++ after := by
    intro after
    cases front with
    | nil =>
        exact absurd rfl notEmpty
    | cons char others =>
        have visible : isBlank char = false :=
          first char rfl
        rw [List.cons_append, lstrip,
          List.dropWhile_cons_of_neg (by simp [visible])]
  have ending : rstrip front = front := by
    have alone := leading []
    rw [List.append_nil] at alone
    rw [strip, alone] at trimmed
    exact trimmed
  rw [strip, leading, rstrip_append]
  split
  · rename_i allBlank
    rw [ending, allBlank, List.append_nil]
  · rfl

/-- The messages begin with what the first line says. -/
theorem stripped_of_byteLines
    {raw line : Bytes}
    {lines : List Bytes}
    (isFirst : byteLines raw = line :: lines)
    (visible : strip (decodeUtf8Replace line) ≠ []) :
    ∃ rest,
      ((rawLines (decodeUtf8Replace raw)).map strip).filter
          (fun line => !line.isEmpty) =
        strip (decodeUtf8Replace line) :: rest := by
  rw [rawLines_decodeUtf8Replace, isFirst, List.map_cons, List.map_cons,
    List.filter_cons_of_pos (by simpa using visible)]
  exact ⟨_, rfl⟩

/-- The first line that is not blank decides what is read. -/
theorem readPacket_of_firstNonEmpty
    {tables : SmtpTables}
    {raw : Bytes}
    {first : Str}
    (notEmpty : raw.isEmpty = false)
    (isFirst :
      firstNonEmpty (rawLines (decodeUtf8Replace raw)) = some first) :
    readPacket tables raw =
      let stripped :=
        ((rawLines (decodeUtf8Replace raw)).map strip).filter
          fun line => !line.isEmpty
      if isResponse tables first then
        .ok (.response (stripped.map (readReply tables)))
      else if isData tables first then
        .ok (.data (mimeHeaders tables raw) (mailBodyOffset raw))
      else if (commandOf? tables first).isSome then
        .ok (.command (stripped.map (readCommand tables)))
      else
        .error
          (lit "First line does not match SMTP standard: " ++
            first.take 50 ++ lit "...") := by
  simp only [readPacket, notEmpty, isFirst, Bool.false_eq_true, if_false]

/-! ### Commands -/

/-- A line that begins with no digit is no response. -/
theorem not_isResponse
    {tables : SmtpTables}
    {first : CodePoint}
    (notDigit : tables.decimal first = none)
    (rest : Str) :
    isResponse tables (first :: rest) = false := by
  have noMatch : responseMatch? tables (first :: rest) = none := by
    unfold responseMatch?
    split
    · rename_i same
      cases same
      rw [notDigit]
      rfl
    · rfl
  rw [isResponse, noMatch]
  rfl

/-- A name with a blank in it is no header name. -/
theorem not_isHeaderName
    {key : Str}
    (blank : codePoint ' ' ∈ key) :
    isHeaderName key = false := by
  by_contra isName
  obtain ⟨name, _, nameChars, whole⟩ :=
    exists_of_isHeaderName (Bool.eq_true_of_not_eq_false isName)
  have notNamed : codePoint ' ' ∉ name := fun member =>
    absurd (nameChars _ member) (by decide)
  rcases whole with rfl | rfl
  · exact notNamed blank
  · rcases List.mem_append.mp blank with inName | isFeed
    · exact notNamed inName
    · exact absurd isFeed (by decide)

/-- A line with a blank before its first colon is no header line. -/
theorem not_isData
    {tables : SmtpTables}
    {before : Str}
    (noColon : codePoint ':' ∉ before)
    (rest : Str) :
    isData tables (before ++ codePoint ' ' :: rest) = false := by
  have inName :
      codePoint ' ' ∈ headerName (before ++ codePoint ' ' :: rest) := by
    have kept :
        ∀ char ∈ before, decide (char ≠ codePoint ':') = true := by
      intro char member
      apply decide_eq_true
      rintro rfl
      exact noColon member
    rw [headerName, partition, List.takeWhile_append_of_pos kept,
      List.takeWhile_cons_of_pos (by decide)]
    exact List.mem_append_right _ List.mem_cons_self
  rw [isData, not_isHeaderName inName, Bool.and_false]

/-- The signature of a command. -/
structure Announces (known : Bytes) (command : Str) : Prop where
  ascii :
    known.all (fun byte =>
      byte.toNat < 0x80 && byte != 0x0D && byte != 0x0A) = true
  separated : ∃ separator, asText known = command ++ [separator]
  notEmpty : command ≠ []
  trimmed : strip command = command
  capital :
    command.all (fun char => char.val < 0x80) = true ∧
      PyText.upper command = command
  letter : command.head?.any isAsciiDigit = false
  blank :
    ∃ before after,
      asText known = before ++ codePoint ' ' :: after ∧
        codePoint ':' ∉ before
  found :
    ∀ rest,
      (smtpCommands.find? fun other =>
        startsWith other (command ++ rest)) = some command

/-- Every signature is that of a command. -/
theorem exists_announces :
    ∀ known ∈ smtpSignatures, ∃ command, Announces known command := by
  intro known member
  simp only [smtpSignatures, List.mem_cons, List.not_mem_nil,
    or_false] at member
  rcases member with rfl | rfl | rfl | rfl
  · exact ⟨lit "HELO", by decide, ⟨codePoint ' ', rfl⟩, by decide,
      by decide, by decide, by decide, ⟨lit "HELO", [], rfl, by decide⟩,
      fun _ => rfl⟩
  · exact ⟨lit "EHLO", by decide, ⟨codePoint ' ', rfl⟩, by decide,
      by decide, by decide, by decide, ⟨lit "EHLO", [], rfl, by decide⟩,
      fun _ => rfl⟩
  · exact ⟨lit "MAIL FROM", by decide, ⟨codePoint ':', rfl⟩, by decide,
      by decide, by decide, by decide,
      ⟨lit "MAIL", lit "FROM:", rfl, by decide⟩, fun _ => rfl⟩
  · exact ⟨lit "RCPT TO", by decide, ⟨codePoint ':', rfl⟩, by decide,
      by decide, by decide, by decide,
      ⟨lit "RCPT", lit "TO:", rfl, by decide⟩, fun _ => rfl⟩

namespace Announces

variable {known : Bytes} {command : Str}

/-- Whatever follows a command, it is recognised. -/
theorem commandOf?_append
    (announces : Announces known command)
    (tables : CaseTables)
    (rest : Str) :
    commandOf? tables.toSmtpTables (command ++ rest) = some command := by
  have ascii : ∀ char ∈ command, char.val < 0x80 := fun char member =>
    of_decide_eq_true
      (List.all_eq_true.mp announces.capital.1 char member)
  rw [commandOf?, tables.upper_append, tables.upper_ascii command ascii,
    announces.capital.2]
  exact announces.found _

/-- A packet that begins with a command is parsed as commands. -/
theorem parseSmtp_append
    (announces : Announces known command)
    (tables : CaseTables)
    (rest : Bytes) :
    ∃ first others,
      parseSmtp tables.toSmtpTables (known ++ rest) =
          .ok (.command (first :: others)) ∧
        first.command = command := by
  have bytes := List.all_eq_true.mp announces.ascii
  simp only [Bool.and_eq_true, decide_eq_true_eq, bne_iff_ne, ne_eq]
    at bytes
  obtain ⟨separator, isText⟩ := announces.separated
  have visible :
      ∃ char ∈ asText known, isBlank char = false := by
    obtain ⟨char, others, isCommand⟩ :=
      List.exists_cons_of_ne_nil announces.notEmpty
    refine ⟨char, ?_, ?_⟩
    · rw [isText, isCommand]
      exact List.mem_cons_self
    · apply (ends_of_strip_eq_self announces.trimmed).1
      rw [isCommand]
      rfl
  obtain ⟨line, lines, isFirst, firstText⟩ :=
    @firstNonEmpty_of_begins known rest
      (fun byte member => (bytes byte member).1.1)
      (fun member => (bytes _ member).1.2 rfl)
      (fun member => (bytes _ member).2 rfl) visible
  have stripped :
      strip (decodeUtf8Replace (known ++ line)) =
        command ++ rstrip (separator :: decodeUtf8Replace line) := by
    rw [decodeUtf8Replace_asText
      (fun byte member => (bytes byte member).1.1), isText,
      List.append_assoc, List.singleton_append,
      strip_append_visible announces.notEmpty announces.trimmed]
  obtain ⟨others, messages⟩ :=
    stripped_of_byteLines isFirst (by
      rw [stripped]
      exact List.append_ne_nil_of_left_ne_nil announces.notEmpty _)
  have notResponse :
      isResponse tables.toSmtpTables
        (asText known ++ decodeUtf8Replace line) = false := by
    obtain ⟨char, letters, whole⟩ :=
      List.exists_cons_of_ne_nil announces.notEmpty
    have letter := announces.letter
    have capital := List.all_eq_true.mp announces.capital.1 char
    rw [whole] at letter capital
    have ascii : char.val < 0x80 :=
      of_decide_eq_true (capital List.mem_cons_self)
    have notDigit : isAsciiDigit char = false :=
      letter
    rw [isText, whole, List.append_assoc, List.cons_append]
    apply not_isResponse
    rw [tables.decimal_ascii char ascii, notDigit]
    rfl
  have notData :
      isData tables.toSmtpTables
        (asText known ++ decodeUtf8Replace line) = false := by
    obtain ⟨before, after, whole, noColon⟩ := announces.blank
    rw [whole, List.append_assoc, List.cons_append]
    exact not_isData noColon _
  have isCommand :
      commandOf? tables.toSmtpTables
        (asText known ++ decodeUtf8Replace line) = some command := by
    rw [isText, List.append_assoc]
    exact announces.commandOf?_append tables _
  have notEmpty : (known ++ rest).isEmpty = false := by
    rw [List.isEmpty_eq_false_iff]
    apply List.append_ne_nil_of_left_ne_nil
    rintro rfl
    exact announces.notEmpty (List.append_eq_nil_iff.mp isText.symm).1
  refine ⟨readCommand tables.toSmtpTables
      (command ++ rstrip (separator :: decodeUtf8Replace line)),
    others.map (readCommand tables.toSmtpTables), ?_, ?_⟩
  · rw [parseSmtp, readPacket_of_firstNonEmpty notEmpty firstText,
      messages, stripped, notResponse, notData, isCommand]
    rfl
  · rw [readCommand, announces.commandOf?_append]

end Announces

/-! ### Replies -/

/-- The number that a reply begins with. -/
def replyCode (payload : Bytes) : Nat :=
  match payload with
  | first :: second :: third :: _ =>
      100 * (first.toNat - 0x30) + 10 * (second.toNat - 0x30) +
        (third.toNat - 0x30)
  | _ => 0

/-- Is there a blank after the code, and no text on the first line? -/
def isCodeAlone (payload : Bytes) : Bool :=
  payload[3]? == some 0x20 &&
    isBlankLine (((byteLines payload).headD []).drop 4)

/-- A text is blank from either end. -/
theorem rstrip_eq_nil_iff (text : Str) :
    rstrip text = [] ↔ strip text = [] := by
  constructor
  · intro empty
    by_contra visible
    rw [rstrip_eq_leading_append visible] at empty
    exact visible (List.append_eq_nil_iff.mp empty).2
  · intro empty
    have whole := leading_append_lstrip text
    rw [strip_eq_nil_iff.mp empty, List.append_nil] at whole
    apply List.rdropWhile_eq_nil_iff.mpr
    intro char member
    rw [← whole] at member
    exact List.mem_takeWhile_imp member

section Replies

variable {tables : SmtpTables}
variable {first second third separator : UInt8}

/-- A digit is an ASCII character, and no blank. -/
theorem digit_of_isDigitByte
    {byte : UInt8}
    (isDigit : isDigitByte byte = true) :
    byte.toNat < 0x80 ∧ byte ≠ 0x0D ∧ byte ≠ 0x0A ∧
      isAsciiDigit (chr byte.toNat) = true ∧
        isBlank (chr byte.toNat) = false := by
  have range : 0x30 ≤ byte.toNat ∧ byte.toNat ≤ 0x39 := by
    simpa [isDigitByte] using isDigit
  have value : (chr byte.toNat).val = byte.toNat :=
    chr_toNat_val (by omega)
  refine ⟨by omega, ?_, ?_, ?_, ?_⟩
  · rintro rfl
    exact absurd range (by decide)
  · rintro rfl
    exact absurd range (by decide)
  · simpa [isAsciiDigit, value] using range
  · simp only [isBlank, value, Bool.or_eq_false_iff, Bool.and_eq_false_iff,
      decide_eq_false_iff_not, beq_eq_false_iff_ne]
    omega

/-- The value of a digit. -/
theorem decimal_of_isDigitByte
    {byte : UInt8}
    (isDigit : isDigitByte byte = true) :
    tables.decimal (chr byte.toNat) = some (byte.toNat - 0x30) := by
  obtain ⟨ascii, _, _, isAscii, _⟩ := digit_of_isDigitByte isDigit
  have value : (chr byte.toNat).val = byte.toNat :=
    chr_toNat_val ascii
  rw [tables.decimal_ascii _ (by omega), if_pos isAscii, value]

/-- Three digits and a separator are matched whatever follows. -/
theorem responseMatch?_digits
    (digits :
      isDigitByte first = true ∧ isDigitByte second = true ∧
        isDigitByte third = true)
    (separates : separator = 0x20 ∨ separator = 0x2D)
    (rest : Str) :
    responseMatch? tables
        (asText [first, second, third, separator] ++ rest) =
      some (replyCode [first, second, third], chr separator.toNat,
        rest.takeWhile (· ≠ codePoint '\n')) := by
  have isSeparator :
      chr separator.toNat = codePoint ' ' ∨
        chr separator.toNat = codePoint '-' := by
    rcases separates with rfl | rfl
    · exact Or.inl rfl
    · exact Or.inr rfl
  change responseMatch? tables
    (chr first.toNat :: chr second.toNat :: chr third.toNat ::
      chr separator.toNat :: rest) = _
  simp only [responseMatch?, decimal_of_isDigitByte digits.1,
    decimal_of_isDigitByte digits.2.1, decimal_of_isDigitByte digits.2.2,
    Option.bind_eq_bind, Option.bind_some, if_pos isSeparator]
  rfl

/-- A code without a separator is not matched. -/
theorem responseMatch?_code :
    responseMatch? tables (asText [first, second, third]) = none :=
  rfl

/-- Three digits are trimmed. -/
theorem strip_digits
    (digits :
      isDigitByte first = true ∧ isDigitByte second = true ∧
        isDigitByte third = true) :
    strip (asText [first, second, third]) =
      asText [first, second, third] := by
  apply strip_eq_self
  · rintro char isFirst
    cases isFirst
    exact (digit_of_isDigitByte digits.1).2.2.2.2
  · rintro char isLast
    cases isLast
    exact (digit_of_isDigitByte digits.2.2).2.2.2.2

/-- A blank is trimmed with what is blank after it. -/
theorem rstrip_blank (text : Str) :
    rstrip (codePoint ' ' :: text) =
      if strip text = [] then [] else codePoint ' ' :: rstrip text := by
  rw [← List.singleton_append, rstrip_append]
  simp only [rstrip_eq_nil_iff]
  rfl

/-- What is read from the first line of a reply. -/
theorem code_readReply
    (digits :
      isDigitByte first = true ∧ isDigitByte second = true ∧
        isDigitByte third = true)
    (separates : separator = 0x20 ∨ separator = 0x2D)
    (text : Str) :
    (readReply tables (asText [first, second, third] ++
        rstrip (chr separator.toNat :: text))).code =
      if separator = 0x20 ∧ strip text = [] then 0
      else replyCode [first, second, third] := by
  have matched :
      ∀ rest,
        (readReply tables (asText [first, second, third] ++
          chr separator.toNat :: rest)).code =
          replyCode [first, second, third] := by
    intro rest
    have whole :
        asText [first, second, third] ++ chr separator.toNat :: rest =
          asText [first, second, third, separator] ++ rest :=
      rfl
    rw [whole, readReply, responseMatch?_digits digits separates]
  rcases separates with rfl | rfl
  · have isBlankChar : chr (0x20 : UInt8).toNat = codePoint ' ' :=
      rfl
    rw [isBlankChar] at matched ⊢
    rw [rstrip_blank]
    by_cases blank : strip text = []
    · rw [if_pos blank, if_pos ⟨rfl, blank⟩, List.append_nil, readReply,
        responseMatch?_code]
    · rw [if_neg blank, if_neg fun both => blank both.2]
      exact matched _
  · rw [rstrip_cons (by decide), if_neg fun both => by
      exact absurd both.1 (by decide)]
    exact matched _

/-- When the first line is a code and blanks. -/
theorem isCodeAlone_iff
    {line rest : Bytes}
    {lines : List Bytes}
    (isFirst :
      byteLines ([first, second, third, separator] ++ rest) =
        ([first, second, third, separator] ++ line) :: lines) :
    isCodeAlone ([first, second, third, separator] ++ rest) = true ↔
      separator = 0x20 ∧ strip (decodeUtf8Replace line) = [] := by
  rw [isCodeAlone, isFirst]
  simp [isBlankLine]

/-- A packet that begins with a reply is parsed as a response. -/
theorem parseSmtp_digits
    (digits :
      isDigitByte first = true ∧ isDigitByte second = true ∧
        isDigitByte third = true)
    (separates : separator = 0x20 ∨ separator = 0x2D)
    (rest : Bytes) :
    let payload := [first, second, third, separator] ++ rest
    ∃ reply others,
      parseSmtp tables payload = .ok (.response (reply :: others)) ∧
        reply.code =
          if isCodeAlone payload then 0 else replyCode payload := by
  intro payload
  have isSeparator :
      separator.toNat < 0x80 ∧ separator ≠ 0x0D ∧ separator ≠ 0x0A := by
    rcases separates with rfl | rfl <;> decide
  have bytes :
      ∀ byte ∈ [first, second, third, separator],
        byte.toNat < 0x80 ∧ byte ≠ 0x0D ∧ byte ≠ 0x0A := by
    simp only [List.forall_mem_cons]
    have one := digit_of_isDigitByte digits.1
    have two := digit_of_isDigitByte digits.2.1
    have three := digit_of_isDigitByte digits.2.2
    exact ⟨⟨one.1, one.2.1, one.2.2.1⟩, ⟨two.1, two.2.1, two.2.2.1⟩,
      ⟨three.1, three.2.1, three.2.2.1⟩, isSeparator, by simp⟩
  obtain ⟨line, lines, isFirst, firstText⟩ :=
    @firstNonEmpty_of_begins [first, second, third, separator] rest
      (fun byte member => (bytes byte member).1)
      (fun member => (bytes _ member).2.1 rfl)
      (fun member => (bytes _ member).2.2 rfl)
      ⟨_, List.mem_cons_self, (digit_of_isDigitByte digits.1).2.2.2.2⟩
  have stripped :
      strip (decodeUtf8Replace
          ([first, second, third, separator] ++ line)) =
        asText [first, second, third] ++
          rstrip (chr separator.toNat :: decodeUtf8Replace line) := by
    rw [decodeUtf8Replace_asText fun byte member => (bytes byte member).1]
    exact strip_append_visible (List.cons_ne_nil _ _)
      (strip_digits digits) _
  obtain ⟨others, messages⟩ :=
    stripped_of_byteLines isFirst (by
      rw [stripped]
      exact List.cons_ne_nil _ _)
  have responds :
      isResponse tables
        (asText [first, second, third, separator] ++
          decodeUtf8Replace line) = true := by
    rw [isResponse, responseMatch?_digits digits separates]
    rfl
  have notEmpty : payload.isEmpty = false :=
    rfl
  refine ⟨readReply tables (asText [first, second, third] ++
      rstrip (chr separator.toNat :: decodeUtf8Replace line)),
    others.map (readReply tables), ?_, ?_⟩
  · rw [parseSmtp, readPacket_of_firstNonEmpty notEmpty firstText,
      messages, stripped, responds]
    rfl
  · rw [code_readReply digits separates]
    simp only [payload, isCodeAlone_iff isFirst]
    rfl

end Replies

/-! ### Both -/

/--
The parsers accept what the detector tells by the payload.  A payload with the
signature of SMTP is parsed, as a response if it begins with a reply and as
commands if it begins with a command, and the first of them is the one that it
begins with; but a code is lost if a blank follows it and there is no text on
its line, since the blanks at the end of a line are taken off before it is
read.  A payload has the signature of DNS if and only if the DNS parser passes
it to the packet library and it has one to ten questions, and what the parser
returns is then what the library makes of it.
-/
theorem detected_parsed
    (tables : CaseTables)
    (dissect : Bytes → Except Str DnsMessage)
    (payload : Bytes) :
    (detectProtocolByPayload payload = some .smtp →
      if isSmtpReply payload then
        ∃ reply others,
          parseSmtp tables.toSmtpTables payload =
              .ok (.response (reply :: others)) ∧
            reply.code =
              if isCodeAlone payload then 0 else replyCode payload
      else
        ∃ message others,
          parseSmtp tables.toSmtpTables payload =
              .ok (.command (message :: others)) ∧
            message.command <+: asText payload) ∧
      (detectProtocolByPayload payload = some .dns ↔
        DnsParser.headerFault? payload = none ∧
          ∃ header,
            unpackHeader? (payload.take 12) = some header ∧
              1 ≤ header.qdcount ∧ header.qdcount ≤ 10) ∧
        (detectProtocolByPayload payload = some .dns →
          parseDns dissect payload =
            ((dissect payload).map DnsParser.fieldsOf).mapError
              fun detail => { layer := lit "parse_dns", detail }) := by
  have detects := detectProtocolByPayload_iff payload
  refine ⟨fun isSmtp => ?_, ?_, fun isDns => ?_⟩
  · have carries := (detects .smtp).mp isSmtp
    split
    · rename_i isReply
      unfold isSmtpReply at isReply
      split at isReply
      · rename_i first second third separator rest
        simp only [Bool.and_eq_true, Bool.or_eq_true, decide_eq_true_eq]
          at isReply
        exact parseSmtp_digits
          ⟨isReply.1.1.1, isReply.1.1.2, isReply.1.2⟩ isReply.2 rest
      · cases isReply
    · rename_i notReply
      obtain ⟨known, isKnown, rest, rfl⟩ :=
        (any_isPrefixOf_iff _ _).mp
          ((Bool.or_eq_true_iff.mp carries).resolve_right notReply)
      obtain ⟨command, announces⟩ := exists_announces known isKnown
      obtain ⟨message, others, parsed, same⟩ :=
        announces.parseSmtp_append tables rest
      refine ⟨message, others, parsed, ?_⟩
      obtain ⟨separator, isText⟩ := announces.separated
      refine ⟨separator :: asText rest, ?_⟩
      have whole : asText (known ++ rest) = asText known ++ asText rest :=
        List.map_append
      rw [same, whole, isText, List.append_assoc]
      rfl
  · rw [detects]
    exact DnsParser.looksLikeDns_iff payload
  · have looks := (detects .dns).mp isDns
    have passes := ((DnsParser.looksLikeDns_iff payload).mp looks).1
    rw [parseDns, passes]
    cases dissect payload <;> rfl

/-- A greeting and a command are parsed as what they are. -/
theorem detected_greeting :
    (∃ reply others,
      parseSmtp CaseTables.ascii.toSmtpTables
          (signature "220 mail.example.com") =
          .ok (.response (reply :: others)) ∧
        reply.code = 220) ∧
      ∃ message others,
        parseSmtp CaseTables.ascii.toSmtpTables
            (signature "MAIL FROM:<a@example.com>") =
            .ok (.command (message :: others)) ∧
          message.command <+:
            asText (signature "MAIL FROM:<a@example.com>") := by
  have greeting :=
    (detected_parsed .ascii (fun _ => .error [])
      (signature "220 mail.example.com")).1 (by decide)
  have command :=
    (detected_parsed .ascii (fun _ => .error [])
      (signature "MAIL FROM:<a@example.com>")).1 (by decide)
  rw [if_pos (by decide)] at greeting
  rw [if_neg (by decide)] at command
  refine ⟨?_, command⟩
  obtain ⟨reply, others, parsed, code⟩ := greeting
  exact ⟨reply, others, parsed, code.trans (by decide +kernel)⟩

end SmtpParser

end IntrusionDetection
