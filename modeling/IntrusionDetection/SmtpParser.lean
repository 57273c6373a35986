import IntrusionDetection.HttpParser

namespace IntrusionDetection

open PyText

/-!
# The SMTP parser

`parse_smtp` reads one packet: responses, commands, or the headers of a mail.
The first line that is not blank decides which of them it is.
-/

/-- What the interpreter knows about letter case, as far as it is needed. -/
structure SmtpTables extends CharacterTables where
  -- `str.upper`
  upper : Str → Str
  upper_ascii :
    ∀ text : Str,
      (∀ char ∈ text, char.val < 0x80) → upper text = PyText.upper text
  -- No character has a line feed in its lower-case form but itself.
  lower_newline :
    ∀ text : Str,
      codePoint '\n' ∈ lower text → codePoint '\n' ∈ text

/-- Only a line feed becomes one in lower case. -/
theorem newline_of_lower
    {text : Str}
    (feed : codePoint '\n' ∈ PyText.lower text) :
    codePoint '\n' ∈ text := by
  obtain ⟨char, member, isFeed⟩ := List.mem_map.mp feed
  unfold lowerChar at isFeed
  split at isFeed
  · rename_i capital
    have value := congrArg Fin.val isFeed
    simp [codePoint] at capital value
    omega
  · split at isFeed
    · cases isFeed
    · rw [← isFeed]
      exact member

/-- Tables that know ASCII and nothing else. -/
def SmtpTables.ascii : SmtpTables where
  toCharacterTables := .ascii
  upper := PyText.upper
  upper_ascii := fun _ _ => rfl
  lower_newline := fun _ => newline_of_lower

/-- One line of a server. -/
structure SmtpReply where
  code : Nat
  isLastLine : Bool
  message : Str
  deriving DecidableEq

/-- One line of a client. -/
structure SmtpCommand where
  command : Str
  arguments : Str
  deriving DecidableEq

/-- `app_fields` of an SMTP packet. -/
inductive SmtpFields where
  | response (messages : List SmtpReply)
  | command (messages : List SmtpCommand)
  | data (mimeHeaders : List (Str × Str)) (bodyOffset : Option Nat)
  deriving DecidableEq

/-- Where a regular expression matched. -/
structure Span where
  start : Nat
  stop : Nat
  deriving DecidableEq

/-- What the loop over the header lines has read. -/
structure MimeState where
  currentKey : Option Str
  headers : List (Str × Str)

namespace SmtpParser

/-! ### Lines -/

/-- `raw_lines`. -/
def rawLines (text : Str) : List Str :=
  let lines := splitCrlf text
  if lines.length = 1 ∧ codePoint '\n' ∈ text then
    splitAt (codePoint '\n') text
  else
    lines

/-- `first_non_empty`. -/
def firstNonEmpty (lines : List Str) : Option Str :=
  lines.find? fun line => !(strip line).isEmpty

/-- `re.split(r'\r?\n', text)`. -/
def splitLines : Str → List Str
  | [] => [[]]
  | [char] => if char = codePoint '\n' then [[], []] else [[char]]
  | first :: second :: rest =>
      if first = codePoint '\n' then
        [] :: splitLines (second :: rest)
      else if first = codePoint '\r' ∧ second = codePoint '\n' then
        [] :: splitLines rest
      else
        match splitLines (second :: rest) with
        | [] => [[first]]
        | line :: lines => (first :: line) :: lines

/-! ### The end of the header section -/

/-- The length of `\r?\n` at the front. -/
def lineBreakLength? : Bytes → Option Nat
  | [] => none
  | first :: rest =>
      if first = 0x0A then some 1
      else if first = 0x0D ∧ rest.head? = some 0x0A then some 2
      else none

/-- The length of `HEADER_END_RE` at the front. -/
def headerEndLength? (bytes : Bytes) : Option Nat := do
  let first ← lineBreakLength? bytes
  let second ← lineBreakLength? (bytes.drop first)
  return first + second

/-- `HEADER_END_RE.search`. -/
def searchHeaderEnd : Bytes → Option Span
  | [] => none
  | byte :: rest =>
      match headerEndLength? (byte :: rest) with
      | some length => some { start := 0, stop := length }
      | none =>
          (searchHeaderEnd rest).map fun span =>
            { start := span.start + 1, stop := span.stop + 1 }

/-- `header_bytes`. -/
def headerSection (raw : Bytes) : Bytes :=
  match searchHeaderEnd raw with
  | some span => raw.take span.start
  | none => raw

/-- `app_fields["body_offset"]`. -/
def mailBodyOffset (raw : Bytes) : Option Nat :=
  (searchHeaderEnd raw).map Span.stop

/-! ### Patterns of a line -/

/-- Is it in the class `[\x21-\x39\x3b-\x7e]`? -/
def isNameChar (char : CodePoint) : Bool :=
  (0x21 ≤ char.val && char.val ≤ 0x39) ||
    (0x3B ≤ char.val && char.val ≤ 0x7E)

/-- `HEADER_NAME_RE.match`: the `$` also matches before a last line feed. -/
def isHeaderName (key : Str) : Bool :=
  let name :=
    if key.getLast? = some (codePoint '\n') then key.dropLast else key
  !name.isEmpty && name.all isNameChar

/-- The text before the first colon of a line. -/
def headerName (line : Str) : Str :=
  (partition (codePoint ':') line).1

/-- `SMTP_COMMANDS`. -/
def smtpCommands : List Str :=
  [lit "HELO", lit "EHLO", lit "MAIL FROM", lit "RCPT TO", lit "DATA",
    lit "QUIT", lit "RSET", lit "AUTH", lit "STARTTLS", lit "VRFY",
    lit "EXPN", lit "NOOP"]

/-- A line that follows no pattern is cut after 100 characters. -/
def shortened (line : Str) : Str :=
  line.take 100 ++ if 100 < line.length then lit "..." else []

variable (tables : SmtpTables)

/-- The groups of `SMTP_RESP_RE`; a dot matches no line feed. -/
def responseMatch? (line : Str) : Option (Nat × CodePoint × Str) :=
  match line with
  | first :: second :: third :: separator :: rest => do
      let hundreds ← tables.decimal first
      let tens ← tables.decimal second
      let units ← tables.decimal third
      if separator = codePoint ' ' ∨ separator = codePoint '-' then
        some (100 * hundreds + 10 * tens + units, separator,
          rest.takeWhile (· ≠ codePoint '\n'))
      else
        none
  | _ => none

/-- `is_response`. -/
def isResponse (line : Str) : Bool :=
  (responseMatch? tables line).isSome

/-- `is_data`. -/
def isData (line : Str) : Bool :=
  !isResponse tables line && line.contains (codePoint ':') &&
    isHeaderName (headerName line)

/-- The command at the front of a line. -/
def commandOf? (line : Str) : Option Str :=
  smtpCommands.find? fun command =>
    startsWith command (tables.upper line)

/-! ### What the lines say -/

/-- One line of a response. -/
def readReply (line : Str) : SmtpReply :=
  match responseMatch? tables line with
  | some (code, separator, message) => {
      code
      isLastLine := separator = codePoint ' '
      message := strip message }
  | none => {
      code := 0
      isLastLine := false
      message := shortened line }

/-- One line of a command. -/
def readCommand (line : Str) : SmtpCommand :=
  match commandOf? tables line with
  | some command =>
      let isFiller : CodePoint → Bool :=
        fun char => char = codePoint ':' || char = codePoint ' '
      { command
        arguments :=
          ((line.drop command.length).dropWhile isFiller).rdropWhile
            isFiller }
  | none => {
      command := lit "UNKNOWN"
      arguments := shortened line }

/-- One line of the header section. -/
def readMimeLine (state : MimeState) (line : Str) : MimeState :=
  match line with
  | [] => state
  | first :: _ =>
      if first = codePoint ' ' ∨ first = codePoint '\t' then
        match state.currentKey with
        | none => state
        | some key =>
            -- An empty key is as good as none.
            if key.isEmpty then
              state
            else
              match InsertionDict.get? state.headers key with
              -- Not taken: the current key has been stored.
              | none => state
              | some value =>
                  { state with
                    headers :=
                      InsertionDict.setItem state.headers key
                        (value ++ lit " " ++ strip line) }
      else
        match partition (codePoint ':') line with
        | (_, none) => state
        | (name, some value) =>
            let key := tables.lower (strip name)
            { currentKey := some key
              headers :=
                InsertionDict.setItem state.headers key (strip value) }

/-- What the header section says. -/
def readMimeLines (lines : List Str) : MimeState :=
  lines.foldl (readMimeLine tables) { currentKey := none, headers := [] }

/-- `app_fields["mime_headers"]`. -/
def mimeHeaders (raw : Bytes) : List (Str × Str) :=
  (readMimeLines tables
    (splitLines (decodeUtf8Replace (headerSection raw)))).headers

/-- The body of `parse_smtp`; the error is the text of its `ValueError`. -/
def readPacket (raw : Bytes) : Except Str SmtpFields :=
  if raw.isEmpty then
    .error (lit "Empty payload, cannot be SMTP.")
  else
    let lines := rawLines (decodeUtf8Replace raw)
    let stripped := (lines.map strip).filter fun line => !line.isEmpty
    match firstNonEmpty lines with
    | none =>
        .error (lit "Payload contains only whitespace/empty lines.")
    | some first =>
        if isResponse tables first then
          .ok (.response (stripped.map (readReply tables)))
        else if isData tables first then
          .ok (.data (mimeHeaders tables raw) (mailBodyOffset raw))
        else if (commandOf? tables first).isSome then
          .ok (.command (stripped.map (readCommand tables)))
        else
          .error
            (lit "First line does not match SMTP standard: " ++
              first.take 50 ++ lit "...")

end SmtpParser

/-- `parse_smtp`: an exception becomes a result. -/
def parseSmtp (tables : SmtpTables) (raw : Bytes) :
    Except ErrorInfo SmtpFields :=
  match SmtpParser.readPacket tables raw with
  | .ok fields => .ok fields
  | .error detail => .error { layer := lit "parse_smtp", detail }

end IntrusionDetection
