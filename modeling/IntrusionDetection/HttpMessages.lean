import IntrusionDetection.DecodedLines
import IntrusionDetection.HttpBodies
import IntrusionDetection.JsonRoundTrip
import IntrusionDetection.SmtpLines

namespace IntrusionDetection

open PyText HttpParser

/-!
# HTTP messages that are written and parsed

A request or a response is written as its start line, its header fields and a
body, with the line ends of the protocol.  The parser finds each of them again,
and tells where the body begins.
-/

/-- A name and a value that can be told apart on a line. -/
def IsHeader (name value : Str) : Prop :=
  strip name = name ∧ strip value = value ∧ codePoint ':' ∉ name

instance (name value : Str) : Decidable (IsHeader name value) :=
  inferInstanceAs (Decidable (_ ∧ _ ∧ _))

/-- A header field that can be written on a line. -/
structure HeaderField where
  name : Str
  value : Str
  isHeader : IsHeader name value

namespace HeaderField

/-- The line of the field. -/
def line (field : HeaderField) : Str :=
  field.name ++ (lit ": " ++ field.value)

/-- The field as the parser reports it. -/
def pair (field : HeaderField) : Str × Str :=
  (field.name, field.value)

end HeaderField

namespace StartLine

/-- The line as it is written. -/
def text : StartLine → Str
  | request method path version =>
      (lit " ").intercalate [method, path, version]
  | response version statusCode reason =>
      (lit " ").intercalate [version, ofInt statusCode, reason]

/-- What the parser can tell apart on the line. -/
def Writable : StartLine → Prop
  | request method path version =>
      codePoint ' ' ∉ method ∧ codePoint ' ' ∉ path ∧
        codePoint ' ' ∉ version ∧
          startsWith (lit "HTTP/") method = false ∧
            startsWith (lit "HTTP/") version = true
  | response version statusCode _ =>
      codePoint ' ' ∉ version ∧
        startsWith (lit "HTTP/") version = true ∧
          0 ≤ statusCode ∧ (ofInt statusCode).length ≤ intMaxStrDigits

end StartLine

/-- A message that can be written. -/
structure HttpMessage where
  startLine : StartLine
  fields : List HeaderField
  body : Bytes
  startWritable : startLine.Writable
  oneLine :
    ∀ line ∈ startLine.text :: fields.map HeaderField.line,
      ¬ HasPair (codePoint '\r') (codePoint '\n') line

namespace HttpMessage

/-- The lines before the body. -/
def lines (message : HttpMessage) : List Str :=
  message.startLine.text :: message.fields.map HeaderField.line

/-- The text before the line that ends the head. -/
def head (message : HttpMessage) : Str :=
  (lit "\r\n").intercalate message.lines

/-- The packet; `none` if the head cannot be encoded. -/
def render? (message : HttpMessage) : Option Bytes :=
  (utf8? message.head).map fun head =>
    head ++ terminator ++ message.body

end HttpMessage

/-! ### The end of the head -/

/-- Inside a line without the pair the head does not end. -/
theorem not_terminator_prefix
    {byte : UInt8}
    {others : Bytes}
    (without : ¬ HasPair 0x0D 0x0A (byte :: others))
    (rest : Bytes) :
    terminator.isPrefixOf (byte :: (others ++ 0x0D :: rest)) = false := by
  by_contra isPrefix
  obtain ⟨after, whole⟩ :=
    List.isPrefixOf_iff_prefix.mp (Bool.eq_true_of_not_eq_false isPrefix)
  obtain ⟨isReturn, later⟩ := List.cons.inj whole
  cases others with
  | nil =>
      have feed := (List.cons.inj later).1
      exact absurd feed (by decide)
  | cons next more =>
      have feed := (List.cons.inj later).1
      apply without
      rw [← isReturn, ← feed]
      exact hasPair_of_head more

/-- A line without the pair is passed over, and so is the pair after it. -/
theorem splitOnce_terminator_line
    {line rest : Bytes}
    (without : ¬ HasPair 0x0D 0x0A line)
    (goesOn : ¬ [0x0D, 0x0A] <+: rest) :
    splitOnce terminator (line ++ 0x0D :: 0x0A :: rest) =
      (splitOnce terminator rest).map fun parts =>
        (line ++ 0x0D :: 0x0A :: parts.1, parts.2) := by
  induction line with
  | nil =>
      have noEnd :
          terminator.isPrefixOf (0x0D :: 0x0A :: rest) = false := by
        rw [← Bool.not_eq_true]
        intro isPrefix
        exact goesOn (List.isPrefixOf_iff_prefix.mp isPrefix)
      have noStart : terminator.isPrefixOf (0x0A :: rest) = false :=
        rfl
      rw [List.nil_append, splitOnce, noEnd, splitOnce, noStart]
      simp only [Bool.false_eq_true, if_false, Option.map_map]
      rfl
  | cons byte others inductionHypothesis =>
      rw [List.cons_append, splitOnce, not_terminator_prefix without,
        inductionHypothesis (mt (HasPair.cons · byte) without)]
      simp only [Bool.false_eq_true, if_false, Option.map_map]
      rfl

/-- The terminator after a line ends the head. -/
theorem splitOnce_terminator_last
    {line : Bytes}
    (without : ¬ HasPair 0x0D 0x0A line)
    (body : Bytes) :
    splitOnce terminator (line ++ (terminator ++ body)) =
      some (line, body) := by
  induction line with
  | nil =>
      rfl
  | cons byte others inductionHypothesis =>
      have noEnd := not_terminator_prefix without
        (0x0A :: 0x0D :: 0x0A :: body)
      have later :=
        inductionHypothesis (mt (HasPair.cons · byte) without)
      change splitOnce terminator (byte :: (others ++ _)) = _
      rw [splitOnce]
      change (if terminator.isPrefixOf
        (byte :: (others ++ 0x0D :: 0x0A :: 0x0D :: 0x0A :: body)) then _
        else _) = _
      rw [noEnd, later]
      rfl

/-- A line that is not empty does not begin with the pair. -/
theorem not_pair_prefix
    {line : Bytes}
    (notEmpty : line ≠ [])
    (without : ¬ HasPair 0x0D 0x0A line)
    (rest : Bytes) :
    ¬ [0x0D, 0x0A] <+: line ++ 0x0D :: rest := by
  rintro ⟨after, whole⟩
  cases line with
  | nil =>
      exact notEmpty rfl
  | cons byte others =>
      obtain ⟨isReturn, later⟩ := List.cons.inj whole
      cases others with
      | nil =>
          exact absurd (List.cons.inj later).1 (by decide)
      | cons next more =>
          apply without
          rw [← isReturn, ← (List.cons.inj later).1]
          exact hasPair_of_head more

/-- The head ends after its last line, if only its first line may be empty. -/
theorem splitOnce_terminator_lines
    {lines : List Bytes}
    (notEmpty : lines ≠ [])
    (without : ∀ line ∈ lines, ¬ HasPair 0x0D 0x0A line)
    (visible : ∀ line ∈ lines.tail, line ≠ [])
    (body : Bytes) :
    splitOnce terminator
        ([0x0D, 0x0A].intercalate lines ++ (terminator ++ body)) =
      some ([0x0D, 0x0A].intercalate lines, body) := by
  induction lines with
  | nil =>
      exact absurd rfl notEmpty
  | cons line rest inductionHypothesis =>
      rw [List.forall_mem_cons] at without
      rw [List.tail_cons] at visible
      cases rest with
      | nil =>
          rw [List.intercalate_singleton]
          exact splitOnce_terminator_last without.1 body
      | cons next others =>
          rw [List.forall_mem_cons] at visible
          have later :=
            inductionHypothesis (List.cons_ne_nil _ _) without.2 visible.2
          have goesOn :
              ¬ [0x0D, 0x0A] <+:
                [0x0D, 0x0A].intercalate (next :: others) ++
                  (terminator ++ body) := by
            have nextWithout := without.2 next List.mem_cons_self
            cases others with
            | nil =>
                rw [List.intercalate_singleton]
                exact not_pair_prefix visible.1 nextWithout _
            | cons second more =>
                rw [List.intercalate_cons_cons, List.append_assoc,
                  List.append_assoc]
                exact not_pair_prefix visible.1 nextWithout _
          rw [List.intercalate_cons_cons, List.append_assoc,
            List.append_assoc]
          refine (splitOnce_terminator_line without.1 goesOn).trans ?_
          rw [later, List.append_assoc]
          rfl

/-! ### The lines of the head -/

/-- An encoded text is decoded, whatever is done about errors. -/
theorem decodeUtf8Ignore_of_utf8?
    {text : Str}
    {data : Bytes}
    (encoded : utf8? text = some data) :
    decodeUtf8Ignore data = text := by
  rw [decodeUtf8Ignore, utf8Items_of_utf8? encoded, List.filterMap_map]
  exact List.filterMap_some

/-- An encoded text is decoded, whatever is put for errors. -/
theorem decodeUtf8Replace_of_utf8?
    {text : Str}
    {data : Bytes}
    (encoded : utf8? text = some data) :
    decodeUtf8Replace data = text := by
  rw [decodeUtf8Replace, utf8Items_of_utf8? encoded, List.map_map]
  exact List.map_id' text

namespace HttpMessage

variable {message : HttpMessage}

/-- The head is cut into the lines it was made of. -/
theorem splitCrlf_head (message : HttpMessage) :
    splitCrlf message.head = message.lines := by
  rw [SmtpParser.splitCrlf_eq_splitPair]
  exact splitPair_intercalate (by decide) (List.cons_ne_nil _ _)
    message.oneLine

/-- A line of the head is not empty. -/
theorem line_ne_nil (message : HttpMessage) :
    ∀ line ∈ message.lines, line ≠ [] := by
  refine List.forall_mem_cons.mpr ⟨?_, ?_⟩
  · intro empty
    have noBlank : codePoint ' ' ∈ message.startLine.text := by
      cases message.startLine with
      | request method path version =>
          rw [StartLine.text, List.intercalate_cons_cons]
          simp [lit]
      | response version statusCode reason =>
          rw [StartLine.text, List.intercalate_cons_cons]
          simp [lit]
    rw [empty] at noBlank
    cases noBlank
  · intro line member empty
    obtain ⟨field, _, rfl⟩ := List.mem_map.mp member
    have noColon :=
      (List.append_eq_nil_iff.mp (List.append_eq_nil_iff.mp empty).2).1
    cases noColon

/-- The head of a packet ends where it was ended. -/
theorem splitOnce_render
    (message : HttpMessage)
    {head : Bytes}
    (encoded : utf8? message.head = some head) :
    splitOnce terminator (head ++ (terminator ++ message.body)) =
      some (head, message.body) := by
  have decoded := decodeUtf8Replace_of_utf8? encoded
  have lines :
      (PyText.splitPair 0x0D 0x0A head).map decodeUtf8Replace =
        message.lines := by
    rw [← splitCrlf_head, SmtpParser.splitCrlf_eq_splitPair, ← decoded]
    exact (@splitPair_decodeUtf8Replace 0x0D 0x0A (by decide) (by decide)
      (by decide) head).symm
  have visible : ∀ line ∈ PyText.splitPair 0x0D 0x0A head, line ≠ [] := by
    rintro line member rfl
    have shown : decodeUtf8Replace [] ∈ message.lines := by
      rw [← lines]
      exact List.mem_map_of_mem member
    exact line_ne_nil message _ shown rfl
  have found :=
    splitOnce_terminator_lines (splitPair_ne_nil head)
      (not_hasPair_of_mem_splitPair head)
      (fun line member => visible line (List.mem_of_mem_tail member))
      message.body
  rw [intercalate_splitPair] at found
  exact found

end HttpMessage

/-! ### The start line -/

/-- What comes before a separator decides how a line begins. -/
theorem startsWith_append
    {separator : CodePoint}
    {leading : Str}
    (absent : separator ∉ leading)
    (before after : Str) :
    startsWith leading (before ++ separator :: after) =
      startsWith leading before := by
  induction leading generalizing before with
  | nil =>
      rfl
  | cons first others inductionHypothesis =>
      rw [List.mem_cons, not_or] at absent
      cases before with
      | nil =>
          have differs : (first == separator) = false :=
            beq_eq_false_iff_ne.mpr (Ne.symm absent.1)
          rw [List.nil_append, startsWith, List.isPrefixOf_cons_cons, differs]
          rfl
      | cons char rest =>
          have later := inductionHypothesis absent.2 rest
          rw [startsWith, startsWith] at later
          rw [List.cons_append, startsWith, startsWith,
            List.isPrefixOf_cons_cons, List.isPrefixOf_cons_cons, later]

/-- A line is cut after a first part without the separator. -/
theorem splitAt_append
    {separator : CodePoint}
    {before : Str}
    (absent : separator ∉ before)
    (after : Str) :
    splitAt separator (before ++ separator :: after) =
      before :: splitAt separator after := by
  have outside : ∀ char ∈ before, decide (char = separator) = false :=
    fun char member =>
      decide_eq_false fun same => absent (same ▸ member)
  exact List.splitOnP_append_cons_of_forall_mem outside separator
    (decide_eq_true rfl) after

section Numbers

variable (tables : CharacterTables)

/-- A digit of ASCII is a digit of the tables, with its value. -/
theorem digit_of_isAsciiDigit
    {char : CodePoint}
    (isDigit : isAsciiDigit char = true) :
    tables.isDigit char = true ∧
      tables.decimal char = some (char.val - 0x30) := by
  have small : char.val < 0x80 := by
    simp only [isAsciiDigit, Bool.and_eq_true, decide_eq_true_eq] at isDigit
    omega
  constructor
  · rw [tables.isDigit_ascii char small]
    exact isDigit
  · rw [tables.decimal_ascii char small, if_pos isDigit]

/-- The digits of a number are read as that number. -/
theorem int?_of_isAsciiDigits
    {digits : Str}
    (areDigits : isAsciiDigits digits = true)
    (short : digits.length ≤ intMaxStrDigits) :
    tables.isDigits digits = true ∧
      tables.int? digits = some (digitsValue digits : Int) := by
  obtain ⟨notEmpty, all⟩ := Bool.and_eq_true_iff.mp areDigits
  rw [List.all_eq_true] at all
  have notSign :
      ∀ char ∈ digits, char ≠ codePoint '+' ∧ char ≠ codePoint '-' ∧
        char ≠ codePoint '_' := by
    intro char member
    have isDigit := all char member
    refine ⟨?_, ?_, ?_⟩ <;> rintro rfl <;> cases isDigit
  have oneRun : splitAt (codePoint '_') digits = [digits] := by
    have absent : ∀ part ∈ [digits], codePoint '_' ∉ part := by
      intro part member isIn
      rw [List.mem_singleton.mp member] at isIn
      exact (notSign _ isIn).2.2 rfl
    have joined := splitAt_intercalate (List.cons_ne_nil _ _) absent
    rwa [List.intercalate_singleton] at joined
  have known :
      digits.all (fun char => (tables.decimal char).isSome) = true := by
    rw [List.all_eq_true]
    intro char member
    rw [(digit_of_isAsciiDigit tables (all char member)).2]
    rfl
  have runsKnown :
      [digits].all (fun run => !run.isEmpty &&
        run.all fun char => (tables.decimal char).isSome) = true := by
    rw [List.all_cons, known, notEmpty]
    rfl
  have value :
      ∀ start,
        digits.foldl
            (fun value char => 10 * value + (tables.decimal char).getD 0)
            start =
          digits.foldl
            (fun value char => 10 * value + (char.val - 0x30)) start := by
    intro start
    apply List.foldl_ext
    intro value char member
    rw [(digit_of_isAsciiDigit tables (all char member)).2]
    rfl
  constructor
  · rw [CharacterTables.isDigits, notEmpty, Bool.true_and,
      List.all_eq_true]
    exact fun char member =>
      (digit_of_isAsciiDigit tables (all char member)).1
  · cases digits with
    | nil =>
        cases notEmpty
    | cons first rest =>
        obtain ⟨notPlus, notMinus, _⟩ := notSign first List.mem_cons_self
        simp only [CharacterTables.int?, if_neg notPlus, if_neg notMinus,
          oneRun, runsKnown, List.flatten_singleton, value, short]
        rw [decide_eq_true trivial, Bool.and_true, if_pos rfl, one_mul]
        rfl

/-- A number that is not negative is read back from its digits. -/
theorem int?_ofInt
    {number : Int}
    (notNegative : 0 ≤ number)
    (short : (ofInt number).length ≤ intMaxStrDigits) :
    tables.isDigits (ofInt number) = true ∧
      tables.int? (ofInt number) = some number := by
  obtain ⟨value, rfl⟩ := Int.eq_ofNat_of_zero_le notNegative
  have text := ofInt_ofNat value
  rw [Int.ofNat_eq_natCast] at text
  rw [text] at short ⊢
  obtain ⟨areDigits, isValue⟩ := Json.digits_of_toDigits value
  have read := int?_of_isAsciiDigits tables areDigits short
  rw [isValue] at read
  exact read

/-- A start line that was written is read back. -/
theorem parseStartLine_text
    {startLine : StartLine}
    (writable : startLine.Writable) :
    parseStartLine tables startLine.text = .ok startLine := by
  have noBlank : codePoint ' ' ∉ lit "HTTP/" := by
    decide
  cases startLine with
  | request method path version =>
      obtain ⟨methodWord, pathWord, versionWord, notVersion, isVersion⟩ :=
        writable
      have tokens :
          splitAt (codePoint ' ')
              (StartLine.request method path version).text =
            [method, path, version] := by
        apply splitAt_intercalate (List.cons_ne_nil _ _)
        simp only [List.forall_mem_cons]
        exact ⟨methodWord, pathWord, versionWord, by simp⟩
      have isRequest :
          startsWith (lit "HTTP/")
            (StartLine.request method path version).text = false := by
        rw [StartLine.text, List.intercalate_cons_cons, List.append_assoc]
        exact (startsWith_append noBlank method _).trans notVersion
      simp [parseStartLine, tokens, isRequest, isVersion]
  | response version statusCode reason =>
      obtain ⟨versionWord, isVersion, notNegative, short⟩ := writable
      have shape :
          (StartLine.response version statusCode reason).text =
            version ++ codePoint ' ' ::
              (ofInt statusCode ++ codePoint ' ' :: reason) := by
        simp only [StartLine.text, List.intercalate_cons_cons,
          List.intercalate_singleton, List.append_assoc]
        rfl
      have codeWord : codePoint ' ' ∉ ofInt statusCode :=
        codePoint_notMem_ofInt (by decide) (by decide) statusCode
      have tokens :
          splitAt (codePoint ' ')
              (StartLine.response version statusCode reason).text =
            version :: ofInt statusCode ::
              splitAt (codePoint ' ') reason := by
        rw [shape, splitAt_append versionWord, splitAt_append codeWord]
      have isResponse :
          startsWith (lit "HTTP/")
            (StartLine.response version statusCode reason).text =
              true := by
        rw [shape, startsWith_append noBlank]
        exact isVersion
      have joined :
          (lit " ").intercalate (splitAt (codePoint ' ') reason) =
            reason :=
        List.intercalate_splitOn (codePoint ' ')
      obtain ⟨digits, number⟩ := int?_ofInt tables notNegative short
      cases words : splitAt (codePoint ' ') reason with
      | nil =>
          exact absurd words (List.splitOnP_ne_nil _ _)
      | cons first rest =>
          rw [words] at tokens joined
          simp [parseStartLine, tokens, isResponse, digits, number, joined]

end Numbers

/-! ### Folds in which the last write counts -/

section LastWrite

variable {State Item Value : Type} {step : State → Item → State}

/-- What items overwrite has the value of the last one that writes it. -/
theorem foldl_lastWrite
    {component : State → Value}
    {write : Item → Option Value}
    (writes :
      ∀ state item,
        component (step state item) =
          (write item).getD (component state))
    (items : List Item)
    (state : State) :
    component (items.foldl step state) =
      (items.filterMap write).getLast?.getD (component state) := by
  induction items generalizing state with
  | nil =>
      rfl
  | cons item rest inductionHypothesis =>
      rw [List.foldl_cons, inductionHypothesis, writes, List.filterMap_cons]
      cases write item with
      | none =>
          rfl
      | some value =>
          simp only [List.getLast?_cons, Option.getD_some]

/-- An optional value is the last one that an item has for it. -/
theorem foldl_lastSome
    {component : State → Option Value}
    {write : Item → Option Value}
    (writes :
      ∀ state item,
        component (step state item) =
          (write item).or (component state))
    (items : List Item)
    (state : State) :
    component (items.foldl step state) =
      (items.filterMap write).getLast?.or (component state) := by
  have overwrites :
      ∀ state item,
        component (step state item) =
          ((write item).map some).getD (component state) := by
    intro state item
    rw [writes]
    cases write item <;> rfl
  rw [foldl_lastWrite overwrites, ← List.map_filterMap, List.getLast?_map]
  cases (items.filterMap write).getLast? <;> rfl

end LastWrite

/-! ### The header fields -/

namespace HttpMessage

variable (tables : CharacterTables) (message : HttpMessage)

/-- The values of the fields with a name, as it is spelt. -/
def valuesOf (name : Str) : List Str :=
  (message.fields.filter fun field => field.name = name).map
    HeaderField.value

/-- The values of the fields with a name, in any case. -/
def valuesNamed (name : Str) : List Str :=
  (message.fields.filter fun field =>
    tables.lower field.name = name).map HeaderField.value

/-- The parameters of a content type, after the type itself. -/
def contentParts (value : Str) : List Str :=
  (splitAt (codePoint ';') value).map strip

/-- The type a content type names; an empty one is no type. -/
def mainType (value : Str) : Option Str :=
  let named := tables.lower ((contentParts value).headD [])
  if named = [] then none else some named

/-- The last length that a field declares. -/
def declaredLength : Option Int :=
  ((message.valuesNamed tables (lit "content-length")).filterMap
    tables.int?).getLast?

/-- The last content type that a field declares. -/
def declaredType : Option Str :=
  (message.valuesNamed tables (lit "content-type")).getLast?.bind
    (mainType tables)

/-- The last charset that a content type declares. -/
def declaredCharset : Option Str :=
  ((message.valuesNamed tables (lit "content-type")).filterMap
    fun value => charsetOf tables (contentParts value).tail).getLast?

end HttpMessage

namespace HeaderField

variable (tables : CharacterTables) (field : HeaderField)

/-- The name and the value of a field are read from its line. -/
theorem headerPair_line : headerPair field.line = some field.pair := by
  have cut :
      partition (codePoint ':') field.line =
        (field.name, some (codePoint ' ' :: field.value)) :=
    partition_append field.isHeader.2.2 _
  have blank :
      strip (codePoint ' ' :: field.value) = strip field.value := by
    rw [← strip_lstrip (codePoint ' ' :: field.value),
      ← strip_lstrip field.value]
    rfl
  simp only [headerPair, cut, Option.map_some, blank, field.isHeader.1,
    field.isHeader.2.1, pair]

/-- What the line of a field does to what has been read. -/
theorem readHeader_line (state : HeaderState) :
    (readHeader tables state field.line).headerPairs =
        state.headerPairs ++ [field.pair] ∧
      (readHeader tables state field.line).headers =
        InsertionDict.setItem state.headers field.name field.value ∧
      (readHeader tables state field.line).contentLength =
        (if tables.lower field.name = lit "content-length" then
          tables.int? field.value
        else none).or state.contentLength ∧
      (readHeader tables state field.line).contentType =
        (if tables.lower field.name = lit "content-type" then
          some (HttpMessage.mainType tables field.value)
        else none).getD state.contentType ∧
      (readHeader tables state field.line).charset =
        (if tables.lower field.name = lit "content-type" then
          charsetOf tables (HttpMessage.contentParts field.value).tail
        else none).or state.charset := by
  have differs : lit "content-length" ≠ lit "content-type" := by
    decide
  rw [readHeader, headerPair_line, pair]
  dsimp only
  by_cases isLength : tables.lower field.name = lit "content-length"
  · simp only [isLength, if_true, differs, if_false]
    cases tables.int? field.value <;> simp
  · by_cases isType : tables.lower field.name = lit "content-type"
    · simp [isType, differs.symm, HttpMessage.mainType,
        HttpMessage.contentParts]
    · simp [isType, isLength]

end HeaderField

namespace HttpMessage

variable (tables : CharacterTables) (message : HttpMessage)

/-- What is read from the fields of a message. -/
def fieldState : HeaderState :=
  message.fields.foldl
    (fun state field => readHeader tables state field.line)
    ⟨[], [], none, none, none⟩

/-- The lines of the fields are read one after the other. -/
theorem readHeaders_lines :
    readHeaders tables message.lines.tail =
      message.fieldState tables :=
  List.foldl_map

/-- Every field is reported, as it was written. -/
theorem headerPairs_fieldState :
    (message.fieldState tables).headerPairs =
      message.fields.map HeaderField.pair := by
  have appended :
      ∀ (fields : List HeaderField) (state : HeaderState),
        (fields.foldl
          (fun state field => readHeader tables state field.line)
          state).headerPairs =
          state.headerPairs ++ fields.map HeaderField.pair := by
    intro fields
    induction fields with
    | nil =>
        exact fun state => (List.append_nil _).symm
    | cons field rest inductionHypothesis =>
        intro state
        rw [List.foldl_cons, inductionHypothesis,
          (field.readHeader_line tables state).1, List.map_cons,
          List.append_assoc]
        rfl
  exact appended message.fields _

/-- The dictionary has the last value of each name. -/
theorem get?_fieldState (name : Str) :
    InsertionDict.get? (message.fieldState tables).headers name =
      (message.valuesOf name).getLast? := by
  have found :=
    @foldl_lastSome HeaderState HeaderField Str
      (fun state field => readHeader tables state field.line)
      (fun state => InsertionDict.get? state.headers name)
      (fun field => if field.name = name then some field.value else none)
      (fun state field => by
        rw [(field.readHeader_line tables state).2.1,
          InsertionDict.get?_setItem]
        split <;> rfl)
      message.fields ⟨[], [], none, none, none⟩
  rw [InsertionDict.get?, Option.or_none] at found
  rw [fieldState, found, valuesOf, ← List.filterMap_eq_map,
    List.filterMap_filter]
  simp only [Function.comp_apply, decide_eq_true_eq]

/-- The length is the last one that is declared. -/
theorem contentLength_fieldState :
    (message.fieldState tables).contentLength =
      message.declaredLength tables := by
  have found :=
    @foldl_lastSome HeaderState HeaderField Int
      (fun state field => readHeader tables state field.line)
      HeaderState.contentLength _
      (fun state field => (field.readHeader_line tables state).2.2.1)
      message.fields ⟨[], [], none, none, none⟩
  rw [Option.or_none] at found
  rw [fieldState, found, declaredLength, valuesNamed, List.filterMap_map,
    List.filterMap_filter]
  simp only [Function.comp_apply, decide_eq_true_eq]

/-- The content type is the last one that is declared. -/
theorem contentType_fieldState :
    (message.fieldState tables).contentType =
      message.declaredType tables := by
  have found :=
    @foldl_lastWrite HeaderState HeaderField (Option Str)
      (fun state field => readHeader tables state field.line)
      HeaderState.contentType _
      (fun state field => (field.readHeader_line tables state).2.2.2.1)
      message.fields ⟨[], [], none, none, none⟩
  have types :
      (message.fields.filterMap fun field =>
        if tables.lower field.name = lit "content-type" then
          some (mainType tables field.value)
        else none) =
        (message.valuesNamed tables (lit "content-type")).map
          (mainType tables) := by
    rw [valuesNamed, ← List.filterMap_eq_map, List.filterMap_map,
      List.filterMap_filter]
    simp only [Function.comp_apply, decide_eq_true_eq]
  rw [types, List.getLast?_map] at found
  rw [fieldState, found, declaredType]
  cases (message.valuesNamed tables (lit "content-type")).getLast? <;> rfl

/-- The charset is the last one that is declared. -/
theorem charset_fieldState :
    (message.fieldState tables).charset =
      message.declaredCharset tables := by
  have found :=
    @foldl_lastSome HeaderState HeaderField Str
      (fun state field => readHeader tables state field.line)
      HeaderState.charset _
      (fun state field => (field.readHeader_line tables state).2.2.2.2)
      message.fields ⟨[], [], none, none, none⟩
  rw [Option.or_none] at found
  rw [fieldState, found, declaredCharset, valuesNamed, List.filterMap_map,
    List.filterMap_filter]
  simp only [Function.comp_apply, decide_eq_true_eq]

end HttpMessage

/-! ### The round trip -/

/--
A message that was written is read back: its start line, its fields in their
order, what they declare, and where its body begins.  The decoder is given the
body, cut at the declared length.
-/
theorem parseHttp_render
    (tables : CharacterTables)
    {message : HttpMessage}
    {raw : Bytes}
    (rendered : message.render? = some raw) :
    ∃ fields offset,
      parseHttp tables raw = .ok fields ∧
        fields.startLine = message.startLine ∧
        fields.headerPairs = message.fields.map HeaderField.pair ∧
        (∀ name,
          InsertionDict.get? fields.headers name =
            (message.valuesOf name).getLast?) ∧
        fields.contentLength = message.declaredLength tables ∧
        fields.contentType = message.declaredType tables ∧
        fields.charset = message.declaredCharset tables ∧
        fields.bodyOffset = some offset ∧
        raw.drop offset = message.body ∧
        selectBody raw fields =
          some (limitBody (message.declaredLength tables)
            message.body) := by
  obtain ⟨head, encoded, rfl⟩ := Option.map_eq_some_iff.mp rendered
  have whole :
      head ++ terminator ++ message.body =
        head ++ (terminator ++ message.body) :=
    List.append_assoc _ _ _
  have split := message.splitOnce_render encoded
  rw [← whole] at split
  have isLines :
      headLines (head ++ terminator ++ message.body) = message.lines := by
    rw [headLines, headerBytes, split]
    dsimp only
    rw [decodeUtf8Ignore_of_utf8? encoded]
    exact message.splitCrlf_head
  have isOffset :
      bodyOffset (head ++ terminator ++ message.body) =
        some (head.length + 4) := by
    rw [bodyOffset, split, Option.map_some]
  have dropped :
      (head ++ terminator ++ message.body).drop (head.length + 4) =
        message.body :=
    List.drop_left' (by simp [terminator])
  have notEmpty : (head ++ terminator ++ message.body).isEmpty = false := by
    simp [terminator]
  have visible : message.startLine.text.isEmpty = false :=
    List.isEmpty_eq_false_iff.mpr
      (message.line_ne_nil _ List.mem_cons_self)
  have fieldsRead := message.readHeaders_lines tables
  rw [HttpMessage.lines, List.tail_cons] at fieldsRead
  have parsed :
      ∃ fields,
        parseHttp tables (head ++ terminator ++ message.body) =
            .ok fields ∧
          fields.startLine = message.startLine ∧
          fields.headers = (message.fieldState tables).headers ∧
          fields.headerPairs = (message.fieldState tables).headerPairs ∧
          fields.contentLength =
            (message.fieldState tables).contentLength ∧
          fields.contentType = (message.fieldState tables).contentType ∧
          fields.charset = (message.fieldState tables).charset ∧
          fields.bodyOffset =
            bodyOffset (head ++ terminator ++ message.body) := by
    rw [parseHttp, readPacket, notEmpty, isLines, HttpMessage.lines]
    dsimp only
    rw [visible, parseStartLine_text tables message.startWritable,
      fieldsRead]
    exact ⟨_, rfl, rfl, rfl, rfl, rfl, rfl, rfl, rfl⟩
  obtain ⟨fields, parsed, isStart, isDict, isPairs, isLength, isType,
    isCharset, isBody⟩ := parsed
  rw [isOffset] at isBody
  rw [message.contentLength_fieldState] at isLength
  refine ⟨fields, head.length + 4, parsed, isStart,
    isPairs.trans (message.headerPairs_fieldState tables), ?_, isLength,
    isType.trans (message.contentType_fieldState tables),
    isCharset.trans (message.charset_fieldState tables), isBody, dropped,
    ?_⟩
  · intro name
    rw [isDict]
    exact message.get?_fieldState tables name
  · simp only [selectBody, notEmpty, isBody, isLength, dropped,
      Option.map_some]
    rfl

/-- The start line of a form that is sent. -/
def loginStart : StartLine :=
  .request (lit "POST") (lit "/login?next=%2F") (lit "HTTP/1.1")

theorem loginStart_writable : loginStart.Writable :=
  ⟨by decide, by decide, by decide, rfl, rfl⟩

theorem firstLength_isHeader :
    IsHeader (lit "content-LENGTH") (lit "99") := by
  decide

theorem formType_isHeader :
    IsHeader (lit "Content-Type") (lit "Text/Plain; charset=\"UTF-8\"") := by
  decide +kernel

theorem lastLength_isHeader :
    IsHeader (lit "Content-Length") (lit "8") := by
  decide

/-- Its fields declare two lengths. -/
def loginFields : List HeaderField :=
  [⟨_, _, firstLength_isHeader⟩, ⟨_, _, formType_isHeader⟩,
    ⟨_, _, lastLength_isHeader⟩]

theorem loginForm_oneLine :
    ∀ line ∈ loginStart.text :: loginFields.map HeaderField.line,
      ¬ HasPair (codePoint '\r') (codePoint '\n') line := by
  decide +kernel

/-- The form, with a second request after it. -/
def loginForm : HttpMessage where
  startLine := loginStart
  fields := loginFields
  body := asciiBytes "user=bob\r\n\r\nGET"
  startWritable := loginStart_writable
  oneLine := loginForm_oneLine

/-- The decoder is given what the last of the two lengths leaves. -/
theorem parseHttp_loginForm :
    ∃ raw fields,
      loginForm.render? = some raw ∧
        parseHttp .ascii raw = .ok fields ∧
        fields.startLine = loginStart ∧
        fields.contentLength = some 8 ∧
        fields.contentType = some (lit "text/plain") ∧
        fields.charset = some (lit "utf-8") ∧
        selectBody raw fields = some (asciiBytes "user=bob") := by
  obtain ⟨raw, rendered⟩ : ∃ raw, loginForm.render? = some raw :=
    Option.isSome_iff_exists.mp (by decide +kernel)
  obtain ⟨fields, offset, parsed, isStart, _, _, isLength, isType,
    isCharset, _, _, isBody⟩ := parseHttp_render .ascii rendered
  refine ⟨raw, fields, rendered, parsed, isStart, ?_, ?_, ?_, ?_⟩
  · rw [isLength]
    decide +kernel
  · rw [isType]
    decide +kernel
  · rw [isCharset]
    decide +kernel
  · rw [isBody]
    decide +kernel

end IntrusionDetection
