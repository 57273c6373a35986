import IntrusionDetection.HttpBodies
import IntrusionDetection.SmtpLines

namespace IntrusionDetection

open PyText

namespace SmtpParser

/-!
# The headers of a mail

The line that makes a packet a mail is meant to be the first of its headers.
This module says for which packets it is, and for which its text is counted
to the body.
-/

/-! ### Where the body begins -/

/-- The body begins behind a position if no blank line ends before it. -/
theorem le_mailBodyOffset_iff (raw : Bytes) (position : Nat) :
    (∀ offset ∈ mailBodyOffset raw, position ≤ offset) ↔
      ¬ HasBlankLine (raw.take (position - 1)) := by
  unfold mailBodyOffset
  constructor
  · intro behind blank
    obtain ⟨before, found, after, isEnd, whole⟩ :=
      exists_of_hasBlankLine blank
    have inRaw :
        raw =
          before ++ found ++ (after ++ raw.drop (position - 1)) := by
      rw [← List.append_assoc, ← whole, List.take_append_drop]
    obtain ⟨span, atFirst, stop⟩ := searchHeaderEnd_first isEnd inRaw
    have known := behind span.stop (Option.mem_map_of_mem _ atFirst)
    have short := congrArg List.length whole
    have long : 0 < found.length :=
      List.length_pos_iff.mpr fun empty => by
        rw [empty] at isEnd
        cases isEnd.getLast?
    simp only [List.length_append, List.length_take] at short stop
    omega
  · intro noBlank offset isOffset
    obtain ⟨span, atFirst, rfl⟩ := Option.mem_map.mp isOffset
    obtain ⟨before, found, after, isEnd, whole, _, stop⟩ :=
      exists_of_searchHeaderEnd atFirst
    apply Nat.le_of_not_lt
    intro early
    apply noBlank
    have isTaken : before ++ found = raw.take span.stop := by
      rw [stop, whole, List.take_left]
    have within : before ++ found <+: raw.take (position - 1) := by
      rw [isTaken]
      exact List.take_prefix_take_left (Nat.le_sub_one_of_lt early)
    exact isEnd.hasBlankLine.of_infix
      ((List.suffix_append before found).isInfix.trans within.isInfix)

/-- A colon before the end of the header section belongs to it. -/
theorem exists_of_headerSection
    {raw before rest : Bytes}
    (whole : raw = before ++ 0x3A :: rest)
    (late : ∀ offset ∈ mailBodyOffset raw, before.length < offset) :
    ∃ others, headerSection raw = before ++ 0x3A :: others := by
  unfold headerSection
  cases search : searchHeaderEnd raw with
  | none =>
      exact ⟨rest, whole⟩
  | some span =>
      have isLate : before.length < span.stop :=
        late span.stop (Option.mem_map_of_mem _ search)
      obtain ⟨front, found, after, isEnd, same, start, stop⟩ :=
        exists_of_searchHeaderEnd search
      have colon : raw[before.length]? = some 0x3A := by
        rw [whole]
        simp
      have inside : before.length < span.start := by
        apply Nat.lt_of_not_le
        intro outside
        rw [stop, List.length_append] at isLate
        rw [start] at outside
        rw [same, List.append_assoc,
          List.getElem?_append_right outside,
          List.getElem?_append_left (by omega)] at colon
        rcases isEnd.mem (List.mem_of_getElem? colon) with same | same
        · cases same
        · cases same
      obtain ⟨further, more⟩ := Nat.exists_eq_add_of_lt inside
      refine ⟨rest.take further, ?_⟩
      dsimp only
      rw [more, whole, List.take_append,
        List.take_of_length_le (by omega)]
      have left :
          before.length + further + 1 - before.length = further + 1 := by
        omega
      rw [left, List.take_succ_cons]

/-! ### The keys of the headers -/

/-- Stripping adds no character. -/
theorem strip_subset (text : Str) : strip text ⊆ text :=
  fun _ member =>
    (List.dropWhile_suffix isBlank).subset
      ((List.rdropWhile_prefix isBlank (lstrip text)).subset member)

/-- The name is what a line begins with. -/
theorem headerName_begins (line : Str) : headerName line <+: line :=
  List.takeWhile_prefix _

section Keys

variable (tables : SmtpTables)

/-- The key that a line of the header section brings with it. -/
def mimeKey? (line : Str) : Option Str :=
  match line with
  | [] => none
  | first :: _ =>
      if first = codePoint ' ' ∨ first = codePoint '\t' then
        none
      else
        (partition (codePoint ':') line).2.map fun _ =>
          tables.lower (strip (headerName line))

/-- A line adds its key and removes none. -/
theorem mem_keys_readMimeLine
    (state : MimeState)
    (line key : Str) :
    key ∈ (readMimeLine tables state line).headers.map Prod.fst ↔
      key ∈ state.headers.map Prod.fst ∨
        mimeKey? tables line = some key := by
  cases line with
  | nil =>
      simp [readMimeLine, mimeKey?]
  | cons first rest =>
      by_cases folded : first = codePoint ' ' ∨ first = codePoint '\t'
      · simp only [readMimeLine, mimeKey?, folded, if_true, reduceCtorEq,
          or_false]
        split
        · rfl
        · split
          · rfl
          · split
            · rfl
            · rename_i value found
              rw [InsertionDict.keys_setItem, found,
                if_neg (Option.some_ne_none value)]
      · simp only [readMimeLine, mimeKey?, folded, if_false, headerName]
        cases cut : partition (codePoint ':') (first :: rest) with
        | mk name value =>
            cases value with
            | none =>
                simp
            | some value =>
                simp only [InsertionDict.keys_setItem, Option.map_some,
                  Option.some.injEq]
                split
                · rw [List.mem_append, List.mem_singleton, eq_comm]
                · rename_i known
                  rw [InsertionDict.get?_eq_none_iff, not_not] at known
                  constructor
                  · exact Or.inl
                  · rintro (member | rfl)
                    · exact member
                    · exact known

/-- The keys are those of the lines. -/
theorem mem_keys_foldl
    (lines : List Str)
    (state : MimeState)
    (key : Str) :
    key ∈ (lines.foldl (readMimeLine tables) state).headers.map
        Prod.fst ↔
      key ∈ state.headers.map Prod.fst ∨
        ∃ line ∈ lines, mimeKey? tables line = some key := by
  induction lines generalizing state with
  | nil =>
      simp
  | cons line rest inductionHypothesis =>
      rw [List.foldl_cons, inductionHypothesis, mem_keys_readMimeLine,
        or_assoc, List.exists_mem_cons_iff]

/-- The keys are those of the lines of the header section. -/
theorem mem_keys_mimeHeaders (raw : Bytes) (key : Str) :
    key ∈ (mimeHeaders tables raw).map Prod.fst ↔
      ∃ line ∈ splitLines (decodeUtf8Replace (headerSection raw)),
        mimeKey? tables line = some key := by
  unfold mimeHeaders readMimeLines
  rw [mem_keys_foldl]
  simp

/-- No key contains a line feed. -/
theorem newline_not_mem_of_mem_keys
    {raw : Bytes}
    {key : Str}
    (stored : key ∈ (mimeHeaders tables raw).map Prod.fst) :
    codePoint '\n' ∉ key := by
  obtain ⟨line, isLine, isKey⟩ :=
    (mem_keys_mimeHeaders tables raw key).mp stored
  have noFeed := newline_not_mem_of_mem_splitLines _ line isLine
  intro feed
  cases line with
  | nil =>
      cases isKey
  | cons first rest =>
      simp only [mimeKey?] at isKey
      split at isKey
      · cases isKey
      · obtain ⟨value, _, rfl⟩ := Option.map_eq_some_iff.mp isKey
        have inStripped := tables.lower_newline _ feed
        have inName : codePoint '\n' ∈ headerName (first :: rest) :=
          strip_subset _ inStripped
        exact noFeed ((headerName_begins _).subset inName)

end Keys

/-! ### The line that makes a packet a mail -/

/-- A character of a name is no blank, no line end and no colon. -/
theorem isNameChar_facts
    {char : CodePoint}
    (isName : isNameChar char = true) :
    char.val < 0x80 ∧ isBlank char = false ∧ char ≠ codePoint ':' := by
  have range :
      0x21 ≤ char.val ∧ char.val ≤ 0x39 ∨
        0x3B ≤ char.val ∧ char.val ≤ 0x7E := by
    simpa [isNameChar] using isName
  refine ⟨by omega, ?_, ?_⟩
  · simp only [isBlank, Bool.or_eq_false_iff, Bool.and_eq_false_iff,
      decide_eq_false_iff_not, beq_eq_false_iff_ne]
    omega
  · rintro rfl
    revert isName
    decide

/-- What the pattern of a name matches. -/
theorem exists_of_isHeaderName
    {key : Str}
    (isName : isHeaderName key = true) :
    ∃ name,
      name ≠ [] ∧ (∀ char ∈ name, isNameChar char = true) ∧
        (key = name ∨ key = name ++ [codePoint '\n']) := by
  simp only [isHeaderName, Bool.and_eq_true, Bool.not_eq_true',
    List.isEmpty_eq_false_iff, List.all_eq_true] at isName
  split at isName
  · rename_i endsInFeed
    exact ⟨_, isName.1, isName.2,
      Or.inr (List.dropLast_append_getLast? _ endsInFeed).symm⟩
  · exact ⟨_, isName.1, isName.2, Or.inl rfl⟩

/-- A line feed in a name is one in its lower-case form. -/
theorem newline_mem_lower
    (tables : SmtpTables)
    {key : Str}
    (isName : isHeaderName key = true)
    (feed : codePoint '\n' ∈ key) :
    codePoint '\n' ∈ tables.lower key := by
  obtain ⟨name, _, isNameChars, whole⟩ := exists_of_isHeaderName isName
  have ascii : ∀ char ∈ key, char.val < 0x80 := by
    have inName : ∀ char ∈ name, char.val < 0x80 := fun char member =>
      (isNameChar_facts (isNameChars char member)).1
    rcases whole with rfl | rfl
    · exact inName
    · rw [List.forall_mem_append, List.forall_mem_singleton]
      exact ⟨inName, by decide⟩
  rw [tables.lower_ascii key ascii]
  have same : lowerChar (codePoint '\n') = codePoint '\n' := by
    decide
  have lowered := List.mem_map_of_mem (f := lowerChar) feed
  rw [same] at lowered
  exact lowered

/-- The name of a line that has a colon. -/
theorem eq_of_colon
    {line : Str}
    (colon : codePoint ':' ∈ line) :
    ∃ value, line = headerName line ++ codePoint ':' :: value := by
  obtain ⟨before, after, whole, absent⟩ :=
    List.eq_append_cons_of_mem colon
  refine ⟨after, ?_⟩
  rw [headerName, whole, partition_append absent]

/-- A name that is all there is before a colon is a key. -/
theorem mimeKey?_name
    (tables : SmtpTables)
    {name : Str}
    (notEmpty : name ≠ [])
    (isName : ∀ char ∈ name, isNameChar char = true)
    (value : Str) :
    mimeKey? tables (name ++ codePoint ':' :: value) =
      some (tables.lower name) := by
  have noColon : codePoint ':' ∉ name := fun member =>
    (isNameChar_facts (isName _ member)).2.2 rfl
  have trimmed : strip name = name := by
    apply strip_eq_self
    · intro char isFirst
      have member := List.mem_of_head? isFirst
      exact (isNameChar_facts (isName char member)).2.1
    · intro char isLast
      have member := List.mem_of_getLast? isLast
      exact (isNameChar_facts (isName char member)).2.1
  cases name with
  | nil =>
      exact (notEmpty rfl).elim
  | cons first rest =>
      have notFolded :
          ¬ (first = codePoint ' ' ∨ first = codePoint '\t') := by
        have notBlank :=
          (isNameChar_facts (isName first List.mem_cons_self)).2.1
        rintro (rfl | rfl)
        · revert notBlank
          decide
        · revert notBlank
          decide
      have cut := partition_append noColon value
      rw [List.cons_append, mimeKey?, if_neg notFolded, headerName,
        ← List.cons_append, cut, trimmed]
      rfl

/-- A line that begins anew is cut off where it begins. -/
theorem exists_line_of_begins
    {front name : Str}
    (fresh : front = [] ∨ ∃ before, front = before ++ [codePoint '\n'])
    (noFeed : codePoint '\n' ∉ name)
    (noReturn : codePoint '\r' ∉ name)
    (rest : Str) :
    ∃ line, name ++ line ∈ splitLines (front ++ (name ++ rest)) := by
  obtain ⟨line, lines, split⟩ :=
    exists_of_splitLines_name noFeed noReturn rest
  refine ⟨line, ?_⟩
  rcases fresh with rfl | ⟨before, rfl⟩
  · rw [List.nil_append, split]
    exact List.mem_cons_self
  · obtain ⟨first, others, whole⟩ :=
      exists_of_splitLines_append before (name ++ rest)
    rw [List.append_assoc, List.singleton_append, whole, split]
    simp

/-- A front that ends in a line feed is decoded to one that does. -/
theorem decodeUtf8Replace_fresh
    {front : Bytes}
    (fresh : front = [] ∨ front.getLast? = some 0x0A) :
    decodeUtf8Replace front = [] ∨
      ∃ before, decodeUtf8Replace front = before ++ [codePoint '\n'] := by
  rcases fresh with rfl | isFeed
  · exact Or.inl rfl
  · right
    obtain ⟨before, rfl⟩ := List.getLast?_eq_some_iff.mp isFeed
    refine ⟨decodeUtf8Replace before, ?_⟩
    exact @decodeUtf8Replace_append_ascii 0x0A (by decide) before []

/-- A name in front of a colon of the header section is a key. -/
theorem mem_keys_of_begins
    (tables : SmtpTables)
    {raw front nameBytes others : Bytes}
    {name : Str}
    (whole : headerSection raw = front ++ nameBytes ++ 0x3A :: others)
    (fresh : front = [] ∨ front.getLast? = some 0x0A)
    (decoded : decodeUtf8Replace nameBytes = name)
    (notEmpty : name ≠ [])
    (isName : ∀ char ∈ name, isNameChar char = true) :
    tables.lower name ∈ (mimeHeaders tables raw).map Prod.fst := by
  have boundary : IsBoundary front nameBytes := by
    left
    intro byte isLast
    rcases fresh with rfl | isFeed
    · cases isLast
    · cases isFeed.symm.trans isLast
      decide
  have text :
      decodeUtf8Replace (headerSection raw) =
        decodeUtf8Replace front ++
          (name ++ [codePoint ':'] ++ decodeUtf8Replace others) := by
    have colon :=
      @decodeUtf8Replace_append_ascii 0x3A (by decide)
        (front ++ nameBytes) others
    rw [whole, colon, decodeUtf8Replace_append boundary, decoded]
    simp only [List.append_assoc, List.singleton_append]
    rfl
  have noFeed : codePoint '\n' ∉ name ++ [codePoint ':'] := by
    rw [List.mem_append, not_or]
    exact ⟨fun member => absurd (isName _ member) (by decide), by decide⟩
  have noReturn : codePoint '\r' ∉ name ++ [codePoint ':'] := by
    rw [List.mem_append, not_or]
    exact ⟨fun member => absurd (isName _ member) (by decide), by decide⟩
  obtain ⟨value, isLine⟩ :=
    exists_line_of_begins (decodeUtf8Replace_fresh fresh) noFeed noReturn
      (decodeUtf8Replace others)
  apply (mem_keys_mimeHeaders tables raw _).mpr
  rw [text]
  refine ⟨_, isLine, ?_⟩
  rw [List.append_assoc, List.singleton_append]
  exact mimeKey?_name tables notEmpty isName value

/-- What a packet that is a mail was parsed to. -/
theorem data_of_parseSmtp
    {tables : SmtpTables}
    {raw : Bytes}
    {headers : List (Str × Str)}
    {offset : Option Nat}
    (parsed : parseSmtp tables raw = .ok (.data headers offset)) :
    headers = mimeHeaders tables raw ∧ offset = mailBodyOffset raw ∧
      ∃ first,
        firstNonEmpty (rawLines (decodeUtf8Replace raw)) = some first ∧
          isData tables first = true := by
  unfold parseSmtp readPacket at parsed
  split at parsed
  · rename_i fields read
    cases Except.ok.inj parsed
    dsimp only at read
    split at read
    · cases read
    · split at read
      · cases read
      · rename_i first isFirst
        split at read
        · cases read
        · split at read
          · rename_i data
            cases Except.ok.inj read
            exact ⟨rfl, rfl, first, isFirst, data⟩
          · split at read
            · cases read
            · cases read
  · cases parsed

/-- The header that made a packet a mail is a header, and not in its body. -/
def HeadersAgree
    (tables : SmtpTables)
    (raw : Bytes)
    (line : Str)
    (headers : List (Str × Str))
    (offset : Option Nat) :
    Prop :=
  tables.lower (headerName line) ∈ headers.map Prod.fst ∧
    ∀ known ∈ offset, firstLineEnd raw ≤ known

/-- The name of a mail is a key if the body begins behind its line. -/
theorem mem_keys_of_isData
    (tables : SmtpTables)
    {raw : Bytes}
    {line name : Str}
    (isFirst :
      firstNonEmpty (rawLines (decodeUtf8Replace raw)) = some line)
    (colon : codePoint ':' ∈ line)
    (isWhole : headerName line = name)
    (notEmpty : name ≠ [])
    (isName : ∀ char ∈ name, isNameChar char = true)
    (late : ∀ offset ∈ mailBodyOffset raw, firstLineEnd raw ≤ offset) :
    tables.lower name ∈ (mimeHeaders tables raw).map Prod.fst := by
  rw [rawLines_decodeUtf8Replace] at isFirst
  obtain ⟨front, lineBytes, after, decoded, joined, ends, begins⟩ :=
    @exists_of_firstNonEmpty (lineSeparator raw) _ _ isFirst
  rw [byteLines_joined] at joined
  have fresh : front = [] ∨ front.getLast? = some 0x0A := by
    apply begins.imp_right
    rintro ⟨others, rfl⟩
    unfold lineSeparator
    split <;> simp
  obtain ⟨value, isLine⟩ := eq_of_colon colon
  rw [isLine, isWhole] at decoded
  obtain ⟨nameBytes, valueBytes, rfl, isNameBytes, _⟩ :=
    @exists_of_decodeUtf8Replace_byte 0x3A (by decide) _ _ _ decoded
  have whole :
      raw = front ++ nameBytes ++ 0x3A :: (valueBytes ++ after) := by
    simpa using joined
  have behind :
      ∀ offset ∈ mailBodyOffset raw,
        (front ++ nameBytes).length < offset := by
    intro offset isOffset
    have far := late offset isOffset
    rw [firstLineEnd, ends] at far
    simp only [List.length_append, List.length_cons] at far ⊢
    omega
  obtain ⟨others, head⟩ := exists_of_headerSection whole behind
  exact mem_keys_of_begins tables head fresh isNameBytes notEmpty isName

/--
A packet that is a mail has the header that made it one, in front of its
body, exactly if the name of that header does not end in a line feed and no
blank line ends before its line does.
-/
theorem headersAgree_iff
    (tables : SmtpTables)
    {raw : Bytes}
    {headers : List (Str × Str)}
    {offset : Option Nat}
    {line : Str}
    (parsed : parseSmtp tables raw = .ok (.data headers offset))
    (isFirst :
      firstNonEmpty (rawLines (decodeUtf8Replace raw)) = some line) :
    HeadersAgree tables raw line headers offset ↔
      (headerName line).getLast? ≠ some (codePoint '\n') ∧
        ¬ HasBlankLine (raw.take (firstLineEnd raw - 1)) := by
  obtain ⟨rfl, rfl, first, same, data⟩ := data_of_parseSmtp parsed
  cases Option.some.inj (same.symm.trans isFirst)
  simp only [isData, Bool.and_eq_true, List.contains_iff_mem] at data
  obtain ⟨⟨_, colon⟩, isName⟩ := data
  obtain ⟨name, notEmpty, isNameChars, isWhole⟩ :=
    exists_of_isHeaderName isName
  rw [HeadersAgree, le_mailBodyOffset_iff]
  constructor
  · rintro ⟨stored, noBlank⟩
    refine ⟨fun endsInFeed => ?_, noBlank⟩
    apply newline_not_mem_of_mem_keys tables stored
    apply newline_mem_lower tables isName
    exact List.mem_of_getLast? endsInFeed
  · rintro ⟨noFeed, noBlank⟩
    refine ⟨?_, noBlank⟩
    rcases isWhole with isWhole | isWhole
    · rw [isWhole]
      exact mem_keys_of_isData tables isFirst colon isWhole notEmpty
        isNameChars ((le_mailBodyOffset_iff raw _).mpr noBlank)
    · rw [isWhole, List.getLast?_concat] at noFeed
      exact (noFeed rfl).elim

/-- A blank line, a header that goes on, and a body. -/
def foldedMail : Bytes :=
  asciiBytes "\r\nSubject: hi\r\n there\r\n\r\nbody"

/-- The header stands in front of the body. -/
theorem foldedMail_agrees :
    parseSmtp .ascii foldedMail =
        .ok (.data [(lit "subject", lit "hi there")] (some 25)) ∧
      HeadersAgree .ascii foldedMail (lit "Subject: hi")
        [(lit "subject", lit "hi there")] (some 25) :=
  ⟨by decide +kernel,
    (headersAgree_iff .ascii (by decide +kernel) (by decide +kernel)).mpr
      (by decide +kernel)⟩

/-- Two blank lines in front of a header. -/
def shiftedMail : Bytes :=
  asciiBytes "\r\n\r\nSubject: x\r\n\r\nbody"

/-- The header is no header, and it belongs to the body. -/
theorem shiftedMail_disagrees :
    parseSmtp .ascii shiftedMail = .ok (.data [] (some 4)) ∧
      firstNonEmpty (rawLines (decodeUtf8Replace shiftedMail)) =
        some (lit "Subject: x") ∧
      firstLineEnd shiftedMail = 14 ∧
      ¬ HeadersAgree .ascii shiftedMail (lit "Subject: x") [] (some 4) := by
  refine ⟨by decide +kernel, by decide +kernel, by decide +kernel, ?_⟩
  rintro ⟨stored, _⟩
  cases stored

end SmtpParser

end IntrusionDetection
