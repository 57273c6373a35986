import IntrusionDetection.JsonRoundTrip
import IntrusionDetection.LineFile

namespace IntrusionDetection

open PyText
open Json (Numerals Printable parse parse_render printable_render render
  isScalarText_render)

/-!
# The JSON-lines logger

`JSONLLogger` appends one line to its file for each record.  A record that
cannot be serialised or encoded is counted and leaves no trace in the file.
Errors of the file itself are not modelled.
-/

/-- `JSONLLogger`: what its file holds, and the records it could not write. -/
structure JsonlLogger where
  file : Bytes
  writeErrors : Nat
  deriving DecidableEq

namespace JsonlLogger

variable {Number : Type}

/-- The byte that ends a line. -/
def newline : UInt8 := 0x0A

/-- The constructor: the file is opened to be appended to. -/
def openFile (file : Bytes) : JsonlLogger where
  file := file
  writeErrors := 0

section Logging

variable (numerals : Numerals Number)

/--
The line of a record, from what `record.to_dict()` returns; `none` stands for
a `to_dict` or `json.dumps` that raises.
-/
def line? (record : Option (Json Number)) : Option Bytes :=
  record.bind fun dict => utf8? (render numerals dict ++ lit "\n")

/-- `log`. -/
def log
    (logger : JsonlLogger)
    (record : Option (Json Number)) :
    JsonlLogger :=
  match line? numerals record with
  | none => { logger with writeErrors := logger.writeErrors + 1 }
  | some line => { logger with file := logger.file ++ line }

/-- Log some records, one after the other. -/
def logAll
    (logger : JsonlLogger)
    (records : List (Option (Json Number))) :
    JsonlLogger :=
  records.foldl (log numerals) logger

/-- Read a log: one value from each line. -/
def readLog (file : Bytes) : Option (List (Json Number)) :=
  (LineFile.lines newline file).mapM fun line =>
    (decodeUtf8? line).bind (parse numerals)

end Logging

/-- The dictionary of a record that can be serialised and encoded. -/
def written?
    (numerals : Numerals Number)
    (record : Option (Json Number)) :
    Option (Json Number) :=
  if (line? numerals record).isSome then record else none

/-! ### Lines -/

/-- No byte of a character in print is a line end. -/
theorem newline_notMem_utf8Char?
    {char : CodePoint}
    (printable : 0x20 ≤ char.val)
    {data : Bytes}
    (encoded : utf8Char? char = some data) :
    newline ∉ data := by
  have high :
      ∀ {value : Nat}, 0x20 ≤ value → value < 0x100 →
        newline ≠ UInt8.ofNat value := by
    intro value least most same
    have equal := congrArg UInt8.toNat same
    rw [UInt8.toNat_ofNat', Nat.mod_eq_of_lt most] at equal
    have small : newline.toNat = 0x0A := rfl
    omega
  have bound := char.isLt
  simp only [utf8Char?] at encoded
  split at encoded
  · cases encoded
    rw [List.mem_singleton]
    exact high printable (by omega)
  · split at encoded
    · cases encoded
      simp only [List.mem_cons, List.not_mem_nil, or_false, not_or]
      exact ⟨high (by omega) (by omega), high (by omega) (by omega)⟩
    · split at encoded
      · cases encoded
      · split at encoded
        · cases encoded
          simp only [List.mem_cons, List.not_mem_nil, or_false, not_or]
          exact ⟨high (by omega) (by omega), high (by omega) (by omega),
            high (by omega) (by omega)⟩
        · cases encoded
          simp only [List.mem_cons, List.not_mem_nil, or_false, not_or]
          exact ⟨high (by omega) (by omega), high (by omega) (by omega),
            high (by omega) (by omega), high (by omega) (by omega)⟩

/-- Two texts are encoded one after the other. -/
theorem utf8?_append (first second : Str) :
    utf8? (first ++ second) =
      (utf8? first).bind fun encoded =>
        (utf8? second).map (encoded ++ ·) := by
  unfold utf8?
  rw [List.mapM_append]
  cases first.mapM utf8Char? with
  | none =>
      rfl
  | some start =>
      cases second.mapM utf8Char? with
      | none =>
          rfl
      | some rest =>
          exact congrArg some List.flatten_append

/-- No byte of a text in print is a line end. -/
theorem newline_notMem_utf8?
    {text : Str}
    (printable : Printable text)
    {data : Bytes}
    (encoded : utf8? text = some data) :
    newline ∉ data := by
  induction text generalizing data with
  | nil =>
      cases encoded
      exact List.not_mem_nil
  | cons char rest inductionHypothesis =>
      rw [Printable, List.forall_mem_cons] at printable
      rw [← List.singleton_append, utf8?_append,
        Option.bind_eq_some_iff] at encoded
      obtain ⟨first, isFirst, encoded⟩ := encoded
      obtain ⟨later, isLater, rfl⟩ := Option.map_eq_some_iff.mp encoded
      rw [utf8?, Option.map_eq_some_iff] at isFirst
      obtain ⟨parts, isParts, rfl⟩ := isFirst
      rw [List.mem_append, not_or]
      refine ⟨?_, inductionHypothesis printable.2 isLater⟩
      cases isChar : utf8Char? char with
      | none =>
          rw [List.mapM_cons, isChar] at isParts
          cases isParts
      | some bytes =>
          rw [List.mapM_cons, isChar] at isParts
          cases isParts
          have whole : bytes ++ [].reverse.flatten = bytes :=
            List.append_nil _
          rw [List.flatten_cons, whole]
          exact newline_notMem_utf8Char? printable.1 isChar

section Lines

variable (numerals : Numerals Number)

/-- The line of a record without its end. -/
def content? (record : Option (Json Number)) : Option Bytes :=
  record.bind fun dict => utf8? (render numerals dict)

/-- A line is closed by a line end. -/
theorem line?_eq (record : Option (Json Number)) :
    line? numerals record =
      (content? numerals record).map (LineFile.closed newline) := by
  have ending : utf8? (lit "\n") = some [newline] :=
    rfl
  cases record with
  | none =>
      rfl
  | some dict =>
      rw [line?, content?, Option.bind_some, Option.bind_some,
        utf8?_append, ending]
      cases utf8? (render numerals dict) <;> rfl

/-- A record is written exactly if its dictionary has no lone surrogate. -/
theorem isSome_line?_iff (record : Option (Json Number)) :
    (line? numerals record).isSome = true ↔
      ∃ dict, record = some dict ∧ dict.IsScalar := by
  rw [line?_eq, Option.isSome_map]
  cases record with
  | none =>
      exact iff_of_false (by intro isSome; cases isSome)
        (by rintro ⟨_, isDict, _⟩; cases isDict)
  | some dict =>
      rw [content?, Option.bind_some, utf8?_isSome_iff,
        isScalarText_render]
      constructor
      · exact fun scalar => ⟨dict, rfl, scalar⟩
      · rintro ⟨_, isDict, scalar⟩
        cases isDict
        exact scalar

/-- The line of a record reads as the record. -/
theorem faithful_content? :
    LineFile.Faithful newline (content? numerals)
      (fun line => (decodeUtf8? line).bind (parse numerals))
      (written? numerals) := by
  intro record
  rw [written?, line?_eq, Option.isSome_map]
  cases found : content? numerals record with
  | none =>
      rfl
  | some line =>
      rw [content?, Option.bind_eq_some_iff] at found
      obtain ⟨dict, rfl, encoded⟩ := found
      refine ⟨?_, ?_, rfl⟩
      · exact newline_notMem_utf8? (printable_render numerals dict) encoded
      · dsimp only
        rw [decodeUtf8?_of_utf8? encoded, Option.bind_some, parse_render]
        rfl

/-- Logging appends the line of a record. -/
theorem log_eq
    (logger : JsonlLogger)
    (record : Option (Json Number)) :
    logger.log numerals record =
      { file :=
          LineFile.appendRecord newline (content? numerals) logger.file
            record
        writeErrors :=
          logger.writeErrors +
            if (written? numerals record).isSome then 0 else 1 } := by
  have same := line?_eq numerals record
  rw [log, LineFile.appendRecord, written?, same]
  cases found : content? numerals record with
  | none =>
      rfl
  | some line =>
      rw [content?, Option.bind_eq_some_iff] at found
      obtain ⟨dict, rfl, _⟩ := found
      rfl

/-- The file after some records were logged. -/
theorem file_logAll
    (logger : JsonlLogger)
    (records : List (Option (Json Number))) :
    (logger.logAll numerals records).file =
      records.foldl (LineFile.appendRecord newline (content? numerals))
        logger.file := by
  induction records generalizing logger with
  | nil =>
      rfl
  | cons record rest inductionHypothesis =>
      rw [logAll, List.foldl_cons, List.foldl_cons, ← logAll,
        inductionHypothesis, log_eq]

/-- Every record is written or counted. -/
theorem writeErrors_logAll
    (logger : JsonlLogger)
    (records : List (Option (Json Number))) :
    (logger.logAll numerals records).writeErrors +
        (records.filterMap (written? numerals)).length =
      logger.writeErrors + records.length := by
  induction records generalizing logger with
  | nil =>
      rfl
  | cons record rest inductionHypothesis =>
      have later := inductionHypothesis (logger.log numerals record)
      have counted :
          (logger.log numerals record).writeErrors =
            logger.writeErrors +
              if (written? numerals record).isSome then 0 else 1 := by
        rw [log_eq]
      rw [counted] at later
      rw [logAll, List.foldl_cons, ← logAll, List.length_cons]
      cases found : written? numerals record with
      | none =>
          rw [found] at later
          rw [List.filterMap_cons_none found]
          simp only [Option.isSome_none, Bool.false_eq_true,
            if_false] at later
          omega
      | some dict =>
          rw [found] at later
          rw [List.filterMap_cons_some found, List.length_cons]
          simp only [Option.isSome_some, if_true] at later
          omega

/-- Of some dictionaries, those without a lone surrogate are written. -/
theorem written_dicts (dicts : List (Json Number)) :
    (dicts.map some).filterMap (written? numerals) =
      dicts.filter fun dict => dict.IsScalar := by
  induction dicts with
  | nil =>
      rfl
  | cons dict rest inductionHypothesis =>
      have isWritten :
          (line? numerals (some dict)).isSome = true ↔ dict.IsScalar := by
        rw [isSome_line?_iff]
        simp
      rw [List.map_cons]
      by_cases scalar : dict.IsScalar
      · have same : written? numerals (some dict) = some dict :=
          if_pos (isWritten.mpr scalar)
        rw [List.filterMap_cons_some same, inductionHypothesis,
          List.filter_cons_of_pos (by simpa using scalar)]
      · have skipped : written? numerals (some dict) = none :=
          if_neg (mt isWritten.mp scalar)
        rw [List.filterMap_cons_none skipped, inductionHypothesis,
          List.filter_cons_of_neg (by simpa using scalar)]

/-- What a log held stays at its front. -/
theorem file_isPrefix_logAll
    (logger : JsonlLogger)
    (records : List (Option (Json Number))) :
    logger.file <+: (logger.logAll numerals records).file := by
  induction records generalizing logger with
  | nil =>
      exact List.prefix_rfl
  | cons record rest inductionHypothesis =>
      refine List.IsPrefix.trans ?_ (inductionHypothesis _)
      rw [log]
      split
      · exact List.prefix_rfl
      · exact List.prefix_append _ _

/-- A log that is continued reads as before, and then as its new records. -/
theorem readLog_file_logAll
    {file : Bytes}
    (closed : LineFile.EndsLine newline file)
    {earlier : List (Json Number)}
    (isRead : readLog numerals file = some earlier)
    (records : List (Option (Json Number))) :
    LineFile.EndsLine newline
        ((openFile file).logAll numerals records).file ∧
      readLog numerals ((openFile file).logAll numerals records).file =
        some (earlier ++ records.filterMap (written? numerals)) := by
  rw [file_logAll]
  exact LineFile.readRecords_foldl (faithful_content? numerals) closed
    isRead records

/--
A log of closed lines that is continued reads as before, and then as the
records that hold no lone surrogate, in the order they were logged; the other
records are counted, and nothing that the log held is lost.
-/
theorem readLog_logAll
    {file : Bytes}
    (closed : LineFile.EndsLine newline file)
    {earlier : List (Json Number)}
    (isRead : readLog numerals file = some earlier)
    (records : List (Option (Json Number))) :
    let logger := (openFile file).logAll numerals records
    let written := records.filterMap (written? numerals)
    readLog numerals logger.file = some (earlier ++ written) ∧
      LineFile.EndsLine newline logger.file ∧
        file <+: logger.file ∧
          logger.writeErrors + written.length = records.length ∧
            ∀ record dict,
              written? numerals record = some dict ↔
                record = some dict ∧ dict.IsScalar := by
  obtain ⟨closedStill, readsAll⟩ :=
    readLog_file_logAll numerals closed isRead records
  have counted := writeErrors_logAll numerals (openFile file) records
  refine ⟨readsAll, closedStill, file_isPrefix_logAll numerals
    (openFile file) records, counted.trans (Nat.zero_add _), fun record dict => ?_⟩
  have isWritten := isSome_line?_iff numerals record
  rw [written?]
  constructor
  · intro isDict
    split at isDict
    · rename_i isSome
      obtain ⟨other, isOther, scalar⟩ := isWritten.mp isSome
      rw [isDict] at isOther
      cases isOther
      exact ⟨isDict, scalar⟩
    · cases isDict
  · rintro ⟨rfl, scalar⟩
    exact if_pos (isWritten.mpr ⟨dict, rfl, scalar⟩)

end Lines

/-- Values without fractions. -/
def noFractions : Numerals Empty where
  write := fun value => value.elim
  read := fun _ => none
  read_write := fun value => value.elim
  isWord_write := fun value => value.elim
  notKnown_write := fun value => value.elim

/-- A log of one empty list. -/
def oneList : Bytes := [0x5B, 0x5D, 0x0A]

/-- A text with a line end is written; a lone surrogate is not. -/
theorem oneList_continued :
    let logger :=
      (openFile oneList).logAll noFractions
        [some (.str [chr 0xE9, codePoint '\n']), some (.str [chr 0xD800]),
          none]
    readLog noFractions logger.file =
        some [.list [], .str [chr 0xE9, codePoint '\n']] ∧
      logger.writeErrors = 2 := by
  have closed : LineFile.EndsLine newline oneList := by
    intro sign isLast
    cases isLast
    rfl
  obtain ⟨isRead, _⟩ := readLog_logAll noFractions closed
    (show readLog noFractions oneList = some [.list []] from rfl)
    [some (.str [chr 0xE9, codePoint '\n']), some (.str [chr 0xD800]), none]
  exact ⟨isRead, rfl⟩

end JsonlLogger

end IntrusionDetection
