import IntrusionDetection.CharacterTables
import IntrusionDetection.Event
import IntrusionDetection.InsertionDict
import IntrusionDetection.Utf8Decoding

namespace IntrusionDetection

open PyText

/-!
# The HTTP parser

`parse_http` reads the head of a request or a response from one packet, and
previews what follows it.
-/

/-- The parts before and after the first occurrence of a separator. -/
def splitOnce (separator : Bytes) : Bytes → Option (Bytes × Bytes)
  | [] => none
  | byte :: rest =>
      if separator.isPrefixOf (byte :: rest) then
        some ([], (byte :: rest).drop separator.length)
      else
        (splitOnce separator rest).map fun parts =>
          (byte :: parts.1, parts.2)

/-- `text.split('\r\n')`. -/
def splitCrlf : Str → List Str
  | [] => [[]]
  | [char] => [[char]]
  | first :: second :: rest =>
      if first = codePoint '\r' ∧ second = codePoint '\n' then
        [] :: splitCrlf rest
      else
        match splitCrlf (second :: rest) with
        | [] => [[first]]
        | line :: lines => (first :: line) :: lines

/-- What the first line says. -/
inductive StartLine where
  -- `uri` and `path` are the same.
  | request (method path version : Str)
  | response (version : Str) (statusCode : Int) (reason : Str)
  deriving DecidableEq

/-- `app_fields` of an HTTP packet. -/
structure HttpFields where
  headers : List (Str × Str)
  headerPairs : List (Str × Str)
  bodyOffset : Option Nat
  contentType : Option Str
  charset : Option Str
  contentLength : Option Int
  startLine : StartLine
  bodyPreview : Option Str
  deriving DecidableEq

/-- What the loop over the header lines has read. -/
structure HeaderState where
  headers : List (Str × Str)
  headerPairs : List (Str × Str)
  contentType : Option Str
  charset : Option Str
  contentLength : Option Int

namespace HttpParser

variable (tables : CharacterTables)

/-- The line that ends the head. -/
def terminator : Bytes := [0x0D, 0x0A, 0x0D, 0x0A]

/-- `header_bytes`. -/
def headerBytes (raw : Bytes) : Bytes :=
  match splitOnce terminator raw with
  | some parts => parts.1
  | none => raw

/-- `body_bytes`. -/
def bodyBytes (raw : Bytes) : Bytes :=
  match splitOnce terminator raw with
  | some parts => parts.2
  | none => []

/-- `body_offset`. -/
def bodyOffset (raw : Bytes) : Option Nat :=
  (splitOnce terminator raw).map fun parts => parts.1.length + 4

/-- The lines of the head. -/
def headLines (raw : Bytes) : List Str :=
  splitCrlf (decodeUtf8Ignore (headerBytes raw))

/-- Parsing of the start line. -/
def parseStartLine (line : Str) : Except Str StartLine :=
  let tokens := splitAt (codePoint ' ') line
  if startsWith (lit "HTTP/") line then
    match tokens with
    | version :: code :: first :: rest =>
        if tables.isDigits code then
          match tables.int? code with
          | some number =>
              .ok (.response version number
                (List.intercalate (lit " ") (first :: rest)))
          | none => .error (tables.intError code)
        else
          .error (lit "Malformed HTTP response line: " ++ line)
    | _ => .error (lit "Malformed HTTP response line: " ++ line)
  else
    match tokens with
    | method :: path :: version :: _ =>
        if startsWith (lit "HTTP/") version then
          .ok (.request method path version)
        else
          .error (lit "Malformed HTTP request line: " ++ line)
    | _ => .error (lit "Malformed HTTP request line: " ++ line)

/-- The name and the value of a header line. -/
def headerPair (line : Str) : Option (Str × Str) :=
  let (key, value) := partition (codePoint ':') line
  value.map fun value => (strip key, strip value)

/-- The `charset` parameter of a content type. -/
def charsetOf (parameters : List Str) : Option Str :=
  (parameters.find? fun part =>
    startsWith (lit "charset=") (tables.lower part)).map fun part =>
      let value := ((partition (codePoint '=') part).2).getD []
      let isQuote : CodePoint → Bool :=
        fun char => char = codePoint '"' || char = chr 0x27
      tables.lower ((value.dropWhile isQuote).rdropWhile isQuote)

/-- One header line. -/
def readHeader (state : HeaderState) (line : Str) : HeaderState :=
  match headerPair line with
  | none => state
  | some (key, value) =>
      let state :=
        { state with
          headerPairs := state.headerPairs ++ [(key, value)]
          headers := InsertionDict.setItem state.headers key value }
      let name := tables.lower key
      if name = lit "content-length" then
        match tables.int? value with
        | some length => { state with contentLength := some length }
        | none => state
      else if name = lit "content-type" then
        let parts := (splitAt (codePoint ';') value).map strip
        let mainType := tables.lower (parts.headD [])
        { state with
          contentType := if mainType = [] then none else some mainType
          charset := (charsetOf tables parts.tail).or state.charset }
      else
        state

/-- What the header lines say. -/
def readHeaders (lines : List Str) : HeaderState :=
  lines.foldl (readHeader tables) ⟨[], [], none, none, none⟩

/-- `actual_body`: what is previewed, before the preview is cut. -/
def actualBody (body : Bytes) (contentLength : Int) : Bytes :=
  if 0 < contentLength then body.take contentLength.toNat else body

/-- The body of `parse_http`; the error is the text of its `ValueError`. -/
def readPacket (raw : Bytes) : Except Str HttpFields :=
  if raw.isEmpty then
    .error (lit "Empty payload, cannot be HTTP.")
  else
    match headLines raw with
    | [] => .error (lit "Malformed HTTP: Start Line not found.")
    | first :: rest =>
        if first.isEmpty then
          .error (lit "Malformed HTTP: Start Line not found.")
        else do
          let startLine ← parseStartLine tables first
          let state := readHeaders tables rest
          let body := bodyBytes raw
          return {
            headers := state.headers
            headerPairs := state.headerPairs
            bodyOffset := bodyOffset raw
            contentType := state.contentType
            charset := state.charset
            contentLength := state.contentLength
            startLine
            bodyPreview :=
              if body.isEmpty then none
              else
                some (decodeUtf8Replace
                  ((actualBody body (state.contentLength.getD 0)).take
                    1024)) }

end HttpParser

/-- `parse_http`: an exception becomes a result. -/
def parseHttp (tables : CharacterTables) (raw : Bytes) :
    Except ErrorInfo HttpFields :=
  match HttpParser.readPacket tables raw with
  | .ok fields => .ok fields
  | .error detail => .error { layer := lit "parse_http", detail }

end IntrusionDetection
