import IntrusionDetection.CharacterTables
import IntrusionDetection.Config
import IntrusionDetection.DerivedViews
import IntrusionDetection.RawEvent

namespace IntrusionDetection

open PyText

/-!
# Normalisation

Times, protocol names and addresses are rewritten in place.  Host names, DNS
names, headers and paths get a normalised view next to the raw value.
-/

/-- What normalisation needs of the interpreter. -/
structure NormalizerTables where
  characters : CharacterTables
  -- `float(text)`; `none` is its `ValueError`.
  floatOfText : Str → Option PyFloat
  -- `float` of an object that is no number; `none` is its `TypeError`.
  floatOfOther : Nat → Option PyFloat
  -- `datetime.fromtimestamp(value, timezone.utc).isoformat()`; `none` if the
  -- year is out of range.
  isoFormat : ℚ → Option Str
  -- `ipaddress.ip_address(text).compressed`; `none` is its `ValueError`.
  compressed : Str → Option Str

/-- A name under which `normalize` reports a change. -/
inductive Change where
  | appProtocol
  | domain
  | dstIp
  | headers
  | networkProtocol
  | path
  | srcIp
  | timestamp
  | transportProtocol
  deriving DecidableEq

namespace Change

/-- The text that is reported. -/
def name : Change → Str
  | appProtocol => lit "app_protocol"
  | domain => lit "domain"
  | dstIp => lit "dst_ip"
  | headers => lit "headers"
  | networkProtocol => lit "network_protocol"
  | path => lit "path"
  | srcIp => lit "src_ip"
  | timestamp => lit "timestamp"
  | transportProtocol => lit "transport_protocol"

/-- All changes, sorted by their names. -/
def sorted : List Change :=
  [appProtocol, domain, dstIp, headers, networkProtocol, path, srcIp,
    timestamp, transportProtocol]

/-- `sorted(list(set(changes)))`. -/
def sortedSet (changes : List Change) : List Change :=
  sorted.filter (changes.contains ·)

/-- The changes of a derived view; the others are made in place. -/
def isOfView : Change → Bool
  | domain | headers | path => true
  | _ => false

/-- The list of all changes misses none and is sorted. -/
theorem sorted_complete :
    (∀ change, change ∈ sorted) ∧
      (sorted.map name).Pairwise (· < ·) := by
  constructor
  · intro change
    cases change <;> decide
  · decide

end Change

/-! ### Views and headers -/

/-- A view of the application fields. -/
abbrev FieldView := DerivedViews.View PyKey PyObject Change

/-- A key of the application fields. -/
def fieldKey (name : String) : PyKey :=
  .text (lit name)

/-- The value of a normalised header. -/
inductive HeaderValue where
  | text (value : Str)
  -- The values of `set-cookie` are never joined.
  | cookies (values : List Str)

/-- The value as the view holds it. -/
def HeaderValue.toObject : HeaderValue → PyObject
  | .text value => .str value
  | .cookies values => .list (values.map .str)

/-- How many values are emitted for a header. -/
def HeaderValue.emitted : HeaderValue → Nat
  | .text _ => 1
  | .cookies values => values.length

/-- Add a value to what is known of a header. -/
def HeaderValue.add (name value : Str) : Option HeaderValue → HeaderValue
  | none =>
      if name = lit "set-cookie" then .cookies [value] else .text value
  | some (.cookies values) => .cookies (values ++ [value])
  | some (.text known) => .text (known ++ lit ", " ++ value)

/-- `norm_headers`. -/
abbrev NormHeaders := List (Str × HeaderValue)

/-- The variables of the loop over the header pairs. -/
structure HeaderScan where
  normHeaders : NormHeaders
  headersChanged : Bool
  validPairs : Nat

/-! ### Raw texts and objects -/

/-- One of `0-9`, `a-f` and `A-F`. -/
def isHexDigit (char : CodePoint) : Bool :=
  isAsciiDigit char ||
    (0x61 ≤ char.val && char.val ≤ 0x66) ||
    (0x41 ≤ char.val && char.val ≤ 0x46)

/-- Capital digits in `%2f`; `pending` of them are still to come. -/
def uppercaseHex (pending : Nat) : Str → Str
  | [] => []
  | char :: rest =>
      if 0 < pending then
        upperChar char ++ uppercaseHex (pending - 1) rest
      else if char = codePoint '%' ∧ 2 ≤ rest.length ∧
          (rest.take 2).all isHexDigit then
        char :: uppercaseHex 2 rest
      else
        char :: uppercaseHex 0 rest

/-- `valid_starts`. -/
def validStarts : List Str :=
  [lit "http://", lit "https://", lit "ftp://", lit "ws://", lit "wss://",
    lit "urn:", lit "*", lit "/"]

/-- The view of a list of DNS records. -/
def recordsView
    (source target : PyKey)
    (normalizeRecord : PyObject → PyObject × Bool) :
    FieldView where
  target := target
  label := .domain
  compute := fun field =>
    match field source with
    | some (.list records) =>
        let normRecords := records.map normalizeRecord
        some (.list (normRecords.map Prod.fst), normRecords.any Prod.snd)
    | _ => none

/-- A list or tuple of two texts. -/
def textPair? : PyObject → Option (Str × Str)
  | .list [.str name, .str value] => some (name, value)
  | .tuple [.str name, .str value] => some (name, value)
  | _ => none

/-- `path_source`: the raw URI, else the raw path, without its query. -/
def pathSource (field : PyKey → Option PyObject) : Option Str :=
  match field (fieldKey "uri"), field (fieldKey "path") with
  | some (.str uri), _ => some (partition (codePoint '?') uri).1
  | _, some (.str path) => some (partition (codePoint '?') path).1
  | _, _ => none

/-- `type(ts) is not float or ts != float_ts`. -/
def timestampDiffers : PyObject → Bool
  | .float value => value = .nan
  | _ => true

/-- `PROTO_ALIASES`. -/
def protoAliases : List (Str × Str) :=
  [(lit "tcp", lit "TCP"), (lit "udp", lit "UDP"),
    (lit "icmp", lit "ICMP"), (lit "ip", lit "IPv4"),
    (lit "ipv4", lit "IPv4"), (lit "ipv6", lit "IPv6"),
    (lit "http", lit "HTTP"), (lit "smtp", lit "SMTP"),
    (lit "dns", lit "DNS"), (lit "unknown", lit "UNKNOWN")]

namespace NormalizerTables

variable (tables : NormalizerTables)

/-! ### Host names and paths -/

/-- `normalize_domain`. -/
def normalizeDomain (domain : Str) : Str :=
  let domain := tables.characters.lower (strip domain)
  if domain.getLast? = some (codePoint '.') then
    domain.dropLast
  else
    domain

/-- `normalize_host`. -/
def normalizeHost (hostStr : Str) : Str :=
  let hostStr := strip hostStr
  if hostStr = [] then
    hostStr
  else
    let endBracket :=
      if startsWith (lit "[") hostStr then
        rfind? (codePoint ']') hostStr
      else
        none
    match endBracket, rfind? (codePoint ':') hostStr with
    | some endBracket, _ =>
        let domainPart :=
          tables.characters.lower ((hostStr.take endBracket).drop 1)
        let rest := hostStr.drop (endBracket + 1)
        codePoint '[' :: domainPart ++ codePoint ']' :: rest
    | none, some colon =>
        -- What follows the last colon may be a port number.
        let port := hostStr.drop (colon + 1)
        if tables.characters.isDigits port then
          tables.normalizeDomain (hostStr.take colon) ++
            codePoint ':' :: port
        else
          tables.normalizeDomain hostStr
    | none, none => tables.normalizeDomain hostStr

/-- `normalize_uri_path`. -/
def normalizeUriPath (path : Str) (method : Option PyObject) : Str :=
  if path = [] then
    lit "/"
  else
    let path := uppercaseHex 0 path
    let isConnect : Bool :=
      match method with
      | some (.str method) => upper method = lit "CONNECT"
      | _ => false
    let pathLower := tables.characters.lower path
    if isConnect || validStarts.any (startsWith · pathLower) then
      path
    else
      codePoint '/' :: path

/-! ### The views of the application fields -/

/-- `host_normalized`. -/
def hostView : FieldView where
  target := fieldKey "host_normalized"
  label := .domain
  compute := fun field =>
    match field (fieldKey "host") with
    | some (.str host) =>
        let normHost := tables.normalizeHost host
        some (.str normHost, normHost ≠ host)
    | _ => none

/-- Normalise the domain name under a key, if there is one. -/
def normalizeName (record : PyDict) (key : PyKey) : PyDict × Bool :=
  match record.get? key with
  | some (.str name) =>
      let normName := tables.normalizeDomain name
      (record.setItem key (.str normName), normName ≠ name)
  | _ => (record, false)

/-- Normalise a query; a malformed element is kept. -/
def normalizeQuery : PyObject → PyObject × Bool
  | .dict query =>
      let newQuery := tables.normalizeName query (fieldKey "name")
      (.dict newQuery.1, newQuery.2)
  | query => (query, false)

/--
Normalise an answer.  Its data is a domain name in `CNAME` and `NS` records
only.
-/
def normalizeAnswer : PyObject → PyObject × Bool
  | .dict answer =>
      let named := tables.normalizeName answer (fieldKey "name")
      let holdsName :=
        (PyDict.get? answer (fieldKey "type")).any fun type =>
          type.isText (lit "CNAME") || type.isText (lit "NS")
      if holdsName then
        let newAnswer := tables.normalizeName named.1 (fieldKey "data")
        (.dict newAnswer.1, named.2 || newAnswer.2)
      else
        (.dict named.1, named.2)
  | answer => (answer, false)

/-- `queries_normalized`. -/
def queriesView : FieldView :=
  recordsView (fieldKey "queries") (fieldKey "queries_normalized")
    tables.normalizeQuery

/-- `answers_normalized`. -/
def answersView : FieldView :=
  recordsView (fieldKey "answers") (fieldKey "answers_normalized")
    tables.normalizeAnswer

/-- The body of the loop over the header pairs. -/
def scanPair (scan : HeaderScan) (pair : PyObject) : HeaderScan :=
  match textPair? pair with
  | none => scan
  | some (nameRaw, valueRaw) =>
      let name := tables.characters.lower (strip nameRaw)
      let value := strip valueRaw
      { normHeaders :=
          InsertionDict.setItem scan.normHeaders name
            (HeaderValue.add name value
              (InsertionDict.get? scan.normHeaders name))
        headersChanged :=
          scan.headersChanged ||
            decide (name ≠ nameRaw ∨ value ≠ valueRaw)
        validPairs := scan.validPairs + 1 }

/-- Normalise the merged `host` header. -/
def normalizeHostHeader (headers : NormHeaders) : NormHeaders × Bool :=
  match InsertionDict.get? headers (lit "host") with
  | some (.text host) =>
      let newHost := tables.normalizeHost host
      (InsertionDict.setItem headers (lit "host") (.text newHost),
        newHost ≠ host)
  | _ => (headers, false)

/-- The normalised headers of a list of pairs; do they differ from it? -/
def normalizeHeaders (pairs : List PyObject) : NormHeaders × Bool :=
  let scan :=
    pairs.foldl tables.scanPair
      { normHeaders := [], headersChanged := false, validPairs := 0 }
  let headers := tables.normalizeHostHeader scan.normHeaders
  -- Fewer values than pairs: duplicate headers were merged.
  let emitted := (headers.1.map fun header => header.2.emitted).sum
  (headers.1,
    scan.headersChanged || headers.2 || decide (emitted ≠ scan.validPairs))

/-- `headers_normalized`. -/
def headersView : FieldView where
  target := fieldKey "headers_normalized"
  label := .headers
  compute := fun field =>
    match field (fieldKey "header_pairs") with
    | some (.list pairs) =>
        let headers := tables.normalizeHeaders pairs
        some
          (.dict (headers.1.map fun header =>
              (.text header.1, header.2.toObject)),
            headers.2)
    | _ => none

/-- `path_normalized`. -/
def pathView : FieldView where
  target := fieldKey "path_normalized"
  label := .path
  compute := fun field =>
    (pathSource field).map fun pathSource =>
      let normPath :=
        tables.normalizeUriPath pathSource (field (fieldKey "method"))
      (.str normPath, normPath ≠ pathSource)

/-- The views of an event; those of DNS only for the DNS protocol. -/
def fieldViews (appProtocol : PyObject) : List FieldView :=
  tables.hostView ::
    ((if appProtocol.isText (lit "DNS") then
        [tables.queriesView, tables.answersView]
      else
        []) ++
      [tables.headersView, tables.pathView])

/-- Store the views next to the raw fields. -/
def normalizeAppFields (appProtocol : PyObject) :
    PyObject → PyObject × List Change
  | .dict appFields =>
      let viewed :=
        DerivedViews.applyAll (tables.fieldViews appProtocol) appFields
      (.dict viewed.1, viewed.2)
  | appFields => (appFields, [])

/-! ### The fields that are rewritten -/

/-- `float(value)`; `none` is one of the errors that are caught. -/
def toFloat : PyObject → Option PyFloat
  | .bool value => some (.finite (if value then 1 else 0))
  | .int value =>
      if fitsFloat value then some (.finite (floatOfInt value)) else none
  | .float value => some value
  | .str text => tables.floatOfText text
  | .other identity _ => tables.floatOfOther identity
  | _ => none

/-- The ISO form of a time; NaN and the infinities have none. -/
def isoOf : PyFloat → Option Str
  | .finite value => tables.isoFormat value
  | _ => none

/--
The timestamp and its ISO form.  A change is reported after the ISO form was
found; an error before that leaves it unreported.
-/
def normalizeTimestamp (timestamp timestampIso : PyObject) :
    (PyObject × PyObject) × Bool :=
  match tables.toFloat timestamp with
  | none => ((timestamp, timestampIso), false)
  | some floatTs =>
      match tables.isoOf floatTs with
      | none => ((.float floatTs, timestampIso), false)
      | some isoVal =>
          ((.float floatTs, .str isoVal), timestampDiffers timestamp)

/-- `PROTO_ALIASES.get(proto_raw.lower(), proto_raw)`. -/
def protoStd (protoRaw : Str) : Str :=
  (InsertionDict.get? protoAliases
    (tables.characters.lower protoRaw)).getD protoRaw

/-- Replace an alias of a protocol. -/
def normalizeProtocol : PyObject → PyObject × Bool
  | .str protoRaw =>
      (.str (tables.protoStd protoRaw), tables.protoStd protoRaw ≠ protoRaw)
  | protocol => (protocol, false)

/-- Write an address in its compressed form; a text that is none is noted. -/
def normalizeIp (field : Str) (address : PyObject)
    (reason : List PyObject) :
    (PyObject × List PyObject) × Bool :=
  match address with
  | .str [] => ((.str [], reason), false)
  | .str ipRaw =>
      match tables.compressed (strip ipRaw) with
      | some ipStd => ((.str ipStd, reason), ipStd ≠ ipRaw)
      | none =>
          ((.str ipRaw,
            appendReason reason
              (lit "invalid_" ++ field ++ lit "_format")), false)
  | _ => ((address, reason), false)

/-- `normalize`: the event and what was changed in it. -/
def normalize (event : RawEvent) : RawEvent × List Change :=
  let time :=
    tables.normalizeTimestamp event.timestamp event.timestampIso
  let network := tables.normalizeProtocol event.networkProtocol
  let transport := tables.normalizeProtocol event.transportProtocol
  let app := tables.normalizeProtocol event.appProtocol
  let src := tables.normalizeIp (lit "src_ip") event.srcIp event.reason
  let dst := tables.normalizeIp (lit "dst_ip") event.dstIp src.1.2
  let fields := tables.normalizeAppFields app.1 event.appFields
  ({ event with
      timestamp := time.1.1
      timestampIso := time.1.2
      networkProtocol := network.1
      transportProtocol := transport.1
      appProtocol := app.1
      srcIp := src.1.1
      dstIp := dst.1.1
      reason := dst.1.2
      appFields := fields.1 },
    Change.sortedSet
      ((if time.2 then [.timestamp] else []) ++
        (if network.2 then [.networkProtocol] else []) ++
        (if transport.2 then [.transportProtocol] else []) ++
        (if app.2 then [.appProtocol] else []) ++
        (if src.2 then [.srcIp] else []) ++
        (if dst.2 then [.dstIp] else []) ++ fields.2))

end NormalizerTables

end IntrusionDetection
