import IntrusionDetection.Ipv4
import IntrusionDetection.Normalizer
import IntrusionDetection.TextSplitting

namespace IntrusionDetection

open PyText

/-!
# Normalising twice is normalising once

What is rewritten in place is rewritten into a form that is left alone; the
views are computed from raw fields, so computing them again gives the same
views and the same report.
-/

/-! ### Views -/

/-- The keys that `normalize` may write. -/
def viewKeys : List PyKey :=
  [fieldKey "host_normalized", fieldKey "queries_normalized",
    fieldKey "answers_normalized", fieldKey "headers_normalized",
    fieldKey "path_normalized"]

/-- The application fields without the views. -/
def rawFields : PyObject → PyObject
  | .dict appFields => .dict (appFields.filter fun item => item.1 ∉ viewKeys)
  | appFields => appFields

/-- A view that is computed from one raw field reads no view. -/
theorem readsOutside_of_field
    {view : FieldView}
    {source : PyKey}
    (isRaw : source ∉ viewKeys)
    (fromField :
      ∀ first second : PyKey → Option PyObject,
        first source = second source →
        view.compute first = view.compute second) :
    view.ReadsOutside viewKeys := by
  intro first second agree
  exact fromField first second (agree source isRaw)

/-- A view of DNS records reads no view. -/
theorem recordsView_readsOutside
    {source : PyKey}
    (isRaw : source ∉ viewKeys)
    (target : PyKey)
    (normalizeRecord : PyObject → PyObject × Bool) :
    (recordsView source target normalizeRecord).ReadsOutside viewKeys := by
  apply readsOutside_of_field isRaw
  intro first second same
  simp only [recordsView, same]

namespace NormalizerTables

variable (tables : NormalizerTables)

/-- The view of the host reads no view. -/
theorem hostView_readsOutside :
    tables.hostView.ReadsOutside viewKeys := by
  apply readsOutside_of_field (by decide : fieldKey "host" ∉ viewKeys)
  intro first second same
  simp only [hostView, same]

/-- The view of the headers reads no view. -/
theorem headersView_readsOutside :
    tables.headersView.ReadsOutside viewKeys := by
  apply readsOutside_of_field
    (by decide : fieldKey "header_pairs" ∉ viewKeys)
  intro first second same
  simp only [headersView, same]

/-- The path is found among the raw fields. -/
theorem pathView_readsOutside :
    tables.pathView.ReadsOutside viewKeys := by
  intro first second agree
  have uri := agree (fieldKey "uri") (by decide)
  have path := agree (fieldKey "path") (by decide)
  have method := agree (fieldKey "method") (by decide)
  simp only [pathView, pathSource, uri, path, method]

/-- The views of an event: each has a key of its own and reads raw fields. -/
theorem fieldViews_wellFormed (appProtocol : PyObject) :
    DerivedViews.StoredIn viewKeys (tables.fieldViews appProtocol) ∧
      (∀ view ∈ tables.fieldViews appProtocol,
        view.ReadsOutside viewKeys) ∧
      ((tables.fieldViews appProtocol).map
        DerivedViews.View.target).Nodup := by
  have host := tables.hostView_readsOutside
  have headers := tables.headersView_readsOutside
  have path := tables.pathView_readsOutside
  unfold DerivedViews.StoredIn fieldViews
  cases appProtocol.isText (lit "DNS") with
  | false =>
      have distinct :
          [fieldKey "host_normalized", fieldKey "headers_normalized",
            fieldKey "path_normalized"].Nodup := by
        decide
      refine ⟨?_, ?_, distinct⟩
      · simp [hostView, headersView, pathView, viewKeys]
      · simp [host, headers, path]
  | true =>
      have distinct : viewKeys.Nodup := by
        decide
      refine ⟨?_, ?_, distinct⟩
      · simp [hostView, headersView, pathView, queriesView, answersView,
          recordsView, viewKeys]
      · have queries : tables.queriesView.ReadsOutside viewKeys :=
          recordsView_readsOutside (by decide) _ _
        have answers : tables.answersView.ReadsOutside viewKeys :=
          recordsView_readsOutside (by decide) _ _
        simp [host, headers, path, queries, answers]

/-- Only the views are written. -/
theorem rawFields_normalizeAppFields (appProtocol appFields : PyObject) :
    rawFields (tables.normalizeAppFields appProtocol appFields).1 =
      rawFields appFields := by
  obtain ⟨stored, _⟩ := tables.fieldViews_wellFormed appProtocol
  cases appFields with
  | dict items =>
      simp only [normalizeAppFields, rawFields]
      rw [DerivedViews.filter_applyAll stored]
  | _ =>
      rfl

/-- The same views are written and reported again. -/
theorem normalizeAppFields_again (appProtocol appFields : PyObject) :
    tables.normalizeAppFields appProtocol
        (tables.normalizeAppFields appProtocol appFields).1 =
      tables.normalizeAppFields appProtocol appFields := by
  obtain ⟨stored, independent, distinct⟩ :=
    tables.fieldViews_wellFormed appProtocol
  cases appFields with
  | dict items =>
      simp only [normalizeAppFields]
      rw [DerivedViews.applyAll_applyAll stored independent distinct]
  | _ =>
      rfl

/-- Every view is reported under one of three names. -/
theorem isOfView_of_mem_fields
    {appProtocol appFields : PyObject}
    {change : Change}
    (member :
      change ∈ (tables.normalizeAppFields appProtocol appFields).2) :
    change.isOfView = true := by
  obtain ⟨stored, independent, _⟩ :=
    tables.fieldViews_wellFormed appProtocol
  cases appFields with
  | dict items =>
      rw [normalizeAppFields,
        DerivedViews.applyAll_report stored independent] at member
      obtain ⟨view, isView, reported⟩ := List.mem_flatMap.mp member
      have named : change = view.label := by
        unfold DerivedViews.View.report at reported
        split at reported
        · exact List.mem_singleton.mp reported
        · exact (List.not_mem_nil reported).elim
      subst named
      unfold fieldViews at isView
      split at isView <;>
        simp only [List.cons_append, List.nil_append, List.mem_cons,
          List.not_mem_nil, or_false] at isView
      · rcases isView with rfl | rfl | rfl | rfl | rfl <;> rfl
      · rcases isView with rfl | rfl | rfl <;> rfl
  | _ =>
      exact (List.not_mem_nil member).elim

/-! ### Fields that are rewritten -/

/-- A float is left alone, and reported no more. -/
theorem normalizeTimestamp_again (timestamp timestampIso : PyObject) :
    let first := tables.normalizeTimestamp timestamp timestampIso
    tables.normalizeTimestamp first.1.1 first.1.2 = (first.1, false) := by
  cases read : tables.toFloat timestamp with
  | none =>
      simp only [normalizeTimestamp, read]
  | some floatTs =>
      have floatAgain : tables.toFloat (.float floatTs) = some floatTs :=
        rfl
      cases formatted : tables.isoOf floatTs with
      | none =>
          simp only [normalizeTimestamp, read, formatted, floatAgain]
      | some isoVal =>
          -- NaN has no ISO form, so this is a number equal to itself.
          have unchanged : timestampDiffers (.float floatTs) = false := by
            cases floatTs with
            | finite value => rfl
            | infinite negative => cases formatted
            | nan => cases formatted
          simp only [normalizeTimestamp, read, formatted, floatAgain,
            unchanged]

end NormalizerTables

/-- Each standard name is an alias of itself, whatever letters it is in. -/
theorem protoAliases_standard :
    ∀ aliased ∈ protoAliases,
      (∀ char ∈ aliased.2, char.val < 0x80) ∧
        InsertionDict.get? protoAliases (lower aliased.2) =
          some aliased.2 := by
  simp [protoAliases, lit, codePoint, lower, lowerChar,
    InsertionDict.get?]

namespace NormalizerTables

variable (tables : NormalizerTables)

/-- A standard name is standard. -/
theorem protoStd_protoStd (protoRaw : Str) :
    tables.protoStd (tables.protoStd protoRaw) =
      tables.protoStd protoRaw := by
  cases found :
      InsertionDict.get? protoAliases
        (tables.characters.lower protoRaw) with
  | none =>
      simp only [protoStd, found, Option.getD_none]
  | some standard =>
      obtain ⟨ascii, isStandard⟩ :=
        protoAliases_standard _ (InsertionDict.mem_of_get? found)
      have lowered := tables.characters.lower_ascii standard ascii
      simp only [protoStd, found, Option.getD_some, lowered, isStandard]

/-- A standard name is left alone. -/
theorem normalizeProtocol_again (protocol : PyObject) :
    tables.normalizeProtocol (tables.normalizeProtocol protocol).1 =
      ((tables.normalizeProtocol protocol).1, false) := by
  cases protocol with
  | str protoRaw =>
      simp only [normalizeProtocol, protoStd_protoStd, ne_eq,
        not_true_eq_false, decide_false]
  | _ =>
      rfl

/--
What is relied on of the addresses: a compressed form is its own compressed
form, and the one of a text without blanks around it has none either.
-/
structure Lawful : Prop where
  compressed_again :
    ∀ text ipStd,
      tables.compressed text = some ipStd →
      tables.compressed ipStd = some ipStd
  strip_compressed :
    ∀ text ipStd,
      tables.compressed (strip text) = some ipStd →
      strip ipStd = ipStd

/-- Noting an address removes no reason. -/
theorem hasText_normalizeIp
    {reason : List PyObject}
    {text : Str}
    (known : hasText reason text = true)
    (field : Str)
    (address : PyObject) :
    hasText (tables.normalizeIp field address reason).1.2 text = true := by
  unfold normalizeIp
  split
  · exact known
  · split
    · exact known
    · exact hasText_appendReason_of_hasText known _
  · exact known

/--
A compressed address is left alone, and a malformed one is not noted again,
whatever reasons were added since.
-/
theorem normalizeIp_again
    (lawful : tables.Lawful)
    (field : Str)
    (address : PyObject)
    (reason : List PyObject)
    {later : List PyObject}
    (kept :
      ∀ text,
        hasText (tables.normalizeIp field address reason).1.2 text = true →
        hasText later text = true) :
    tables.normalizeIp field
        (tables.normalizeIp field address reason).1.1 later =
      (((tables.normalizeIp field address reason).1.1, later), false) := by
  cases address with
  | str ipRaw =>
      cases ipRaw with
      | nil =>
          rfl
      | cons char rest =>
          cases formatted :
              tables.compressed (strip (char :: rest)) with
          | none =>
              simp only [normalizeIp, formatted] at kept ⊢
              have noted := kept _ (hasText_appendReason _ _)
              rw [appendReason, if_pos noted]
          | some ipStd =>
              have stripped :=
                lawful.strip_compressed (char :: rest) ipStd formatted
              have again := lawful.compressed_again _ ipStd formatted
              simp only [normalizeIp, formatted]
              cases ipStd with
              | nil =>
                  rfl
              | cons first others =>
                  simp only [stripped, again, ne_eq, not_true_eq_false,
                    decide_false]
  | _ =>
      rfl

end NormalizerTables

/-! ### The whole event -/

/-- Of the changes in place and those of views, the latter are views. -/
theorem filter_sortedSet
    {inPlace views : List Change}
    (noViews : ∀ change ∈ inPlace, change.isOfView = false)
    (areViews : ∀ change ∈ views, change.isOfView = true) :
    (Change.sortedSet (inPlace ++ views)).filter Change.isOfView =
      Change.sortedSet views := by
  unfold Change.sortedSet
  rw [List.filter_filter]
  apply List.filter_congr
  intro change _
  rw [Bool.eq_iff_iff]
  simp only [Bool.and_eq_true, List.contains_iff_mem, List.mem_append]
  constructor
  · rintro ⟨isView, isInPlace | isOfViews⟩
    · rw [noViews change isInPlace] at isView
      cases isView
    · exact isOfViews
  · intro isOfViews
    exact ⟨areViews change isOfViews, Or.inr isOfViews⟩

namespace NormalizerTables

variable (tables : NormalizerTables)

/-- What is rewritten in place is no view. -/
theorem normalize_changes (event : RawEvent) :
    ∃ inPlace : List Change,
      (∀ change ∈ inPlace, change.isOfView = false) ∧
        (tables.normalize event).2 =
          Change.sortedSet
            (inPlace ++
              (tables.normalizeAppFields
                (tables.normalizeProtocol event.appProtocol).1
                event.appFields).2) := by
  refine ⟨_, ?_, rfl⟩
  simp only [List.mem_append]
  rintro change (((((member | member) | member) | member) | member) | member)
  all_goals
    split at member
    · rw [List.mem_singleton.mp member]
      rfl
    · exact (List.not_mem_nil member).elim

/-- The second call leaves every field as it is. -/
theorem normalize_again
    (lawful : tables.Lawful)
    (event : RawEvent) :
    tables.normalize (tables.normalize event).1 =
      ((tables.normalize event).1,
        Change.sortedSet
          (tables.normalizeAppFields
            (tables.normalizeProtocol event.appProtocol).1
            event.appFields).2) := by
  have time :=
    tables.normalizeTimestamp_again event.timestamp event.timestampIso
  have src :=
    tables.normalizeIp_again lawful (lit "src_ip") event.srcIp
      event.reason fun _ known =>
        tables.hasText_normalizeIp known (lit "dst_ip") event.dstIp
  have dst :=
    tables.normalizeIp_again lawful (lit "dst_ip") event.dstIp
      (tables.normalizeIp (lit "src_ip") event.srcIp event.reason).1.2
      fun _ known => known
  simp only at time
  simp only [normalize, time, normalizeProtocol_again, src, dst,
    normalizeAppFields_again, Bool.false_eq_true, if_false,
    List.nil_append]

/--
Raw application fields are kept; a second call changes nothing at all, and it
reports those of the first call's changes that are views.
-/
theorem normalize_stable
    (lawful : tables.Lawful)
    (event : RawEvent) :
    rawFields (tables.normalize event).1.appFields =
        rawFields event.appFields ∧
      (tables.normalize (tables.normalize event).1).1 =
        (tables.normalize event).1 ∧
      (tables.normalize (tables.normalize event).1).2 =
        (tables.normalize event).2.filter Change.isOfView := by
  have again := tables.normalize_again lawful event
  refine ⟨tables.rawFields_normalizeAppFields _ _, ?_, ?_⟩
  · rw [again]
  · obtain ⟨inPlace, noViews, changes⟩ := tables.normalize_changes event
    rw [again, changes]
    exact (filter_sortedSet noViews fun _ member =>
      tables.isOfView_of_mem_fields member).symm

/-- Tables that know ASCII, IPv4 and one date. -/
def ofIpv4 : NormalizerTables where
  characters := .ascii
  floatOfText := fun _ => none
  floatOfOther := fun _ => none
  isoFormat := fun value =>
    if value = 1700000000 then
      some (lit "2023-11-14T22:13:20+00:00")
    else
      none
  compressed := fun text => (Ipv4.parse? text).map fun _ => text

/-- An IPv4 address is written in one way only. -/
theorem ofIpv4_lawful : ofIpv4.Lawful where
  compressed_again := by
    intro text ipStd formatted
    obtain ⟨_, _, rfl⟩ := Option.map_eq_some_iff.mp formatted
    exact formatted
  strip_compressed := by
    intro text ipStd formatted
    obtain ⟨_, _, rfl⟩ := Option.map_eq_some_iff.mp formatted
    exact strip_strip text

/-- A response with an alias, odd addresses and names in mixed case. -/
def oddResponse : RawEvent where
  packetId := .int 1
  timestamp := .int 1700000000
  srcIp := .str (lit "999.1.1.1")
  dstIp := .str (lit " 10.0.0.2 ")
  networkProtocol := .str (lit "ip")
  networkFields := .dict []
  srcPort := .int 53
  dstPort := .int 40000
  transportProtocol := .str (lit "UDP")
  transportFields := .dict []
  appProtocol := .str (lit "dns")
  detectionMethod := .none
  appFields :=
    .dict
      [(fieldKey "queries",
        .list [.dict [(fieldKey "name", .str (lit "A.Example."))]])]
  rawLength := .int 80
  payloadLength := .int 40
  status := .str (lit "OK")
  errorInfo := .none
  decodedFields := .dict []
  decodeStatus := .none
  timestampIso := .none
  preprocessStatus := .none
  processingAction := .none
  reason := []
  flowId := .none
  direction := .none
  flowState := .none
  payload := .none

/-- The second call reports the domain and none of the other changes. -/
theorem oddResponse_stable :
    (ofIpv4.normalize oddResponse).2 =
        [.appProtocol, .domain, .dstIp, .networkProtocol, .timestamp] ∧
      (ofIpv4.normalize (ofIpv4.normalize oddResponse).1).2 =
        (ofIpv4.normalize oddResponse).2.filter Change.isOfView :=
  ⟨by decide +kernel,
    (ofIpv4.normalize_stable ofIpv4_lawful oddResponse).2.2⟩

end NormalizerTables

end IntrusionDetection
