import IntrusionDetection.NormalizerStability

namespace IntrusionDetection

open PyText

/-!
# Merged headers

What the view of the headers holds under every name, and when it is reported.
The loop infers from two counts whether headers were merged; the counts are
equal exactly if no two pairs share a name whose values are joined.
-/

/-- The pairs of two texts; the other elements are passed over. -/
def wellFormedPairs (pairs : List PyObject) : List (Str × Str) :=
  pairs.filterMap textPair?

/-- Values as the loop collects them. -/
def collectedValues (name : Str) (values : List Str) :
    Option HeaderValue :=
  if values = [] then
    none
  else if name = lit "set-cookie" then
    some (.cookies values)
  else
    some (.text ((lit ", ").intercalate values))

/-- A change is among the sorted ones if it was made. -/
theorem Change.mem_sortedSet
    {change : Change}
    {changes : List Change} :
    change ∈ sortedSet changes ↔ change ∈ changes := by
  rw [sortedSet, List.mem_filter, List.contains_iff_mem]
  exact and_iff_right (sorted_complete.1 change)

namespace NormalizerTables

variable (tables : NormalizerTables)

/-- A pair with its name and its value in normalised form. -/
def normalizedPair (pair : Str × Str) : Str × Str :=
  (tables.characters.lower (strip pair.1), strip pair.2)

/-- The trimmed values of a name, in the order of their pairs. -/
def headerValues (pairs : List PyObject) (name : Str) : List Str :=
  (((wellFormedPairs pairs).map tables.normalizedPair).filter
    fun pair => pair.1 = name).map Prod.snd

/-- The values of a name that are joined. -/
def joinedValues (pairs : List PyObject) (name : Str) : Str :=
  (lit ", ").intercalate (tables.headerValues pairs name)

/-- What the view of the headers is meant to hold under a key. -/
def mergedHeader (pairs : List PyObject) : PyKey → Option PyObject
  | .text name =>
      if tables.headerValues pairs name = [] then
        none
      else if name = lit "set-cookie" then
        some (.list ((tables.headerValues pairs name).map .str))
      else if name = lit "host" then
        some (.str (tables.normalizeHost (tables.joinedValues pairs name)))
      else
        some (.str (tables.joinedValues pairs name))
  | .other _ _ => none

/-- A pair is not in normalised form. -/
def SomeRewritten (pairs : List PyObject) : Prop :=
  ∃ pair ∈ wellFormedPairs pairs, tables.normalizedPair pair ≠ pair

/-- Two pairs share a name whose values are joined. -/
def SomeJoined (pairs : List PyObject) : Prop :=
  ∃ name,
    name ≠ lit "set-cookie" ∧
      1 < (tables.headerValues pairs name).length

/-- The host is not in normalised form. -/
def HostRewritten (pairs : List PyObject) : Prop :=
  tables.headerValues pairs (lit "host") ≠ [] ∧
    tables.normalizeHost (tables.joinedValues pairs (lit "host")) ≠
      tables.joinedValues pairs (lit "host")

end NormalizerTables

/-! ### Collecting one value more -/

/-- The value that is stored is that of all values so far. -/
theorem add_collectedValues (name value : Str) (values : List Str) :
    collectedValues name (values ++ [value]) =
      some (HeaderValue.add name value (collectedValues name values)) := by
  have notEmpty : values ++ [value] ≠ [] := by
    simp
  simp only [collectedValues, notEmpty, if_false]
  by_cases isCookie : name = lit "set-cookie"
  · by_cases isFirst : values = []
    · simp [isCookie, isFirst, HeaderValue.add]
    · simp [isCookie, isFirst, HeaderValue.add]
  · by_cases isFirst : values = []
    · simp [isCookie, isFirst, HeaderValue.add]
    · simp [isCookie, isFirst, HeaderValue.add,
        intercalate_concat _ _ isFirst]

/-- How many values are emitted for a name. -/
theorem emitted_collectedValues (name : Str) (values : List Str) :
    (collectedValues name values).elim 0 HeaderValue.emitted =
      if name = lit "set-cookie" then values.length
      else min 1 values.length := by
  cases values with
  | nil =>
      simp [collectedValues]
  | cons value rest =>
      unfold collectedValues
      rw [if_neg (List.cons_ne_nil value rest)]
      split <;> simp [HeaderValue.emitted]

namespace NormalizerTables

variable (tables : NormalizerTables)

/-- An element that is no pair of texts adds no value. -/
theorem headerValues_concat_of_none
    {pair : PyObject}
    (malformed : textPair? pair = none)
    (pairs : List PyObject) :
    tables.headerValues (pairs ++ [pair]) = tables.headerValues pairs := by
  funext name
  simp [headerValues, wellFormedPairs, malformed]

/-- A pair adds its value to those of its name. -/
theorem headerValues_concat_of_some
    {pair : PyObject}
    {raw : Str × Str}
    (wellFormed : textPair? pair = some raw)
    (pairs : List PyObject)
    (name : Str) :
    tables.headerValues (pairs ++ [pair]) name =
      tables.headerValues pairs name ++
        if (tables.normalizedPair raw).1 = name then
          [(tables.normalizedPair raw).2]
        else
          [] := by
  by_cases same : (tables.normalizedPair raw).1 = name <;>
    simp [headerValues, wellFormedPairs, wellFormed, same]

/-- A pair is rewritten, or some pair before was. -/
theorem someRewritten_concat_iff
    {pair : PyObject}
    {raw : Str × Str}
    (wellFormed : textPair? pair = some raw)
    (pairs : List PyObject) :
    tables.SomeRewritten (pairs ++ [pair]) ↔
      tables.SomeRewritten pairs ∨ tables.normalizedPair raw ≠ raw := by
  simp [SomeRewritten, wellFormedPairs, wellFormed, or_and_right,
    exists_or]

/-- A pair joins a value to those of its name, or some pair before did. -/
theorem someJoined_concat_iff
    {pair : PyObject}
    {raw : Str × Str}
    (wellFormed : textPair? pair = some raw)
    (pairs : List PyObject) :
    tables.SomeJoined (pairs ++ [pair]) ↔
      tables.SomeJoined pairs ∨
        (tables.normalizedPair raw).1 ≠ lit "set-cookie" ∧
          tables.headerValues pairs (tables.normalizedPair raw).1 ≠ [] := by
  unfold SomeJoined
  constructor
  · rintro ⟨name, isJoined, several⟩
    rw [tables.headerValues_concat_of_some wellFormed] at several
    by_cases same : (tables.normalizedPair raw).1 = name
    · subst same
      right
      refine ⟨isJoined, fun isFirst => ?_⟩
      simp [isFirst] at several
    · left
      rw [if_neg same, List.append_nil] at several
      exact ⟨name, isJoined, several⟩
  · rintro (⟨name, isJoined, several⟩ | ⟨isJoined, notFirst⟩)
    · refine ⟨name, isJoined, ?_⟩
      rw [tables.headerValues_concat_of_some wellFormed,
        List.length_append]
      exact Nat.lt_add_right _ several
    · refine ⟨_, isJoined, ?_⟩
      rw [tables.headerValues_concat_of_some wellFormed, if_pos rfl,
        List.length_append]
      have known := List.length_pos_iff.mpr notFirst
      simpa using known

/-! ### The loop over the pairs -/

/-- How many values a dictionary of headers emits. -/
def emittedOf (headers : NormHeaders) : Nat :=
  (headers.map fun header => header.2.emitted).sum

/-- What the loop knows after some pairs. -/
structure Scanned (pairs : List PyObject) (scan : HeaderScan) : Prop where
  values :
    ∀ name,
      InsertionDict.get? scan.normHeaders name =
        collectedValues name (tables.headerValues pairs name)
  distinct : (scan.normHeaders.map Prod.fst).Nodup
  changed : scan.headersChanged = true ↔ tables.SomeRewritten pairs
  validPairs : scan.validPairs = (wellFormedPairs pairs).length
  emitted_le : emittedOf scan.normHeaders ≤ scan.validPairs
  emitted_eq :
    emittedOf scan.normHeaders = scan.validPairs ↔
      ¬ tables.SomeJoined pairs

/-- Before the first pair nothing is known. -/
theorem scanned_nil :
    tables.Scanned []
      { normHeaders := [], headersChanged := false, validPairs := 0 } where
  values := fun _ => rfl
  distinct := List.nodup_nil
  changed := by
    simp [SomeRewritten, wellFormedPairs]
  validPairs := rfl
  emitted_le := Nat.le_refl 0
  emitted_eq := by
    simp [SomeJoined, headerValues, wellFormedPairs, emittedOf]

variable {tables}

namespace Scanned

variable {pairs : List PyObject} {scan : HeaderScan}

/-- An element that is no pair of texts changes nothing. -/
theorem next_of_none
    (scanned : tables.Scanned pairs scan)
    {pair : PyObject}
    (malformed : textPair? pair = none) :
    tables.Scanned (pairs ++ [pair]) scan := by
  have samePairs : wellFormedPairs (pairs ++ [pair]) = wellFormedPairs pairs := by
    simp [wellFormedPairs, malformed]
  have sameValues := tables.headerValues_concat_of_none malformed pairs
  constructor
  · rw [sameValues]
    exact scanned.values
  · exact scanned.distinct
  · rw [SomeRewritten, samePairs]
    exact scanned.changed
  · rw [samePairs]
    exact scanned.validPairs
  · exact scanned.emitted_le
  · rw [SomeJoined, sameValues]
    exact scanned.emitted_eq

/-- Values of cookies and the first values of all others are emitted. -/
theorem emitted_concat
    (scanned : tables.Scanned pairs scan)
    (pair : Str × Str) :
    emittedOf
        (InsertionDict.setItem scan.normHeaders pair.1
          (HeaderValue.add pair.1 pair.2
            (InsertionDict.get? scan.normHeaders pair.1))) =
      emittedOf scan.normHeaders +
        if pair.1 ≠ lit "set-cookie" ∧
            tables.headerValues pairs pair.1 ≠ [] then 0
        else 1 := by
  have stored :=
    InsertionDict.sum_map_setItem HeaderValue.emitted scan.normHeaders
      pair.1
      (HeaderValue.add pair.1 pair.2
        (InsertionDict.get? scan.normHeaders pair.1))
  have before :=
    emitted_collectedValues pair.1 (tables.headerValues pairs pair.1)
  have after :=
    emitted_collectedValues pair.1
      (tables.headerValues pairs pair.1 ++ [pair.2])
  rw [add_collectedValues, ← scanned.values, Option.elim_some,
    List.length_append, List.length_singleton] at after
  rw [← scanned.values] at before
  rw [before, after] at stored
  have known :
      tables.headerValues pairs pair.1 ≠ [] ↔
        0 < (tables.headerValues pairs pair.1).length :=
    List.length_pos_iff.symm
  simp only [emittedOf, known]
  by_cases isCookie : pair.1 = lit "set-cookie"
  · rw [if_pos isCookie, if_pos isCookie] at stored
    rw [if_neg fun both => both.1 isCookie]
    omega
  · rw [if_neg isCookie, if_neg isCookie] at stored
    simp only [ne_eq, isCookie, not_false_eq_true, true_and]
    split <;> omega

/-- A pair of texts is merged into what is known of its name. -/
theorem next_of_some
    (scanned : tables.Scanned pairs scan)
    {pair : PyObject}
    {raw : Str × Str}
    (wellFormed : textPair? pair = some raw) :
    tables.Scanned (pairs ++ [pair]) (tables.scanPair scan pair) := by
  have next :
      tables.scanPair scan pair =
        { normHeaders :=
            InsertionDict.setItem scan.normHeaders
              (tables.normalizedPair raw).1
              (HeaderValue.add (tables.normalizedPair raw).1
                (tables.normalizedPair raw).2
                (InsertionDict.get? scan.normHeaders
                  (tables.normalizedPair raw).1))
          headersChanged :=
            scan.headersChanged ||
              decide ((tables.normalizedPair raw).1 ≠ raw.1 ∨
                (tables.normalizedPair raw).2 ≠ raw.2)
          validPairs := scan.validPairs + 1 } := by
    rw [scanPair, wellFormed]
    rfl
  have later := tables.headerValues_concat_of_some wellFormed pairs
  have joined := tables.someJoined_concat_iff wellFormed pairs
  have rewritten := tables.someRewritten_concat_iff wellFormed pairs
  have morePairs :
      wellFormedPairs (pairs ++ [pair]) = wellFormedPairs pairs ++ [raw] := by
    simp [wellFormedPairs, wellFormed]
  have emitted := scanned.emitted_concat (tables.normalizedPair raw)
  rw [next]
  constructor
  · intro name
    rw [InsertionDict.get?_setItem, later]
    by_cases same : (tables.normalizedPair raw).1 = name
    · subst same
      rw [if_pos rfl, if_pos rfl, scanned.values, add_collectedValues]
    · rw [if_neg same, if_neg same, List.append_nil]
      exact scanned.values name
  · exact InsertionDict.nodup_keys_setItem scanned.distinct _ _
  · rw [rewritten, Bool.or_eq_true_iff, scanned.changed, decide_eq_true_iff]
    refine or_congr_right ?_
    rw [ne_eq, ne_eq, ne_eq, Prod.ext_iff, not_and_or]
  · rw [morePairs, List.length_append, scanned.validPairs]
    rfl
  · dsimp only
    rw [emitted]
    have known := scanned.emitted_le
    split <;> omega
  · have known := scanned.emitted_le
    have equal := scanned.emitted_eq
    dsimp only
    rw [emitted, joined]
    split
    · rename_i isJoined
      exact iff_of_false (by omega) fun none => none (Or.inr isJoined)
    · rename_i isNew
      rw [or_iff_left isNew, ← equal]
      omega

end Scanned

variable (tables)

/-- What the loop knows after all pairs. -/
theorem scanned_foldl (pairs : List PyObject) :
    tables.Scanned pairs
      (pairs.foldl tables.scanPair
        { normHeaders := [], headersChanged := false, validPairs := 0 }) := by
  induction pairs using List.reverseRecOn with
  | nil =>
      exact tables.scanned_nil
  | append_singleton pairs pair inductionHypothesis =>
      rw [List.foldl_append]
      cases wellFormed : textPair? pair with
      | none =>
          have unchanged :
              ∀ scan, tables.scanPair scan pair = scan := by
            intro scan
            rw [scanPair, wellFormed]
          rw [List.foldl_cons, List.foldl_nil, unchanged]
          exact inductionHypothesis.next_of_none wellFormed
      | some raw =>
          exact inductionHypothesis.next_of_some wellFormed

/-! ### The host -/

/-- The host is rewritten if there is one. -/
theorem normalizeHostHeader_eq
    {pairs : List PyObject}
    {scan : HeaderScan}
    (scanned : tables.Scanned pairs scan) :
    tables.normalizeHostHeader scan.normHeaders =
      if tables.headerValues pairs (lit "host") = [] then
        (scan.normHeaders, false)
      else
        (InsertionDict.setItem scan.normHeaders (lit "host")
            (.text (tables.normalizeHost
              (tables.joinedValues pairs (lit "host")))),
          tables.normalizeHost (tables.joinedValues pairs (lit "host")) ≠
            tables.joinedValues pairs (lit "host")) := by
  have isText : lit "host" ≠ lit "set-cookie" := by
    decide
  have host := scanned.values (lit "host")
  unfold collectedValues at host
  rw [if_neg isText] at host
  unfold normalizeHostHeader
  rw [host]
  by_cases absent : tables.headerValues pairs (lit "host") = []
  · rw [if_pos absent, if_pos absent]
  · rw [if_neg absent, if_neg absent]
    rfl

/-- What is collected is what is meant, up to the host. -/
theorem toObject_collectedValues
    (pairs : List PyObject)
    {name : Str}
    (settled :
      name ≠ lit "host" ∨ tables.headerValues pairs (lit "host") = []) :
    (collectedValues name (tables.headerValues pairs name)).map
        HeaderValue.toObject =
      tables.mergedHeader pairs (.text name) := by
  simp only [collectedValues, mergedHeader]
  by_cases absent : tables.headerValues pairs name = []
  · rw [if_pos absent, if_pos absent]
    rfl
  · have notHost : name ≠ lit "host" := by
      rcases settled with notHost | noHost
      · exact notHost
      · rintro rfl
        exact absent noHost
    rw [if_neg absent, if_neg absent]
    by_cases isCookie : name = lit "set-cookie"
    · rw [if_pos isCookie, if_pos isCookie]
      rfl
    · rw [if_neg isCookie, if_neg isCookie, if_neg notHost]
      rfl

/-- After the host was rewritten every name holds what is meant. -/
theorem get?_normalizeHostHeader
    {pairs : List PyObject}
    {scan : HeaderScan}
    (scanned : tables.Scanned pairs scan)
    (name : Str) :
    (InsertionDict.get?
        (tables.normalizeHostHeader scan.normHeaders).1 name).map
        HeaderValue.toObject =
      tables.mergedHeader pairs (.text name) := by
  rw [tables.normalizeHostHeader_eq scanned]
  by_cases absent : tables.headerValues pairs (lit "host") = []
  · rw [if_pos absent, scanned.values]
    exact tables.toObject_collectedValues pairs (Or.inr absent)
  · rw [if_neg absent, InsertionDict.get?_setItem]
    by_cases isHost : lit "host" = name
    · subst isHost
      have isText : lit "host" ≠ lit "set-cookie" := by
        decide
      rw [if_pos rfl, mergedHeader, if_neg absent, if_neg isText,
        if_pos rfl]
      rfl
    · rw [if_neg isHost, scanned.values]
      exact tables.toObject_collectedValues pairs
        (Or.inl (Ne.symm isHost))

/-- Rewriting the host emits as many values as before. -/
theorem emittedOf_normalizeHostHeader (headers : NormHeaders) :
    emittedOf (tables.normalizeHostHeader headers).1 =
      emittedOf headers := by
  unfold normalizeHostHeader
  split
  · rename_i host isText
    have stored :=
      InsertionDict.sum_map_setItem HeaderValue.emitted headers
        (lit "host") (.text (tables.normalizeHost host))
    rw [isText] at stored
    exact Nat.add_right_cancel stored
  · rfl

/-- Rewriting the host adds no header. -/
theorem nodup_normalizeHostHeader
    {headers : NormHeaders}
    (distinct : (headers.map Prod.fst).Nodup) :
    ((tables.normalizeHostHeader headers).1.map Prod.fst).Nodup := by
  unfold normalizeHostHeader
  split
  · exact InsertionDict.nodup_keys_setItem distinct _ _
  · exact distinct

/-- A host that differs from its normalised form is reported. -/
theorem normalizeHostHeader_changed_iff
    {pairs : List PyObject}
    {scan : HeaderScan}
    (scanned : tables.Scanned pairs scan) :
    (tables.normalizeHostHeader scan.normHeaders).2 = true ↔
      tables.HostRewritten pairs := by
  rw [tables.normalizeHostHeader_eq scanned, HostRewritten]
  by_cases absent : tables.headerValues pairs (lit "host") = []
  · simp [absent]
  · simp [absent]

/-! ### The view -/

/-- The loop reports exactly what changes the headers. -/
theorem normalizeHeaders_changed_iff (pairs : List PyObject) :
    (tables.normalizeHeaders pairs).2 = true ↔
      tables.SomeRewritten pairs ∨ tables.SomeJoined pairs ∨
        tables.HostRewritten pairs := by
  have scanned := tables.scanned_foldl pairs
  unfold normalizeHeaders
  generalize pairs.foldl tables.scanPair
    { normHeaders := [], headersChanged := false, validPairs := 0 } =
      scan at *
  have emitted := tables.emittedOf_normalizeHostHeader scan.normHeaders
  have joined := scanned.emitted_eq
  unfold emittedOf at emitted joined
  dsimp only
  rw [Bool.or_eq_true_iff, Bool.or_eq_true_iff, scanned.changed,
    tables.normalizeHostHeader_changed_iff scanned, decide_eq_true_iff,
    emitted, ne_eq, joined, not_not]
  tauto

/-- The headers as the view holds them. -/
def headersDict (pairs : List PyObject) : PyDict :=
  (tables.normalizeHeaders pairs).1.map fun header =>
    (.text header.1, header.2.toObject)

/-- The view holds what is meant under every key, and each key once. -/
theorem headersDict_spec (pairs : List PyObject) :
    (∀ key,
        PyDict.get? (tables.headersDict pairs) key =
          tables.mergedHeader pairs key) ∧
      ((tables.headersDict pairs).map Prod.fst).Nodup := by
  have scanned := tables.scanned_foldl pairs
  unfold headersDict normalizeHeaders
  generalize pairs.foldl tables.scanPair
    { normHeaders := [], headersChanged := false, validPairs := 0 } =
      scan at *
  dsimp only
  have injective : Function.Injective PyKey.text := by
    intro first second same
    injection same
  constructor
  · intro key
    cases key with
    | text name =>
        rw [PyDict.get?, InsertionDict.get?_map injective]
        exact tables.get?_normalizeHostHeader scanned name
    | other identity description =>
        apply InsertionDict.get?_eq_none_iff.mpr
        simp
  · have distinct := tables.nodup_normalizeHostHeader scanned.distinct
    have texts := distinct.map injective
    rw [List.map_map] at texts ⊢
    exact texts

/-- Of the views only that of the headers is reported as such. -/
theorem headers_mem_report_iff
    {appProtocol : PyObject}
    {lookup : PyKey → Option PyObject} :
    Change.headers ∈ (tables.fieldViews appProtocol).flatMap
        (fun view => view.report lookup) ↔
      Change.headers ∈ tables.headersView.report lookup := by
  have label :
      ∀ view ∈ tables.fieldViews appProtocol,
        view = tables.headersView ∨ view.label ≠ Change.headers := by
    unfold fieldViews
    split
    · simp [hostView, queriesView, answersView, recordsView, pathView]
    · simp [hostView, pathView]
  have isView : tables.headersView ∈ tables.fieldViews appProtocol := by
    simp [fieldViews]
  rw [List.mem_flatMap]
  constructor
  · rintro ⟨view, member, reported⟩
    rcases label view member with rfl | other
    · exact reported
    · unfold DerivedViews.View.report at reported
      split at reported
      · exact (other (List.mem_singleton.mp reported).symm).elim
      · exact (List.not_mem_nil reported).elim
  · intro reported
    exact ⟨tables.headersView, isView, reported⟩

/-- The view of the headers, wherever the pairs are a list. -/
theorem headersView_compute
    {lookup : PyKey → Option PyObject}
    {pairs : List PyObject}
    (given : lookup (fieldKey "header_pairs") = some (.list pairs)) :
    tables.headersView.compute lookup =
      some (.dict (tables.headersDict pairs),
        (tables.normalizeHeaders pairs).2) := by
  simp only [headersView, given]
  rfl

/-- The view is reported if the loop finds a change. -/
theorem headers_mem_headersView_iff
    {lookup : PyKey → Option PyObject}
    {pairs : List PyObject}
    (given : lookup (fieldKey "header_pairs") = some (.list pairs)) :
    Change.headers ∈ tables.headersView.report lookup ↔
      (tables.normalizeHeaders pairs).2 = true := by
  rw [DerivedViews.View.report, tables.headersView_compute given]
  cases (tables.normalizeHeaders pairs).2 with
  | false =>
      simp
  | true =>
      simp [headersView]

/--
For every list of header pairs `normalize` stores the merged headers, and it
reports them exactly if a pair was rewritten, two pairs were joined, or the
host was rewritten.
-/
theorem normalize_headers
    (event : RawEvent)
    (appFields : PyDict)
    (pairs : List PyObject)
    (isDict : event.appFields = .dict appFields)
    (given :
      appFields.get? (fieldKey "header_pairs") = some (.list pairs)) :
    ∃ viewed headers : PyDict,
      (tables.normalize event).1.appFields = .dict viewed ∧
        viewed.get? (fieldKey "headers_normalized") =
          some (.dict headers) ∧
        (∀ key, headers.get? key = tables.mergedHeader pairs key) ∧
        (headers.map Prod.fst).Nodup ∧
        (Change.headers ∈ (tables.normalize event).2 ↔
          tables.SomeRewritten pairs ∨ tables.SomeJoined pairs ∨
            tables.HostRewritten pairs) := by
  generalize protocol :
    (tables.normalizeProtocol event.appProtocol).1 = appProtocol
  obtain ⟨stored, independent, distinct⟩ :=
    tables.fieldViews_wellFormed appProtocol
  have isView : tables.headersView ∈ tables.fieldViews appProtocol := by
    simp [fieldViews]
  have computed := tables.headersView_compute given
  have agree := DerivedViews.applyAll_agree stored appFields
  have found :=
    DerivedViews.isStored_applyAll stored independent distinct appFields
      tables.headersView isView _
      ((independent _ isView _ _ agree).trans computed)
  obtain ⟨spec, nodup⟩ := tables.headersDict_spec pairs
  refine ⟨(DerivedViews.applyAll (tables.fieldViews appProtocol)
    appFields).1, tables.headersDict pairs, ?_, found, spec, nodup, ?_⟩
  · simp only [normalize, protocol, isDict, normalizeAppFields]
  · obtain ⟨inPlace, noViews, changes⟩ := tables.normalize_changes event
    have report :
        (DerivedViews.applyAll (tables.fieldViews appProtocol)
            appFields).2 =
          (tables.fieldViews appProtocol).flatMap
            fun view => view.report (InsertionDict.get? appFields) :=
      DerivedViews.applyAll_report stored independent appFields
    have notInPlace : Change.headers ∉ inPlace := by
      intro member
      cases noViews _ member
    rw [changes, Change.mem_sortedSet, List.mem_append,
      or_iff_right notInPlace, protocol, isDict]
    simp only [normalizeAppFields, report]
    exact tables.headers_mem_report_iff.trans
      ((tables.headers_mem_headersView_iff given).trans
        (tables.normalizeHeaders_changed_iff pairs))

/-- Headers in mixed case, with cookies and elements that are no pairs. -/
def oddHeaders : List PyObject :=
  [.tuple [.str (lit "Host"), .str (lit " Example.COM. ")],
    .list [.str (lit "Accept")],
    .list [.str (lit "Accept"), .str (lit "a")],
    .tuple [.str (lit "set-cookie"), .str (lit "x=1")],
    .int 3,
    .list [.str (lit "ACCEPT"), .str (lit "b")],
    .tuple [.str (lit "Set-Cookie"), .str (lit "y=2")]]

/-- A response with these headers. -/
def oddHttpResponse : RawEvent :=
  { oddResponse with
    appProtocol := .str (lit "HTTP")
    appFields := .dict [(fieldKey "header_pairs", .list oddHeaders)] }

/-- The headers are merged, and they are reported. -/
theorem oddHttpResponse_merged :
    ofIpv4.headerValues oddHeaders (lit "set-cookie") =
        [lit "x=1", lit "y=2"] ∧
      ofIpv4.joinedValues oddHeaders (lit "accept") = lit "a, b" ∧
      ∃ viewed headers : PyDict,
        (ofIpv4.normalize oddHttpResponse).1.appFields = .dict viewed ∧
          viewed.get? (fieldKey "headers_normalized") =
            some (.dict headers) ∧
          (∀ key, headers.get? key = ofIpv4.mergedHeader oddHeaders key) ∧
          (headers.map Prod.fst).Nodup ∧
          (Change.headers ∈ (ofIpv4.normalize oddHttpResponse).2 ↔
            ofIpv4.SomeRewritten oddHeaders ∨
              ofIpv4.SomeJoined oddHeaders ∨
              ofIpv4.HostRewritten oddHeaders) :=
  ⟨by decide, by decide,
    ofIpv4.normalize_headers oddHttpResponse _ oddHeaders rfl rfl⟩

end NormalizerTables

end IntrusionDetection
