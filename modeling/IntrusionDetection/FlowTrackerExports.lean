import IntrusionDetection.FlowTracker

namespace IntrusionDetection

open PyText

/-!
# How flows leave the table

All five ways out of the table end in `exportFlow`, which rebuilds the key from
the endpoints of the flow it is given.  As long as every entry is stored under
the key of its own flow, an export is one `handOver`: the entry goes and the
callback is called once.  `Exports` is a sequence of such hand-overs, each with
a reason that fits the state of its flow, and every operation of the tracker
that exports anything is shown to be one.
-/

namespace FlowTracker

variable {setup : TrackerSetup}

/-- Every entry is stored under the key rebuilt from its own flow. -/
def Consistent (tracker : FlowTracker) : Prop :=
  ∀ key entry,
    tracker.table.get? key = some entry →
    entry.flow.key = key

/-- The calls a hand-over adds to those already made to the callback. -/
def callsOf
    (setup : TrackerSetup)
    (entry : FlowEntry)
    (reason : CloseReason) :
    List (Nat × Flow) :=
  match setup.onExport with
  | none => []
  | some _ => [(entry.serial, entry.flow.closeWith reason)]

/-- One if the callback raises on a hand-over. -/
def failuresOf
    (setup : TrackerSetup)
    (tracker : FlowTracker)
    (entry : FlowEntry)
    (reason : CloseReason) :
    Nat :=
  match setup.onExport with
  | none => 0
  | some callback =>
      match callback (tracker.handed.map Prod.snd)
          (entry.flow.closeWith reason) with
      | .ok () => 0
      | .error _ => 1

/-- The effect of exporting a live entry. -/
def handOver
    (setup : TrackerSetup)
    (tracker : FlowTracker)
    (entry : FlowEntry)
    (reason : CloseReason) :
    FlowTracker :=
  { tracker with
    table := tracker.table.remove entry.flow.key
    handed := tracker.handed ++ callsOf setup entry reason
    exportFailures :=
      tracker.exportFailures + failuresOf setup tracker entry reason }

section HandOver

variable (tracker : FlowTracker) (entry : FlowEntry) (reason : CloseReason)

@[simp] theorem table_handOver :
    (tracker.handOver setup entry reason).table =
      tracker.table.remove entry.flow.key :=
  rfl

@[simp] theorem clock_handOver :
    (tracker.handOver setup entry reason).clock = tracker.clock :=
  rfl

@[simp] theorem lastSweep_handOver :
    (tracker.handOver setup entry reason).lastSweep =
      tracker.lastSweep :=
  rfl

@[simp] theorem created_handOver :
    (tracker.handOver setup entry reason).created = tracker.created :=
  rfl

@[simp] theorem handed_handOver :
    (tracker.handOver setup entry reason).handed =
      tracker.handed ++ callsOf setup entry reason :=
  rfl

/-- Exporting an entry that is live under its own key hands it over. -/
theorem exportFlow_of_live
    (live : tracker.table.get? entry.flow.key = some entry) :
    tracker.exportFlow setup entry reason =
      tracker.handOver setup entry reason := by
  simp only [exportFlow, live, handOver, callsOf, failuresOf]
  cases setup.onExport with
  | none =>
      simp
  | some callback =>
      cases result : callback (tracker.handed.map Prod.snd)
          (entry.flow.closeWith reason) <;>
        simp [result]

end HandOver

/-- A sequence of hand-overs of live entries, with fitting reasons. -/
inductive Exports (setup : TrackerSetup) :
    FlowTracker → FlowTracker → Prop where
  | nil (tracker : FlowTracker) :
      Exports setup tracker tracker
  | cons
      {tracker final : FlowTracker}
      (entry : FlowEntry)
      (reason : CloseReason)
      (live : tracker.table.get? entry.flow.key = some entry)
      (fits : reason.Fits entry.flow.state)
      (later :
        Exports setup (tracker.handOver setup entry reason) final) :
      Exports setup tracker final

namespace Exports

variable {tracker middle final : FlowTracker}

variable (setup) in
/-- One hand-over is a sequence of exports. -/
theorem single
    {entry : FlowEntry}
    {reason : CloseReason}
    (live : tracker.table.get? entry.flow.key = some entry)
    (fits : reason.Fits entry.flow.state) :
    Exports setup tracker (tracker.handOver setup entry reason) :=
  .cons entry reason live fits (.nil _)

/-- Concatenate two sequences of exports. -/
theorem append
    (first : Exports setup tracker middle)
    (later : Exports setup middle final) :
    Exports setup tracker final := by
  induction first with
  | nil tracker =>
      exact later
  | cons entry reason live fits _ inductionHypothesis =>
      exact .cons entry reason live fits (inductionHypothesis later)

/-- Exports do not move the clock. -/
theorem clock_eq (exports : Exports setup tracker final) :
    final.clock = tracker.clock := by
  induction exports with
  | nil tracker => rfl
  | cons entry reason live fits _ inductionHypothesis =>
      simpa using inductionHypothesis

/-- Exports do not touch the time of the last sweep. -/
theorem lastSweep_eq (exports : Exports setup tracker final) :
    final.lastSweep = tracker.lastSweep := by
  induction exports with
  | nil tracker => rfl
  | cons entry reason live fits _ inductionHypothesis =>
      simpa using inductionHypothesis

/-- Exports create no flow. -/
theorem created_eq (exports : Exports setup tracker final) :
    final.created = tracker.created := by
  induction exports with
  | nil tracker => rfl
  | cons entry reason live fits _ inductionHypothesis =>
      simpa using inductionHypothesis

/-- What is live after some exports was live before them. -/
theorem live_before
    (exports : Exports setup tracker final)
    {key : FlowKey}
    {entry : FlowEntry}
    (live : final.table.get? key = some entry) :
    tracker.table.get? key = some entry := by
  induction exports with
  | nil tracker =>
      exact live
  | cons exported reason _ _ _ inductionHypothesis =>
      have before := inductionHypothesis live
      by_cases same : key = exported.flow.key
      · subst same
        simp at before
      · rw [table_handOver,
          OrderedDict.get?_remove_other _ same] at before
        exact before

/-- Exports keep every entry under its own key. -/
theorem consistent
    (exports : Exports setup tracker final)
    (before : tracker.Consistent) :
    final.Consistent :=
  fun key entry live => before key entry (exports.live_before live)

end Exports

/-! ### The operations that export -/

/-- The defensive removal never happens to a live entry. -/
theorem exportOrDrop_of_live
    {tracker : FlowTracker}
    {entry : FlowEntry}
    (reason : CloseReason)
    (live : tracker.table.get? entry.flow.key = some entry) :
    tracker.exportOrDrop setup entry.flow.key entry reason =
      tracker.handOver setup entry reason := by
  have shrinks := OrderedDict.size_remove_of_get? live
  simp only [exportOrDrop, exportFlow_of_live tracker entry reason live,
    table_handOver]
  rw [if_neg (by omega)]

variable (setup) in
/--
Exporting a list of live entries of distinct keys hands every one of them over
and leaves the entries of the other keys.
-/
theorem exportAll_exports
    {tracker : FlowTracker}
    {collected : List (FlowEntry × CloseReason)}
    (live :
      ∀ item ∈ collected,
        tracker.table.get? item.1.flow.key = some item.1)
    (fits :
      ∀ item ∈ collected, item.2.Fits item.1.flow.state)
    (distinct :
      (collected.map fun item => item.1.flow.key).Nodup) :
    Exports setup tracker (tracker.exportAll setup collected) ∧
      (tracker.exportAll setup collected).table =
        tracker.table.removeAll
          (collected.map fun item => item.1.flow.key) := by
  induction collected generalizing tracker with
  | nil =>
      exact ⟨.nil tracker, rfl⟩
  | cons item rest inductionHypothesis =>
      obtain ⟨entry, reason⟩ := item
      simp only [List.map_cons, List.nodup_cons] at distinct
      have headLive := live (entry, reason) (by simp)
      have headFits := fits (entry, reason) (by simp)
      have restLive :
          ∀ item ∈ rest,
            (tracker.handOver setup entry reason).table.get?
              item.1.flow.key = some item.1 := by
        intro item member
        have different : item.1.flow.key ≠ entry.flow.key := by
          intro same
          exact distinct.1 (List.mem_map.mpr ⟨item, member, same⟩)
        rw [table_handOver,
          OrderedDict.get?_remove_other _ different]
        exact live item (by simp [member])
      have later := inductionHypothesis restLive
        (fun item member => fits item (by simp [member])) distinct.2
      have unfolded :
          tracker.exportAll setup ((entry, reason) :: rest) =
            (tracker.handOver setup entry reason).exportAll setup rest := by
        simp only [exportAll, List.foldl_cons]
        rw [exportFlow_of_live tracker entry reason headLive]
      rw [unfolded]
      exact ⟨.cons entry reason headLive headFits later.1, later.2⟩

/-- Every live entry is one of the stored values. -/
theorem mem_values_of_live
    {tracker : FlowTracker}
    {key : FlowKey}
    {entry : FlowEntry}
    (live : tracker.table.get? key = some entry) :
    entry ∈ tracker.table.values :=
  List.mem_map.mpr
    ⟨(key, entry), OrderedDict.get?_eq_some_iff.mp live, rfl⟩

section Collected

variable {tracker : FlowTracker} (consistent : tracker.Consistent)

include consistent

/-- The keys of the stored values, read from the flows themselves. -/
theorem keys_values :
    (tracker.table.values.map fun entry => entry.flow.key) =
      tracker.table.items.map Prod.fst := by
  simp only [OrderedDict.values, List.map_map]
  apply List.map_congr_left
  rintro ⟨key, entry⟩ member
  exact consistent key entry (OrderedDict.get?_eq_some_iff.mpr member)

/-- Every stored value is live under its own key. -/
theorem live_of_mem_values
    {entry : FlowEntry}
    (member : entry ∈ tracker.table.values) :
    tracker.table.get? entry.flow.key = some entry := by
  simp only [OrderedDict.values, List.mem_map] at member
  obtain ⟨⟨key, stored⟩, itemMember, same⟩ := member
  simp only at same
  subst same
  have live := OrderedDict.get?_eq_some_iff.mpr itemMember
  rw [consistent key stored live]
  exact live

variable (setup) in
/-- Exporting a selection of the stored entries. -/
theorem exportSelected
    (selected : FlowEntry → Bool)
    (reason : FlowEntry → CloseReason)
    (fits : ∀ entry, selected entry → (reason entry).Fits entry.flow.state) :
    let collected :=
      (tracker.table.values.filter selected).map
        fun entry => (entry, reason entry)
    Exports setup tracker (tracker.exportAll setup collected) ∧
      ∀ key,
        (tracker.exportAll setup collected).table.get? key =
          (tracker.table.get? key).filter
            fun entry => !selected entry := by
  intro collected
  have keysOfCollected :
      (collected.map fun item => item.1.flow.key) =
        (tracker.table.values.filter selected).map
          fun entry => entry.flow.key := by
    simp [collected, Function.comp_def]
  have distinct :
      (collected.map fun item => item.1.flow.key).Nodup := by
    rw [keysOfCollected]
    have keysNodup := tracker.table.keysNodup
    rw [← keys_values consistent] at keysNodup
    exact (List.filter_sublist.map _).nodup keysNodup
  have live :
      ∀ item ∈ collected,
        tracker.table.get? item.1.flow.key = some item.1 := by
    intro item member
    simp only [collected, List.mem_map, List.mem_filter] at member
    obtain ⟨entry, ⟨stored, _⟩, rfl⟩ := member
    exact live_of_mem_values consistent stored
  have reasonsFit :
      ∀ item ∈ collected, item.2.Fits item.1.flow.state := by
    intro item member
    simp only [collected, List.mem_map, List.mem_filter] at member
    obtain ⟨entry, ⟨_, isSelected⟩, rfl⟩ := member
    exact fits entry isSelected
  obtain ⟨exports, tableAfter⟩ :=
    exportAll_exports setup live reasonsFit distinct
  refine ⟨exports, fun key => ?_⟩
  rw [tableAfter, keysOfCollected]
  ext entry
  rw [OrderedDict.get?_eq_some_iff, OrderedDict.items_removeAll,
    List.mem_filter, ← OrderedDict.get?_eq_some_iff,
    Option.filter_eq_some_iff]
  refine and_congr_right fun stored => ?_
  have ownKey := consistent key entry stored
  simp only [List.mem_map, List.mem_filter, decide_eq_true_eq,
    Bool.not_eq_eq_eq_not, Bool.not_true, not_exists, not_and, and_imp]
  constructor
  · intro notExported
    by_contra isSelected
    exact notExported entry (mem_values_of_live stored)
      (by simpa using isSelected) ownKey
  · intro notSelected other _ otherSelected sameKey
    have otherLive := live_of_mem_values consistent ‹_›
    rw [sameKey, stored] at otherLive
    cases otherLive
    simp [otherSelected] at notSelected

end Collected

/-! ### Sweep -/

variable (setup) in
/-- A sweep exports exactly the entries expired at its evaluation time. -/
theorem sweep_exports
    {tracker : FlowTracker}
    (consistent : tracker.Consistent)
    (now : Option Time) :
    ∃ swept,
      Exports setup tracker swept ∧
        tracker.sweep setup now =
          { swept with
            lastSweep :=
              some (min (now.getD tracker.clock) tracker.clock) } ∧
        ∀ key,
          swept.table.get? key =
            (tracker.table.get? key).filter fun entry =>
              !isExpired entry (now.getD tracker.clock) setup.cfg := by
  have exported :=
    exportSelected setup consistent
      (isExpired · (now.getD tracker.clock) setup.cfg)
      getCloseReason
      (fun entry _ => getCloseReason_fits entry)
  refine ⟨_, exported.1, ?_, exported.2⟩
  simp only [sweep]
  rw [exported.1.clock_eq]

/-! ### Flush -/

/-- The reason `flush` gives fits the state of the flow. -/
theorem flushReason_fits (entry : FlowEntry) :
    (flushReason entry).Fits entry.flow.state := by
  simp only [flushReason]
  split <;> rename_i terminal
  · exact getCloseReason_fits entry
  · simpa [CloseReason.Fits] using terminal

/-- Without its defensive removal, `flush` exports the stored values. -/
theorem flush_eq_exportAll
    {tracker : FlowTracker}
    (consistent : tracker.Consistent) :
    tracker.flush setup =
      tracker.exportAll setup
        (tracker.table.values.map
          fun entry => (entry, flushReason entry)) := by
  have live :
      ∀ item ∈ tracker.table.items,
        item.2.flow.key = item.1 ∧
          tracker.table.get? item.1 = some item.2 := by
    rintro ⟨key, entry⟩ member
    have found := OrderedDict.get?_eq_some_iff.mpr member
    exact ⟨consistent key entry found, found⟩
  have distinct := tracker.table.keysNodup
  simp only [flush, exportAll, OrderedDict.values, List.map_map,
    List.foldl_map, Function.comp_def]
  generalize tracker.table.items = items at live distinct
  induction items generalizing tracker with
  | nil =>
      rfl
  | cons item rest inductionHypothesis =>
      obtain ⟨key, entry⟩ := item
      obtain ⟨ownKey, found⟩ := live (key, entry) (by simp)
      simp only at ownKey found
      subst ownKey
      simp only [List.map_cons, List.nodup_cons] at distinct
      simp only [List.foldl_cons]
      rw [exportOrDrop_of_live (flushReason entry) found,
        exportFlow_of_live tracker entry (flushReason entry) found]
      have handedConsistent :=
        (Exports.single setup found
          (flushReason_fits entry)).consistent consistent
      refine inductionHypothesis handedConsistent ?_ distinct.2
      intro later member
      obtain ⟨laterKey, laterFound⟩ := live later (by simp [member])
      have different : later.1 ≠ entry.flow.key := by
        intro same
        exact distinct.1 (List.mem_map.mpr ⟨later, member, same⟩)
      refine ⟨laterKey, ?_⟩
      rw [table_handOver, OrderedDict.get?_remove_other _ different]
      exact laterFound

variable (setup) in
/-- A flush exports every entry and leaves the table empty. -/
theorem flush_exports
    {tracker : FlowTracker}
    (consistent : tracker.Consistent) :
    Exports setup tracker (tracker.flush setup) ∧
      ∀ key, (tracker.flush setup).table.get? key = none := by
  have exported :=
    exportSelected setup consistent
      (fun _ => true) flushReason
      (fun entry _ => flushReason_fits entry)
  rw [flush_eq_exportAll consistent]
  simp only [List.filter_true] at exported
  refine ⟨exported.1, fun key => ?_⟩
  rw [exported.2 key]
  simp

/-! ### Stale entries and eviction -/

variable (setup) in
/-- The three outcomes of looking up the entry of a packet. -/
theorem releaseStale_cases
    {tracker : FlowTracker}
    (consistent : tracker.Consistent)
    (packet : TrackedPacket)
    (flags : List Str) :
    (tracker.table.get? packet.key = none ∧
        tracker.releaseStale setup packet flags = (tracker, none)) ∨
      (∃ entry reason,
        tracker.table.get? packet.key = some entry ∧
          entry.flow.key = packet.key ∧
          reason.Fits entry.flow.state ∧
          (isExpired entry packet.ts setup.cfg = true ∨
            isPortReuse entry packet flags = true) ∧
          reason ≠ .evicted ∧
          tracker.releaseStale setup packet flags =
            (tracker.handOver setup entry reason, none)) ∨
      (∃ entry,
        tracker.table.get? packet.key = some entry ∧
          isExpired entry packet.ts setup.cfg = false ∧
          isPortReuse entry packet flags = false ∧
          tracker.releaseStale setup packet flags =
            (tracker, some entry)) := by
  simp only [releaseStale]
  cases found : tracker.table.get? packet.key with
  | none =>
      exact Or.inl ⟨rfl, rfl⟩
  | some entry =>
      have ownKey := consistent _ _ found
      have live : tracker.table.get? entry.flow.key = some entry := by
        rw [ownKey]
        exact found
      refine Or.inr ?_
      cases expired : isExpired entry packet.ts setup.cfg with
      | true =>
          refine Or.inl ⟨entry, getCloseReason entry, rfl, ownKey,
            getCloseReason_fits entry, Or.inl expired, ?_, ?_⟩
          · cases state : entry.flow.state <;>
              simp [getCloseReason, state]
          · simp [expired, exportFlow_of_live tracker entry _ live]
      | false =>
          cases reuse : isPortReuse entry packet flags with
          | true =>
              refine Or.inl ⟨entry, .portReuse, rfl, ownKey, ?_,
                Or.inr reuse, by simp, ?_⟩
              · simp only [isPortReuse, decide_eq_true_eq] at reuse
                exact reuse.2.2.2
              · simp [expired, reuse,
                  exportFlow_of_live tracker entry _ live]
          | false =>
              exact Or.inr
                ⟨entry, rfl, expired, reuse, by simp [expired, reuse]⟩

variable (setup) in
/-- Making room only exports. -/
theorem evictOldest_exports
    (rounds : Nat)
    {tracker : FlowTracker}
    (consistent : tracker.Consistent) :
    Exports setup tracker (evictOldest setup rounds tracker) := by
  induction rounds generalizing tracker with
  | zero =>
      exact .nil tracker
  | succ rounds inductionHypothesis =>
      simp only [evictOldest]
      split
      · cases oldest : tracker.table.oldest? with
        | none =>
            exact .nil tracker
        | some item =>
            obtain ⟨key, entry⟩ := item
            have found := OrderedDict.get?_of_oldest? oldest
            have ownKey := consistent _ _ found
            subst ownKey
            simp only [exportOrDrop_of_live .evicted found]
            have evicted :
                Exports setup tracker
                  (tracker.handOver setup entry .evicted) :=
              .single setup found trivial
            exact evicted.append
              (inductionHypothesis (evicted.consistent consistent))
      · exact .nil tracker

variable (setup) in
/-- Making room only exports. -/
theorem makeRoom_exports
    {tracker : FlowTracker}
    (consistent : tracker.Consistent) :
    Exports setup tracker (tracker.makeRoom setup) :=
  evictOldest_exports setup _ consistent

/-- A table below its capacity needs no room. -/
theorem makeRoom_of_lt
    {tracker : FlowTracker}
    (below : tracker.table.size < setup.cfg.getMaxActiveFlows) :
    tracker.makeRoom setup = tracker := by
  simp only [makeRoom]
  cases tracker.table.size with
  | zero => rfl
  | succ size =>
      simp only [evictOldest]
      rw [if_neg (by omega)]

end FlowTracker

end IntrusionDetection
