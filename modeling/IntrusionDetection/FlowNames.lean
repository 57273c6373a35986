import IntrusionDetection.FlowConservation

namespace IntrusionDetection

open PyText

/-!
# Flows by their identifiers

An identifier that was written on an event is the identifier of a flow, live or
handed over.  Grouped by their identifiers, the exported flows therefore count
what the tracked events with that identifier are worth, even where two flows
share one.
-/

namespace FlowTracker

/-- A flow with this serial and identifier is live, or was handed over. -/
def HasName
    (tracker : FlowTracker)
    (serial : Nat)
    (flowId : Str) :
    Prop :=
  (∃ call ∈ tracker.handed, call.1 = serial ∧ call.2.flowId = flowId) ∨
    ∃ key entry,
      tracker.table.get? key = some entry ∧
        entry.serial = serial ∧ entry.flow.flowId = flowId

/-- The names of one tracker are names of another. -/
def KeepsNames (before after : FlowTracker) : Prop :=
  ∀ serial flowId,
    before.HasName serial flowId → after.HasName serial flowId

/-- The events of a run are named, and every flow has an event. -/
structure Named
    (tracker : FlowTracker)
    (tracked : List TrackedEvent) :
    Prop where
  named :
    ∀ item ∈ tracked,
      tracker.HasName item.attachment.serial item.attachment.flowId
  covered :
    ∀ serial < tracker.created,
      ∃ item ∈ tracked, item.attachment.serial = serial

/-! ### Stored entries -/

/-- A stored entry that replaces none, or one of its name, keeps the names. -/
theorem keepsNames_store
    {tracker : FlowTracker}
    {key : FlowKey}
    {entry : FlowEntry}
    (replaces :
      ∀ old,
        tracker.table.get? key = some old →
          entry.serial = old.serial ∧
            entry.flow.flowId = old.flow.flowId) :
    tracker.KeepsNames (tracker.store key entry) := by
  rintro serial flowId (handed | ⟨other, live, isLive, isSerial, isName⟩)
  · exact Or.inl handed
  · right
    by_cases same : other = key
    · subst same
      obtain ⟨sameSerial, sameName⟩ := replaces live isLive
      refine ⟨other, entry, ?_, sameSerial.trans isSerial,
        sameName.trans isName⟩
      exact OrderedDict.get?_insertLast_same _ _ _
    · refine ⟨other, live, ?_, isSerial, isName⟩
      rw [store, OrderedDict.get?_insertLast_other _ same]
      exact isLive

/-- The stored entry has a name. -/
theorem hasName_store
    (tracker : FlowTracker)
    (key : FlowKey)
    (entry : FlowEntry) :
    (tracker.store key entry).HasName entry.serial entry.flow.flowId :=
  Or.inr ⟨key, entry, OrderedDict.get?_insertLast_same _ _ _, rfl, rfl⟩

/-! ### Grouping by identifiers -/

/-- What some events are worth is what their groups are worth together. -/
theorem tallyOf_eq_sum_groups
    {serials : List Nat}
    (distinct : serials.Nodup)
    {tracked : List TrackedEvent}
    (covers : ∀ item ∈ tracked, item.attachment.serial ∈ serials)
    (counter : Counter) :
    (serials.map fun serial =>
      tallyOf (attachedTo tracked serial) counter).sum =
        tallyOf tracked counter := by
  induction tracked with
  | nil =>
      simp [attachedTo]
  | cons item rest inductionHypothesis =>
      rw [List.forall_mem_cons] at covers
      have later := inductionHypothesis covers.2
      have split :
          ∀ serial,
            tallyOf (attachedTo (item :: rest) serial) counter =
              (if item.attachment.serial = serial then
                item.event.tally counter else 0) +
                tallyOf (attachedTo rest serial) counter := by
        intro serial
        by_cases same : item.attachment.serial = serial
        · simp [attachedTo, same, tallyOf]
        · simp [attachedTo, same]
      have once :
          (serials.map fun serial =>
            if item.attachment.serial = serial then
              item.event.tally counter else 0).sum =
            item.event.tally counter := by
        rw [List.sum_map_eq_nsmul_single item.attachment.serial _
          (fun serial differs _ => if_neg (Ne.symm differs)),
          List.count_eq_one_of_mem distinct covers.1, if_pos rfl, one_nsmul]
      have whole :
          tallyOf (item :: rest) counter =
            item.event.tally counter + tallyOf rest counter :=
        rfl
      rw [List.map_congr_left fun serial _ => split serial,
        List.sum_map_add, once, later, whole]

/-- What the flows of a group of calls have counted, and the others not. -/
theorem sum_filter_calls
    (calls : List (Nat × Flow))
    (chosen : Nat × Flow → Bool)
    (worth : Nat × Flow → Nat) :
    ((calls.filter chosen).map worth).sum =
      (calls.map fun call => if chosen call then worth call else 0).sum := by
  induction calls with
  | nil =>
      rfl
  | cons call rest inductionHypothesis =>
      by_cases isChosen : chosen call = true
      · rw [List.filter_cons_of_pos isChosen, List.map_cons, List.map_cons,
          List.sum_cons, List.sum_cons, inductionHypothesis,
          if_pos isChosen]
      · rw [List.filter_cons_of_neg isChosen, List.map_cons, List.sum_cons,
          inductionHypothesis, if_neg isChosen, Nat.zero_add]

/-! ### What keeps the names -/

section Callback

variable {setup : TrackerSetup}
variable {callback : List Flow → Flow → Except PyException Unit}
variable (hasCallback : setup.onExport = some callback)

include hasCallback

/-- A flow that is handed over keeps its name. -/
theorem keepsNames_handOver
    {tracker : FlowTracker}
    {entry : FlowEntry}
    (reason : CloseReason)
    (live : tracker.table.get? entry.flow.key = some entry) :
    tracker.KeepsNames (tracker.handOver setup entry reason) := by
  have handed :
      (tracker.handOver setup entry reason).handed =
        tracker.handed ++ [(entry.serial, entry.flow.closeWith reason)] := by
    rw [handed_handOver, callsOf, hasCallback]
  rintro serial flowId (⟨call, member, isCall⟩ |
    ⟨key, other, isLive, isSerial, isName⟩)
  · refine Or.inl ⟨call, ?_, isCall⟩
    rw [handed]
    exact List.mem_append_left _ member
  · by_cases same : key = entry.flow.key
    · subst same
      rw [live] at isLive
      cases isLive
      refine Or.inl ⟨(entry.serial, entry.flow.closeWith reason), ?_,
        isSerial, isName⟩
      rw [handed]
      exact List.mem_append_right _ (List.mem_singleton.mpr rfl)
    · refine Or.inr ⟨key, other, ?_, isSerial, isName⟩
      rw [table_handOver, OrderedDict.get?_remove_other _ same]
      exact isLive

/-- Exported flows keep their names. -/
theorem Exports.keepsNames
    {tracker final : FlowTracker}
    (exports : Exports setup tracker final) :
    tracker.KeepsNames final := by
  induction exports with
  | nil tracker =>
      exact fun _ _ hasName => hasName
  | cons entry reason live fits _ inductionHypothesis =>
      intro serial flowId hasName
      exact inductionHypothesis serial flowId
        (keepsNames_handOver hasCallback reason live serial flowId hasName)

/-- The end of an update keeps the names. -/
theorem keepsNames_finishUpdate
    {tracker : FlowTracker}
    (consistent : tracker.Consistent)
    (raised : Option PyException) :
    tracker.KeepsNames (tracker.finishUpdate setup raised) := by
  obtain ⟨swept, _, exports, result⟩ :=
    finishUpdate_exports setup consistent raised
  rw [result]
  intro serial flowId hasName
  exact exports.keepsNames hasCallback serial flowId hasName

/-- Recording a packet where it is attached keeps the names. -/
theorem Attached.keepsNames
    {observed attached : FlowTracker}
    {packet : TrackedPacket}
    {flags : List Str}
    {entry : FlowEntry}
    (attaching : Attached setup observed packet flags attached entry)
    (consistent : observed.Consistent)
    (event : EventView) :
    observed.KeepsNames
      (attached.store packet.key
        (recordPacket setup.cfg entry packet event)) := by
  rcases attaching.exports consistent with
    ⟨same, live⟩ | ⟨roomy, _, exports, absent, same, _⟩
  · subst same
    apply keepsNames_store
    intro old isOld
    rw [live] at isOld
    cases isOld
    exact ⟨recordPacket_serial _ _ _ _, recordPacket_flowId _ _ _ _⟩
  · subst same
    intro serial flowId hasName
    refine @keepsNames_store roomy.countCreated packet.key
      (recordPacket setup.cfg entry packet event) ?_ serial flowId
      (exports.keepsNames hasCallback serial flowId hasName)
    intro old isOld
    have live : roomy.table.get? packet.key = some old := isOld
    rw [absent] at live
    cases live

/-- A tracked packet keeps the names, and adds the one of its place. -/
theorem keepsNames_track
    {tracker : FlowTracker}
    (consistent : tracker.Consistent)
    (packet : TrackedPacket)
    (event : EventView) :
    tracker.KeepsNames (tracker.track setup packet event).1 ∧
      ∀ attachment,
        (tracker.track setup packet event).2.attachment =
            some attachment →
          (tracker.track setup packet event).1.HasName
            attachment.serial attachment.flowId := by
  have observed := consistent.observe packet.ts
  rcases track_cases setup consistent packet event with
    ⟨left, _, exports, result⟩ | ⟨attached, entry, attaching, result⟩
  · rw [result]
    refine ⟨exports.keepsNames hasCallback, ?_⟩
    intro attachment placed
    cases placed
  · have finished :=
      keepsNames_finishUpdate hasCallback
        (attaching.store_consistent observed event) event.appFault
    have storing := attaching.keepsNames hasCallback observed event
    rw [result]
    constructor
    · intro serial flowId hasName
      exact finished serial flowId (storing serial flowId hasName)
    · intro attachment placed
      cases placed
      exact finished _ _ (hasName_store attached packet.key
        (recordPacket setup.cfg entry packet event))

/-- Exports keep the events named and the flows covered. -/
theorem Named.exports
    {tracker exported : FlowTracker}
    {tracked : List TrackedEvent}
    (before : tracker.Named tracked)
    (exports : Exports setup tracker exported) :
    exported.Named tracked where
  named := fun item member =>
    exports.keepsNames hasCallback _ _ (before.named item member)
  covered := by
    rw [exports.created_eq]
    exact before.covered

/-- Every call keeps the events named and the flows covered. -/
theorem Named.serve
    {tracker : FlowTracker}
    {outputs : List (Option TrackedEvent)}
    (before : tracker.Named (outputs.filterMap id))
    (consistent : tracker.Consistent)
    (call : TrackerCall) :
    (tracker.serve setup call).1.Named
      ((outputs ++ [(tracker.serve setup call).2]).filterMap id) := by
  have nothingNew :
      (outputs ++ [none]).filterMap id = outputs.filterMap id := by
    simp
  cases call with
  | sweep now =>
      obtain ⟨swept, exports, result, _⟩ :=
        sweep_exports setup consistent now
      have named := before.exports hasCallback exports
      simp only [FlowTracker.serve, result, nothingNew]
      exact ⟨named.named, named.covered⟩
  | update event =>
      simp only [FlowTracker.serve]
      cases accepted : trackedPacket? event with
      | none =>
          obtain ⟨unchanged, nowhere⟩ :=
            update_ignored setup tracker accepted
          rw [unchanged, nowhere, Option.map_none, nothingNew]
          exact before
      | some packet =>
          obtain ⟨keeps, added⟩ :=
            keepsNames_track hasCallback consistent packet event
          have earlier :
              ∀ item ∈ outputs.filterMap id,
                (tracker.track setup packet event).1.HasName
                  item.attachment.serial item.attachment.flowId :=
            fun item member => keeps _ _ (before.named item member)
          rw [update_accepted setup tracker accepted]
          rcases track_serial consistent packet event with
            ⟨nowhere, created⟩ | ⟨attachment, placed, whereTo⟩
          · rw [nowhere, Option.map_none, nothingNew]
            refine ⟨earlier, ?_⟩
            rw [created]
            exact before.covered
          · have one :
                (outputs ++ [some (TrackedEvent.mk event attachment)]
                  ).filterMap id =
                  outputs.filterMap id ++
                    [TrackedEvent.mk event attachment] := by
              simp
            rw [placed, Option.map_some, one]
            refine ⟨List.forall_mem_append.mpr ⟨earlier,
              List.forall_mem_singleton.mpr (added attachment placed)⟩,
              fun serial below => ?_⟩
            have known (old : serial < tracker.created) :
                ∃ item ∈ outputs.filterMap id ++
                    [TrackedEvent.mk event attachment],
                  item.attachment.serial = serial := by
              obtain ⟨item, member, same⟩ := before.covered serial old
              exact ⟨item, List.mem_append_left _ member, same⟩
            rcases whereTo with
              ⟨entry, live, isSerial, created⟩ | ⟨isSerial, created⟩
            · rw [created] at below
              exact known below
            · rw [created] at below
              rcases Nat.lt_succ_iff_lt_or_eq.mp below with old | isNew
              · exact known old
              · exact ⟨_, List.mem_append_right _
                  (List.mem_singleton.mpr rfl), isSerial.trans isNew.symm⟩

/-- The events of every run are named, and its flows are covered. -/
theorem named_run (calls : List TrackerCall) :
    (StepRuns.run (serve setup) fresh calls).1.Named
      ((StepRuns.run (serve setup) fresh calls).2.filterMap id) := by
  have initially : fresh.Conserves [] ∧ fresh.Named [] := by
    refine ⟨conserves_run hasCallback [], ⟨?_, ?_⟩⟩
    · exact fun _ member => absurd member List.not_mem_nil
    · exact fun _ below => absurd below (Nat.not_lt_zero _)
  have invariant :=
    @StepRuns.history_of_run _ _ _ (serve setup)
      (fun tracker _ outputs =>
        tracker.Conserves outputs ∧
          tracker.Named (outputs.filterMap id))
      fresh calls initially
      (fun tracker _ outputs call before =>
        ⟨before.1.serve hasCallback call,
          before.2.serve hasCallback before.1.consistent call⟩)
  exact invariant.2

/-! ### The final flush -/

/--
After the final flush, the flows with an identifier have together counted what
the events tracked under it are worth, and every flow has such an event.
-/
theorem flush_groups (calls : List TrackerCall) :
    let served := StepRuns.run (serve setup) fresh calls
    let tracked := served.2.filterMap id
    let final := served.1.flush setup
    (∀ flowId counter,
        ((final.handed.filter fun call =>
            decide (call.2.flowId = flowId)).map
          fun call => call.2.tally counter).sum =
          tallyOf
            (tracked.filter fun item =>
              decide (item.attachment.flowId = flowId)) counter) ∧
      ∀ call ∈ final.handed,
        ∃ item ∈ tracked, item.attachment.flowId = call.2.flowId := by
  intro served tracked final
  have conserves := conserves_run hasCallback calls
  have named := named_run hasCallback calls
  obtain ⟨exports, emptied⟩ := flush_exports setup conserves.consistent
  have noItems : final.table.items = [] := by
    rw [List.eq_nil_iff_forall_not_mem]
    rintro ⟨key, entry⟩ member
    have live := OrderedDict.get?_eq_some_iff.mpr member
    rw [emptied key] at live
    cases live
  have onlyHanded : final.ledger = final.handedLines := by
    simp [ledger, OrderedDict.values, noItems]
  have balanced :
      Balanced final.handedLines final.created tracked := by
    rw [← onlyHanded, exports.created_eq]
    exact conserves.balanced.perm (exports.ledger_perm hasCallback)
  have serials :
      (final.handed.map Prod.fst).Perm (List.range final.created) := by
    simpa [handedLines, Function.comp_def] using balanced.serials
  have distinct : (final.handed.map Prod.fst).Nodup :=
    serials.nodup_iff.mpr List.nodup_range
  have sameName :
      ∀ call ∈ final.handed, ∀ item ∈ tracked,
        item.attachment.serial = call.1 →
          item.attachment.flowId = call.2.flowId := by
    intro call isCall item isItem isSerial
    have hasName := exports.keepsNames hasCallback _ _
      (named.named item isItem)
    rcases hasName with ⟨other, isOther, otherSerial, otherName⟩ |
      ⟨key, entry, live, _⟩
    · have same : other = call :=
        List.inj_on_of_nodup_map distinct isOther isCall
          (otherSerial.trans isSerial)
      rw [← otherName, same]
    · rw [emptied key] at live
      cases live
  constructor
  · intro flowId counter
    have covers :
        ∀ item ∈ tracked.filter fun item =>
            decide (item.attachment.flowId = flowId),
          item.attachment.serial ∈ final.handed.map Prod.fst := by
      intro item member
      rw [serials.mem_iff, List.mem_range]
      exact balanced.attached item (List.mem_of_mem_filter member)
    rw [sum_filter_calls, ← tallyOf_eq_sum_groups distinct covers,
      List.map_map]
    congr 1
    apply List.map_congr_left
    intro call isCall
    have line :=
      balanced.lines (call.1, call.2.tally)
        (List.mem_map.mpr ⟨call, isCall, rfl⟩) counter
    by_cases isName : call.2.flowId = flowId
    · rw [if_pos (decide_eq_true isName)]
      refine line.trans ?_
      have sameGroup :
          attachedTo tracked call.1 =
            attachedTo (tracked.filter fun item =>
              decide (item.attachment.flowId = flowId)) call.1 := by
        rw [attachedTo, attachedTo, List.filter_filter]
        apply List.filter_congr
        intro item isItem
        by_cases isSerial : item.attachment.serial = call.1
        · have named := sameName call isCall item isItem isSerial
          simp [isSerial, named.trans isName]
        · simp [isSerial]
      rw [sameGroup]
      rfl
    · rw [if_neg (by simpa using isName)]
      have noGroup :
          attachedTo (tracked.filter fun item =>
            decide (item.attachment.flowId = flowId)) call.1 = [] := by
        rw [attachedTo, List.filter_eq_nil_iff]
        intro item member isSerial
        obtain ⟨isItem, named⟩ := List.mem_filter.mp member
        exact isName ((sameName call isCall item isItem
          (of_decide_eq_true isSerial)).symm.trans
            (of_decide_eq_true named))
      rw [Function.comp_apply, noGroup]
      rfl
  · intro call isCall
    have below : call.1 < final.created := by
      rw [← List.mem_range, ← serials.mem_iff]
      exact List.mem_map_of_mem isCall
    rw [exports.created_eq] at below
    obtain ⟨item, isItem, isSerial⟩ := named.covered call.1 below
    exact ⟨item, isItem, sameName call isCall item isItem isSerial⟩

end Callback

end FlowTracker

end IntrusionDetection
