import IntrusionDetection.LoggerInvariant

namespace IntrusionDetection

open PyText
open Json (Numerals render)

/-!
# Schedules of logging threads

Every schedule of the threads comes to the file of a sequential logger that is
given the same records in some order, which is each thread's own.  The count
of errors is too low at most, and exact while only one thread fails.
-/

namespace SharedLogger

open JsonlLogger

variable {Thread Number : Type} [DecidableEq Thread]
variable {numerals : Numerals Number}
variable {past : List (Thread × LogStep Number)}
variable {order : List (Thread × Option (Json Number))}
variable {stored : List Thread}
variable {shared later : SharedLogger Thread}

omit [DecidableEq Thread] in
/-- The stores of a history with one more step. -/
theorem storesOf_snoc (actor : Thread) (action : LogStep Number) :
    storesOf (past ++ [(actor, action)]) =
      storesOf past ++ if action.isStore then [actor] else [] := by
  rw [storesOf, List.filter_append, List.map_append, storesOf]
  cases action <;> rfl

/-- The invariant holds before anything was logged. -/
theorem fits_opened (file : Bytes) :
    Fits numerals file [] [] [] (opened Thread file) := by
  refine ⟨fun thread => ⟨?_, ⟨[], rfl, rfl⟩, ?_, rfl⟩, ?_, Nat.le_refl _⟩
  · exact iff_of_false (fun same => by cases same)
      (fun same => by cases same)
  · exact fun _ isCounted => by cases isCounted
  · exact List.append_nil _

/-! ### One thread that fails -/

/-- The count of errors has lost nothing. -/
structure Exact
    (past : List (Thread × LogStep Number))
    (shared : SharedLogger Thread) :
    Prop where
  errors : shared.writeErrors = (storesOf past).length
  counted :
    ∀ thread errors,
      shared.phase thread = .counted errors → errors = shared.writeErrors

/-- What a step does to the count of errors. -/
theorem step_errors
    {actor : Thread}
    {action : LogStep Number}
    (taken : shared.step numerals (actor, action) = some later) :
    (∀ thread,
        actor ≠ thread → later.phase thread = shared.phase thread) ∧
      ((action.isStore = false ∧
          later.writeErrors = shared.writeErrors ∧
            ∀ errors,
              later.phase actor = .counted errors →
                errors = shared.writeErrors) ∨
        ∃ errors,
          action.isStore = true ∧
            shared.phase actor = .counted errors ∧
              later.writeErrors = errors + 1 ∧
                later.phase actor = .idle) := by
  have kept :
      ∀ {before : SharedLogger Thread} {phase : LogPhase},
        before.writeErrors = shared.writeErrors →
          before.phase = shared.phase →
            action.isStore = false →
              (∀ errors,
                phase = .counted errors → errors = shared.writeErrors) →
                (∀ thread, actor ≠ thread →
                  (before.enter actor phase).phase thread =
                    shared.phase thread) ∧
                  (action.isStore = false ∧
                    (before.enter actor phase).writeErrors =
                      shared.writeErrors ∧
                      ∀ errors,
                        (before.enter actor phase).phase actor =
                          .counted errors →
                          errors = shared.writeErrors) := by
    intro before phase sameErrors samePhase notStore fewErrors
    refine ⟨fun thread differs => ?_, notStore, sameErrors, ?_⟩
    · rw [enter_phase_other _ differs, samePhase]
    · rw [enter_phase_self]
      exact fewErrors
  unfold step at taken
  dsimp only at taken
  split at taken
  · rename_i record _
    cases taken
    have notCounted :
        ∀ errors,
          dump numerals record = .counted errors →
            errors = shared.writeErrors := by
      cases record <;> exact fun _ same => by cases same
    exact (kept rfl rfl rfl notCounted).imp id Or.inl
  · split at taken
    · cases taken
      exact (kept rfl rfl rfl fun _ same => by cases same).imp id Or.inl
    · cases taken
  · split at taken
    · cases taken
      exact (kept rfl rfl rfl fun _ same => by cases same).imp id Or.inl
    · cases taken
      exact (kept rfl rfl rfl fun _ same => by cases same).imp id Or.inl
  · cases taken
    exact (kept rfl rfl rfl fun _ same => by cases same).imp id Or.inl
  · cases taken
    exact (kept rfl rfl rfl fun _ same => by cases same).imp id Or.inl
  · cases taken
    refine (kept rfl rfl rfl ?_).imp id Or.inl
    intro errors same
    cases same
    rfl
  · rename_i errors isCounted
    cases taken
    exact ⟨fun _ differs => enter_phase_other _ differs _,
      Or.inr ⟨errors, rfl, isCounted, rfl, enter_phase_self _ _ _⟩⟩
  · cases taken

/-- A thread that handles an exception is the one that fails. -/
theorem Fits.eq_loner
    {file : Bytes}
    (fits : Fits numerals file past order stored shared)
    {loner thread : Thread}
    (alone : FailsAlone numerals past loner)
    (failing : (shared.phase thread).isFailing = true) :
    thread = loner := by
  have settled := (fits.threads thread).settled
  rw [if_pos failing] at settled
  have member : thread ∈ failures numerals order := by
    apply List.count_pos_iff.mp
    omega
  obtain ⟨entry, isEntry, isThread⟩ := List.mem_map.mp member
  obtain ⟨inOrder, unwritten⟩ := List.mem_filter.mp isEntry
  obtain ⟨pending, calls, _⟩ := (fits.threads thread).calls
  have isRecord : entry.2 ∈ callsOf thread past := by
    rw [calls]
    apply List.mem_append_left
    exact List.mem_map_of_mem (List.mem_filter.mpr
      ⟨inOrder, decide_eq_true isThread⟩)
  exact alone thread entry.2 isRecord (Option.isNone_iff_eq_none.mp unwritten)

/-- The count loses nothing while only one thread fails. -/
theorem Exact.step
    {file : Bytes}
    {actor loner : Thread}
    {action : LogStep Number}
    (exact_ : Exact past shared)
    (fits : Fits numerals file past order stored shared)
    (alone : FailsAlone numerals past loner)
    (taken : shared.step numerals (actor, action) = some later) :
    Exact (past ++ [(actor, action)]) later := by
  obtain ⟨others, kept | ⟨errors, isStore, isCounted, stored, isIdle⟩⟩ :=
    step_errors taken
  · obtain ⟨notStore, sameErrors, own⟩ := kept
    refine ⟨?_, ?_⟩
    · rw [sameErrors, storesOf_snoc, notStore, exact_.errors]
      exact congrArg List.length (List.append_nil _).symm
    · intro thread errors isCounted
      rw [sameErrors]
      by_cases same : actor = thread
      · subst same
        exact own errors isCounted
      · rw [others thread same] at isCounted
        exact exact_.counted thread errors isCounted
  · refine ⟨?_, ?_⟩
    · rw [stored, exact_.counted actor errors isCounted, exact_.errors,
        storesOf_snoc, isStore, List.length_append]
      rfl
    · intro thread other nowCounted
      by_cases same : actor = thread
      · subst same
        rw [isIdle] at nowCounted
        cases nowCounted
      · rw [others thread same] at nowCounted
        have first := fits.eq_loner alone (by rw [isCounted]; rfl)
        have second := fits.eq_loner alone (by rw [nowCounted]; rfl)
        exact absurd (first.trans second.symm) same

/-- A thread fails alone in a history if it does in a longer one. -/
theorem FailsAlone.of_snoc
    {actor loner : Thread}
    {action : LogStep Number}
    (alone : FailsAlone numerals (past ++ [(actor, action)]) loner) :
    FailsAlone numerals past loner := by
  intro thread record member
  apply alone thread record
  rw [callsOf_snoc]
  exact List.mem_append_left _ member

/-- The invariants hold after every schedule. -/
theorem fits_follow
    {file : Bytes}
    {schedule : List (Thread × LogStep Number)}
    {final : SharedLogger Thread}
    (followed :
      ScheduledSteps.follow (step numerals) (opened Thread file) schedule =
        some final) :
    (∃ order, Fits numerals file schedule order (storesOf schedule) final) ∧
      ∀ loner, FailsAlone numerals schedule loner → Exact schedule final := by
  apply @ScheduledSteps.history_of_follow _ _ _ _ _ (fun past state =>
    (∃ order, Fits numerals file past order (storesOf past) state) ∧
      ∀ loner, FailsAlone numerals past loner → Exact past state)
  · refine ⟨⟨[], fits_opened file⟩, fun _ _ => ⟨rfl, ?_⟩⟩
    exact fun _ _ isCounted => by cases isCounted
  · rintro past state ⟨actor, action⟩ next _ ⟨⟨order, fits⟩, exact_⟩ taken
    obtain ⟨laterOrder, later⟩ := fits.step taken
    rw [← storesOf_snoc] at later
    refine ⟨⟨laterOrder, later⟩, fun loner alone => ?_⟩
    have before := alone.of_snoc
    exact (exact_ loner before).step fits before taken
  · exact followed

/-- No more errors are counted than there were, and all of them at rest. -/
theorem Fits.storesOf_le
    {file : Bytes}
    (fits : Fits numerals file past order (storesOf past) shared) :
    (storesOf past).length ≤ (failures numerals order).length ∧
      ((∀ thread, shared.phase thread = .idle) →
        (storesOf past).length = (failures numerals order).length) := by
  constructor
  · apply List.Subperm.length_le
    apply List.subperm_ext_iff.mpr
    intro thread _
    rw [(fits.threads thread).settled]
    exact Nat.le_add_right _ _
  · intro atRest
    apply List.Perm.length_eq
    apply List.perm_iff_count.mpr
    intro thread
    rw [(fits.threads thread).settled, atRest thread]
    rfl

/--
Whatever the schedule, the file and the rest of the line that is being written
are the file of a sequential logger.  It is given records that each thread
began to log, in the thread's order, and all of them once the thread is idle.
The count of errors is never too high, and right if one thread fails alone.
-/
theorem threads_log
    (numerals : Numerals Number)
    (file : Bytes)
    (schedule : List (Thread × LogStep Number))
    (final : SharedLogger Thread)
    (followed :
      ScheduledSteps.follow (step numerals) (opened Thread file) schedule =
        some final) :
    (∀ first second,
        (final.phase first).isInside = true →
          (final.phase second).isInside = true → first = second) ∧
      ∃ order : List (Thread × Option (Json Number)),
        let sequential :=
          (openFile file).logAll numerals (order.map Prod.snd)
        (∀ thread,
            recordsOf thread order <+: callsOf thread schedule ∧
              (final.phase thread = .idle →
                recordsOf thread order = callsOf thread schedule)) ∧
          final.file ++ final.unwritten = sequential.file ∧
            (final.holder = none → final.unwritten = []) ∧
              final.writeErrors ≤ sequential.writeErrors ∧
                ((∀ thread, final.phase thread = .idle) →
                  ∀ loner,
                    FailsAlone numerals schedule loner →
                      final.writeErrors = sequential.writeErrors) := by
  obtain ⟨⟨order, fits⟩, exact_⟩ := fits_follow followed
  obtain ⟨fewStores, allStores⟩ := fits.storesOf_le
  refine ⟨?_, order, ?_, fits.file, unwritten_of_free, ?_, ?_⟩
  · intro first second firstInside secondInside
    have isFirst := fits.isHolder firstInside
    have isSecond := fits.isHolder secondInside
    rw [isFirst] at isSecond
    exact Option.some.inj isSecond
  · intro thread
    obtain ⟨pending, calls, awaits⟩ := (fits.threads thread).calls
    refine ⟨⟨pending, calls.symm⟩, fun isIdle => ?_⟩
    rw [isIdle] at awaits
    have noPending : pending = [] := awaits
    rw [calls, noPending, List.append_nil]
  · rw [length_failures]
    exact fits.errors.trans fewStores
  · intro atRest loner alone
    rw [length_failures, (exact_ loner alone).errors, allStores atRest]

/-- One thread logs an empty list while two others fail at the same time. -/
def lostCount : List (Fin 3 × LogStep Empty) :=
  [(0, .call (some (.list []))), (1, .call none), (0, .acquire),
    (2, .call none), (0, .encode), (1, .readErrors), (0, .writeByte),
    (2, .readErrors), (0, .writeByte), (1, .storeErrors), (0, .writeByte),
    (2, .storeErrors), (0, .release)]

/-- The line is whole, and one of the two errors is lost. -/
theorem lostCount_log :
    ∃ final : SharedLogger (Fin 3),
      ScheduledSteps.follow (step noFractions) (opened (Fin 3) [])
          lostCount = some final ∧
        final.file = [0x5B, 0x5D, 0x0A] ∧
          final.writeErrors = 1 ∧
            ∃ order : List (Fin 3 × Option (Json Empty)),
              final.file ++ final.unwritten =
                  ((openFile []).logAll noFractions
                    (order.map Prod.snd)).file ∧
                recordsOf 1 order = [none] ∧ recordsOf 2 order = [none] := by
  refine ⟨_, rfl, rfl, rfl, ?_⟩
  obtain ⟨_, order, calls, file, _⟩ :=
    threads_log noFractions [] lostCount _ rfl
  exact ⟨order, file, (calls 1).2 rfl, (calls 2).2 rfl⟩

end SharedLogger

end IntrusionDetection
