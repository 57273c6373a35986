import IntrusionDetection.LoggerThreads

namespace IntrusionDetection

open PyText
open Json (Numerals render)

/-!
# What holds while threads log

However the steps of the threads interleave, the file and the line that is
being written make up the file of a sequential logger.  Each step of `log` is
one lemma.
-/

namespace SharedLogger

open JsonlLogger

variable {Thread Number : Type} [DecidableEq Thread]

/-! ### The invariant -/

section Invariant

variable (numerals : Numerals Number)

/--
What the state says of one thread: `order` lists the records that came to
something, and `stored` the threads that have counted an error.
-/
structure ThreadFits
    (past : List (Thread × LogStep Number))
    (order : List (Thread × Option (Json Number)))
    (stored : List Thread)
    (shared : SharedLogger Thread)
    (thread : Thread) :
    Prop where
  inside :
    shared.holder = some thread ↔
      (shared.phase thread).isInside = true
  calls :
    ∃ pending,
      callsOf thread past = recordsOf thread order ++ pending ∧
        Awaits numerals pending (shared.phase thread)
  counted :
    ∀ errors,
      shared.phase thread = .counted errors → errors ≤ stored.length
  settled :
    (failures numerals order).count thread =
      stored.count thread +
        if (shared.phase thread).isFailing then 1 else 0

/-- The shared logger has done what a sequential one would have done. -/
structure Fits
    (file : Bytes)
    (past : List (Thread × LogStep Number))
    (order : List (Thread × Option (Json Number)))
    (stored : List Thread)
    (shared : SharedLogger Thread) :
    Prop where
  threads : ∀ thread, ThreadFits numerals past order stored shared thread
  file :
    shared.file ++ shared.unwritten =
      ((openFile file).logAll numerals (order.map Prod.snd)).file
  errors : shared.writeErrors ≤ stored.length

/-- What a step adds to the history. -/
structure Adds
    (actor : Thread)
    (recorded : List (Option (Json Number)))
    (counts : Bool)
    (order laterOrder : List (Thread × Option (Json Number)))
    (stored laterStored : List Thread) :
    Prop where
  order : laterOrder = order ++ recorded.map fun record => (actor, record)
  stored : laterStored = stored ++ if counts then [actor] else []

variable {numerals}
variable {past : List (Thread × LogStep Number)}
variable {order laterOrder : List (Thread × Option (Json Number))}
variable {stored laterStored : List Thread}
variable {shared later : SharedLogger Thread}

omit [DecidableEq Thread] in
/-- No record came to anything, and no error was counted. -/
theorem Adds.nothing {actor : Thread} :
    @Adds Thread Number actor [] false order order stored stored :=
  ⟨(List.append_nil _).symm, (List.append_nil _).symm⟩

omit [DecidableEq Thread] in
/-- A record came to something. -/
theorem Adds.outcome {actor : Thread} (record : Option (Json Number)) :
    Adds actor [record] false order
      (order ++ [record].map fun record => (actor, record)) stored stored :=
  ⟨rfl, (List.append_nil _).symm⟩

omit [DecidableEq Thread] in
/-- An error was counted. -/
theorem Adds.error {actor : Thread} :
    @Adds Thread Number actor [] true order order stored
      (stored ++ [actor]) :=
  ⟨(List.append_nil _).symm, rfl⟩

/-- The calls of a thread after one more action. -/
theorem callsOf_snoc
    (thread actor : Thread)
    (action : LogStep Number) :
    callsOf thread (past ++ [(actor, action)]) =
      callsOf thread past ++
        if actor = thread then action.call?.toList else [] := by
  rw [callsOf, List.filterMap_append, callsOf]
  congr 1
  by_cases same : actor = thread
  · rw [if_pos same]
    cases found : action.call? <;> simp [same, found]
  · rw [if_neg same, List.filterMap_cons_none (by simp [same])]
    rfl

/-- The records of a thread after some of the actor's were added. -/
theorem recordsOf_append
    (thread actor : Thread)
    (recorded : List (Option (Json Number))) :
    recordsOf thread
        (order ++ recorded.map fun record => (actor, record)) =
      recordsOf thread order ++
        if actor = thread then recorded else [] := by
  rw [recordsOf, List.filter_append, List.map_append, recordsOf]
  congr 1
  by_cases same : actor = thread
  · rw [if_pos same, List.filter_eq_self.mpr, List.map_map]
    · exact List.map_id _
    · intro entry member
      obtain ⟨_, _, rfl⟩ := List.mem_map.mp member
      exact decide_eq_true same
  · rw [if_neg same, List.filter_eq_nil_iff.mpr]
    · rfl
    · intro entry member
      obtain ⟨_, _, rfl⟩ := List.mem_map.mp member
      simp [same]

omit [DecidableEq Thread] in
/-- The failures after some records of the actor were added. -/
theorem failures_append
    (actor : Thread)
    (recorded : List (Option (Json Number))) :
    failures numerals
        (order ++ recorded.map fun record => (actor, record)) =
      failures numerals order ++
        (recorded.filter fun record =>
          (written? numerals record).isNone).map fun _ => actor := by
  rw [failures, List.filter_append, List.map_append, failures,
    List.filter_map, List.map_map]
  rfl

/-- The step of one thread says nothing new of the others. -/
theorem ThreadFits.other
    {thread actor : Thread}
    (fits : ThreadFits numerals past order stored shared thread)
    (differs : actor ≠ thread)
    {recorded : List (Option (Json Number))}
    {counts : Bool}
    (adds : Adds actor recorded counts order laterOrder stored laterStored)
    (action : LogStep Number)
    (samePhase : later.phase thread = shared.phase thread)
    (sameHolder :
      later.holder = some thread ↔ shared.holder = some thread) :
    ThreadFits numerals (past ++ [(actor, action)]) laterOrder laterStored
      later thread := by
  obtain ⟨rfl, rfl⟩ := adds
  have notActor : ∀ times, (List.replicate times actor).count thread = 0 :=
    fun times => List.count_eq_zero.mpr fun member =>
      differs (List.eq_of_mem_replicate member).symm
  refine ⟨?_, ?_, ?_, ?_⟩
  · rw [sameHolder, samePhase]
    exact fits.inside
  · obtain ⟨pending, calls, awaits⟩ := fits.calls
    refine ⟨pending, ?_, ?_⟩
    · rw [callsOf_snoc, recordsOf_append, if_neg differs, if_neg differs,
        List.append_nil, List.append_nil, calls]
    · rw [samePhase]
      exact awaits
  · intro errors isCounted
    rw [samePhase] at isCounted
    have few := fits.counted errors isCounted
    rw [List.length_append]
    exact Nat.le_add_right_of_le few
  · have actorOnly :
        (if counts then [actor] else []).count thread = 0 := by
      cases counts with
      | false =>
          rfl
      | true =>
          exact notActor 1
    rw [samePhase, failures_append, List.count_append, List.count_append,
      List.map_const', notActor, actorOnly, fits.settled]
    rfl

/-- A step by which a thread begins no record and settles none. -/
theorem ThreadFits.advance
    {actor : Thread}
    (fits : ThreadFits numerals past order stored shared actor)
    {action : LogStep Number}
    (noCall : action.call? = none)
    {phase : LogPhase}
    (isPhase : later.phase actor = phase)
    (inside : later.holder = some actor ↔ phase.isInside = true)
    (awaitsStill :
      ∀ pending,
        Awaits numerals pending (shared.phase actor) →
          Awaits numerals pending phase)
    (sameFailing : phase.isFailing = (shared.phase actor).isFailing)
    (fewCounted :
      ∀ errors, phase = .counted errors → errors ≤ stored.length) :
    ThreadFits numerals (past ++ [(actor, action)]) order stored later
      actor := by
  subst isPhase
  obtain ⟨pending, calls, awaits⟩ := fits.calls
  refine ⟨inside, ⟨pending, ?_, awaitsStill pending awaits⟩, fewCounted, ?_⟩
  · rw [callsOf_snoc, if_pos rfl, noCall, calls]
    exact List.append_nil _
  · rw [sameFailing]
    exact fits.settled

omit [DecidableEq Thread] in
/-- Nothing happens to a line that another thread writes. -/
theorem unwritten_eq
    (sameHolder : later.holder = shared.holder)
    (samePhase :
      ∀ thread,
        shared.holder = some thread →
          later.phase thread = shared.phase thread) :
    later.unwritten = shared.unwritten := by
  rw [unwritten, unwritten, sameHolder]
  cases isHolder : shared.holder with
  | none =>
      rfl
  | some thread =>
      dsimp only
      rw [samePhase thread isHolder]

omit [DecidableEq Thread] in
/-- The line that is being written is that of the holder of the lock. -/
theorem unwritten_of_holder
    {thread : Thread}
    (isHolder : shared.holder = some thread) :
    shared.unwritten = (shared.phase thread).rest := by
  rw [unwritten, isHolder]

omit [DecidableEq Thread] in
/-- Nothing is being written while the lock is free. -/
theorem unwritten_of_free
    (isFree : shared.holder = none) :
    shared.unwritten = [] := by
  rw [unwritten, isFree]

/-- A phase is entered by one thread. -/
@[simp] theorem enter_phase_self
    (shared : SharedLogger Thread)
    (thread : Thread)
    (phase : LogPhase) :
    (shared.enter thread phase).phase thread = phase :=
  Function.update_self ..

/-- The other threads stay where they are. -/
theorem enter_phase_other
    (shared : SharedLogger Thread)
    {thread actor : Thread}
    (differs : actor ≠ thread)
    (phase : LogPhase) :
    (shared.enter actor phase).phase thread = shared.phase thread :=
  Function.update_of_ne differs.symm ..

omit [DecidableEq Thread] in
/-- The sequential logger after one more record. -/
theorem file_logAll_snoc
    (file : Bytes)
    (actor : Thread)
    (record : Option (Json Number)) :
    ((openFile file).logAll numerals
        ((order ++ [record].map fun record => (actor, record)).map
          Prod.snd)).file =
      ((openFile file).logAll numerals (order.map Prod.snd)).file ++
        (line? numerals record).getD [] := by
  have shape :
      (order ++ [record].map fun record => (actor, record)).map Prod.snd =
        order.map Prod.snd ++ [record] := by
    rw [List.map_append]
    rfl
  rw [shape, logAll, List.foldl_append, List.foldl_cons, List.foldl_nil,
    log]
  cases line? numerals record with
  | none =>
      exact (List.append_nil _).symm
  | some line =>
      rfl

section Steps

variable {file : Bytes} {actor : Thread}
variable (fits : Fits numerals file past order stored shared)

include fits

/-- What is left to say of a step is what it does to its own thread. -/
theorem Fits.move
    {recorded : List (Option (Json Number))}
    {counts : Bool}
    (adds : Adds actor recorded counts order laterOrder stored laterStored)
    (action : LogStep Number)
    (samePhase :
      ∀ thread,
        actor ≠ thread → later.phase thread = shared.phase thread)
    (sameHolder :
      ∀ thread,
        actor ≠ thread →
          (later.holder = some thread ↔ shared.holder = some thread))
    (own :
      ThreadFits numerals (past ++ [(actor, action)]) laterOrder laterStored
        later actor)
    (sameFile :
      later.file ++ later.unwritten =
        ((openFile file).logAll numerals (laterOrder.map Prod.snd)).file)
    (fewErrors : later.writeErrors ≤ laterStored.length) :
    Fits numerals file (past ++ [(actor, action)]) laterOrder laterStored
      later := by
  refine ⟨?_, sameFile, fewErrors⟩
  intro thread
  by_cases same : actor = thread
  · rw [← same]
    exact own
  · exact (fits.threads thread).other same adds action
      (samePhase thread same) (sameHolder thread same)

/-- A thread outside does not hold the lock. -/
theorem Fits.holder_ne
    (outside : (shared.phase actor).isInside = false) :
    shared.holder ≠ some actor := by
  intro isHolder
  have inside := (fits.threads actor).inside.mp isHolder
  rw [outside] at inside
  cases inside

/-- A thread inside holds the lock. -/
theorem Fits.isHolder
    (inside : (shared.phase actor).isInside = true) :
    shared.holder = some actor :=
  (fits.threads actor).inside.mpr inside

/-- Nothing is being written once a thread outside has moved. -/
theorem Fits.unwritten_enter
    (outside : (shared.phase actor).isInside = false)
    (phase : LogPhase) :
    (shared.enter actor phase).unwritten = shared.unwritten := by
  apply @unwritten_eq Thread shared (shared.enter actor phase) rfl
  intro thread isHolder
  apply enter_phase_other
  rintro rfl
  exact fits.holder_ne outside isHolder

/-- A record is serialised. -/
theorem Fits.call
    (isIdle : shared.phase actor = .idle)
    (record : Option (Json Number)) :
    ∃ laterOrder,
      Fits numerals file (past ++ [(actor, .call record)]) laterOrder stored
        (shared.enter actor (dump numerals record)) := by
  have own := fits.threads actor
  have outside : (shared.phase actor).isInside = false := by
    rw [isIdle]
    rfl
  have notHolder := fits.holder_ne outside
  obtain ⟨pending, calls, awaits⟩ := own.calls
  rw [isIdle] at awaits
  have noPending : pending = [] := awaits
  have settled := own.settled
  rw [isIdle] at settled
  cases record with
  | none =>
      refine ⟨order ++ [none].map fun record => (actor, record),
        fits.move (Adds.outcome none) _
          (fun _ differs => enter_phase_other shared differs _)
          (fun _ _ => Iff.rfl) ⟨?_, ?_, ?_, ?_⟩ ?_ fits.errors⟩
      · rw [enter_phase_self]
        exact iff_of_false notHolder (by simp [dump, LogPhase.isInside])
      · refine ⟨[], ?_, ?_⟩
        · rw [callsOf_snoc, recordsOf_append, if_pos rfl, if_pos rfl, calls,
            noPending, List.append_nil, List.append_nil]
          rfl
        · rw [enter_phase_self]
          rfl
      · intro errors isCounted
        rw [enter_phase_self] at isCounted
        cases isCounted
      · rw [enter_phase_self, failures_append, List.count_append, settled]
        simp [written?, line?, dump, LogPhase.isFailing]
      · rw [file_logAll_snoc, fits.unwritten_enter outside]
        exact fits.file.trans (List.append_nil _).symm
  | some record =>
      refine ⟨order, fits.move Adds.nothing _
        (fun _ differs => enter_phase_other shared differs _)
        (fun _ _ => Iff.rfl) ⟨?_, ?_, ?_, ?_⟩ ?_ fits.errors⟩
      · rw [enter_phase_self]
        exact iff_of_false notHolder (by simp [dump, LogPhase.isInside])
      · refine ⟨[some record], ?_, ?_⟩
        · rw [callsOf_snoc, if_pos rfl, calls, noPending, List.append_nil]
          rfl
        · rw [enter_phase_self]
          exact ⟨record, rfl, rfl⟩
      · intro errors isCounted
        rw [enter_phase_self] at isCounted
        cases isCounted
      · rw [enter_phase_self, settled]
        rfl
      · rw [fits.unwritten_enter outside]
        exact fits.file

/-- The lock is taken. -/
theorem Fits.acquire
    {line : Str}
    (isDumped : shared.phase actor = .dumped line)
    (isFree : shared.holder = none) :
    Fits numerals file (past ++ [(actor, .acquire)]) order stored
      ({ shared with holder := some actor }.enter actor
        (.locked line)) := by
  have noHolder : ∀ thread, shared.holder ≠ some thread := by
    intro thread isHolder
    rw [isFree] at isHolder
    cases isHolder
  apply fits.move Adds.nothing
  · exact fun _ differs => enter_phase_other _ differs _
  · exact fun thread differs =>
      iff_of_false (fun same => differs (Option.some.inj same))
        (noHolder thread)
  · apply (fits.threads actor).advance rfl (enter_phase_self _ _ _)
    · exact iff_of_true rfl rfl
    · rw [isDumped]
      exact fun _ awaits => awaits
    · rw [isDumped]
      rfl
    · exact fun _ isCounted => by cases isCounted
  · have before := fits.file
    rw [unwritten_of_free isFree] at before
    rw [@unwritten_of_holder Thread _ actor rfl, enter_phase_self]
    exact before
  · exact fits.errors

/-- The line is encoded, or the lock is given back. -/
theorem Fits.encode
    {line : Str}
    (isLocked : shared.phase actor = .locked line)
    {phase : LogPhase}
    {holder : Option Thread}
    (outcome :
      (∃ data, utf8? line = some data ∧ phase = .writing data ∧
          holder = some actor) ∨
        (utf8? line = none ∧ phase = .failed ∧ holder = none)) :
    ∃ laterOrder,
      Fits numerals file (past ++ [(actor, .encode)]) laterOrder stored
        ({ shared with holder := holder }.enter actor phase) := by
  have own := fits.threads actor
  obtain ⟨pending, calls, awaits⟩ := own.calls
  rw [isLocked] at awaits
  obtain ⟨dict, rfl, rfl⟩ := awaits
  have settled := own.settled
  rw [isLocked] at settled
  have isHolder := fits.isHolder (by rw [isLocked]; rfl)
  have before := fits.file
  rw [unwritten_of_holder isHolder, isLocked] at before
  have sameLine :
      line? numerals (some dict) =
        utf8? (render numerals dict ++ lit "\n") :=
    rfl
  refine ⟨order ++ [some dict].map fun record => (actor, record),
    fits.move (Adds.outcome (some dict)) _
      (fun _ differs => enter_phase_other _ differs _)
      (fun thread differs => ?_) ⟨?_, ?_, ?_, ?_⟩ ?_ fits.errors⟩
  · have notHolder : shared.holder ≠ some thread := by
      rw [isHolder]
      exact fun same => differs (Option.some.inj same)
    refine iff_of_false ?_ notHolder
    rcases outcome with ⟨_, _, _, rfl⟩ | ⟨_, _, rfl⟩
    · exact fun same => differs (Option.some.inj same)
    · exact fun same => by cases same
  · rw [enter_phase_self]
    rcases outcome with ⟨_, _, rfl, rfl⟩ | ⟨_, rfl, rfl⟩
    · exact iff_of_true rfl rfl
    · exact iff_of_false (fun same => by cases same)
        (fun same => by cases same)
  · refine ⟨[], ?_, ?_⟩
    · rw [callsOf_snoc, recordsOf_append, if_pos rfl, if_pos rfl, calls,
        List.append_nil]
      exact List.append_nil _
    · rw [enter_phase_self]
      rcases outcome with ⟨_, _, rfl, _⟩ | ⟨_, rfl, _⟩
      · rfl
      · rfl
  · intro errors isCounted
    rw [enter_phase_self] at isCounted
    rcases outcome with ⟨_, _, rfl, _⟩ | ⟨_, rfl, _⟩
    · cases isCounted
    · cases isCounted
  · rw [enter_phase_self, failures_append, List.count_append, settled]
    rcases outcome with ⟨data, encoded, rfl, _⟩ | ⟨unencoded, rfl, _⟩
    · simp [written?, sameLine, encoded, LogPhase.isFailing]
    · simp [written?, sameLine, unencoded, LogPhase.isFailing]
  · rw [file_logAll_snoc, sameLine, ← before]
    rcases outcome with ⟨data, encoded, rfl, rfl⟩ | ⟨unencoded, rfl, rfl⟩
    · rw [encoded, @unwritten_of_holder Thread _ actor rfl,
        enter_phase_self]
      exact congrArg (· ++ data) (List.append_nil _).symm
    · rw [unencoded, @unwritten_of_free Thread _ rfl]
      exact (List.append_nil _).symm

/-- One byte of the line is written. -/
theorem Fits.writeByte
    {byte : UInt8}
    {rest : Bytes}
    (isWriting : shared.phase actor = .writing (byte :: rest)) :
    Fits numerals file (past ++ [(actor, .writeByte)]) order stored
      ({ shared with file := shared.file ++ [byte] }.enter actor
        (.writing rest)) := by
  have isHolder := fits.isHolder (by rw [isWriting]; rfl)
  apply fits.move Adds.nothing
  · exact fun _ differs => enter_phase_other _ differs _
  · exact fun _ _ => Iff.rfl
  · apply (fits.threads actor).advance rfl (enter_phase_self _ _ _)
    · exact iff_of_true isHolder rfl
    · rw [isWriting]
      exact fun _ awaits => awaits
    · rw [isWriting]
      rfl
    · exact fun _ isCounted => by cases isCounted
  · have before := fits.file
    rw [unwritten_of_holder isHolder, isWriting] at before
    have after :
        ({ shared with file := shared.file ++ [byte] }.enter actor
          (.writing rest)).holder = some actor :=
      isHolder
    rw [unwritten_of_holder after, enter_phase_self, ← before]
    exact List.append_assoc _ _ _
  · exact fits.errors

/-- The lock is given back after a line. -/
theorem Fits.release
    (isWriting : shared.phase actor = .writing []) :
    Fits numerals file (past ++ [(actor, .release)]) order stored
      ({ shared with holder := none }.enter actor .idle) := by
  have isHolder := fits.isHolder (by rw [isWriting]; rfl)
  apply fits.move Adds.nothing
  · exact fun _ differs => enter_phase_other _ differs _
  · intro thread differs
    rw [isHolder]
    exact iff_of_false (fun same => by cases same)
      (fun same => differs (Option.some.inj same))
  · apply (fits.threads actor).advance rfl (enter_phase_self _ _ _)
    · exact iff_of_false (fun same => by cases same)
        (fun same => by cases same)
    · rw [isWriting]
      exact fun _ awaits => awaits
    · rw [isWriting]
      rfl
    · exact fun _ isCounted => by cases isCounted
  · have before := fits.file
    rw [unwritten_of_holder isHolder, isWriting] at before
    rw [@unwritten_of_free Thread _ rfl]
    exact before
  · exact fits.errors

/-- The count of errors is read. -/
theorem Fits.readErrors
    (isFailed : shared.phase actor = .failed) :
    Fits numerals file (past ++ [(actor, .readErrors)]) order stored
      (shared.enter actor (.counted shared.writeErrors)) := by
  have outside : (shared.phase actor).isInside = false := by
    rw [isFailed]
    rfl
  apply fits.move Adds.nothing
  · exact fun _ differs => enter_phase_other _ differs _
  · exact fun _ _ => Iff.rfl
  · apply (fits.threads actor).advance rfl (enter_phase_self _ _ _)
    · exact iff_of_false (fits.holder_ne outside)
        (fun same => by cases same)
    · rw [isFailed]
      exact fun _ awaits => awaits
    · rw [isFailed]
      rfl
    · intro errors isCounted
      cases isCounted
      exact fits.errors
  · rw [fits.unwritten_enter outside]
    exact fits.file
  · exact fits.errors

/-- The count of errors is written back. -/
theorem Fits.storeErrors
    {errors : Nat}
    (isCounted : shared.phase actor = .counted errors) :
    Fits numerals file (past ++ [(actor, .storeErrors)]) order
      (stored ++ [actor])
      ({ shared with writeErrors := errors + 1 }.enter actor .idle) := by
  have own := fits.threads actor
  have outside : (shared.phase actor).isInside = false := by
    rw [isCounted]
    rfl
  have fewErrors := own.counted errors isCounted
  have settled := own.settled
  rw [isCounted] at settled
  obtain ⟨pending, calls, awaits⟩ := own.calls
  rw [isCounted] at awaits
  apply fits.move Adds.error
  · exact fun _ differs => enter_phase_other _ differs _
  · exact fun _ _ => Iff.rfl
  · refine ⟨?_, ⟨pending, ?_, ?_⟩, ?_, ?_⟩
    · rw [enter_phase_self]
      exact iff_of_false (fits.holder_ne outside)
        (fun same => by cases same)
    · rw [callsOf_snoc, if_pos rfl, calls]
      exact List.append_nil _
    · rw [enter_phase_self]
      exact awaits
    · intro errors isCounted
      rw [enter_phase_self] at isCounted
      cases isCounted
    · rw [enter_phase_self, settled, List.count_append,
        List.count_singleton_self]
      rfl
  · have sameLine :
        ({ shared with writeErrors := errors + 1 }.enter actor
          .idle).unwritten = shared.unwritten :=
      fits.unwritten_enter outside .idle
    rw [sameLine]
    exact fits.file
  · rw [List.length_append]
    exact Nat.succ_le_succ fewErrors

/-- Every step keeps the invariant. -/
theorem Fits.step
    {action : LogStep Number}
    (taken : shared.step numerals (actor, action) = some later) :
    ∃ laterOrder,
      Fits numerals file (past ++ [(actor, action)]) laterOrder
        (stored ++ if action.isStore then [actor] else []) later := by
  unfold SharedLogger.step at taken
  dsimp only at taken
  split at taken
  · rename_i record isIdle
    cases taken
    obtain ⟨laterOrder, next⟩ := fits.call isIdle record
    rw [← List.append_nil stored] at next
    exact ⟨laterOrder, next⟩
  · rename_i line isDumped
    split at taken
    · rename_i isFree
      cases taken
      have next := fits.acquire isDumped isFree
      rw [← List.append_nil stored] at next
      exact ⟨order, next⟩
    · cases taken
  · rename_i line isLocked
    have isHolder := fits.isHolder (by rw [isLocked]; rfl)
    split at taken
    · rename_i data encoded
      cases taken
      obtain ⟨laterOrder, next⟩ := fits.encode isLocked
        (Or.inl ⟨data, encoded, rfl, isHolder⟩)
      rw [← List.append_nil stored] at next
      exact ⟨laterOrder, next⟩
    · rename_i unencoded
      cases taken
      obtain ⟨laterOrder, next⟩ := fits.encode isLocked
        (Or.inr ⟨unencoded, rfl, rfl⟩)
      rw [← List.append_nil stored] at next
      exact ⟨laterOrder, next⟩
  · rename_i byte rest isWriting
    cases taken
    have next := fits.writeByte isWriting
    rw [← List.append_nil stored] at next
    exact ⟨order, next⟩
  · rename_i isWriting
    cases taken
    have next := fits.release isWriting
    rw [← List.append_nil stored] at next
    exact ⟨order, next⟩
  · rename_i isFailed
    cases taken
    have next := fits.readErrors isFailed
    rw [← List.append_nil stored] at next
    exact ⟨order, next⟩
  · rename_i errors isCounted
    cases taken
    exact ⟨order, fits.storeErrors isCounted⟩
  · cases taken

end Steps

end Invariant

end SharedLogger

end IntrusionDetection
