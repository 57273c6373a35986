import IntrusionDetection.BoundedQueue
import IntrusionDetection.Event
import IntrusionDetection.ScheduledSteps

namespace IntrusionDetection

open PyText
open ScheduledSteps

/-!
# Live capture

`capture_live` runs a sniffer thread that puts packets into a bounded queue
and a generator that takes them out.  Each thread is modelled by the steps it
takes on the shared state, and a schedule is any interleaving of them.  When
the sniffer ends it puts the `None` marker into the same queue, without
waiting; the marker is lost if the queue is full at that moment.
-/

/-- `(float(pkt.time), pkt.original)`. -/
structure CapturedPacket where
  timestamp : Time
  raw : Bytes
  deriving DecidableEq

/-- `maxsize` of the packet queue. -/
def packetQueueMaxsize : Nat := 2000

/-- Where the sniffer thread stands. -/
inductive SnifferPhase where
  -- Inside `sniff`.
  | sniffing
  -- `sniff` has returned or raised; the `finally` block is next.
  | ending
  | finished
  deriving Repr, DecidableEq

/-- Where the generator stands. -/
inductive ConsumerPhase where
  -- Inside `packet_queue.get()`.
  | waiting
  -- Suspended at `yield item`.
  | yielded (item : CapturedPacket)
  -- Out of the loop; the `finally` block has run.
  | left
  deriving DecidableEq

/-- What the two threads share; `none` in the queue is the end marker. -/
structure LiveCapture where
  packetQueue : BoundedQueue (Option CapturedPacket) packetQueueMaxsize
  stopEvent : Bool
  sniffer : SnifferPhase
  consumer : ConsumerPhase

/-- The steps of the two threads. -/
inductive CaptureAction where
  -- `_packet_handler`; `none` if the packet cannot be extracted.
  | packetHandler (extracted : Option CapturedPacket)
  -- `stop_filter` makes `sniff` return.
  | stopFilter
  -- `sniff` returns by itself or raises.
  | sniffEnds
  -- The `finally` block of `_start_sniffing`.
  | finishSniffing
  -- `packet_queue.get()` returns, and the item is looked at.
  | get
  -- The caller asks for the next packet.
  | resume
  -- The generator is closed, or an exception leaves the loop.
  | close
  deriving DecidableEq

namespace LiveCapture

/-- The state in which both threads have just started. -/
def opened : LiveCapture where
  packetQueue := .empty _ _
  stopEvent := false
  sniffer := .sniffing
  consumer := .waiting

/-- `put_nowait` where `queue.Full` is caught and ignored. -/
def putOrDrop
    (capture : LiveCapture)
    (item : Option CapturedPacket) :
    LiveCapture :=
  match capture.packetQueue.putNowait item with
  | some packetQueue => { capture with packetQueue := packetQueue }
  | none => capture

/-- The consumer leaves its loop and sets the stop event. -/
def leave (capture : LiveCapture) : LiveCapture :=
  { capture with stopEvent := true, consumer := .left }

/-- One step of either thread; `none` if that thread cannot take it. -/
def step (capture : LiveCapture) : CaptureAction → Option LiveCapture
  | .packetHandler extracted =>
      if capture.sniffer = .sniffing then
        match extracted with
        | some packet => some (capture.putOrDrop (some packet))
        | none => some capture
      else
        none
  | .stopFilter =>
      if capture.sniffer = .sniffing ∧ capture.stopEvent then
        some { capture with sniffer := .ending }
      else
        none
  | .sniffEnds =>
      if capture.sniffer = .sniffing then
        some { capture with sniffer := .ending }
      else
        none
  | .finishSniffing =>
      if capture.sniffer = .ending then
        some { capture.putOrDrop none with sniffer := .finished }
      else
        none
  | .get =>
      if capture.consumer = .waiting then
        match capture.packetQueue.get? with
        | some (none, rest) =>
            some { capture with packetQueue := rest }.leave
        | some (some item, rest) =>
            some { capture with
              packetQueue := rest
              consumer := .yielded item }
        -- `get` blocks on an empty queue.
        | none => none
      else
        none
  | .resume =>
      match capture.consumer with
      | .yielded _ => some { capture with consumer := .waiting }
      | _ => none
  | .close =>
      if capture.consumer = .left then
        none
      else
        some capture.leave

/-! ### What a step can do -/

@[simp] theorem sniffer_putOrDrop
    (capture : LiveCapture)
    (item : Option CapturedPacket) :
    (capture.putOrDrop item).sniffer = capture.sniffer := by
  simp only [putOrDrop]
  split <;> rfl

@[simp] theorem consumer_putOrDrop
    (capture : LiveCapture)
    (item : Option CapturedPacket) :
    (capture.putOrDrop item).consumer = capture.consumer := by
  simp only [putOrDrop]
  split <;> rfl

/-- An item put into a queue with room is its last item. -/
theorem items_putOrDrop_of_lt
    {capture : LiveCapture}
    (room : capture.packetQueue.items.length < packetQueueMaxsize)
    (item : Option CapturedPacket) :
    (capture.putOrDrop item).packetQueue.items =
      capture.packetQueue.items ++ [item] := by
  cases result : capture.packetQueue.putNowait item with
  | none =>
      have full := BoundedQueue.putNowait_eq_none_iff.mp result
      omega
  | some next =>
      have appended := (BoundedQueue.putNowait_eq_some_iff.mp result).2
      simpa [putOrDrop, result] using appended

/-- A full queue drops the item. -/
theorem putOrDrop_of_full
    {capture : LiveCapture}
    (full : capture.packetQueue.items.length = packetQueueMaxsize)
    (item : Option CapturedPacket) :
    capture.putOrDrop item = capture := by
  simp only [putOrDrop, BoundedQueue.putNowait_eq_none_iff.mpr full]

/-- The consumer takes the marker and leaves. -/
theorem step_get_marker
    {capture : LiveCapture}
    {rest : List (Option CapturedPacket)}
    (waiting : capture.consumer = .waiting)
    (front : capture.packetQueue.items = none :: rest) :
    ∃ next,
      capture.step .get = some next ∧ next.consumer = .left := by
  cases taken : capture.packetQueue.get? with
  | none =>
      rw [BoundedQueue.get?_eq_none_iff.mp taken] at front
      cases front
  | some pair =>
      obtain ⟨item, later⟩ := pair
      have split := BoundedQueue.get?_eq_some_iff.mp taken
      rw [front] at split
      cases split
      refine ⟨{ capture with packetQueue := later }.leave, ?_, rfl⟩
      simp [step, waiting, taken]

/-- The consumer takes a packet and yields it. -/
theorem step_get_packet
    {capture : LiveCapture}
    {packet : CapturedPacket}
    {rest : List (Option CapturedPacket)}
    (waiting : capture.consumer = .waiting)
    (front : capture.packetQueue.items = some packet :: rest) :
    ∃ next,
      capture.step .get = some next ∧
        next.consumer = .yielded packet ∧
        next.packetQueue.items = rest ∧
        next.sniffer = capture.sniffer := by
  cases taken : capture.packetQueue.get? with
  | none =>
      rw [BoundedQueue.get?_eq_none_iff.mp taken] at front
      cases front
  | some pair =>
      obtain ⟨item, later⟩ := pair
      have split := BoundedQueue.get?_eq_some_iff.mp taken
      rw [front] at split
      cases split
      refine ⟨{ capture with
          packetQueue := later
          consumer := .yielded packet }, ?_, rfl, rfl, rfl⟩
      simp [step, waiting, taken]

/-- A consumer on an empty queue blocks. -/
theorem step_get_empty
    {capture : LiveCapture}
    (isEmpty : capture.packetQueue.items = []) :
    capture.step .get = none := by
  simp [step, BoundedQueue.get?_eq_none_iff.mpr isEmpty]

/-! ### The marker and the end of the loop -/

/-- Once the sniffer has finished, a consumer in its loop has a marker. -/
def MarkerWaits (capture : LiveCapture) : Prop :=
  capture.sniffer = .finished →
    capture.consumer ≠ .left →
    none ∈ capture.packetQueue.items

/-- Asking for items and being resumed leads the consumer out. -/
def LoopExits (capture : LiveCapture) : Prop :=
  ∃ actions final,
    (∀ action ∈ actions, action = .get ∨ action = .resume) ∧
      follow step capture actions = some final ∧
      final.consumer = .left

/-- The marker is not lost when this step is taken. -/
def MarkerFits (capture : LiveCapture) (action : CaptureAction) : Prop :=
  action = .finishSniffing →
    capture.consumer ≠ .left →
    capture.packetQueue.items.length < packetQueueMaxsize

/-- One more step of the loop before the consumer is led out. -/
theorem LoopExits.of_step
    {capture next : LiveCapture}
    {action : CaptureAction}
    (ofLoop : action = .get ∨ action = .resume)
    (taken : capture.step action = some next)
    (exits : next.LoopExits) :
    capture.LoopExits := by
  obtain ⟨actions, final, own, reached, isLeft⟩ := exits
  refine ⟨action :: actions, final, ?_, ?_, isLeft⟩
  · rintro later (_ | ⟨_, member⟩)
    · exact ofLoop
    · exact own later member
  · rw [follow_cons_of_step taken]
    exact reached

/-- A waiting consumer reaches the marker behind any number of packets. -/
theorem loopExits_of_waiting
    {capture : LiveCapture}
    (waiting : capture.consumer = .waiting)
    (marker : none ∈ capture.packetQueue.items) :
    capture.LoopExits := by
  generalize queued : capture.packetQueue.items = items at marker
  induction items generalizing capture with
  | nil =>
      cases marker
  | cons front rest inductionHypothesis =>
      cases front with
      | none =>
          obtain ⟨next, taken, isLeft⟩ := step_get_marker waiting queued
          exact .of_step (Or.inl rfl) taken
            ⟨[], next, by simp, rfl, isLeft⟩
      | some packet =>
          obtain ⟨next, taken, isYielded, remaining, _⟩ :=
            step_get_packet waiting queued
          have later : none ∈ rest := by simpa using marker
          have resumed :
              next.step .resume =
                some { next with consumer := .waiting } := by
            simp [step, isYielded]
          exact .of_step (Or.inl rfl) taken
            (.of_step (Or.inr rfl) resumed
              (inductionHypothesis rfl remaining later))

/-- A consumer that has a marker is led out of its loop. -/
theorem loopExits_of_marker
    {capture : LiveCapture}
    (marker : none ∈ capture.packetQueue.items) :
    capture.LoopExits := by
  cases phase : capture.consumer with
  | waiting =>
      exact loopExits_of_waiting phase marker
  | yielded item =>
      have resumed :
          capture.step .resume =
            some { capture with consumer := .waiting } := by
        simp [step, phase]
      exact .of_step (Or.inr rfl) resumed
        (loopExits_of_waiting rfl marker)
  | left =>
      exact ⟨[], capture, by simp, rfl, phase⟩

/-! ### Every interleaving -/

/-- The marker stays behind the packets until the consumer takes it. -/
theorem markerWaits_step
    {capture next : LiveCapture}
    {action : CaptureAction}
    (before : capture.MarkerWaits)
    (fits : capture.MarkerFits action)
    (taken : capture.step action = some next) :
    next.MarkerWaits := by
  intro finished inLoop
  cases action with
  | packetHandler extracted =>
      simp only [step] at taken
      split at taken <;> rename_i sniffing
      · cases extracted with
        | none =>
            cases taken
            simp [sniffing] at finished
        | some packet =>
            cases taken
            simp [sniffing] at finished
      · cases taken
  | stopFilter =>
      simp only [step] at taken
      split at taken
      · cases taken
        cases finished
      · cases taken
  | sniffEnds =>
      simp only [step] at taken
      split at taken
      · cases taken
        cases finished
      · cases taken
  | finishSniffing =>
      simp only [step] at taken
      split at taken
      · cases taken
        simp only [consumer_putOrDrop] at inLoop
        rw [items_putOrDrop_of_lt (fits rfl inLoop)]
        simp
      · cases taken
  | get =>
      simp only [step] at taken
      split at taken <;> rename_i waiting
      · split at taken <;> rename_i front
        · cases taken
          exact (inLoop rfl).elim
        · cases taken
          have split := BoundedQueue.get?_eq_some_iff.mp front
          have marker := before finished (by simp [waiting])
          rw [split] at marker
          simpa using marker
        · cases taken
      · cases taken
  | resume =>
      simp only [step] at taken
      split at taken <;> rename_i yielded
      · cases taken
        exact before finished (by simp [yielded])
      · cases taken
  | close =>
      simp only [step] at taken
      split at taken
      · cases taken
      · cases taken
        exact (inLoop rfl).elim

/-- Before the sniffer has finished there is no marker in the queue. -/
def Unmarked (capture : LiveCapture) : Prop :=
  capture.sniffer ≠ .finished → none ∉ capture.packetQueue.items

/-- A packet put into the queue is no marker. -/
theorem Unmarked.putOrDrop
    {capture : LiveCapture}
    (before : capture.Unmarked)
    (packet : CapturedPacket) :
    (capture.putOrDrop (some packet)).Unmarked := by
  intro running
  rw [sniffer_putOrDrop] at running
  have absent := before running
  simp only [LiveCapture.putOrDrop]
  split <;> rename_i put
  · have appended := (BoundedQueue.putNowait_eq_some_iff.mp put).2
    simpa [appended] using absent
  · exact absent

/-- Only the end of the sniffer puts a marker. -/
theorem unmarked_step
    {capture next : LiveCapture}
    {action : CaptureAction}
    (before : capture.Unmarked)
    (taken : capture.step action = some next) :
    next.Unmarked := by
  cases action with
  | packetHandler extracted =>
      simp only [step] at taken
      split at taken
      · cases extracted with
        | none =>
            cases taken
            exact before
        | some packet =>
            cases taken
            exact before.putOrDrop packet
      · cases taken
  | stopFilter =>
      simp only [step] at taken
      split at taken <;> rename_i sniffing
      · cases taken
        exact fun _ => before (by simp [sniffing.1])
      · cases taken
  | sniffEnds =>
      simp only [step] at taken
      split at taken <;> rename_i sniffing
      · cases taken
        exact fun _ => before (by simp [sniffing])
      · cases taken
  | finishSniffing =>
      simp only [step] at taken
      split at taken
      · cases taken
        intro running
        exact (running rfl).elim
      · cases taken
  | get =>
      simp only [step] at taken
      split at taken
      · split at taken <;> rename_i front
        · cases taken
          intro running member
          have split := BoundedQueue.get?_eq_some_iff.mp front
          exact before running (by simp [split])
        · cases taken
          intro running member
          have split := BoundedQueue.get?_eq_some_iff.mp front
          exact before running (by simpa [split] using member)
        · cases taken
      · cases taken
  | resume =>
      simp only [step] at taken
      split at taken
      · cases taken
        exact before
      · cases taken
  | close =>
      simp only [step] at taken
      split at taken
      · cases taken
      · cases taken
        exact before

/-- The marker is lost where the sniffer finishes on a full queue. -/
theorem markerFits_of_markerWaits
    {capture next : LiveCapture}
    {action : CaptureAction}
    (unmarked : capture.Unmarked)
    (taken : capture.step action = some next)
    (after : next.MarkerWaits) :
    capture.MarkerFits action := by
  rintro rfl inLoop
  simp only [step] at taken
  split at taken <;> rename_i ending
  · cases taken
    by_contra notBelow
    have bounded := capture.packetQueue.bounded
    have full :
        capture.packetQueue.items.length = packetQueueMaxsize := by
      omega
    have dropped := putOrDrop_of_full full none
    have marker := after rfl (by simpa using inLoop)
    rw [dropped] at marker
    exact unmarked (by simp [ending]) marker
  · cases taken

/-- No schedule visits a state with an early marker. -/
theorem unmarked_of_visits
    {schedule : List CaptureAction}
    {capture : LiveCapture}
    (visits : Visits step opened schedule capture) :
    capture.Unmarked := by
  have initially : opened.Unmarked := by
    intro _ marker
    cases marker
  have preserved :
      ∀ (state : LiveCapture) action next,
        state.Unmarked →
        step state action = some next →
        next.Unmarked :=
    fun _ _ _ before taken => unmarked_step before taken
  exact invariant_of_step initially preserved capture visits

/-- The marker waits in every state of a schedule that never loses it. -/
theorem markerWaits_of_visits
    {schedule : List CaptureAction}
    {capture : LiveCapture}
    (fits :
      ∀ state action,
        Takes step opened schedule state action →
        state.MarkerFits action)
    (visits : Visits step opened schedule capture) :
    capture.MarkerWaits := by
  have initially : opened.MarkerWaits := by
    intro finished
    cases finished
  have preserved :
      ∀ (state : LiveCapture) action next,
        state.MarkerWaits →
        state.MarkerFits action →
        step state action = some next →
        next.MarkerWaits :=
    fun _ _ _ before fits taken => markerWaits_step before fits taken
  exact invariant_of_guarded initially fits preserved capture visits

/--
Along any interleaving, the consumer always has a marker to leave by once the
sniffer has finished, and is led out by it, exactly if the sniffer never ends
its thread on a full queue while the consumer is in its loop.
-/
theorem consumer_terminates_iff
    (schedule : List CaptureAction) :
    (∀ capture,
        Visits step opened schedule capture →
        capture.sniffer = .finished →
        capture.consumer ≠ .left →
        none ∈ capture.packetQueue.items ∧ capture.LoopExits) ↔
      ∀ capture,
        Takes step opened schedule capture .finishSniffing →
        capture.consumer ≠ .left →
        capture.packetQueue.items.length < packetQueueMaxsize := by
  constructor
  · intro terminates capture takes
    obtain ⟨earlier, later, next, split, reached, taken⟩ := takes
    have visited : Visits step opened schedule next :=
      visits_of_takes ⟨earlier, later, next, split, reached, taken⟩ taken
    have unmarked := unmarked_of_visits ⟨earlier, _, split, reached⟩
    refine markerFits_of_markerWaits unmarked taken ?_ rfl
    intro finished inLoop
    exact (terminates next visited finished inLoop).1
  · intro fits capture visits finished inLoop
    have marker : none ∈ capture.packetQueue.items := by
      refine markerWaits_of_visits ?_ visits finished inLoop
      rintro state action takes rfl
      exact fits state takes
    exact ⟨marker, loopExits_of_marker marker⟩

/-! ### A consumer that never leaves -/

/-- A burst of packets the consumer has not asked for yet. -/
def burst (count : Nat) : List CaptureAction :=
  List.replicate count (.packetHandler (some ⟨0, []⟩))

/-- The consumer takes some packets and comes back for more. -/
def drain : Nat → List CaptureAction
  | 0 => []
  | count + 1 => .get :: .resume :: drain count

/-- A burst that fits the queue fills it. -/
theorem follow_burst
    {capture : LiveCapture}
    {count : Nat}
    (sniffing : capture.sniffer = .sniffing)
    (room :
      capture.packetQueue.items.length + count ≤ packetQueueMaxsize) :
    ∃ filled,
      follow step capture (burst count) = some filled ∧
        filled.packetQueue.items =
          capture.packetQueue.items ++
            List.replicate count (some ⟨0, []⟩) ∧
        filled.sniffer = .sniffing ∧
        filled.consumer = capture.consumer := by
  induction count generalizing capture with
  | zero =>
      exact ⟨capture, rfl, by simp, sniffing, rfl⟩
  | succ count inductionHypothesis =>
      have taken :
          capture.step (.packetHandler (some ⟨0, []⟩)) =
            some (capture.putOrDrop (some ⟨0, []⟩)) := by
        simp [step, sniffing]
      have below :
          capture.packetQueue.items.length < packetQueueMaxsize := by
        omega
      have put := items_putOrDrop_of_lt below (some ⟨0, []⟩)
      have stillSniffing :
          (capture.putOrDrop (some ⟨0, []⟩)).sniffer = .sniffing := by
        simpa using sniffing
      have stillRoom :
          (capture.putOrDrop (some ⟨0, []⟩)).packetQueue.items.length +
            count ≤ packetQueueMaxsize := by
        rw [put, List.length_append, List.length_singleton]
        omega
      obtain ⟨filled, reached, items, running, same⟩ :=
        inductionHypothesis stillSniffing stillRoom
      refine ⟨filled, ?_, ?_, running, by simpa using same⟩
      · rw [burst, List.replicate_succ, follow_cons_of_step taken]
        exact reached
      · rw [items, put, List.replicate_succ]
        simp

/-- A burst fills the queue. -/
theorem follow_fillingBurst :
    ∃ filled,
      follow step opened (burst packetQueueMaxsize) = some filled ∧
        filled.packetQueue.items =
          List.replicate packetQueueMaxsize (some ⟨0, []⟩) ∧
        filled.sniffer = .sniffing ∧
        filled.consumer = .waiting := by
  have room :
      opened.packetQueue.items.length + packetQueueMaxsize ≤
        packetQueueMaxsize := by
    simp [opened, BoundedQueue.empty]
  obtain ⟨filled, reached, items, sniffing, waiting⟩ :=
    follow_burst rfl room
  refine ⟨filled, reached, ?_, sniffing, waiting⟩
  simpa [opened, BoundedQueue.empty] using items

/-- Draining a queue of packets leaves a consumer waiting for another one. -/
theorem follow_drain
    {capture : LiveCapture}
    {count : Nat}
    (waiting : capture.consumer = .waiting)
    (queued :
      capture.packetQueue.items =
        List.replicate count (some ⟨0, []⟩)) :
    ∃ drained,
      follow step capture (drain count) = some drained ∧
        drained.packetQueue.items = [] ∧
        drained.sniffer = capture.sniffer ∧
        drained.consumer = .waiting := by
  induction count generalizing capture with
  | zero =>
      exact ⟨capture, rfl, by simpa using queued, rfl, waiting⟩
  | succ count inductionHypothesis =>
      rw [List.replicate_succ] at queued
      obtain ⟨next, taken, isYielded, remaining, same⟩ :=
        step_get_packet waiting queued
      let again : LiveCapture := { next with consumer := .waiting }
      have resumed : next.step .resume = some again := by
        simp [step, isYielded, again]
      have waitsAgain : again.consumer = .waiting := rfl
      obtain ⟨drained, reached, isEmpty, sniffer, waits⟩ :=
        inductionHypothesis waitsAgain remaining
      refine ⟨drained, ?_, isEmpty, sniffer.trans same, waits⟩
      rw [drain, follow_cons_of_step taken, follow_cons_of_step resumed]
      exact reached

/-- The capture device fails while the consumer is behind by a full queue. -/
def overrun : List CaptureAction :=
  burst packetQueueMaxsize ++ [.sniffEnds, .finishSniffing]

/--
After an overrun the queue holds packets only; once they are drained the
consumer blocks in `get` and no thread is left to wake it.
-/
theorem overrun_blocks_consumer :
    (∃ capture,
      follow step opened overrun = some capture ∧
        capture.sniffer = .finished ∧
        capture.consumer ≠ .left ∧
        none ∉ capture.packetQueue.items) ∧
      ∃ capture,
        follow step opened (overrun ++ drain packetQueueMaxsize) =
            some capture ∧
          capture.sniffer = .finished ∧
          capture.consumer = .waiting ∧
          capture.step .get = none := by
  obtain ⟨filled, reached, queued, sniffing, waiting⟩ :=
    follow_fillingBurst
  let ending : LiveCapture := { filled with sniffer := .ending }
  let sniffed : LiveCapture := { filled with sniffer := .finished }
  have ends : filled.step .sniffEnds = some ending := by
    simp [step, sniffing, ending]
  have full : ending.packetQueue.items.length = packetQueueMaxsize := by
    simp [ending, queued]
  have finishes : ending.step .finishSniffing = some sniffed := by
    have dropped := putOrDrop_of_full full none
    simp only [step, dropped]
    rfl
  have overran : follow step opened overrun = some sniffed := by
    rw [overrun, follow_append_of_follow reached,
      follow_cons_of_step ends, follow_cons_of_step finishes,
      follow_nil]
  refine ⟨⟨sniffed, overran, rfl, ?_, ?_⟩, ?_⟩
  · simp [sniffed, waiting]
  · simp [sniffed, queued]
  · have stillWaiting : sniffed.consumer = .waiting := waiting
    obtain ⟨drained, drains, isEmpty, sniffer, waits⟩ :=
      follow_drain stillWaiting queued
    refine ⟨drained, ?_, sniffer, waits, step_get_empty isEmpty⟩
    rw [follow_append_of_follow overran]
    exact drains

end LiveCapture

end IntrusionDetection
