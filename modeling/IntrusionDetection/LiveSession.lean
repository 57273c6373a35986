import IntrusionDetection.LiveCapture
import IntrusionDetection.OutputAgreement
import Mathlib.Data.List.ReduceOption

namespace IntrusionDetection

open ScheduledSteps

/-!
# Live sessions

The program loops over the packets of a capture, and the live capture is filled
by another thread meanwhile.  Whatever the interleaving, the session has done
what it would do to a file with the packets that the queue had room for.
-/

/-- `read_pcap`: a record that cannot be extracted is skipped. -/
def readPcap (records : List (Option CapturedPacket)) :
    List CapturedPacket :=
  records.reduceOption

/-- What the program's loop over the packets keeps. -/
structure MainLoop where
  pipeline : Pipeline
  packetCount : Nat

namespace MainLoop

/-- Before the first packet. -/
def start : MainLoop where
  pipeline := .fresh
  packetCount := 0

/--
The body of the loop.  What the stages do to the packet with a number is up to
the environment.
-/
def handle
    (setup : PipelineSetup)
    (environment : Nat → CapturedPacket → PacketCall)
    (loop : MainLoop)
    (packet : CapturedPacket) :
    MainLoop where
  pipeline :=
    (loop.pipeline.process setup
      (environment (loop.packetCount + 1) packet)).1
  packetCount := loop.packetCount + 1

/-- The loop over the packets of a capture. -/
def handleAll
    (setup : PipelineSetup)
    (environment : Nat → CapturedPacket → PacketCall)
    (packets : List CapturedPacket) :
    MainLoop :=
  packets.foldl (handle setup environment) start

end MainLoop

/-- The program in its live mode: the two threads and the loop. -/
structure LiveSession where
  capture : LiveCapture
  loop : MainLoop

namespace LiveCapture

/-! ### What goes into the queue and what comes out -/

/-- The packets in the queue, without the marker. -/
def packets (capture : LiveCapture) : List CapturedPacket :=
  capture.packetQueue.items.reduceOption

/-- Is there room for another item? -/
def hasRoom (capture : LiveCapture) : Bool :=
  capture.packetQueue.items.length < packetQueueMaxsize

/-- The packet the sniffer extracts. -/
def extracts (_ : LiveCapture) : CaptureAction → List CapturedPacket
  | .packetHandler (some packet) => [packet]
  | _ => []

/-- What the sniffer offers to the queue. -/
def offers : CaptureAction → List (Option CapturedPacket)
  | .packetHandler (some packet) => [some packet]
  | .finishSniffing => [none]
  | _ => []

/-- What is put into the queue. -/
def puts (capture : LiveCapture) (action : CaptureAction) :
    List (Option CapturedPacket) :=
  if capture.hasRoom then offers action else []

/-- What leaves the queue. -/
def takes (capture : LiveCapture) :
    CaptureAction → List (Option CapturedPacket)
  | .get => capture.packetQueue.items.head?.toList
  | _ => []

/-- The packet that is put into the queue. -/
def accepts (capture : LiveCapture) (action : CaptureAction) :
    List CapturedPacket :=
  (capture.puts action).reduceOption

/-- The packet that is dropped. -/
def drops (capture : LiveCapture) (action : CaptureAction) :
    List CapturedPacket :=
  if capture.hasRoom then [] else capture.extracts action

/-- The packet that leaves the queue. -/
def delivers (capture : LiveCapture) (action : CaptureAction) :
    List CapturedPacket :=
  (capture.takes action).reduceOption

/-- The packet the caller works on. -/
def current (capture : LiveCapture) : List CapturedPacket :=
  match capture.consumer with
  | .yielded packet => [packet]
  | _ => []

/-- The packet the caller is done with. -/
def handles (capture : LiveCapture) : CaptureAction → List CapturedPacket
  | .resume => capture.current
  | _ => []

/-- What leaves the queue was first in it. -/
theorem takes_append (capture : LiveCapture) (action : CaptureAction) :
    ∃ rest, capture.packetQueue.items = capture.takes action ++ rest := by
  cases action with
  | get =>
      rw [takes]
      cases capture.packetQueue.items with
      | nil =>
          exact ⟨[], rfl⟩
      | cons item rest =>
          exact ⟨rest, rfl⟩
  | _ =>
      exact ⟨_, rfl⟩

/-- What is put into the queue comes last in it. -/
theorem items_putOrDrop
    (capture : LiveCapture)
    (item : Option CapturedPacket) :
    (capture.putOrDrop item).packetQueue.items =
      capture.packetQueue.items ++
        if capture.hasRoom then [item] else [] := by
  cases room : capture.hasRoom with
  | false =>
      have notBelow := of_decide_eq_false room
      have bounded := capture.packetQueue.bounded
      have full :
          capture.packetQueue.items.length = packetQueueMaxsize := by
        omega
      rw [putOrDrop_of_full full]
      exact (List.append_nil _).symm
  | true =>
      exact items_putOrDrop_of_lt (of_decide_eq_true room) item

/-- No step loses or invents an item of the queue. -/
theorem items_step
    {capture next : LiveCapture}
    {action : CaptureAction}
    (taken : capture.step action = some next) :
    capture.packetQueue.items ++ capture.puts action =
      capture.takes action ++ next.packetQueue.items := by
  cases action with
  | packetHandler extracted =>
      simp only [step] at taken
      split at taken
      · cases extracted with
        | none =>
            cases taken
            simp [puts, offers, takes]
        | some packet =>
            cases taken
            exact (capture.items_putOrDrop (some packet)).symm
      · cases taken
  | stopFilter =>
      simp only [step] at taken
      split at taken
      · cases taken
        simp [puts, offers, takes]
      · cases taken
  | sniffEnds =>
      simp only [step] at taken
      split at taken
      · cases taken
        simp [puts, offers, takes]
      · cases taken
  | finishSniffing =>
      simp only [step] at taken
      split at taken
      · cases taken
        exact (capture.items_putOrDrop none).symm
      · cases taken
  | get =>
      simp only [step] at taken
      split at taken
      · split at taken <;> rename_i front
        · cases taken
          have split := BoundedQueue.get?_eq_some_iff.mp front
          simp [puts, offers, takes, split, leave]
        · cases taken
          have split := BoundedQueue.get?_eq_some_iff.mp front
          simp [puts, offers, takes, split]
        · cases taken
      · cases taken
  | resume =>
      simp only [step] at taken
      split at taken
      · cases taken
        simp [puts, offers, takes]
      · cases taken
  | close =>
      simp only [step] at taken
      split at taken
      · cases taken
      · cases taken
        simp [puts, offers, takes, leave]

/-- No step loses or invents a packet of the queue. -/
theorem packets_step
    {capture next : LiveCapture}
    {action : CaptureAction}
    (taken : capture.step action = some next) :
    capture.packets ++ capture.accepts action =
      capture.delivers action ++ next.packets := by
  have items := congrArg List.reduceOption (items_step taken)
  rw [List.reduceOption_append, List.reduceOption_append] at items
  exact items

/-- What is extracted is put into the queue or dropped. -/
theorem accepts_of_room
    {capture : LiveCapture}
    (room : capture.hasRoom = true)
    (action : CaptureAction) :
    capture.accepts action = capture.extracts action ∧
      capture.drops action = [] := by
  constructor
  · rw [accepts, puts, if_pos room]
    cases action with
    | packetHandler extracted =>
        cases extracted <;> rfl
    | _ => rfl
  · exact if_pos room

/-- A full queue takes no packet. -/
theorem accepts_of_full
    {capture : LiveCapture}
    (full : capture.hasRoom = false)
    (action : CaptureAction) :
    capture.accepts action = [] ∧
      capture.drops action = capture.extracts action := by
  rw [accepts, puts, drops, full]
  exact ⟨rfl, rfl⟩

/-! ### What a step does to the threads -/

/-- A sniffer that has finished offers nothing any more. -/
theorem sniffer_step
    {capture next : LiveCapture}
    {action : CaptureAction}
    (finished : capture.sniffer = .finished)
    (taken : capture.step action = some next) :
    next.sniffer = .finished ∧ offers action = [] := by
  cases action with
  | packetHandler extracted =>
      simp [step, finished] at taken
  | stopFilter =>
      simp [step, finished] at taken
  | sniffEnds =>
      simp [step, finished] at taken
  | finishSniffing =>
      simp [step, finished] at taken
  | get =>
      simp only [step] at taken
      split at taken
      · split at taken
        · cases taken
          exact ⟨finished, rfl⟩
        · cases taken
          exact ⟨finished, rfl⟩
        · cases taken
      · cases taken
  | resume =>
      simp only [step] at taken
      split at taken
      · cases taken
        exact ⟨finished, rfl⟩
      · cases taken
  | close =>
      simp only [step] at taken
      split at taken
      · cases taken
      · cases taken
        exact ⟨finished, rfl⟩

/-- What a step does to the consumer. -/
inductive ConsumerStep
    (capture : LiveCapture)
    (action : CaptureAction)
    (next : LiveCapture) : Prop where
  | delivered
      (packet : CapturedPacket)
      (before : capture.consumer = .waiting)
      (taken : capture.takes action = [some packet])
      (done : capture.handles action = [])
      (after : next.consumer = .yielded packet)
  | ended
      (taken : capture.takes action = [none])
      (done : capture.handles action = [])
      (before : capture.consumer = .waiting)
      (after : next.consumer = .left)
  | resumed
      (packet : CapturedPacket)
      (before : capture.consumer = .yielded packet)
      (taken : capture.takes action = [])
      (done : capture.handles action = [packet])
      (after : next.consumer = .waiting)
  | closed
      (isClose : action = .close)
      (taken : capture.takes action = [])
      (done : capture.handles action = [])
      (after : next.consumer = .left)
  | other
      (taken : capture.takes action = [])
      (done : capture.handles action = [])
      (same : next.consumer = capture.consumer)

/-- Every step is one of these. -/
theorem consumer_step
    {capture next : LiveCapture}
    {action : CaptureAction}
    (taken : capture.step action = some next) :
    ConsumerStep capture action next := by
  cases action with
  | packetHandler extracted =>
      simp only [step] at taken
      split at taken
      · cases extracted with
        | none =>
            cases taken
            exact .other rfl rfl rfl
        | some packet =>
            cases taken
            exact .other rfl rfl (consumer_putOrDrop _ _)
      · cases taken
  | stopFilter =>
      simp only [step] at taken
      split at taken
      · cases taken
        exact .other rfl rfl rfl
      · cases taken
  | sniffEnds =>
      simp only [step] at taken
      split at taken
      · cases taken
        exact .other rfl rfl rfl
      · cases taken
  | finishSniffing =>
      simp only [step] at taken
      split at taken
      · cases taken
        exact .other rfl rfl (consumer_putOrDrop _ _)
      · cases taken
  | get =>
      simp only [step] at taken
      split at taken <;> rename_i waiting
      · split at taken <;> rename_i front
        · cases taken
          have split := BoundedQueue.get?_eq_some_iff.mp front
          exact .ended (by simp [takes, split]) rfl waiting rfl
        · rename_i item rest
          cases taken
          have split := BoundedQueue.get?_eq_some_iff.mp front
          exact .delivered item waiting (by simp [takes, split]) rfl rfl
        · cases taken
      · cases taken
  | resume =>
      simp only [step] at taken
      split at taken <;> rename_i yielded
      · cases taken
        exact .resumed _ yielded rfl (by simp [handles, current, yielded])
          rfl
      · cases taken
  | close =>
      simp only [step] at taken
      split at taken
      · cases taken
      · cases taken
        exact .closed rfl rfl rfl rfl

/-! ### First in, first out -/

/-- What the actions so far have made of the packets. -/
structure InOrder
    (past : List CaptureAction)
    (capture : LiveCapture) : Prop where
  unmarked : capture.Unmarked
  markerLast : none ∉ capture.packetQueue.items.dropLast
  queued :
    gathered step accepts opened past =
      gathered step delivers opened past ++ capture.packets
  worked :
    ∃ lost,
      gathered step delivers opened past =
          gathered step handles opened past ++ lost ∧
        (lost = capture.current ∨
          capture.consumer = .left ∧ CaptureAction.close ∈ past)
  drained :
    capture.consumer = .left →
      CaptureAction.close ∉ past →
        capture.sniffer = .finished ∧ capture.packetQueue.items = []

/-- The marker stays behind the packets. -/
theorem markerLast_step
    {capture next : LiveCapture}
    {action : CaptureAction}
    (unmarked : capture.Unmarked)
    (markerLast : none ∉ capture.packetQueue.items.dropLast)
    (taken : capture.step action = some next) :
    none ∉ next.packetQueue.items.dropLast := by
  have items := items_step taken
  by_cases nothing : capture.puts action = []
  · rw [nothing, List.append_nil] at items
    rw [items] at markerLast
    by_cases empty : next.packetQueue.items = []
    · rw [empty]
      exact List.not_mem_nil
    · rw [List.dropLast_append_of_ne_nil empty] at markerLast
      exact fun member => markerLast (List.mem_append_right _ member)
  · have running : capture.sniffer ≠ .finished := by
      intro finished
      apply nothing
      rw [puts, (sniffer_step finished taken).2, ite_self]
    have absent := unmarked running
    have noTake : capture.takes action = [] := by
      cases action with
      | get =>
          exact absurd (ite_self _) nothing
      | _ =>
          rfl
    have single : ∃ item, capture.puts action = [item] := by
      rw [puts] at nothing ⊢
      split at nothing
      · rename_i room
        rw [if_pos room]
        cases action with
        | packetHandler extracted =>
            cases extracted with
            | none =>
                exact absurd rfl nothing
            | some packet =>
                exact ⟨some packet, rfl⟩
        | finishSniffing =>
            exact ⟨none, rfl⟩
        | _ =>
            exact absurd rfl nothing
      · exact absurd rfl nothing
    obtain ⟨item, isItem⟩ := single
    rw [noTake, isItem, List.nil_append] at items
    rw [← items, List.dropLast_concat]
    exact absent

/-- The packets stay in order, whatever step is taken. -/
theorem InOrder.concat
    {past : List CaptureAction}
    {capture next : LiveCapture}
    {action : CaptureAction}
    (before : capture.InOrder past)
    (followed : follow step opened past = some capture)
    (taken : capture.step action = some next) :
    next.InOrder (past ++ [action]) where
  unmarked := unmarked_step before.unmarked taken
  markerLast :=
    markerLast_step before.unmarked before.markerLast taken
  queued := by
    rw [gathered_concat followed, gathered_concat followed, before.queued,
      List.append_assoc, List.append_assoc, packets_step taken]
  worked := by
    obtain ⟨lost, isLost, reason⟩ := before.worked
    rw [gathered_concat followed, gathered_concat followed, isLost,
      delivers]
    cases consumer_step taken with
    | delivered packet waiting isTaken done after =>
        have none : lost = [] := by
          rcases reason with rfl | ⟨isLeft, _⟩
          · rw [current, waiting]
          · rw [waiting] at isLeft
            cases isLeft
        refine ⟨[packet], ?_, Or.inl ?_⟩
        · rw [isTaken, done, none]
          simp
        · rw [current, after]
    | ended isTaken done waiting after =>
        have none : lost = [] := by
          rcases reason with rfl | ⟨isLeft, _⟩
          · rw [current, waiting]
          · rw [waiting] at isLeft
            cases isLeft
        refine ⟨[], ?_, Or.inl ?_⟩
        · rw [isTaken, done, none]
          simp
        · rw [current, after]
    | resumed packet yielded isTaken done after =>
        have one : lost = [packet] := by
          rcases reason with rfl | ⟨isLeft, _⟩
          · rw [current, yielded]
          · rw [yielded] at isLeft
            cases isLeft
        refine ⟨[], ?_, Or.inl ?_⟩
        · rw [isTaken, done, one]
          simp
        · rw [current, after]
    | closed isClose isTaken done after =>
        refine ⟨lost, ?_, Or.inr ⟨after, by simp [isClose]⟩⟩
        rw [isTaken, done]
        simp
    | other isTaken done same =>
        refine ⟨lost, ?_, ?_⟩
        · rw [isTaken, done]
          simp
        · rw [current, same]
          rcases reason with isCurrent | ⟨isLeft, closed⟩
          · exact Or.inl isCurrent
          · exact Or.inr ⟨isLeft, List.mem_append_left _ closed⟩
  drained := by
    intro isLeft stillOpen
    rw [List.mem_append, not_or, List.mem_singleton] at stillOpen
    have items := items_step taken
    cases consumer_step taken with
    | delivered packet waiting isTaken done after =>
        rw [after] at isLeft
        cases isLeft
    | ended isTaken done waiting after =>
        obtain ⟨rest, front⟩ := capture.takes_append action
        rw [isTaken] at front
        have finished : capture.sniffer = .finished := by
          by_contra running
          apply before.unmarked running
          rw [front]
          exact List.mem_cons_self
        have isLast : rest = [] := by
          by_contra more
          apply before.markerLast
          rw [front, List.dropLast_append_of_ne_nil more]
          exact List.mem_cons_self
        obtain ⟨still, noOffer⟩ := sniffer_step finished taken
        refine ⟨still, ?_⟩
        rw [isTaken, puts, noOffer, ite_self, front, isLast] at items
        exact (List.cons.inj items).2.symm
    | resumed packet yielded isTaken done after =>
        rw [after] at isLeft
        cases isLeft
    | closed isClose isTaken done after =>
        exact absurd isClose.symm stillOpen.2
    | other isTaken done same =>
        rw [same] at isLeft
        obtain ⟨finished, isEmpty⟩ := before.drained isLeft stillOpen.1
        obtain ⟨still, noOffer⟩ := sniffer_step finished taken
        refine ⟨still, ?_⟩
        rw [isTaken, puts, noOffer, ite_self, isEmpty] at items
        exact items.symm

/-- The packets are in order after every schedule. -/
theorem inOrder_of_follow
    {schedule : List CaptureAction}
    {capture : LiveCapture}
    (followed : follow step opened schedule = some capture) :
    capture.InOrder schedule := by
  have initially : opened.InOrder [] := by
    refine ⟨fun _ => List.not_mem_nil, List.not_mem_nil, rfl,
      ⟨[], rfl, Or.inl rfl⟩, ?_⟩
    intro isLeft
    cases isLeft
  apply @history_of_follow _ _ _ _ _ (fun past state => state.InOrder past)
    initially _ _ followed
  intro past state action next reached before taken
  exact before.concat reached taken

/-- A step puts what it extracts into the queue, or drops it. -/
theorem accepts_sublist (capture : LiveCapture) (action : CaptureAction) :
    (capture.accepts action).Sublist (capture.extracts action) ∧
      (capture.extracts action).length =
        (capture.accepts action).length +
          (capture.drops action).length := by
  cases room : capture.hasRoom with
  | true =>
      obtain ⟨accepted, dropped⟩ := accepts_of_room room action
      rw [accepted, dropped]
      exact ⟨.refl _, rfl⟩
  | false =>
      obtain ⟨accepted, dropped⟩ := accepts_of_full room action
      rw [accepted, dropped]
      exact ⟨List.nil_sublist _, (Nat.zero_add _).symm⟩

/-- The packets that are not dropped are in the order of the capture. -/
theorem gathered_accepts
    (capture : LiveCapture)
    (schedule : List CaptureAction) :
    (gathered step accepts capture schedule).Sublist
        (gathered step extracts capture schedule) ∧
      (gathered step extracts capture schedule).length =
        (gathered step accepts capture schedule).length +
          (gathered step drops capture schedule).length := by
  induction schedule generalizing capture with
  | nil =>
      exact ⟨.slnil, rfl⟩
  | cons action rest inductionHypothesis =>
      obtain ⟨ownOrder, ownCount⟩ := capture.accepts_sublist action
      simp only [gathered]
      cases capture.step action with
      | none =>
          simpa using ⟨ownOrder, ownCount⟩
      | some next =>
          obtain ⟨laterOrder, laterCount⟩ := inductionHypothesis next
          refine ⟨ownOrder.append laterOrder, ?_⟩
          simp only [List.length_append, ownCount, laterCount]
          omega

end LiveCapture

/-! ### The loop over a live capture -/

namespace LiveSession

variable (setup : PipelineSetup)
variable (environment : Nat → CapturedPacket → PacketCall)

/-- The program before the first packet. -/
def opened : LiveSession where
  capture := .opened
  loop := .start

/--
A step of either thread.  When the loop comes back for the next packet, it has
handled the one that it was given.
-/
def step (session : LiveSession) (action : CaptureAction) :
    Option LiveSession :=
  (session.capture.step action).map fun capture => {
    capture
    loop :=
      (session.capture.handles action).foldl
        (MainLoop.handle setup environment) session.loop }

variable {setup environment}

/-- The capture of a session takes the same steps. -/
theorem follow_capture
    {schedule : List CaptureAction}
    {start session : LiveSession}
    (followed :
      follow (step setup environment) start schedule = some session) :
    follow LiveCapture.step start.capture schedule =
        some session.capture ∧
      session.loop =
        (gathered LiveCapture.step LiveCapture.handles start.capture
          schedule).foldl (MainLoop.handle setup environment)
            start.loop := by
  induction schedule generalizing start with
  | nil =>
      cases followed
      exact ⟨rfl, rfl⟩
  | cons action rest inductionHypothesis =>
      rw [follow, Option.bind_eq_some_iff] at followed
      obtain ⟨next, taken, followed⟩ := followed
      obtain ⟨capture, isStep, rfl⟩ := Option.map_eq_some_iff.mp taken
      obtain ⟨reached, isLoop⟩ := inductionHypothesis followed
      refine ⟨?_, ?_⟩
      · rw [follow_cons_of_step isStep]
        exact reached
      · simp only [gathered, isStep, List.foldl_append]
        exact isLoop

/-- A schedule of the capture is one of the session. -/
theorem follow_session
    {schedule : List CaptureAction}
    (start : LiveSession)
    {capture : LiveCapture}
    (followed :
      follow LiveCapture.step start.capture schedule = some capture) :
    ∃ session,
      follow (step setup environment) start schedule = some session ∧
        session.capture = capture := by
  induction schedule generalizing start with
  | nil =>
      cases followed
      exact ⟨start, rfl, rfl⟩
  | cons action rest inductionHypothesis =>
      rw [follow, Option.bind_eq_some_iff] at followed
      obtain ⟨next, taken, followed⟩ := followed
      obtain ⟨session, reached, isCapture⟩ :=
        inductionHypothesis
          ⟨next, (start.capture.handles action).foldl
            (MainLoop.handle setup environment) start.loop⟩ followed
      refine ⟨session, ?_, isCapture⟩
      have isStep :
          step setup environment start action =
            some ⟨next, (start.capture.handles action).foldl
              (MainLoop.handle setup environment) start.loop⟩ := by
        rw [step, taken]
        rfl
      rw [follow_cons_of_step isStep]
      exact reached

/-- The loop has handled a beginning of the packets with room in the queue. -/
theorem handled_prefix
    {schedule : List CaptureAction}
    {session : LiveSession}
    (followed :
      follow (step setup environment) opened schedule = some session) :
    ∃ handled later,
      gathered LiveCapture.step LiveCapture.accepts .opened schedule =
          handled ++ later ∧
        session.loop =
          MainLoop.handleAll setup environment handled ∧
        (CaptureAction.close ∉ schedule →
          session.capture.consumer = .left → later = []) := by
  obtain ⟨reached, isLoop⟩ := follow_capture followed
  have inOrder := LiveCapture.inOrder_of_follow reached
  obtain ⟨lost, isLost, reason⟩ := inOrder.worked
  refine ⟨_, lost ++ session.capture.packets, ?_, isLoop, ?_⟩
  · rw [inOrder.queued, isLost, List.append_assoc]
    rfl
  · intro stillOpen isLeft
    have noneLost : lost = [] := by
      rcases reason with isCurrent | ⟨_, closed⟩
      · rw [isCurrent, LiveCapture.current, isLeft]
      · exact absurd closed stillOpen
    obtain ⟨_, isEmpty⟩ := inOrder.drained isLeft stillOpen
    rw [noneLost, LiveCapture.packets, isEmpty]
    rfl

/--
Live mode does what the offline mode does to a file with the packets that the
queue had room for, in the order of their capture; only a full queue drops
any.  At any moment the loop has handled a beginning of them.  When the capture
has ended by itself it has handled all of them, and as long as the marker is in
the queue the loop gets there without the other thread.
-/
theorem refines_offline
    {schedule : List CaptureAction}
    {session : LiveSession}
    (followed :
      follow (step setup environment) opened schedule = some session) :
    let kept := gathered LiveCapture.step LiveCapture.accepts .opened schedule
    let captured :=
      gathered LiveCapture.step LiveCapture.extracts .opened schedule
    let dropped := gathered LiveCapture.step LiveCapture.drops .opened schedule
    kept.Sublist captured ∧
      captured.length = kept.length + dropped.length ∧
      (∃ handled, handled <+: kept ∧
        session.loop =
          MainLoop.handleAll setup environment
            (readPcap (handled.map some))) ∧
      (CaptureAction.close ∉ schedule →
        session.capture.consumer = .left →
          session.loop =
            MainLoop.handleAll setup environment
              (readPcap (kept.map some))) ∧
      (CaptureAction.close ∉ schedule →
        none ∈ session.capture.packetQueue.items →
          ∃ actions final,
            (∀ action ∈ actions, action = .get ∨ action = .resume) ∧
              follow (step setup environment) session actions =
                some final ∧
              final.capture.consumer = .left ∧
              final.loop =
                MainLoop.handleAll setup environment
                  (readPcap (kept.map some))) := by
  intro kept captured dropped
  have sameFile :
      ∀ packets : List CapturedPacket,
        readPcap (packets.map some) = packets := by
    intro packets
    rw [readPcap, List.reduceOption, List.filterMap_map]
    exact List.filterMap_some
  have atEnd :
      ∀ {longer : List CaptureAction} {final : LiveSession},
        follow (step setup environment) opened longer = some final →
          CaptureAction.close ∉ longer →
            final.capture.consumer = .left →
              final.loop =
                MainLoop.handleAll setup environment
                  (gathered LiveCapture.step LiveCapture.accepts .opened
                    longer) := by
    intro longer final reached stillOpen isLeft
    obtain ⟨handled, later, isKept, isLoop, atLeft⟩ :=
      handled_prefix reached
    rw [isKept, atLeft stillOpen isLeft, List.append_nil]
    exact isLoop
  obtain ⟨order, count⟩ :=
    LiveCapture.gathered_accepts .opened schedule
  refine ⟨order, count, ?_, ?_, ?_⟩
  · obtain ⟨handled, later, isKept, isLoop, _⟩ := handled_prefix followed
    exact ⟨handled, ⟨later, isKept.symm⟩, by rw [sameFile, isLoop]⟩
  · intro stillOpen isLeft
    rw [sameFile]
    exact atEnd followed stillOpen isLeft
  · intro stillOpen marked
    obtain ⟨actions, capture, own, exits, isLeft⟩ :=
      LiveCapture.loopExits_of_marker marked
    obtain ⟨final, continued, isCapture⟩ :=
      @follow_session setup environment actions session capture exits
    have whole :
        follow (step setup environment) opened (schedule ++ actions) =
          some final := by
      rw [follow_append_of_follow followed]
      exact continued
    have reached := (follow_capture followed).1
    have noMore :
        gathered LiveCapture.step LiveCapture.accepts .opened
            (schedule ++ actions) = kept := by
      apply gathered_append_of_nil reached
      intro action member capture
      rcases own action member with rfl | rfl
      · simp [LiveCapture.accepts, LiveCapture.puts, LiveCapture.offers]
      · simp [LiveCapture.accepts, LiveCapture.puts, LiveCapture.offers]
    have neverClosed : CaptureAction.close ∉ schedule ++ actions := by
      rw [List.mem_append, not_or]
      refine ⟨stillOpen, fun member => ?_⟩
      rcases own _ member with same | same <;> cases same
    refine ⟨actions, final, own, continued, isCapture ▸ isLeft, ?_⟩
    rw [sameFile, ← noMore]
    exact atEnd whole neverClosed (isCapture ▸ isLeft)

end LiveSession

/-- Every captured packet goes through the pipeline without a fault. -/
def plainPackets (number : Nat) (packet : CapturedPacket) : PacketCall :=
  plainPacket number packet.timestamp packet.raw

/--
A burst is one packet too long for the queue, and the loop takes a single
packet before the device fails.
-/
def longCapture : List CaptureAction :=
  LiveCapture.burst packetQueueMaxsize ++
    [.packetHandler (some ⟨1, [69]⟩), .get, .sniffEnds, .finishSniffing]

/-- The last packet is dropped, and the end marker waits in the queue. -/
theorem LiveCapture.follow_longCapture :
    ∃ capture,
      follow LiveCapture.step .opened longCapture = some capture ∧
        ⟨1, [69]⟩ ∈ gathered step drops .opened longCapture ∧
        none ∈ capture.packetQueue.items := by
  obtain ⟨filled, reached, items, sniffing, waiting⟩ :=
    follow_fillingBurst
  have queued :
      filled.packetQueue.items =
        some ⟨0, []⟩ :: List.replicate 1999 (some ⟨0, []⟩) := by
    rw [items]
    rfl
  have full :
      filled.packetQueue.items.length = packetQueueMaxsize := by
    rw [queued, List.length_cons, List.length_replicate]
    rfl
  have overflows :
      filled.step (.packetHandler (some ⟨1, [69]⟩)) = some filled := by
    simp only [step, sniffing, putOrDrop_of_full full, if_true]
  obtain ⟨served, taken, _, remaining, same⟩ :=
    step_get_packet waiting queued
  let ending : LiveCapture := { served with sniffer := .ending }
  have ends : served.step .sniffEnds = some ending := by
    simp only [step, same, sniffing, if_true]
    rfl
  have finishes :
      ending.step .finishSniffing =
        some { ending.putOrDrop none with sniffer := .finished } :=
    rfl
  have below : ending.packetQueue.items.length < packetQueueMaxsize := by
    change served.packetQueue.items.length < _
    rw [remaining, List.length_replicate]
    decide
  refine ⟨{ ending.putOrDrop none with sniffer := .finished }, ?_, ?_, ?_⟩
  · rw [longCapture, follow_append_of_follow reached,
      follow_cons_of_step overflows, follow_cons_of_step taken,
      follow_cons_of_step ends, follow_cons_of_step finishes, follow_nil]
  · have noRoom : filled.hasRoom = false := by
      rw [hasRoom, full]
      exact decide_eq_false (Nat.lt_irrefl _)
    have isDropped :
        filled.drops (.packetHandler (some ⟨1, [69]⟩)) = [⟨1, [69]⟩] := by
      rw [drops, noRoom]
      rfl
    rw [longCapture, gathered_append_of_follow reached, gathered,
      isDropped]
    simp
  · change none ∈ (ending.putOrDrop none).packetQueue.items
    rw [items_putOrDrop_of_lt below]
    simp

/-- The loop handles all packets but the dropped one, and ends. -/
theorem LiveSession.refines_longCapture :
    ∃ session actions final,
      follow (step httpPipeline plainPackets) opened longCapture =
          some session ∧
        ⟨1, [69]⟩ ∈
          gathered LiveCapture.step LiveCapture.drops .opened longCapture ∧
        follow (step httpPipeline plainPackets) session actions =
          some final ∧
        final.capture.consumer = .left ∧
        final.loop =
          MainLoop.handleAll httpPipeline plainPackets
            (readPcap
              ((gathered LiveCapture.step LiveCapture.accepts .opened
                longCapture).map some)) := by
  obtain ⟨capture, captured, isDropped, marked⟩ :=
    LiveCapture.follow_longCapture
  obtain ⟨session, followed, rfl⟩ :=
    @follow_session httpPipeline plainPackets longCapture opened capture
      captured
  obtain ⟨_, _, _, _, exits⟩ := refines_offline followed
  have stillOpen : CaptureAction.close ∉ longCapture := by
    simp [longCapture, LiveCapture.burst]
  obtain ⟨actions, final, _, continued, isLeft, isLoop⟩ :=
    exits stillOpen marked
  exact ⟨session, actions, final, followed, isDropped, continued, isLeft,
    isLoop⟩

end IntrusionDetection
