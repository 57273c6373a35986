import IntrusionDetection.Histories
import IntrusionDetection.TcpState

namespace IntrusionDetection

open PyText Histories

/-!
# The state of a TCP flow as a law of its history

`nextState` is a cascade over the flags of one packet with a context carried
along.  The law below determines the same state from the packets of a flow
alone, and `Follows` is the invariant that connects the two.
-/

/-- What the state machine sees of a packet. -/
structure TcpSegment where
  syn : Bool
  ack : Bool
  fin : Bool
  rst : Bool
  direction : Direction
  deriving Repr, DecidableEq

/-- The segment with a set of flags in a direction. -/
def TcpSegment.ofFlags
    (flagSet : List Str)
    (direction : Direction) :
    TcpSegment where
  syn := lit "SYN" ∈ flagSet
  ack := lit "ACK" ∈ flagSet
  fin := lit "FIN" ∈ flagSet
  rst := lit "RST" ∈ flagSet
  direction := direction

/-- A FIN packet: one with FIN and without SYN or RST. -/
def TcpSegment.isFin (segment : TcpSegment) : Bool :=
  segment.fin && !segment.syn && !segment.rst

/-- A packet with ACK and without SYN and FIN. -/
def TcpSegment.isPlainAck (segment : TcpSegment) : Bool :=
  segment.ack && !segment.syn && !segment.fin

/-- A SYN+ACK of the responder. -/
def TcpSegment.isAnswer (segment : TcpSegment) : Bool :=
  segment.syn && segment.ack && segment.direction = .backward

namespace TcpHistory

/-! ### The law -/

/-- Some FIN packet was seen. -/
def SomeFin (history : List TcpSegment) : Prop :=
  ∃ segment ∈ history, segment.isFin = true

/-- A FIN packet was sent in a direction. -/
def SentFin (direction : Direction) (history : List TcpSegment) : Prop :=
  ∃ segment ∈ history,
    segment.isFin = true ∧ segment.direction = direction

/-- Both directions have sent a FIN packet. -/
def BothSentFin (history : List TcpSegment) : Prop :=
  SentFin .forward history ∧ SentFin .backward history

/-- The packets before the first RST. -/
def beforeReset (history : List TcpSegment) : List TcpSegment :=
  history.takeWhile fun segment => !segment.rst

/--
Before any RST, both directions have sent a FIN packet and, if the final
acknowledgement is required, a later packet is a plain ACK.
-/
def Closes (finalAck : Bool) (history : List TcpSegment) : Prop :=
  match finalAck with
  | false => BothSentFin (beforeReset history)
  | true =>
      Sometime
        (fun before segment =>
          BothSentFin before ∧ segment.isPlainAck = true)
        (beforeReset history)

/-- Some packet carries RST, and the flow was not closed before it. -/
def Resets (finalAck : Bool) (history : List TcpSegment) : Prop :=
  Sometime
    (fun before segment =>
      segment.rst = true ∧ ¬ Closes finalAck before)
    history

/--
Direction of the last qualifying SYN+ACK: the first packet itself, or a later
one sent backward.
-/
def lastSynAck? (history : List TcpSegment) : Option Direction :=
  match history with
  | [] => none
  | first :: later =>
      if later.any TcpSegment.isAnswer then
        some .backward
      else if first.syn ∧ first.ack then
        some first.direction
      else
        none

/--
The first packet carries no SYN, or some packet carries ACK without SYN and the
last qualifying SYN+ACK before it went in the opposite direction.
-/
def Establishes (history : List TcpSegment) : Prop :=
  (∃ first ∈ history.head?, first.syn = false) ∨
    Sometime
      (fun before segment =>
        segment.ack = true ∧ segment.syn = false ∧
          ∃ answered ∈ lastSynAck? before,
            segment.direction ≠ answered)
      history

/-- The state the history of a flow determines. -/
structure StateByHistory
    (finalAck : Bool)
    (history : List TcpSegment)
    (state : FlowState) : Prop where
  reset : state = .reset ↔ Resets finalAck history
  closed : state = .closed ↔ Closes finalAck history
  closing :
    ¬ Resets finalAck history →
    ¬ Closes finalAck history →
    (state = .closing ↔ SomeFin history)
  established :
    ¬ Resets finalAck history →
    ¬ Closes finalAck history →
    ¬ SomeFin history →
    (state = .established ↔ Establishes history)
  handshake :
    ¬ Resets finalAck history →
    ¬ Closes finalAck history →
    ¬ SomeFin history →
    ¬ Establishes history →
    state = .handshake

/-! ### How the law unfolds along a history -/

section Concat

variable {history : List TcpSegment} {segment : TcpSegment}
variable {finalAck : Bool} {direction : Direction}

theorem someFin_concat :
    SomeFin (history ++ [segment]) ↔
      SomeFin history ∨ segment.isFin = true := by
  simp [SomeFin, or_and_right, exists_or]

theorem sentFin_concat :
    SentFin direction (history ++ [segment]) ↔
      SentFin direction history ∨
        (segment.isFin = true ∧ segment.direction = direction) := by
  simp [SentFin, or_and_right, exists_or]

/-- A packet that is no FIN packet leaves the directions that sent one. -/
theorem bothSentFin_concat_of_not
    (notFin : segment.isFin = false) :
    BothSentFin (history ++ [segment]) ↔ BothSentFin history := by
  simp [BothSentFin, sentFin_concat, notFin]

/-- FIN packets of a part are FIN packets of the whole. -/
theorem BothSentFin.mono
    {part whole : List TcpSegment}
    (both : BothSentFin part)
    (included : part.Sublist whole) :
    BothSentFin whole := by
  obtain ⟨⟨first, firstMember, firstFin⟩,
    ⟨second, secondMember, secondFin⟩⟩ := both
  exact ⟨⟨first, included.subset firstMember, firstFin⟩,
    ⟨second, included.subset secondMember, secondFin⟩⟩

/-- Without any RST the whole history is before it. -/
theorem beforeReset_eq_self
    (noReset : ∀ segment ∈ history, segment.rst = false) :
    beforeReset history = history :=
  List.takeWhile_eq_self_iff.mpr fun segment member => by
    simp [noReset segment member]

/-- An RST ends the part before it, and nothing after the RST extends it. -/
theorem beforeReset_append_of_reset
    (reset : ∃ segment ∈ history, segment.rst = true)
    (more : List TcpSegment) :
    beforeReset (history ++ more) = beforeReset history := by
  refine takeWhile_append_of_ended ?_ more
  obtain ⟨segment, member, isReset⟩ := reset
  exact ⟨segment, member, by simp [isReset]⟩

/-- An RST packet does not close a flow. -/
theorem closes_concat_reset
    (isReset : segment.rst = true) :
    Closes finalAck (history ++ [segment]) ↔ Closes finalAck history := by
  have unchanged :
      beforeReset (history ++ [segment]) = beforeReset history := by
    by_cases reset : ∃ earlier ∈ history, earlier.rst = true
    · exact beforeReset_append_of_reset reset [segment]
    · have noReset : ∀ earlier ∈ history, earlier.rst = false := by
        simpa using reset
      rw [beforeReset, takeWhile_concat (by simpa using noReset),
        beforeReset_eq_self noReset]
      simp [isReset]
  cases finalAck <;> simp only [Closes, unchanged]

/-- What a packet without RST adds to a history without RST. -/
theorem closes_concat
    (noReset : ∀ earlier ∈ history, earlier.rst = false)
    (notReset : segment.rst = false) :
    Closes finalAck (history ++ [segment]) ↔
      match finalAck with
      | false => BothSentFin (history ++ [segment])
      | true =>
          Closes true history ∨
            (BothSentFin history ∧ segment.isPlainAck = true) := by
  have whole :
      beforeReset (history ++ [segment]) = history ++ [segment] := by
    refine beforeReset_eq_self fun earlier member => ?_
    rcases List.mem_append.mp member with old | isNew
    · exact noReset earlier old
    · rw [List.mem_singleton.mp isNew]
      exact notReset
  cases finalAck with
  | false =>
      simp only [Closes, whole]
  | true =>
      simp only [Closes, whole, beforeReset_eq_self noReset,
        sometime_concat]

/-- A closed flow stays closed. -/
theorem Closes.append
    (closes : Closes finalAck history)
    (more : List TcpSegment) :
    Closes finalAck (history ++ more) := by
  by_cases reset : ∃ segment ∈ history, segment.rst = true
  · have unchanged := beforeReset_append_of_reset reset more
    cases finalAck <;> simpa only [Closes, unchanged] using closes
  · have noReset : ∀ segment ∈ history, segment.rst = false := by
      simpa using reset
    have extended :
        beforeReset (history ++ more) = history ++ beforeReset more :=
      List.takeWhile_append_of_pos (by simpa using noReset)
    cases finalAck with
    | false =>
        simp only [Closes, beforeReset_eq_self noReset] at closes
        simp only [Closes, extended]
        exact closes.mono (List.sublist_append_left _ _)
    | true =>
        simp only [Closes, beforeReset_eq_self noReset] at closes
        simp only [Closes, extended]
        exact closes.append _

/-- Closing a flow takes a FIN packet. -/
theorem Closes.someFin (closes : Closes finalAck history) :
    SomeFin history := by
  have fromPart :
      ∀ part : List TcpSegment,
        part.Sublist history → BothSentFin part → SomeFin history := by
    rintro part included ⟨⟨segment, member, isFin, _⟩, _⟩
    exact ⟨segment, included.subset member, isFin⟩
  have before : (beforeReset history).Sublist history :=
    List.takeWhile_sublist _
  cases finalAck with
  | false =>
      exact fromPart _ before closes
  | true =>
      obtain ⟨earlier, segment, later, split, both, _⟩ := closes
      refine fromPart earlier (List.Sublist.trans ?_ before) both
      rw [split]
      exact List.sublist_append_left _ _

/-- A history without RST resets no flow. -/
theorem not_resets_of_noReset
    (noReset : ∀ segment ∈ history, segment.rst = false) :
    ¬ Resets finalAck history := by
  refine not_sometime fun before segment member reset => ?_
  rw [noReset segment member] at reset
  cases reset.1

/-- A reset flow stays reset, and is not closed by what follows. -/
theorem Resets.concat
    (resets : Resets finalAck history)
    (stillOpen : ¬ Closes finalAck history)
    (segment : TcpSegment) :
    Resets finalAck (history ++ [segment]) ∧
      ¬ Closes finalAck (history ++ [segment]) := by
  refine ⟨Sometime.append resets _, ?_⟩
  have reset : ∃ earlier ∈ history, earlier.rst = true := by
    obtain ⟨before, earlier, later, split, isReset, _⟩ := resets
    exact ⟨earlier, by simp [split], isReset⟩
  have unchanged := beforeReset_append_of_reset reset [segment]
  cases finalAck <;> simpa only [Closes, unchanged] using stillOpen

/-- A closed flow is not reset by what follows. -/
theorem Closes.concat
    (closes : Closes finalAck history)
    (notReset : ¬ Resets finalAck history)
    (segment : TcpSegment) :
    Closes finalAck (history ++ [segment]) ∧
      ¬ Resets finalAck (history ++ [segment]) := by
  refine ⟨closes.append _, ?_⟩
  rw [Resets, sometime_concat]
  rintro (earlier | ⟨_, stillOpen⟩)
  · exact notReset earlier
  · exact stillOpen closes

/-- A later packet moves the last SYN+ACK only if it is an answer. -/
theorem lastSynAck?_concat
    (nonempty : history ≠ [])
    (segment : TcpSegment) :
    lastSynAck? (history ++ [segment]) =
      if segment.isAnswer then
        some .backward
      else
        lastSynAck? history := by
  cases history with
  | nil =>
      exact (nonempty rfl).elim
  | cons first later =>
      cases answer : segment.isAnswer <;>
        simp [lastSynAck?, answer]

/-- What a later packet adds to the handshake. -/
theorem establishes_concat
    (nonempty : history ≠ []) :
    Establishes (history ++ [segment]) ↔
      Establishes history ∨
        (segment.ack = true ∧ segment.syn = false ∧
          ∃ answered ∈ lastSynAck? history,
            segment.direction ≠ answered) := by
  simp only [Establishes, sometime_concat, or_assoc]
  cases history with
  | nil =>
      exact (nonempty rfl).elim
  | cons first later =>
      rfl

end Concat

/-! ### What one packet does to the state -/

section NextState

variable {state : FlowState} {flags : PyValue} {direction : Direction}
variable {ctx : TcpContext} {isFirst : Bool}

/-- The segment `nextState` is given. -/
abbrev segmentOf (flags : PyValue) (direction : Direction) : TcpSegment :=
  .ofFlags (normalizeFlags flags) direction

/-- The flow is neither closed nor reset. -/
def StillOpen (state : FlowState) : Prop :=
  state ≠ .closed ∧ state ≠ .reset

theorem nextState_of_rst
    (isOpen : StillOpen state)
    (rst : (segmentOf flags direction).rst = true) :
    nextState state flags direction ctx isFirst = (.reset, ctx) := by
  simp only [TcpSegment.ofFlags, decide_eq_true_eq] at rst
  simp [nextState, isOpen.1, isOpen.2, rst]

theorem nextState_of_syn
    (isOpen : StillOpen state)
    (rst : (segmentOf flags direction).rst = false)
    (syn : (segmentOf flags direction).syn = true) :
    nextState state flags direction ctx false =
      if state = .handshake ∧ (segmentOf flags direction).isAnswer then
        (.handshake,
          { ctx with synackSeen := true, synackDir := some .backward })
      else
        (state, ctx) := by
  simp only [TcpSegment.ofFlags, decide_eq_true_eq,
    decide_eq_false_iff_not] at rst syn
  simp only [nextState, isOpen.1, isOpen.2, rst, syn, or_self, if_false,
    if_true, Bool.false_eq_true, TcpSegment.isAnswer,
    TcpSegment.ofFlags, decide_true, Bool.true_and, Bool.and_eq_true,
    decide_eq_true_eq]
  split <;> rename_i answers
  · rw [answers.2.2]
  · rfl

/-- The context after a FIN packet. -/
def noteFin (direction : Direction) (ctx : TcpContext) : TcpContext :=
  match direction with
  | .forward => { ctx with finFwd := true }
  | .backward => { ctx with finBwd := true }

theorem nextState_of_fin
    (isOpen : StillOpen state)
    (isFin : (segmentOf flags direction).isFin = true) :
    ∃ marked : TcpContext,
      marked.finFwd = ctx.finFwd ∧ marked.finBwd = ctx.finBwd ∧
        nextState state flags direction ctx isFirst =
          (if (noteFin direction marked).finFwd ∧
              (noteFin direction marked).finBwd ∧
              ctx.tcpCloseRequiresFinalAck = false then
            .closed
          else
            .closing,
          noteFin direction marked) := by
  simp only [TcpSegment.isFin, TcpSegment.ofFlags, Bool.and_eq_true,
    decide_eq_true_eq, Bool.not_eq_true', decide_eq_false_iff_not]
    at isFin
  refine ⟨if isFirst then { ctx with midstream := true } else ctx, ?_⟩
  simp only [nextState, isOpen.1, isOpen.2, isFin.1.1, isFin.1.2,
    isFin.2, or_self, if_false, if_true]
  cases isFirst <;> cases direction <;>
    refine ⟨rfl, rfl, ?_⟩ <;>
    simp only [noteFin, Bool.false_eq_true, if_false, if_true] <;>
    split <;> rfl

theorem nextState_of_ack
    (isOpen : StillOpen state)
    (rst : (segmentOf flags direction).rst = false)
    (isPlainAck : (segmentOf flags direction).isPlainAck = true) :
    nextState state flags direction ctx false =
      if state = .handshake ∧ ctx.synackSeen ∧
          some direction ≠ ctx.synackDir then
        (.established, ctx)
      else if state = .closing ∧ ctx.finFwd ∧ ctx.finBwd ∧
          ctx.tcpCloseRequiresFinalAck then
        (.closed, ctx)
      else
        (state, ctx) := by
  simp only [TcpSegment.isPlainAck, TcpSegment.ofFlags,
    Bool.and_eq_true, decide_eq_true_eq, Bool.not_eq_true',
    decide_eq_false_iff_not] at rst isPlainAck
  simp only [nextState, isOpen.1, isOpen.2, rst, isPlainAck.1.1,
    isPlainAck.1.2, isPlainAck.2, or_self, if_false, if_true,
    Bool.false_eq_true]

/-- A first packet with SYN starts the handshake. -/
theorem nextState_first_of_syn
    (rst : (segmentOf flags direction).rst = false)
    (syn : (segmentOf flags direction).syn = true) :
    nextState .handshake flags direction ctx true =
      (.handshake,
        if (segmentOf flags direction).ack then
          { ctx with
            midstream := true
            synackSeen := true
            synackDir := some direction }
        else
          ctx) := by
  simp only [TcpSegment.ofFlags, decide_eq_true_eq,
    decide_eq_false_iff_not] at rst syn
  simp only [nextState, rst, syn, reduceCtorEq, or_self, if_false,
    if_true, TcpSegment.ofFlags, decide_eq_true_eq]
  split <;> rfl

/-- A first packet without SYN is taken for one of a flow under way. -/
theorem nextState_first_of_noSyn
    (rst : (segmentOf flags direction).rst = false)
    (syn : (segmentOf flags direction).syn = false)
    (notFin : (segmentOf flags direction).isFin = false) :
    nextState .handshake flags direction ctx true =
      (.established, { ctx with midstream := true }) := by
  simp only [TcpSegment.ofFlags, decide_eq_false_iff_not] at rst syn
  simp only [TcpSegment.isFin, TcpSegment.ofFlags, rst, syn,
    decide_false, Bool.not_false, Bool.and_true,
    decide_eq_false_iff_not] at notFin
  simp [nextState, rst, syn, notFin]

theorem nextState_of_none
    (isOpen : StillOpen state)
    (rst : (segmentOf flags direction).rst = false)
    (syn : (segmentOf flags direction).syn = false)
    (notFin : (segmentOf flags direction).isFin = false)
    (notAck : (segmentOf flags direction).isPlainAck = false) :
    nextState state flags direction ctx false = (state, ctx) := by
  simp only [TcpSegment.ofFlags, decide_eq_false_iff_not] at rst syn
  simp only [TcpSegment.isFin, TcpSegment.ofFlags, rst, syn,
    decide_false, Bool.not_false, Bool.and_true,
    decide_eq_false_iff_not] at notFin
  simp only [TcpSegment.isPlainAck, TcpSegment.ofFlags, syn, notFin,
    decide_false, Bool.not_false, Bool.and_true,
    decide_eq_false_iff_not] at notAck
  simp [nextState, isOpen.1, isOpen.2, rst, syn, notFin, notAck]

end NextState

/-! ### State and context follow the history -/

/-- The flow is open, and the context knows who sent a FIN packet. -/
structure Running
    (finalAck : Bool)
    (history : List TcpSegment)
    (ctx : TcpContext) : Prop where
  noReset : ∀ segment ∈ history, segment.rst = false
  finFwd : ctx.finFwd = true ↔ SentFin .forward history
  finBwd : ctx.finBwd = true ↔ SentFin .backward history
  stillOpen : ¬ Closes finalAck history

/-- What state and context are after a history. -/
inductive Follows
    (finalAck : Bool)
    (history : List TcpSegment)
    (ctx : TcpContext) :
    FlowState → Prop where
  | handshake
      (running : Running finalAck history ctx)
      (noFin : ¬ SomeFin history)
      (notEstablished : ¬ Establishes history)
      (answered : ctx.synackDir = lastSynAck? history)
      (seen : ctx.synackSeen = (lastSynAck? history).isSome) :
      Follows finalAck history ctx .handshake
  | established
      (running : Running finalAck history ctx)
      (noFin : ¬ SomeFin history)
      (establishes : Establishes history) :
      Follows finalAck history ctx .established
  | closing
      (running : Running finalAck history ctx)
      (someFin : SomeFin history) :
      Follows finalAck history ctx .closing
  | closed
      (closes : Closes finalAck history)
      (notReset : ¬ Resets finalAck history) :
      Follows finalAck history ctx .closed
  | reset
      (resets : Resets finalAck history)
      (stillOpen : ¬ Closes finalAck history) :
      Follows finalAck history ctx .reset

/-- The invariant determines the state as the law does. -/
theorem Follows.stateByHistory
    {finalAck : Bool}
    {history : List TcpSegment}
    {ctx : TcpContext}
    {state : FlowState}
    (follows : Follows finalAck history ctx state) :
    StateByHistory finalAck history state := by
  cases follows with
  | handshake running noFin notEstablished answered seen =>
      have notReset : ¬ Resets finalAck history :=
        not_resets_of_noReset running.noReset
      have notClosed := running.stillOpen
      constructor <;> simp [notReset, notClosed, noFin, notEstablished]
  | established running noFin establishes =>
      have notReset : ¬ Resets finalAck history :=
        not_resets_of_noReset running.noReset
      have notClosed := running.stillOpen
      constructor <;> simp [notReset, notClosed, noFin, establishes]
  | closing running someFin =>
      have notReset : ¬ Resets finalAck history :=
        not_resets_of_noReset running.noReset
      have notClosed := running.stillOpen
      constructor <;> simp [notReset, notClosed, someFin]
  | closed closes notReset =>
      constructor <;> simp [closes, notReset]
  | reset resets stillOpen =>
      constructor <;> simp [resets, stillOpen]

namespace Running

variable {history : List TcpSegment} {segment : TcpSegment}
variable {finalAck : Bool} {ctx other : TcpContext}

/-- Only the FIN bits of the context matter. -/
theorem congr
    (running : Running finalAck history ctx)
    (sameFwd : other.finFwd = ctx.finFwd)
    (sameBwd : other.finBwd = ctx.finBwd) :
    Running finalAck history other :=
  ⟨running.noReset, sameFwd ▸ running.finFwd, sameBwd ▸ running.finBwd,
    running.stillOpen⟩

/-- An RST packet resets an open flow. -/
theorem resets
    (running : Running finalAck history ctx)
    (isReset : segment.rst = true) :
    Resets finalAck (history ++ [segment]) ∧
      ¬ Closes finalAck (history ++ [segment]) := by
  refine ⟨sometime_concat.mpr (Or.inr ⟨isReset, running.stillOpen⟩), ?_⟩
  rw [closes_concat_reset isReset]
  exact running.stillOpen

/-- Both FIN bits together say that both directions sent a FIN packet. -/
theorem both_iff (running : Running finalAck history ctx) :
    (ctx.finFwd = true ∧ ctx.finBwd = true) ↔ BothSentFin history :=
  and_congr running.finFwd running.finBwd

/-- A packet without RST keeps the part before it whole. -/
theorem noReset_concat
    (running : Running finalAck history ctx)
    (notReset : segment.rst = false) :
    ∀ earlier ∈ history ++ [segment], earlier.rst = false := by
  intro earlier member
  rcases List.mem_append.mp member with old | isNew
  · exact running.noReset earlier old
  · rw [List.mem_singleton.mp isNew]
    exact notReset

/-- A packet that is neither RST nor FIN and closes nothing keeps it running. -/
theorem quiet
    (running : Running finalAck history ctx)
    (notReset : segment.rst = false)
    (notFin : segment.isFin = false)
    (closesNothing :
      ¬ (finalAck = true ∧ BothSentFin history ∧
        segment.isPlainAck = true)) :
    Running finalAck (history ++ [segment]) ctx := by
  refine ⟨running.noReset_concat notReset, ?_, ?_, ?_⟩
  · simpa [sentFin_concat, notFin] using running.finFwd
  · simpa [sentFin_concat, notFin] using running.finBwd
  · have stillOpen := running.stillOpen
    rw [closes_concat running.noReset notReset]
    cases finalAck with
    | false =>
        simp only [Closes, beforeReset_eq_self running.noReset]
          at stillOpen
        rwa [bothSentFin_concat_of_not notFin]
    | true =>
        rintro (closes | closesNow)
        · exact stillOpen closes
        · exact closesNothing ⟨rfl, closesNow⟩

/-- After a FIN packet the context knows its direction. -/
theorem bits_noteFin
    (running : Running finalAck history ctx)
    (isFin : segment.isFin = true) :
    let noted := noteFin segment.direction ctx
    (noted.finFwd = true ↔ SentFin .forward (history ++ [segment])) ∧
      (noted.finBwd = true ↔
        SentFin .backward (history ++ [segment])) := by
  intro noted
  have forward := running.finFwd
  have backward := running.finBwd
  simp only [sentFin_concat, isFin, noted]
  cases segment.direction <;> simp [noteFin, forward, backward]

/-- A FIN packet closes a flow exactly if no final ACK is required. -/
theorem closes_fin_iff
    (running : Running finalAck history ctx)
    (isFin : segment.isFin = true) :
    Closes finalAck (history ++ [segment]) ↔
      BothSentFin (history ++ [segment]) ∧ finalAck = false := by
  have stillOpen := running.stillOpen
  have notReset : segment.rst = false := by
    simp only [TcpSegment.isFin, Bool.and_eq_true,
      Bool.not_eq_true'] at isFin
    exact isFin.2
  have notAck : segment.isPlainAck = false := by
    simp only [TcpSegment.isFin, Bool.and_eq_true] at isFin
    simp [TcpSegment.isPlainAck, isFin.1.1]
  rw [closes_concat running.noReset notReset]
  cases finalAck <;> simp [stillOpen, notAck]

/-- A FIN packet closes an open flow or starts closing it. -/
theorem fin
    (running : Running finalAck history ctx)
    (isFin : segment.isFin = true) :
    let noted := noteFin segment.direction ctx
    Follows finalAck (history ++ [segment]) noted
      (if noted.finFwd ∧ noted.finBwd ∧ finalAck = false then
        .closed
      else
        .closing) := by
  intro noted
  have notReset : segment.rst = false := by
    simp only [TcpSegment.isFin, Bool.and_eq_true,
      Bool.not_eq_true'] at isFin
    exact isFin.2
  have noReset := running.noReset_concat notReset
  have closes := running.closes_fin_iff isFin
  obtain ⟨forward, backward⟩ := running.bits_noteFin isFin
  have both := and_congr forward backward
  split <;> rename_i finished
  · refine .closed (closes.mpr ⟨?_, finished.2.2⟩)
      (not_resets_of_noReset noReset)
    exact both.mp ⟨finished.1, finished.2.1⟩
  · refine .closing ⟨noReset, forward, backward, ?_⟩
      (someFin_concat.mpr (Or.inr isFin))
    rw [closes]
    rintro ⟨sent, noFinalAck⟩
    obtain ⟨sentForward, sentBackward⟩ := both.mpr sent
    exact finished ⟨sentForward, sentBackward, noFinalAck⟩

end Running

section Step

variable {history : List TcpSegment} {state : FlowState}
variable {flags : PyValue} {direction : Direction}
variable {finalAck : Bool} {ctx : TcpContext}

/-- A later packet of an open flow is followed if it carries RST. -/
theorem Running.follows_rst
    (running : Running finalAck history ctx)
    (isOpen : StillOpen state)
    (rst : (segmentOf flags direction).rst = true) :
    let result := nextState state flags direction ctx false
    Follows finalAck (history ++ [segmentOf flags direction]) result.2
      result.1 := by
  obtain ⟨resets, stillOpen⟩ := running.resets rst
  simp only [nextState_of_rst isOpen rst]
  exact .reset resets stillOpen

/-- Any packet of an open flow is followed if it is a FIN packet. -/
theorem Running.follows_fin
    (running : Running ctx.tcpCloseRequiresFinalAck history ctx)
    (isOpen : StillOpen state)
    (isFin : (segmentOf flags direction).isFin = true)
    (isFirst : Bool) :
    let result := nextState state flags direction ctx isFirst
    Follows ctx.tcpCloseRequiresFinalAck
      (history ++ [segmentOf flags direction]) result.2 result.1 := by
  obtain ⟨marked, sameFwd, sameBwd, result⟩ :=
    @nextState_of_fin state flags direction ctx isFirst isOpen isFin
  simp only [result]
  exact (running.congr sameFwd sameBwd).fin isFin

/-- A packet that is neither RST nor FIN packet is of one of three kinds. -/
theorem quiet_kinds
    {segment : TcpSegment}
    (notReset : segment.rst = false)
    (notFin : segment.isFin = false) :
    (segment.syn = true ∧ segment.isPlainAck = false) ∨
      (segment.syn = false ∧ segment.ack = true ∧
        segment.isPlainAck = true) ∨
      (segment.syn = false ∧ segment.ack = false ∧
        segment.isPlainAck = false) := by
  simp only [TcpSegment.isFin, notReset] at notFin
  simp only [TcpSegment.isPlainAck]
  revert notFin
  cases segment.syn <;> cases segment.ack <;> cases segment.fin <;> simp

/-- A terminal state is final. -/
theorem nextState_of_terminal
    (terminal : state = .closed ∨ state = .reset)
    (isFirst : Bool) :
    nextState state flags direction ctx isFirst = (state, ctx) := by
  simp only [nextState, if_pos terminal]

/-- A later packet of a closing flow is followed. -/
theorem Running.follows_closing
    (running : Running ctx.tcpCloseRequiresFinalAck history ctx)
    (someFin : SomeFin history)
    (rst : (segmentOf flags direction).rst = false)
    (notFin : (segmentOf flags direction).isFin = false) :
    let result := nextState .closing flags direction ctx false
    Follows ctx.tcpCloseRequiresFinalAck
      (history ++ [segmentOf flags direction]) result.2 result.1 := by
  have isOpen : StillOpen .closing := by simp [StillOpen]
  have stillFin := someFin_concat.mpr
    (Or.inl someFin : _ ∨ (segmentOf flags direction).isFin = true)
  rcases quiet_kinds rst notFin with
    ⟨syn, notAck⟩ | ⟨syn, ack, plainAck⟩ | ⟨syn, notAck, notPlain⟩
  · simp only [nextState_of_syn isOpen rst syn, reduceCtorEq, false_and,
      if_false]
    exact .closing (running.quiet rst notFin (by simp [notAck])) stillFin
  · simp only [nextState_of_ack isOpen rst plainAck, reduceCtorEq,
      false_and, if_false, true_and]
    split <;> rename_i finished
    · have both := running.both_iff.mp ⟨finished.1, finished.2.1⟩
      refine .closed ?_
        (not_resets_of_noReset (running.noReset_concat rst))
      rw [closes_concat running.noReset rst, finished.2.2]
      exact Or.inr ⟨both, plainAck⟩
    · refine .closing (running.quiet rst notFin ?_) stillFin
      rintro ⟨finalAck, both, _⟩
      obtain ⟨forward, backward⟩ := running.both_iff.mpr both
      exact finished ⟨forward, backward, finalAck⟩
  · simp only [nextState_of_none isOpen rst syn notFin notPlain]
    exact .closing (running.quiet rst notFin (by simp [notPlain])) stillFin

/-- Without FIN packets a packet that carries none keeps the flow running. -/
theorem Running.quiet_of_noFin
    {segment : TcpSegment}
    (running : Running finalAck history ctx)
    (noFin : ¬ SomeFin history)
    (rst : segment.rst = false)
    (notFin : segment.isFin = false) :
    Running finalAck (history ++ [segment]) ctx ∧
      ¬ SomeFin (history ++ [segment]) := by
  refine ⟨running.quiet rst notFin ?_, ?_⟩
  · rintro ⟨_, ⟨⟨sent, member, isFin, _⟩, _⟩, _⟩
    exact noFin ⟨sent, member, isFin⟩
  · rw [someFin_concat, notFin]
    simpa using noFin

/-- A later packet of an established flow is followed. -/
theorem Running.follows_established
    (running : Running ctx.tcpCloseRequiresFinalAck history ctx)
    (nonempty : history ≠ [])
    (noFin : ¬ SomeFin history)
    (establishes : Establishes history)
    (rst : (segmentOf flags direction).rst = false)
    (notFin : (segmentOf flags direction).isFin = false) :
    let result := nextState .established flags direction ctx false
    Follows ctx.tcpCloseRequiresFinalAck
      (history ++ [segmentOf flags direction]) result.2 result.1 := by
  have isOpen : StillOpen .established := by simp [StillOpen]
  obtain ⟨stays, stillNoFin⟩ := running.quiet_of_noFin noFin rst notFin
  have unchanged :
      nextState .established flags direction ctx false =
        (.established, ctx) := by
    rcases quiet_kinds rst notFin with
      ⟨syn, _⟩ | ⟨_, _, plainAck⟩ | ⟨syn, _, notPlain⟩
    · simp [nextState_of_syn isOpen rst syn]
    · simp [nextState_of_ack isOpen rst plainAck]
    · exact nextState_of_none isOpen rst syn notFin notPlain
  simp only [unchanged]
  exact .established stays stillNoFin
    ((establishes_concat nonempty).mpr (Or.inl establishes))

/-- A later packet during the handshake is followed. -/
theorem Running.follows_handshake
    (running : Running ctx.tcpCloseRequiresFinalAck history ctx)
    (nonempty : history ≠ [])
    (noFin : ¬ SomeFin history)
    (notEstablished : ¬ Establishes history)
    (answered : ctx.synackDir = lastSynAck? history)
    (seen : ctx.synackSeen = (lastSynAck? history).isSome)
    (rst : (segmentOf flags direction).rst = false)
    (notFin : (segmentOf flags direction).isFin = false) :
    let result := nextState .handshake flags direction ctx false
    Follows ctx.tcpCloseRequiresFinalAck
      (history ++ [segmentOf flags direction]) result.2 result.1 := by
  have isOpen : StillOpen .handshake := by simp [StillOpen]
  obtain ⟨stays, stillNoFin⟩ := running.quiet_of_noFin noFin rst notFin
  have establishes :=
    @establishes_concat history (segmentOf flags direction) nonempty
  have moves := lastSynAck?_concat nonempty (segmentOf flags direction)
  rcases quiet_kinds rst notFin with
    ⟨syn, notPlain⟩ | ⟨syn, ack, plainAck⟩ | ⟨syn, notAck, notPlain⟩
  · have stillNot : ¬ Establishes (history ++ [segmentOf flags direction]) := by
      rw [establishes, syn]
      simpa using notEstablished
    simp only [nextState_of_syn isOpen rst syn, true_and]
    split <;> rename_i isAnswer
    · rw [if_pos isAnswer] at moves
      exact .handshake (stays.congr rfl rfl) stillNoFin stillNot
        moves.symm (by rw [moves]; rfl)
    · rw [if_neg isAnswer] at moves
      exact .handshake stays stillNoFin stillNot
        (answered.trans moves.symm) (by rw [moves]; exact seen)
  · have notAnswer : (segmentOf flags direction).isAnswer = false := by
      simp [TcpSegment.isAnswer, syn]
    rw [notAnswer, if_neg Bool.false_ne_true] at moves
    simp only [nextState_of_ack isOpen rst plainAck, true_and,
      reduceCtorEq, false_and, if_false]
    have completes :
        (ctx.synackSeen = true ∧ some direction ≠ ctx.synackDir) ↔
          ∃ answered ∈ lastSynAck? history, direction ≠ answered := by
      rw [answered, seen]
      cases lastSynAck? history <;> simp
    split <;> rename_i finished
    · refine .established stays stillNoFin (establishes.mpr ?_)
      exact Or.inr ⟨ack, syn, completes.mp finished⟩
    · refine .handshake stays stillNoFin ?_ (answered.trans moves.symm)
        (by rw [moves]; exact seen)
      rw [establishes]
      rintro (earlier | ⟨_, _, opposite⟩)
      · exact notEstablished earlier
      · exact finished (completes.mpr opposite)
  · have notAnswer : (segmentOf flags direction).isAnswer = false := by
      simp [TcpSegment.isAnswer, syn]
    rw [notAnswer, if_neg Bool.false_ne_true] at moves
    simp only [nextState_of_none isOpen rst syn notFin notPlain]
    refine .handshake stays stillNoFin ?_ (answered.trans moves.symm)
      (by rw [moves]; exact seen)
    rw [establishes, notAck]
    simpa using notEstablished

/-- RST and FIN packets are followed alike in every open state. -/
theorem Running.follows_next
    (running : Running ctx.tcpCloseRequiresFinalAck history ctx)
    (isOpen : StillOpen state)
    (quiet :
      (segmentOf flags direction).rst = false →
      (segmentOf flags direction).isFin = false →
      Follows ctx.tcpCloseRequiresFinalAck
        (history ++ [segmentOf flags direction])
        (nextState state flags direction ctx false).2
        (nextState state flags direction ctx false).1) :
    Follows ctx.tcpCloseRequiresFinalAck
      (history ++ [segmentOf flags direction])
      (nextState state flags direction ctx false).2
      (nextState state flags direction ctx false).1 := by
  cases rst : (segmentOf flags direction).rst with
  | true =>
      exact running.follows_rst isOpen rst
  | false =>
      cases isFin : (segmentOf flags direction).isFin with
      | true =>
          exact running.follows_fin isOpen isFin false
      | false =>
          exact quiet rst isFin

/-- Every later packet of a flow is followed. -/
theorem Follows.next
    (follows : Follows ctx.tcpCloseRequiresFinalAck history ctx state)
    (nonempty : history ≠ [])
    (flags : PyValue)
    (direction : Direction) :
    let result := nextState state flags direction ctx false
    Follows ctx.tcpCloseRequiresFinalAck
      (history ++ [segmentOf flags direction]) result.2 result.1 := by
  cases follows with
  | reset resets stillOpen =>
      obtain ⟨stays, still⟩ := resets.concat stillOpen
        (segmentOf flags direction)
      simp only [nextState_of_terminal (Or.inr rfl)]
      exact .reset stays still
  | closed closes notReset =>
      obtain ⟨stays, still⟩ := closes.concat notReset
        (segmentOf flags direction)
      simp only [nextState_of_terminal (Or.inl rfl)]
      exact .closed stays still
  | handshake running noFin notEstablished answered seen =>
      exact running.follows_next (by simp [StillOpen])
        (running.follows_handshake nonempty noFin notEstablished
          answered seen)
  | established running noFin establishes =>
      exact running.follows_next (by simp [StillOpen])
        (running.follows_established nonempty noFin establishes)
  | closing running someFin =>
      exact running.follows_next (by simp [StillOpen])
        (running.follows_closing someFin)

/-- The context a flow starts with. -/
structure FreshContext (ctx : TcpContext) : Prop where
  synackSeen : ctx.synackSeen = false
  synackDir : ctx.synackDir = none
  finFwd : ctx.finFwd = false
  finBwd : ctx.finBwd = false

/-- Before its first packet a flow is open. -/
theorem FreshContext.running
    (fresh : FreshContext ctx)
    (finalAck : Bool) :
    Running finalAck [] ctx := by
  refine ⟨by simp, ?_, ?_, ?_⟩
  · simp [fresh.finFwd, SentFin]
  · simp [fresh.finBwd, SentFin]
  · cases finalAck <;>
      simp [Closes, beforeReset, BothSentFin, SentFin]

/-- The first packet of a flow is followed. -/
theorem FreshContext.follows
    (fresh : FreshContext ctx)
    (flags : PyValue) :
    let result := nextState .handshake flags .forward ctx true
    Follows ctx.tcpCloseRequiresFinalAck [segmentOf flags .forward]
      result.2 result.1 := by
  have isOpen : StillOpen .handshake := by simp [StillOpen]
  have running := fresh.running ctx.tcpCloseRequiresFinalAck
  have noFin : ¬ SomeFin [] := by simp [SomeFin]
  let segment := segmentOf flags .forward
  change Follows _ ([] ++ [segment]) _ _
  cases rst : segment.rst with
  | true =>
      obtain ⟨resets, stillOpen⟩ := running.resets rst
      simp only [nextState_of_rst isOpen rst]
      exact .reset resets stillOpen
  | false =>
      cases isFin : segment.isFin with
      | true =>
          exact running.follows_fin isOpen isFin true
      | false =>
          obtain ⟨stays, stillNoFin⟩ :=
            running.quiet_of_noFin noFin rst isFin
          cases syn : segment.syn with
          | true =>
              have notEstablished : ¬ Establishes ([] ++ [segment]) := by
                rw [Establishes, sometime_concat]
                simp [syn, lastSynAck?]
              have answered :
                  lastSynAck? ([] ++ [segment]) =
                    if segment.ack then some .forward else none := by
                simp only [List.nil_append, lastSynAck?, List.any_nil,
                  Bool.false_eq_true, if_false, syn, true_and]
                rfl
              simp only [nextState_first_of_syn rst syn]
              split <;> rename_i ack
              · rw [if_pos ack] at answered
                exact .handshake (stays.congr rfl rfl) stillNoFin
                  notEstablished answered.symm (by rw [answered]; rfl)
              · rw [if_neg ack] at answered
                exact .handshake stays stillNoFin notEstablished
                  (fresh.synackDir.trans answered.symm)
                  (by rw [answered]; exact fresh.synackSeen)
          | false =>
              simp only [nextState_first_of_noSyn rst syn isFin]
              exact .established (stays.congr rfl rfl) stillNoFin
                (Or.inl ⟨segment, rfl, syn⟩)

end Step

end TcpHistory

end IntrusionDetection
