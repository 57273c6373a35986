import IntrusionDetection.JsonlLogger
import IntrusionDetection.ScheduledSteps
import Mathlib.Data.List.Perm.Subperm
import Mathlib.Logic.Function.Basic

namespace IntrusionDetection

open PyText
open Json (Numerals render)

/-!
# Threads that share a logger

`JSONLLogger.log` serialises its record, and writes the line byte by byte while
it holds the lock.  The lock does not guard the count of errors, which is read
and written back in two steps.
-/

/-- Where a thread is in `log`. -/
inductive LogPhase where
  | idle
  /-- `json_str` is there, with its line end; the lock is awaited. -/
  | dumped (line : Str)
  | locked (line : Str)
  | writing (rest : Bytes)
  | failed
  /-- `write_errors` has been read. -/
  | counted (errors : Nat)
  deriving DecidableEq

/-- Does the thread hold the lock? -/
def LogPhase.isInside : LogPhase → Bool
  | .locked _ => true
  | .writing _ => true
  | _ => false

/-- Does the thread handle an exception? -/
def LogPhase.isFailing : LogPhase → Bool
  | .failed => true
  | .counted _ => true
  | _ => false

/-- The bytes the thread has still to write. -/
def LogPhase.rest : LogPhase → Bytes
  | .writing rest => rest
  | _ => []

/-- A step of a thread in `log`. -/
inductive LogStep (Number : Type) where
  | call (record : Option (Json Number))
  | acquire
  | encode
  | writeByte
  | release
  | readErrors
  | storeErrors

/-- The record a step begins to log. -/
def LogStep.call?
    {Number : Type}
    (action : LogStep Number) :
    Option (Option (Json Number)) :=
  match action with
  | .call record => some record
  | _ => none

/-- Does a step write the count of errors back? -/
def LogStep.isStore
    {Number : Type}
    (action : LogStep Number) :
    Bool :=
  match action with
  | .storeErrors => true
  | _ => false

/-- A logger with its lock, and the threads that use it. -/
structure SharedLogger (Thread : Type) where
  file : Bytes
  writeErrors : Nat
  holder : Option Thread
  phase : Thread → LogPhase

namespace SharedLogger

open JsonlLogger

variable {Thread Number : Type} [DecidableEq Thread]

/-- The file is opened, and no thread uses it yet. -/
def opened (Thread : Type) (file : Bytes) : SharedLogger Thread where
  file := file
  writeErrors := 0
  holder := none
  phase := fun _ => .idle

/-- The thread goes on to another phase. -/
def enter
    (shared : SharedLogger Thread)
    (thread : Thread)
    (phase : LogPhase) :
    SharedLogger Thread :=
  { shared with phase := Function.update shared.phase thread phase }

/-- The phase that follows `json.dumps`. -/
def dump
    (numerals : Numerals Number)
    (record : Option (Json Number)) :
    LogPhase :=
  match record with
  | none => .failed
  | some dict => .dumped (render numerals dict ++ lit "\n")

/-- The step of a thread; `none` where it cannot take the step. -/
def step
    (numerals : Numerals Number)
    (shared : SharedLogger Thread)
    (action : Thread × LogStep Number) :
    Option (SharedLogger Thread) :=
  match shared.phase action.1, action.2 with
  | .idle, .call record =>
      some (shared.enter action.1 (dump numerals record))
  | .dumped line, .acquire =>
      if shared.holder = none then
        some ({ shared with holder := some action.1 }.enter action.1
          (.locked line))
      else
        none
  | .locked line, .encode =>
      match utf8? line with
      | some data => some (shared.enter action.1 (.writing data))
      | none => some ({ shared with holder := none }.enter action.1 .failed)
  | .writing (byte :: rest), .writeByte =>
      some ({ shared with file := shared.file ++ [byte] }.enter action.1
        (.writing rest))
  | .writing [], .release =>
      some ({ shared with holder := none }.enter action.1 .idle)
  | .failed, .readErrors =>
      some (shared.enter action.1 (.counted shared.writeErrors))
  | .counted errors, .storeErrors =>
      some ({ shared with writeErrors := errors + 1 }.enter action.1 .idle)
  | _, _ => none

/-- The bytes of a line that has only been written in part. -/
def unwritten (shared : SharedLogger Thread) : Bytes :=
  match shared.holder with
  | none => []
  | some thread => (shared.phase thread).rest

/-! ### Histories -/

/-- The records a thread begins to log, in order. -/
def callsOf
    (thread : Thread)
    (past : List (Thread × LogStep Number)) :
    List (Option (Json Number)) :=
  past.filterMap fun action =>
    if action.1 = thread then action.2.call? else none

/-- The records of a thread among those of all threads. -/
def recordsOf
    (thread : Thread)
    (order : List (Thread × Option (Json Number))) :
    List (Option (Json Number)) :=
  (order.filter fun entry => entry.1 = thread).map Prod.snd

/-- The threads of the records that cannot be written. -/
def failures
    (numerals : Numerals Number)
    (order : List (Thread × Option (Json Number))) :
    List Thread :=
  (order.filter fun entry => (written? numerals entry.2).isNone).map
    Prod.fst

/-- The threads that have counted an error. -/
def storesOf (past : List (Thread × LogStep Number)) : List Thread :=
  (past.filter fun action => action.2.isStore).map Prod.fst

/-- Do all records that cannot be written come from one thread? -/
def FailsAlone
    (numerals : Numerals Number)
    (past : List (Thread × LogStep Number))
    (loner : Thread) :
    Prop :=
  ∀ thread,
    ∀ record ∈ callsOf thread past,
      written? numerals record = none → thread = loner

/-- The record a thread has begun to log, while nothing has come of it. -/
def Awaits
    (numerals : Numerals Number)
    (pending : List (Option (Json Number))) :
    LogPhase → Prop
  | .dumped line =>
      ∃ dict, line = render numerals dict ++ lit "\n" ∧
        pending = [some dict]
  | .locked line =>
      ∃ dict, line = render numerals dict ++ lit "\n" ∧
        pending = [some dict]
  | _ => pending = []

omit [DecidableEq Thread] in
/-- The records that cannot be written are the errors. -/
theorem length_failures
    (numerals : Numerals Number)
    (file : Bytes)
    (order : List (Thread × Option (Json Number))) :
    ((openFile file).logAll numerals (order.map Prod.snd)).writeErrors =
      (failures numerals order).length := by
  have counted := writeErrors_logAll numerals (openFile file)
    (order.map Prod.snd)
  have parts :
      (failures numerals order).length +
          ((order.map Prod.snd).filterMap (written? numerals)).length =
        order.length := by
    induction order with
    | nil =>
        rfl
    | cons entry rest inductionHypothesis =>
        have later := inductionHypothesis
          (writeErrors_logAll numerals (openFile file) (rest.map Prod.snd))
        rw [failures, List.length_map] at later ⊢
        rw [List.map_cons, List.length_cons]
        cases found : written? numerals entry.2 with
        | none =>
            rw [List.filter_cons_of_pos (by rw [found]; rfl),
              List.filterMap_cons_none found, List.length_cons]
            omega
        | some dict =>
            rw [List.filter_cons_of_neg (by rw [found]; simp),
              List.filterMap_cons_some found, List.length_cons]
            omega
  have start : (openFile file).writeErrors = 0 :=
    rfl
  rw [start, List.length_map] at counted
  omega

end SharedLogger

end IntrusionDetection
