import Mathlib.Data.List.Basic
import Mathlib.Data.List.Induction

/-!
# Files of lines

A file to which lines are only appended, each closed by a mark that no line
contains.  A log writes one line for each record it can write; reading it line
by line returns what the records show, in the order they were written.
-/

namespace LineFile

variable {Sign : Type}

section Marks

variable (mark : Sign)

/-- A line as it is written. -/
def closed (line : List Sign) : List Sign :=
  line ++ [mark]

/-- Is the last line of the file closed? -/
def EndsLine (file : List Sign) : Prop :=
  ∀ sign ∈ file.getLast?, sign = mark

/-- The lines of a file, the last one closed or not. -/
def lines [DecidableEq Sign] : List Sign → List (List Sign)
  | [] => []
  | sign :: rest =>
      if sign = mark then
        [] :: lines rest
      else
        match lines rest with
        | [] => [[sign]]
        | line :: later => (sign :: line) :: later

end Marks

variable {mark : Sign}

/-- A file ends with a closed line after one was appended. -/
theorem endsLine_closed (file line : List Sign) :
    EndsLine mark (file ++ closed mark line) := by
  intro sign isLast
  rw [closed, ← List.append_assoc, List.getLast?_concat] at isLast
  exact (Option.some.inj isLast).symm

section Reading

variable [DecidableEq Sign]

/-- A file that is not empty has a line. -/
theorem lines_ne_nil
    {file : List Sign}
    (nonempty : file ≠ []) :
    lines mark file ≠ [] := by
  cases file with
  | nil =>
      exact absurd rfl nonempty
  | cons sign rest =>
      rw [lines]
      split
      · exact List.cons_ne_nil _ _
      · split <;> exact List.cons_ne_nil _ _

/-- The lines of a file that is continued after a closed line. -/
theorem lines_append
    {first : List Sign}
    (ends : EndsLine mark first)
    (second : List Sign) :
    lines mark (first ++ second) =
      lines mark first ++ lines mark second := by
  induction first with
  | nil =>
      rfl
  | cons sign rest inductionHypothesis =>
      rw [List.cons_append, lines, lines]
      cases rest with
      | nil =>
          have isMark : sign = mark := ends sign rfl
          rw [if_pos isMark, if_pos isMark]
          rfl
      | cons next later =>
          have endsLater : EndsLine mark (next :: later) :=
            fun last isLast => ends last (by
              rw [List.getLast?_cons_cons]
              exact isLast)
          rw [inductionHypothesis endsLater]
          have nonempty : lines mark (next :: later) ≠ [] :=
            lines_ne_nil (List.cons_ne_nil _ _)
          by_cases isMark : sign = mark
          · rw [if_pos isMark, if_pos isMark, List.cons_append]
          · rw [if_neg isMark, if_neg isMark]
            cases found : lines mark (next :: later) with
            | nil =>
                exact absurd found nonempty
            | cons line more =>
                rfl

/-- A closed line is one line. -/
theorem lines_closed
    {line : List Sign}
    (noMark : mark ∉ line) :
    lines mark (closed mark line) = [line] := by
  induction line with
  | nil =>
      rw [closed, List.nil_append, lines, if_pos rfl, lines]
  | cons sign rest inductionHypothesis =>
      rw [List.mem_cons, not_or] at noMark
      rw [closed, List.cons_append, lines, if_neg (Ne.symm noMark.1)]
      rw [closed] at inductionHypothesis
      rw [inductionHypothesis noMark.2]

/-- A closed line that is appended is the last line. -/
theorem lines_append_closed
    {file : List Sign}
    (ends : EndsLine mark file)
    {line : List Sign}
    (noMark : mark ∉ line) :
    lines mark (file ++ closed mark line) = lines mark file ++ [line] := by
  rw [lines_append ends, lines_closed noMark]

/-! ### Logs -/

section Logs

variable {Record Value : Type}

/-- Append the line of a record, if it has one. -/
def appendRecord
    (mark : Sign)
    (write : Record → Option (List Sign))
    (file : List Sign)
    (record : Record) :
    List Sign :=
  match write record with
  | none => file
  | some line => file ++ closed mark line

/-- Read every line of a file. -/
def readRecords
    (mark : Sign)
    (read : List Sign → Option Value)
    (file : List Sign) :
    Option (List Value) :=
  (lines mark file).mapM read

variable {write : Record → Option (List Sign)}
variable {read : List Sign → Option Value}
variable {shown : Record → Option Value}

/-- The line of a record is one line, and reads as what the record shows. -/
def Faithful
    (mark : Sign)
    (write : Record → Option (List Sign))
    (read : List Sign → Option Value)
    (shown : Record → Option Value) :
    Prop :=
  ∀ record,
    match write record with
    | none => shown record = none
    | some line => mark ∉ line ∧ read line = shown record ∧
        (shown record).isSome

/-- A log that is continued reads as before, and then as the new record. -/
theorem readRecords_appendRecord
    (faithful : Faithful mark write read shown)
    {file : List Sign}
    (ends : EndsLine mark file)
    {earlier : List Value}
    (isRead : readRecords mark read file = some earlier)
    (record : Record) :
    EndsLine mark (appendRecord mark write file record) ∧
      readRecords mark read (appendRecord mark write file record) =
        some (earlier ++ (shown record).toList) := by
  have known := faithful record
  rw [appendRecord]
  cases found : write record with
  | none =>
      rw [found] at known
      dsimp only at known ⊢
      rw [known, Option.toList_none, List.append_nil]
      exact ⟨ends, isRead⟩
  | some line =>
      rw [found] at known
      dsimp only at known ⊢
      obtain ⟨noMark, sameValue, isShown⟩ := known
      obtain ⟨value, isValue⟩ := Option.isSome_iff_exists.mp isShown
      refine ⟨endsLine_closed file line, ?_⟩
      rw [readRecords] at isRead ⊢
      rw [lines_append_closed ends noMark, List.mapM_append, isRead,
        List.mapM_cons, sameValue, isValue]
      rfl

/-- A log reads as the records that were written to it, in their order. -/
theorem readRecords_foldl
    (faithful : Faithful mark write read shown)
    {file : List Sign}
    (ends : EndsLine mark file)
    {earlier : List Value}
    (isRead : readRecords mark read file = some earlier)
    (records : List Record) :
    EndsLine mark (records.foldl (appendRecord mark write) file) ∧
      readRecords mark read
          (records.foldl (appendRecord mark write) file) =
        some (earlier ++ records.filterMap shown) := by
  induction records generalizing file earlier with
  | nil =>
      rw [List.foldl_nil, List.filterMap_nil, List.append_nil]
      exact ⟨ends, isRead⟩
  | cons record rest inductionHypothesis =>
      obtain ⟨endsNext, readNext⟩ :=
        readRecords_appendRecord faithful ends isRead record
      obtain ⟨endsLast, readLast⟩ := inductionHypothesis endsNext readNext
      refine ⟨endsLast, readLast.trans (congrArg some ?_)⟩
      rw [List.append_assoc]
      cases found : shown record with
      | none =>
          rw [List.filterMap_cons_none found]
          rfl
      | some value =>
          rw [List.filterMap_cons_some found]
          rfl

end Logs

end Reading

end LineFile
