import IntrusionDetection.RuleReport

namespace IntrusionDetection

open PyText

/-!
# Rule files

Splitting the text of a rule file into logical lines.  A line that ends in a
backslash continues on the next one, and only rule lines reach the parser.
-/

/-- A logical line of a rule file. -/
inductive LogicalLine where
  | blank
  | comment
  | rule (lineNo : Nat) (text : Str)

/-- The physical lines of a file, without their line ends. -/
def physicalLines (content : Str) : List Str :=
  let lines := splitAt (codePoint '\n') content
  let lines := if lines.getLast? = some [] then lines.dropLast else lines
  lines.map fun line =>
    if line.getLast? = some (codePoint '\r') then line.dropLast else line

/-- Does a line continue on the next one? -/
def continues (text : Str) : Bool :=
  (rstrip text).getLast? = some (codePoint '\\')

/-- A continued line without its backslash. -/
def withoutBackslash (text : Str) : Str :=
  rstrip (rstrip text).dropLast

/--
Join the lines a rule goes on, and return what it says and the lines after it.
A backslash at the end of the file is dropped.
-/
def joinContinued : List Str → Str → Str × List Str
  | [], text =>
      if continues text then (withoutBackslash text, []) else (text, [])
  | next :: rest, text =>
      if continues text then
        let continuation := lstrip next
        joinContinued rest
          (if continuation ≠ [] then
            withoutBackslash text ++ [codePoint ' '] ++ continuation
          else
            withoutBackslash text)
      else
        (text, next :: rest)

/-- Joining a rule never yields lines anew. -/
theorem length_joinContinued (rest : List Str) (text : Str) :
    (joinContinued rest text).2.length ≤ rest.length := by
  induction rest generalizing text with
  | nil =>
      simp only [joinContinued]
      split <;> rfl
  | cons next later inductionHypothesis =>
      simp only [joinContinued]
      split
      · exact Nat.le_succ_of_le (inductionHypothesis _)
      · rfl

/-- The logical lines, the first physical line having the given number. -/
def logicalLines (number : Nat) : List Str → List LogicalLine
  | [] => []
  | line :: rest =>
      if strip line = [] then
        .blank :: logicalLines (number + 1) rest
      else if (strip line).head? = some (codePoint '#') then
        .comment :: logicalLines (number + 1) rest
      else
        let joined := joinContinued rest line
        .rule number joined.1 ::
          logicalLines (number + 1 + (rest.length - joined.2.length))
            joined.2
termination_by lines => lines.length
decreasing_by
  · simp
  · simp
  · exact Nat.lt_succ_of_le (length_joinContinued rest line)

/-- `iter_rule_lines` on the text of a file. -/
def iterRuleLines (content : Str) : List LogicalLine :=
  logicalLines 1 (physicalLines content)

/-- Count a logical line under its kind. -/
def LoadReport.countLine
    (report : LoadReport)
    (line : LogicalLine) :
    LoadReport :=
  let report := { report with totalLines := report.totalLines + 1 }
  match line with
  | .blank => { report with blank := report.blank + 1 }
  | .comment => { report with comment := report.comment + 1 }
  | .rule _ _ => { report with ruleLines := report.ruleLines + 1 }

end IntrusionDetection
