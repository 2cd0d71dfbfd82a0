import SafeRerun.Notice
import SafeRerun.Script.Guard
import SafeRerun.Script.Reading

/-
  Passes over a script, which put a guard above every
  recognised statement that creates a trigger without one.

  Key definitions include:
    * `SafeRerun.Bounds`
    * `SafeRerun.Step`
    * `SafeRerun.steps`
    * `SafeRerun.addGuards`
    * `SafeRerun.tally`

  Each line is one step, and every step looks at the script
  as it was before the pass: a guard inserted above one
  statement never counts for another one in the same pass.
-/

------------------------------------------------------------
-- Steps
------------------------------------------------------------

namespace SafeRerun

/-
  How far a pass looks: up for an existing guard and down
  for the clause that names a table.
-/
structure Bounds where
  lookback : Nat
  lookahead : Nat
  deriving DecidableEq, Repr

/- The guard that a reading calls for at a line, if any. -/
def Reading.guard?
    (lookback : Nat)
    (lines : List Text)
    (index : Nat) :
    Reading → Option Text
  | .declared declaration =>
      guardFor lookback lines index declaration
  | _ => none

/-
  What a pass does at one line: what it reads there, the
  guard it inserts above, and the line itself.
-/
structure Step where
  reading : Reading
  guard : Option Text
  line : Text
  deriving DecidableEq, Repr

/- The lines a step contributes to the result. -/
def Step.lines
    (step : Step) :
    List Text :=
  step.guard.toList ++ [step.line]

/- The notice of a step at the line with the given index. -/
def Step.notice?
    (lookahead index : Nat)
    (step : Step) :
    Option Notice :=
  match step.reading with
  | .noOnClause =>
      some (.noOnClause lookahead (index + 1))
  | .unrecognised statement =>
      some (.unrecognised (index + 1) statement)
  | _ => none

/- The steps of a pass, one a line. -/
def steps
    (bounds : Bounds)
    (lines : List Text) :
    List Step :=
  lines.mapIdx fun index line =>
    let reading := readAt bounds.lookahead lines index
    { reading := reading
      guard := reading.guard? bounds.lookback lines index
      line := line }

end SafeRerun

------------------------------------------------------------
-- Results
------------------------------------------------------------

namespace SafeRerun

/- The lines that the given steps make. -/
def linesOf
    (passed : List Step) :
    List Text :=
  passed.flatMap Step.lines

/- The lines that a pass returns. -/
def addGuards
    (bounds : Bounds)
    (lines : List Text) :
    List Text :=
  linesOf (steps bounds lines)

/-
  The numbers of a pass: statements recognised, guards
  inserted, and statements left alone.
-/
structure Tally where
  found : Nat
  inserted : Nat
  skipped : Nat
  deriving DecidableEq, Repr

/- The numbers of the given steps. -/
def tallyOf
    (passed : List Step) :
    Tally :=
  { found :=
      passed.countP fun step =>
        step.reading.declaration?.isSome
    inserted :=
      passed.countP fun step => step.guard.isSome
    skipped :=
      passed.countP fun step => step.reading.isSkipped }

/- The numbers of a pass. -/
def tally
    (bounds : Bounds)
    (lines : List Text) :
    Tally :=
  tallyOf (steps bounds lines)

/- Whether a pass with these numbers changes the script. -/
def Tally.changes
    (numbers : Tally) :
    Bool :=
  decide (0 < numbers.inserted)

/- The notices of the given steps, in their order. -/
def noticesOf
    (lookahead : Nat)
    (passed : List Step) :
    List Notice :=
  (passed.mapIdx fun index step =>
    step.notice? lookahead index).filterMap id

/- The notices of a pass, in the order of the lines. -/
def passNotices
    (bounds : Bounds)
    (lines : List Text) :
    List Notice :=
  noticesOf bounds.lookahead (steps bounds lines)

end SafeRerun

------------------------------------------------------------
-- Repeated Passes
------------------------------------------------------------

namespace SafeRerun

/-
  The lines of the text that the lines make together, as the
  next pass finds them.
-/
def resplit
    (lines : List Text) :
    List Text :=
  Text.splitLines lines.flatten

/-
  The steps of each of the given number of passes, every one
  over what the one before it made.
-/
def passes
    (bounds : Bounds)
    (lines : List Text) :
    Nat → List (List Step)
  | 0 => []
  | count + 1 =>
      let passed := steps bounds lines
      passed ::
        passes bounds (resplit (linesOf passed)) count

end SafeRerun
