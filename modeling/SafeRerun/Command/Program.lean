import SafeRerun.Command.Arguments
import SafeRerun.Run.Scan

/-
  The program: from a command line and a tree to an exit
  code, two texts, and the tree afterwards.

  Key definitions include:
    * `SafeRerun.Output`
    * `SafeRerun.perform`
    * `SafeRerun.program`

  Applying writes the scripts that need guards, checking
  only names them.  A check that finds such scripts ends
  with code one, a command line out of order with code two.
-/

------------------------------------------------------------
-- Outputs
------------------------------------------------------------

namespace SafeRerun

/- What the program shows and the code it ends with. -/
structure Output where
  code : Nat
  out : Text
  err : Text
  deriving DecidableEq, Repr

/- A line of output. -/
def outputLine
    (t : Text) :
    Text :=
  t ++ ['\n']

end SafeRerun

------------------------------------------------------------
-- Telling About a Run
------------------------------------------------------------

namespace SafeRerun

/- The line that opens the account of a run. -/
def planLine
    (plan : Plan) :
    Text :=
  outputLine
    (Text.ofString "[verbose] Scanning " ++
      Text.ofNat plan.paths.length ++
      Text.ofString " migration files (glob=" ++
      plan.settings.pattern ++
      Text.ofString ", lookback=" ++
      Text.ofNat plan.settings.lookback ++
      Text.ofString ", lookahead=" ++
      Text.ofNat plan.settings.lookahead ++ [')'])

/- The line about one script in the account of a run. -/
def outcomeLine
    (outcome : FileOutcome) :
    Text :=
  outputLine
    (Text.ofString "[verbose] " ++
      displayPath outcome.path ++ Text.ofString ": " ++
      Text.ofNat outcome.tally.found ++
      Text.ofString " trigger(s), " ++
      Text.ofNat outcome.tally.inserted ++
      Text.ofString " guard(s) needed, " ++
      Text.ofNat outcome.tally.skipped ++
      Text.ofString " skipped")

/- The account of a run as far as it came. -/
def account
    (run : Run) :
    Text :=
  match run.plan with
  | none => []
  | some plan =>
      planLine plan ++ run.report.flatMap outcomeLine

/- The line about the failure of a run. -/
def failureLine
    (failure : Failure) :
    Text :=
  outputLine (Text.ofString "Error: " ++ failure.chain)

/- The lines about the scripts that were changed. -/
def updateLines
    (label : String)
    (report : Report) :
    Text :=
  (Report.updated report).flatMap fun path =>
    outputLine (Text.ofString label ++ displayPath path)

/- What applying shows at its end. -/
def applyText
    (report : Report) :
    Text :=
  updateLines "Updated: " report ++ outputLine [] ++
    outputLine
      (Text.ofString "Processed " ++
        Text.ofNat (Report.updatedCount report) ++
        Text.ofString
          " files with CREATE TRIGGER statements.")

/- What checking shows at its end. -/
def checkText
    (report : Report) :
    Text :=
  updateLines "Would update: " report ++ outputLine [] ++
    outputLine
      (Text.ofNat (Report.updatedCount report) ++
        Text.ofString
          " files need DROP TRIGGER guards.")

end SafeRerun

------------------------------------------------------------
-- Performing
------------------------------------------------------------

namespace SafeRerun

/- Whether an action writes what it changes. -/
def Action.writes :
    Action → Bool
  | .apply => true
  | .check => false

/- What an action shows of a run that did not fail. -/
def Action.report
    (report : Report) :
    Action → Text
  | .apply => applyText report
  | .check => checkText report

/- The code of an action after a run that did not fail. -/
def Action.code
    (report : Report) :
    Action → Nat
  | .apply => 0
  | .check => if Report.updatedCount report = 0 then 0 else 1

/- What the program shows of the run of an action. -/
def runOutput
    (action : Action)
    (verbose : Bool)
    (run : Run) :
    Output :=
  let told := if verbose then account run else []
  match run.failure with
  | some failure =>
      ⟨1, [], told ++ failureLine failure⟩
  | none =>
      ⟨action.code run.report, action.report run.report,
        told⟩

/- An action in a tree: what is shown, and the tree then. -/
def perform
    (action : Action)
    (options : Options)
    (tree : Tree) :
    Output × Tree :=
  let run := scan action.writes tree options
  (runOutput action options.verbose run, run.tree)

/- What the program says about itself. -/
def versionText :
    Text :=
  outputLine (Text.ofString "trigger-guard 0.1.0")

/-
  What a request leads to in a tree.  The text of the help
  belongs to the library that reads command lines and is left
  out.
-/
def answerRequest
    (tree : Tree) :
    Request → Output × Tree
  | .perform action options => perform action options tree
  | .showVersion => (⟨0, versionText, []⟩, tree)
  | .showHelp => (⟨0, [], []⟩, tree)

/-
  The program: the request of the command line, or a code
  when the command line is out of order.  What is then shown
  about its use belongs to the same library and is left out.
-/
def program
    (arguments : List Text)
    (tree : Tree) :
    Output × Tree :=
  match parseArguments arguments with
  | some request => answerRequest tree request
  | none => (⟨2, [], []⟩, tree)

end SafeRerun
