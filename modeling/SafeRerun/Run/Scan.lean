import SafeRerun.Project.Selection
import SafeRerun.Run.Configuration
import SafeRerun.Run.Report

/-
  Runs over the scripts of a project.

  Key definitions include:
    * `SafeRerun.processFile`
    * `SafeRerun.processFiles`
    * `SafeRerun.Run`
    * `SafeRerun.scan`

  A run reads the settings, selects the scripts, and passes
  over them in order.  It may write what it changes or leave
  the tree as it is.  It stops at the first script that
  cannot be read or written; what it wrote before stays.
-/

------------------------------------------------------------
-- One Script
------------------------------------------------------------

namespace SafeRerun

/- What a pass over one script leaves behind. -/
structure FileRun where
  tree : Tree
  notices : List Notice
  result : Except Failure FileOutcome

/- The lines of the script at a path. -/
def loadLines
    (tree : Tree)
    (path : Text) :
    Except Failure (List Text) :=
  match tree.readText path with
  | .error cause => .error (.notRead path cause)
  | .ok t => .ok t.splitLines

/- The tree with the lines as the script at a path. -/
def writeLines
    (tree : Tree)
    (path : Text)
    (lines : List Text) :
    Except Failure Tree :=
  match tree.write path (encodeText lines.flatten) with
  | .error cause => .error (.notWritten path cause)
  | .ok written => .ok written

/- The notices of a pass over a script at a path. -/
def fileNotices
    (lookahead : Nat)
    (path : Text)
    (passed : List Step) :
    List Notice :=
  let skipped := (tallyOf passed).skipped
  noticesOf lookahead passed ++
    if skipped = 0 then
      []
    else
      [.skippedStatements path skipped]

/- A pass over the script at a path. -/
def processFile
    (bounds : Bounds)
    (write : Bool)
    (tree : Tree)
    (path : Text) :
    FileRun :=
  match loadLines tree path with
  | .error failure => ⟨tree, [], .error failure⟩
  | .ok lines =>
      let passed := steps bounds lines
      let numbers := tallyOf passed
      let notices := fileNotices bounds.lookahead path passed
      let outcome : FileOutcome :=
        ⟨path, numbers.changes, numbers⟩
      if numbers.changes && write then
        match
          writeLines tree path (linesOf passed)
        with
        | .error failure => ⟨tree, notices, .error failure⟩
        | .ok written => ⟨written, notices, .ok outcome⟩
      else
        ⟨tree, notices, .ok outcome⟩

end SafeRerun

------------------------------------------------------------
-- All Scripts
------------------------------------------------------------

namespace SafeRerun

/- What a pass over several scripts leaves behind. -/
structure FilesRun where
  tree : Tree
  report : Report
  notices : List Notice
  failure : Option Failure

/- A pass over the scripts at the paths, in order. -/
def processFiles
    (bounds : Bounds)
    (write : Bool) :
    Tree → List Text → FilesRun
  | tree, [] => ⟨tree, [], [], none⟩
  | tree, path :: rest =>
      let first := processFile bounds write tree path
      match first.result with
      | .error failure =>
          ⟨first.tree, [], first.notices, some failure⟩
      | .ok outcome =>
          let more :=
            processFiles bounds write first.tree rest
          { tree := more.tree
            report := outcome :: more.report
            notices := first.notices ++ more.notices
            failure := more.failure }

end SafeRerun

------------------------------------------------------------
-- Runs
------------------------------------------------------------

namespace SafeRerun

/- The settings of a run and the scripts it selects. -/
structure Plan where
  settings : Settings
  paths : List Text
  deriving DecidableEq, Repr

/-
  What a run leaves behind.  The plan is there once the
  scripts are selected, the report covers the scripts that
  were passed over.
-/
structure Run where
  tree : Tree
  plan : Option Plan
  report : Report
  notices : List Notice
  failure : Option Failure

/- The settings and the scripts of a run. -/
def planRun
    (tree : Tree)
    (options : Options) :
    Except Failure Plan :=
  match runSettings tree options with
  | .error failure => .error failure
  | .ok settings =>
      match selectScripts tree options.project settings with
      | .error failure => .error failure
      | .ok paths => .ok ⟨settings, paths⟩

/- The notices of planning a run. -/
def planNotices
    (tree : Tree)
    (options : Options) :
    List Notice :=
  configurationNotices tree options ++
    match runSettings tree options with
    | .error _ => []
    | .ok settings =>
        selectionNotices tree options.project settings

/- A run over the scripts of a project. -/
def scan
    (write : Bool)
    (tree : Tree)
    (options : Options) :
    Run :=
  let planned := planNotices tree options
  match planRun tree options with
  | .error failure =>
      ⟨tree, none, [], planned, some failure⟩
  | .ok plan =>
      let passed :=
        processFiles plan.settings.bounds write tree
          plan.paths
      { tree := passed.tree
        plan := some plan
        report := passed.report
        notices := planned ++ passed.notices
        failure := passed.failure }

end SafeRerun
