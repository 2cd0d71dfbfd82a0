import SafeRerun.Script.Pass

/-
  Reports on the scripts of a run.

  Key definitions include:
    * `SafeRerun.FileOutcome`
    * `SafeRerun.Report`
    * `SafeRerun.Report.updated`

  A report is the list of the outcomes, one for each script
  in the order of the run.
-/

------------------------------------------------------------
-- Reports
------------------------------------------------------------

namespace SafeRerun

/- What became of one script. -/
structure FileOutcome where
  path : Text
  changed : Bool
  tally : Tally
  deriving DecidableEq, Repr

/- What became of the scripts of a run. -/
abbrev Report : Type :=
  List FileOutcome

namespace Report

/- The paths of the scripts that were changed. -/
def updated
    (report : Report) :
    List Text :=
  (report.filter FileOutcome.changed).map FileOutcome.path

/- The number of scripts that were changed. -/
def updatedCount
    (report : Report) :
    Nat :=
  report.countP FileOutcome.changed

/- The number of scripts. -/
def fileCount
    (report : Report) :
    Nat :=
  report.length

/- The number of guards inserted in all scripts together. -/
def insertedTotal :
    Report → Nat
  | [] => 0
  | outcome :: rest =>
      outcome.tally.inserted + insertedTotal rest

/- The total, as a machine word holds it. -/
def guardsInserted
    (report : Report) :
    Nat :=
  report.insertedTotal % Nat.pow 2 64

/- Every changed script has its path in the report. -/
theorem length_updated
    (report : Report) :
    (updated report).length = updatedCount report := by
  simp [updated, updatedCount, List.countP_eq_length_filter]

end Report

end SafeRerun
