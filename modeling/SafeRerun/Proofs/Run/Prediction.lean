import SafeRerun.Proofs.Run.Progress

/-
  What a run that does not write tells about one that does.

  Key theorems include:
    * `SafeRerun.failure_scan_eq`
    * `SafeRerun.report_eq_report_iff`
    * `SafeRerun.report_eq_map_of_apart`
    * `SafeRerun.report_eq_report_of_apart`
    * `SafeRerun.check_predicts_apply_iff`

  Both runs plan the same paths and fail alike.  They report
  the same unless a path leads to a file that an earlier one
  led to: the run that writes then passes over what it wrote
  itself, the other over what it has passed over before.
-/

------------------------------------------------------------
-- Two Runs Over the Same Paths
------------------------------------------------------------

namespace SafeRerun

variable {bounds : Bounds}
variable {tree : Tree}
variable {options : Options}
variable {plan : Plan}
variable {paths : List Text}

theorem outcomeOf_eq_iff
    {path s t : Text} :
    outcomeOf bounds path s = outcomeOf bounds path t ↔
      tally bounds s.splitLines =
        tally bounds t.splitLines := by
  constructor
  · intro hSame
    exact congrArg FileOutcome.tally hSame
  · intro hTally
    unfold outcomeOf
    rw [hTally]

/- A run that does not fail comes past all its paths. -/
theorem readablePrefix_eq_self
    (hNone : paths.findSome? (readFailure? tree) = none) :
    readablePrefix tree paths = paths := by
  unfold readablePrefix
  rw [List.takeWhile_eq_self_iff]
  intro path hMem
  have hPath := List.findSome?_eq_none_iff.mp hNone path hMem
  cases hText : tree.readText path with
  | error cause =>
      simp [readFailure?, hText] at hPath
  | ok t =>
      exact Tree.isReadable_of_readText hText

/-
  The reports are the same exactly when every path, after the
  passes that were written to its file before, has the same
  numbers as without them.
-/
theorem report_eq_report_iff
    (hNone : paths.findSome? (readFailure? tree) = none) :
    (processFiles bounds false tree paths).report =
        (processFiles bounds true tree paths).report ↔
      ∀ index path,
        paths[index]? = some path →
          tally bounds
              ((addGuards bounds)^[writesTo true tree
                  (paths.take index) (tree.fileAt? path)]
                (tree.textAt path).splitLines) =
            tally bounds (tree.textAt path).splitLines := by
  rw [report_processFiles, report_processFiles,
    readablePrefix_eq_self hNone, List.mapIdx_eq_mapIdx_iff]
  simp only [writesTo_false, Function.iterate_zero, id_eq,
    outcomeOf_eq_iff, splitLines_iterate_passedText]
  constructor
  · intro hAll index path hPath
    rcases List.getElem?_eq_some_iff.mp hPath with
      ⟨hIndex, rfl⟩
    exact (hAll index hIndex).symm
  · intro hAll index hIndex
    exact (hAll index paths[index]
      (List.getElem?_eq_getElem hIndex)).symm

/- No pass is written before to a file met for the first time. -/
theorem writesTo_take_eq_zero
    {index : Nat}
    {path : Text}
    (write : Bool)
    (hApart :
      paths.Pairwise fun earlier later =>
        tree.fileAt? earlier ≠ tree.fileAt? later)
    (hPath : paths[index]? = some path) :
    writesTo write tree (paths.take index)
      (tree.fileAt? path) = 0 := by
  rw [← List.take_append_drop index paths,
    List.pairwise_append] at hApart
  rcases hApart with ⟨-, -, hOthers⟩
  have hLater : path ∈ paths.drop index := by
    apply List.mem_of_getElem? (i := 0)
    rw [List.getElem?_drop, Nat.add_zero]
    exact hPath
  unfold writesTo
  rw [List.countP_eq_zero]
  intro earlier hEarlier hSame
  rw [Bool.and_eq_true, beq_iff_eq] at hSame
  exact hOthers earlier hEarlier path hLater hSame.2

theorem isPrefix_readablePrefix
    (tree : Tree)
    (paths : List Text) :
    readablePrefix tree paths <+: paths :=
  List.takeWhile_prefix _

/- Over pairwise different files a run reports their passes. -/
theorem report_eq_map_of_apart
    (write : Bool)
    (hApart :
      paths.Pairwise fun earlier later =>
        tree.fileAt? earlier ≠ tree.fileAt? later) :
    (processFiles bounds write tree paths).report =
      (readablePrefix tree paths).map fun path =>
        outcomeOf bounds path (tree.textAt path) := by
  rw [report_processFiles, List.mapIdx_eq_iff]
  intro index
  rw [List.getElem?_map]
  cases hMet : (readablePrefix tree paths)[index]? with
  | none =>
      rfl
  | some path =>
      rcases List.getElem?_eq_some_iff.mp hMet with
        ⟨hIndex, rfl⟩
      have hPath :=
        List.prefix_iff_getElem?.mp
          (isPrefix_readablePrefix tree paths) index hIndex
      rw [Option.map_some, Option.map_some,
        writesTo_take_eq_zero write hApart hPath]
      rfl

/- So both runs report the same over such files. -/
theorem report_eq_report_of_apart
    (hApart :
      paths.Pairwise fun earlier later =>
        tree.fileAt? earlier ≠ tree.fileAt? later) :
    (processFiles bounds false tree paths).report =
      (processFiles bounds true tree paths).report := by
  rw [report_eq_map_of_apart false hApart,
    report_eq_map_of_apart true hApart]

end SafeRerun

------------------------------------------------------------
-- Two Runs in a Project
------------------------------------------------------------

namespace SafeRerun

variable {tree : Tree}
variable {options : Options}
variable {plan : Plan}

theorem scan_of_plan
    (write : Bool)
    (hPlan : planRun tree options = .ok plan) :
    scan write tree options =
      let passed :=
        processFiles plan.settings.bounds write tree
          plan.paths
      ⟨passed.tree, some plan, passed.report,
        planNotices tree options ++ passed.notices,
        passed.failure⟩ := by
  unfold scan
  rw [hPlan]

theorem scan_of_failure
    {failure : Failure}
    (write : Bool)
    (hPlan : planRun tree options = .error failure) :
    scan write tree options =
      ⟨tree, none, [], planNotices tree options,
        some failure⟩ := by
  unfold scan
  rw [hPlan]

/- A run that does not fail has a plan and reads all of it. -/
theorem exists_plan_of_scan
    {write : Bool}
    (hNone : (scan write tree options).failure = none) :
    ∃ plan,
      planRun tree options = .ok plan ∧
        plan.paths.findSome? (readFailure? tree) = none := by
  cases hPlan : planRun tree options with
  | error failure =>
      rw [scan_of_failure write hPlan] at hNone
      contradiction
  | ok plan =>
      rw [scan_of_plan write hPlan] at hNone
      have hFailure :=
        failure_processFiles plan.settings.bounds write tree
          plan.paths
      exact ⟨plan, rfl, hFailure.symm.trans hNone⟩

/- Whether a run writes makes no difference to its failure. -/
theorem failure_scan_eq
    (tree : Tree)
    (options : Options) :
    (scan true tree options).failure =
      (scan false tree options).failure := by
  cases hPlan : planRun tree options with
  | error failure =>
      rw [scan_of_failure true hPlan,
        scan_of_failure false hPlan]
  | ok plan =>
      rw [scan_of_plan true hPlan, scan_of_plan false hPlan]
      simp only [failure_processFiles]

/- A file that a pattern with two depths finds twice. -/
def nestedScript :
    Tree :=
  Tree.empty.addFile (Text.ofString "a/a/x.sql")
    (encodeText
      (Text.ofString "CREATE TRIGGER n ON t;\n"))

/- The options that ask for it. -/
def deepOptions :
    Options :=
  { verbose := false
    project := ['.']
    settingsFile := none
    overrides :=
      { Overrides.none with
        pattern := some (Text.ofString "**/a/**/x.sql") } }

theorem failure_nestedScript :
    (scan false nestedScript deepOptions).failure =
      none := by
  cbv

/-
  A check that does not fail tells that applying does not fail
  either, and it predicts the report of applying exactly when
  every path finds, after the passes that were written to its
  file for earlier paths, the numbers of the first pass.
-/
theorem check_predicts_apply_iff
    (tree : Tree)
    (options : Options)
    (hCheck : (scan false tree options).failure = none) :
    (scan true tree options).failure = none ∧
      ((scan false tree options).report =
          (scan true tree options).report ↔
        ∀ plan index path,
          planRun tree options = .ok plan →
            plan.paths[index]? = some path →
              tally plan.settings.bounds
                  ((addGuards plan.settings.bounds)^[writesTo
                      true tree (plan.paths.take index)
                      (tree.fileAt? path)]
                    (tree.textAt path).splitLines) =
                tally plan.settings.bounds
                  (tree.textAt path).splitLines) := by
  rcases exists_plan_of_scan hCheck with
    ⟨plan, hPlan, hNone⟩
  constructor
  · rw [failure_scan_eq]
    exact hCheck
  · rw [scan_of_plan true hPlan, scan_of_plan false hPlan]
    constructor
    · intro hSame found index path hFound hPath
      rw [hPlan, Except.ok.injEq] at hFound
      subst hFound
      exact (report_eq_report_iff hNone).mp hSame index path
        hPath
    · intro hAll
      apply (report_eq_report_iff hNone).mpr
      intro index path hPath
      exact hAll plan index path hPlan hPath

theorem nested_check_predicts_apply_iff :
    (scan false nestedScript deepOptions).failure = none ∧
      (scan true nestedScript deepOptions).failure = none ∧
        ((scan false nestedScript deepOptions).report =
            (scan true nestedScript deepOptions).report ↔
          ∀ plan index path,
            planRun nestedScript deepOptions = .ok plan →
              plan.paths[index]? = some path →
                tally plan.settings.bounds
                    ((addGuards plan.settings.bounds)^[writesTo
                        true nestedScript
                        (plan.paths.take index)
                        (nestedScript.fileAt? path)]
                      (nestedScript.textAt path).splitLines) =
                  tally plan.settings.bounds
                    (nestedScript.textAt path).splitLines) :=
  ⟨failure_nestedScript,
    check_predicts_apply_iff nestedScript deepOptions
      failure_nestedScript⟩

/- A check does not predict every report of applying. -/
theorem not_forall_check_predicts_apply :
    ¬ ∀ (tree : Tree) (options : Options),
      (scan false tree options).failure = none →
        (scan true tree options).failure = none →
          (scan false tree options).report =
            (scan true tree options).report := by
  intro hPredicts
  have hChecked :
      Report.updatedCount
        (scan false nestedScript deepOptions).report = 2 := by
    cbv
  have hApplied :
      Report.updatedCount
        (scan true nestedScript deepOptions).report = 1 := by
    cbv
  have hSame :=
    hPredicts nestedScript deepOptions failure_nestedScript
      (by rw [failure_scan_eq, failure_nestedScript])
  rw [hSame, hApplied] at hChecked
  contradiction

end SafeRerun
