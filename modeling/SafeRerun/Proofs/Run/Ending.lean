import SafeRerun.Proofs.Run.FirstRun
import SafeRerun.Proofs.Run.Interruption

/-
  How the program ends: the exit code and the two texts that
  it leaves.

  Key definitions include:
    * `SafeRerun.runFailure?`
    * `SafeRerun.Succeeds`
    * `SafeRerun.TellsFailure`
    * `SafeRerun.EndsByRule`

  Key theorems include:
    * `SafeRerun.failure_scan`
    * `SafeRerun.updatedCount_check_eq_zero_iff`
    * `SafeRerun.entryAt_apply_eq_iff`
    * `SafeRerun.endings_follow_rule`

  Checking and applying come to the same failure, if they come
  to one.  Otherwise checking finds something to do exactly
  when applying leaves another tree: the first pass over a
  script that lacks a guard makes it longer, and no later pass
  makes it shorter again.
-/

------------------------------------------------------------
-- The Failure of a Run
------------------------------------------------------------

namespace SafeRerun

variable {tree : Tree}
variable {options : Options}

/-
  What goes wrong first: the settings, the selection of the
  scripts, or the reading of one of them.
-/
def runFailure?
    (tree : Tree)
    (options : Options) :
    Option Failure :=
  match runSettings tree options with
  | .error failure => some failure
  | .ok settings =>
      match selectScripts tree options.project settings with
      | .error failure => some failure
      | .ok paths => paths.findSome? (readFailure? tree)

/- There are settings, and every script selected is a text. -/
def Succeeds
    (tree : Tree)
    (options : Options) : Prop :=
  ∃ settings paths,
    runSettings tree options = .ok settings ∧
      selectScripts tree options.project settings =
          .ok paths ∧
        ∀ path ∈ paths, ∃ t, tree.readText path = .ok t

theorem runFailure?_of_plan
    {plan : Plan}
    (hPlan : planRun tree options = .ok plan) :
    runFailure? tree options =
      plan.paths.findSome? (readFailure? tree) := by
  rcases planRun_eq_ok_iff.mp hPlan with
    ⟨hSettings, hPaths⟩
  unfold runFailure?
  simp only [hSettings, hPaths]

theorem runFailure?_of_error
    {failure : Failure}
    (hPlan : planRun tree options = .error failure) :
    runFailure? tree options = some failure := by
  unfold planRun at hPlan
  unfold runFailure?
  cases hSettings : runSettings tree options with
  | error fault =>
      simpa only [hSettings, Except.error.injEq,
        Option.some.injEq] using hPlan
  | ok settings =>
      cases hPaths :
          selectScripts tree options.project settings with
      | error fault =>
          simpa only [hSettings, hPaths, Except.error.injEq,
            Option.some.injEq] using hPlan
      | ok paths =>
          simp only [hSettings, hPaths] at hPlan
          contradiction

/- Whether it writes or not, a run comes to that failure. -/
theorem failure_scan
    (write : Bool)
    (tree : Tree)
    (options : Options) :
    (scan write tree options).failure =
      runFailure? tree options := by
  cases hPlan : planRun tree options with
  | error failure =>
      rw [scan_of_failure write hPlan,
        runFailure?_of_error hPlan]
  | ok plan =>
      rw [scan_of_plan write hPlan,
        runFailure?_of_plan hPlan]
      exact failure_processFiles plan.settings.bounds write
        tree plan.paths

theorem readFailure?_eq_none_iff
    {path : Text} :
    readFailure? tree path = none ↔
      ∃ t, tree.readText path = .ok t := by
  unfold readFailure?
  cases tree.readText path with
  | error cause =>
      simp
  | ok t =>
      simp

theorem runFailure?_eq_none_iff :
    runFailure? tree options = none ↔
      Succeeds tree options := by
  unfold runFailure? Succeeds
  cases runSettings tree options with
  | error failure =>
      simp
  | ok settings =>
      simp only [Except.ok.injEq, exists_and_left,
        exists_eq_left']
      cases selectScripts tree options.project settings with
      | error failure =>
          simp
      | ok paths =>
          simp only [List.findSome?_eq_none_iff,
            readFailure?_eq_none_iff, Except.ok.injEq,
            exists_eq_left']

end SafeRerun

------------------------------------------------------------
-- Nothing to Do
------------------------------------------------------------

namespace SafeRerun

variable {bounds : Bounds}
variable {tree : Tree}
variable {paths : List Text}

/- No pass makes a script shorter. -/
theorem length_le_iterate_addGuards
    (bounds : Bounds)
    (count : Nat)
    (lines : List Text) :
    lines.length ≤
      ((addGuards bounds)^[count] lines).length := by
  induction count generalizing lines with
  | zero =>
      rfl
  | succ count ih =>
      have hFirst := length_addGuards bounds lines
      have hLater := ih (addGuards bounds lines)
      rw [Function.iterate_succ_apply]
      omega

/- A text that passes return to is one that no pass changes. -/
theorem not_changes_of_iterate_eq
    {count : Nat}
    {t : Text}
    (hSame : (passedText bounds)^[count + 1] t = t) :
    (tally bounds t.splitLines).changes = false := by
  have hLines :=
    splitLines_iterate_passedText bounds (count + 1) t
  rw [hSame, Function.iterate_succ_apply] at hLines
  have hFirst := length_addGuards bounds t.splitLines
  have hLater :=
    length_le_iterate_addGuards bounds count
      (addGuards bounds t.splitLines)
  rw [← hLines] at hLater
  simp only [Tally.changes, decide_eq_false_iff_not]
  omega

/- A run that does not write passes over the files as they are. -/
theorem report_check
    (bounds : Bounds)
    (tree : Tree)
    (paths : List Text) :
    (processFiles bounds false tree paths).report =
      (readablePrefix tree paths).map fun path =>
        outcomeOf bounds path (tree.textAt path) := by
  rw [report_processFiles, List.mapIdx_eq_iff]
  intro index
  simp only [writesTo_false, Function.iterate_zero, id_eq,
    List.getElem?_map]

/- Checking finds nothing exactly over settled scripts. -/
theorem updatedCount_check_eq_zero_iff
    (hNone : paths.findSome? (readFailure? tree) = none) :
    Report.updatedCount
        (processFiles bounds false tree paths).report = 0 ↔
      ∀ path ∈ paths, tree.IsSettledAt bounds path := by
  rw [report_check, readablePrefix_eq_self hNone]
  unfold Report.updatedCount
  rw [List.countP_map, List.countP_eq_zero]
  apply forall₂_congr
  intro path hMem
  rcases readFailure?_eq_none_iff.mp
      (List.findSome?_eq_none_iff.mp hNone path hMem) with
    ⟨t, hText⟩
  simp only [Function.comp_apply, outcomeOf,
    Tree.textAt_of_readText hText, Bool.not_eq_true,
    Tree.IsSettledAt, hText, Except.ok.injEq,
    exists_eq_left']

/- A path whose file a run leaves alone was settled before. -/
theorem isSettledAt_of_entryAt_apply_eq
    {path : Text}
    (hNone : paths.findSome? (readFailure? tree) = none)
    (hMem : path ∈ paths)
    (hSame :
      ∀ location,
        (processFiles bounds true tree paths).tree.entryAt
            location =
          tree.entryAt location) :
    tree.IsSettledAt bounds path := by
  rcases readFailure?_eq_none_iff.mp
      (List.findSome?_eq_none_iff.mp hNone path hMem) with
    ⟨t, hText⟩
  rcases Tree.exists_fileAt?_of_readText hText with
    ⟨location, hFile⟩
  have hPassed := isPassed_processFiles bounds true tree paths
  rw [readablePrefix_eq_self hNone] at hPassed
  have hAfter := hPassed.readText_eq hFile hText
  have hRead :
      (processFiles bounds true tree paths).tree.read path =
        tree.read path :=
    hPassed.sameShape.read_eq fun place _ => hSame place
  have hKept :
      (processFiles bounds true tree paths).tree.readText
          path =
        tree.readText path := by
    unfold Tree.readText
    rw [hRead]
  rw [hKept, hText, Except.ok.injEq] at hAfter
  -- The path itself is one of those that lead to the file.
  have hOften := writesTo_pos tree hMem
  rw [hFile] at hOften
  rcases Nat.exists_eq_succ_of_ne_zero
      (Nat.ne_of_gt hOften) with
    ⟨count, hCount⟩
  rw [hCount] at hAfter
  exact ⟨t, hText, not_changes_of_iterate_eq hAfter.symm⟩

/- Applying changes nothing exactly over settled scripts. -/
theorem entryAt_apply_eq_iff
    (hNone : paths.findSome? (readFailure? tree) = none) :
    (∀ location,
        (processFiles bounds true tree paths).tree.entryAt
            location =
          tree.entryAt location) ↔
      ∀ path ∈ paths, tree.IsSettledAt bounds path := by
  constructor
  · intro hSame path hMem
    exact isSettledAt_of_entryAt_apply_eq hNone hMem hSame
  · intro hSettled location
    rw [(isQuiet_processFiles true hSettled).kept]

end SafeRerun

------------------------------------------------------------
-- What the Program Ends With
------------------------------------------------------------

namespace SafeRerun

variable {tree : Tree}
variable {options : Options}
variable {action : Action}

/-
  What is left of a run that can fail.  A failure gives the
  code one and no output; unless an account is asked for, the
  error text is the line of the failure, and without a failure
  it is empty.
-/
structure TellsFailure
    (verbose : Bool)
    (failure? : Option Failure)
    (output : Output) : Prop where
  code : output.code = 0 ∨ output.code = 1
  failing :
    ∀ failure,
      failure? = some failure →
        output.code = 1 ∧ output.out = []
  told :
    ∀ failure,
      failure? = some failure →
        verbose = false →
          output.err =
            Text.ofString "Error: " ++ failure.chain ++
              ['\n']
  silent :
    failure? = none → verbose = false → output.err = []

theorem code_eq_zero_or_one
    (action : Action)
    (report : Report) :
    action.code report = 0 ∨ action.code report = 1 := by
  cases action with
  | apply =>
      exact Or.inl rfl
  | check =>
      by_cases hNone : Report.updatedCount report = 0
      · exact Or.inl (if_pos hNone)
      · exact Or.inr (if_neg hNone)

theorem tellsFailure_runOutput
    (action : Action)
    (verbose : Bool)
    (run : Run) :
    TellsFailure verbose run.failure
      (runOutput action verbose run) := by
  unfold runOutput
  cases hFailure : run.failure with
  | none =>
      constructor
      case code =>
        exact code_eq_zero_or_one action run.report
      case failing =>
        intro failure hSome
        contradiction
      case told =>
        intro failure hSome
        contradiction
      case silent =>
        rintro - rfl
        rfl
  | some failure =>
      constructor
      case code =>
        exact Or.inr rfl
      case failing =>
        intro found hSome
        exact ⟨rfl, rfl⟩
      case told =>
        intro found hSome hQuiet
        rw [Option.some.injEq] at hSome
        subst hSome hQuiet
        rfl
      case silent =>
        intro hNone
        contradiction

theorem tellsFailure_perform
    (action : Action)
    (options : Options)
    (tree : Tree) :
    TellsFailure options.verbose (runFailure? tree options)
      (perform action options tree).1 := by
  have hTells :=
    tellsFailure_runOutput action options.verbose
      (scan action.writes tree options)
  rw [failure_scan] at hTells
  exact hTells

/- Checking leaves the tree as it is. -/
theorem tree_perform_check
    (options : Options)
    (tree : Tree) :
    (perform .check options tree).2 = tree := by
  change (scan false tree options).tree = tree
  cases hPlan : planRun tree options with
  | error failure =>
      rw [scan_of_failure false hPlan]
  | ok plan =>
      rw [scan_of_plan false hPlan]
      exact tree_processFiles_false plan.settings.bounds tree
        plan.paths

/- Applying ends well exactly when nothing fails. -/
theorem code_apply_eq_zero_iff :
    (perform .apply options tree).1.code = 0 ↔
      runFailure? tree options = none := by
  have hTells := tellsFailure_perform .apply options tree
  constructor
  · intro hCode
    rw [← failure_scan true tree options]
    exact failure_of_code_perform hCode
  · intro hNone
    rw [← failure_scan true tree options] at hNone
    change (runOutput .apply options.verbose
      (scan true tree options)).code = 0
    unfold runOutput
    rw [hNone]
    rfl

/- Checking ends well when, besides, there is nothing to do. -/
theorem code_check_eq_zero_iff :
    (perform .check options tree).1.code = 0 ↔
      runFailure? tree options = none ∧
        Report.updatedCount
          (scan false tree options).report = 0 := by
  change (runOutput .check options.verbose
    (scan false tree options)).code = 0 ↔ _
  rw [← failure_scan false tree options]
  unfold runOutput
  cases hFailure : (scan false tree options).failure with
  | some failure =>
      simp
  | none =>
      simp only [Action.code, true_and]
      split
      · rename_i hCount
        simp [hCount]
      · rename_i hCount
        simp [hCount]

/- A check that ends well promises that applying does nothing. -/
theorem code_check_eq_zero_iff_apply :
    (perform .check options tree).1.code = 0 ↔
      (perform .apply options tree).1.code = 0 ∧
        ∀ location,
          (perform .apply options tree).2.entryAt location =
            tree.entryAt location := by
  rw [code_check_eq_zero_iff, code_apply_eq_zero_iff]
  apply and_congr_right
  intro hNone
  rw [← failure_scan true tree options] at hNone
  rcases exists_plan_of_scan hNone with
    ⟨plan, hPlan, hReadable⟩
  change _ ↔ ∀ location,
    (scan true tree options).tree.entryAt location =
      tree.entryAt location
  rw [scan_of_plan false hPlan, scan_of_plan true hPlan]
  exact (updatedCount_check_eq_zero_iff hReadable).trans
    (entryAt_apply_eq_iff hReadable).symm

end SafeRerun

------------------------------------------------------------
-- The Rule
------------------------------------------------------------

namespace SafeRerun

/-
  How an action with its options ends in a tree.  A check
  keeps the tree, and its code is a promise about applying
  with the same options in the same tree; applying ends well
  when nothing fails.
-/
structure EndsByRule
    (tree : Tree)
    (action : Action)
    (options : Options)
    (ended : Output × Tree) : Prop where
  tells :
    TellsFailure options.verbose (runFailure? tree options)
      ended.1
  checkKeeps : action = .check → ended.2 = tree
  checkCode :
    action = .check →
      (ended.1.code = 0 ↔
        (perform .apply options tree).1.code = 0 ∧
          ∀ location,
            (perform .apply options tree).2.entryAt
                location =
              tree.entryAt location)
  applyCode :
    action = .apply →
      (ended.1.code = 0 ↔ Succeeds tree options)

/- The command lines that apply and check over flat files. -/
def flatApply :
    List Text :=
  ["apply", "-g", "sql/*.sql"].map Text.ofString

def flatCheck :
    List Text :=
  ["check", "-g", "sql/*.sql"].map Text.ofString

/-
  The exit code of a check tells whether applying would fail
  or change a file; a failure is told in one line and by the
  code, whatever has been written before it.
-/
theorem endings_follow_rule
    (tree : Tree)
    (action : Action)
    (options : Options)
    (arguments : List Text)
    (hRequest :
      parseArguments arguments =
        some (.perform action options)) :
    EndsByRule tree action options
      (program arguments tree) := by
  rw [program_of_perform tree hRequest]
  constructor
  case tells =>
    exact tellsFailure_perform action options tree
  case checkKeeps =>
    rintro rfl
    exact tree_perform_check options tree
  case checkCode =>
    rintro rfl
    exact code_check_eq_zero_iff_apply
  case applyCode =>
    rintro rfl
    exact code_apply_eq_zero_iff.trans runFailure?_eq_none_iff

/- Here applying writes the first file and then fails. -/
theorem partlyBroken_endings_follow_rule :
    EndsByRule partlyBroken .check flatOptions
        (program flatCheck partlyBroken) ∧
      EndsByRule partlyBroken .apply flatOptions
        (program flatApply partlyBroken) := by
  have hCheck :
      parseArguments flatCheck =
        some (.perform .check flatOptions) := by
    cbv
  have hApply :
      parseArguments flatApply =
        some (.perform .apply flatOptions) := by
    cbv
  exact ⟨endings_follow_rule partlyBroken .check flatOptions
      flatCheck hCheck,
    endings_follow_rule partlyBroken .apply flatOptions
      flatApply hApply⟩

end SafeRerun
