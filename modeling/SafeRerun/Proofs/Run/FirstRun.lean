import SafeRerun.Command.Program
import SafeRerun.Proofs.Pass.SecondPass
import SafeRerun.Proofs.Project.Search
import SafeRerun.Proofs.Run.Prediction

/-
  First runs over a project, after which nothing is left to
  do.

  Key definitions include:
    * `SafeRerun.IsFirstRun`
    * `SafeRerun.EndsQuietly`

  Key theorems include:
    * `SafeRerun.Tree.SameShape.runSettings_eq`
    * `SafeRerun.isQuiet_processFiles`
    * `SafeRerun.settled_after_first_run`
    * `SafeRerun.first_run_leaves_nothing`

  A run that writes keeps the shape of the tree, so a later
  run finds the same scripts with the same settings.  Where
  no script held a guard before, one pass is enough for each,
  however often the run has passed over it.
-/

------------------------------------------------------------
-- Settings After a Run
------------------------------------------------------------

namespace SafeRerun

variable {tree other : Tree}
variable {options : Options}

/- The path of the settings file that a run consults, if any. -/
def settingsPath?
    (tree : Tree)
    (options : Options) :
    Option Text :=
  match options.settingsFile with
  | some path => some path
  | none => settingsFile? tree options.project

theorem baseSettings_eq
    (tree : Tree)
    (options : Options) :
    baseSettings tree options =
      match settingsPath? tree options with
      | some path => loadSettings tree path
      | none => .ok .default := by
  unfold baseSettings settingsPath? projectSettings
  cases options.settingsFile with
  | none =>
      rfl
  | some path =>
      rfl

theorem Tree.SameShape.settingsPath?_eq
    (hShape : tree.SameShape other) :
    settingsPath? tree options =
      settingsPath? other options := by
  have hExists : tree.pathExists = other.pathExists :=
    funext hShape.pathExists_eq
  unfold settingsPath? settingsFile?
  rw [hExists]

/- The settings stay while their file does. -/
theorem Tree.SameShape.runSettings_eq
    (hShape : tree.SameShape other)
    (hKept :
      ∀ path location,
        settingsPath? tree options = some path →
          tree.fileAt? path = some location →
            other.entryAt location =
              tree.entryAt location) :
    runSettings other options = runSettings tree options := by
  have hBase :
      baseSettings other options =
        baseSettings tree options := by
    rw [baseSettings_eq, baseSettings_eq,
      ← hShape.settingsPath?_eq]
    cases hPath : settingsPath? tree options with
    | none =>
        rfl
    | some path =>
        have hRead : other.read path = tree.read path :=
          hShape.read_eq (hKept path · hPath)
        unfold loadSettings readText
        simp only [hRead, hShape.pathExists_eq]
  unfold runSettings
  rw [hBase]

/- The settings of a run are usable. -/
theorem fault?_eq_none_of_runSettings
    {settings : Settings}
    (hSettings : runSettings tree options = .ok settings) :
    settings.fault? = none := by
  unfold runSettings at hSettings
  cases hBase : baseSettings tree options with
  | error failure =>
      simp [hBase] at hSettings
  | ok found =>
      cases hFault : (options.overrides.apply found).fault? with
      | some fault =>
          simp [hBase, hFault] at hSettings
      | none =>
          simp only [hBase, hFault, Except.ok.injEq] at hSettings
          rw [← hSettings]
          exact hFault

end SafeRerun

------------------------------------------------------------
-- Runs Without Changes
------------------------------------------------------------

namespace SafeRerun

variable {bounds : Bounds}
variable {tree : Tree}
variable {options : Options}
variable {plan : Plan}
variable {path : Text}
variable {paths : List Text}

/- A pass over the script at the path would change nothing. -/
def Tree.IsSettledAt
    (bounds : Bounds)
    (tree : Tree)
    (path : Text) : Prop :=
  ∃ t,
    tree.readText path = .ok t ∧
      (tally bounds t.splitLines).changes = false

/- A run that comes to its end and changes nothing. -/
structure FilesRun.IsQuiet
    (run : FilesRun)
    (tree : Tree) : Prop where
  kept : run.tree = tree
  unfailing : run.failure = none
  unchanged : Report.updatedCount run.report = 0

theorem tree_processFile_of_settled
    {t : Text}
    (write : Bool)
    (hText : tree.readText path = .ok t)
    (hSame : (tally bounds t.splitLines).changes = false) :
    (processFile bounds write tree path).tree = tree := by
  rcases Tree.exists_leadsToFile_of_readText hText with
    ⟨above, name, bytes, -, hLeads, hDecode⟩
  rw [processFile_of_ok bounds write hLeads hDecode, hSame]
  rfl

/- A run over settled scripts is quiet. -/
theorem isQuiet_processFiles
    (write : Bool)
    (hSettled : ∀ path ∈ paths, tree.IsSettledAt bounds path) :
    (processFiles bounds write tree paths).IsQuiet tree := by
  induction paths with
  | nil =>
      exact ⟨rfl, rfl, rfl⟩
  | cons path rest ih =>
      rcases hSettled path (by simp) with ⟨t, hText, hSame⟩
      have hRest :=
        ih fun other hMem => hSettled other (by simp [hMem])
      have hKept :=
        tree_processFile_of_settled write hText hSame
      rw [processFiles_of_ok bounds write hText]
      simp only [hKept]
      refine ⟨hRest.kept, hRest.unfailing, ?_⟩
      have hCount := hRest.unchanged
      unfold Report.updatedCount at hCount ⊢
      rw [List.countP_cons, hCount, outcomeOf, hSame]
      rfl

/- A report without changes names no path. -/
theorem updateLines_of_unchanged
    {report : Report}
    (label : String)
    (hNone : Report.updatedCount report = 0) :
    updateLines label report = [] := by
  have hLength := Report.length_updated report
  rw [hNone, List.length_eq_zero_iff] at hLength
  unfold updateLines
  rw [hLength]
  rfl

/- What an action shows when nothing has changed. -/
def Action.quietText :
    Action → Text
  | .apply =>
      Text.ofString
        "\nProcessed 0 files with CREATE TRIGGER statements.\n"
  | .check =>
      Text.ofString "\n0 files need DROP TRIGGER guards.\n"

theorem report_eq_quietText
    {report : Report}
    (action : Action)
    (hNone : Report.updatedCount report = 0) :
    action.report report = action.quietText := by
  cases action with
  | apply =>
      simp only [Action.report, applyText, hNone,
        updateLines_of_unchanged _ hNone]
      rfl
  | check =>
      simp only [Action.report, checkText, hNone,
        updateLines_of_unchanged _ hNone]
      rfl

theorem code_eq_zero
    {report : Report}
    (action : Action)
    (hNone : Report.updatedCount report = 0) :
    action.code report = 0 := by
  cases action with
  | apply =>
      rfl
  | check =>
      simp only [Action.code, hNone, if_true]

/-
  The program ends well, shows that it has nothing to do, and
  leaves the tree as it is.
-/
structure EndsQuietly
    (action : Action)
    (ended : Output × Tree)
    (tree : Tree) : Prop where
  code : ended.1.code = 0
  out : ended.1.out = action.quietText
  kept : ended.2 = tree

/- Over settled scripts there is nothing to do. -/
theorem endsQuietly_perform
    (action : Action)
    (hPlan : planRun tree options = .ok plan)
    (hSettled :
      ∀ path ∈ plan.paths,
        tree.IsSettledAt plan.settings.bounds path) :
    EndsQuietly action (perform action options tree) tree := by
  have hQuiet :=
    isQuiet_processFiles action.writes hSettled
  have hNone := hQuiet.unchanged
  unfold perform runOutput
  rw [scan_of_plan action.writes hPlan]
  simp only [hQuiet.unfailing]
  exact ⟨code_eq_zero action hNone,
    report_eq_quietText action hNone, hQuiet.kept⟩

end SafeRerun

------------------------------------------------------------
-- After the First Run
------------------------------------------------------------

namespace SafeRerun

variable {tree : Tree}
variable {options : Options}
variable {plan : Plan}

/-
  None of the scripts that the run selects holds a guard, and
  the settings file is none of them.
-/
structure IsFirstRun
    (tree : Tree)
    (options : Options) : Prop where
  unguarded :
    ∀ plan path t line,
      planRun tree options = .ok plan →
        path ∈ plan.paths →
          tree.readText path = .ok t →
            line ∈ t.splitLines →
              guardPhrase.occursIn line = false
  settingsApart :
    ∀ plan path file,
      planRun tree options = .ok plan →
        path ∈ plan.paths →
          settingsPath? tree options = some file →
            tree.fileAt? path ≠ tree.fileAt? file

/- Passes after the first one leave an unguarded script alone. -/
theorem iterate_addGuards_of_no_guards
    {bounds : Bounds}
    {lines : List Text}
    (count : Nat)
    (hLookback : 1 ≤ bounds.lookback)
    (hNames : ∀ line ∈ lines, guardedNames line = []) :
    (addGuards bounds)^[count + 1] lines =
      addGuards bounds lines := by
  have hSilent :=
    isSilent_addGuards_of_no_guards hLookback hNames
  rw [Function.iterate_succ_apply,
    Function.iterate_fixed hSilent.same]

/- After a first run every script of the plan is settled. -/
theorem settled_after_first_run
    {path : Text}
    (hFirst : IsFirstRun tree options)
    (hPlan : planRun tree options = .ok plan)
    (hNone : plan.paths.findSome? (readFailure? tree) = none)
    (hMem : path ∈ plan.paths) :
    (processFiles plan.settings.bounds true tree
        plan.paths).tree.IsSettledAt plan.settings.bounds
      path := by
  have hAll := readablePrefix_eq_self hNone
  have hPassed :=
    isPassed_processFiles plan.settings.bounds true tree
      plan.paths
  rw [hAll] at hPassed
  have hReadable : tree.isReadable path = true := by
    rw [← hAll] at hMem
    exact List.mem_takeWhile_imp hMem
  have hText := Tree.readText_of_isReadable hReadable
  rcases Tree.exists_fileAt?_of_readText hText with
    ⟨location, hFile⟩
  have hUsable :=
    fault?_eq_none_of_runSettings
      (planRun_eq_ok_iff.mp hPlan).1
  have hLookback : 1 ≤ plan.settings.bounds.lookback :=
    (plan.settings.fault?_eq_none_iff.mp hUsable).2.1
  have hNames :
      ∀ line ∈ (tree.textAt path).splitLines,
        guardedNames line = [] := by
    intro line hLine
    have hOccurs :=
      hFirst.unguarded plan path _ line hPlan hMem hText hLine
    apply guardedNames_of_find?_eq_none
    simpa [Phrase.occursIn] using hOccurs
  -- The path itself is one of those that lead to the file.
  have hOften := writesTo_pos tree hMem
  rw [hFile] at hOften
  rcases Nat.exists_eq_succ_of_ne_zero
      (Nat.ne_of_gt hOften) with
    ⟨count, hCount⟩
  refine ⟨_, hPassed.readText_eq hFile hText, ?_⟩
  rw [splitLines_iterate_passedText, hCount,
    iterate_addGuards_of_no_guards count hLookback hNames]
  exact (isSilent_addGuards_of_no_guards hLookback
    hNames).unchanged

/- A later run has the same settings and selects the same scripts. -/
theorem planRun_after_first_run
    (hFirst : IsFirstRun tree options)
    (hPlan : planRun tree options = .ok plan)
    (hNone : plan.paths.findSome? (readFailure? tree) = none) :
    planRun
        (processFiles plan.settings.bounds true tree
          plan.paths).tree options = .ok plan := by
  have hPassed :=
    isPassed_processFiles plan.settings.bounds true tree
      plan.paths
  have hShape := hPassed.sameShape
  rcases planRun_eq_ok_iff.mp hPlan with
    ⟨hSettings, hSelected⟩
  rw [hShape.selectScripts_eq] at hSelected
  refine planRun_eq_ok_iff.mpr ⟨?_, hSelected⟩
  rw [← hSettings]
  apply hShape.runSettings_eq
  intro file location hFile hLocation
  have hNever :
      writesTo true tree plan.paths (some location) = 0 := by
    rw [← hLocation]
    exact writesTo_eq_zero fun path hMem =>
      hFirst.settingsApart plan path file hPlan hMem hFile
  rw [readablePrefix_eq_self hNone] at hPassed
  rw [hPassed.entryAt_eq location]
  simp only [hNever, Function.iterate_zero]
  exact Option.map_id_apply

theorem program_of_perform
    {arguments : List Text}
    {action : Action}
    (tree : Tree)
    (hRequest :
      parseArguments arguments =
        some (.perform action options)) :
    program arguments tree = perform action options tree := by
  unfold program
  rw [hRequest]
  rfl

/- Applying ends well only when the run does not fail. -/
theorem failure_of_code_perform
    (hCode : (perform .apply options tree).1.code = 0) :
    (scan true tree options).failure = none := by
  unfold perform runOutput at hCode
  dsimp only [Action.writes] at hCode
  split at hCode
  · contradiction
  · rename_i hNone
    exact hNone

/- The command lines that apply and check over it. -/
def deepApply :
    List Text :=
  ["apply", "-g", "**/a/**/x.sql"].map Text.ofString

def deepCheck :
    List Text :=
  ["check", "-g", "**/a/**/x.sql"].map Text.ofString

/- The plan over the file that is found twice. -/
def nestedPlan :
    Plan :=
  { settings :=
      { Settings.default with
        pattern := Text.ofString "**/a/**/x.sql" }
    paths :=
      [Text.ofString "a/a/x.sql", Text.ofString "a/a/x.sql"] }

/- A run over that file is a first run. -/
theorem isFirstRun_nestedScript :
    IsFirstRun nestedScript deepOptions := by
  have hPlan :
      planRun nestedScript deepOptions = .ok nestedPlan := by
    cbv
  have hClean :
      (nestedPlan.paths.all fun path =>
        (nestedScript.textAt path).splitLines.all fun line =>
          !guardPhrase.occursIn line) = true := by
    cbv
  have hDefault :
      settingsPath? nestedScript deepOptions = none := by
    cbv
  constructor
  · intro plan path t line hFound hMem hText hLine
    rw [hPlan, Except.ok.injEq] at hFound
    subst hFound
    have hLines := List.all_eq_true.mp hClean path hMem
    rw [Tree.textAt_of_readText hText] at hLines
    have hOccurs := List.all_eq_true.mp hLines line hLine
    rwa [Bool.not_eq_true'] at hOccurs
  · intro plan path file _ _ hFile
    rw [hDefault] at hFile
    contradiction

/-
  After a first run that ends well, a check and another run
  find nothing to do.
-/
theorem first_run_leaves_nothing
    (tree : Tree)
    (options : Options)
    (applying checking : List Text)
    (hApply :
      parseArguments applying =
        some (.perform .apply options))
    (hCheck :
      parseArguments checking =
        some (.perform .check options))
    (hCode : (program applying tree).1.code = 0)
    (hFirst : IsFirstRun tree options) :
    let after := (program applying tree).2
    EndsQuietly .check (program checking after) after ∧
      EndsQuietly .apply (program applying after) after := by
  intro after
  rw [program_of_perform tree hApply] at hCode
  rcases exists_plan_of_scan (failure_of_code_perform hCode)
    with ⟨plan, hPlan, hNone⟩
  have hAfter :
      after =
        (processFiles plan.settings.bounds true tree
          plan.paths).tree := by
    dsimp only [after]
    rw [program_of_perform tree hApply]
    unfold perform
    dsimp only [Action.writes]
    rw [scan_of_plan true hPlan]
  have hLater := planRun_after_first_run hFirst hPlan hNone
  rw [← hAfter] at hLater
  have hSettled :
      ∀ path ∈ plan.paths,
        after.IsSettledAt plan.settings.bounds path := by
    intro path hMem
    rw [hAfter]
    exact settled_after_first_run hFirst hPlan hNone hMem
  rw [program_of_perform after hApply,
    program_of_perform after hCheck]
  exact ⟨endsQuietly_perform .check hLater hSettled,
    endsQuietly_perform .apply hLater hSettled⟩

theorem nested_first_run_leaves_nothing :
    parseArguments deepApply =
        some (.perform .apply deepOptions) ∧
      parseArguments deepCheck =
          some (.perform .check deepOptions) ∧
        (program deepApply nestedScript).1.code = 0 ∧
          EndsQuietly .check
            (program deepCheck
              (program deepApply nestedScript).2)
            (program deepApply nestedScript).2 ∧
            EndsQuietly .apply
              (program deepApply
                (program deepApply nestedScript).2)
              (program deepApply nestedScript).2 := by
  have hApply :
      parseArguments deepApply =
        some (.perform .apply deepOptions) := by
    cbv
  have hCheck :
      parseArguments deepCheck =
        some (.perform .check deepOptions) := by
    cbv
  have hCode : (program deepApply nestedScript).1.code = 0 := by
    cbv
  exact ⟨hApply, hCheck, hCode,
    first_run_leaves_nothing nestedScript deepOptions
      deepApply deepCheck hApply hCheck hCode
      isFirstRun_nestedScript⟩

end SafeRerun
