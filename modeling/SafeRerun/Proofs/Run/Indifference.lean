import SafeRerun.Proofs.Project.Listing
import SafeRerun.Proofs.Run.FirstRun

/-
  Runs in trees that differ in files which are not selected.

  Key definitions include:
    * `SafeRerun.IsSelected`
    * `SafeRerun.DifferAside`
    * `SafeRerun.AnswersAlike`

  Key theorems include:
    * `SafeRerun.DifferAside.planRun_eq`
    * `SafeRerun.report_eq_of_readText_eq`
    * `SafeRerun.program_answersAlike`

  A run looks at the shape of the tree, at its settings file,
  and at the scripts that it selects.  Two trees in which these
  are the same are told the same, end with the same scripts,
  and keep every other file as it was.
-/

------------------------------------------------------------
-- Trees That Differ Aside
------------------------------------------------------------

namespace SafeRerun

/- Whether one of the paths of the run leads to the location. -/
def IsSelected
    (tree : Tree)
    (options : Options)
    (location : Location) : Prop :=
  ∃ plan path,
    planRun tree options = .ok plan ∧
      path ∈ plan.paths ∧
        tree.fileAt? path = some location

/-
  The trees have the same directories and file names, the same
  settings file, and the same bytes in every file that the run
  selects.
-/
structure DifferAside
    (options : Options)
    (tree other : Tree) : Prop where
  shape : tree.SameShape other
  settings :
    ∀ path location,
      settingsPath? tree options = some path →
        tree.fileAt? path = some location →
          other.entryAt location = tree.entryAt location
  selected :
    ∀ location,
      IsSelected tree options location →
        other.entryAt location = tree.entryAt location

namespace DifferAside

variable {options : Options}
variable {tree other : Tree}
variable {plan : Plan}
variable {path : Text}
variable {location : Location}

/- Both runs have the same settings and select the same paths. -/
theorem planRun_eq
    (hAside : DifferAside options tree other) :
    planRun other options = planRun tree options := by
  have hSettings :
      runSettings other options = runSettings tree options :=
    hAside.shape.runSettings_eq hAside.settings
  unfold planRun
  rw [hSettings]
  simp only [hAside.shape.selectScripts_eq]

theorem isSelected_iff
    (hAside : DifferAside options tree other) :
    IsSelected other options location ↔
      IsSelected tree options location := by
  unfold IsSelected
  rw [hAside.planRun_eq]
  simp only [hAside.shape.fileAt?_eq]

/- What the run selects reads alike in both trees. -/
theorem readText_eq
    (hAside : DifferAside options tree other)
    (hPlan : planRun tree options = .ok plan)
    (hMem : path ∈ plan.paths) :
    other.readText path = tree.readText path := by
  have hRead : other.read path = tree.read path :=
    hAside.shape.read_eq fun location hFile =>
      hAside.selected location ⟨plan, path, hPlan, hMem, hFile⟩
  unfold Tree.readText
  rw [hRead]

end DifferAside

end SafeRerun

------------------------------------------------------------
-- Runs Over Paths That Read Alike
------------------------------------------------------------

namespace SafeRerun

variable {bounds : Bounds}
variable {tree other : Tree}
variable {paths : List Text}

theorem Tree.SameShape.writesTo_eq
    (hShape : tree.SameShape other)
    (write : Bool)
    (paths : List Text)
    (file : Option Location) :
    writesTo write other paths file =
      writesTo write tree paths file := by
  simp only [writesTo, hShape.fileAt?_eq]

theorem readablePrefix_eq_of_readText_eq
    (hRead :
      ∀ path ∈ paths,
        other.readText path = tree.readText path) :
    readablePrefix other paths =
      readablePrefix tree paths := by
  induction paths with
  | nil =>
      rfl
  | cons path rest ih =>
      have hFirst :
          other.isReadable path = tree.isReadable path := by
        unfold Tree.isReadable
        rw [hRead path (by simp)]
      have hRest :=
        ih fun later hMem => hRead later (by simp [hMem])
      unfold readablePrefix at hRest ⊢
      rw [List.takeWhile_cons, List.takeWhile_cons, hFirst,
        hRest]

theorem findSome?_eq_of_readText_eq
    (hRead :
      ∀ path ∈ paths,
        other.readText path = tree.readText path) :
    paths.findSome? (readFailure? other) =
      paths.findSome? (readFailure? tree) := by
  induction paths with
  | nil =>
      rfl
  | cons path rest ih =>
      have hFirst :
          readFailure? other path =
            readFailure? tree path := by
        unfold readFailure?
        rw [hRead path (by simp)]
      rw [List.findSome?_cons, List.findSome?_cons, hFirst,
        ih fun later hMem => hRead later (by simp [hMem])]

/- Runs over such paths report the same. -/
theorem report_eq_of_readText_eq
    (bounds : Bounds)
    (write : Bool)
    (hShape : tree.SameShape other)
    (hRead :
      ∀ path ∈ paths,
        other.readText path = tree.readText path) :
    (processFiles bounds write other paths).report =
      (processFiles bounds write tree paths).report := by
  rw [report_processFiles, report_processFiles,
    readablePrefix_eq_of_readText_eq hRead,
    List.mapIdx_eq_mapIdx_iff]
  intro index hIndex
  have hMem : (readablePrefix tree paths)[index] ∈ paths :=
    (isPrefix_readablePrefix tree paths).subset
      (List.getElem_mem hIndex)
  have hText :
      other.textAt (readablePrefix tree paths)[index] =
        tree.textAt (readablePrefix tree paths)[index] := by
    unfold Tree.textAt
    rw [hRead _ hMem]
  rw [hShape.writesTo_eq, hShape.fileAt?_eq, hText]

/- A file that no path leads to is left as it is. -/
theorem entryAt_processFiles_of_apart
    {location : Location}
    (bounds : Bounds)
    (write : Bool)
    (hApart :
      ∀ path ∈ paths, tree.fileAt? path ≠ some location) :
    (processFiles bounds write tree paths).tree.entryAt
        location =
      tree.entryAt location := by
  cases write with
  | false =>
      rw [tree_processFiles_false]
  | true =>
      have hPassed :=
        isPassed_processFiles bounds true tree paths
      have hPrefix :=
        (isPrefix_readablePrefix tree paths).subset
      have hNever :
          writesTo true tree (readablePrefix tree paths)
            (some location) = 0 :=
        writesTo_eq_zero fun path hMem =>
          hApart path (hPrefix hMem)
      rw [hPassed.entryAt_eq location]
      simp only [hNever, Function.iterate_zero]
      exact Option.map_id_apply

/- An entry that is the same before is the same afterwards. -/
theorem entryAt_processFiles_eq
    {location : Location}
    (bounds : Bounds)
    (write : Bool)
    (hShape : tree.SameShape other)
    (hRead :
      ∀ path ∈ paths,
        other.readText path = tree.readText path)
    (hEntry : other.entryAt location = tree.entryAt location) :
    (processFiles bounds write other paths).tree.entryAt
        location =
      (processFiles bounds write tree paths).tree.entryAt
        location := by
  rw [(isPassed_processFiles bounds write other
      paths).entryAt_eq location,
    (isPassed_processFiles bounds write tree
      paths).entryAt_eq location]
  simp only [readablePrefix_eq_of_readText_eq hRead,
    hShape.writesTo_eq, hEntry]

end SafeRerun

------------------------------------------------------------
-- Runs in Trees That Differ Aside
------------------------------------------------------------

namespace SafeRerun

variable {options : Options}
variable {tree other : Tree}
variable {location : Location}

/- A run touches no file that it does not select. -/
theorem entryAt_scan_of_not_isSelected
    (write : Bool)
    (hOther : ¬ IsSelected tree options location) :
    (scan write tree options).tree.entryAt location =
      tree.entryAt location := by
  cases hPlan : planRun tree options with
  | error failure =>
      rw [scan_of_failure write hPlan]
  | ok plan =>
      rw [scan_of_plan write hPlan]
      apply entryAt_processFiles_of_apart
      exact fun path hMem hFile =>
        hOther ⟨plan, path, hPlan, hMem, hFile⟩

/- Both runs have one plan, one report and one failure. -/
theorem DifferAside.scan_alike
    (hAside : DifferAside options tree other)
    (write : Bool) :
    (scan write other options).plan =
        (scan write tree options).plan ∧
      (scan write other options).report =
          (scan write tree options).report ∧
        (scan write other options).failure =
          (scan write tree options).failure := by
  cases hPlan : planRun tree options with
  | error failure =>
      have hOther := hAside.planRun_eq.trans hPlan
      rw [scan_of_failure write hPlan,
        scan_of_failure write hOther]
      exact ⟨rfl, rfl, rfl⟩
  | ok plan =>
      have hOther := hAside.planRun_eq.trans hPlan
      have hRead :
          ∀ path ∈ plan.paths,
            other.readText path = tree.readText path :=
        fun path => hAside.readText_eq hPlan
      rw [scan_of_plan write hPlan, scan_of_plan write hOther]
      simp only [failure_processFiles, true_and]
      exact ⟨report_eq_of_readText_eq plan.settings.bounds
          write hAside.shape hRead,
        findSome?_eq_of_readText_eq hRead⟩

/- What was the same in both trees is the same afterwards. -/
theorem DifferAside.entryAt_scan_eq
    (hAside : DifferAside options tree other)
    (write : Bool)
    (hEntry : other.entryAt location = tree.entryAt location) :
    (scan write other options).tree.entryAt location =
      (scan write tree options).tree.entryAt location := by
  cases hPlan : planRun tree options with
  | error failure =>
      have hOther := hAside.planRun_eq.trans hPlan
      rw [scan_of_failure write hPlan,
        scan_of_failure write hOther]
      exact hEntry
  | ok plan =>
      have hOther := hAside.planRun_eq.trans hPlan
      rw [scan_of_plan write hPlan, scan_of_plan write hOther]
      exact entryAt_processFiles_eq plan.settings.bounds
        write hAside.shape
        (fun path => hAside.readText_eq hPlan) hEntry

end SafeRerun

------------------------------------------------------------
-- Answers
------------------------------------------------------------

namespace SafeRerun

variable {options : Options}
variable {tree other : Tree}

/-
  The program shows the same and ends with the same code; the
  files it selects end alike, and each of the others is left
  as it was in its own tree.
-/
structure AnswersAlike
    (options : Options)
    (tree other : Tree)
    (ended otherEnded : Output × Tree) : Prop where
  output : otherEnded.1 = ended.1
  sameSelected :
    ∀ location,
      IsSelected other options location ↔
        IsSelected tree options location
  selected :
    ∀ location,
      IsSelected tree options location →
        otherEnded.2.entryAt location =
          ended.2.entryAt location
  others :
    ∀ location,
      ¬ IsSelected tree options location →
        ended.2.entryAt location = tree.entryAt location ∧
          otherEnded.2.entryAt location =
            other.entryAt location

/- The output depends on the plan, the report and the failure. -/
theorem runOutput_congr
    (action : Action)
    (verbose : Bool)
    {run another : Run}
    (hPlan : another.plan = run.plan)
    (hReport : another.report = run.report)
    (hFailure : another.failure = run.failure) :
    runOutput action verbose another =
      runOutput action verbose run := by
  unfold runOutput account
  rw [hPlan, hReport, hFailure]

theorem answersAlike_perform
    (action : Action)
    (hAside : DifferAside options tree other) :
    AnswersAlike options tree other
      (perform action options tree)
      (perform action options other) := by
  rcases hAside.scan_alike action.writes with
    ⟨hPlan, hReport, hFailure⟩
  constructor
  case output =>
    exact runOutput_congr action options.verbose hPlan
      hReport hFailure
  case sameSelected =>
    exact fun location => hAside.isSelected_iff
  case selected =>
    exact fun location hSelected =>
      hAside.entryAt_scan_eq action.writes
        (hAside.selected location hSelected)
  case others =>
    intro location hOther
    have hOtherToo :=
      mt hAside.isSelected_iff.mp hOther
    exact ⟨entryAt_scan_of_not_isSelected action.writes
        hOther,
      entryAt_scan_of_not_isSelected action.writes
        hOtherToo⟩

end SafeRerun

------------------------------------------------------------
-- Whole Command Lines
------------------------------------------------------------

namespace SafeRerun

/- A script, and a backup of it that holds the given bytes. -/
def withBackup
    (bytes : ByteArray) :
    Tree :=
  (Tree.empty.addFile (Text.ofString "migrations/a.sql")
    (encodeText
      (Text.ofString "CREATE TRIGGER a ON t;\n"))).addFile
    (Text.ofString "migrations/a_duplicates_backup.sql")
    bytes

/- The backup is a copy of the script. -/
def copiedBackup :
    Tree :=
  withBackup
    (encodeText (Text.ofString "CREATE TRIGGER a ON t;\n"))

/- The backup is no text. -/
def brokenBackup :
    Tree :=
  withBackup ⟨#[255]⟩

/- The options of a command line that gives none. -/
def plainOptions :
    Options :=
  { verbose := false
    project := ['.']
    settingsFile := none
    overrides := Overrides.none }

/- Files with other bytes make trees of the same shape. -/
theorem Tree.sameShape_put
    (tree : Tree)
    (above : Location)
    (name : Text)
    (bytes others : ByteArray) :
    (tree.put above name (.file bytes)).SameShape
      (tree.put above name (.file others)) := by
  refine ⟨by simp, fun location => ?_⟩
  have hAlike :
      tree.canPut above name (.file others) =
        tree.canPut above name (.file bytes) :=
    rfl
  by_cases hPut :
      tree.canPut above name (.file bytes) = true
  · rw [Tree.entryAt_put hPut,
      Tree.entryAt_put (hAlike.trans hPut)]
    split
    · rfl
    · rfl
  · unfold Tree.put
    rw [dif_neg hPut, dif_neg (hAlike ▸ hPut)]

theorem Tree.sameShape_addFile
    (tree : Tree)
    (path : Text)
    (bytes others : ByteArray) :
    (tree.addFile path bytes).SameShape
      (tree.addFile path others) := by
  unfold Tree.addFile
  exact Tree.sameShape_put _ _ _ bytes others

/- A backup is not selected, whatever it holds. -/
theorem differAside_backups :
    DifferAside plainOptions copiedBackup brokenBackup := by
  have hPlan :
      planRun copiedBackup plainOptions =
        .ok ⟨.default,
          [Text.ofString "migrations/a.sql"]⟩ := by
    cbv
  have hFile :
      copiedBackup.fileAt?
          (Text.ofString "migrations/a.sql") =
        some
          (["work", "migrations", "a.sql"].map
            Text.ofString) := by
    cbv
  have hDefault :
      settingsPath? copiedBackup plainOptions = none := by
    cbv
  constructor
  case shape =>
    unfold copiedBackup brokenBackup withBackup
    exact Tree.sameShape_addFile _ _ _ _
  case settings =>
    intro path location hPath
    rw [hDefault] at hPath
    contradiction
  case selected =>
    rintro location ⟨plan, path, hFound, hMem, hLeads⟩
    rw [hPlan, Except.ok.injEq] at hFound
    subst hFound
    rw [List.mem_singleton.mp hMem, hFile,
      Option.some.injEq] at hLeads
    rw [← hLeads]
    rfl

/-
  Files that a run does not select have no influence on what
  the program shows, on its code, and on the files that it
  does select, and no file of theirs is touched.
-/
theorem program_answersAlike
    (tree other : Tree)
    (action : Action)
    (options : Options)
    (arguments : List Text)
    (hRequest :
      parseArguments arguments =
        some (.perform action options))
    (hAside : DifferAside options tree other) :
    AnswersAlike options tree other
      (program arguments tree)
      (program arguments other) := by
  rw [program_of_perform tree hRequest,
    program_of_perform other hRequest]
  exact answersAlike_perform action hAside

theorem withBackup_answersAlike :
    parseArguments [Text.ofString "apply"] =
        some (.perform .apply plainOptions) ∧
      DifferAside plainOptions copiedBackup brokenBackup ∧
        AnswersAlike plainOptions copiedBackup brokenBackup
          (program [Text.ofString "apply"] copiedBackup)
          (program [Text.ofString "apply"] brokenBackup) := by
  have hRequest :
      parseArguments [Text.ofString "apply"] =
        some (.perform .apply plainOptions) := by
    cbv
  exact ⟨hRequest, differAside_backups,
    program_answersAlike copiedBackup brokenBackup .apply
      plainOptions [Text.ofString "apply"] hRequest
      differAside_backups⟩

end SafeRerun
