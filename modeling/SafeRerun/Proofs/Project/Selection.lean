import SafeRerun.Run.Scan

/-
  The paths that a run selects.

  Key theorems include:
    * `SafeRerun.mem_keepSelected_iff`
    * `SafeRerun.matchedFiles_eq_ok_iff`
    * `SafeRerun.planRun_eq_ok_iff`
    * `SafeRerun.isFile_of_mem_plan`

  A path is selected when the pattern finds it, it leads to a
  file, and it is not left out.
-/

------------------------------------------------------------
-- Selected Paths
------------------------------------------------------------

namespace SafeRerun

variable {tree : Tree}
variable {base path : Text}
variable {settings : Settings}
variable {paths : List Text}

theorem mem_keepSelected_iff :
    path ∈ keepSelected base settings paths ↔
      path ∈ paths ∧
        isLeftOut base settings path = false := by
  unfold keepSelected
  rw [List.mem_mergeSort, List.mem_filter]
  simp

theorem findings_eq_ok_iff
    {found : List (Finding Text)} :
    findings tree base settings = .ok found ↔
      listable tree base = .ok () ∧
        ∃ pattern,
          pathPattern (fullPattern base settings) =
              .ok pattern ∧
            pattern.search tree = found := by
  unfold findings
  cases listable tree base with
  | error fault =>
      simp
  | ok listed =>
      cases pathPattern (fullPattern base settings) with
      | error e =>
          simp
      | ok pattern =>
          simp

/- Without a fault the findings are the paths found. -/
theorem faultFound?_eq_none_iff
    {found : List (Finding Text)} :
    faultFound? found = none ↔
      found = (pathsFound found).map .ok := by
  induction found with
  | nil =>
      simp [faultFound?, pathsFound]
  | cons finding rest ih =>
      cases finding with
      | error fault =>
          simp [faultFound?, pathsFound]
      | ok path =>
          simp [faultFound?, pathsFound, ih]

@[simp] theorem pathsFound_map_ok
    (paths : List Text) :
    pathsFound (paths.map .ok) = paths := by
  induction paths with
  | nil =>
      rfl
  | cons path rest ih =>
      rw [List.map_cons, pathsFound, ih]

/- The pattern matches files where no fault is found. -/
theorem matchedFiles_eq_ok_iff :
    matchedFiles tree base settings = .ok paths ↔
      listable tree base = .ok () ∧
        ∃ (pattern : PathPattern) (found : List Text),
          pathPattern (fullPattern base settings) =
              .ok pattern ∧
            pattern.search tree = found.map .ok ∧
              found.filter tree.isFile = paths := by
  unfold matchedFiles
  constructor
  · intro hMatched
    cases hFound : findings tree base settings with
    | error failure =>
        simp [hFound] at hMatched
    | ok found =>
        simp only [hFound] at hMatched
        cases hFault : faultFound? found with
        | some fault =>
            simp [hFault] at hMatched
        | none =>
            rcases findings_eq_ok_iff.mp hFound with
              ⟨hListable, pattern, hPattern, hSearch⟩
            simp only [hFault, Except.ok.injEq] at hMatched
            refine ⟨hListable, pattern, pathsFound found,
              hPattern, ?_, hMatched⟩
            rw [hSearch]
            exact faultFound?_eq_none_iff.mp hFault
  · rintro ⟨hListable, pattern, found, hPattern, hSearch,
      rfl⟩
    have hFound :
        findings tree base settings =
          .ok (found.map .ok) :=
      findings_eq_ok_iff.mpr
        ⟨hListable, pattern, hPattern, hSearch⟩
    have hNone : faultFound? (found.map .ok) = none := by
      rw [faultFound?_eq_none_iff, pathsFound_map_ok]
    simp only [hFound, hNone, pathsFound_map_ok]

theorem selectScripts_eq_ok_iff :
    selectScripts tree base settings = .ok paths ↔
      ∃ found,
        matchedFiles tree base settings = .ok found ∧
          keepSelected base settings found = paths := by
  unfold selectScripts
  cases matchedFiles tree base settings with
  | error failure =>
      simp [Except.map]
  | ok found =>
      simp [Except.map]

end SafeRerun

------------------------------------------------------------
-- Plans
------------------------------------------------------------

namespace SafeRerun

variable {tree : Tree}
variable {options : Options}
variable {plan : Plan}
variable {path : Text}

theorem planRun_eq_ok_iff :
    planRun tree options = .ok plan ↔
      runSettings tree options = .ok plan.settings ∧
        selectScripts tree options.project plan.settings =
          .ok plan.paths := by
  unfold planRun
  cases runSettings tree options with
  | error failure =>
      simp
  | ok settings =>
      simp only [Except.ok.injEq]
      cases hPaths :
          selectScripts tree options.project settings with
      | error failure =>
          constructor
          · intro hPlan
            contradiction
          · intro hBoth
            rw [← hBoth.1, hPaths] at hBoth
            simp at hBoth
      | ok paths =>
          rw [Except.ok.injEq]
          constructor
          · intro hPlan
            subst hPlan
            exact ⟨rfl, hPaths⟩
          · intro hBoth
            rcases hBoth with ⟨rfl, hSame⟩
            rw [hPaths, Except.ok.injEq] at hSame
            rw [hSame]

/- Every path of a plan leads to a file. -/
theorem isFile_of_mem_plan
    (hPlan : planRun tree options = .ok plan)
    (hMem : path ∈ plan.paths) :
    tree.isFile path = true := by
  rcases planRun_eq_ok_iff.mp hPlan with ⟨-, hSelect⟩
  rcases selectScripts_eq_ok_iff.mp hSelect with
    ⟨found, hMatched, hPaths⟩
  rcases matchedFiles_eq_ok_iff.mp hMatched with
    ⟨-, pattern, paths, -, -, hFound⟩
  rw [← hPaths, mem_keepSelected_iff, ← hFound,
    List.mem_filter] at hMem
  exact hMem.1.2

end SafeRerun
