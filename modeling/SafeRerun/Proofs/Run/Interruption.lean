import SafeRerun.Proofs.Project.Selection
import SafeRerun.Proofs.Run.Prediction

/-
  Runs that stop at a file which is no text.

  Key definitions include:
    * `SafeRerun.Tree.isBroken`
    * `SafeRerun.LeavesPrefix`

  Key theorems include:
    * `SafeRerun.readablePrefix_eq_take`
    * `SafeRerun.entryAt_processFiles_ne_iff`
    * `SafeRerun.apply_stops_at_broken_file`

  A run that writes rewrites the files of its paths up to the
  first one that is no text, and touches nothing else.  The
  failure names that path.
-/

------------------------------------------------------------
-- Files That Are No Text
------------------------------------------------------------

namespace SafeRerun

variable {tree : Tree}
variable {path : Text}
variable {paths : List Text}

/- Whether a path leads to a file whose bytes are no text. -/
def Tree.isBroken
    (tree : Tree)
    (path : Text) :
    Bool :=
  match tree.read path with
  | .ok bytes => (decodeText? bytes).isNone
  | .error _ => false

/- A file is a text or it is not. -/
theorem isReadable_eq_not_isBroken
    (hFile : tree.isFile path = true) :
    tree.isReadable path = !tree.isBroken path := by
  rcases Option.isSome_iff_exists.mp hFile with
    ⟨location, hLocation⟩
  rcases Tree.exists_leadsToFile hLocation with
    ⟨above, name, bytes, -, hLeads⟩
  unfold Tree.isReadable Tree.isBroken
  rw [hLeads.readText_eq, hLeads.read_eq]
  cases hDecode : decodeText? bytes with
  | none =>
      simp [hDecode, Except.toBool]
  | some t =>
      simp [hDecode, Except.toBool]

theorem readFailure?_of_isBroken
    (hBroken : tree.isBroken path = true) :
    readFailure? tree path =
      some (.notRead path .notText) := by
  unfold Tree.isBroken at hBroken
  unfold readFailure? Tree.readText
  cases hRead : tree.read path with
  | error cause =>
      simp [hRead] at hBroken
  | ok bytes =>
      simp only [hRead, Option.isNone_iff_eq_none] at hBroken
      simp [hBroken]

theorem readFailure?_of_isReadable
    (hReadable : tree.isReadable path = true) :
    readFailure? tree path = none := by
  unfold readFailure?
  rw [Tree.readText_of_isReadable hReadable]

/- A run over files comes to the first one that is no text. -/
theorem readablePrefix_eq_take
    (hFiles : ∀ path ∈ paths, tree.isFile path = true) :
    readablePrefix tree paths =
      paths.take (paths.findIdx tree.isBroken) := by
  induction paths with
  | nil =>
      rfl
  | cons path rest ih =>
      have hRest :=
        ih fun other hMem => hFiles other (by simp [hMem])
      have hSame :=
        isReadable_eq_not_isBroken (hFiles path (by simp))
      unfold readablePrefix at hRest ⊢
      rw [List.takeWhile_cons, List.findIdx_cons, hSame]
      cases hBroken : tree.isBroken path with
      | true =>
          simp
      | false =>
          simp [hRest]

/- The run fails there, if there is such a file. -/
theorem findSome?_readFailure?_eq
    (hFiles : ∀ path ∈ paths, tree.isFile path = true) :
    paths.findSome? (readFailure? tree) =
      paths[paths.findIdx tree.isBroken]?.map fun path =>
        .notRead path .notText := by
  rw [← List.find?_eq_getElem?_findIdx]
  induction paths with
  | nil =>
      rfl
  | cons path rest ih =>
      have hRest :=
        ih fun other hMem => hFiles other (by simp [hMem])
      have hFile := hFiles path (by simp)
      rw [List.findSome?_cons, List.find?_cons]
      cases hBroken : tree.isBroken path with
      | true =>
          rw [readFailure?_of_isBroken hBroken]
          rfl
      | false =>
          have hReadable : tree.isReadable path = true := by
            rw [isReadable_eq_not_isBroken hFile, hBroken]
            rfl
          rw [readFailure?_of_isReadable hReadable]
          exact hRest

end SafeRerun

------------------------------------------------------------
-- Files Apart
------------------------------------------------------------

namespace SafeRerun

variable {bounds : Bounds}
variable {tree : Tree}
variable {path : Text}
variable {paths : List Text}
variable {location : Location}

/- Over files apart, a run passes each file once or not at all. -/
theorem leadsToFile_processFiles
    {above : Location}
    {name t : Text}
    {bytes : ByteArray}
    (bounds : Bounds)
    (hApart :
      paths.Pairwise fun earlier later =>
        tree.fileAt? earlier ≠ tree.fileAt? later)
    (hMem : path ∈ readablePrefix tree paths)
    (hLeads : tree.LeadsToFile path above name bytes)
    (hText : decodeText? bytes = some t) :
    (processFiles bounds true tree paths).tree.LeadsToFile
      path above name (encodeText (passedText bounds t)) := by
  have hFile := hLeads.fileAt?_eq
  have hOnce :=
    writesTo_eq_one
      (hApart.sublist
        (isPrefix_readablePrefix tree paths).sublist) hMem
  rw [hFile] at hOnce
  have hPassed := isPassed_processFiles bounds true tree paths
  have hAfter := hPassed.leadsToFile hLeads hText
  simp only [hOnce, Function.iterate_one] at hAfter
  exact hAfter

theorem entryAt_processFiles_of_not_mem
    (hNone :
      ∀ path ∈ readablePrefix tree paths,
        tree.fileAt? path ≠ some location) :
    (processFiles bounds true tree paths).tree.entryAt
        location =
      tree.entryAt location := by
  have hPassed := isPassed_processFiles bounds true tree paths
  rw [hPassed.entryAt_eq location]
  simp only [writesTo_eq_zero hNone, Function.iterate_zero]
  exact Option.map_id_apply

theorem readText_of_mem_readablePrefix
    (hMem : path ∈ readablePrefix tree paths) :
    tree.readText path = .ok (tree.textAt path) :=
  Tree.readText_of_isReadable (List.mem_takeWhile_imp hMem)

/- A path that the run has passed reads what the pass made. -/
theorem read_processFiles_of_mem
    (bounds : Bounds)
    (hApart :
      paths.Pairwise fun earlier later =>
        tree.fileAt? earlier ≠ tree.fileAt? later)
    (hMem : path ∈ readablePrefix tree paths) :
    (processFiles bounds true tree paths).tree.read path =
      .ok (encodeText
        (passedText bounds (tree.textAt path))) := by
  rcases Tree.exists_leadsToFile_of_readText
      (readText_of_mem_readablePrefix hMem) with
    ⟨above, name, bytes, -, hLeads, hDecode⟩
  exact (leadsToFile_processFiles bounds hApart hMem hLeads
    hDecode).read_eq

/- Another path reads what it read before. -/
theorem read_processFiles_of_not_mem
    (bounds : Bounds)
    (hNone :
      ∀ earlier ∈ readablePrefix tree paths,
        tree.fileAt? earlier ≠ tree.fileAt? path) :
    (processFiles bounds true tree paths).tree.read path =
      tree.read path := by
  apply (isPassed_processFiles bounds true tree
    paths).sameShape.read_eq
  intro location hFile
  rw [hFile] at hNone
  exact entryAt_processFiles_of_not_mem hNone

/- A file that is passed stays when the pass does not change it. -/
theorem entryAt_processFiles_eq_iff
    (hApart :
      paths.Pairwise fun earlier later =>
        tree.fileAt? earlier ≠ tree.fileAt? later)
    (hMem : path ∈ readablePrefix tree paths)
    (hFile : tree.fileAt? path = some location) :
    (processFiles bounds true tree paths).tree.entryAt
          location =
        tree.entryAt location ↔
      (tally bounds (tree.textAt path).splitLines).changes =
        false := by
  rcases Tree.exists_leadsToFile_of_readText
      (readText_of_mem_readablePrefix hMem) with
    ⟨above, name, bytes, hPlace, hLeads, hDecode⟩
  rw [hFile, Option.some.injEq] at hPlace
  subst hPlace
  rw [(leadsToFile_processFiles bounds hApart hMem hLeads
      hDecode).file, hLeads.file, Option.some.injEq,
    Entry.file.injEq]
  constructor
  · intro hSame
    have hTexts := congrArg decodeText? hSame
    rw [decodeText?_encodeText, hDecode,
      Option.some.injEq] at hTexts
    rw [Bool.eq_false_iff]
    exact fun hChanges =>
      passedText_ne_of_changes hChanges hTexts
  · intro hSame
    rw [passedText_of_not_changes hSame,
      encodeText_of_decodeText? hDecode]

/- A file differs after the run when the pass over it tells so. -/
theorem entryAt_processFiles_ne_iff
    (hApart :
      paths.Pairwise fun earlier later =>
        tree.fileAt? earlier ≠ tree.fileAt? later) :
    (processFiles bounds true tree paths).tree.entryAt
          location ≠
        tree.entryAt location ↔
      ∃ path ∈ readablePrefix tree paths,
        tree.fileAt? path = some location ∧
          (tally bounds
            (tree.textAt path).splitLines).changes = true := by
  constructor
  · intro hDiffers
    by_cases hReached :
        ∃ path ∈ readablePrefix tree paths,
          tree.fileAt? path = some location
    · rcases hReached with ⟨path, hMem, hFile⟩
      rw [Ne, entryAt_processFiles_eq_iff hApart hMem hFile,
        Bool.not_eq_false] at hDiffers
      exact ⟨path, hMem, hFile, hDiffers⟩
    · push Not at hReached
      exact absurd (entryAt_processFiles_of_not_mem hReached)
        hDiffers
  · rintro ⟨path, hMem, hFile, hChanges⟩
    rw [Ne, entryAt_processFiles_eq_iff hApart hMem hFile,
      Bool.not_eq_false]
    exact hChanges

end SafeRerun

------------------------------------------------------------
-- What a Run Leaves Behind
------------------------------------------------------------

namespace SafeRerun

/-
  The run has passed over the paths up to the given number of
  them, rewriting their files, and over nothing else.  It
  reports one outcome for each, that of a pass over the file
  as it was.  If there is a path left, the run fails because
  the file of the next one is no text.
-/
structure LeavesPrefix
    (bounds : Bounds)
    (tree : Tree)
    (paths : List Text)
    (run : Run)
    (reach : Nat) : Prop where
  rewritten :
    ∀ path ∈ paths.take reach,
      ∃ t,
        tree.readText path = .ok t ∧
          run.tree.read path =
            .ok (encodeText
              (addGuards bounds t.splitLines).flatten)
  untouched :
    ∀ location,
      (∀ path ∈ paths.take reach,
        tree.fileAt? path ≠ some location) →
        run.tree.entryAt location = tree.entryAt location
  unreached :
    ∀ path ∈ paths.drop reach,
      run.tree.read path = tree.read path
  differs :
    ∀ location,
      run.tree.entryAt location ≠ tree.entryAt location ↔
        ∃ path ∈ paths.take reach,
          tree.fileAt? path = some location ∧
            ∃ outcome,
              (processFile bounds false tree path).result =
                  .ok outcome ∧
                outcome.changed = true
  outcomes :
    run.report.map Except.ok =
      (paths.take reach).map fun path =>
        (processFile bounds false tree path).result
  inOrder :
    run.report.map FileOutcome.path = paths.take reach
  ends :
    run.failure =
      paths[reach]?.map fun path => .notRead path .notText

/- Three files in a directory, the second one no text. -/
def partlyBroken :
    Tree :=
  ((Tree.empty.addFile (Text.ofString "sql/a.sql")
      (encodeText
        (Text.ofString "CREATE TRIGGER a ON t;\n"))).addFile
    (Text.ofString "sql/b.sql") ⟨#[255]⟩).addFile
    (Text.ofString "sql/c.sql")
    (encodeText (Text.ofString "CREATE TRIGGER c ON t;\n"))

/- The options that ask for the files of the directory. -/
def flatOptions :
    Options :=
  { verbose := false
    project := ['.']
    settingsFile := none
    overrides :=
      { Overrides.none with
        pattern := some (Text.ofString "sql/*.sql") } }

/- The plan that comes of them. -/
def partlyBrokenPlan :
    Plan :=
  { settings :=
      { Settings.default with
        pattern := Text.ofString "sql/*.sql" }
    paths :=
      ["sql/a.sql", "sql/b.sql", "sql/c.sql"].map
        Text.ofString }

/-
  Applying rewrites the files before the first one that is no
  text, and no other.  If none is broken it comes to the end.
-/
theorem apply_stops_at_broken_file
    (tree : Tree)
    (options : Options)
    (plan : Plan)
    (hPlan : planRun tree options = .ok plan)
    (hApart :
      plan.paths.Pairwise fun earlier later =>
        tree.fileAt? earlier ≠ tree.fileAt? later) :
    LeavesPrefix plan.settings.bounds tree plan.paths
      (scan true tree options)
      (plan.paths.findIdx tree.isBroken) := by
  have hFiles :
      ∀ path ∈ plan.paths, tree.isFile path = true :=
    fun path => isFile_of_mem_plan hPlan
  have hPrefix := readablePrefix_eq_take hFiles
  have hResult :
      ∀ path ∈ readablePrefix tree plan.paths,
        (processFile plan.settings.bounds false tree
            path).result =
          .ok (outcomeOf plan.settings.bounds path
            (tree.textAt path)) :=
    fun path hMem =>
      result_processFile_of_ok plan.settings.bounds false
        (readText_of_mem_readablePrefix hMem)
  rw [scan_of_plan true hPlan]
  constructor
  case rewritten =>
    rw [← hPrefix]
    intro path hMem
    exact ⟨tree.textAt path,
      readText_of_mem_readablePrefix hMem,
      read_processFiles_of_mem plan.settings.bounds hApart
        hMem⟩
  case untouched =>
    rw [← hPrefix]
    exact fun location => entryAt_processFiles_of_not_mem
  case unreached =>
    intro path hMem
    apply read_processFiles_of_not_mem
    rw [hPrefix]
    -- The path comes after those that the run has passed.
    rw [← List.take_append_drop
        (plan.paths.findIdx tree.isBroken) plan.paths,
      List.pairwise_append] at hApart
    rcases hApart with ⟨-, -, hOthers⟩
    exact fun earlier hEarlier =>
      hOthers earlier hEarlier path hMem
  case differs =>
    rw [← hPrefix]
    intro location
    rw [entryAt_processFiles_ne_iff hApart]
    apply exists_congr
    intro path
    apply and_congr_right
    intro hMem
    simp [hResult path hMem, outcomeOf]
  case outcomes =>
    rw [← hPrefix]
    simp only [report_eq_map_of_apart true hApart,
      List.map_map]
    apply List.map_congr_left
    intro path hMem
    rw [hResult path hMem]
    rfl
  case inOrder =>
    rw [← hPrefix]
    simp only [report_eq_map_of_apart true hApart,
      List.map_map]
    exact List.map_id _
  case ends =>
    simp only [failure_processFiles]
    exact findSome?_readFailure?_eq hFiles

/- Here applying rewrites the first file and stops. -/
theorem apply_stops_at_second_file :
    planRun partlyBroken flatOptions = .ok partlyBrokenPlan ∧
      (partlyBrokenPlan.paths.Pairwise fun earlier later =>
        partlyBroken.fileAt? earlier ≠
          partlyBroken.fileAt? later) ∧
        LeavesPrefix partlyBrokenPlan.settings.bounds
          partlyBroken partlyBrokenPlan.paths
          (scan true partlyBroken flatOptions) 1 := by
  have hPlan :
      planRun partlyBroken flatOptions =
        .ok partlyBrokenPlan := by
    cbv
  have hApart :
      partlyBrokenPlan.paths.Pairwise fun earlier later =>
        partlyBroken.fileAt? earlier ≠
          partlyBroken.fileAt? later := by
    decide +kernel
  have hReach :
      partlyBrokenPlan.paths.findIdx
        partlyBroken.isBroken = 1 := by
    cbv
  refine ⟨hPlan, hApart, ?_⟩
  rw [← hReach]
  exact apply_stops_at_broken_file partlyBroken flatOptions
    partlyBrokenPlan hPlan hApart

end SafeRerun
