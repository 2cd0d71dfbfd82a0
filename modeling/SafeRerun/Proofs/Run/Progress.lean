import SafeRerun.Run.Scan
import SafeRerun.Proofs.Project.Writing
import SafeRerun.Proofs.Run.Passed

/-
  How far a run comes, and what it makes of the files on its
  way.

  Key definitions include:
    * `SafeRerun.outcomeOf`
    * `SafeRerun.writesTo`
    * `SafeRerun.readablePrefix`
    * `SafeRerun.readFailure?`

  Key theorems include:
    * `SafeRerun.isPassed_processFiles`
    * `SafeRerun.failure_processFiles`
    * `SafeRerun.report_processFiles`
    * `SafeRerun.tree_processFiles_false`

  A run that writes passes over a file once for each path
  that leads to it, so the file ends as so many passes leave
  it.  The run stops at the first path that cannot be read,
  which is the same one at every time of the run: no pass
  makes a file unreadable or readable.
-/

------------------------------------------------------------
-- One Script
------------------------------------------------------------

namespace SafeRerun

variable {bounds : Bounds}
variable {tree : Tree}
variable {path : Text}

/- The outcome of a pass over a text at a path. -/
def outcomeOf
    (bounds : Bounds)
    (path t : Text) :
    FileOutcome :=
  ⟨path, (tally bounds t.splitLines).changes,
    tally bounds t.splitLines⟩

theorem processFile_of_error
    {cause : AccessError}
    (bounds : Bounds)
    (write : Bool)
    (hText : tree.readText path = .error cause) :
    processFile bounds write tree path =
      ⟨tree, [], .error (.notRead path cause)⟩ := by
  unfold processFile loadLines
  rw [hText]

/- What can be read can be written, if a pass changes it. -/
theorem processFile_of_ok
    {above : Location}
    {name t : Text}
    {bytes : ByteArray}
    (bounds : Bounds)
    (write : Bool)
    (hLeads : tree.LeadsToFile path above name bytes)
    (hText : decodeText? bytes = some t) :
    processFile bounds write tree path =
      ⟨if (tally bounds t.splitLines).changes && write then
          tree.put above name
            (.file (encodeText (passedText bounds t)))
        else
          tree,
        fileNotices bounds.lookahead path
          (steps bounds t.splitLines),
        .ok (outcomeOf bounds path t)⟩ := by
  have hRead : tree.readText path = .ok t := by
    rw [hLeads.readText_eq, hText]
  unfold processFile loadLines writeLines
  rw [hRead]
  simp only [hLeads.write_eq]
  split
  · rename_i hWrites
    have hTally :
        ((tally bounds t.splitLines).changes && write) =
          true := hWrites
    simp only [hTally, if_true]
    rfl
  · rename_i hKeeps
    have hTally :
        ¬((tally bounds t.splitLines).changes && write) =
          true := hKeeps
    rw [if_neg hTally]
    rfl

theorem result_processFile_of_ok
    {t : Text}
    (bounds : Bounds)
    (write : Bool)
    (hText : tree.readText path = .ok t) :
    (processFile bounds write tree path).result =
      .ok (outcomeOf bounds path t) := by
  rcases Tree.exists_leadsToFile_of_readText hText with
    ⟨above, name, bytes, -, hLeads, hDecode⟩
  rw [processFile_of_ok bounds write hLeads hDecode]

/- A pass that does not write leaves the tree as it is. -/
theorem tree_processFile_false
    (bounds : Bounds)
    (tree : Tree)
    (path : Text) :
    (processFile bounds false tree path).tree = tree := by
  unfold processFile
  split
  · rfl
  · simp

/- A script that is written is passed once. -/
theorem isPassed_put
    {above : Location}
    {name t : Text}
    {bytes : ByteArray}
    (hLeads : tree.LeadsToFile path above name bytes)
    (hText : decodeText? bytes = some t) :
    tree.IsPassed bounds
      (fun place =>
        if some (above ++ [name]) = some place then 1 else 0)
      (tree.put above name
        (.file (encodeText (passedText bounds t)))) := by
  rcases Tree.leadsToFile_iff.mp hLeads with ⟨hSlot, hFile⟩
  refine ⟨Tree.home_put tree above name _, fun place => ?_⟩
  rw [hSlot.entryAt_put]
  by_cases hPlace : place = above ++ [name]
  · subst hPlace
    simp only [if_true, Function.iterate_one, hFile,
      Option.map_some, Entry.passed, hText]
  · have hOther : ¬some (above ++ [name]) = some place := by
      rw [Option.some.injEq]
      exact fun hEq => hPlace hEq.symm
    simp only [hPlace, hOther, if_false,
      Function.iterate_zero]
    exact Option.map_id_apply.symm

/-
  How often a run over the paths writes a pass to a file, if
  it writes at all.
-/
def writesTo
    (write : Bool)
    (tree : Tree)
    (paths : List Text)
    (file : Option Location) :
    Nat :=
  paths.countP fun path =>
    write && tree.fileAt? path == file

@[simp] theorem writesTo_nil
    (write : Bool)
    (tree : Tree)
    (file : Option Location) :
    writesTo write tree [] file = 0 := rfl

theorem writesTo_cons
    (write : Bool)
    (tree : Tree)
    (path : Text)
    (rest : List Text)
    (file : Option Location) :
    writesTo write tree (path :: rest) file =
      writesTo write tree rest file +
        writesTo write tree [path] file := by
  simp [writesTo, List.countP_cons]

@[simp] theorem writesTo_false
    (tree : Tree)
    (paths : List Text)
    (file : Option Location) :
    writesTo false tree paths file = 0 := by
  simp [writesTo]

theorem writesTo_eq_count
    (tree : Tree)
    (paths : List Text)
    (file : Option Location) :
    writesTo true tree paths file =
      (paths.map tree.fileAt?).count file := by
  unfold writesTo List.count
  rw [List.countP_map]
  simp [Function.comp_def]

/- A file that no path leads to is not passed. -/
theorem writesTo_eq_zero
    {paths : List Text}
    {file : Option Location}
    (hNone : ∀ path ∈ paths, tree.fileAt? path ≠ file) :
    writesTo true tree paths file = 0 := by
  rw [writesTo_eq_count, List.count_eq_zero, List.mem_map]
  rintro ⟨path, hMem, hFile⟩
  exact hNone path hMem hFile

/- A file that a path leads to is passed. -/
theorem writesTo_pos
    {paths : List Text}
    (tree : Tree)
    (hMem : path ∈ paths) :
    0 < writesTo true tree paths (tree.fileAt? path) := by
  rw [writesTo_eq_count, List.count_pos_iff]
  exact List.mem_map_of_mem hMem

/- A file that one path alone leads to is passed once. -/
theorem writesTo_eq_one
    {paths : List Text}
    (hApart :
      paths.Pairwise fun earlier later =>
        tree.fileAt? earlier ≠ tree.fileAt? later)
    (hMem : path ∈ paths) :
    writesTo true tree paths (tree.fileAt? path) = 1 := by
  rw [writesTo_eq_count]
  apply List.count_eq_one_of_mem
  · exact List.pairwise_map.mpr hApart
  · exact List.mem_map_of_mem hMem

/- A file that a pass leaves alone is passed already. -/
theorem isPassed_of_kept
    {write : Bool}
    (hKept :
      ∀ location entry,
        write = true →
          tree.fileAt? path = some location →
            tree.entryAt location = some entry →
              entry.passed bounds = entry) :
    tree.IsPassed bounds
      (fun location =>
        writesTo write tree [path] (some location))
      tree := by
  apply Tree.isPassed_of_fixed
  intro location entry hEntry
  by_cases hHere :
      write = true ∧ tree.fileAt? path = some location
  · exact Or.inr
      (hKept location entry hHere.1 hHere.2 hEntry)
  · left
    simp only [writesTo, List.countP_eq_zero,
      List.mem_singleton, Bool.and_eq_true, beq_iff_eq]
    rintro _ rfl
    exact hHere

/- A file that cannot be read is no text. -/
theorem passed_of_readText_error
    {cause : AccessError}
    {location : Location}
    {entry : Entry}
    (hText : tree.readText path = .error cause)
    (hFile : tree.fileAt? path = some location)
    (hEntry : tree.entryAt location = some entry) :
    entry.passed bounds = entry := by
  rcases Tree.exists_leadsToFile hFile with
    ⟨above, name, bytes, rfl, hLeads⟩
  rw [hLeads.file, Option.some.injEq] at hEntry
  rw [hLeads.readText_eq] at hText
  cases hDecode : decodeText? bytes with
  | none =>
      rw [← hEntry]
      exact Tree.passed_of_not_text bounds hDecode
  | some t =>
      simp [hDecode] at hText

/- A pass over one path is one pass over the file it reads. -/
theorem isPassed_processFile
    (bounds : Bounds)
    (write : Bool)
    (tree : Tree)
    (path : Text) :
    tree.IsPassed bounds
      (fun location =>
        writesTo write tree [path] (some location))
      (processFile bounds write tree path).tree := by
  cases hText : tree.readText path with
  | error cause =>
      rw [processFile_of_error bounds write hText]
      exact isPassed_of_kept fun location entry _ =>
        passed_of_readText_error hText
  | ok t =>
      rcases Tree.exists_leadsToFile_of_readText hText with
        ⟨above, name, bytes, hFile, hLeads, hDecode⟩
      rw [processFile_of_ok bounds write hLeads hDecode]
      by_cases hWrites :
          ((tally bounds t.splitLines).changes && write) =
            true
      · rw [if_pos hWrites]
        rw [Bool.and_eq_true] at hWrites
        have hOnce :
            (fun place =>
              writesTo write tree [path] (some place)) =
              fun place =>
                if some (above ++ [name]) = some place then 1
                else 0 := by
          funext place
          simp [writesTo, hWrites.2, hFile]
        rw [hOnce]
        exact isPassed_put hLeads hDecode
      · rw [if_neg hWrites]
        apply isPassed_of_kept
        intro place entry hWrite hPlace hEntry
        rw [hFile, Option.some.injEq] at hPlace
        rw [← hPlace, hLeads.file, Option.some.injEq]
          at hEntry
        rw [← hEntry]
        apply Tree.passed_of_not_changes hDecode
        simpa [hWrite] using hWrites

end SafeRerun

------------------------------------------------------------
-- All Scripts
------------------------------------------------------------

namespace SafeRerun

variable {bounds : Bounds}
variable {tree after : Tree}
variable {path : Text}
variable {paths rest : List Text}

/-
  The paths that a run comes past: those before the first
  one that cannot be read.
-/
def readablePrefix
    (tree : Tree)
    (paths : List Text) :
    List Text :=
  paths.takeWhile tree.isReadable

/- The failure of reading at a path, if there is one. -/
def readFailure?
    (tree : Tree)
    (path : Text) :
    Option Failure :=
  match tree.readText path with
  | .error cause => some (.notRead path cause)
  | .ok _ => none

theorem isReadable_eq_false_of_error
    {cause : AccessError}
    (hText : tree.readText path = .error cause) :
    tree.isReadable path = false := by
  unfold Tree.isReadable
  rw [hText]
  rfl

theorem processFiles_of_error
    {cause : AccessError}
    (bounds : Bounds)
    (write : Bool)
    (hText : tree.readText path = .error cause) :
    processFiles bounds write tree (path :: rest) =
      ⟨tree, [], [], some (.notRead path cause)⟩ := by
  simp [processFiles,
    processFile_of_error bounds write hText]

theorem processFiles_of_ok
    {t : Text}
    (bounds : Bounds)
    (write : Bool)
    (hText : tree.readText path = .ok t) :
    processFiles bounds write tree (path :: rest) =
      let first := processFile bounds write tree path
      let more := processFiles bounds write first.tree rest
      ⟨more.tree, outcomeOf bounds path t :: more.report,
        first.notices ++ more.notices, more.failure⟩ := by
  simp only [processFiles]
  rw [result_processFile_of_ok bounds write hText]

/- Passes leave every path that cannot be read as it was. -/
theorem Tree.IsPassed.readFailure?_eq
    {times : Location → Nat}
    (hPassed : tree.IsPassed bounds times after) :
    readFailure? after = readFailure? tree := by
  funext path
  cases hText : tree.readText path with
  | error cause =>
      have hAfter := hPassed.readText_error hText
      simp only [readFailure?, hText, hAfter]
  | ok t =>
      rcases Tree.exists_fileAt?_of_readText hText with
        ⟨location, hFile⟩
      have hAfter := hPassed.readText_eq hFile hText
      simp only [readFailure?, hText, hAfter]

theorem Tree.IsPassed.readablePrefix_eq
    {times : Location → Nat}
    (hPassed : tree.IsPassed bounds times after)
    (paths : List Text) :
    readablePrefix after paths =
      readablePrefix tree paths := by
  unfold readablePrefix
  congr 1
  funext path
  exact hPassed.isReadable_eq path

theorem Tree.IsPassed.writesTo_eq
    {times : Location → Nat}
    (hPassed : tree.IsPassed bounds times after)
    (write : Bool)
    (paths : List Text)
    (file : Option Location) :
    writesTo write after paths file =
      writesTo write tree paths file := by
  simp only [writesTo, hPassed.sameShape.fileAt?_eq]

/-
  A run passes over a file once for each path that leads to
  it, of those that the run comes past.
-/
theorem isPassed_processFiles
    (bounds : Bounds)
    (write : Bool)
    (tree : Tree)
    (paths : List Text) :
    tree.IsPassed bounds
      (fun location =>
        writesTo write tree (readablePrefix tree paths)
          (some location))
      (processFiles bounds write tree paths).tree := by
  induction paths generalizing tree with
  | nil =>
      exact Tree.isPassed_of_fixed fun _ _ _ => Or.inl rfl
  | cons path rest ih =>
      cases hText : tree.readText path with
      | error cause =>
          have hStop := isReadable_eq_false_of_error hText
          rw [processFiles_of_error bounds write hText]
          apply Tree.isPassed_of_fixed
          intro location entry _
          left
          simp [readablePrefix, hStop]
      | ok t =>
          have hGo := Tree.isReadable_of_readText hText
          have hFirst :=
            isPassed_processFile bounds write tree path
          have hMore :=
            ih (processFile bounds write tree path).tree
          rw [processFiles_of_ok bounds write hText]
          have hBoth := hFirst.trans hMore
          simp only [hFirst.readablePrefix_eq,
            hFirst.writesTo_eq] at hBoth
          have hPrefix :
              readablePrefix tree (path :: rest) =
                path :: readablePrefix tree rest :=
            List.takeWhile_cons_of_pos hGo
          refine ⟨hBoth.home, fun location => ?_⟩
          rw [hBoth.entryAt_eq location, hPrefix]
          simp only [writesTo_cons write tree path
            (readablePrefix tree rest)]

/- A run fails where the first path that cannot be read does. -/
theorem failure_processFiles
    (bounds : Bounds)
    (write : Bool)
    (tree : Tree)
    (paths : List Text) :
    (processFiles bounds write tree paths).failure =
      paths.findSome? (readFailure? tree) := by
  induction paths generalizing tree with
  | nil =>
      rfl
  | cons path rest ih =>
      cases hText : tree.readText path with
      | error cause =>
          rw [processFiles_of_error bounds write hText]
          simp [readFailure?, hText]
      | ok t =>
          have hFirst :=
            isPassed_processFile bounds write tree path
          rw [processFiles_of_ok bounds write hText]
          have hNone : readFailure? tree path = none := by
            simp only [readFailure?, hText]
          rw [List.findSome?_cons, hNone]
          simp only [ih, hFirst.readFailure?_eq]

/-
  The report of a run.  Every path that the run comes past
  has the outcome of a pass over what the earlier ones made
  of the file.
-/
theorem report_processFiles
    (bounds : Bounds)
    (write : Bool)
    (tree : Tree)
    (paths : List Text) :
    (processFiles bounds write tree paths).report =
      (readablePrefix tree paths).mapIdx fun index path =>
        outcomeOf bounds path
          ((passedText bounds)^[writesTo write tree
              (paths.take index) (tree.fileAt? path)]
            (tree.textAt path)) := by
  induction paths generalizing tree with
  | nil =>
      rfl
  | cons path rest ih =>
      cases hText : tree.readText path with
      | error cause =>
          have hStop := isReadable_eq_false_of_error hText
          rw [processFiles_of_error bounds write hText]
          simp [readablePrefix, hStop]
      | ok t =>
          have hGo := Tree.isReadable_of_readText hText
          have hFirst :=
            isPassed_processFile bounds write tree path
          have hPrefix :
              readablePrefix tree (path :: rest) =
                path :: readablePrefix tree rest :=
            List.takeWhile_cons_of_pos hGo
          rw [processFiles_of_ok bounds write hText]
          simp only [ih, hFirst.readablePrefix_eq,
            hFirst.writesTo_eq, hPrefix, List.mapIdx_cons,
            List.take_zero, writesTo_nil,
            Function.iterate_zero, id_eq,
            Tree.textAt_of_readText hText,
            List.take_succ_cons, List.cons.injEq, true_and]
          rw [List.mapIdx_eq_mapIdx_iff]
          intro index hIndex
          have hReadable :
              tree.isReadable
                  (readablePrefix tree rest)[index] = true :=
            List.mem_takeWhile_imp
              (List.getElem_mem hIndex)
          have hLater := Tree.readText_of_isReadable hReadable
          rcases Tree.exists_fileAt?_of_readText hLater with
            ⟨location, hFile⟩
          have hAgain := hFirst.readText_eq hFile hLater
          have hSame := hFirst.sameShape.fileAt?_eq
            (readablePrefix tree rest)[index]
          rw [Tree.textAt_of_readText hAgain, ← hSame, hFile,
            writesTo_cons write tree path
              (rest.take index),
            Function.iterate_add_apply]

/- A run that does not write leaves the tree as it is. -/
theorem tree_processFiles_false
    (bounds : Bounds)
    (tree : Tree)
    (paths : List Text) :
    (processFiles bounds false tree paths).tree = tree := by
  induction paths generalizing tree with
  | nil =>
      rfl
  | cons path rest ih =>
      cases hText : tree.readText path with
      | error cause =>
          rw [processFiles_of_error bounds false hText]
      | ok t =>
          rw [processFiles_of_ok bounds false hText]
          simp only [ih, tree_processFile_false]

end SafeRerun
