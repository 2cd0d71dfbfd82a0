import SafeRerun.Run.Scan
import SafeRerun.Proofs.Project.Writing
import SafeRerun.Proofs.Run.Passed
import SafeRerun.Proofs.Text.Line

/-
  Scripts that are loaded as lines and written back.

  Key theorems include:
    * `SafeRerun.loadLines_eq_ok_iff`
    * `SafeRerun.writeLines_eq_ok_iff`
    * `SafeRerun.loaded_lines_write_back`
    * `SafeRerun.written_lines_load_again`
    * `SafeRerun.lines_round_trip`

  A text and its lines determine each other.  So nothing is
  lost between a script on disk and its lines, in either
  direction, whatever its line ends are.
-/

------------------------------------------------------------
-- Loading and Writing Lines
------------------------------------------------------------

namespace SafeRerun

variable {tree after : Tree}
variable {path : Text}
variable {lines : List Text}

/- What is loaded are the lines of a file that is a text. -/
theorem loadLines_eq_ok_iff :
    loadLines tree path = .ok lines ↔
      ∃ bytes t,
        tree.read path = .ok bytes ∧
          decodeText? bytes = some t ∧
            lines = t.splitLines := by
  unfold loadLines Tree.readText
  cases tree.read path with
  | error fault =>
      simp
  | ok bytes =>
      cases hText : decodeText? bytes with
      | none =>
          simp [hText]
      | some t =>
          simp [hText, eq_comm]

/- Lines are written exactly where a file can stand. -/
theorem writeLines_eq_ok_iff :
    writeLines tree path lines = .ok after ↔
      ∃ above name,
        tree.LeadsToSlot path above name ∧
          after =
            tree.put above name
              (.file (encodeText lines.flatten)) := by
  rw [← Tree.write_eq_ok_iff]
  unfold writeLines
  cases tree.write path (encodeText lines.flatten) <;> simp

end SafeRerun

------------------------------------------------------------
-- Round Trips
------------------------------------------------------------

namespace SafeRerun

variable {tree : Tree}
variable {path : Text}

/- Writing the lines of a script leaves the tree as it is. -/
theorem loaded_lines_write_back
    {bytes : ByteArray}
    {t : Text}
    (hRead : tree.read path = .ok bytes)
    (hText : decodeText? bytes = some t) :
    loadLines tree path = .ok t.splitLines ∧
      ∃ after,
        writeLines tree path t.splitLines = .ok after ∧
          after.read path = .ok bytes ∧
            ∀ location,
              after.entryAt location =
                tree.entryAt location := by
  have hLoaded : tree.readText path = .ok t := by
    simp [Tree.readText, hRead, hText]
  rcases Tree.exists_leadsToFile_of_readText hLoaded with
    ⟨above, name, found, -, hLeads, -⟩
  have hSame : found = bytes := by
    rw [hLeads.read_eq, Except.ok.injEq] at hRead
    exact hRead
  subst hSame
  rcases Tree.leadsToFile_iff.mp hLeads with
    ⟨hSlot, hFile⟩
  have hBytes : encodeText t.splitLines.flatten = found := by
    rw [Text.flatten_splitLines]
    exact encodeText_of_decodeText? hText
  refine ⟨loadLines_eq_ok_iff.mpr
      ⟨found, t, hRead, hText, rfl⟩,
    tree.put above name (.file found), ?_,
    (hSlot.leadsToFile_put found).read_eq,
    fun location => ?_⟩
  · refine writeLines_eq_ok_iff.mpr
      ⟨above, name, hSlot, ?_⟩
    rw [hBytes]
  · rw [hSlot.entryAt_put]
    split
    · rename_i hHere
      rw [hHere, hFile]
    · rfl

/-
  Lines that are written to a path can be loaded from it, and
  no entry changes but that of the file.
-/
theorem written_lines_load_again
    {after : Tree}
    {lines : List Text}
    (hLines : IsDivision lines)
    (hWrite : writeLines tree path lines = .ok after) :
    loadLines after path = .ok lines ∧
      ∀ location,
        after.fileAt? path ≠ some location →
          after.entryAt location = tree.entryAt location := by
  rcases writeLines_eq_ok_iff.mp hWrite with
    ⟨above, name, hSlot, rfl⟩
  have hLeads :=
    hSlot.leadsToFile_put (encodeText lines.flatten)
  constructor
  · refine loadLines_eq_ok_iff.mpr ⟨_, lines.flatten,
      hLeads.read_eq, decodeText?_encodeText lines.flatten,
      ?_⟩
    exact (splitLines_flatten
      (areLines_iff_isDivision.mpr hLines)).symm
  · intro location hOther
    rw [hSlot.entryAt_put, if_neg]
    rintro rfl
    exact hOther hLeads.fileAt?_eq

/-
  Splitting a text into lines and putting lines together are
  inverse, between all texts and all divisions into lines.
  So a script that is a text has its bytes again when the
  lines that are loaded from it are written back, and the
  lines that are written to a path are those that are loaded
  from it.  Writing succeeds exactly where a file can stand.
-/
theorem lines_round_trip :
    (∀ t : Text,
      t.splitLines.flatten = t ∧
        IsDivision t.splitLines) ∧
    (∀ lines,
      IsDivision lines →
        Text.splitLines lines.flatten = lines) ∧
    (∀ (tree : Tree) path bytes t,
      tree.read path = .ok bytes →
        decodeText? bytes = some t →
          loadLines tree path = .ok t.splitLines ∧
            ∃ after,
              writeLines tree path t.splitLines =
                  .ok after ∧
                after.read path = .ok bytes ∧
                  ∀ location,
                    after.entryAt location =
                      tree.entryAt location) ∧
    ∀ (tree : Tree) path lines,
      IsDivision lines →
        ((∃ after,
            writeLines tree path lines = .ok after) ↔
          ∃ above name,
            tree.LeadsToSlot path above name) ∧
        ∀ after,
          writeLines tree path lines = .ok after →
            loadLines after path = .ok lines ∧
              ∀ location,
                after.fileAt? path ≠ some location →
                  after.entryAt location =
                    tree.entryAt location := by
  refine ⟨fun t => ⟨Text.flatten_splitLines t,
      areLines_iff_isDivision.mp (areLines_splitLines t)⟩,
    fun lines hLines => splitLines_flatten
      (areLines_iff_isDivision.mpr hLines),
    fun tree path bytes t => loaded_lines_write_back,
    fun tree path lines hLines => ⟨⟨?_, ?_⟩,
      fun after => written_lines_load_again hLines⟩⟩
  · rintro ⟨after, hWrite⟩
    rcases writeLines_eq_ok_iff.mp hWrite with
      ⟨above, name, hSlot, -⟩
    exact ⟨above, name, hSlot⟩
  · rintro ⟨above, name, hSlot⟩
    exact ⟨_, writeLines_eq_ok_iff.mpr
      ⟨above, name, hSlot, rfl⟩⟩

/-
  Lines with every kind of line end, written to a new file
  and loaded from it, and the same lines written back.
-/
theorem lines_round_trip_new_file :
    let path := Text.ofString "new.sql"
    let lines :=
      [Text.ofString "a\r\n", ['\n'],
        Text.ofString "b\rc\n", Text.ofString "d"]
    IsDivision lines ∧
      ∃ tree,
        writeLines Tree.empty path lines = .ok tree ∧
          loadLines tree path = .ok lines ∧
            ∃ after,
              writeLines tree path lines = .ok after ∧
                ∀ location,
                  after.entryAt location =
                    tree.entryAt location := by
  intro path lines
  have hLines : IsDivision lines :=
    ⟨by decide, by decide, by decide⟩
  have hFree :
      Tree.empty.entryAt
          ([Text.ofString "work"] ++
            [Text.ofString "new.sql"]) =
        none := by
    cbv
  have hSlot :
      Tree.empty.LeadsToSlot (Text.ofString "new.sql")
        [Text.ofString "work"] (Text.ofString "new.sql") :=
    ⟨by decide, by decide, by cbv, by cbv, by decide,
      by decide, by decide, by rw [hFree]; simp⟩
  rcases lines_round_trip with ⟨-, -, hBack, hAgain⟩
  rcases hAgain Tree.empty path lines hLines with
    ⟨hWritten, hLoads⟩
  rcases hWritten.mpr ⟨_, path, hSlot⟩ with ⟨tree, hWrite⟩
  have hLoad := (hLoads tree hWrite).1
  rcases loadLines_eq_ok_iff.mp hLoad with
    ⟨bytes, t, hRead, hText, hSame⟩
  rcases hBack tree path bytes t hRead hText with
    ⟨-, after, hSecond, -, hEntries⟩
  rw [← hSame] at hSecond
  exact ⟨hLines, tree, hWrite, hLoad, after, hSecond,
    hEntries⟩

end SafeRerun
