import Mathlib.Logic.Function.Iterate
import SafeRerun.Proofs.Pass.Accounting
import SafeRerun.Proofs.Project.Shape

/-
  Files after passes over them.

  Key definitions include:
    * `SafeRerun.passedText`
    * `SafeRerun.Entry.passed`
    * `SafeRerun.Tree.IsPassed`

  Key theorems include:
    * `SafeRerun.splitLines_iterate_passedText`
    * `SafeRerun.Tree.IsPassed.sameShape`
    * `SafeRerun.Tree.IsPassed.readText_eq`
    * `SafeRerun.Tree.IsPassed.isReadable_eq`

  A pass takes a script to another one and leaves alone what
  is no text.  So a tree whose files have been passed over,
  each any number of times, has the shape that it had, and
  the same paths can be read in it.
-/

------------------------------------------------------------
-- Texts and Passes
------------------------------------------------------------

namespace SafeRerun

/- The text of a script after a pass. -/
def passedText
    (bounds : Bounds)
    (t : Text) :
    Text :=
  (addGuards bounds t.splitLines).flatten

theorem splitLines_passedText
    (bounds : Bounds)
    (t : Text) :
    (passedText bounds t).splitLines =
      addGuards bounds t.splitLines :=
  resplit_linesOf_steps bounds (areLines_splitLines t)

/- Passes over a text are passes over its lines. -/
theorem splitLines_iterate_passedText
    (bounds : Bounds)
    (times : Nat)
    (t : Text) :
    ((passedText bounds)^[times] t).splitLines =
      (addGuards bounds)^[times] t.splitLines := by
  have hStep :
      Function.Semiconj Text.splitLines (passedText bounds)
        (addGuards bounds) :=
    splitLines_passedText bounds
  exact hStep.iterate_right times t

/- A text that a pass changes is another one afterwards. -/
theorem passedText_ne_of_changes
    {bounds : Bounds}
    {t : Text}
    (hChanges : (tally bounds t.splitLines).changes = true) :
    passedText bounds t ≠ t := by
  rw [changes_tally_iff, ← splitLines_passedText] at hChanges
  intro hSame
  rw [hSame] at hChanges
  contradiction

theorem passedText_of_not_changes
    {bounds : Bounds}
    {t : Text}
    (hSame : (tally bounds t.splitLines).changes = false) :
    passedText bounds t = t := by
  have hLines :
      addGuards bounds t.splitLines = t.splitLines := by
    by_contra hOther
    have hChanges :=
      (changes_tally_iff bounds t.splitLines).mpr hOther
    rw [hSame] at hChanges
    contradiction
  rw [passedText, hLines, Text.flatten_splitLines]

/- What bytes encode is encoded by these bytes alone. -/
theorem encodeText_of_decodeText?
    {bytes : ByteArray}
    {t : Text}
    (hText : decodeText? bytes = some t) :
    encodeText t = bytes := by
  unfold decodeText? at hText
  rcases Option.map_eq_some_iff.mp hText with
    ⟨chars, hChars, rfl⟩
  have hSome : bytes.utf8Decode?.isSome = true := by
    simp [hChars]
  have hBytes :=
    ByteArray.utf8Encode_get_utf8Decode? (h := hSome)
  simp only [hChars, Option.get_some] at hBytes
  simpa [encodeText] using hBytes

end SafeRerun

------------------------------------------------------------
-- Trees and Passes
------------------------------------------------------------

namespace SafeRerun

/- An entry after a pass, if it is a script. -/
def Entry.passed
    (bounds : Bounds) :
    Entry → Entry
  | .directory => .directory
  | .file bytes =>
      match decodeText? bytes with
      | none => .file bytes
      | some t => .file (encodeText (passedText bounds t))

namespace Tree

/-
  The entries after as many passes as stand for their
  locations.
-/
structure IsPassed
    (bounds : Bounds)
    (times : Location → Nat)
    (before after : Tree) : Prop where
  home : after.home = before.home
  entryAt_eq :
    ∀ location,
      after.entryAt location =
        (before.entryAt location).map
          (Entry.passed bounds)^[times location]

variable {bounds : Bounds}
variable {times more : Location → Nat}
variable {before middle after tree : Tree}
variable {path : Text}
variable {location : Location}

/- A tree whose entries a pass leaves alone is passed already. -/
theorem isPassed_of_fixed
    (hFixed :
      ∀ location entry,
        tree.entryAt location = some entry →
          times location = 0 ∨
            entry.passed bounds = entry) :
    tree.IsPassed bounds times tree := by
  refine ⟨rfl, fun location => ?_⟩
  cases hEntry : tree.entryAt location with
  | none =>
      rfl
  | some entry =>
      rw [Option.map_some]
      rcases hFixed location entry hEntry with
        hNever | hSame
      · rw [hNever, Function.iterate_zero, id_eq]
      · rw [Function.iterate_fixed hSame]

theorem IsPassed.trans
    (hFirst : before.IsPassed bounds times middle)
    (hSecond : middle.IsPassed bounds more after) :
    before.IsPassed bounds
      (fun location => more location + times location)
      after := by
  refine ⟨hSecond.home.trans hFirst.home, fun location => ?_⟩
  rw [hSecond.entryAt_eq location,
    hFirst.entryAt_eq location, Option.map_map,
    Function.iterate_add]

theorem isDirectory_iterate_passed
    (bounds : Bounds)
    (count : Nat)
    (entry : Entry) :
    ((Entry.passed bounds)^[count] entry).isDirectory =
      entry.isDirectory := by
  have hStep :
      Function.Semiconj Entry.isDirectory
        (Entry.passed bounds) id := by
    intro entry
    cases entry with
    | directory =>
        rfl
    | file bytes =>
        simp only [Entry.passed]
        split
        · rfl
        · rfl
  rw [hStep.iterate_right count entry, Function.iterate_id]
  rfl

/- Passes keep the shape of a tree. -/
theorem IsPassed.sameShape
    (hPassed : before.IsPassed bounds times after) :
    before.SameShape after := by
  refine ⟨hPassed.home.symm, fun location => ?_⟩
  rw [hPassed.entryAt_eq location, Option.map_map]
  congr 1
  funext entry
  exact (isDirectory_iterate_passed bounds _ entry).symm

/- A script that passes are made over stays a script. -/
theorem iterate_passed_file
    (bounds : Bounds)
    (count : Nat)
    {bytes : ByteArray}
    {t : Text}
    (hText : decodeText? bytes = some t) :
    (Entry.passed bounds)^[count] (.file bytes) =
      .file (encodeText ((passedText bounds)^[count] t)) := by
  have hStep :
      Function.Semiconj (fun t => Entry.file (encodeText t))
        (passedText bounds) (Entry.passed bounds) := by
    intro t
    simp only [Entry.passed, decodeText?_encodeText]
  have hPasses := hStep.iterate_right count t
  simp only [encodeText_of_decodeText? hText] at hPasses
  exact hPasses.symm

/- What is no script stays as it is. -/
theorem passed_of_not_text
    (bounds : Bounds)
    {bytes : ByteArray}
    (hText : decodeText? bytes = none) :
    (Entry.file bytes).passed bounds = .file bytes := by
  simp only [Entry.passed, hText]

/- A script that a pass does not change stays as it is. -/
theorem passed_of_not_changes
    {bytes : ByteArray}
    {t : Text}
    (hText : decodeText? bytes = some t)
    (hSame : (tally bounds t.splitLines).changes = false) :
    (Entry.file bytes).passed bounds = .file bytes := by
  simp only [Entry.passed, hText,
    passedText_of_not_changes hSame,
    encodeText_of_decodeText? hText]

end Tree

end SafeRerun

------------------------------------------------------------
-- Reading After Passes
------------------------------------------------------------

namespace SafeRerun

namespace Tree

variable {bounds : Bounds}
variable {times : Location → Nat}
variable {before after tree : Tree}
variable {path : Text}
variable {location : Location}

/- Whether the file that a path leads to is a text. -/
def isReadable
    (tree : Tree)
    (path : Text) :
    Bool :=
  (tree.readText path).toBool

/- The text at a path, empty where none can be read. -/
def textAt
    (tree : Tree)
    (path : Text) :
    Text :=
  (tree.readText path).toOption.getD []

theorem LeadsToFile.readText_eq
    {above : Location}
    {name : Text}
    {bytes : ByteArray}
    (hLeads : tree.LeadsToFile path above name bytes) :
    tree.readText path =
      match decodeText? bytes with
      | some t => .ok t
      | none => .error .notText := by
  cases hText : decodeText? bytes with
  | none =>
      simp [readText, hLeads.read_eq, hText]
  | some t =>
      simp [readText, hLeads.read_eq, hText]

/- Only a path that leads to a file can be read. -/
theorem exists_fileAt?_of_readText
    {t : Text}
    (hText : tree.readText path = .ok t) :
    ∃ location, tree.fileAt? path = some location := by
  unfold readText read at hText
  cases hResolve : tree.resolve path with
  | error fault =>
      simp [hResolve] at hText
  | ok location =>
      cases hEntry : tree.entryAt location with
      | none =>
          simp [hResolve, hEntry] at hText
      | some entry =>
          cases entry with
          | directory =>
              simp [hResolve, hEntry] at hText
          | file bytes =>
              exact ⟨location,
                fileAt?_eq_some_iff.mpr
                  ⟨hResolve, bytes, hEntry⟩⟩

theorem readText_of_isReadable
    (hReadable : tree.isReadable path = true) :
    tree.readText path = .ok (tree.textAt path) := by
  unfold isReadable at hReadable
  unfold textAt
  cases hText : tree.readText path with
  | error cause =>
      rw [hText] at hReadable
      contradiction
  | ok t =>
      rfl

theorem isReadable_of_readText
    {t : Text}
    (hText : tree.readText path = .ok t) :
    tree.isReadable path = true := by
  unfold isReadable
  rw [hText]
  rfl

theorem textAt_of_readText
    {t : Text}
    (hText : tree.readText path = .ok t) :
    tree.textAt path = t := by
  unfold textAt
  rw [hText]
  rfl

/- After passes a path leads to what they made of its file. -/
theorem IsPassed.leadsToFile
    {above : Location}
    {name t : Text}
    {bytes : ByteArray}
    (hPassed : before.IsPassed bounds times after)
    (hLeads : before.LeadsToFile path above name bytes)
    (hText : decodeText? bytes = some t) :
    after.LeadsToFile path above name
      (encodeText
        ((passedText bounds)^[times (above ++ [name])] t)) := by
  have hFile := hLeads.fileAt?_eq
  rw [hPassed.sameShape.fileAt?_eq] at hFile
  rcases exists_leadsToFile hFile with
    ⟨others, last, found, hPlace, hAfter⟩
  rcases List.append_inj' hPlace rfl with ⟨rfl, hName⟩
  rw [List.cons.injEq] at hName
  rcases hName with ⟨rfl, -⟩
  have hEntry := hPassed.entryAt_eq (above ++ [name])
  rw [hLeads.file, hAfter.file, Option.map_some,
    iterate_passed_file bounds _ hText, Option.some.injEq,
    Entry.file.injEq] at hEntry
  rw [← hEntry]
  exact hAfter

/- A path that can be read leads to a file that is a text. -/
theorem exists_leadsToFile_of_readText
    {t : Text}
    (hText : tree.readText path = .ok t) :
    ∃ above name bytes,
      tree.fileAt? path = some (above ++ [name]) ∧
        tree.LeadsToFile path above name bytes ∧
          decodeText? bytes = some t := by
  rcases exists_fileAt?_of_readText hText with
    ⟨location, hPlace⟩
  rcases exists_leadsToFile hPlace with
    ⟨above, name, bytes, rfl, hLeads⟩
  rw [hLeads.readText_eq] at hText
  cases hDecode : decodeText? bytes with
  | none =>
      simp [hDecode] at hText
  | some read =>
      simp only [hDecode, Except.ok.injEq] at hText
      subst hText
      exact ⟨above, name, bytes, hPlace, hLeads, hDecode⟩

/- After passes a path reads the text that they made. -/
theorem IsPassed.readText_eq
    {t : Text}
    (hPassed : before.IsPassed bounds times after)
    (hFile : before.fileAt? path = some location)
    (hText : before.readText path = .ok t) :
    after.readText path =
      .ok ((passedText bounds)^[times location] t) := by
  rcases exists_leadsToFile_of_readText hText with
    ⟨above, name, bytes, hPlace, hLeads, hDecode⟩
  rw [hFile, Option.some.injEq] at hPlace
  rw [hPlace, (hPassed.leadsToFile hLeads hDecode).readText_eq,
    decodeText?_encodeText]

theorem IsPassed.readText_error
    {cause : AccessError}
    (hPassed : before.IsPassed bounds times after)
    (hText : before.readText path = .error cause) :
    after.readText path = .error cause := by
  have hRead : after.read path = before.read path := by
    apply hPassed.sameShape.read_eq
    intro location hFile
    rcases exists_leadsToFile hFile with
      ⟨above, name, bytes, rfl, hLeads⟩
    rw [hLeads.readText_eq] at hText
    cases hDecode : decodeText? bytes with
    | none =>
        rw [hPassed.entryAt_eq, hLeads.file, Option.map_some,
          Function.iterate_fixed
            (passed_of_not_text bounds hDecode)]
    | some read =>
        simp [hDecode] at hText
  unfold readText
  rw [hRead]
  exact hText

/- Passes make no path readable or unreadable. -/
theorem IsPassed.isReadable_eq
    (hPassed : before.IsPassed bounds times after)
    (path : Text) :
    after.isReadable path = before.isReadable path := by
  cases hText : before.readText path with
  | error cause =>
      have hAfter := hPassed.readText_error hText
      unfold isReadable
      rw [hText, hAfter]
  | ok t =>
      rcases exists_fileAt?_of_readText hText with
        ⟨location, hFile⟩
      have hAfter := hPassed.readText_eq hFile hText
      rw [isReadable_of_readText hText,
        isReadable_of_readText hAfter]

end Tree

end SafeRerun
