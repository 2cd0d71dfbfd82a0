import SafeRerun.Proofs.Project.Place

/-
  Trees of the same shape, which differ at most in the bytes
  of their files.

  Key definitions include:
    * `SafeRerun.Tree.SameShape`

  Key theorems include:
    * `SafeRerun.Tree.SameShape.resolve_eq`
    * `SafeRerun.Tree.SameShape.fileAt?_eq`
    * `SafeRerun.Tree.SameShape.read_eq`

  Where a path leads depends on the shape of the tree alone,
  and what can be read there on the entry of the file.
-/

------------------------------------------------------------
-- Entries of the Same Kind
------------------------------------------------------------

namespace SafeRerun

namespace Tree

variable {entry other : Option Entry}

/- Entries of the same kind are both missing, or neither is. -/
theorem eq_none_of_kinds
    (hKinds :
      entry.map Entry.isDirectory =
        other.map Entry.isDirectory)
    (hNone : entry = none) :
    other = none := by
  rw [hNone] at hKinds
  exact Option.map_eq_none_iff.mp hKinds.symm

theorem eq_directory_of_kinds
    (hKinds :
      entry.map Entry.isDirectory =
        other.map Entry.isDirectory)
    (hDirectory : entry = some .directory) :
    other = some .directory := by
  rw [hDirectory] at hKinds
  rcases Option.map_eq_some_iff.mp hKinds.symm with
    ⟨found, hFound, hKind⟩
  cases found with
  | directory =>
      exact hFound
  | file bytes =>
      contradiction

theorem exists_file_of_kinds
    {bytes : ByteArray}
    (hKinds :
      entry.map Entry.isDirectory =
        other.map Entry.isDirectory)
    (hFile : entry = some (.file bytes)) :
    ∃ others, other = some (.file others) := by
  rw [hFile] at hKinds
  rcases Option.map_eq_some_iff.mp hKinds.symm with
    ⟨found, hFound, hKind⟩
  cases found with
  | directory =>
      contradiction
  | file others =>
      exact ⟨others, hFound⟩

theorem isSome_eq_of_kinds
    (hKinds :
      entry.map Entry.isDirectory =
        other.map Entry.isDirectory) :
    entry.isSome = other.isSome := by
  have hSame := congrArg Option.isSome hKinds
  rwa [Option.isSome_map, Option.isSome_map] at hSame

end Tree

end SafeRerun

------------------------------------------------------------
-- Shapes
------------------------------------------------------------

namespace SafeRerun

namespace Tree

/-
  The same kinds of entries stand at the same locations, and
  the working directory is at the same one.
-/
structure SameShape
    (tree other : Tree) : Prop where
  home : tree.home = other.home
  kinds :
    ∀ location,
      (tree.entryAt location).map Entry.isDirectory =
        (other.entryAt location).map Entry.isDirectory

variable {tree other : Tree}
variable {location : Location}

theorem SameShape.symm
    (hShape : tree.SameShape other) :
    other.SameShape tree :=
  ⟨hShape.home.symm,
    fun location => (hShape.kinds location).symm⟩

theorem SameShape.eq_none
    (hShape : tree.SameShape other)
    (hNone : tree.entryAt location = none) :
    other.entryAt location = none :=
  eq_none_of_kinds (hShape.kinds location) hNone

theorem SameShape.eq_directory
    (hShape : tree.SameShape other)
    (hDirectory : tree.entryAt location = some .directory) :
    other.entryAt location = some .directory :=
  eq_directory_of_kinds (hShape.kinds location) hDirectory

theorem SameShape.exists_file
    (hShape : tree.SameShape other)
    {bytes : ByteArray}
    (hFile : tree.entryAt location = some (.file bytes)) :
    ∃ others,
      other.entryAt location = some (.file others) :=
  exists_file_of_kinds (hShape.kinds location) hFile

theorem SameShape.isSome_eq
    (hShape : tree.SameShape other)
    (location : Location) :
    (tree.entryAt location).isSome =
      (other.entryAt location).isSome :=
  isSome_eq_of_kinds (hShape.kinds location)

end Tree

end SafeRerun

------------------------------------------------------------
-- Following Paths
------------------------------------------------------------

namespace SafeRerun

namespace Tree

variable {tree other : Tree}

/- The shape alone decides where a segment leads. -/
theorem SameShape.follow_eq
    (hShape : tree.SameShape other)
    (location : Location)
    (segment : Text) :
    tree.follow location segment =
      other.follow location segment := by
  cases hEntry : tree.entryAt location with
  | none =>
      have hOther := hShape.eq_none hEntry
      simp [follow, hEntry, hOther]
  | some entry =>
      cases entry with
      | file bytes =>
          rcases hShape.exists_file hEntry with
            ⟨others, hOther⟩
          simp [follow, hEntry, hOther]
      | directory =>
          have hOther := hShape.eq_directory hEntry
          have hNext :=
            hShape.isSome_eq (location ++ [segment])
          cases hBelow :
              tree.entryAt (location ++ [segment]) with
          | none =>
              rw [hBelow] at hNext
              simp [follow, lookUp, hEntry, hOther, hBelow,
                hShape.eq_none hBelow]
          | some below =>
              rw [hBelow] at hNext
              rcases Option.isSome_iff_exists.mp
                  hNext.symm with
                ⟨found, hFound⟩
              by_cases hLong : nameLimit < segment.octets
              · simp [follow, lookUp, hEntry, hOther, hLong]
              · simp [follow, lookUp, hEntry, hOther, hBelow,
                  hFound, hLong]

theorem SameShape.followAll_eq
    (hShape : tree.SameShape other)
    (location : Location)
    (names : List Text) :
    tree.followAll location names =
      other.followAll location names := by
  induction names generalizing location with
  | nil =>
      rfl
  | cons segment rest ih =>
      rw [followAll, followAll, hShape.follow_eq]
      cases other.follow location segment with
      | error fault =>
          rfl
      | ok next =>
          exact ih next

theorem SameShape.origin_eq
    (hShape : tree.SameShape other)
    (path : Text) :
    tree.origin path = other.origin path := by
  unfold origin
  rw [hShape.home]

theorem SameShape.resolve_eq
    (hShape : tree.SameShape other)
    (path : Text) :
    tree.resolve path = other.resolve path := by
  unfold resolve
  rw [hShape.origin_eq, hShape.followAll_eq]

theorem SameShape.pathExists_eq
    (hShape : tree.SameShape other)
    (path : Text) :
    tree.pathExists path = other.pathExists path := by
  unfold pathExists
  rw [hShape.resolve_eq]

theorem SameShape.holdsDirectory_eq
    (hShape : tree.SameShape other)
    (location : Location) :
    tree.holdsDirectory location =
      other.holdsDirectory location := by
  rw [Bool.eq_iff_iff, holdsDirectory_iff,
    holdsDirectory_iff]
  exact ⟨hShape.eq_directory, hShape.symm.eq_directory⟩

theorem SameShape.isDirectory_eq
    (hShape : tree.SameShape other)
    (path : Text) :
    tree.isDirectory path = other.isDirectory path := by
  unfold isDirectory
  rw [hShape.resolve_eq]
  cases other.resolve path with
  | error fault =>
      rfl
  | ok location =>
      exact hShape.holdsDirectory_eq location

theorem SameShape.fileAt?_eq
    (hShape : tree.SameShape other)
    (path : Text) :
    tree.fileAt? path = other.fileAt? path := by
  apply Option.ext
  intro location
  rw [fileAt?_eq_some_iff, fileAt?_eq_some_iff,
    hShape.resolve_eq]
  constructor
  · intro hBoth
    rcases hBoth with ⟨hResolve, bytes, hFile⟩
    exact ⟨hResolve, hShape.exists_file hFile⟩
  · intro hBoth
    rcases hBoth with ⟨hResolve, bytes, hFile⟩
    exact ⟨hResolve, hShape.symm.exists_file hFile⟩

theorem SameShape.isFile_eq
    (hShape : tree.SameShape other)
    (path : Text) :
    tree.isFile path = other.isFile path := by
  unfold isFile
  rw [hShape.fileAt?_eq]

/- A path reads alike where the file behind it is the same. -/
theorem SameShape.read_eq
    {path : Text}
    (hShape : tree.SameShape other)
    (hSame :
      ∀ location,
        tree.fileAt? path = some location →
          other.entryAt location = tree.entryAt location) :
    other.read path = tree.read path := by
  unfold read
  rw [← hShape.resolve_eq]
  cases hResolve : tree.resolve path with
  | error fault =>
      rfl
  | ok location =>
      cases hEntry : tree.entryAt location with
      | none =>
          simp [hEntry, hShape.eq_none hEntry]
      | some entry =>
          cases entry with
          | directory =>
              simp [hEntry, hShape.eq_directory hEntry]
          | file bytes =>
              have hFile :
                  tree.fileAt? path = some location :=
                fileAt?_eq_some_iff.mpr
                  ⟨hResolve, bytes, hEntry⟩
              simp [hEntry, hSame location hFile]

end Tree

end SafeRerun
