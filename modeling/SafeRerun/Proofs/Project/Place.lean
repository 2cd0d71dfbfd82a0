import SafeRerun.Proofs.Project.Segment

/-
  Following a path to a file, and reading and writing there.

  Key definitions include:
    * `SafeRerun.Tree.LeadsToFile`
    * `SafeRerun.Tree.LeadsToSlot`

  Key theorems include:
    * `SafeRerun.Tree.follow_eq_ok_iff`
    * `SafeRerun.Tree.exists_leadsToFile`
    * `SafeRerun.Tree.LeadsToFile.read_eq`
    * `SafeRerun.Tree.LeadsToSlot.write_eq`
    * `SafeRerun.Tree.LeadsToFile.write_eq`

  A path that leads to a file goes through directories and
  ends in the name of the file.  So whatever can be read
  through a path can also be written through it, and writing
  sets the entry at the location that the path leads to.
-/

------------------------------------------------------------
-- Names
------------------------------------------------------------

namespace SafeRerun

theorem isName_iff
    {name : Text} :
    isName name = true ↔
      isIdle name = false ∧ name ≠ ['.', '.'] ∧
        name.octets ≤ nameLimit ∧
          ∀ c ∈ name, c ≠ '/' ∧ c.toNat ≠ 0 := by
  simp [isName, and_assoc]

/- No sound path holds a null character. -/
theorem toNat_ne_zero_of_pathFault?
    {path : Text}
    {c : Char}
    (hSound : pathFault? path = none)
    (hMem : c ∈ path) :
    c.toNat ≠ 0 := by
  intro hNull
  have hAny : (path.any fun c => c.toNat == 0) = true :=
    List.any_eq_true.mpr ⟨c, hMem, by simp [hNull]⟩
  rw [pathFault?, if_pos hAny] at hSound
  contradiction

/- A segment of a sound path is a name, if it is not too long. -/
theorem isName_of_mem_segments
    {path name : Text}
    (hSound : pathFault? path = none)
    (hMem : name ∈ segments path)
    (hPlain : isIdle name = false)
    (hOther : name ≠ ['.', '.'])
    (hFits : name.octets ≤ nameLimit) :
    isName name = true := by
  rw [isName_iff]
  refine ⟨hPlain, hOther, hFits, fun c hChar => ⟨?_, ?_⟩⟩
  · rintro rfl
    exact not_mem_of_mem_segments hMem hChar
  · exact toNat_ne_zero_of_pathFault? hSound
      (mem_of_mem_segments hMem hChar)

end SafeRerun

------------------------------------------------------------
-- Following Segments
------------------------------------------------------------

namespace SafeRerun

namespace Tree

variable {tree : Tree}
variable {location next : Location}

/- Segments are followed one part after the other. -/
theorem followAll_append_eq_ok_iff
    (front back : List Text) :
    tree.followAll location (front ++ back) = .ok next ↔
      ∃ middle,
        tree.followAll location front = .ok middle ∧
          tree.followAll middle back = .ok next := by
  induction front generalizing location with
  | nil =>
      simp [followAll]
  | cons segment rest ih =>
      rw [List.cons_append, followAll, followAll]
      cases tree.follow location segment with
      | error fault =>
          simp
      | ok step =>
          exact ih

theorem followAll_singleton
    (segment : Text) :
    tree.followAll location [segment] =
      tree.follow location segment := by
  rw [followAll]
  cases tree.follow location segment <;> rfl

/- What one segment does from a directory. -/
theorem follow_eq_ok_iff
    {segment : Text} :
    tree.follow location segment = .ok next ↔
      tree.entryAt location = some .directory ∧
        ((isIdle segment = true ∧ location = next) ∨
          (segment = ['.', '.'] ∧ location.dropLast = next) ∨
          (isIdle segment = false ∧
            segment ≠ ['.', '.'] ∧
              segment.octets ≤ nameLimit ∧
                (tree.entryAt
                  (location ++ [segment])).isSome ∧
                  location ++ [segment] = next)) := by
  unfold follow
  cases hEntry : tree.entryAt location with
  | none =>
      simp
  | some entry =>
      cases entry with
      | file bytes =>
          simp
      | directory =>
          by_cases hIdle : isIdle segment = true
          · have hOther : segment ≠ ['.', '.'] := by
              rintro rfl
              simp [isIdle] at hIdle
            simp [hIdle, hOther]
          · by_cases hParent : segment = ['.', '.']
            · subst hParent
              simp [isIdle]
            · simp only [lookUp]
              by_cases hLong : nameLimit < segment.octets
              · have hTall := Nat.not_le.mpr hLong
                simp [hIdle, hParent, hLong, hTall]
              · have hFits := Nat.not_lt.mp hLong
                cases tree.entryAt (location ++ [segment]) with
                | none =>
                    simp [hIdle, hParent, hLong]
                | some below =>
                    simp [hIdle, hParent, hLong, hFits]

end Tree

end SafeRerun

------------------------------------------------------------
-- Paths to Files
------------------------------------------------------------

namespace SafeRerun

namespace Tree

variable {tree : Tree}
variable {path : Text}
variable {location : Location}

/-
  The path goes through directories to the one above the
  file, and its last segment is the name of the file.
-/
structure LeadsToFile
    (tree : Tree)
    (path : Text)
    (above : Location)
    (name : Text)
    (bytes : ByteArray) : Prop where
  sound :
    pathFault? path = none
  segments_eq :
    segments path = (segments path).dropLast ++ [name]
  followed :
    tree.followAll (tree.origin path)
      (segments path).dropLast = .ok above
  directory :
    tree.entryAt above = some .directory
  plain :
    isIdle name = false
  other :
    name ≠ ['.', '.']
  fits :
    name.octets ≤ nameLimit
  file :
    tree.entryAt (above ++ [name]) = some (.file bytes)

theorem fileAt?_eq_some_iff :
    tree.fileAt? path = some location ↔
      tree.resolve path = .ok location ∧
        ∃ bytes,
          tree.entryAt location = some (.file bytes) := by
  unfold fileAt?
  constructor
  · intro hFile
    split at hFile
    · rename_i found hResolve
      split at hFile
      · rename_i bytes hEntry
        rw [Option.some.injEq] at hFile
        subst hFile
        exact ⟨hResolve, bytes, hEntry⟩
      · contradiction
    · contradiction
  · intro hBoth
    rcases hBoth with ⟨hResolve, bytes, hEntry⟩
    rw [hResolve]
    simp [hEntry]

theorem resolve_eq_ok_iff :
    tree.resolve path = .ok location ↔
      pathFault? path = none ∧
        tree.followAll (tree.origin path) (segments path) =
          .ok location := by
  unfold resolve
  cases pathFault? path with
  | none =>
      simp
  | some fault =>
      simp

/- The last segment of a path to a file is its name. -/
theorem exists_leadsToFile
    (hFile : tree.fileAt? path = some location) :
    ∃ above name bytes,
      location = above ++ [name] ∧
        tree.LeadsToFile path above name bytes := by
  rcases fileAt?_eq_some_iff.mp hFile with
    ⟨hResolve, bytes, hEntry⟩
  rcases resolve_eq_ok_iff.mp hResolve with
    ⟨hSound, hFollow⟩
  have hSegments :=
    List.dropLast_concat_getLast (segments_ne_nil path)
  rw [← hSegments, followAll_append_eq_ok_iff] at hFollow
  rcases hFollow with ⟨above, hFront, hLast⟩
  rw [followAll_singleton] at hLast
  -- Only a name leads from a directory to a file.
  rcases follow_eq_ok_iff.mp hLast with
    ⟨hHere, ⟨-, rfl⟩ | ⟨-, rfl⟩ |
      ⟨hPlain, hOther, hFits, -, rfl⟩⟩
  · simp [hHere] at hEntry
  · have hUpper :
        tree.entryAt above.dropLast = some .directory := by
      rcases above.eq_nil_or_concat with
        rfl | ⟨upper, last, rfl⟩
      · exact hHere
      · rw [List.concat_eq_append] at hHere ⊢
        rw [List.dropLast_concat]
        exact entryAt_above (by rw [hHere]; rfl)
    simp [hUpper] at hEntry
  · exact ⟨above, _, bytes, rfl, hSound, hSegments.symm,
      hFront, hHere, hPlain, hOther, hFits, hEntry⟩

/- A path to a file leads to the location of the file. -/
theorem LeadsToFile.resolve_eq
    {above : Location}
    {name : Text}
    {bytes : ByteArray}
    (hLeads : tree.LeadsToFile path above name bytes) :
    tree.resolve path = .ok (above ++ [name]) := by
  rw [resolve_eq_ok_iff]
  refine ⟨hLeads.sound, ?_⟩
  rw [hLeads.segments_eq, followAll_append_eq_ok_iff]
  refine ⟨above, hLeads.followed, ?_⟩
  rw [followAll_singleton, follow_eq_ok_iff]
  refine ⟨hLeads.directory, Or.inr (Or.inr ?_)⟩
  exact ⟨hLeads.plain, hLeads.other, hLeads.fits,
    by simp [hLeads.file], rfl⟩

theorem LeadsToFile.fileAt?_eq
    {above : Location}
    {name : Text}
    {bytes : ByteArray}
    (hLeads : tree.LeadsToFile path above name bytes) :
    tree.fileAt? path = some (above ++ [name]) :=
  fileAt?_eq_some_iff.mpr
    ⟨hLeads.resolve_eq, bytes, hLeads.file⟩

end Tree

end SafeRerun

------------------------------------------------------------
-- Reading and Writing
------------------------------------------------------------

namespace SafeRerun

namespace Tree

variable {tree : Tree}
variable {path name : Text}
variable {above : Location}
variable {bytes : ByteArray}

theorem LeadsToFile.read_eq
    (hLeads : tree.LeadsToFile path above name bytes) :
    tree.read path = .ok bytes := by
  unfold read
  rw [hLeads.resolve_eq]
  simp [hLeads.file]

/-
  The path goes through directories to one in which a file
  can have the last segment for its name: no directory has
  this name.
-/
structure LeadsToSlot
    (tree : Tree)
    (path : Text)
    (above : Location)
    (name : Text) : Prop where
  sound :
    pathFault? path = none
  segments_eq :
    segments path = (segments path).dropLast ++ [name]
  followed :
    tree.followAll (tree.origin path)
      (segments path).dropLast = .ok above
  directory :
    tree.entryAt above = some .directory
  plain :
    isIdle name = false
  other :
    name ≠ ['.', '.']
  fits :
    name.octets ≤ nameLimit
  free :
    tree.entryAt (above ++ [name]) ≠ some .directory

/- A path leads to a file where one has the name. -/
theorem leadsToFile_iff :
    tree.LeadsToFile path above name bytes ↔
      tree.LeadsToSlot path above name ∧
        tree.entryAt (above ++ [name]) =
          some (.file bytes) := by
  constructor
  · intro hLeads
    refine ⟨⟨hLeads.sound, hLeads.segments_eq,
      hLeads.followed, hLeads.directory, hLeads.plain,
      hLeads.other, hLeads.fits, ?_⟩, hLeads.file⟩
    rw [hLeads.file]
    simp
  · rintro ⟨hSlot, hFile⟩
    exact ⟨hSlot.sound, hSlot.segments_eq, hSlot.followed,
      hSlot.directory, hSlot.plain, hSlot.other, hSlot.fits,
      hFile⟩

/- Behind no empty segment there is nothing to leave out. -/
theorem namesOf_eq_of_ne_nil
    (hLast : (segments path).getLast?.getD [] ≠ []) :
    namesOf path = segments path := by
  unfold namesOf
  rw [segments_eq_concat path, List.reverse_append,
    List.reverse_singleton, List.singleton_append,
    List.dropWhile_cons_of_neg (by simpa using hLast),
    List.reverse_cons, List.reverse_reverse]

theorem LeadsToSlot.getLast?_segments
    (hLeads : tree.LeadsToSlot path above name) :
    (segments path).getLast? = some name := by
  rw [hLeads.segments_eq, List.getLast?_concat]

/- A path that ends in a plain name names all its segments. -/
theorem LeadsToSlot.namesOf_eq
    (hLeads : tree.LeadsToSlot path above name) :
    namesOf path = segments path := by
  apply namesOf_eq_of_ne_nil
  rw [hLeads.getLast?_segments, Option.getD_some]
  rintro rfl
  have hPlain := hLeads.plain
  contradiction

theorem LeadsToSlot.namesDirectory_eq
    (hLeads : tree.LeadsToSlot path above name) :
    namesDirectory path = false := by
  have hSlash : (path.getLast? == some '/') = false := by
    rw [beq_eq_false_iff_ne]
    intro hEnds
    have hEmpty := getLast?_segments_of_getLast? hEnds
    rw [hLeads.getLast?_segments, Option.some.injEq]
      at hEmpty
    have hPlain := hLeads.plain
    rw [hEmpty] at hPlain
    contradiction
  have hOther := beq_eq_false_iff_ne.mpr hLeads.other
  simp only [namesDirectory, hLeads.namesOf_eq,
    hLeads.getLast?_segments, Option.getD_some, hSlash,
    hLeads.plain, hOther, Bool.or_self]

/- A file can be set where the path leads. -/
theorem LeadsToSlot.canPut_eq
    (hLeads : tree.LeadsToSlot path above name)
    (others : ByteArray) :
    tree.canPut above name (.file others) = true := by
  have hName : isName name = true :=
    isName_of_mem_segments hLeads.sound
      (List.mem_of_getLast? hLeads.getLast?_segments)
      hLeads.plain hLeads.other hLeads.fits
  have hFree :
      tree.holdsDirectory (above ++ [name]) = false := by
    rw [← Bool.not_eq_true, holdsDirectory_iff]
    exact hLeads.free
  simp only [canPut, hName,
    holdsDirectory_iff.mpr hLeads.directory, hFree,
    Bool.not_false, Bool.or_true, Bool.and_self]

/- Where a file can stand it can be written. -/
theorem LeadsToSlot.write_eq
    (hLeads : tree.LeadsToSlot path above name)
    (others : ByteArray) :
    tree.write path others =
      .ok (tree.put above name (.file others)) := by
  have hFits := Nat.not_lt.mpr hLeads.fits
  have hHolds := holdsDirectory_iff.mpr hLeads.directory
  unfold write
  rw [hLeads.sound, hLeads.namesDirectory_eq,
    hLeads.namesOf_eq, hLeads.followed,
    hLeads.getLast?_segments, Option.getD_some]
  simp [hHolds, writeBelow, lookUp, hLeads.directory,
    hLeads.free, hFits]

/- What a path leads to can be written through it. -/
theorem LeadsToFile.write_eq
    (hLeads : tree.LeadsToFile path above name bytes)
    (others : ByteArray) :
    tree.write path others =
      .ok (tree.put above name (.file others)) :=
  (leadsToFile_iff.mp hLeads).1.write_eq others

end Tree

end SafeRerun
