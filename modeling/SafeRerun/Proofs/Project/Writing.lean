import SafeRerun.Proofs.Project.Place

/-
  Through which paths a file can be written, and where a
  path leads once a file has been written through it.

  Key theorems include:
    * `SafeRerun.Tree.write_eq_ok_iff`
    * `SafeRerun.Tree.LeadsToSlot.leadsToFile_put`

  Writing puts a file where no directory stands, so every
  path can be followed afterwards as far as before.  The
  path that was written through leads to the file.
-/

------------------------------------------------------------
-- Paths That Can Be Written
------------------------------------------------------------

namespace SafeRerun

namespace Tree

variable {tree after : Tree}
variable {path name : Text}
variable {above : Location}
variable {bytes : ByteArray}

theorem ne_nil_of_pathFault?_eq_none
    (hSound : pathFault? path = none) :
    path ≠ [] := by
  rintro rfl
  simp [pathFault?] at hSound

theorem namesDirectory_eq_false_iff :
    namesDirectory path = false ↔
      path.getLast? ≠ some '/' ∧
        isIdle ((namesOf path).getLast?.getD []) = false ∧
          (namesOf path).getLast?.getD [] ≠ ['.', '.'] := by
  simp [namesDirectory, and_assoc]

/- Without a slash at its end a path names its segments. -/
theorem namesOf_eq_segments
    (hNonempty : path ≠ [])
    (hSlash : path.getLast? ≠ some '/') :
    namesOf path = segments path := by
  apply namesOf_eq_of_ne_nil
  intro hEmpty
  apply hSlash
  apply getLast?_of_getLast?_segments hNonempty
  rw [segments_eq_concat path, hEmpty, List.getLast?_concat]

theorem writeBelow_eq_ok_iff :
    tree.writeBelow above name bytes = .ok after ↔
      tree.entryAt above = some .directory ∧
        name.octets ≤ nameLimit ∧
          tree.entryAt (above ++ [name]) ≠
              some .directory ∧
            after = tree.put above name (.file bytes) := by
  simp only [writeBelow, lookUp]
  cases hEntry : tree.entryAt above with
  | none =>
      simp
  | some entry =>
      cases entry with
      | file others =>
          simp
      | directory =>
          by_cases hLong : nameLimit < name.octets
          · simp [hLong, Nat.not_le.mpr hLong]
          · have hFits := Nat.not_lt.mp hLong
            simp only [if_neg hLong]
            cases hThere :
                tree.entryAt (above ++ [name]) with
            | none =>
                simp [hFits, eq_comm]
            | some found =>
                cases found with
                | directory =>
                    simp
                | file others =>
                    simp [hFits, eq_comm]

/-
  A file can be written through a path exactly if the path
  leads to a slot, and then it is put there.
-/
theorem write_eq_ok_iff :
    tree.write path bytes = .ok after ↔
      ∃ above name,
        tree.LeadsToSlot path above name ∧
          after = tree.put above name (.file bytes) := by
  constructor
  · intro hWrite
    unfold write at hWrite
    cases hSound : pathFault? path with
    | some fault =>
        simp [hSound] at hWrite
    | none =>
        cases hFront :
            tree.followAll (tree.origin path)
              (namesOf path).dropLast with
        | error fault =>
            simp [hSound, hFront] at hWrite
        | ok above =>
            simp only [hSound, hFront] at hWrite
            split at hWrite
            · contradiction
            · split at hWrite
              · contradiction
              · -- The path ends in a name, with no slash behind.
                rename_i hNames
                rcases namesDirectory_eq_false_iff.mp
                    (by simpa using hNames) with
                  ⟨hSlash, hPlain, hOther⟩
                rw [namesOf_eq_segments
                  (ne_nil_of_pathFault?_eq_none hSound)
                  hSlash] at hFront hPlain hOther hWrite
                rcases writeBelow_eq_ok_iff.mp hWrite with
                  ⟨hHere, hFits, hFree, hAfter⟩
                exact ⟨above, _,
                  ⟨hSound, segments_eq_concat path, hFront,
                    hHere, hPlain, hOther, hFits, hFree⟩,
                  hAfter⟩
  · rintro ⟨above, name, hLeads, rfl⟩
    exact hLeads.write_eq bytes

end Tree

end SafeRerun

------------------------------------------------------------
-- Paths After Writing
------------------------------------------------------------

namespace SafeRerun

namespace Tree

variable {tree after : Tree}
variable {location next : Location}

/- Every directory stays, and every entry stays an entry. -/
structure Keeps
    (tree after : Tree) : Prop where
  home : after.home = tree.home
  directories :
    ∀ location,
      tree.entryAt location = some .directory →
        after.entryAt location = some .directory
  entries :
    ∀ location,
      (tree.entryAt location).isSome →
        (after.entryAt location).isSome

/- No step is blocked where so much is kept. -/
theorem Keeps.follow
    {segment : Text}
    (hKeeps : tree.Keeps after)
    (hFollow : tree.follow location segment = .ok next) :
    after.follow location segment = .ok next := by
  rcases follow_eq_ok_iff.mp hFollow with ⟨hHere, hStep⟩
  rw [follow_eq_ok_iff]
  refine ⟨hKeeps.directories location hHere, ?_⟩
  rcases hStep with hStay | hUp |
    ⟨hPlain, hOther, hFits, hThere, hDown⟩
  · exact Or.inl hStay
  · exact Or.inr (Or.inl hUp)
  · exact Or.inr (Or.inr ⟨hPlain, hOther, hFits,
      hKeeps.entries _ hThere, hDown⟩)

theorem Keeps.followAll
    {names : List Text}
    (hKeeps : tree.Keeps after)
    (hFollow : tree.followAll location names = .ok next) :
    after.followAll location names = .ok next := by
  induction names generalizing location with
  | nil =>
      exact hFollow
  | cons segment rest ih =>
      rw [Tree.followAll] at hFollow ⊢
      cases hStep : tree.follow location segment with
      | error fault =>
          simp [hStep] at hFollow
      | ok middle =>
          rw [hStep] at hFollow
          rw [hKeeps.follow hStep]
          exact ih hFollow

theorem Keeps.origin_eq
    (hKeeps : tree.Keeps after)
    (path : Text) :
    after.origin path = tree.origin path := by
  unfold origin
  rw [hKeeps.home]

variable {path name : Text}
variable {above : Location}

/- A file that is put into its slot, read off. -/
theorem LeadsToSlot.entryAt_put
    (hLeads : tree.LeadsToSlot path above name)
    (bytes : ByteArray)
    (location : Location) :
    (tree.put above name (.file bytes)).entryAt location =
      if location = above ++ [name] then
        some (.file bytes)
      else
        tree.entryAt location :=
  Tree.entryAt_put (hLeads.canPut_eq bytes) location

/- It takes the place of no directory. -/
theorem LeadsToSlot.keeps_put
    (hLeads : tree.LeadsToSlot path above name)
    (bytes : ByteArray) :
    tree.Keeps (tree.put above name (.file bytes)) := by
  refine ⟨home_put tree above name _, ?_, ?_⟩
  · intro location hHere
    rw [hLeads.entryAt_put, if_neg]
    · exact hHere
    · rintro rfl
      exact hLeads.free hHere
  · intro location hSome
    rw [hLeads.entryAt_put]
    split
    · rfl
    · exact hSome

/- A path leads to the file that is written through it. -/
theorem LeadsToSlot.leadsToFile_put
    (hLeads : tree.LeadsToSlot path above name)
    (bytes : ByteArray) :
    (tree.put above name (.file bytes)).LeadsToFile
      path above name bytes := by
  have hKeeps := hLeads.keeps_put bytes
  refine ⟨hLeads.sound, hLeads.segments_eq, ?_,
    hKeeps.directories above hLeads.directory,
    hLeads.plain, hLeads.other, hLeads.fits, ?_⟩
  · rw [hKeeps.origin_eq]
    exact hKeeps.followAll hLeads.followed
  · rw [hLeads.entryAt_put, if_pos rfl]

end Tree

end SafeRerun
