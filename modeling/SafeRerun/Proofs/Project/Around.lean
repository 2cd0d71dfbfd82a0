import SafeRerun.Proofs.Project.Listing
import SafeRerun.Proofs.Project.Position

/-
  Trees that are alike around two locations.

  Key definitions include:
    * `SafeRerun.Tree.SameBelow`
    * `SafeRerun.Tree.SameAround`
    * `SafeRerun.Tree.LeadAlike`

  Key theorems include:
    * `SafeRerun.Tree.sameBelow_iff`
    * `SafeRerun.Tree.SameAround.followAll`
    * `SafeRerun.Tree.LeadAlike.isFile_eq`

  Where the same names and kinds stand below two locations,
  segments lead to locations that are alike again.  Segments
  that climb need as many directories above to be alike.
-/

------------------------------------------------------------
-- Alike Below
------------------------------------------------------------

namespace SafeRerun

namespace Tree

variable {tree other : Tree}
variable {location otherLocation : Location}

/- The same kinds of entries stand along the same ways. -/
def SameBelow
    (tree other : Tree)
    (location otherLocation : Location) : Prop :=
  ∀ way,
    (tree.entryAt (location ++ way)).map Entry.isDirectory =
      (other.entryAt (otherLocation ++ way)).map
        Entry.isDirectory

/- It is enough to compare what is listed. -/
theorem sameBelow_iff :
    tree.SameBelow other location otherLocation ↔
      ∀ way ∈
        [] :: (tree.below location ++
          other.below otherLocation),
        (tree.entryAt (location ++ way)).map
            Entry.isDirectory =
          (other.entryAt (otherLocation ++ way)).map
            Entry.isDirectory := by
  constructor
  · intro hSame way _
    exact hSame way
  · intro hListed way
    by_cases hMem :
        way ∈ [] :: (tree.below location ++
          other.below otherLocation)
    · exact hListed way hMem
    · -- What is not listed in either tree stands in neither.
      rw [List.mem_cons, List.mem_append, not_or, not_or,
        mem_below_iff, mem_below_iff] at hMem
      rcases hMem with ⟨hSome, hNot, hNotOther⟩
      have hNone :
          tree.entryAt (location ++ way) = none := by
        by_contra hEntry
        exact hNot ⟨hSome, Option.isSome_iff_ne_none.mpr hEntry⟩
      have hNoneOther :
          other.entryAt (otherLocation ++ way) = none := by
        by_contra hEntry
        exact hNotOther
          ⟨hSome, Option.isSome_iff_ne_none.mpr hEntry⟩
      rw [hNone, hNoneOther]

instance : Decidable
    (tree.SameBelow other location otherLocation) :=
  decidable_of_iff _ sameBelow_iff.symm

theorem SameBelow.into
    (hSame : tree.SameBelow other location otherLocation)
    (front : Location) :
    tree.SameBelow other (location ++ front)
      (otherLocation ++ front) := by
  intro way
  rw [List.append_assoc, List.append_assoc]
  exact hSame (front ++ way)

theorem SameBelow.here
    (hSame : tree.SameBelow other location otherLocation) :
    (tree.entryAt location).map Entry.isDirectory =
      (other.entryAt otherLocation).map
        Entry.isDirectory := by
  have hKinds := hSame []
  rw [List.append_nil, List.append_nil] at hKinds
  exact hKinds

theorem SameBelow.symm
    (hSame : tree.SameBelow other location otherLocation) :
    other.SameBelow tree otherLocation location :=
  fun way => (hSame way).symm

theorem SameBelow.holdsDirectory_eq
    (hSame : tree.SameBelow other location otherLocation)
    (way : Location) :
    tree.holdsDirectory (location ++ way) =
      other.holdsDirectory (otherLocation ++ way) := by
  rw [Bool.eq_iff_iff, holdsDirectory_iff,
    holdsDirectory_iff]
  exact ⟨eq_directory_of_kinds (hSame way),
    eq_directory_of_kinds (hSame.symm way)⟩

/- The same is listed below. -/
theorem SameBelow.below_eq
    (hSame : tree.SameBelow other location otherLocation) :
    tree.below location = other.below otherLocation :=
  Tree.below_eq fun way => isSome_eq_of_kinds (hSame way)

theorem SameBelow.namesIn_eq
    (hSame : tree.SameBelow other location otherLocation) :
    tree.namesIn location = other.namesIn otherLocation := by
  unfold namesIn
  rw [hSame.below_eq]

end Tree

end SafeRerun

------------------------------------------------------------
-- Alike Around
------------------------------------------------------------

namespace SafeRerun

namespace Tree

variable {tree other : Tree}
variable {location otherLocation : Location}
variable {climbs : Nat}

/-
  The trees are alike below the locations, and so they are
  for a number of directories upwards.
-/
def SameAround
    (tree other : Tree) :
    Nat → Location → Location → Prop
  | 0, location, otherLocation =>
      tree.SameBelow other location otherLocation
  | climbs + 1, location, otherLocation =>
      tree.SameBelow other location otherLocation ∧
        SameAround tree other climbs location.dropLast
          otherLocation.dropLast

theorem SameAround.below
    (hSame :
      tree.SameAround other climbs location otherLocation) :
    tree.SameBelow other location otherLocation := by
  cases climbs with
  | zero =>
      exact hSame
  | succ climbs =>
      exact hSame.1

theorem SameAround.mono
    {fewer : Nat}
    (hSame :
      tree.SameAround other climbs location otherLocation)
    (hFewer : fewer ≤ climbs) :
    tree.SameAround other fewer location otherLocation := by
  induction fewer generalizing climbs location otherLocation
    with
  | zero =>
      exact hSame.below
  | succ fewer ih =>
      cases climbs with
      | zero =>
          contradiction
      | succ climbs =>
          exact ⟨hSame.1,
            ih hSame.2 (Nat.le_of_succ_le_succ hFewer)⟩

/- Below a name as much is alike as above it. -/
theorem SameAround.into
    (hSame :
      tree.SameAround other climbs location otherLocation)
    (name : Text) :
    tree.SameAround other climbs (location ++ [name])
      (otherLocation ++ [name]) := by
  cases climbs with
  | zero =>
      exact hSame.below.into [name]
  | succ climbs =>
      refine ⟨hSame.below.into [name], ?_⟩
      rw [List.dropLast_concat, List.dropLast_concat]
      exact hSame.mono (Nat.le_succ climbs)

/-
  Both lead to the same fault, or to locations around which
  the trees are alike.
-/
inductive LeadAlike
    (tree other : Tree)
    (climbs : Nat) :
    Except AccessError Location →
      Except AccessError Location → Prop where
  | fault
      (cause : AccessError) :
      LeadAlike tree other climbs (.error cause)
        (.error cause)
  | arrive
      {location otherLocation : Location}
      (hSame :
        tree.SameAround other climbs location otherLocation) :
      LeadAlike tree other climbs (.ok location)
        (.ok otherLocation)

/- How often segments climb. -/
def upward
    (parts : List Text) :
    Nat :=
  parts.count ['.', '.']

/- In a directory a name leads to the entry it has there. -/
theorem follow_name
    {name : Text}
    (hHere : tree.entryAt location = some .directory)
    (hIdle : ¬isIdle name = true)
    (hParent : name ≠ ['.', '.']) :
    tree.follow location name =
      if nameLimit < name.octets then
        .error .tooLong
      else if (tree.entryAt (location ++ [name])).isSome then
        .ok (location ++ [name])
      else
        .error .notFound := by
  unfold follow lookUp
  rw [hHere]
  dsimp only
  rw [if_neg hIdle, if_neg (by simpa using hParent)]
  by_cases hLong : nameLimit < name.octets
  · rw [if_pos hLong, if_pos hLong]
  · rw [if_neg hLong, if_neg hLong]
    cases tree.entryAt (location ++ [name]) with
    | none =>
        rfl
    | some entry =>
        rfl

/- A segment that climbs uses up one directory upwards. -/
theorem SameAround.follow
    {segment : Text}
    (hSame :
      tree.SameAround other (climbs + upward [segment]) location
        otherLocation) :
    tree.LeadAlike other climbs
      (tree.follow location segment)
      (other.follow otherLocation segment) := by
  have hKinds := hSame.below.here
  cases hHere : tree.entryAt location with
  | none =>
      unfold Tree.follow
      rw [hHere, eq_none_of_kinds hKinds hHere]
      exact .fault .notFound
  | some entry =>
      cases entry with
      | file bytes =>
          rcases exists_file_of_kinds hKinds hHere with
            ⟨others, hOther⟩
          unfold Tree.follow
          rw [hHere, hOther]
          exact .fault .notDirectory
      | directory =>
          have hOther := eq_directory_of_kinds hKinds hHere
          by_cases hName :
              isIdle segment = true ∨ segment = ['.', '.']
          · unfold Tree.follow
            rw [hHere, hOther]
            rcases hName with hIdle | rfl
            · dsimp only
              rw [if_pos hIdle, if_pos hIdle]
              exact .arrive
                (hSame.mono (Nat.le_add_right _ _))
            · exact .arrive hSame.2
          · rw [not_or] at hName
            have hPlain : upward [segment] = 0 := by
              simp [upward, hName.2]
            rw [hPlain] at hSame
            rw [follow_name hHere hName.1 hName.2,
              follow_name hOther hName.1 hName.2,
              isSome_eq_of_kinds (hSame.below [segment])]
            split
            · exact .fault .tooLong
            · split
              · exact .arrive (hSame.into segment)
              · exact .fault .notFound

/- Segments use up as many directories upwards as they climb. -/
theorem SameAround.followAll
    {parts : List Text}
    (hSame :
      tree.SameAround other (climbs + upward parts) location
        otherLocation) :
    tree.LeadAlike other climbs
      (tree.followAll location parts)
      (other.followAll otherLocation parts) := by
  induction parts generalizing location otherLocation with
  | nil =>
      exact .arrive hSame
  | cons segment rest ih =>
      have hCount :
          climbs + upward (segment :: rest) =
            climbs + upward rest + upward [segment] := by
        unfold upward
        rw [List.count_cons, List.count_singleton]
        omega
      rw [hCount] at hSame
      have hStep := hSame.follow
      rw [Tree.followAll, Tree.followAll]
      cases hFirst : tree.follow location segment with
      | error cause =>
          rw [hFirst] at hStep
          generalize hOther :
              other.follow otherLocation segment = found
            at hStep
          cases hStep with
          | fault =>
              exact .fault cause
      | ok next =>
          rw [hFirst] at hStep
          generalize hOther :
              other.follow otherLocation segment = found
            at hStep
          cases hStep with
          | arrive hNext =>
              exact ih hNext

variable {path otherPath : Text}

/- Of paths that lead alike, both lead somewhere or neither. -/
theorem LeadAlike.pathExists_eq
    (hLead :
      tree.LeadAlike other climbs (tree.resolve path)
        (other.resolve otherPath)) :
    tree.pathExists path = other.pathExists otherPath := by
  unfold pathExists
  generalize tree.resolve path = found at hLead ⊢
  generalize other.resolve otherPath = otherFound at hLead ⊢
  cases hLead with
  | fault cause =>
      rfl
  | arrive hSame =>
      rfl

theorem LeadAlike.isDirectory_eq
    (hLead :
      tree.LeadAlike other climbs (tree.resolve path)
        (other.resolve otherPath)) :
    tree.isDirectory path = other.isDirectory otherPath := by
  unfold isDirectory
  generalize tree.resolve path = found at hLead ⊢
  generalize other.resolve otherPath = otherFound at hLead ⊢
  cases hLead with
  | fault cause =>
      rfl
  | arrive hSame =>
      have hKinds := hSame.below.holdsDirectory_eq []
      rw [List.append_nil, List.append_nil] at hKinds
      exact hKinds

theorem LeadAlike.isFile_eq
    (hLead :
      tree.LeadAlike other climbs (tree.resolve path)
        (other.resolve otherPath)) :
    tree.isFile path = other.isFile otherPath := by
  unfold isFile fileAt?
  generalize tree.resolve path = found at hLead ⊢
  generalize other.resolve otherPath = otherFound at hLead ⊢
  cases hLead with
  | fault cause =>
      rfl
  | @arrive location otherLocation hSame =>
      have hKinds := hSame.below.here
      dsimp only
      cases hHere : tree.entryAt location with
      | none =>
          rw [eq_none_of_kinds hKinds hHere]
      | some entry =>
          cases entry with
          | directory =>
              rw [eq_directory_of_kinds hKinds hHere]
          | file bytes =>
              rcases exists_file_of_kinds hKinds hHere with
                ⟨others, hOther⟩
              rw [hOther]
              rfl

end Tree

end SafeRerun
