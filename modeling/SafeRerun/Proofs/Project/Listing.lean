import Mathlib.Data.List.Nodup
import SafeRerun.Proofs.Project.Shape

/-
  What is listed below a location.

  Key theorems include:
    * `SafeRerun.Tree.mem_below_iff`
    * `SafeRerun.Tree.nodup_below`
    * `SafeRerun.Tree.below_eq`
    * `SafeRerun.Tree.SameShape.below_eq`

  A listing is in the order of the names and shows nothing
  twice, since no location stands twice in a tree.  So what
  stands below two locations decides whether their listings
  are the same.
-/

------------------------------------------------------------
-- The Order of Locations
------------------------------------------------------------

namespace SafeRerun

/- Locations are in order in one way only. -/
theorem locationBefore_antisymm
    {a b : Location}
    (hBefore : locationBefore a b = true)
    (hAfter : locationBefore b a = true) :
    a = b := by
  simp only [locationBefore, Bool.not_eq_true',
    decide_eq_false_iff_not, List.not_lt] at hBefore hAfter
  exact List.le_antisymm hBefore hAfter

theorem locationBefore_total
    (a b : Location) :
    (locationBefore a b || locationBefore b a) = true := by
  simp only [locationBefore, Bool.or_eq_true,
    Bool.not_eq_true', decide_eq_false_iff_not, List.not_lt]
  exact List.le_total a b

theorem locationBefore_trans
    (a b c : Location)
    (hFirst : locationBefore a b = true)
    (hSecond : locationBefore b c = true) :
    locationBefore a c = true := by
  simp only [locationBefore, Bool.not_eq_true',
    decide_eq_false_iff_not, List.not_lt] at *
  exact List.le_trans hFirst hSecond

end SafeRerun

------------------------------------------------------------
-- Ways Below a Location
------------------------------------------------------------

namespace SafeRerun

namespace Tree

variable {tree other : Tree}
variable {location otherLocation : Location}

theorem wayBelow?_eq_some_iff
    {key way : Location} :
    wayBelow? location key = some way ↔
      way ≠ [] ∧ key = location ++ way := by
  simp only [wayBelow?, Option.ite_none_right_eq_some,
    Bool.and_eq_true, List.isPrefixOf_iff_prefix,
    decide_eq_true_eq, Option.some.injEq]
  constructor
  · rintro ⟨⟨⟨rest, rfl⟩, hLonger⟩, hRest⟩
    rw [List.drop_left] at hRest
    subst hRest
    refine ⟨?_, rfl⟩
    rintro rfl
    simp at hLonger
  · rintro ⟨hSome, rfl⟩
    have hLength := List.length_pos_iff.mpr hSome
    refine ⟨⟨List.prefix_append location way, ?_⟩,
      List.drop_left⟩
    rw [List.length_append]
    omega

theorem isSome_entryAt_iff
    (hBelow : location ≠ []) :
    (tree.entryAt location).isSome ↔
      ∃ entry, (location, entry) ∈ tree.entries := by
  unfold entryAt
  rw [if_neg hBelow, List.lookup_isSome_iff]
  constructor
  · intro hExists
    rcases hExists with ⟨e, hMem, hKey⟩
    rw [beq_iff_eq] at hKey
    rw [hKey]
    exact ⟨e.2, hMem⟩
  · intro hExists
    rcases hExists with ⟨entry, hMem⟩
    exact ⟨(location, entry), hMem, BEq.rfl⟩

/- What is below a location is what stands further down. -/
theorem mem_below_iff
    {way : Location} :
    way ∈ tree.below location ↔
      way ≠ [] ∧
        (tree.entryAt (location ++ way)).isSome := by
  simp only [below, List.mem_mergeSort, List.mem_filterMap,
    wayBelow?_eq_some_iff]
  constructor
  · rintro ⟨⟨key, entry⟩, hMem, hSome, hKey⟩
    dsimp only at hKey
    subst hKey
    refine ⟨hSome, ?_⟩
    rw [isSome_entryAt_iff (by simp [hSome])]
    exact ⟨entry, hMem⟩
  · rintro ⟨hSome, hEntry⟩
    rw [isSome_entryAt_iff (by simp [hSome])] at hEntry
    rcases hEntry with ⟨entry, hMem⟩
    exact ⟨(location ++ way, entry), hMem, hSome, rfl⟩

theorem pairwise_below
    (tree : Tree)
    (location : Location) :
    (tree.below location).Pairwise fun a b =>
      locationBefore a b = true :=
  List.pairwise_mergeSort locationBefore_trans
    locationBefore_total _

/- Nothing is listed twice. -/
theorem nodup_below
    (tree : Tree)
    (location : Location) :
    (tree.below location).Nodup := by
  have hWays :
      ((tree.entries.map Prod.fst).filterMap
        (wayBelow? location)).Nodup := by
    refine List.Nodup.filterMap ?_ tree.distinct
    intro key another way hKey hAnother
    rw [(wayBelow?_eq_some_iff.mp hKey).2,
      (wayBelow?_eq_some_iff.mp hAnother).2]
  rw [List.filterMap_map] at hWays
  exact (List.mergeSort_perm _ locationBefore).nodup_iff.mpr
    hWays

/- What stands below two locations decides their listings. -/
theorem below_eq
    (hSame :
      ∀ way,
        (tree.entryAt (location ++ way)).isSome =
          (other.entryAt (otherLocation ++ way)).isSome) :
    tree.below location = other.below otherLocation := by
  refine List.Perm.eq_of_pairwise
    (fun a b _ _ => locationBefore_antisymm)
    (pairwise_below tree location)
    (pairwise_below other otherLocation) ?_
  refine (List.perm_ext_iff_of_nodup
    (nodup_below tree location)
    (nodup_below other otherLocation)).mpr fun way => ?_
  rw [mem_below_iff, mem_below_iff, hSame way]

/- Trees of the same shape list the same in the same order. -/
theorem SameShape.below_eq
    (hShape : tree.SameShape other)
    (location : Location) :
    tree.below location = other.below location :=
  Tree.below_eq fun way => hShape.isSome_eq (location ++ way)

theorem mem_namesIn_iff
    {name : Text} :
    name ∈ tree.namesIn location ↔
      (tree.entryAt (location ++ [name])).isSome := by
  have hWay :
      [name] ∈ tree.below location ↔
        (tree.entryAt (location ++ [name])).isSome := by
    rw [mem_below_iff]
    simp
  rw [← hWay]
  unfold namesIn
  rw [List.mem_filterMap]
  constructor
  · intro hExists
    rcases hExists with ⟨way, hMem, hName⟩
    split at hName
    · rw [Option.some.injEq] at hName
      rw [← hName]
      exact hMem
    · contradiction
  · intro hMem
    exact ⟨[name], hMem, rfl⟩

/- The names of a directory are different. -/
theorem nodup_namesIn
    (tree : Tree)
    (location : Location) :
    (tree.namesIn location).Nodup := by
  refine List.Nodup.filterMap ?_ (nodup_below tree location)
  intro way another name hWay hAnother
  split at hWay
  · split at hAnother
    · rw [Option.mem_some_iff] at hWay hAnother
      rw [hWay, hAnother]
    · contradiction
  · contradiction

end Tree

end SafeRerun
