import SafeRerun.Proofs.Pattern.Escape
import SafeRerun.Proofs.Project.Position
import SafeRerun.Proofs.Project.Search

/-
  The paths that a search can reach.

  Key definitions include:
    * `SafeRerun.PathSegment.takes`
    * `SafeRerun.IsSplit`
    * `SafeRerun.IsOrderly`

  Key theorems include:
    * `SafeRerun.of_mem_searchFrom`
    * `SafeRerun.exists_stands_of_mem_searchFrom`

  Each step of a search puts one name behind the path that it
  has reached, or several on a way down.  So what is kept by
  one more name is kept along the search, such as that the
  names of the base stand in front.
-/

------------------------------------------------------------
-- Segments That Take a Dot
------------------------------------------------------------

namespace SafeRerun

/- The segment leads to a dot directory. -/
def PathSegment.takes
    (dot : Text) :
    PathSegment → Bool
  | .literal name => name == dot
  | .wild items =>
      items.head? == some (.exactly '.') &&
        SafeRerun.matchesName items dot
  | .anyDepth => false

theorem dotSteps_eq
    (items : List Wild)
    (path : Text) :
    dotSteps items path =
      ([['.', '.'], ['.']].filter fun dot =>
        (PathSegment.wild items).takes dot).map
          (joinPath path) := by
  unfold dotSteps PathSegment.takes
  by_cases hFirst : items.head? = some (.exactly '.')
  · simp [hFirst]
  · simp [hFirst]

theorem mem_dotSteps_iff
    {items : List Wild}
    {path found : Text} :
    found ∈ dotSteps items path ↔
      ∃ dot,
        (dot = ['.', '.'] ∨ dot = ['.']) ∧
          (PathSegment.wild items).takes dot = true ∧
            joinPath path dot = found := by
  rw [dotSteps_eq]
  simp [and_assoc]

end SafeRerun

------------------------------------------------------------
-- Going On
------------------------------------------------------------

namespace SafeRerun

variable {tree : Tree}
variable {reached found : Reached}

theorem mem_goOn_iff
    {α : Type}
    {next : Reached → List (Finding α)}
    {first : List (Finding Reached)}
    {last : α} :
    .ok last ∈ goOn next first ↔
      ∃ middle, .ok middle ∈ first ∧ .ok last ∈ next middle := by
  unfold goOn
  rw [List.mem_flatMap]
  constructor
  · rintro ⟨finding, hMem, hLast⟩
    cases finding with
    | error fault =>
        simp at hLast
    | ok middle =>
        exact ⟨middle, hMem, hLast⟩
  · rintro ⟨middle, hMem, hLast⟩
    exact ⟨.ok middle, hMem, hLast⟩

/- At the dot an empty segment leads nowhere. -/
theorem literalStep_of_isHere
    (hHere : isHere reached.path = true) :
    literalStep tree [] reached = [] := by
  have hNext : stepInto reached.path [] = [] := by
    unfold stepInto
    rw [if_pos hHere]
  have hNone : tree.pathExists [] = false := rfl
  unfold literalStep
  dsimp only
  rw [hNext, hNone]
  rfl

theorem mem_literalStep
    {name : Text}
    (hFound : .ok found ∈ literalStep tree name reached) :
    found.path = stepInto reached.path name := by
  unfold literalStep at hFound
  dsimp only at hFound
  split at hFound
  · split at hFound
    · rw [List.mem_singleton, Except.ok.injEq] at hFound
      rw [hFound]
      rfl
    · contradiction
  · split at hFound
    · rw [List.mem_singleton, Except.ok.injEq] at hFound
      rw [hFound]
      rfl
    · contradiction

theorem mem_wildStep
    {items : List Wild}
    (hFound : .ok found ∈ wildStep tree items reached) :
    found.path ∈ dotSteps items reached.path ∨
      ∃ location name,
        name ∈ tree.namesIn location ∧
          found.path = stepInto reached.path name := by
  unfold wildStep at hFound
  split at hFound
  · split at hFound
    · simp at hFound
    · rename_i location hResolve
      rcases List.mem_append.mp hFound with hDot | hName
      · rcases List.mem_map.mp hDot with ⟨path, hMem, hPath⟩
        rw [Except.ok.injEq] at hPath
        rw [← hPath]
        exact Or.inl hMem
      · rcases List.mem_map.mp hName with ⟨name, hMem, hPath⟩
        rw [Except.ok.injEq] at hPath
        rw [← hPath]
        exact Or.inr ⟨location, name,
          (List.mem_filter.mp hMem).1, rfl⟩
  · contradiction

theorem mem_findingsAlong
    {wanted : Text → Bool → Bool}
    {path : Text}
    {location way : Location}
    (hFound :
      .ok found ∈ findingsAlong tree wanted path location way) :
    found.path = pathAlong path way := by
  unfold findingsAlong at hFound
  dsimp only at hFound
  split at hFound
  · contradiction
  · rcases List.mem_append.mp hFound with hSeen | hFault
    · split at hSeen
      · rw [List.mem_singleton, Except.ok.injEq] at hSeen
        rw [hSeen]
        rfl
      · contradiction
    · simp at hFault

theorem mem_findingsBelow
    {wanted : Text → Bool → Bool}
    (hFound : .ok found ∈ findingsBelow tree wanted reached) :
    ∃ location way,
      way ∈ tree.below location ∧
        found.path = pathAlong reached.path way := by
  unfold findingsBelow at hFound
  split at hFound
  · split at hFound
    · simp at hFound
    · rename_i location hResolve
      rcases List.mem_flatMap.mp hFound with
        ⟨way, hWay, hEntry⟩
      exact ⟨location, way, hWay, mem_findingsAlong hEntry⟩
  · contradiction

end SafeRerun

------------------------------------------------------------
-- What a Search Keeps
------------------------------------------------------------

namespace SafeRerun

variable {tree : Tree}
variable {reached found : Reached}
variable {part : PathSegment}
variable {parts : List PathSegment}

/- No slash stands in a literal segment. -/
def IsSplit
    (parts : List PathSegment) : Prop :=
  ∀ name, .literal name ∈ parts → '/' ∉ name

theorem IsSplit.tail
    (hSplit : IsSplit (part :: parts)) :
    IsSplit parts :=
  fun name hMem => hSplit name (List.mem_cons_of_mem _ hMem)

/- The names of entries lead down. -/
theorem isWay_of_mem_below
    {location way : Location}
    (hMem : way ∈ tree.below location) :
    IsWay way := by
  rcases Option.isSome_iff_exists.mp
      (Tree.mem_below_iff.mp hMem).2 with ⟨entry, hEntry⟩
  have hNames := Tree.all_isName_of_entryAt hEntry
  intro name hName
  have hIs : isName name = true :=
    List.all_eq_true.mp hNames name
      (List.mem_append_right _ hName)
  rcases isName_iff.mp hIs with ⟨hPlain, hOther, -, hChars⟩
  exact ⟨fun hSlash => (hChars '/' hSlash).1 rfl, hPlain,
    hOther⟩

theorem isWay_of_mem_namesIn
    {location : Location}
    {name : Text}
    (hMem : name ∈ tree.namesIn location) :
    IsWay [name] := by
  have hBelow : [name] ∈ tree.below location :=
    Tree.mem_below_iff.mpr
      ⟨by simp, Tree.mem_namesIn_iff.mp hMem⟩
  exact isWay_of_mem_below hBelow

/- What one more name keeps is kept along a way down. -/
theorem of_pathAlong
    {p : Text → Prop}
    {path : Text}
    {way : Location}
    (hStep :
      ∀ path name,
        p path →
          '/' ∉ name →
            (isHere path = true → name ≠ []) →
              p (stepInto path name))
    (hWay : IsWay way)
    (hPath : p path) :
    p (pathAlong path way) := by
  induction way generalizing path with
  | nil =>
      exact hPath
  | cons name rest ih =>
      rcases hWay name (by simp) with ⟨hPlain, hLeads, -⟩
      refine ih (fun other hMem => hWay other (by simp [hMem]))
        (hStep path name hPath hPlain ?_)
      rintro - rfl
      contradiction

/-
  What one more name keeps is kept along a search.  A dot
  directory is put behind a path that is still at the dot,
  where a name would take its place.
-/
theorem of_mem_searchFrom
    {p : Text → Prop}
    (hStep :
      ∀ path name,
        p path →
          '/' ∉ name →
            (isHere path = true → name ≠ []) →
              p (stepInto path name))
    (hDots :
      ∀ path dot items,
        .wild items ∈ parts →
          (PathSegment.wild items).takes dot = true →
            p path → '/' ∉ dot → p (joinPath path dot))
    (hSplit : IsSplit parts)
    (hStart : p reached.path)
    (hFound : .ok found ∈ searchFrom tree parts reached) :
    p found.path := by
  induction parts using searchFrom_induction
      generalizing reached with
  | nil =>
      rw [searchFrom, List.mem_singleton,
        Except.ok.injEq] at hFound
      rw [hFound]
      exact hStart
  | literal name rest ih =>
      rw [searchFrom, mem_goOn_iff] at hFound
      rcases hFound with ⟨middle, hMiddle, hLast⟩
      refine ih
        (fun path dot items hMem =>
          hDots path dot items (List.mem_cons_of_mem _ hMem))
        hSplit.tail ?_ hLast
      rw [mem_literalStep hMiddle]
      apply hStep _ _ hStart (hSplit name (by simp))
      rintro hHere rfl
      rw [literalStep_of_isHere hHere] at hMiddle
      contradiction
  | wild items rest ih =>
      rw [searchFrom, mem_goOn_iff] at hFound
      rcases hFound with ⟨middle, hMiddle, hLast⟩
      refine ih
        (fun path dot others hMem =>
          hDots path dot others (List.mem_cons_of_mem _ hMem))
        hSplit.tail ?_ hLast
      rcases mem_wildStep hMiddle with
        hDot | ⟨location, name, hName, hPath⟩
      · rcases mem_dotSteps_iff.mp hDot with
          ⟨dot, hIs, hTakes, hPath⟩
        rw [← hPath]
        refine hDots _ dot items (by simp) hTakes hStart ?_
        rcases hIs with rfl | rfl <;> decide
      · rw [hPath]
        exact of_pathAlong hStep (isWay_of_mem_namesIn hName)
          hStart
  | depthLast =>
      rw [searchFrom] at hFound
      rcases mem_findingsBelow hFound with
        ⟨location, way, hWay, hPath⟩
      rw [hPath]
      exact of_pathAlong hStep (isWay_of_mem_below hWay) hStart
  | depthTwice rest ih =>
      rw [searchFrom] at hFound
      exact ih
        (fun path dot items hMem =>
          hDots path dot items (List.mem_cons_of_mem _ hMem))
        hSplit.tail hStart hFound
  | depth part rest hPart ih =>
      rw [searchFrom, mem_goOn_iff] at hFound
      · rcases hFound with ⟨middle, hMiddle, hLast⟩
        refine ih
          (fun path dot items hMem =>
            hDots path dot items (by simp [hMem]))
          hSplit.tail.tail ?_ hLast
        rcases mem_findingsBelow hMiddle with
          ⟨location, way, hWay, hPath⟩
        rw [hPath]
        exact of_pathAlong hStep (isWay_of_mem_below hWay)
          hStart
      · exact hPart

end SafeRerun

------------------------------------------------------------
-- Positions of a Search
------------------------------------------------------------

namespace SafeRerun

variable {tree : Tree}
variable {base rest : Text}
variable {slack : Nat}
variable {reached found : Reached}
variable {parts : List PathSegment}

/-
  No path below the base begins with a dot: the base has a
  name or is absolute, or no wildcard leads to a dot
  directory.
-/
def IsOrderly
    (base : Text)
    (parts : List PathSegment) : Prop :=
  IsAbsolute base ∨ pathNames base ≠ [] ∨
    ∀ items,
      .wild items ∈ parts →
        ∀ dot, (PathSegment.wild items).takes dot = false

/- A search from a position leads to positions further on. -/
theorem exists_stands_of_mem_searchFrom
    (hSplit : IsSplit parts)
    (hStands : Stands base slack reached.path rest)
    (hFound : .ok found ∈ searchFrom tree parts reached) :
    ∃ further more,
      Stands base further found.path more ∧
        rest.octets ≤ more.octets ∧
          (IsOrderly base parts →
            IsUndotted reached.path →
              IsUndotted found.path) := by
  refine of_mem_searchFrom
    (p := fun path =>
      ∃ further more,
        Stands base further path more ∧
          rest.octets ≤ more.octets ∧
            (IsOrderly base parts →
              IsUndotted reached.path → IsUndotted path))
    ?_ ?_ hSplit
    ⟨slack, rest, hStands, Nat.le_refl _, fun _ hStart => hStart⟩
    hFound
  · rintro path name ⟨further, more, hHere, hLonger, hNot⟩
      hName hSome
    exact ⟨_, _, hHere.stepInto hName hSome,
      hLonger.trans (octets_le_restAfter hName),
      fun hOrderly hStart =>
        (hNot hOrderly hStart).stepInto hHere.nonempty hName⟩
  · rintro path dot items hMem hTakes
      ⟨further, more, hHere, hLonger, hNot⟩ hName
    refine ⟨_, _, hHere.joinPath hName,
      hLonger.trans (octets_le_restAfter hName), ?_⟩
    intro hOrderly hStart
    apply (hNot hOrderly hStart).joinPath hHere.nonempty hName
    -- Where a wildcard takes a dot, the base says where it is.
    rw [← Bool.not_eq_true, hHere.isHere_iff]
    rintro ⟨hBase, hNames, -⟩
    rcases hOrderly with hRoot | hSome | hNever
    · exact hBase hRoot
    · exact hSome hNames
    · rw [hNever items hMem dot] at hTakes
      contradiction

end SafeRerun
