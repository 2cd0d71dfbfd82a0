import SafeRerun.Proofs.Pattern.Alike
import SafeRerun.Proofs.Pattern.Reach
import SafeRerun.Proofs.Project.Around

/-
  Searches of one pattern in two projects that are alike.

  Key definitions include:
    * `SafeRerun.Twins`
    * `SafeRerun.Twins.InStep`
    * `SafeRerun.Twins.Paired`

  Key theorems include:
    * `SafeRerun.Twins.alike_literalStep`
    * `SafeRerun.Twins.alike_wildStep`
    * `SafeRerun.Twins.alike_findingsBelow`
    * `SafeRerun.Twins.alike_searchFrom`

  Two searches are in step where the same rest stands behind
  the bases of both.  A step of the pattern leads both to the
  same rests, unless a path gets too long to be followed; what
  is found from there is longer still.  So both searches come
  upon the same, but for what is far from one of the bases.
-/

------------------------------------------------------------
-- Gaps and Climbs
------------------------------------------------------------

namespace SafeRerun

/-
  An empty segment of the pattern stands where a search can
  still be at the dot.
-/
def hasGap :
    List PathSegment → Bool
  | [] => false
  | part :: rest =>
      part == .literal [] ||
        (part.takes ['.'] && hasGap rest)

/- How often the segments of a pattern can climb. -/
def climbsOf
    (parts : List PathSegment) :
    Nat :=
  parts.countP fun part => part.takes ['.', '.']

theorem climbsOf_cons
    (part : PathSegment)
    (parts : List PathSegment) :
    climbsOf (part :: parts) =
      climbsOf parts +
        if part.takes ['.', '.'] then 1 else 0 := by
  unfold climbsOf
  rw [List.countP_cons]

/- Idle segments do not climb. -/
theorem upward_pathNames
    (path : Text) :
    Tree.upward (pathNames path) =
      Tree.upward (segments path) :=
  List.count_filter rfl

end SafeRerun

------------------------------------------------------------
-- Two Projects
------------------------------------------------------------

namespace SafeRerun

/-
  Two projects that are alike around their bases, so far
  upwards as a pattern climbs, and how much longer than the
  bases and the rests its paths can be.
-/
structure Twins where
  tree : Tree
  base : Text
  location : Location
  other : Tree
  otherBase : Text
  otherLocation : Location
  slack : Nat
  climbs : Nat
  leads : LeadsToDirectory tree base location
  otherLeads : LeadsToDirectory other otherBase otherLocation
  same :
    tree.SameAround other climbs location otherLocation

namespace Twins

variable {twins : Twins}
variable {path otherPath rest name : Text}
variable {used climbs : Nat}

/- There is room for the rest behind both bases. -/
def Fits
    (twins : Twins)
    (rest : Text) : Prop :=
  twins.base.octets + twins.slack + rest.octets ≤ pathLimit ∧
    twins.otherBase.octets + twins.slack + rest.octets ≤
      pathLimit

theorem Fits.mono
    {less : Text}
    (hFits : twins.Fits rest)
    (hLess : less.octets ≤ rest.octets) :
    twins.Fits less := by
  unfold Fits at hFits ⊢
  omega

/- The same rest stands behind both bases, and it fits. -/
structure Abreast
    (twins : Twins)
    (used : Nat)
    (path otherPath rest : Text) : Prop where
  stands : Stands twins.base used path rest
  otherStands : Stands twins.otherBase used otherPath rest
  spare : used ≤ twins.slack
  fits : twins.Fits rest

/- Paths that are abreast lead alike. -/
theorem Abreast.leadAlike
    (hAbreast : twins.Abreast used path otherPath rest)
    (hClimbs :
      Tree.upward (pathNames rest) + climbs ≤ twins.climbs) :
    twins.tree.LeadAlike twins.other climbs
      (twins.tree.resolve path)
      (twins.other.resolve otherPath) := by
  have hShort := hAbreast.stands.short
  have hOtherShort := hAbreast.otherStands.short
  have hSpare := hAbreast.spare
  have hFits := hAbreast.fits
  unfold Fits at hFits
  rw [hAbreast.stands.resolve_eq twins.leads (by omega),
    hAbreast.otherStands.resolve_eq twins.otherLeads
      (by omega)]
  cases holdsNull rest with
  | true =>
      exact .fault .nullInPath
  | false =>
      rw [if_neg (by simp), if_neg (by simp)]
      apply Tree.SameAround.followAll
      apply twins.same.mono
      rw [← upward_pathNames]
      omega

theorem Abreast.stepInto
    (hAbreast : twins.Abreast used path otherPath rest)
    (hSlash : '/' ∉ name)
    (hSome : isHere path = true → name ≠ [])
    (hOtherSome : isHere otherPath = true → name ≠ [])
    (hSpare : used + slackFor rest ≤ twins.slack)
    (hFits : twins.Fits (restAfter rest name)) :
    twins.Abreast (used + slackFor rest)
      (stepInto path name) (stepInto otherPath name)
      (restAfter rest name) :=
  ⟨hAbreast.stands.stepInto hSlash hSome,
    hAbreast.otherStands.stepInto hSlash hOtherSome, hSpare,
    hFits⟩

theorem Abreast.joinPath
    (hAbreast : twins.Abreast used path otherPath rest)
    (hSlash : '/' ∉ name)
    (hSpare : used + slackFor rest ≤ twins.slack)
    (hFits : twins.Fits (restAfter rest name)) :
    twins.Abreast (used + slackFor rest)
      (joinPath path name) (joinPath otherPath name)
      (restAfter rest name) :=
  ⟨hAbreast.stands.joinPath hSlash,
    hAbreast.otherStands.joinPath hSlash, hSpare, hFits⟩

theorem Abreast.pathAlong
    {way : Location}
    (hAbreast : twins.Abreast used path otherPath rest)
    (hWay : IsWay way)
    (hSpare : used + slackFor rest ≤ twins.slack)
    (hFits : twins.Fits (restAlong rest way)) :
    twins.Abreast (used + slackFor rest)
      (pathAlong path way) (pathAlong otherPath way)
      (restAlong rest way) :=
  ⟨hAbreast.stands.pathAlong hWay,
    hAbreast.otherStands.pathAlong hWay, hSpare, hFits⟩

end Twins

end SafeRerun

------------------------------------------------------------
-- In Step
------------------------------------------------------------

namespace SafeRerun

/- What a segment may add to the rest climbs if it climbs. -/
theorem upward_restAfter
    {rest name : Text}
    (hSlash : '/' ∉ name) :
    Tree.upward (pathNames (restAfter rest name)) =
      Tree.upward (pathNames rest) +
        if name = ['.', '.'] then 1 else 0 := by
  rw [pathNames_restAfter hSlash, pathNames_of_not_mem hSlash]
  unfold Tree.upward
  rw [List.count_append]
  by_cases hIdle : isIdle name = true
  · have hOther : name ≠ ['.', '.'] := by
      rintro rfl
      contradiction
    simp [hIdle, hOther]
  · rw [if_neg hIdle, List.count_singleton]
    simp

/- A way down does not climb. -/
theorem upward_restAlong
    {rest : Text}
    {way : Location}
    (hWay : IsWay way) :
    Tree.upward (pathNames (restAlong rest way)) =
      Tree.upward (pathNames rest) := by
  rw [pathNames_restAlong fun name hMem => (hWay name hMem).1]
  unfold Tree.upward
  rw [List.count_append, Nat.add_eq_left,
    List.count_eq_zero]
  intro hMem
  exact (hWay _ (List.mem_filter.mp hMem).1).2.2 rfl

namespace Twins

variable {twins : Twins}
variable {path otherPath rest name : Text}
variable {used : Nat}
variable {part : PathSegment}
variable {parts : List PathSegment}

/-
  Two searches that have the same segments in front of them
  are abreast, and what the segments can add is accounted
  for.
-/
structure InStep
    (twins : Twins)
    (parts : List PathSegment)
    (used : Nat)
    (path otherPath rest : Text) : Prop where
  abreast : twins.Abreast used path otherPath rest
  room : used + 2 * parts.length ≤ twins.slack
  climbing :
    Tree.upward (pathNames rest) + climbsOf parts ≤
      twins.climbs
  gapless : isHere path = true → hasGap parts = false
  otherGapless :
    isHere otherPath = true → hasGap parts = false

theorem InStep.leadAlike
    (hStep : twins.InStep parts used path otherPath rest) :
    twins.tree.LeadAlike twins.other (climbsOf parts)
      (twins.tree.resolve path)
      (twins.other.resolve otherPath) :=
  hStep.abreast.leadAlike hStep.climbing

/- One segment gives room for one more name. -/
theorem InStep.spare
    (hStep :
      twins.InStep (part :: parts) used path otherPath rest) :
    used + slackFor rest + 2 * parts.length ≤
      twins.slack := by
  have hRoom := hStep.room
  have hLess := slackFor_le rest
  rw [List.length_cons] at hRoom
  omega

/- The name climbs only if the segment does. -/
theorem InStep.climbing_restAfter
    (hStep :
      twins.InStep (part :: parts) used path otherPath rest)
    (hSlash : '/' ∉ name)
    (hTakes :
      name = ['.'] ∨ name = ['.', '.'] →
        part.takes name = true) :
    Tree.upward (pathNames (restAfter rest name)) +
        climbsOf parts ≤
      twins.climbs := by
  have hClimbing := hStep.climbing
  rw [climbsOf_cons] at hClimbing
  rw [upward_restAfter hSlash]
  by_cases hParent : name = ['.', '.']
  · have hClimbs := hTakes (Or.inr hParent)
    rw [hParent] at hClimbs
    rw [if_pos hClimbs] at hClimbing
    rw [if_pos hParent]
    omega
  · rw [if_neg hParent]
    omega

theorem hasGap_of_takes
    (hGapless : hasGap (part :: parts) = false)
    (hTakes : part.takes ['.'] = true) :
    hasGap parts = false := by
  rw [hasGap, hTakes, Bool.true_and,
    Bool.or_eq_false_iff] at hGapless
  exact hGapless.2

/- One more name behind both paths. -/
theorem InStep.stepInto
    (hStep :
      twins.InStep (part :: parts) used path otherPath rest)
    (hSlash : '/' ∉ name)
    (hSome : isHere path = true → name ≠ [])
    (hOtherSome : isHere otherPath = true → name ≠ [])
    (hTakes :
      name = ['.'] ∨ name = ['.', '.'] →
        part.takes name = true)
    (hFits : twins.Fits (restAfter rest name)) :
    twins.InStep parts (used + slackFor rest)
      (stepInto path name) (stepInto otherPath name)
      (restAfter rest name) := by
  have hSpare := hStep.spare
  refine ⟨hStep.abreast.stepInto hSlash hSome hOtherSome
    (by omega) hFits, hSpare,
    hStep.climbing_restAfter hSlash hTakes, ?_, ?_⟩
  · rw [isHere_stepInto hStep.abreast.stands.nonempty hSlash,
      Bool.and_eq_true, beq_iff_eq]
    rintro ⟨hHere, rfl⟩
    exact hasGap_of_takes (hStep.gapless hHere)
      (hTakes (Or.inl rfl))
  · rw [isHere_stepInto hStep.abreast.otherStands.nonempty
      hSlash, Bool.and_eq_true, beq_iff_eq]
    rintro ⟨hHere, rfl⟩
    exact hasGap_of_takes (hStep.otherGapless hHere)
      (hTakes (Or.inl rfl))

/- A dot directory behind both paths. -/
theorem InStep.joinPath
    (hStep :
      twins.InStep (part :: parts) used path otherPath rest)
    (hDot : name = ['.', '.'] ∨ name = ['.'])
    (hTakes : part.takes name = true)
    (hFits : twins.Fits (restAfter rest name)) :
    twins.InStep parts (used + slackFor rest)
      (joinPath path name) (joinPath otherPath name)
      (restAfter rest name) := by
  have hSpare := hStep.spare
  have hSlash : '/' ∉ name := by
    rcases hDot with rfl | rfl <;> decide
  have hIdle : isIdle name = true → name = ['.'] := by
    rintro hIdle
    rcases hDot with rfl | rfl
    · contradiction
    · rfl
  refine ⟨hStep.abreast.joinPath hSlash (by omega) hFits,
    hSpare, hStep.climbing_restAfter hSlash fun _ => hTakes,
    fun hHere => ?_, fun hHere => ?_⟩
  · rcases isHere_of_isHere_joinPath
        hStep.abreast.stands.nonempty hSlash hHere with
      ⟨hThere, hStays⟩
    exact hasGap_of_takes (hStep.gapless hThere)
      (hIdle hStays ▸ hTakes)
  · rcases isHere_of_isHere_joinPath
        hStep.abreast.otherStands.nonempty hSlash hHere with
      ⟨hThere, hStays⟩
    exact hasGap_of_takes (hStep.otherGapless hThere)
      (hIdle hStays ▸ hTakes)

/- A way down behind both paths. -/
theorem InStep.pathAlong
    {way : Location}
    {later : List PathSegment}
    (hStep : twins.InStep parts used path otherPath rest)
    (hLater : later.length + 1 ≤ parts.length)
    (hClimbs : climbsOf later ≤ climbsOf parts)
    (hSome : way ≠ [])
    (hWay : IsWay way)
    (hFits : twins.Fits (restAlong rest way)) :
    twins.InStep later (used + slackFor rest)
      (pathAlong path way) (pathAlong otherPath way)
      (restAlong rest way) := by
  have hRoom := hStep.room
  have hClimbing := hStep.climbing
  have hLess := slackFor_le rest
  have hAbreast :=
    hStep.abreast.pathAlong hWay (by omega) hFits
  have hRest : restAlong rest way ≠ [] :=
    restAlong_ne_nil hSome hWay
  refine ⟨hAbreast, by omega, ?_, fun hHere => ?_,
    fun hHere => ?_⟩
  · rw [upward_restAlong hWay]
    omega
  · exact absurd (hAbreast.stands.isHere_iff.mp hHere).2.2
      hRest
  · exact absurd
      (hAbreast.otherStands.isHere_iff.mp hHere).2.2 hRest

end Twins

end SafeRerun

------------------------------------------------------------
-- Steps of Two Searches
------------------------------------------------------------

namespace SafeRerun

namespace Twins

variable {twins : Twins}
variable {base path otherPath name : Text}
variable {reached other found : Reached}
variable {parts later : List PathSegment}

/- Both searches have reached the same, in step. -/
def Paired
    (twins : Twins)
    (parts : List PathSegment)
    (reached other : Reached) : Prop :=
  reached.isDirectory = other.isDirectory ∧
    ∃ used rest,
      twins.InStep parts used reached.path other.path rest

/- What has been reached does not fit behind both bases. -/
def IsFar
    (twins : Twins)
    (base : Text)
    (reached : Reached) : Prop :=
  ∃ used rest,
    Stands base used reached.path rest ∧ ¬twins.Fits rest

theorem isFar_of_stands
    {used : Nat}
    {rest : Text}
    (hPath : found.path = path)
    (hStands : Stands base used path rest)
    (hFits : ¬twins.Fits rest) :
    twins.IsFar base found := by
  rw [← hPath] at hStands
  exact ⟨used, rest, hStands, hFits⟩

/- Findings of both searches, with these segments to come. -/
abbrev Meet
    (twins : Twins)
    (parts : List PathSegment) :
    List (Finding Reached) → List (Finding Reached) → Prop :=
  Alike (twins.Paired parts) (twins.IsFar twins.base)
    (twins.IsFar twins.otherBase)

theorem meet_lookAt
    {used : Nat}
    {rest : Text}
    (hStep : twins.InStep parts used path otherPath rest) :
    twins.Meet parts [.ok (twins.tree.lookAt path)]
      [.ok (twins.other.lookAt otherPath)] :=
  .pair ⟨hStep.leadAlike.isDirectory_eq, used, rest, hStep⟩
    .nil

/- A literal segment leads both searches to the same. -/
theorem alike_literalStep
    (hSlash : '/' ∉ name)
    (hPaired :
      twins.Paired (.literal name :: parts) reached other) :
    twins.Meet parts (literalStep twins.tree name reached)
      (literalStep twins.other name other) := by
  rcases hPaired with ⟨hKind, used, rest, hStep⟩
  have hGap : hasGap (.literal [] :: parts) = true := rfl
  have hSome : isHere reached.path = true → name ≠ [] := by
    rintro hHere rfl
    rw [hStep.gapless hHere] at hGap
    contradiction
  have hOtherSome : isHere other.path = true → name ≠ [] := by
    rintro hHere rfl
    rw [hStep.otherGapless hHere] at hGap
    contradiction
  by_cases hFits : twins.Fits (restAfter rest name)
  · have hTakes :
        name = ['.'] ∨ name = ['.', '.'] →
          (PathSegment.literal name).takes name = true :=
      fun _ => beq_self_eq_true name
    have hNext :=
      hStep.stepInto hSlash hSome hOtherSome hTakes hFits
    have hLook := meet_lookAt hNext
    unfold literalStep
    dsimp only
    rw [hKind, hNext.leadAlike.pathExists_eq]
    split
    · split
      · exact hLook
      · exact .nil
    · split
      · exact hLook
      · exact .nil
  · apply Alike.of_far
    · intro a hMem
      exact isFar_of_stands (mem_literalStep hMem)
        (hStep.abreast.stands.stepInto hSlash hSome) hFits
    · intro b hMem
      exact isFar_of_stands (mem_literalStep hMem)
        (hStep.abreast.otherStands.stepInto hSlash hOtherSome)
        hFits

/- A dot directory leads both searches to the same. -/
theorem alike_dotStep
    {used : Nat}
    {rest dot : Text}
    {part : PathSegment}
    (hStep :
      twins.InStep (part :: parts) used path otherPath rest)
    (hDot : dot = ['.', '.'] ∨ dot = ['.'])
    (hTakes : part.takes dot = true) :
    twins.Meet parts
      [.ok (twins.tree.lookAt (joinPath path dot))]
      [.ok (twins.other.lookAt (joinPath otherPath dot))] := by
  have hSlash : '/' ∉ dot := by
    rcases hDot with rfl | rfl <;> decide
  by_cases hFits : twins.Fits (restAfter rest dot)
  · exact meet_lookAt (hStep.joinPath hDot hTakes hFits)
  · exact .far
      (isFar_of_stands rfl
        (hStep.abreast.stands.joinPath hSlash) hFits)
      (.otherFar
        (isFar_of_stands rfl
          (hStep.abreast.otherStands.joinPath hSlash) hFits)
        .nil)

/- The name of an entry leads both searches to the same. -/
theorem alike_nameStep
    {used : Nat}
    {rest : Text}
    {part : PathSegment}
    {location otherLocation : Location}
    (hStep :
      twins.InStep (part :: parts) used path otherPath rest)
    (hSame :
      twins.tree.SameBelow twins.other location otherLocation)
    (hWay : IsWay [name]) :
    twins.Meet parts
      [.ok (twins.tree.seenAlong path location [name])]
      [.ok
        (twins.other.seenAlong otherPath otherLocation
          [name])] := by
  rcases hWay name (by simp) with ⟨hSlash, hPlain, hOther⟩
  have hSome : name ≠ [] := by
    rintro rfl
    contradiction
  have hTakes :
      name = ['.'] ∨ name = ['.', '.'] →
        part.takes name = true := by
    rintro (rfl | rfl)
    · contradiction
    · contradiction
  by_cases hFits : twins.Fits (restAfter rest name)
  · exact .pair
      ⟨hSame.holdsDirectory_eq [name], _, _,
        hStep.stepInto hSlash (fun _ => hSome)
          (fun _ => hSome) hTakes hFits⟩ .nil
  · exact .far
      (isFar_of_stands rfl
        (hStep.abreast.stands.stepInto hSlash fun _ => hSome)
        hFits)
      (.otherFar
        (isFar_of_stands rfl
          (hStep.abreast.otherStands.stepInto hSlash
            fun _ => hSome) hFits) .nil)

/- A wildcard leads both searches to the same. -/
theorem alike_wildStep
    {items : List Wild}
    (hPaired :
      twins.Paired (.wild items :: parts) reached other) :
    twins.Meet parts (wildStep twins.tree items reached)
      (wildStep twins.other items other) := by
  rcases hPaired with ⟨hKind, used, rest, hStep⟩
  have hLead := hStep.leadAlike
  unfold wildStep
  rw [hKind]
  split
  · generalize twins.tree.resolve reached.path = led at hLead ⊢
    generalize twins.other.resolve other.path = otherLed
      at hLead ⊢
    cases hLead with
    | fault cause =>
        exact .fault (.otherFault .nil)
    | arrive hSame =>
        dsimp only
        rw [dotSteps_eq, dotSteps_eq, List.map_map,
          List.map_map, hSame.below.namesIn_eq]
        apply Alike.append
        · apply Alike.map
          intro dot hMem
          rw [List.mem_filter] at hMem
          exact alike_dotStep hStep (by simpa using hMem.1)
            hMem.2
        · apply Alike.map
          intro name hMem
          exact alike_nameStep hStep hSame.below
            (isWay_of_mem_namesIn (List.mem_filter.mp hMem).1)
  · exact .nil

/- At the end of a way both searches come upon the same. -/
theorem alike_findingsAlong
    {wanted : Text → Bool → Bool}
    {location otherLocation way : Location}
    {used : Nat}
    {rest : Text}
    (hStep : twins.InStep parts used path otherPath rest)
    (hLater : later.length + 1 ≤ parts.length)
    (hClimbs : climbsOf later ≤ climbsOf parts)
    (hSame :
      twins.tree.SameBelow twins.other location otherLocation)
    (hSome : way ≠ [])
    (hWay : IsWay way) :
    twins.Meet later
      (findingsAlong twins.tree wanted path location way)
      (findingsAlong twins.other wanted otherPath otherLocation
        way) := by
  by_cases hFits : twins.Fits (restAlong rest way)
  · have hNext :=
      hStep.pathAlong hLater hClimbs hSome hWay hFits
    have hUpper : IsWay way.dropLast := fun name hMem =>
      hWay name ((List.dropLast_sublist way).subset hMem)
    have hAbove :=
      hStep.abreast.pathAlong hUpper hNext.abreast.spare
        (hFits.mono (octets_dropLast_le hSome hWay))
    have hLead : twins.tree.LeadAlike twins.other 0 _ _ :=
      hAbove.leadAlike (by
        have hClimbing := hStep.climbing
        rw [upward_restAlong hUpper]
        omega)
    have hKind := hSame.holdsDirectory_eq way
    unfold findingsAlong
    generalize twins.tree.resolve
      (SafeRerun.pathAlong path way.dropLast) = led at hLead ⊢
    generalize twins.other.resolve
      (SafeRerun.pathAlong otherPath way.dropLast) = otherLed
        at hLead ⊢
    cases hLead with
    | fault cause =>
        exact .nil
    | arrive _ =>
        dsimp only [Tree.seenAlong]
        rw [hKind]
        apply Alike.append
        · split
          · exact .pair ⟨rfl, _, _, hNext⟩ .nil
          · exact .nil
        · exact Alike.of_far (by simp) (by simp)
  · apply Alike.of_far
    · intro a hMem
      exact isFar_of_stands (mem_findingsAlong hMem)
        (hStep.abreast.stands.pathAlong hWay) hFits
    · intro b hMem
      exact isFar_of_stands (mem_findingsAlong hMem)
        (hStep.abreast.otherStands.pathAlong hWay) hFits

/- Anywhere below, both searches come upon the same. -/
theorem alike_findingsBelow
    {wanted : Text → Bool → Bool}
    (hPaired : twins.Paired parts reached other)
    (hLater : later.length + 1 ≤ parts.length)
    (hClimbs : climbsOf later ≤ climbsOf parts) :
    twins.Meet later
      (findingsBelow twins.tree wanted reached)
      (findingsBelow twins.other wanted other) := by
  rcases hPaired with ⟨hKind, used, rest, hStep⟩
  have hLead := hStep.leadAlike
  unfold findingsBelow
  rw [hKind]
  split
  · generalize twins.tree.resolve reached.path = led at hLead ⊢
    generalize twins.other.resolve other.path = otherLed
      at hLead ⊢
    cases hLead with
    | fault cause =>
        exact .fault (.otherFault .nil)
    | arrive hSame =>
        dsimp only
        rw [hSame.below.below_eq]
        apply Alike.flatMap
        intro way hMem
        exact alike_findingsAlong hStep hLater hClimbs
          hSame.below (Tree.mem_below_iff.mp hMem).1
          (isWay_of_mem_below hMem)
  · exact .nil

end Twins

end SafeRerun

------------------------------------------------------------
-- Two Searches
------------------------------------------------------------

namespace SafeRerun

namespace Twins

variable {twins : Twins}
variable {reached other found : Reached}
variable {parts : List PathSegment}

/- From what is far a search gets no nearer. -/
theorem isFar_of_mem_searchFrom
    {tree : Tree}
    {base : Text}
    (hSplit : IsSplit parts)
    (hFar : twins.IsFar base reached)
    (hFound : .ok found ∈ searchFrom tree parts reached) :
    twins.IsFar base found := by
  rcases hFar with ⟨used, rest, hStands, hLong⟩
  rcases exists_stands_of_mem_searchFrom hSplit hStands hFound
    with ⟨further, more, hThere, hLonger, -⟩
  exact ⟨further, more, hThere,
    fun hFits => hLong (hFits.mono hLonger)⟩

/- The searches of a pattern from positions that are in step. -/
theorem alike_searchFrom
    (hSplit : IsSplit parts)
    (hPaired : twins.Paired parts reached other) :
    twins.Meet [] (searchFrom twins.tree parts reached)
      (searchFrom twins.other parts other) := by
  induction parts using searchFrom_induction
      generalizing reached other with
  | nil =>
      rw [searchFrom, searchFrom]
      exact .pair hPaired .nil
  | literal name rest ih =>
      have hRest := hSplit.tail
      rw [searchFrom, searchFrom]
      exact (alike_literalStep (hSplit name (by simp))
        hPaired).goOn (fun a b => ih hRest)
          (fun a c => isFar_of_mem_searchFrom hRest)
          (fun b c => isFar_of_mem_searchFrom hRest)
  | wild items rest ih =>
      have hRest := hSplit.tail
      rw [searchFrom, searchFrom]
      exact (alike_wildStep hPaired).goOn (fun a b => ih hRest)
        (fun a c => isFar_of_mem_searchFrom hRest)
        (fun b c => isFar_of_mem_searchFrom hRest)
  | depthLast =>
      rw [searchFrom, searchFrom]
      exact alike_findingsBelow hPaired (Nat.le_refl _)
        (Nat.zero_le _)
  | depthTwice rest ih =>
      rw [searchFrom, searchFrom]
      rcases hPaired with ⟨hKind, used, more, hStep⟩
      refine ih hSplit.tail
        ⟨hKind, used, more, hStep.abreast, ?_, ?_,
          fun _ => rfl, fun _ => rfl⟩
      · have hRoom := hStep.room
        simp only [List.length_cons] at hRoom ⊢
        omega
      · have hClimbing := hStep.climbing
        rw [climbsOf_cons] at hClimbing
        omega
  | depth part rest hPart ih =>
      have hRest := hSplit.tail.tail
      rw [searchFrom, searchFrom]
      · refine (alike_findingsBelow hPaired ?_ ?_).goOn
          (fun a b => ih hRest)
          (fun a c => isFar_of_mem_searchFrom hRest)
          (fun b c => isFar_of_mem_searchFrom hRest)
        · simp only [List.length_cons]
          omega
        · rw [climbsOf_cons, climbsOf_cons]
          omega
      · exact hPart
      · exact hPart

end Twins

end SafeRerun
