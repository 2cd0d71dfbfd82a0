import Mathlib.Data.List.Induction
import SafeRerun.Proofs.Pattern.Reach

/-
  How a search arrives at its base.

  Key definitions include:
    * `SafeRerun.stalls`
    * `SafeRerun.isStalled`

  Key theorems include:
    * `SafeRerun.searchFrom_spelled`
    * `SafeRerun.searchFrom_of_stalls`
    * `SafeRerun.searchFrom_fullPattern`

  The first segments of a whole pattern spell the base, name by
  name.  So the search arrives at the directory that the base
  leads to, and goes on from there as if it began there.  The
  one exception is a base with an empty segment behind the dots
  in front of it: the search gets stuck before it.
-/

------------------------------------------------------------
-- One Spelled Name
------------------------------------------------------------

namespace SafeRerun

variable {tree : Tree}
variable {base path name : Text}
variable {location next : Location}
variable {part : PathSegment}
variable {rest : List PathSegment}

theorem LeadsToDirectory.ne_nil
    (hBase : LeadsToDirectory tree base location) :
    base ≠ [] := by
  rintro rfl
  have hFault : tree.resolve [] = .error .notFound := rfl
  have hResolved := hBase.resolved
  rw [hFault] at hResolved
  contradiction

theorem Stands.refl
    (hSome : base ≠ []) :
    Stands base 0 base [] :=
  ⟨hSome, Iff.rfl, Or.inl ⟨rfl, rfl⟩, by simp [Text.octets]⟩

/- A name that can be followed leads from a path that leads on. -/
theorem LeadsToDirectory.stepInto
    (hHere : LeadsToDirectory tree path location)
    (hSlash : '/' ∉ name)
    (hNull : holdsNull name = false)
    (hSome : isHere path = true → name ≠ [])
    (hFollow : tree.follow location name = .ok next)
    (hNext : tree.entryAt next = some .directory)
    (hFits : (stepInto path name).octets ≤ pathLimit) :
    LeadsToDirectory tree (stepInto path name) next := by
  refine ⟨?_, hNext⟩
  have hStands :=
    (Stands.refl hHere.ne_nil).stepInto hSlash hSome
  have hRest :
      restAfter [] name = if isIdle name then [] else name :=
    if_pos rfl
  rw [hStands.resolve_eq hHere hFits, hRest]
  by_cases hIdle : isIdle name = true
  · have hNone : holdsNull [] = false := rfl
    rw [if_pos hIdle, hNone, if_neg (by simp),
      Tree.eq_of_follow_idle hIdle hFollow]
    exact Tree.followAll_of_filter rfl hHere.directory
  · rw [if_neg hIdle, hNull, if_neg (by simp),
      segments_of_not_mem hSlash, Tree.followAll_singleton]
    exact hFollow

theorem LeadsToDirectory.lookAt_eq
    (hHere : LeadsToDirectory tree path location) :
    tree.lookAt path = ⟨path, true⟩ := by
  unfold Tree.lookAt Tree.isDirectory
  rw [hHere.resolved, Reached.mk.injEq]
  exact ⟨rfl, Tree.holdsDirectory_iff.mpr hHere.directory⟩

theorem goOn_singleton
    {α : Type}
    (step : Reached → List (Finding α))
    (reached : Reached) :
    goOn step [.ok reached] = step reached :=
  List.append_nil _

/- A name with wildcards in it, spelled out, finds itself. -/
theorem wildStep_literalItems
    (hWild : literalText? (name.map literalItem) = none)
    (hHere : LeadsToDirectory tree path location)
    (hFollow : tree.follow location name = .ok next)
    (hNext : tree.entryAt next = some .directory) :
    wildStep tree (name.map literalItem) ⟨path, true⟩ =
      [.ok ⟨stepInto path name, true⟩] := by
  have hDots : dotSteps (name.map literalItem) path = [] := by
    rw [List.eq_nil_iff_forall_not_mem]
    intro found hFound
    rcases mem_dotSteps_iff.mp hFound with
      ⟨dot, hDot, hTakes, -⟩
    simp only [PathSegment.takes, matchesName_literalItems,
      Bool.and_eq_true, beq_iff_eq] at hTakes
    rw [← hTakes.2] at hWild
    rcases hDot with rfl | rfl
    · contradiction
    · contradiction
  rcases Tree.follow_eq_ok_iff.mp hFollow with
    ⟨-, ⟨hIdle, -⟩ | ⟨rfl, -⟩ | ⟨-, -, -, hThere, rfl⟩⟩
  · unfold isIdle at hIdle
    rw [Bool.or_eq_true, beq_iff_eq, beq_iff_eq] at hIdle
    rcases hIdle with rfl | rfl
    · contradiction
    · contradiction
  · contradiction
  · have hNames :
        (tree.namesIn location).filter
            (matchesName (name.map literalItem)) =
          [name] := by
      have hOnce :=
        List.count_eq_one_of_mem
          (tree.nodup_namesIn location)
          (Tree.mem_namesIn_iff.mpr hThere)
      have hSame :
          matchesName (name.map literalItem) =
            fun other => other == name :=
        funext (matchesName_literalItems name)
      rw [hSame, List.filter_beq, hOnce]
      rfl
    have hKind : tree.holdsDirectory (location ++ [name]) = true :=
      Tree.holdsDirectory_iff.mpr hNext
    unfold wildStep
    simp only [if_pos, hHere.resolved, hDots, hNames]
    simp [Tree.seenAlong, pathAlong, hKind]

/- A segment that spells a name leads there alone. -/
theorem searchFrom_cons_of_spells
    (hSpells : part.Spells name)
    (hHere : LeadsToDirectory tree path location)
    (hFollow : tree.follow location name = .ok next)
    (hNext : LeadsToDirectory tree (stepInto path name) next) :
    searchFrom tree (part :: rest) ⟨path, true⟩ =
      searchFrom tree rest ⟨stepInto path name, true⟩ := by
  cases part with
  | literal text =>
      have hText : text = name := hSpells
      subst hText
      have hExists :
          tree.pathExists (SafeRerun.stepInto path text) =
            true := by
        unfold Tree.pathExists
        rw [hNext.resolved]
        rfl
      have hStep :
          literalStep tree text ⟨path, true⟩ =
            [.ok ⟨SafeRerun.stepInto path text, true⟩] := by
        unfold literalStep
        simp only [hExists, hNext.lookAt_eq, if_true, ite_self]
      rw [searchFrom, hStep, goOn_singleton]
  | wild items =>
      rcases hSpells with ⟨rfl, hWild⟩
      rw [searchFrom,
        wildStep_literalItems hWild hHere hFollow
          hNext.directory,
        goOn_singleton]
  | anyDepth =>
      exact hSpells.elim

end SafeRerun

------------------------------------------------------------
-- Several Spelled Names
------------------------------------------------------------

namespace SafeRerun

variable {tree : Tree}
variable {base path rest : Text}
variable {location next : Location}
variable {spelled : List Text}
variable {front back : List PathSegment}

/- An empty name stands behind the dots in front. -/
def stalls :
    List Text → Bool
  | [] => false
  | name :: rest =>
      name == [] || (name == ['.'] && stalls rest)

/- What is left to spell does not stall after one name. -/
theorem stalls_of_cons
    {name : Text}
    (hSome : path ≠ [])
    (hSlash : '/' ∉ name)
    (hStall :
      isHere path = true → stalls (name :: spelled) = false) :
    (isHere path = true → name ≠ []) ∧
      (isHere (stepInto path name) = true →
        stalls spelled = false) := by
  rw [isHere_stepInto hSome hSlash, Bool.and_eq_true,
    beq_iff_eq]
  constructor
  · rintro hHere rfl
    have hNot := hStall hHere
    contradiction
  · rintro ⟨hHere, rfl⟩
    exact hStall hHere

/- The position behind the names that are spelled. -/
theorem Stands.exists_pathAlong
    {slack : Nat}
    (hStands : Stands base slack path rest)
    (hUndotted : IsUndotted path)
    (hSlash : ∀ name ∈ spelled, '/' ∉ name)
    (hStall : isHere path = true → stalls spelled = false) :
    IsUndotted (SafeRerun.pathAlong path spelled) ∧
      ∃ further,
        Stands base further
          (SafeRerun.pathAlong path spelled)
          (restAlong rest spelled) := by
  induction spelled generalizing path rest slack with
  | nil =>
      exact ⟨hUndotted, slack, hStands⟩
  | cons name more ih =>
      have hName : '/' ∉ name := hSlash name (by simp)
      rcases stalls_of_cons hStands.nonempty hName hStall with
        ⟨hSome, hRest⟩
      exact ih (hStands.stepInto hName hSome)
        (hUndotted.stepInto hStands.nonempty hName)
        (fun other hMem => hSlash other (by simp [hMem])) hRest

/- A search goes along the names that its segments spell. -/
theorem searchFrom_spelled
    (hSpells :
      List.Forall₂ PathSegment.Spells spelled front)
    (hSlash : ∀ name ∈ spelled, '/' ∉ name)
    (hNull : ∀ name ∈ spelled, holdsNull name = false)
    (hHere : LeadsToDirectory tree path location)
    (hFollow : tree.followAll location spelled = .ok next)
    (hNext : tree.entryAt next = some .directory)
    (hFits :
      ∀ way more,
        spelled = way ++ more →
          (pathAlong path way).octets ≤ pathLimit)
    (hStall : isHere path = true → stalls spelled = false) :
    searchFrom tree (front ++ back) ⟨path, true⟩ =
      searchFrom tree back ⟨pathAlong path spelled, true⟩ := by
  induction hSpells generalizing path location with
  | nil =>
      rfl
  | @cons name part more parts hPart _ ih =>
      have hName : '/' ∉ name := hSlash name (by simp)
      rcases stalls_of_cons hHere.ne_nil hName hStall with
        ⟨hSome, hRest⟩
      rw [Tree.followAll] at hFollow
      cases hStep : tree.follow location name with
      | error fault =>
          simp [hStep] at hFollow
      | ok middle =>
          rw [hStep] at hFollow
          have hMiddle :=
            hHere.stepInto hName (hNull name (by simp)) hSome
              hStep (Tree.entryAt_of_followAll hFollow hNext)
              (hFits [name] more rfl)
          rw [List.cons_append,
            searchFrom_cons_of_spells hPart hHere hStep
              hMiddle]
          refine ih
            (fun other hMem => hSlash other (by simp [hMem]))
            (fun other hMem => hNull other (by simp [hMem]))
            hMiddle hFollow ?_ hRest
          intro way last hWay
          exact hFits (name :: way) last (by rw [hWay]; rfl)

/- An empty name at the dot ends the search. -/
theorem searchFrom_of_stalls
    {reached : Reached}
    (hSpells :
      List.Forall₂ PathSegment.Spells spelled front)
    (hHere : isHere reached.path = true)
    (hStall : stalls spelled = true) :
    searchFrom tree (front ++ back) reached = [] := by
  induction hSpells generalizing reached with
  | nil =>
      contradiction
  | @cons name part more parts hPart _ ih =>
      unfold stalls at hStall
      rw [Bool.or_eq_true, Bool.and_eq_true, beq_iff_eq,
        beq_iff_eq] at hStall
      have hLiteral : part = .literal name := by
        cases part with
        | literal text =>
            exact congrArg PathSegment.literal hPart
        | wild items =>
            rcases hPart with ⟨rfl, hWild⟩
            rcases hStall with rfl | ⟨rfl, -⟩
            · contradiction
            · contradiction
        | anyDepth =>
            exact hPart.elim
      rw [List.cons_append, hLiteral, searchFrom]
      rcases hStall with rfl | ⟨rfl, hMore⟩
      · rw [literalStep_of_isHere hHere]
        rfl
      · unfold goOn
        rw [List.flatMap_eq_nil_iff]
        intro finding hFinding
        cases finding with
        | error fault =>
            unfold literalStep at hFinding
            dsimp only at hFinding
            split at hFinding
            · split at hFinding <;> simp at hFinding
            · contradiction
        | ok middle =>
            refine ih ?_ hMore
            rw [mem_literalStep hFinding, stepInto, if_pos hHere]
            rfl

end SafeRerun

------------------------------------------------------------
-- Lengths
------------------------------------------------------------

namespace SafeRerun

theorem octets_stepInto_le
    (directory name : Text) :
    Text.octets (stepInto directory name) ≤
      directory.octets + 1 + name.octets := by
  unfold stepInto
  split
  · omega
  · exact octets_joinPath_le directory name

theorem octets_stepInto_root_le
    (name : Text) :
    Text.octets (stepInto ['/'] name) ≤ 1 + name.octets := by
  have hSlash : Char.utf8Size '/' = 1 := by
    decide
  have hNot : isHere ['/'] = false := rfl
  unfold stepInto joinPath
  rw [hNot]
  split
  · contradiction
  · split
    · omega
    · simp [Text.octets, hSlash]

/- A way is not longer than its names with slashes between. -/
theorem octets_pathAlong_le
    {start : Text}
    {count : Nat}
    {way : Location}
    (hStart :
      ∀ name,
        Text.octets (stepInto start name) ≤
          count + name.octets)
    (hWay : way ≠ []) :
    Text.octets (pathAlong start way) ≤
      count + (joinSegments way).octets := by
  induction way using List.reverseRecOn with
  | nil =>
      contradiction
  | append_singleton front name ih =>
      unfold pathAlong at ih ⊢
      rw [List.foldl_append, List.foldl_cons, List.foldl_nil]
      by_cases hFront : front = []
      · subst hFront
        rw [List.nil_append, joinSegments_singleton]
        exact hStart name
      · have hLess := ih hFront
        have hStep :=
          octets_stepInto_le (front.foldl stepInto start) name
        have hSlash : Char.utf8Size '/' = 1 := by
          decide
        rw [joinSegments_append hFront (by simp),
          joinSegments_singleton, Text.octets_append,
          Text.octets, hSlash]
        omega

theorem octets_joinSegments_le
    (front back : List Text) :
    Text.octets (joinSegments front) ≤
      Text.octets (joinSegments (front ++ back)) := by
  by_cases hFront : front = []
  · subst hFront
    exact Nat.zero_le _
  · by_cases hBack : back = []
    · rw [hBack, List.append_nil]
    · rw [joinSegments_append hFront hBack,
        Text.octets_append]
      omega

end SafeRerun

------------------------------------------------------------
-- The Whole Pattern
------------------------------------------------------------

namespace SafeRerun

variable {base glob : Text}
variable {pattern : PathPattern}

theorem pathPattern_eq_ok
    {t : Text}
    (hPattern : pathPattern t = .ok pattern) :
    pathSegments (terminatedSegments (withoutRoot t)) =
        .ok pattern.parts ∧
      (IsAbsolute t → pattern.start = ['/']) ∧
        (¬IsAbsolute t → pattern.start = ['.']) ∧
          pattern.onlyDirectories =
            (t.getLast? == some '/') := by
  unfold pathPattern at hPattern
  cases hWhole : parsePattern t with
  | error e =>
      simp [hWhole] at hPattern
  | ok items =>
      cases hParts :
          pathSegments (terminatedSegments (withoutRoot t))
        with
      | error e =>
          simp [hWhole, hParts] at hPattern
      | ok parts =>
          simp only [hWhole, hParts, Except.ok.injEq]
            at hPattern
          subst hPattern
          simp +contextual [IsAbsolute]

theorem isAbsolute_escapePattern_iff
    (t : Text) :
    IsAbsolute (escapePattern t) ↔ IsAbsolute t := by
  unfold IsAbsolute
  cases t with
  | nil =>
      rfl
  | cons c rest =>
      rw [escapePattern_cons, escapeChar]
      by_cases hSpecial : isSpecial c = true
      · rw [if_pos hSpecial]
        rw [isSpecial_eq_true_iff] at hSpecial
        rcases hSpecial with rfl | rfl | rfl | rfl <;> simp
      · rw [if_neg hSpecial]
        rfl

theorem escapePattern_ne_nil
    {t : Text}
    (hSome : t ≠ []) :
    escapePattern t ≠ [] := by
  cases t with
  | nil =>
      contradiction
  | cons c rest =>
      rw [escapePattern_cons, escapeChar]
      split
      · simp
      · simp

theorem getLast?_escapePattern_concat
    (t : Text)
    (c : Char) :
    (escapePattern (t ++ [c])).getLast? =
      if isSpecial c then some ']' else some c := by
  rw [escapePattern_append, escapePattern_cons,
    escapePattern_nil, List.append_nil, escapeChar]
  split
  · simp
  · simp

/- The escaped base stands in front, less a slash at its end. -/
theorem exists_escaped_front
    (hBase : base ≠ [])
    (hGlob : ¬IsAbsolute glob) :
    ∃ front,
      joinPath (escapePattern base) glob =
          escapePattern front ++ '/' :: glob ∧
        (front = base ∧ base.getLast? ≠ some '/' ∨
          base = front ++ ['/']) := by
  unfold IsAbsolute at hGlob
  have hLast := List.dropLast_concat_getLast hBase
  rw [← hLast]
  unfold joinPath
  rw [if_neg (by simpa using hGlob),
    getLast?_escapePattern_concat]
  by_cases hSlash : base.getLast hBase = '/'
  · refine ⟨base.dropLast, ?_, Or.inr (by rw [hSlash])⟩
    have hEscaped : escapePattern ['/'] = ['/'] := rfl
    have hPlain : isSpecial '/' = false := rfl
    rw [hSlash, hPlain]
    simp [escapePattern_append, hEscaped]
  · refine ⟨_, ?_, Or.inl ⟨rfl, by simpa using hSlash⟩⟩
    rw [if_neg]
    have hSome := escapePattern_ne_nil (hLast ▸ hBase)
    split
    · simp [hSome]
    · simp [hSome, hSlash]

theorem terminatedSegments_append_slash
    (a b : Text) :
    terminatedSegments (a ++ '/' :: b) =
      segments a ++ terminatedSegments b := by
  have hSome := segments_ne_nil b
  unfold terminatedSegments
  rw [segments_append_slash,
    List.getLast?_append_of_ne_nil _ hSome]
  split
  · exact List.dropLast_append_of_ne_nil hSome
  · rfl

theorem terminatedSegments_of_front
    {front : Text}
    (hBase : base ≠ [])
    (hFront :
      front = base ∧ base.getLast? ≠ some '/' ∨
        base = front ++ ['/']) :
    terminatedSegments base = segments front := by
  rcases hFront with ⟨rfl, hSlash⟩ | rfl
  · unfold terminatedSegments
    rw [if_neg]
    rw [beq_iff_eq]
    exact mt (getLast?_of_getLast?_segments hBase) hSlash
  · rw [terminatedSegments_append_slash]
    exact List.append_nil _

theorem withoutRoot_of_not_isAbsolute
    {t : Text}
    (hRoot : ¬IsAbsolute t) :
    withoutRoot t = t := by
  unfold IsAbsolute at hRoot
  unfold withoutRoot
  split
  · simp at hRoot
  · rfl

end SafeRerun

------------------------------------------------------------
-- Arriving
------------------------------------------------------------

namespace SafeRerun

variable {tree : Tree}
variable {base : Text}
variable {location : Location}
variable {settings : Settings}
variable {pattern : PathPattern}

/-
  A relative base with an empty segment behind the dots in
  front of it.
-/
def isStalled
    (base : Text) :
    Bool :=
  base.head? != some '/' && stalls (terminatedSegments base)

theorem holdsNull_of_mem_segments
    {path name : Text}
    (hNull : holdsNull path = false)
    (hMem : name ∈ segments path) :
    holdsNull name = false := by
  unfold holdsNull at hNull ⊢
  rw [List.any_eq_false] at hNull ⊢
  exact fun c hChar => hNull c (mem_of_mem_segments hMem hChar)

/-
  From a start without names, a search goes along the names
  of the base.
-/
theorem exists_searchFrom_eq
    {start : Text}
    {origin : Location}
    {front back : List PathSegment}
    {spelled : List Text}
    (hStart : LeadsToDirectory tree start origin)
    (hNone : pathNames start = [])
    (hRooted : IsAbsolute start ↔ IsAbsolute base)
    (hSpells :
      List.Forall₂ PathSegment.Spells spelled front)
    (hSlash : ∀ name ∈ spelled, '/' ∉ name)
    (hNull : ∀ name ∈ spelled, holdsNull name = false)
    (hNames :
      (spelled.filter fun s => !isIdle s) = pathNames base)
    (hFollow : tree.followAll origin spelled = .ok location)
    (hHere : tree.entryAt location = some .directory)
    (hShort :
      ∀ way more,
        spelled = way ++ more →
          Text.octets (pathAlong start way) ≤ base.octets)
    (hFits : base.octets ≤ pathLimit)
    (hStall : isHere start = true → stalls spelled = false) :
    ∃ middle,
      Stands base 0 middle [] ∧ IsUndotted middle ∧
        searchFrom tree (front ++ back) ⟨start, true⟩ =
          searchFrom tree back ⟨middle, true⟩ := by
  have hBare : IsUndotted start := fun hSome =>
    absurd hNone hSome
  rcases (Stands.refl hStart.ne_nil).exists_pathAlong hBare
      hSlash hStall with
    ⟨hUndotted, further, hStands⟩
  refine ⟨pathAlong start spelled, ?_, hUndotted,
    searchFrom_spelled hSpells hSlash hNull hStart hFollow
      hHere (fun way more hWay =>
        (hShort way more hWay).trans hFits) hStall⟩
  refine ⟨hStands.nonempty, hStands.rooted.trans hRooted,
    Or.inl ⟨rfl, ?_⟩, hShort spelled [] (by simp)⟩
  have hEmpty : pathNames [] = [] := rfl
  rw [hStands.pathNames_eq, hNone, pathNames_restAlong hSlash,
    hEmpty, List.nil_append, List.nil_append, hNames]

/- What has to hold for a search to arrive at its base. -/
theorem LeadsToDirectory.front
    {front : Text}
    (hBase : LeadsToDirectory tree base location)
    (hFront :
      front = base ∧ base.getLast? ≠ some '/' ∨
        base = front ++ ['/']) :
    pathNames front = pathNames base ∧
      (∀ name ∈ segments front, holdsNull name = false) ∧
        front.octets ≤ base.octets ∧
          base.octets ≤ pathLimit ∧
            tree.followAll (tree.origin base)
                (segments front) =
              .ok location := by
  have hSound := (Tree.resolve_eq_ok_iff.mp hBase.resolved).1
  rcases pathFault?_eq_none_iff.mp hSound with
    ⟨hClean, -, hFits⟩
  have hNames : pathNames front = pathNames base := by
    rcases hFront with ⟨rfl, -⟩ | rfl
    · rfl
    · rw [pathNames_append_slash]
      exact (List.append_nil _).symm
  refine ⟨hNames, ?_, ?_, hFits, ?_⟩
  · intro name hMem
    apply holdsNull_of_mem_segments hClean
    rcases hFront with ⟨rfl, -⟩ | rfl
    · exact hMem
    · rw [segments_append_slash]
      exact List.mem_append_left _ hMem
  · rcases hFront with ⟨rfl, -⟩ | rfl
    · exact Nat.le_refl _
    · rw [Text.octets_append]
      omega
  · apply Tree.followAll_of_filter _ hBase.directory
    have hLeads := Tree.followAll_pathNames hBase.resolved
    rw [← hNames] at hLeads
    exact hLeads

/- An absolute front is spelled behind its first slash. -/
theorem exists_spelled_of_isAbsolute
    {front : Text}
    (glob : Text)
    (hRoot : IsAbsolute (front ++ ['/'])) :
    ∃ spelled,
      terminatedSegments
            (withoutRoot (escapePattern front ++ '/' :: glob)) =
          spelled.map escapePattern ++
            terminatedSegments glob ∧
        (spelled.filter fun s => !isIdle s) =
            pathNames front ∧
          (∀ name ∈ spelled, name ∈ segments front) ∧
            (spelled ≠ [] →
              1 + (joinSegments spelled).octets =
                front.octets) := by
  have hSlash : Char.utf8Size '/' = 1 := by
    decide
  cases front with
  | nil =>
      exact ⟨[], rfl, rfl, by simp, fun hNot => absurd rfl hNot⟩
  | cons c rest =>
      have hFirst : c = '/' := Option.some.inj hRoot
      subst hFirst
      have hSegments :
          segments ('/' :: rest) = [] :: segments rest := by
        rw [segments, if_pos rfl]
      refine ⟨segments rest, ?_, ?_, ?_, ?_⟩
      · rw [← segments_escapePattern]
        exact terminatedSegments_append_slash
          (escapePattern rest) glob
      · unfold pathNames
        rw [hSegments]
        rfl
      · intro name hMem
        rw [hSegments]
        exact List.mem_cons_of_mem _ hMem
      · intro _
        rw [joinSegments_segments, Text.octets, hSlash]

/- What a way spells is not longer than all that is spelled. -/
theorem octets_way_le
    {start : Text}
    {bound : Nat}
    {spelled : List Text}
    (count : Nat)
    (hStep :
      ∀ name,
        Text.octets (stepInto start name) ≤
          count + name.octets)
    (hStart : start.octets ≤ bound)
    (hBound :
      spelled ≠ [] →
        count + (joinSegments spelled).octets ≤ bound) :
    ∀ way more,
      spelled = way ++ more →
        Text.octets (pathAlong start way) ≤ bound := by
  rintro way more rfl
  by_cases hWay : way = []
  · subst hWay
    exact hStart
  · have hAlong := octets_pathAlong_le hStep hWay
    have hPart := octets_joinSegments_le way more
    have hWhole := hBound (by simp [hWay])
    omega

theorem one_le_octets
    {t : Text}
    (hSome : t ≠ []) :
    1 ≤ t.octets := by
  cases t with
  | nil =>
      contradiction
  | cons c rest =>
      have hChar := c.utf8Size_pos
      rw [Text.octets]
      omega

/- An absolute base is spelled from the root on. -/
theorem exists_searchFrom_eq_of_absolute
    {front glob : Text}
    {parts : List PathSegment}
    (hBase : LeadsToDirectory tree base location)
    (hRoot : IsAbsolute base)
    (hFront :
      front = base ∧ base.getLast? ≠ some '/' ∨
        base = front ++ ['/'])
    (hParts :
      pathSegments
          (terminatedSegments
            (withoutRoot
              (escapePattern front ++ '/' :: glob))) =
        .ok parts) :
    ∃ back,
      pathSegments (terminatedSegments glob) = .ok back ∧
        ∃ middle,
          Stands base 0 middle [] ∧ IsUndotted middle ∧
            searchFrom tree parts (tree.lookAt ['/']) =
              searchFrom tree back ⟨middle, true⟩ := by
  have hSlashed : IsAbsolute (front ++ ['/']) := by
    rcases hFront with ⟨rfl, -⟩ | rfl
    · unfold IsAbsolute at hRoot ⊢
      rw [List.head?_append_of_ne_nil _ hBase.ne_nil]
      exact hRoot
    · exact hRoot
  rcases exists_spelled_of_isAbsolute glob hSlashed with
    ⟨spelled, hSplit, hFilter, hMem, hLength⟩
  rcases hBase.front hFront with
    ⟨hNames, hNull, hShort, hFits, hFollow⟩
  rw [hSplit] at hParts
  rcases pathSegments_escaped_append hParts with
    ⟨ahead, back, hAhead, hSpells, hBack⟩
  rw [Tree.origin_of_isAbsolute hRoot] at hFollow
  have hStart : LeadsToDirectory tree ['/'] [] :=
    ⟨rfl, rfl⟩
  refine ⟨back, hBack, ?_⟩
  rw [hAhead, hStart.lookAt_eq]
  refine exists_searchFrom_eq hStart rfl
    ⟨fun _ => hRoot, fun _ => rfl⟩ hSpells ?_ ?_
    (hFilter.trans hNames) ?_ hBase.directory ?_ hFits ?_
  · exact fun name hName =>
      not_mem_of_mem_segments (hMem name hName)
  · exact fun name hName => hNull name (hMem name hName)
  · apply Tree.followAll_of_filter _ hBase.directory
    rw [hFilter]
    exact Tree.followAll_filter hFollow
  · apply octets_way_le 1 octets_stepInto_root_le
      (one_le_octets hBase.ne_nil)
    intro hSome
    rw [hLength hSome]
    exact hShort
  · intro hNot
    contradiction

/- A relative base is spelled from the dot on. -/
theorem exists_searchFrom_eq_of_relative
    {front : Text}
    {ahead back : List PathSegment}
    (hBase : LeadsToDirectory tree base location)
    (hRoot : ¬IsAbsolute base)
    (hFront :
      front = base ∧ base.getLast? ≠ some '/' ∨
        base = front ++ ['/'])
    (hSpells :
      List.Forall₂ PathSegment.Spells (segments front) ahead) :
    (isStalled base = true →
      searchFrom tree (ahead ++ back) (tree.lookAt ['.']) =
        []) ∧
      (isStalled base = false →
        ∃ middle,
          Stands base 0 middle [] ∧ IsUndotted middle ∧
            searchFrom tree (ahead ++ back)
                (tree.lookAt ['.']) =
              searchFrom tree back ⟨middle, true⟩) := by
  rcases hBase.front hFront with
    ⟨hNames, hNull, hShort, hFits, hFollow⟩
  have hStalls :
      isStalled base = stalls (segments front) := by
    unfold IsAbsolute at hRoot
    unfold isStalled
    rw [terminatedSegments_of_front hBase.ne_nil hFront]
    simp [hRoot]
  rw [Tree.origin_of_not_isAbsolute hRoot] at hFollow
  have hHome :
      LeadsToDirectory tree ['.'] tree.home := by
    have hHere :=
      Tree.entryAt_of_followAll hFollow hBase.directory
    refine ⟨Tree.resolve_eq_ok_iff.mpr ⟨by decide, ?_⟩, hHere⟩
    exact Tree.followAll_of_filter rfl hHere
  rw [hStalls]
  constructor
  · exact searchFrom_of_stalls hSpells rfl
  · intro hFree
    rw [hHome.lookAt_eq]
    refine exists_searchFrom_eq hHome rfl ?_ hSpells
      (fun name hMem => not_mem_of_mem_segments hMem) hNull
      hNames hFollow hBase.directory ?_ hFits fun _ => hFree
    · exact iff_of_false (by simp [IsAbsolute]) hRoot
    · apply octets_way_le 0 (fun name => Nat.le_add_left _ _)
        (one_le_octets hBase.ne_nil)
      intro _
      rw [joinSegments_segments, Nat.zero_add]
      exact hShort

/-
  A search for the whole pattern is a search for the pattern
  of the settings from a position at the base, or it finds
  nothing since the base is stalled.
-/
theorem searchFrom_fullPattern
    (hBase : LeadsToDirectory tree base location)
    (hGlob : ¬IsAbsolute settings.pattern)
    (hPattern :
      pathPattern (fullPattern base settings) = .ok pattern) :
    pattern.onlyDirectories =
        (('/' :: settings.pattern).getLast? == some '/') ∧
      ∃ parts,
        pathSegments (terminatedSegments settings.pattern) =
            .ok parts ∧
          (isStalled base = true →
            searchFrom tree pattern.parts
                (tree.lookAt pattern.start) =
              []) ∧
            (isStalled base = false →
              ∃ middle,
                Stands base 0 middle [] ∧
                  IsUndotted middle ∧
                    searchFrom tree pattern.parts
                        (tree.lookAt pattern.start) =
                      searchFrom tree parts
                        ⟨middle, true⟩) := by
  rcases exists_escaped_front hBase.ne_nil hGlob with
    ⟨front, hWhole, hFront⟩
  have hFull :
      fullPattern base settings =
        escapePattern front ++ '/' :: settings.pattern :=
    hWhole
  have hRooted :
      IsAbsolute (fullPattern base settings) ↔
        IsAbsolute base := by
    unfold fullPattern
    rw [isAbsolute_joinPath_iff
        (escapePattern_ne_nil hBase.ne_nil) hGlob,
      isAbsolute_escapePattern_iff]
  rcases pathPattern_eq_ok hPattern with
    ⟨hParts, hTop, hDot, hOnly⟩
  constructor
  · rw [hOnly, hFull, List.getLast?_append_of_ne_nil _
      (by simp)]
  · by_cases hRoot : IsAbsolute base
    · have hFree : isStalled base = false := by
        unfold IsAbsolute at hRoot
        simp [isStalled, hRoot]
      rw [hFull] at hParts
      rcases exists_searchFrom_eq_of_absolute hBase hRoot
          hFront hParts with
        ⟨back, hBack, hArrives⟩
      refine ⟨back, hBack, ?_, fun _ => ?_⟩
      · rw [hFree]
        intro hNot
        contradiction
      · rw [hTop (hRooted.mpr hRoot)]
        exact hArrives
    · rw [hFull, withoutRoot_of_not_isAbsolute
          (hFull ▸ mt hRooted.mp hRoot),
        terminatedSegments_append_slash,
        segments_escapePattern] at hParts
      rcases pathSegments_escaped_append hParts with
        ⟨ahead, back, hAhead, hSpells, hBack⟩
      rw [hAhead, hDot (mt hRooted.mp hRoot)]
      exact ⟨back, hBack,
        exists_searchFrom_eq_of_relative hBase hRoot hFront
          hSpells⟩

end SafeRerun
