import SafeRerun.Pattern.Search
import SafeRerun.Proofs.Project.Below
import SafeRerun.Proofs.Project.Place

/-
  Where a path stands that is reached from a base.

  Key definitions include:
    * `SafeRerun.restAfter`
    * `SafeRerun.Stands`
    * `SafeRerun.IsUndotted`

  Key theorems include:
    * `SafeRerun.Stands.stepInto`
    * `SafeRerun.Stands.pathAlong`
    * `SafeRerun.Stands.resolve_eq`

  A path that is reached from a base has the names of the base
  in front.  Behind them stands its rest, which is empty as
  long as only dots and slashes have been added.  Where the
  path leads depends on the rest and on the location of the
  base alone, not on how the base is spelled.
-/

------------------------------------------------------------
-- Rests
------------------------------------------------------------

namespace SafeRerun

variable {base path rest name : Text}
variable {slack : Nat}

/-
  What stands behind the names of a base after one more
  segment.
-/
def restAfter
    (rest name : Text) :
    Text :=
  if rest = [] then
    if isIdle name then [] else name
  else
    joinPath rest name

theorem not_isAbsolute_of_not_mem
    (hSlash : '/' ∉ name) :
    ¬IsAbsolute name :=
  fun hRoot => hSlash (List.mem_of_head? hRoot)

theorem pathNames_of_not_mem
    (hSlash : '/' ∉ name) :
    pathNames name =
      if isIdle name then [] else [name] := by
  unfold pathNames
  rw [segments_of_not_mem hSlash]
  cases hIdle : isIdle name with
  | true =>
      simp [hIdle]
  | false =>
      simp [hIdle]

theorem beginsInName_of_not_mem
    (hSlash : '/' ∉ name)
    (hPlain : isIdle name = false) :
    BeginsInName name :=
  ⟨name, by simp [segments_of_not_mem hSlash], hPlain⟩

theorem restAfter_ne_nil
    (hPlain : isIdle name = false) :
    restAfter rest name ≠ [] := by
  unfold restAfter
  split
  · rw [if_neg (by simp [hPlain])]
    rintro rfl
    contradiction
  · rename_i hRest
    unfold joinPath
    split
    · rintro rfl
      contradiction
    · split
      · simp [hRest]
      · simp

/- A joined path has a slash more at most. -/
theorem octets_joinPath_le
    (directory name : Text) :
    Text.octets (joinPath directory name) ≤
      directory.octets + 1 + name.octets := by
  have hSlash : Char.utf8Size '/' = 1 := by
    decide
  unfold joinPath
  split
  · omega
  · split
    · rw [Text.octets_append]
      omega
    · rw [Text.octets_append, Text.octets, hSlash]
      omega

theorem octets_le_joinPath
    (hSlash : '/' ∉ name) :
    Text.octets rest ≤ Text.octets (joinPath rest name) := by
  have hRoot : (name.head? == some '/') = false :=
    beq_false_of_ne (not_isAbsolute_of_not_mem hSlash)
  unfold joinPath
  simp only [hRoot, Bool.false_eq_true, if_false]
  split
  · rw [Text.octets_append]
    omega
  · rw [Text.octets_append]
    omega

/- A rest never gets shorter. -/
theorem octets_le_restAfter
    (hSlash : '/' ∉ name) :
    Text.octets rest ≤ Text.octets (restAfter rest name) := by
  unfold restAfter
  split
  · rename_i hRest
    rw [hRest]
    exact Nat.zero_le _
  · exact octets_le_joinPath hSlash

theorem joinPath_append
    {lead : Text}
    (hRest : rest ≠ [])
    (hSlash : '/' ∉ name) :
    joinPath (lead ++ rest) name =
      lead ++ joinPath rest name := by
  have hRoot : (name.head? == some '/') = false :=
    beq_false_of_ne (not_isAbsolute_of_not_mem hSlash)
  unfold joinPath
  rw [hRoot, List.getLast?_append_of_ne_nil _ hRest]
  simp only [beq_iff_eq, Bool.or_eq_true,
    List.append_eq_nil_iff, hRest, and_false, false_or,
    Bool.false_eq_true, if_false]
  split
  · rw [List.append_assoc]
  · rw [List.append_assoc]

end SafeRerun

------------------------------------------------------------
-- Positions
------------------------------------------------------------

namespace SafeRerun

variable {base path rest name : Text}
variable {slack : Nat}

/-
  The path has the names of the base and then those of the
  rest.  It is no longer than the base and the rest, but for
  some slack.
-/
structure Stands
    (base : Text)
    (slack : Nat)
    (path rest : Text) : Prop where
  nonempty : path ≠ []
  rooted : IsAbsolute path ↔ IsAbsolute base
  placed :
    rest = [] ∧ pathNames path = pathNames base ∨
      IsBelow base path rest
  short : path.octets ≤ base.octets + slack + rest.octets

theorem Stands.mono
    {more : Nat}
    (hStands : Stands base slack path rest)
    (hMore : slack ≤ more) :
    Stands base more path rest :=
  { hStands with
    short := by
      have hShort := hStands.short
      omega }

/- Below the base stands what is not empty. -/
theorem Stands.isBelow
    (hStands : Stands base slack path rest)
    (hRest : rest ≠ []) :
    IsBelow base path rest :=
  hStands.placed.resolve_left fun hNone => hRest hNone.1

theorem Stands.pathNames_eq
    (hStands : Stands base slack path rest) :
    pathNames path = pathNames base ++ pathNames rest := by
  rcases hStands.placed with ⟨rfl, hNames⟩ | hBelow
  · have hNone : pathNames [] = [] := rfl
    rw [hNames, hNone, List.append_nil]
  · exact hBelow.pathNames_eq

/- The search is still at the dot. -/
theorem Stands.isHere_iff
    (hStands : Stands base slack path rest) :
    isHere path = true ↔
      ¬IsAbsolute base ∧ pathNames base = [] ∧ rest = [] := by
  rw [SafeRerun.isHere_iff, hStands.rooted,
    hStands.pathNames_eq, List.append_eq_nil_iff]
  constructor
  · rintro ⟨-, hBase, hNames, hRest⟩
    refine ⟨hBase, hNames, ?_⟩
    by_contra hSome
    exact (hStands.isBelow
      hSome).beginsInName.pathNames_ne_nil hRest
  · rintro ⟨hBase, hNames, rfl⟩
    exact ⟨hStands.nonempty, hBase, hNames, rfl⟩

/- What one more segment may add to the slack. -/
def slackFor
    (rest : Text) :
    Nat :=
  if rest = [] then 2 else 0

theorem octets_le_one_of_isIdle
    (hIdle : isIdle name = true) :
    Text.octets name ≤ 1 := by
  unfold isIdle at hIdle
  rw [Bool.or_eq_true, beq_iff_eq, beq_iff_eq] at hIdle
  rcases hIdle with rfl | rfl
  · decide
  · decide

theorem Stands.joinPath
    (hStands : Stands base slack path rest)
    (hSlash : '/' ∉ name) :
    Stands base (slack + slackFor rest)
      (joinPath path name) (restAfter rest name) := by
  have hName := not_isAbsolute_of_not_mem hSlash
  have hRooted :=
    (isAbsolute_joinPath_iff hStands.nonempty hName).trans
      hStands.rooted
  have hShort := hStands.short
  have hLength := octets_joinPath_le path name
  have hSome : SafeRerun.joinPath path name ≠ [] := by
    rcases exists_front_joinPath hStands.nonempty hName with
      ⟨front, hJoined, -, -⟩
    rw [hJoined]
    simp
  by_cases hRest : rest = []
  · subst hRest
    have hNames : pathNames path = pathNames base := by
      rw [hStands.pathNames_eq]
      exact List.append_nil _
    cases hIdle : isIdle name with
    | true =>
        have hOne := octets_le_one_of_isIdle hIdle
        simp only [restAfter, slackFor, if_pos, hIdle]
        refine ⟨hSome, hRooted, Or.inl ⟨rfl, ?_⟩, ?_⟩
        · rw [pathNames_joinPath hName, hNames,
            pathNames_of_not_mem hSlash, if_pos hIdle,
            List.append_nil]
        · omega
    | false =>
        rcases exists_front_joinPath hStands.nonempty hName
          with ⟨front, hJoined, hFront, -⟩
        simp only [restAfter, slackFor, if_pos, hIdle,
          Bool.false_eq_true, if_false]
        refine ⟨hSome, hRooted,
          Or.inr ⟨hRooted, front ++ ['/'], ?_, ?_, ?_, ?_⟩, ?_⟩
        · rw [hJoined, List.append_assoc]
          rfl
        · exact Or.inr List.getLast?_concat
        · rw [pathNames_append_slash, hFront, hNames]
          exact List.append_nil _
        · exact beginsInName_of_not_mem hSlash hIdle
        · rw [Text.octets] at hShort
          omega
  · rcases hStands.isBelow hRest with
      ⟨-, lead, rfl, hLead, hNames, hBegins⟩
    simp only [restAfter, slackFor, if_neg hRest]
    rw [joinPath_append hRest hSlash] at hRooted hSome ⊢
    refine ⟨hSome, hRooted, Or.inr ⟨hRooted, lead, rfl, hLead,
      hNames, hBegins.joinPath hName⟩, ?_⟩
    rw [Text.octets_append] at hShort ⊢
    omega

/- One more segment, where an empty one is not the first. -/
theorem Stands.stepInto
    (hStands : Stands base slack path rest)
    (hSlash : '/' ∉ name)
    (hSome : isHere path = true → name ≠ []) :
    Stands base (slack + slackFor rest)
      (stepInto path name) (restAfter rest name) := by
  unfold SafeRerun.stepInto
  by_cases hHere : isHere path = true
  · rw [if_pos hHere]
    rcases hStands.isHere_iff.mp hHere with
      ⟨hBase, hNames, rfl⟩
    have hName := not_isAbsolute_of_not_mem hSlash
    have hRooted : IsAbsolute name ↔ IsAbsolute base :=
      ⟨fun hRoot => absurd hRoot hName,
        fun hRoot => absurd hRoot hBase⟩
    cases hIdle : isIdle name with
    | true =>
        have hOne := octets_le_one_of_isIdle hIdle
        simp only [restAfter, slackFor, if_pos, hIdle]
        refine ⟨hSome hHere, hRooted, Or.inl ⟨rfl, ?_⟩, ?_⟩
        · rw [pathNames_of_not_mem hSlash, if_pos hIdle,
            hNames]
        · omega
    | false =>
        simp only [restAfter, slackFor, if_pos, hIdle,
          Bool.false_eq_true, if_false]
        refine ⟨hSome hHere, hRooted, Or.inr ⟨hRooted, [], rfl,
          Or.inl rfl, ?_, ?_⟩, ?_⟩
        · rw [hNames]
          rfl
        · exact beginsInName_of_not_mem hSlash hIdle
        · omega
  · rw [if_neg hHere]
    exact hStands.joinPath hSlash

/- The names on a way lead down. -/
def IsWay
    (way : Location) : Prop :=
  ∀ name ∈ way,
    '/' ∉ name ∧ isIdle name = false ∧ name ≠ ['.', '.']

/- What stands behind the names of a base after a way. -/
def restAlong
    (rest : Text)
    (way : Location) :
    Text :=
  way.foldl restAfter rest

theorem pathNames_restAfter
    (hSlash : '/' ∉ name) :
    pathNames (restAfter rest name) =
      pathNames rest ++ pathNames name := by
  unfold restAfter
  split
  · rename_i hRest
    have hNone : pathNames [] = [] := rfl
    rw [hRest, hNone, List.nil_append,
      pathNames_of_not_mem hSlash]
    cases hIdle : isIdle name with
    | true =>
        rfl
    | false =>
        rw [if_neg (by simp), pathNames_of_not_mem hSlash,
          if_neg (by simp [hIdle])]
        rfl
  · exact pathNames_joinPath (not_isAbsolute_of_not_mem hSlash)

theorem pathNames_restAlong
    {spelled : List Text}
    (hSlash : ∀ name ∈ spelled, '/' ∉ name) :
    pathNames (restAlong rest spelled) =
      pathNames rest ++
        spelled.filter fun s => !isIdle s := by
  induction spelled generalizing rest with
  | nil =>
      exact (List.append_nil _).symm
  | cons name more ih =>
      have hName : '/' ∉ name := hSlash name (by simp)
      have hMore : ∀ other ∈ more, '/' ∉ other :=
        fun other hMem => hSlash other (by simp [hMem])
      have hAlong :
          restAlong rest (name :: more) =
            restAlong (restAfter rest name) more :=
        rfl
      rw [hAlong, ih hMore, pathNames_restAfter hName,
        pathNames_of_not_mem hName, List.filter_cons]
      cases isIdle name with
      | true =>
          simp
      | false =>
          simp

theorem Stands.pathAlong
    {way : Location}
    (hStands : Stands base slack path rest)
    (hWay : IsWay way) :
    Stands base (slack + slackFor rest)
      (pathAlong path way) (restAlong rest way) := by
  induction way generalizing path rest slack with
  | nil =>
      exact hStands.mono (Nat.le_add_right _ _)
  | cons name more ih =>
      rcases hWay name (by simp) with ⟨hSlash, hPlain, -⟩
      have hNext :=
        hStands.stepInto hSlash (by
          rintro - rfl
          contradiction)
      have hLast :=
        ih hNext fun other hMem => hWay other (by simp [hMem])
      have hNone : slackFor (restAfter rest name) = 0 :=
        if_neg (restAfter_ne_nil hPlain)
      rw [hNone, Nat.add_zero] at hLast
      exact hLast

theorem restAlong_ne_nil
    {rest : Text}
    {way : Location}
    (hSome : way ≠ [])
    (hWay : IsWay way) :
    restAlong rest way ≠ [] := by
  have hLast := List.dropLast_concat_getLast hSome
  have hPlain := (hWay _ (List.getLast_mem hSome)).2.1
  unfold restAlong
  rw [← hLast, List.foldl_append]
  exact restAfter_ne_nil hPlain

theorem octets_dropLast_le
    {rest : Text}
    {way : Location}
    (hSome : way ≠ [])
    (hWay : IsWay way) :
    Text.octets (restAlong rest way.dropLast) ≤
      Text.octets (restAlong rest way) := by
  have hLast := List.dropLast_concat_getLast hSome
  have hSlash := (hWay _ (List.getLast_mem hSome)).1
  have hAlong :
      restAlong rest way =
        restAfter (restAlong rest way.dropLast)
          (way.getLast hSome) := by
    unfold restAlong
    conv_lhs => rw [← hLast]
    rw [List.foldl_append]
    rfl
  rw [hAlong]
  exact octets_le_restAfter hSlash

theorem slackFor_le
    (rest : Text) :
    slackFor rest ≤ 2 := by
  unfold slackFor
  split
  · exact Nat.le_refl _
  · exact Nat.zero_le _

end SafeRerun

------------------------------------------------------------
-- Dots in Front
------------------------------------------------------------

namespace SafeRerun

variable {path name : Text}

/- The dot is left with the first name. -/
theorem isHere_stepInto
    (hSome : path ≠ [])
    (hSlash : '/' ∉ name) :
    isHere (stepInto path name) =
      (isHere path && name == ['.']) := by
  have hName := not_isAbsolute_of_not_mem hSlash
  unfold stepInto
  by_cases hHere : isHere path = true
  · have hNames := pathNames_of_not_mem hSlash
    rw [if_pos hHere, hHere, Bool.true_and, Bool.eq_iff_iff,
      beq_iff_eq, isHere_iff, hNames]
    constructor
    · rintro ⟨hFilled, -, hNone⟩
      split at hNone
      · rename_i hIdle
        simpa [isIdle, hFilled] using hIdle
      · simp at hNone
    · rintro rfl
      exact ⟨by simp, hName, rfl⟩
  · rw [if_neg hHere, Bool.eq_false_iff.mpr hHere,
      Bool.false_and, ← Bool.not_eq_true, isHere_iff,
      isAbsolute_joinPath_iff hSome hName,
      pathNames_joinPath hName, List.append_eq_nil_iff]
    rw [isHere_iff] at hHere
    rintro ⟨-, hPath, hNames, -⟩
    exact hHere ⟨hSome, hPath, hNames⟩

theorem isHere_of_isHere_joinPath
    (hSome : path ≠ [])
    (hSlash : '/' ∉ name)
    (hHere : isHere (joinPath path name) = true) :
    isHere path = true ∧ isIdle name = true := by
  have hName := not_isAbsolute_of_not_mem hSlash
  rw [isHere_iff, isAbsolute_joinPath_iff hSome hName,
    pathNames_joinPath hName, List.append_eq_nil_iff] at hHere
  rcases hHere with ⟨-, hRoot, hNames, hIdle⟩
  refine ⟨isHere_iff.mpr ⟨hSome, hRoot, hNames⟩, ?_⟩
  by_contra hPlain
  rw [pathNames_of_not_mem hSlash, if_neg hPlain] at hIdle
  simp at hIdle

/- A path that has a name does not begin with a dot. -/
def IsUndotted
    (path : Text) : Prop :=
  pathNames path ≠ [] →
    (segments path).head? ≠ some ['.']

theorem IsUndotted.joinPath
    (hUndotted : IsUndotted path)
    (hSome : path ≠ [])
    (hSlash : '/' ∉ name)
    (hNot : isHere path = false) :
    IsUndotted (joinPath path name) := by
  intro _
  rcases exists_front_joinPath hSome
      (not_isAbsolute_of_not_mem hSlash) with
    ⟨front, hJoined, -, hHead⟩
  rw [hJoined, head?_segments_append_slash, hHead]
  intro hDot
  have hHere : isHere path = true := by
    rw [isHere_iff]
    refine ⟨hSome, not_isAbsolute_of_head? hDot, ?_⟩
    by_contra hNames
    exact hUndotted hNames hDot
  rw [hNot] at hHere
  contradiction

theorem isUndotted_of_not_mem
    (hSlash : '/' ∉ name) :
    IsUndotted name := by
  intro hNames hDot
  rw [segments_of_not_mem hSlash, List.head?_cons,
    Option.some.injEq] at hDot
  subst hDot
  contradiction

/- The dot itself is not shown in front of a name. -/
theorem IsUndotted.stepInto
    (hUndotted : IsUndotted path)
    (hSome : path ≠ [])
    (hSlash : '/' ∉ name) :
    IsUndotted (stepInto path name) := by
  unfold SafeRerun.stepInto
  split
  · exact isUndotted_of_not_mem hSlash
  · rename_i hNot
    exact hUndotted.joinPath hSome hSlash
      (by simpa using hNot)

end SafeRerun

------------------------------------------------------------
-- Following a Position
------------------------------------------------------------

namespace SafeRerun

namespace Tree

variable {tree : Tree}
variable {location next : Location}
variable {base path : Text}

theorem followAll_append_of_ok
    {front back : List Text}
    (hFront : tree.followAll location front = .ok next) :
    tree.followAll location (front ++ back) =
      tree.followAll next back := by
  induction front generalizing location with
  | nil =>
      rw [followAll, Except.ok.injEq] at hFront
      rw [List.nil_append, hFront]
  | cons segment rest ih =>
      rw [followAll] at hFront
      rw [List.cons_append, followAll]
      cases hStep : tree.follow location segment with
      | error fault =>
          simp [hStep] at hFront
      | ok step =>
          rw [hStep] at hFront
          exact ih hFront

theorem follow_idle
    {segment : Text}
    (hIdle : isIdle segment = true)
    (hHere : tree.entryAt location = some .directory) :
    tree.follow location segment = .ok location :=
  follow_eq_ok_iff.mpr ⟨hHere, Or.inl ⟨hIdle, rfl⟩⟩

theorem eq_of_follow_idle
    {segment : Text}
    (hIdle : isIdle segment = true)
    (hFollow : tree.follow location segment = .ok next) :
    next = location := by
  rcases follow_eq_ok_iff.mp hFollow with
    ⟨-, ⟨-, hSame⟩ | ⟨rfl, -⟩ | ⟨hPlain, -⟩⟩
  · exact hSame.symm
  · contradiction
  · rw [hIdle] at hPlain
    contradiction

/- Segments lead to where the names among them lead. -/
theorem followAll_filter
    {parts : List Text}
    (hFollow : tree.followAll location parts = .ok next) :
    tree.followAll location
        (parts.filter fun s => !isIdle s) =
      .ok next := by
  induction parts generalizing location with
  | nil =>
      exact hFollow
  | cons segment rest ih =>
      rw [followAll] at hFollow
      cases hStep : tree.follow location segment with
      | error fault =>
          simp [hStep] at hFollow
      | ok step =>
          simp only [hStep] at hFollow
          cases hIdle : isIdle segment with
          | true =>
              rw [eq_of_follow_idle hIdle hStep] at hFollow
              rw [List.filter_cons_of_neg (by simp [hIdle])]
              exact ih hFollow
          | false =>
              rw [List.filter_cons_of_pos (by simp [hIdle]),
                followAll, hStep]
              exact ih hFollow

/- The way to a directory goes through directories. -/
theorem entryAt_of_followAll
    {parts : List Text}
    (hFollow : tree.followAll location parts = .ok next)
    (hNext : tree.entryAt next = some .directory) :
    tree.entryAt location = some .directory := by
  cases parts with
  | nil =>
      rw [followAll, Except.ok.injEq] at hFollow
      rw [hFollow]
      exact hNext
  | cons segment rest =>
      rw [followAll] at hFollow
      cases hStep : tree.follow location segment with
      | error fault =>
          simp [hStep] at hFollow
      | ok step =>
          exact (follow_eq_ok_iff.mp hStep).1

/- To a directory idle segments make no difference. -/
theorem followAll_of_filter
    {parts : List Text}
    (hFollow :
      tree.followAll location
          (parts.filter fun s => !isIdle s) =
        .ok next)
    (hNext : tree.entryAt next = some .directory) :
    tree.followAll location parts = .ok next := by
  induction parts generalizing location with
  | nil =>
      exact hFollow
  | cons segment rest ih =>
      rw [followAll]
      cases hIdle : isIdle segment with
      | true =>
          rw [List.filter_cons_of_neg (by simp [hIdle])]
            at hFollow
          rw [follow_idle hIdle
            (entryAt_of_followAll hFollow hNext)]
          exact ih hFollow
      | false =>
          rw [List.filter_cons_of_pos (by simp [hIdle]),
            followAll] at hFollow
          cases hStep : tree.follow location segment with
          | error fault =>
              simp [hStep] at hFollow
          | ok step =>
              rw [hStep] at hFollow
              exact ih hFollow

theorem origin_of_isAbsolute
    (hRoot : IsAbsolute path) :
    tree.origin path = [] := by
  rcases List.head?_eq_some_iff.mp hRoot with ⟨rest, rfl⟩
  rfl

theorem origin_of_not_isAbsolute
    (hRoot : ¬IsAbsolute path) :
    tree.origin path = tree.home := by
  unfold IsAbsolute at hRoot
  unfold origin
  split
  · simp at hRoot
  · rfl

/- Where a base leads, the names of the base lead. -/
theorem followAll_pathNames
    (hResolve : tree.resolve path = .ok next) :
    tree.followAll (tree.origin path) (pathNames path) =
      .ok next :=
  followAll_filter (resolve_eq_ok_iff.mp hResolve).2

end Tree

/- Whether a text holds a null character. -/
def holdsNull
    (t : Text) :
    Bool :=
  t.any fun c => c.toNat == 0

/- A null character is in a name. -/
theorem holdsNull_eq
    (path : Text) :
    holdsNull path = (pathNames path).any holdsNull := by
  have hSegments :
      (segments path).any holdsNull = holdsNull path := by
    conv_rhs => rw [← joinSegments_segments path]
    generalize segments path = parts
    induction parts with
    | nil =>
        rfl
    | cons part rest ih =>
        by_cases hRest : rest = []
        · subst hRest
          simp
        · rw [joinSegments_cons part hRest, List.any_cons, ih]
          simp [holdsNull]
  rw [← hSegments, pathNames, List.any_filter]
  congr 1
  funext segment
  cases hIdle : isIdle segment with
  | true =>
      unfold isIdle at hIdle
      rw [Bool.or_eq_true, beq_iff_eq, beq_iff_eq] at hIdle
      rcases hIdle with rfl | rfl
      · rfl
      · rfl
  | false =>
      rfl

theorem pathFault?_eq
    {path : Text}
    (hSome : path ≠ [])
    (hFits : path.octets ≤ pathLimit) :
    pathFault? path =
      if holdsNull path then some .nullInPath else none := by
  unfold pathFault?
  rw [if_neg hSome, if_neg (Nat.not_lt.mpr hFits)]
  rfl

theorem pathFault?_eq_none_iff
    {path : Text} :
    pathFault? path = none ↔
      holdsNull path = false ∧ path ≠ [] ∧
        path.octets ≤ pathLimit := by
  unfold pathFault? holdsNull
  split
  · rename_i hNull
    simp [hNull]
  · rename_i hClean
    rw [Bool.not_eq_true] at hClean
    by_cases hSome : path = []
    · simp [hSome]
    · simp [hClean, hSome]

variable {tree : Tree}
variable {location : Location}
variable {base path rest : Text}
variable {slack : Nat}

/- The base leads to a directory. -/
structure LeadsToDirectory
    (tree : Tree)
    (base : Text)
    (location : Location) : Prop where
  resolved : tree.resolve base = .ok location
  directory : tree.entryAt location = some .directory

theorem Stands.origin_eq
    (hStands : Stands base slack path rest) :
    tree.origin path = tree.origin base := by
  by_cases hRoot : IsAbsolute base
  · rw [Tree.origin_of_isAbsolute hRoot,
      Tree.origin_of_isAbsolute (hStands.rooted.mpr hRoot)]
  · rw [Tree.origin_of_not_isAbsolute hRoot,
      Tree.origin_of_not_isAbsolute
        (mt hStands.rooted.mp hRoot)]

/- The segments of a position are followed from the base on. -/
theorem Stands.followAll_eq
    (hStands : Stands base slack path rest)
    (hBase : LeadsToDirectory tree base location) :
    tree.followAll (tree.origin path) (segments path) =
      tree.followAll location (segments rest) := by
  have hLeads := Tree.followAll_pathNames hBase.resolved
  rw [hStands.origin_eq]
  rcases hStands.placed with ⟨rfl, hNames⟩ | hBelow
  · rw [← hNames] at hLeads
    rw [Tree.followAll_of_filter hLeads hBase.directory]
    exact (Tree.followAll_of_filter rfl hBase.directory).symm
  · rcases hBelow with
      ⟨-, lead, rfl, rfl | hEnds, hNames, -⟩
    · rw [← hNames] at hLeads
      have hHere := Except.ok.inj hLeads
      rw [List.nil_append, ← hHere]
    · rcases List.getLast?_eq_some_iff.mp hEnds with
        ⟨front, rfl⟩
      have hFront : pathNames front = pathNames base := by
        rw [← hNames, pathNames_append_slash]
        exact (List.append_nil _).symm
      rw [← hFront] at hLeads
      rw [List.append_assoc, List.singleton_append,
        segments_append_slash]
      exact Tree.followAll_append_of_ok
        (Tree.followAll_of_filter hLeads hBase.directory)

/- Where a position leads, if it is not too long. -/
theorem Stands.resolve_eq
    (hStands : Stands base slack path rest)
    (hBase : LeadsToDirectory tree base location)
    (hFits : path.octets ≤ pathLimit) :
    tree.resolve path =
      if holdsNull rest then
        .error .nullInPath
      else
        tree.followAll location (segments rest) := by
  have hSound := (Tree.resolve_eq_ok_iff.mp hBase.resolved).1
  have hClean := (pathFault?_eq_none_iff.mp hSound).1
  have hNull : holdsNull path = holdsNull rest := by
    rw [holdsNull_eq path, hStands.pathNames_eq,
      List.any_append, ← holdsNull_eq, ← holdsNull_eq, hClean,
      Bool.false_or]
  unfold Tree.resolve
  rw [pathFault?_eq hStands.nonempty hFits, hNull]
  cases holdsNull rest with
  | true =>
      rfl
  | false =>
      exact hStands.followAll_eq hBase

end SafeRerun
