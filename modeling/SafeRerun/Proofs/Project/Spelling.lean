import Mathlib
import SafeRerun.Proofs.Pattern.Twins
import SafeRerun.Proofs.Project.Exclusion

/-
  Projects under bases that are named or spelled differently.

  Key definitions include:
    * `SafeRerun.SameProject`
    * `SafeRerun.IsSteady`
    * `SafeRerun.HasRoom`
    * `SafeRerun.SelectAlike`

  Key theorems include:
    * `SafeRerun.map_restBelow_eq`
    * `SafeRerun.mem_selected_iff_below`

  What is matched below a base does not depend on how the base
  is named or spelled, as long as the search does not get stuck
  at a dot and the paths do not get too long.  The markers are
  the exception: behind a dot and a name they are held against
  the base as well.
-/

------------------------------------------------------------
-- The Same Project
------------------------------------------------------------

namespace SafeRerun

variable {tree other : Tree}
variable {base otherBase : Text}
variable {location otherLocation : Location}
variable {settings : Settings}
variable {pattern otherPattern : PathPattern}
variable {paths others : List Text}

/-
  Both bases lead to directories below which there is the
  same, and around which there is the same as far upwards as
  the pattern can climb.
-/
def SameProject
    (settings : Settings)
    (tree : Tree)
    (base : Text)
    (other : Tree)
    (otherBase : Text) : Prop :=
  ∃ location otherLocation,
    tree.resolve base = .ok location ∧
      other.resolve otherBase = .ok otherLocation ∧
        tree.SameAround other (climbsOf settings.parts)
          location otherLocation

/-
  The search does not meet an empty segment at the dot: the
  base is not stalled, and if it is a dot itself, the pattern
  has no gap behind it.
-/
def IsSteady
    (base : Text)
    (settings : Settings) : Prop :=
  isStalled base = false ∧
    (isHere base = true → hasGap settings.parts = false)

instance (base : Text) (settings : Settings) :
    Decidable (IsSteady base settings) :=
  inferInstanceAs (Decidable (_ ∧ _))

/- There is room for the rest behind the base, and some more. -/
def HasRoom
    (base : Text)
    (settings : Settings)
    (rest : Text) : Prop :=
  base.octets + 2 * settings.parts.length + rest.octets ≤
    pathLimit

end SafeRerun

------------------------------------------------------------
-- What Both Searches Find
------------------------------------------------------------

namespace SafeRerun

variable {twins : Twins}
variable {settings : Settings}
variable {pattern otherPattern : PathPattern}

/- Paths that both searches have found, in step to the end. -/
def Twins.Beside
    (twins : Twins)
    (path otherPath : Text) : Prop :=
  ∃ used rest, twins.InStep [] used path otherPath rest

/- A path that does not fit behind both bases. -/
def Twins.IsAway
    (twins : Twins)
    (base path : Text) : Prop :=
  ∃ used rest, Stands base used path rest ∧ ¬twins.Fits rest

theorem Twins.IsFar.isAway
    {base path : Text}
    {reached : Reached}
    (hFar : twins.IsFar base reached)
    (hPath : path = reached.path) :
    twins.IsAway base path := by
  rw [hPath]
  exact hFar

/- A steady base has no gap where its position is a dot. -/
theorem IsSteady.gapless
    {base middle : Text}
    (hSteady : IsSteady base settings)
    (hSome : base ≠ [])
    (hMiddle : Stands base 0 middle []) :
    isHere middle = true → hasGap settings.parts = false := by
  rw [hMiddle.isHere_iff]
  rintro ⟨hRoot, hNames, -⟩
  exact hSteady.2 (isHere_iff.mpr ⟨hSome, hRoot, hNames⟩)

/- The findings of both searches are alike. -/
theorem Twins.alike_search
    (hGlob : ¬IsAbsolute settings.pattern)
    (hPattern :
      pathPattern (fullPattern twins.base settings) =
        .ok pattern)
    (hOtherPattern :
      pathPattern (fullPattern twins.otherBase settings) =
        .ok otherPattern)
    (hSteady : IsSteady twins.base settings)
    (hOtherSteady : IsSteady twins.otherBase settings)
    (hSlack : 2 * settings.parts.length ≤ twins.slack)
    (hClimbs : climbsOf settings.parts ≤ twins.climbs)
    (hFits : twins.Fits []) :
    Alike twins.Beside (twins.IsAway twins.base)
      (twins.IsAway twins.otherBase)
      (pattern.search twins.tree)
      (otherPattern.search twins.other) := by
  rcases search_fullPattern twins.leads hGlob hPattern with
    ⟨hOnly, hSplit, -, hFree⟩
  rcases search_fullPattern twins.otherLeads hGlob
      hOtherPattern with
    ⟨hOtherOnly, -, -, hOtherFree⟩
  rcases hFree hSteady.1 with
    ⟨middle, hMiddle, -, hSearch⟩
  rcases hOtherFree hOtherSteady.1 with
    ⟨otherMiddle, hOtherMiddle, -, hOtherSearch⟩
  have hStart :
      twins.Paired settings.parts ⟨middle, true⟩
        ⟨otherMiddle, true⟩ :=
    ⟨rfl, 0, [],
      ⟨hMiddle, hOtherMiddle, Nat.zero_le _, hFits⟩,
      (Nat.zero_add _).trans_le hSlack,
      (Nat.zero_add _).trans_le hClimbs,
      hSteady.gapless twins.leads.ne_nil hMiddle,
      hOtherSteady.gapless twins.otherLeads.ne_nil
        hOtherMiddle⟩
  unfold PathPattern.search
  rw [hSearch, hOtherSearch, hOnly, hOtherOnly]
  refine (Twins.alike_searchFrom hSplit hStart).goOn ?_
    (fun a c hFar hMem => hFar.isAway (eq_of_mem_last hMem))
    (fun b c hFar hMem => hFar.isAway (eq_of_mem_last hMem))
  rintro a b ⟨hKind, used, rest, hStep⟩
  rw [hKind]
  split
  · exact .nil
  · exact .pair ⟨used, rest, hStep⟩ .nil

/- Files that both searches have found have the same rest. -/
theorem Twins.Beside.restBelow_eq
    {path otherPath : Text}
    (hBeside : twins.Beside path otherPath)
    (hFile : twins.tree.isFile path = true)
    (hOtherFile : twins.other.isFile otherPath = true) :
    restBelow twins.base path =
      restBelow twins.otherBase otherPath := by
  rcases hBeside with ⟨used, rest, hStep⟩
  rw [hStep.abreast.stands.restBelow_eq twins.leads hFile,
    hStep.abreast.otherStands.restBelow_eq twins.otherLeads
      hOtherFile]

end SafeRerun

------------------------------------------------------------
-- What Both Patterns Match
------------------------------------------------------------

namespace SafeRerun

variable {tree other : Tree}
variable {base otherBase : Text}
variable {location : Location}
variable {settings : Settings}
variable {paths others : List Text}

/- The rests behind two bases have room behind both. -/
def HaveRoom
    (base otherBase : Text)
    (settings : Settings)
    (paths others : List Text) : Prop :=
  ∀ rest ∈
    paths.map (restBelow base) ++
      others.map (restBelow otherBase),
    HasRoom base settings rest ∧
      HasRoom otherBase settings rest

/- A file with room behind both bases is not away. -/
theorem Twins.IsAway.isFile_eq_false
    {twins : Twins}
    {path : Text}
    (hAway : twins.IsAway base path)
    (hBase : LeadsToDirectory tree base location)
    (hFits :
      tree.isFile path = true →
        twins.Fits (restBelow base path)) :
    tree.isFile path = false := by
  rcases hAway with ⟨used, rest, hStands, hLong⟩
  by_contra hFile
  rw [Bool.not_eq_false] at hFile
  apply hLong
  rw [← hStands.restBelow_eq hBase hFile]
  exact hFits hFile

/- Two bases with the same below them match the same below. -/
theorem map_restBelow_eq
    (hMatched : matchedFiles tree base settings = .ok paths)
    (hOthers :
      matchedFiles other otherBase settings = .ok others)
    (hGlob : ¬IsAbsolute settings.pattern)
    (hSame : SameProject settings tree base other otherBase)
    (hSteady : IsSteady base settings)
    (hOtherSteady : IsSteady otherBase settings)
    (hRoom : HaveRoom base otherBase settings paths others) :
    paths.map (restBelow base) =
      others.map (restBelow otherBase) := by
  rcases exists_search_of_matchedFiles hMatched with
    ⟨location, pattern, found, hBase, hPattern, hSearch,
      hPaths⟩
  rcases exists_search_of_matchedFiles hOthers with
    ⟨otherLocation, otherPattern, otherFound, hOther,
      hOtherPattern, hOtherSearch, hOtherPaths⟩
  rcases hSame with
    ⟨here, otherHere, hHere, hOtherHere, hAround⟩
  rw [hBase.resolved, Except.ok.injEq] at hHere
  rw [hOther.resolved, Except.ok.injEq] at hOtherHere
  subst hHere hOtherHere
  let twins : Twins :=
    { tree := tree
      base := base
      location := location
      other := other
      otherBase := otherBase
      otherLocation := otherLocation
      slack := 2 * settings.parts.length
      climbs := climbsOf settings.parts
      leads := hBase
      otherLeads := hOther
      same := hAround }
  by_cases hFits : twins.Fits []
  · have hAlike :=
      Twins.alike_search hGlob hPattern hOtherPattern hSteady
        hOtherSteady (Nat.le_refl _) (Nat.le_refl _) hFits
    rw [hSearch, hOtherSearch] at hAlike
    have hPaired :
        List.Forall₂
          (fun a b =>
            twins.Beside a b ∧ tree.isFile a = true ∧
              other.isFile b = true)
          paths others := by
      rw [← hPaths, ← hOtherPaths]
      apply hAlike.forall₂_filter
      · rintro a b ⟨used, rest, hStep⟩
        exact hStep.leadAlike.isFile_eq
      · intro a hMem hAway
        refine hAway.isFile_eq_false hBase fun hFile =>
          hRoom _ (List.mem_append_left _ ?_)
        rw [← hPaths]
        exact List.mem_map_of_mem
          (List.mem_filter.mpr ⟨hMem, hFile⟩)
      · intro b hMem hAway
        refine hAway.isFile_eq_false hOther fun hFile =>
          hRoom _ (List.mem_append_right _ ?_)
        rw [← hOtherPaths]
        exact List.mem_map_of_mem
          (List.mem_filter.mpr ⟨hMem, hFile⟩)
    rw [← List.forall₂_eq_eq_eq, List.forall₂_map_left_iff,
      List.forall₂_map_right_iff]
    exact hPaired.imp fun a b hBoth =>
      hBoth.1.restBelow_eq hBoth.2.1 hBoth.2.2
  · -- Where nothing has room, nothing is matched.
    have hNone :
        paths.map (restBelow base) ++
            others.map (restBelow otherBase) =
          [] := by
      rw [List.eq_nil_iff_forall_not_mem]
      intro rest hMem
      have hThere : twins.Fits rest := hRoom rest hMem
      exact hFits (hThere.mono (Nat.zero_le _))
    rw [List.append_eq_nil_iff] at hNone
    rw [hNone.1, hNone.2]

end SafeRerun

------------------------------------------------------------
-- What Is Selected Below Both Bases
------------------------------------------------------------

namespace SafeRerun

variable {tree other : Tree}
variable {base otherBase : Text}
variable {settings : Settings}
variable {paths others selected otherSelected : List Text}

/-
  The same is matched below both bases.  Where the markers
  judge each path by what is below its base, the same is
  selected below both, and in the same order unless a path
  begins with a dot.
-/
structure SelectAlike
    (settings : Settings)
    (base otherBase : Text)
    (paths others selected otherSelected : List Text) :
    Prop where
  sameMatched :
    paths.map (restBelow base) =
      others.map (restBelow otherBase)
  sameSelected :
    IsJudgedByRest base settings paths →
      IsJudgedByRest otherBase settings others →
        (selected.map (restBelow base)).Perm
          (otherSelected.map (restBelow otherBase))
  sameOrder :
    IsJudgedByRest base settings paths →
      IsJudgedByRest otherBase settings others →
        IsOrderly base settings.parts →
          IsOrderly otherBase settings.parts →
            selected.map (restBelow base) =
              otherSelected.map (restBelow otherBase)

/- The markers leave out the same rests, in whatever order. -/
theorem SelectsBelow.perm
    (hSelects : SelectsBelow base settings paths selected)
    (hJudged : IsJudgedByRest base settings paths) :
    (selected.map (restBelow base)).Perm
      ((paths.map (restBelow base)).filter fun rest =>
        !settings.excludes rest) := by
  rw [hSelects.kept, ← hJudged.map_filter]
  exact (List.mergeSort_perm _ _).map _

/- What is matched alike is selected alike. -/
theorem selectAlike
    (hSelects : SelectsBelow base settings paths selected)
    (hOther :
      SelectsBelow otherBase settings others otherSelected)
    (hMatched :
      paths.map (restBelow base) =
        others.map (restBelow otherBase)) :
    SelectAlike settings base otherBase paths others selected
      otherSelected := by
  constructor
  case sameMatched =>
    exact hMatched
  case sameSelected =>
    intro hJudged hOtherJudged
    have hPerm := hSelects.perm hJudged
    rw [hMatched] at hPerm
    exact hPerm.trans (hOther.perm hOtherJudged).symm
  case sameOrder =>
    intro hJudged hOtherJudged hOrderly hOtherOrderly
    rw [hSelects.listed hOrderly hJudged, hMatched,
      hOther.listed hOtherOrderly hOtherJudged]

/- A script in a directory with the name of a marker. -/
def backupScript :
    Tree :=
  Tree.empty.addFile (Text.ofString "backup/x.sql")
    (encodeText (Text.ofString "SELECT 1;\n"))

/- The script in a directory that is named otherwise. -/
def movedScript :
    Tree :=
  Tree.empty.addFile (Text.ofString "/srv/plain/x.sql")
    (encodeText (Text.ofString "SELECT 1;\n"))

/- The settings that ask for it and leave the marker out. -/
def backupSettings :
    Settings :=
  { Settings.default with
    pattern := Text.ofString "*.sql"
    exclude := [Text.ofString "backup"] }

/- Below both directories there is the script alone. -/
theorem sameProject_backupScript :
    SameProject backupSettings backupScript
      (Text.ofString "backup/") movedScript
      (Text.ofString "/srv/plain") := by
  have hClimbs : climbsOf backupSettings.parts = 0 := by
    cbv
  have hBelow :
      backupScript.below
          (["work", "backup"].map Text.ofString) =
        [[Text.ofString "x.sql"]] := by
    cbv
  have hOtherBelow :
      movedScript.below
          (["srv", "plain"].map Text.ofString) =
        [[Text.ofString "x.sql"]] := by
    cbv
  refine ⟨["work", "backup"].map Text.ofString,
    ["srv", "plain"].map Text.ofString, by cbv, by cbv, ?_⟩
  rw [hClimbs]
  refine Tree.sameBelow_iff.mpr ?_
  rw [hBelow, hOtherBelow]
  intro way hWay
  simp only [List.cons_append, List.nil_append,
    List.mem_cons, List.not_mem_nil, or_false,
    or_self] at hWay
  rcases hWay with rfl | rfl
  · cbv
  · cbv

theorem haveRoom_backupScript :
    HaveRoom (Text.ofString "backup/")
      (Text.ofString "/srv/plain") backupSettings
      [Text.ofString "backup/x.sql"]
      [Text.ofString "/srv/plain/x.sql"] := by
  have hRest :
      restBelow (Text.ofString "backup/")
          (Text.ofString "backup/x.sql") =
        Text.ofString "x.sql" := by
    cbv
  have hOtherRest :
      restBelow (Text.ofString "/srv/plain")
          (Text.ofString "/srv/plain/x.sql") =
        Text.ofString "x.sql" := by
    cbv
  have hLength : backupSettings.parts.length = 1 := by
    cbv
  intro rest hMem
  rw [List.map_singleton, List.map_singleton, hRest,
    hOtherRest] at hMem
  have hName : rest = Text.ofString "x.sql" := by
    simpa using hMem
  unfold HasRoom
  rw [hName, hLength]
  decide

/-
  What is selected below a base is decided by what is matched
  there and by the markers, which are held against the path
  below the base, or against the whole path if the base begins
  with a dot and goes on to a name.  In another tree and below
  another base with the same around it the same is matched,
  where both bases are steady and have room for it.  So there
  the same is selected, as far as the markers judge by what is
  below the base.
-/
theorem mem_selected_iff_below
    (tree : Tree)
    (base : Text)
    (settings : Settings)
    (paths : List Text)
    (hMatched : matchedFiles tree base settings = .ok paths)
    (hGlob : settings.pattern.head? ≠ some '/') :
    ∃ selected,
      selectScripts tree base settings = .ok selected ∧
        SelectsBelow base settings paths selected ∧
          ∀ (other : Tree) (otherBase : Text)
              (others : List Text),
            matchedFiles other otherBase settings =
                .ok others →
              SameProject settings tree base other
                  otherBase →
                IsSteady base settings →
                  IsSteady otherBase settings →
                    HaveRoom base otherBase settings paths
                        others →
                      ∃ otherSelected,
                        selectScripts other otherBase
                              settings =
                            .ok otherSelected ∧
                          SelectsBelow otherBase settings
                              others otherSelected ∧
                            SelectAlike settings base
                              otherBase paths others selected
                              otherSelected := by
  have hSelects := selectsBelow hMatched hGlob
  refine ⟨keepSelected base settings paths,
    selectScripts_eq_ok_iff.mpr ⟨paths, hMatched, rfl⟩,
    hSelects, ?_⟩
  intro other otherBase others hOthers hSame hSteady
    hOtherSteady hRoom
  have hAlso := selectsBelow hOthers hGlob
  exact ⟨keepSelected otherBase settings others,
    selectScripts_eq_ok_iff.mpr ⟨others, hOthers, rfl⟩, hAlso,
    selectAlike hSelects hAlso
      (map_restBelow_eq hMatched hOthers hGlob hSame hSteady
        hOtherSteady hRoom)⟩

/-
  The marker occurs in one of two bases with the same below
  them, and leaves nothing out below either.
-/
theorem backup_mem_selected_iff_below :
    matchedFiles backupScript (Text.ofString "backup/")
          backupSettings =
        .ok [Text.ofString "backup/x.sql"] ∧
      backupSettings.pattern.head? ≠ some '/' ∧
        matchedFiles movedScript (Text.ofString "/srv/plain")
              backupSettings =
            .ok [Text.ofString "/srv/plain/x.sql"] ∧
          ∃ selected otherSelected,
            selectScripts backupScript
                  (Text.ofString "backup/") backupSettings =
                .ok selected ∧
              selectScripts movedScript
                    (Text.ofString "/srv/plain")
                    backupSettings =
                  .ok otherSelected ∧
                Text.ofString "backup/x.sql" ∈ selected ∧
                  selected.map
                      (restBelow (Text.ofString "backup/")) =
                    otherSelected.map
                      (restBelow
                        (Text.ofString "/srv/plain")) := by
  have hMatched :
      matchedFiles backupScript (Text.ofString "backup/")
          backupSettings =
        .ok [Text.ofString "backup/x.sql"] := by
    cbv
  have hOthers :
      matchedFiles movedScript (Text.ofString "/srv/plain")
          backupSettings =
        .ok [Text.ofString "/srv/plain/x.sql"] := by
    cbv
  have hGlob : backupSettings.pattern.head? ≠ some '/' := by
    decide
  have hSteady :
      IsSteady (Text.ofString "backup/") backupSettings := by
    decide
  have hOtherSteady :
      IsSteady (Text.ofString "/srv/plain")
        backupSettings := by
    decide
  rcases mem_selected_iff_below backupScript
      (Text.ofString "backup/") backupSettings _ hMatched
      hGlob with
    ⟨selected, hSelected, hSelects, hAlike⟩
  rcases hAlike movedScript (Text.ofString "/srv/plain") _
      hOthers sameProject_backupScript hSteady hOtherSteady
      haveRoom_backupScript with
    ⟨otherSelected, hOtherSelected, -, hBoth⟩
  refine ⟨hMatched, hGlob, hOthers, selected, otherSelected,
    hSelected, hOtherSelected, ?_, ?_⟩
  · rw [hSelects.selected_iff _ (by simp)]
    decide
  · apply hBoth.sameOrder
    · exact isJudgedByRest_of_isDotted (by decide)
    · exact isJudgedByRest_of_isDotted (by decide)
    · exact Or.inr (Or.inl (by decide))
    · exact Or.inl (by decide)

/- Below a stalled base nothing is matched, marker or not. -/
example :
    matchedFiles backupScript (Text.ofString ".//backup")
        backupSettings =
      .ok [] := by
  cbv

/- The path below the base does not decide in every case. -/
theorem not_forall_mem_selected_iff_below :
    ¬ ∀ (tree : Tree) (base : Text) (settings : Settings)
        (paths selected : List Text) (path rest : Text),
      matchedFiles tree base settings = .ok paths →
        settings.pattern.head? ≠ some '/' →
          selectScripts tree base settings = .ok selected →
            path ∈ paths →
              IsBelow base path rest →
                (path ∈ selected ↔
                  ∀ marker ∈ settings.exclude,
                    marker ≠ [] →
                      Text.contains marker rest = false) := by
  intro hAll
  have hMatched :
      matchedFiles backupScript (Text.ofString "./backup")
          backupSettings =
        .ok [Text.ofString "backup/x.sql"] := by
    cbv
  have hSelected :
      selectScripts backupScript (Text.ofString "./backup")
          backupSettings =
        .ok [] := by
    cbv
  have hBelow :
      IsBelow (Text.ofString "./backup")
        (Text.ofString "backup/x.sql")
        (Text.ofString "x.sql") :=
    ⟨iff_of_false (by decide) (by decide),
      Text.ofString "backup/", rfl, Or.inr rfl, rfl,
      Text.ofString "x.sql", rfl, rfl⟩
  have hClean :
      ∀ marker ∈ backupSettings.exclude,
        marker ≠ [] →
          Text.contains marker (Text.ofString "x.sql") =
            false := by
    decide
  have hNever :=
    (hAll backupScript (Text.ofString "./backup")
      backupSettings _ _ _ _ hMatched (by decide) hSelected
      (List.mem_singleton.mpr rfl) hBelow).mpr hClean
  contradiction

end SafeRerun
