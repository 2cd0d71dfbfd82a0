import SafeRerun.Proofs.Pattern.Arrival

/-
  What leaves a matched file out of a run.

  Key definitions include:
    * `SafeRerun.IsJudgedByRest`
    * `SafeRerun.SelectsBelow`

  Key theorems include:
    * `SafeRerun.search_fullPattern`
    * `SafeRerun.liesBelow_of_mem_matchedFiles`
    * `SafeRerun.selectsBelow`

  Every file that a pattern matches lies below the base, so
  the markers are held against its path below the base.  The
  exception is a base that begins with a dot and goes on to a
  name: the search finds its files without the dot, nothing
  is cut off, and the markers are held against whole paths.
-/

------------------------------------------------------------
-- Matched Files
------------------------------------------------------------

namespace SafeRerun

variable {tree : Tree}
variable {base path rest : Text}
variable {location : Location}
variable {settings : Settings}
variable {pattern : PathPattern}
variable {paths : List Text}

/- The segments of the pattern, if it is one. -/
def Settings.parts
    (settings : Settings) :
    List PathSegment :=
  match pathSegments (terminatedSegments settings.pattern) with
  | .ok parts => parts
  | .error _ => []

theorem listable_eq_ok_iff :
    listable tree base = .ok () ↔
      ∃ location, LeadsToDirectory tree base location := by
  unfold listable
  constructor
  · intro hListable
    cases hResolve : tree.resolve base with
    | error fault =>
        simp [hResolve] at hListable
    | ok location =>
        simp only [hResolve] at hListable
        split at hListable
        · rename_i hHere
          exact ⟨location, hResolve,
            Tree.holdsDirectory_iff.mp hHere⟩
        · contradiction
  · rintro ⟨location, hBase⟩
    rw [hBase.resolved]
    simp [Tree.holdsDirectory_iff.mpr hBase.directory]

/-
  The search for a whole pattern, from its position at the
  base on.
-/
theorem search_fullPattern
    (hBase : LeadsToDirectory tree base location)
    (hGlob : ¬IsAbsolute settings.pattern)
    (hPattern :
      pathPattern (fullPattern base settings) = .ok pattern) :
    pattern.onlyDirectories =
        (('/' :: settings.pattern).getLast? == some '/') ∧
      IsSplit settings.parts ∧
        (isStalled base = true → pattern.search tree = []) ∧
          (isStalled base = false →
            ∃ middle,
              Stands base 0 middle [] ∧ IsUndotted middle ∧
                searchFrom tree pattern.parts
                    (tree.lookAt pattern.start) =
                  searchFrom tree settings.parts
                    ⟨middle, true⟩) := by
  rcases searchFrom_fullPattern hBase hGlob hPattern with
    ⟨hOnly, parts, hParts, hStalled, hFree⟩
  have hSame : settings.parts = parts := by
    unfold Settings.parts
    rw [hParts]
  rw [hSame]
  refine ⟨hOnly, fun name => not_mem_of_literal_mem hParts,
    fun hStall => ?_, hFree⟩
  unfold PathPattern.search
  rw [hStalled hStall]
  rfl

/- The path that has been reached is what is found. -/
theorem eq_of_mem_last
    {only : Bool}
    {reached : Reached}
    (hFound :
      (.ok path : Finding Text) ∈
        if only && !reached.isDirectory then
          []
        else
          [.ok reached.path]) :
    path = reached.path := by
  split at hFound
  · contradiction
  · rw [List.mem_singleton, Except.ok.injEq] at hFound
    exact hFound

/- What is found stands at a position below the base. -/
theorem exists_stands_of_mem_search
    (hBase : LeadsToDirectory tree base location)
    (hGlob : ¬IsAbsolute settings.pattern)
    (hPattern :
      pathPattern (fullPattern base settings) = .ok pattern)
    (hFound : .ok path ∈ pattern.search tree) :
    ∃ used rest,
      Stands base used path rest ∧
        (IsOrderly base settings.parts → IsUndotted path) := by
  rcases search_fullPattern hBase hGlob hPattern with
    ⟨-, hSplit, hStalled, hFree⟩
  cases hStall : isStalled base with
  | true =>
      rw [hStalled hStall] at hFound
      contradiction
  | false =>
      rcases hFree hStall with
        ⟨middle, hMiddle, hUndotted, hSearch⟩
      unfold PathPattern.search at hFound
      rw [hSearch, mem_goOn_iff] at hFound
      rcases hFound with ⟨reached, hReached, hLast⟩
      have hPath := eq_of_mem_last hLast
      rcases exists_stands_of_mem_searchFrom hSplit hMiddle
          hReached with
        ⟨used, rest, hStands, -, hOrderly⟩
      rw [← hPath] at hStands hOrderly
      exact ⟨used, rest, hStands,
        fun hOrder => hOrderly hOrder hUndotted⟩

/- A file is not where its base is. -/
theorem Stands.ne_nil_of_isFile
    {used : Nat}
    (hStands : Stands base used path rest)
    (hBase : LeadsToDirectory tree base location)
    (hFile : tree.isFile path = true) :
    rest ≠ [] := by
  rintro rfl
  rcases Option.isSome_iff_exists.mp hFile with
    ⟨found, hFound⟩
  rcases Tree.fileAt?_eq_some_iff.mp hFound with
    ⟨hResolve, bytes, hEntry⟩
  have hThere := (Tree.resolve_eq_ok_iff.mp hResolve).2
  have hHere :
      tree.followAll location (segments []) = .ok location :=
    Tree.followAll_of_filter rfl hBase.directory
  rw [hStands.followAll_eq hBase, hHere,
    Except.ok.injEq] at hThere
  rw [← hThere, hBase.directory] at hEntry
  simp at hEntry

theorem endsInName_of_isFile
    (hFile : tree.isFile path = true) :
    EndsInName (segments path) := by
  rcases Option.isSome_iff_exists.mp hFile with
    ⟨found, hFound⟩
  rcases Tree.exists_leadsToFile hFound with
    ⟨above, name, bytes, -, hLeads⟩
  refine ⟨name, ?_, hLeads.plain⟩
  rw [hLeads.segments_eq, List.getLast?_concat]

/- Where a file stands, the rest is what the text says. -/
theorem Stands.restBelow_eq
    {used : Nat}
    (hStands : Stands base used path rest)
    (hBase : LeadsToDirectory tree base location)
    (hFile : tree.isFile path = true) :
    restBelow base path = rest :=
  (hStands.isBelow
    (hStands.ne_nil_of_isFile hBase hFile)).restBelow_eq
      (endsInName_of_isFile hFile)

/- Files are matched below a directory, by a search in it. -/
theorem exists_search_of_matchedFiles
    (hMatched : matchedFiles tree base settings = .ok paths) :
    ∃ (location : Location) (pattern : PathPattern)
        (found : List Text),
      LeadsToDirectory tree base location ∧
        pathPattern (fullPattern base settings) =
            .ok pattern ∧
          pattern.search tree = found.map .ok ∧
            found.filter tree.isFile = paths := by
  rcases matchedFiles_eq_ok_iff.mp hMatched with
    ⟨hListable, pattern, found, hPattern, hSearch, hPaths⟩
  rcases listable_eq_ok_iff.mp hListable with
    ⟨location, hBase⟩
  exact ⟨location, pattern, found, hBase, hPattern, hSearch,
    hPaths⟩

/- Every matched file lies below the base. -/
theorem liesBelow_of_mem_matchedFiles
    (hMatched : matchedFiles tree base settings = .ok paths)
    (hGlob : ¬IsAbsolute settings.pattern)
    (hMem : path ∈ paths) :
    LiesBelow base path (restBelow base path) ∧
      (IsOrderly base settings.parts → IsUndotted path) := by
  rcases exists_search_of_matchedFiles hMatched with
    ⟨location, pattern, found, hBase, hPattern, hSearch, rfl⟩
  rw [List.mem_filter] at hMem
  rcases hMem with ⟨hFound, hFile⟩
  have hFinding : .ok path ∈ pattern.search tree := by
    rw [hSearch]
    exact List.mem_map_of_mem hFound
  rcases exists_stands_of_mem_search hBase hGlob hPattern
      hFinding with
    ⟨used, rest, hStands, hOrderly⟩
  rw [hStands.restBelow_eq hBase hFile]
  have hBelow :=
    hStands.isBelow (hStands.ne_nil_of_isFile hBase hFile)
  refine ⟨⟨hBelow, endsInName_of_isFile hFile, ?_⟩, hOrderly⟩
  intro hNames
  apply hOrderly (Or.inr (Or.inl hNames))
  rw [hBelow.pathNames_eq]
  simp [hNames]

theorem ne_nil_of_matchedFiles
    (hMatched : matchedFiles tree base settings = .ok paths) :
    base ≠ [] := by
  rcases exists_search_of_matchedFiles hMatched with
    ⟨location, pattern, found, hBase, -⟩
  exact hBase.ne_nil

end SafeRerun

------------------------------------------------------------
-- Selected Files
------------------------------------------------------------

namespace SafeRerun

variable {tree : Tree}
variable {base path other rest more : Text}
variable {settings : Settings}
variable {paths : List Text}

/-
  The markers say the same of the rest of each path as of
  what they are held against.
-/
def IsJudgedByRest
    (base : Text)
    (settings : Settings)
    (paths : List Text) : Prop :=
  ∀ path ∈ paths,
    settings.excludes (testedText base path) =
      settings.excludes (restBelow base path)

/- Below a base that is not dotted they always do. -/
theorem isJudgedByRest_of_isDotted
    (hPlain : isDotted base = false) :
    IsJudgedByRest base settings paths := by
  intro path _
  unfold testedText
  rw [hPlain]
  rfl

/- Then they leave out the same paths as they do rests. -/
theorem IsJudgedByRest.map_filter
    (hJudged : IsJudgedByRest base settings paths) :
    (paths.filter fun path =>
          !settings.excludes (testedText base path)).map
        (restBelow base) =
      (paths.map (restBelow base)).filter fun rest =>
        !settings.excludes rest := by
  rw [List.filter_map]
  congr 1
  apply List.filter_congr
  intro path hMem
  rw [hJudged path hMem]
  rfl

/-
  Every matched file has a path below the base, and it is
  selected exactly when no marker occurs there, or in its
  whole path if the base begins with a dot and goes on to a
  name.  What is selected below the base is decided by what
  is matched below it, in order too.  If an empty segment
  stands behind the dots of the base, nothing is matched.
-/
structure SelectsBelow
    (base : Text)
    (settings : Settings)
    (paths selected : List Text) : Prop where
  below :
    ∀ path ∈ paths,
      IsBelow base path (restBelow base path)
  selected_iff :
    ∀ path ∈ paths,
      path ∈ selected ↔
        ∀ marker ∈ settings.exclude,
          marker ≠ [] →
            Text.contains marker (testedText base path) = false
  kept :
    selected =
      (paths.filter fun path =>
        !settings.excludes (testedText base path)).mergeSort
          pathBefore
  listed :
    IsOrderly base settings.parts →
      IsJudgedByRest base settings paths →
        selected.map (restBelow base) =
          ((paths.map (restBelow base)).filter fun rest =>
            !settings.excludes rest).mergeSort pathBefore
  stalled :
    isStalled base = true → paths = []

theorem excludes_eq_false_iff
    {t : Text} :
    settings.excludes t = false ↔
      ∀ marker ∈ settings.exclude,
        marker ≠ [] → Text.contains marker t = false := by
  unfold Settings.excludes
  rw [List.any_eq_false]
  simp

/- Paths without a dot in front open as their base does. -/
theorem LiesBelow.opening_eq_of_isUndotted
    (hPath : LiesBelow base path rest)
    (hOther : LiesBelow base other more)
    (hPlain : IsUndotted path)
    (hOtherPlain : IsUndotted other) :
    opening path = opening other := by
  have hOpens :
      ∀ {path rest : Text},
        LiesBelow base path rest →
          IsUndotted path →
            ¬IsAbsolute base → opening path = [] := by
    intro path rest hLies hUndotted hRoot
    have hNames : pathNames path ≠ [] := by
      rw [hLies.below.pathNames_eq]
      simp [hLies.below.beginsInName.pathNames_ne_nil]
    exact opening_of_beginsInName
      ((beginsInName_or_dot hLies.ends.ne_nil
        (mt hLies.below.1.mp hRoot)).resolve_right
          (hUndotted hNames))
  by_cases hRoot : IsAbsolute base
  · rw [opening_of_isAbsolute (hPath.below.1.mpr hRoot),
      opening_of_isAbsolute (hOther.below.1.mpr hRoot)]
  · rw [hOpens hPath hPlain hRoot,
      hOpens hOther hOtherPlain hRoot]

/- What is matched decides what is selected. -/
theorem selectsBelow
    (hMatched : matchedFiles tree base settings = .ok paths)
    (hGlob : ¬IsAbsolute settings.pattern) :
    SelectsBelow base settings paths
      (keepSelected base settings paths) := by
  have hSome := ne_nil_of_matchedFiles hMatched
  have hLies :
      ∀ path ∈ paths,
        LiesBelow base path (restBelow base path) :=
    fun path hMem =>
      (liesBelow_of_mem_matchedFiles hMatched hGlob hMem).1
  have hTested :
      ∀ path ∈ paths,
        isLeftOut base settings path =
          settings.excludes (testedText base path) := by
    intro path hMem
    unfold isLeftOut
    rw [(hLies path hMem).relativeTo_eq hSome]
  have hKept :
      keepSelected base settings paths =
        (paths.filter fun path =>
          !settings.excludes (testedText base path)).mergeSort
            pathBefore := by
    unfold keepSelected
    congr 1
    apply List.filter_congr
    intro path hMem
    rw [hTested path hMem]
  constructor
  case below =>
    exact fun path hMem => (hLies path hMem).below
  case selected_iff =>
    intro path hMem
    rw [mem_keepSelected_iff, hTested path hMem,
      excludes_eq_false_iff]
    exact and_iff_right hMem
  case kept =>
    exact hKept
  case listed =>
    intro hOrderly hJudged
    rw [hKept, ← hJudged.map_filter, ← List.map_mergeSort]
    intro path hPath other hOther
    have hMem := (List.mem_filter.mp hPath).1
    have hAlso := (List.mem_filter.mp hOther).1
    have hUndotted : ∀ path ∈ paths, IsUndotted path :=
      fun path hMem =>
        (liesBelow_of_mem_matchedFiles hMatched hGlob
          hMem).2 hOrderly
    exact (IsBelow.pathBefore_eq
      ((hLies path hMem).opening_eq_of_isUndotted
        (hLies other hAlso) (hUndotted path hMem)
        (hUndotted other hAlso))
      (hLies path hMem).below (hLies other hAlso).below)
  case stalled =>
    intro hStall
    rcases exists_search_of_matchedFiles hMatched with
      ⟨location, pattern, found, hBase, hPattern, hSearch,
        hPaths⟩
    rw [(search_fullPattern hBase hGlob hPattern).2.2.1
      hStall, eq_comm, List.map_eq_nil_iff] at hSearch
    rw [← hPaths, hSearch]
    rfl

end SafeRerun
