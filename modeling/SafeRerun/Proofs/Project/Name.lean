import Mathlib.Data.List.Basic
import SafeRerun.Proofs.Project.Segment

/-
  The names in a path.

  Key definitions include:
    * `SafeRerun.pathNames`
    * `SafeRerun.BeginsInName`
    * `SafeRerun.IsAbsolute`

  Key theorems include:
    * `SafeRerun.components_eq`
    * `SafeRerun.isHere_iff`
    * `SafeRerun.pathNames_joinPath`
    * `SafeRerun.segments_joinSegments`

  Empty segments and single dots lead nowhere, so what a path
  names are its other segments.  Two spellings of a path have
  the same names, and joining paths joins their names.
-/

------------------------------------------------------------
-- Names
------------------------------------------------------------

namespace SafeRerun

variable {path directory name : Text}

/- The segments of a path that lead on. -/
def pathNames
    (path : Text) :
    List Text :=
  (segments path).filter fun segment => !isIdle segment

/- The first segment of the path leads on. -/
def BeginsInName
    (path : Text) : Prop :=
  ∃ first,
    (segments path).head? = some first ∧
      isIdle first = false

/- The path begins at the root. -/
def IsAbsolute
    (path : Text) : Prop :=
  path.head? = some '/'

instance (path : Text) : Decidable (IsAbsolute path) :=
  inferInstanceAs (Decidable (path.head? = some '/'))

theorem pathNames_append_slash
    (a b : Text) :
    pathNames (a ++ '/' :: b) =
      pathNames a ++ pathNames b := by
  unfold pathNames
  rw [segments_append_slash, List.filter_append]

theorem head?_segments_append_slash
    (a b : Text) :
    (segments (a ++ '/' :: b)).head? =
      (segments a).head? := by
  rw [segments_append_slash,
    List.head?_append_of_ne_nil _ (segments_ne_nil a)]

theorem head?_segments_of_isAbsolute
    (hRoot : IsAbsolute path) :
    (segments path).head? = some [] := by
  unfold IsAbsolute at hRoot
  cases path with
  | nil =>
      contradiction
  | cons c rest =>
      rw [List.head?_cons, Option.some.injEq] at hRoot
      simp [segments, hRoot]

theorem BeginsInName.not_isAbsolute
    (hBegins : BeginsInName path) :
    ¬IsAbsolute path := by
  intro hRoot
  rcases hBegins with ⟨first, hFirst, hLeads⟩
  rw [head?_segments_of_isAbsolute hRoot,
    Option.some.injEq] at hFirst
  rw [← hFirst] at hLeads
  contradiction

theorem BeginsInName.ne_nil
    (hBegins : BeginsInName path) :
    path ≠ [] := by
  rintro rfl
  rcases hBegins with ⟨first, hFirst, hLeads⟩
  rw [segments, List.head?_cons, Option.some.injEq] at hFirst
  rw [← hFirst] at hLeads
  contradiction

/- A path that begins in a name has one. -/
theorem BeginsInName.pathNames_ne_nil
    (hBegins : BeginsInName path) :
    pathNames path ≠ [] := by
  rcases hBegins with ⟨first, hFirst, hLeads⟩
  have hMem := List.mem_of_head? hFirst
  have hName : first ∈ pathNames path :=
    List.mem_filter.mpr ⟨hMem, by simp [hLeads]⟩
  exact List.ne_nil_of_mem hName

end SafeRerun

------------------------------------------------------------
-- Joined Paths
------------------------------------------------------------

namespace SafeRerun

variable {directory name : Text}

/-
  A name is put behind a slash, which may be the one that
  ends the directory.
-/
theorem exists_front_joinPath
    (hDirectory : directory ≠ [])
    (hName : ¬IsAbsolute name) :
    ∃ front,
      joinPath directory name = front ++ '/' :: name ∧
        pathNames front = pathNames directory ∧
          (segments front).head? =
            (segments directory).head? := by
  unfold IsAbsolute at hName
  unfold joinPath
  by_cases hSlash : directory.getLast? = some '/'
  · rcases List.getLast?_eq_some_iff.mp hSlash with
      ⟨front, rfl⟩
    refine ⟨front, ?_, ?_, ?_⟩
    · simp [hName]
    · rw [pathNames_append_slash]
      exact (List.append_nil _).symm
    · rw [head?_segments_append_slash]
  · exact ⟨directory, by simp [hName, hDirectory, hSlash],
      rfl, rfl⟩

/- The names of a joined path are those of its parts. -/
theorem pathNames_joinPath
    (hName : ¬IsAbsolute name) :
    pathNames (joinPath directory name) =
      pathNames directory ++ pathNames name := by
  by_cases hDirectory : directory = []
  · subst hDirectory
    unfold joinPath
    simp [pathNames, segments, isIdle]
  · rcases exists_front_joinPath hDirectory hName with
      ⟨front, hJoined, hNames, -⟩
    rw [hJoined, pathNames_append_slash, hNames]

/- A joined path begins as the directory does. -/
theorem BeginsInName.joinPath
    (hBegins : BeginsInName directory)
    (hName : ¬IsAbsolute name) :
    BeginsInName (joinPath directory name) := by
  rcases exists_front_joinPath hBegins.ne_nil hName with
    ⟨front, hJoined, -, hSame⟩
  rcases hBegins with ⟨first, hFirst, hLeads⟩
  refine ⟨first, ?_, hLeads⟩
  rw [hJoined, head?_segments_append_slash, hSame, hFirst]

theorem joinPath_of_isAbsolute
    (hName : IsAbsolute name) :
    joinPath directory name = name := by
  unfold IsAbsolute at hName
  unfold joinPath
  rw [hName]
  rfl

/- A joined path is absolute where the directory is. -/
theorem isAbsolute_joinPath_iff
    (hDirectory : directory ≠ [])
    (hName : ¬IsAbsolute name) :
    IsAbsolute (joinPath directory name) ↔
      IsAbsolute directory := by
  unfold IsAbsolute at hName ⊢
  unfold joinPath
  rw [if_neg (by simpa using hName)]
  split
  · rw [List.head?_append_of_ne_nil _ hDirectory]
  · rw [List.head?_append_of_ne_nil _ hDirectory]

theorem IsAbsolute.joinPath
    (hRoot : IsAbsolute directory) :
    IsAbsolute (joinPath directory name) := by
  by_cases hName : IsAbsolute name
  · rw [joinPath_of_isAbsolute hName]
    exact hName
  · have hSome : directory ≠ [] := by
      rintro rfl
      contradiction
    exact (isAbsolute_joinPath_iff hSome hName).mpr hRoot

end SafeRerun

------------------------------------------------------------
-- Components
------------------------------------------------------------

namespace SafeRerun

variable {path : Text}

/- The component of a name. -/
def nameComponent
    (name : Text) :
    Component :=
  if name == ['.', '.'] then .parent else .name name

/- The component that tells where a path begins, if it does. -/
def opening
    (path : Text) :
    List Component :=
  if (segments path).head? = some ['.'] then
    [.here]
  else if path.head? = some '/' then
    [.root]
  else
    []

/- A relative path has no empty first segment. -/
theorem head?_segments_ne_nil
    (hSome : path ≠ [])
    (hPath : ¬IsAbsolute path) :
    (segments path).head? ≠ some [] := by
  unfold IsAbsolute at hPath
  cases path with
  | nil =>
      contradiction
  | cons c rest =>
      have hSlash : c ≠ '/' := by
        simpa using hPath
      unfold segments
      rw [if_neg hSlash]
      cases segments rest with
      | nil =>
          simp
      | cons name names =>
          simp

/- A relative path begins in a name or in a dot. -/
theorem beginsInName_or_dot
    (hSome : path ≠ [])
    (hPath : ¬IsAbsolute path) :
    BeginsInName path ∨
      (segments path).head? = some ['.'] := by
  have hFirst := head?_segments_ne_nil hSome hPath
  cases hSegments : segments path with
  | nil =>
      exact absurd hSegments (segments_ne_nil path)
  | cons first rest =>
      rw [hSegments, List.head?_cons, Ne,
        Option.some.injEq] at hFirst
      by_cases hDot : first = ['.']
      · exact Or.inr (by simp [hDot])
      · refine Or.inl ⟨first, by simp [hSegments], ?_⟩
        simp [isIdle, hFirst, hDot]

/- A path begins in a name, with a dot, or at the root. -/
theorem opens_cases
    (hSome : path ≠ []) :
    BeginsInName path ∨
      (segments path).head? = some ['.'] ∨
        IsAbsolute path := by
  by_cases hRoot : IsAbsolute path
  · exact Or.inr (Or.inr hRoot)
  · rcases beginsInName_or_dot hSome hRoot with
      hBegins | hDot
    · exact Or.inl hBegins
    · exact Or.inr (Or.inl hDot)

theorem not_isAbsolute_of_head?
    (hDot : (segments path).head? = some ['.']) :
    ¬IsAbsolute path := by
  intro hRoot
  rw [head?_segments_of_isAbsolute hRoot] at hDot
  contradiction

theorem opening_of_beginsInName
    (hBegins : BeginsInName path) :
    opening path = [] := by
  have hPath := hBegins.not_isAbsolute
  rcases hBegins with ⟨first, hFirst, hLeads⟩
  unfold IsAbsolute at hPath
  unfold opening
  rw [hFirst, if_neg, if_neg hPath]
  rintro hDot
  rw [Option.some.injEq] at hDot
  subst hDot
  contradiction

theorem opening_of_head?
    (hDot : (segments path).head? = some ['.']) :
    opening path = [.here] := by
  unfold opening
  rw [if_pos hDot]

theorem opening_of_isAbsolute
    (hRoot : IsAbsolute path) :
    opening path = [.root] := by
  have hEmpty := head?_segments_of_isAbsolute hRoot
  unfold IsAbsolute at hRoot
  unfold opening
  rw [hEmpty, if_neg (by simp), if_pos hRoot]

theorem nameComponent_ne_here
    (name : Text) :
    nameComponent name ≠ .here := by
  unfold nameComponent
  split
  · simp
  · simp

theorem laterComponent?_eq
    (segment : Text) :
    laterComponent? segment =
      if isIdle segment then
        none
      else
        some (nameComponent segment) := by
  unfold laterComponent? nameComponent
  split
  · rfl
  · split
    · rfl
    · rfl

theorem filterMap_laterComponent?
    (names : List Text) :
    names.filterMap laterComponent? =
      (names.filter fun segment => !isIdle segment).map
        nameComponent := by
  induction names with
  | nil =>
      rfl
  | cons segment rest ih =>
      rw [List.filterMap_cons, List.filter_cons, ih,
        laterComponent?_eq]
      cases isIdle segment with
      | true =>
          rfl
      | false =>
          rfl

/- The components of a path are its opening and its names. -/
theorem components_eq
    (path : Text) :
    components path =
      opening path ++ (pathNames path).map nameComponent := by
  unfold components opening pathNames firstComponent?
  cases hSegments : segments path with
  | nil =>
      exact absurd hSegments (segments_ne_nil path)
  | cons first rest =>
      simp only [filterMap_laterComponent?, List.head?_cons,
        Option.some.injEq, beq_iff_eq]
      by_cases hDot : first = ['.']
      · subst hDot
        simp [isIdle]
      · by_cases hRoot : path.head? = some '/'
        · have hEmpty := head?_segments_of_isAbsolute hRoot
          rw [hSegments, List.head?_cons,
            Option.some.injEq] at hEmpty
          subst hEmpty
          simp [hRoot, isIdle]
        · simp only [hDot, hRoot, if_false, List.nil_append,
            laterComponent?_eq, List.filter_cons]
          cases isIdle first with
          | true =>
              rfl
          | false =>
              rfl

/- A path is one dot if it is relative and has no names. -/
theorem isHere_iff :
    isHere path = true ↔
      path ≠ [] ∧ ¬IsAbsolute path ∧ pathNames path = [] := by
  unfold isHere
  rw [beq_iff_eq, components_eq]
  by_cases hSome : path = []
  · subst hSome
    simp [opening, pathNames, segments, isIdle]
  · rcases opens_cases hSome with hBegins | hDot | hRoot
    · have hNames := hBegins.pathNames_ne_nil
      rw [opening_of_beginsInName hBegins, List.nil_append,
        List.map_eq_singleton_iff]
      constructor
      · rintro ⟨name, -, hName⟩
        exact absurd hName (nameComponent_ne_here name)
      · rintro ⟨-, -, hNone⟩
        exact absurd hNone hNames
    · rw [opening_of_head? hDot]
      simp [hSome, not_isAbsolute_of_head? hDot]
    · rw [opening_of_isAbsolute hRoot]
      simp [hRoot]

end SafeRerun

------------------------------------------------------------
-- Joined Segments
------------------------------------------------------------

namespace SafeRerun

@[simp] theorem joinSegments_singleton
    (part : Text) :
    joinSegments [part] = part := by
  simp [joinSegments, Text.joinWith]

theorem joinSegments_cons
    {rest : List Text}
    (part : Text)
    (hRest : rest ≠ []) :
    joinSegments (part :: rest) =
      part ++ '/' :: joinSegments rest := by
  cases rest with
  | nil =>
      contradiction
  | cons next more =>
      simp [joinSegments, Text.joinWith, List.intercalate]

theorem joinSegments_append
    {front back : List Text}
    (hFront : front ≠ [])
    (hBack : back ≠ []) :
    joinSegments (front ++ back) =
      joinSegments front ++ '/' :: joinSegments back := by
  induction front with
  | nil =>
      contradiction
  | cons part rest ih =>
      by_cases hRest : rest = []
      · subst hRest
        rw [List.singleton_append, joinSegments_cons _ hBack,
          joinSegments_singleton]
      · rw [List.cons_append,
          joinSegments_cons _ (by simp [hRest]), ih hRest,
          joinSegments_cons _ hRest, List.append_assoc,
          List.cons_append]

/- Segments that hold no slash are those of their text. -/
theorem segments_joinSegments
    {parts : List Text}
    (hParts : parts ≠ [])
    (hSlash : ∀ part ∈ parts, '/' ∉ part) :
    segments (joinSegments parts) = parts := by
  induction parts with
  | nil =>
      contradiction
  | cons part rest ih =>
      have hPart :=
        segments_of_not_mem (hSlash part (by simp))
      by_cases hRest : rest = []
      · subst hRest
        rw [joinSegments_singleton, hPart]
      · rw [joinSegments_cons _ hRest, segments_append_slash,
          hPart, ih hRest fun other hMem =>
            hSlash other (by simp [hMem])]
        rfl

/- A path is the text of its segments. -/
theorem joinSegments_segments
    (path : Text) :
    joinSegments (segments path) = path := by
  induction path with
  | nil =>
      rfl
  | cons c rest ih =>
      unfold segments
      by_cases hSlash : c = '/'
      · rw [if_pos hSlash,
          joinSegments_cons _ (segments_ne_nil rest), ih,
          hSlash]
        rfl
      · rw [if_neg hSlash]
        cases hRest : segments rest with
        | nil =>
            exact absurd hRest (segments_ne_nil rest)
        | cons name names =>
            rw [hRest] at ih
            rw [← ih]
            by_cases hNames : names = []
            · simp [hNames]
            · simp [joinSegments_cons _ hNames]

end SafeRerun
