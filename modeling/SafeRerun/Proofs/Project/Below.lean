import Mathlib.Data.List.TakeWhile
import SafeRerun.Proofs.Project.Name

/-
  Paths below a base directory.

  Key definitions include:
    * `SafeRerun.IsBelow`
    * `SafeRerun.restBelow`
    * `SafeRerun.LiesBelow`
    * `SafeRerun.isDotted`
    * `SafeRerun.testedText`

  Key theorems include:
    * `SafeRerun.IsBelow.unique`
    * `SafeRerun.IsBelow.restBelow_eq`
    * `SafeRerun.LiesBelow.relativeTo_eq`
    * `SafeRerun.IsBelow.pathBefore_eq`

  The path below a base is what stands behind the names of
  the base, from the first name on.  Cutting the base off
  leaves it, unless the base begins with a dot that the path
  does not have: then nothing is cut off.
-/

------------------------------------------------------------
-- Below a Base
------------------------------------------------------------

namespace SafeRerun

variable {base path : Text}

/-
  The rest of the path behind the names of the base, from its
  first name on.  The path begins at the root if the base
  does.
-/
def IsBelow
    (base path rest : Text) : Prop :=
  (IsAbsolute path ↔ IsAbsolute base) ∧
    ∃ lead,
      path = lead ++ rest ∧
        (lead = [] ∨ lead.getLast? = some '/') ∧
          pathNames lead = pathNames base ∧
            BeginsInName rest

/- A lead adds its names to those of what stands behind it. -/
theorem pathNames_lead_append
    {lead : Text}
    (rest : Text)
    (hLead : lead = [] ∨ lead.getLast? = some '/') :
    pathNames (lead ++ rest) =
      pathNames lead ++ pathNames rest := by
  rcases hLead with rfl | hEnds
  · rfl
  · rcases List.getLast?_eq_some_iff.mp hEnds with
      ⟨front, rfl⟩
    have hNone : pathNames [] = [] := rfl
    rw [List.append_assoc, List.singleton_append,
      pathNames_append_slash, pathNames_append_slash, hNone,
      List.append_nil]

theorem IsBelow.pathNames_eq
    {rest : Text}
    (hBelow : IsBelow base path rest) :
    pathNames path = pathNames base ++ pathNames rest := by
  rcases hBelow with ⟨-, lead, rfl, hLead, hNames, -⟩
  rw [pathNames_lead_append rest hLead, hNames]

theorem IsBelow.beginsInName
    {rest : Text}
    (hBelow : IsBelow base path rest) :
    BeginsInName rest := by
  rcases hBelow with ⟨-, -, -, -, -, hBegins⟩
  exact hBegins

/- Of two leads, a longer one has more names. -/
theorem eq_nil_of_lead_append
    {lead more rest : Text}
    (hLead : lead = [] ∨ lead.getLast? = some '/')
    (hLonger :
      lead ++ more = [] ∨
        (lead ++ more).getLast? = some '/')
    (hNames : pathNames (lead ++ more) = pathNames lead)
    (hBegins : BeginsInName (more ++ rest)) :
    more = [] := by
  by_contra hMore
  have hSlash : more.getLast? = some '/' := by
    rcases hLonger with hNil | hEnds
    · simp [hMore] at hNil
    · rwa [List.getLast?_append_of_ne_nil _ hMore] at hEnds
  rcases List.getLast?_eq_some_iff.mp hSlash with
    ⟨front, rfl⟩
  -- The name at the beginning of the rest is one of the lead.
  have hFront : pathNames front ≠ [] := by
    apply BeginsInName.pathNames_ne_nil
    rcases hBegins with ⟨first, hFirst, hLeads⟩
    refine ⟨first, ?_, hLeads⟩
    rw [List.append_assoc, List.singleton_append,
      head?_segments_append_slash] at hFirst
    exact hFirst
  have hNone : pathNames [] = [] := rfl
  rw [pathNames_lead_append _ hLead, pathNames_append_slash,
    hNone, List.append_nil,
    List.append_right_eq_self] at hNames
  exact hFront hNames

/- There is one path below a base at most. -/
theorem IsBelow.unique
    {rest other : Text}
    (hRest : IsBelow base path rest)
    (hOther : IsBelow base path other) :
    rest = other := by
  rcases hRest with
    ⟨-, lead, rfl, hLead, hNames, hBegins⟩
  rcases hOther with
    ⟨-, second, hPath, hSecond, hSame, hBegun⟩
  rcases List.append_eq_append_iff.mp hPath with
    ⟨more, rfl, rfl⟩ | ⟨more, rfl, rfl⟩
  · have hNone :=
      eq_nil_of_lead_append hLead hSecond
        (hSame.trans hNames.symm) hBegins
    rw [hNone, List.nil_append]
  · have hNone :=
      eq_nil_of_lead_append hSecond hLead
        (hNames.trans hSame.symm) hBegun
    rw [hNone, List.nil_append]

end SafeRerun

------------------------------------------------------------
-- Dropping Segments
------------------------------------------------------------

namespace SafeRerun

variable {base path : Text}

/- What is dropped are so many names and idle segments. -/
theorem exists_front_dropComponents
    (count : Nat)
    (parts : List Text) :
    ∃ front,
      parts = front ++ dropComponents count parts ∧
        (front.filter fun s => !isIdle s) =
          (parts.filter fun s => !isIdle s).take count := by
  induction parts generalizing count with
  | nil =>
      refine ⟨[], ?_, ?_⟩
      · cases count with
        | zero =>
            rfl
        | succ count =>
            rfl
      · simp
  | cons part rest ih =>
      cases count with
      | zero =>
          exact ⟨[], rfl, by simp⟩
      | succ count =>
          rw [dropComponents]
          by_cases hIdle : isIdle part = true
          · rcases ih (count + 1) with ⟨front, hRest, hNames⟩
            refine ⟨part :: front, ?_, ?_⟩
            · rw [if_pos hIdle, List.cons_append, ← hRest]
            · simp [hIdle, hNames]
          · rcases ih count with ⟨front, hRest, hNames⟩
            refine ⟨part :: front, ?_, ?_⟩
            · rw [if_neg hIdle, List.cons_append, ← hRest]
            · simp [hIdle, hNames]

/- The last of the segments leads on. -/
def EndsInName
    (parts : List Text) : Prop :=
  ∃ last, parts.getLast? = some last ∧ isIdle last = false

/- Segments that end in a name are trimmed in front only. -/
theorem EndsInName.trimIdle_eq
    {parts : List Text}
    (hEnds : EndsInName parts) :
    trimIdle parts = parts.dropWhile isIdle := by
  rcases hEnds with ⟨last, hLast, hLeads⟩
  rcases List.getLast?_eq_some_iff.mp hLast with
    ⟨front, rfl⟩
  unfold trimIdle
  rw [List.dropWhile_append]
  split
  · simp [hLeads]
  · simp [hLeads]

theorem EndsInName.exists_front
    {parts : List Text}
    (hEnds : EndsInName parts) :
    ∃ front first more,
      parts = front ++ trimIdle parts ∧
        (front.filter fun s => !isIdle s) = [] ∧
          trimIdle parts = first :: more ∧
            isIdle first = false := by
  have hTrim := hEnds.trimIdle_eq
  rcases hEnds with ⟨last, hLast, hLeads⟩
  have hMem := List.mem_of_getLast? hLast
  cases hDrop : parts.dropWhile isIdle with
  | nil =>
      rw [List.dropWhile_eq_nil_iff] at hDrop
      have hIdle := hDrop last hMem
      rw [hLeads] at hIdle
      contradiction
  | cons first more =>
      refine ⟨parts.takeWhile isIdle, first, more, ?_, ?_, ?_,
        ?_⟩
      · rw [hTrim, List.takeWhile_append_dropWhile]
      · rw [List.filter_eq_nil_iff]
        intro s hIdle
        simp [List.mem_takeWhile_imp hIdle]
      · rw [hTrim, hDrop]
      · have hHead :=
          List.head?_dropWhile_not isIdle parts
        rw [hDrop] at hHead
        simpa using hHead

/-
  Behind segments with the names of the base stands the path
  below it.
-/
theorem isBelow_of_segments
    {front back : List Text}
    (hRooted : IsAbsolute path ↔ IsAbsolute base)
    (hSegments : segments path = front ++ back)
    (hNames :
      (front.filter fun s => !isIdle s) = pathNames base)
    (hEnds : EndsInName back) :
    IsBelow base path (joinSegments (trimIdle back)) := by
  rcases hEnds.exists_front with
    ⟨idle, first, more, hBack, hIdle, hTrim, hLeads⟩
  have hSome : trimIdle back ≠ [] := by
    simp [hTrim]
  have hPath :
      path = joinSegments ((front ++ idle) ++ trimIdle back) := by
    rw [List.append_assoc, ← hBack, ← hSegments,
      joinSegments_segments]
  have hSlash :
      ∀ part ∈ (front ++ idle) ++ trimIdle back,
        '/' ∉ part := by
    rw [List.append_assoc, ← hBack, ← hSegments]
    exact fun part hMem => not_mem_of_mem_segments hMem
  have hBegins :
      BeginsInName (joinSegments (trimIdle back)) := by
    refine ⟨first, ?_, hLeads⟩
    rw [segments_joinSegments hSome fun part hMem =>
        hSlash part (List.mem_append_right _ hMem), hTrim]
    rfl
  by_cases hFront : front ++ idle = []
  · refine ⟨hRooted, [], ?_, Or.inl rfl, ?_, hBegins⟩
    · rw [hPath, hFront]
      rfl
    · rw [List.append_eq_nil_iff] at hFront
      rw [← hNames, hFront.1]
      rfl
  · refine ⟨hRooted, joinSegments (front ++ idle) ++ ['/'],
      ?_, ?_, ?_, hBegins⟩
    · rw [List.append_assoc, List.singleton_append,
        ← joinSegments_append hFront hSome]
      exact hPath
    · exact Or.inr List.getLast?_concat
    · rw [pathNames_append_slash]
      unfold pathNames
      rw [segments_joinSegments hFront fun part hMem =>
          hSlash part (List.mem_append_left _ hMem),
        List.filter_append, hIdle, hNames]
      simp [pathNames, segments, isIdle]

end SafeRerun

------------------------------------------------------------
-- Cutting Off a Base
------------------------------------------------------------

namespace SafeRerun

variable {base path rest : Text}

/-
  The path ends in a name below the base.  If the base has a
  name at all, the path does not begin with a dot.
-/
structure LiesBelow
    (base path rest : Text) : Prop where
  below : IsBelow base path rest
  ends : EndsInName (segments path)
  undotted :
    pathNames base ≠ [] →
      (segments path).head? ≠ some ['.']

theorem EndsInName.ne_nil
    (hEnds : EndsInName (segments path)) :
    path ≠ [] := by
  rintro rfl
  rcases hEnds with ⟨last, hLast, hLeads⟩
  rw [segments, List.getLast?_singleton,
    Option.some.injEq] at hLast
  subst hLast
  contradiction

/- Behind the names of the base there are others. -/
theorem IsBelow.endsInName
    {front back : List Text}
    (hBelow : IsBelow base path rest)
    (hEnds : EndsInName (segments path))
    (hSegments : segments path = front ++ back)
    (hNames :
      (front.filter fun s => !isIdle s) = pathNames base) :
    EndsInName back := by
  have hBack : back ≠ [] := by
    rintro rfl
    have hPath := hBelow.pathNames_eq
    have hRest := hBelow.beginsInName.pathNames_ne_nil
    rw [List.append_nil] at hSegments
    unfold pathNames at hNames hPath hRest
    rw [hSegments, hNames] at hPath
    exact hRest (List.append_right_eq_self.mp hPath.symm)
  rcases hEnds with ⟨last, hLast, hLeads⟩
  rw [hSegments,
    List.getLast?_append_of_ne_nil _ hBack] at hLast
  exact ⟨last, hLast, hLeads⟩

theorem IsBelow.take_eq
    (hBelow : IsBelow base path rest) :
    (pathNames path).take (pathNames base).length =
      pathNames base := by
  rw [hBelow.pathNames_eq, List.take_left]

/- The text behind the names of the base, where a name ends it. -/
def restBelow
    (base path : Text) :
    Text :=
  joinSegments
    (trimIdle
      (dropComponents (pathNames base).length
        (segments path)))

theorem IsBelow.restBelow_eq
    (hBelow : IsBelow base path rest)
    (hEnds : EndsInName (segments path)) :
    restBelow base path = rest := by
  rcases exists_front_dropComponents (pathNames base).length
      (segments path) with
    ⟨front, hSegments, hNames⟩
  have hFront := hNames.trans hBelow.take_eq
  exact (isBelow_of_segments hBelow.1 hSegments hFront
    (hBelow.endsInName hEnds hSegments hFront)).unique hBelow

/-
  Behind as many components as the opening and some names
  have stands what follows these names.
-/
theorem exists_front_pathAfter
    (count : Nat)
    (hSome : path ≠ [])
    (hCount : 0 < (opening path).length + count) :
    ∃ front back,
      segments path = front ++ back ∧
        (front.filter fun s => !isIdle s) =
            (pathNames path).take count ∧
          pathAfter ((opening path).length + count) path =
            joinSegments (trimIdle back) := by
  have hOpens := opens_cases hSome
  unfold pathAfter firstComponent? pathNames
  cases hSegments : segments path with
  | nil =>
      exact absurd hSegments (segments_ne_nil path)
  | cons first rest =>
      rcases hOpens with hBegins | hDot | hRoot
      · -- The first segment is a name and counts as one.
        have hOpening := opening_of_beginsInName hBegins
        have hPath := hBegins.not_isAbsolute
        rcases hBegins with ⟨name, hName, hLeads⟩
        rw [hSegments, List.head?_cons,
          Option.some.injEq] at hName
        subst hName
        have hDot : first ≠ ['.'] := by
          rintro rfl
          contradiction
        unfold IsAbsolute at hPath
        rw [hOpening] at hCount ⊢
        rcases Nat.exists_eq_succ_of_ne_zero
            (by simpa using Nat.ne_of_gt hCount) with
          ⟨less, rfl⟩
        rcases exists_front_dropComponents less rest with
          ⟨front, hRest, hNames⟩
        refine ⟨first :: front, dropComponents less rest, ?_,
          ?_, ?_⟩
        · rw [List.cons_append, ← hRest]
        · simp [hLeads, hNames]
        · simp [hDot, hPath, laterComponent?_eq, hLeads]
      · rw [opening_of_head? hDot]
        rw [hSegments, List.head?_cons,
          Option.some.injEq] at hDot
        subst hDot
        rcases exists_front_dropComponents count rest with
          ⟨front, hRest, hNames⟩
        refine ⟨['.'] :: front, dropComponents count rest, ?_,
          ?_, ?_⟩
        · rw [List.cons_append, ← hRest]
        · simpa [isIdle] using hNames
        · simp
      · have hEmpty := head?_segments_of_isAbsolute hRoot
        rw [opening_of_isAbsolute hRoot]
        rw [hSegments, List.head?_cons,
          Option.some.injEq] at hEmpty
        subst hEmpty
        unfold IsAbsolute at hRoot
        rcases exists_front_dropComponents count rest with
          ⟨front, hRest, hNames⟩
        refine ⟨[] :: front, dropComponents count rest, ?_,
          ?_, ?_⟩
        · rw [List.cons_append, ← hRest]
        · simpa [isIdle] using hNames
        · simp [hRoot]

/- The base begins with a dot and goes on to a name. -/
def isDotted
    (base : Text) :
    Bool :=
  (segments base).head? == some ['.'] &&
    pathNames base != []

/- A path without a dot does not begin as a dotted base. -/
theorem not_prefix_of_beginsInName
    (hDot : (segments base).head? = some ['.'])
    (hBegins : BeginsInName path) :
    ¬components base <+: components path := by
  rw [components_eq, components_eq, opening_of_head? hDot,
    opening_of_beginsInName hBegins, List.nil_append]
  intro hPrefix
  cases hNames : pathNames path with
  | nil =>
      exact hBegins.pathNames_ne_nil hNames
  | cons name names =>
      rw [hNames, List.map_cons, List.singleton_append,
        List.cons_prefix_cons] at hPrefix
      exact nameComponent_ne_here name hPrefix.1.symm

theorem relativeTo_of_apart
    (hApart : ¬components base <+: components path) :
    relativeTo base path = path := by
  rw [← List.isPrefixOf_iff_prefix] at hApart
  unfold relativeTo stripBase?
  rw [if_neg hApart]
  rfl

theorem relativeTo_of_starts
    (hPrefix : components base <+: components path)
    (hSome : components base ≠ []) :
    relativeTo base path =
      pathAfter (components base).length path := by
  rw [← List.isPrefixOf_iff_prefix] at hPrefix
  unfold relativeTo stripBase?
  rw [if_pos hPrefix, if_neg (by simpa using hSome)]
  rfl

/- Where the openings agree, the base is cut off. -/
theorem LiesBelow.relativeTo_eq_rest
    (hLies : LiesBelow base path rest)
    (hSame : opening base = opening path)
    (hSome : components base ≠ []) :
    relativeTo base path = rest := by
  have hPrefix : components base <+: components path := by
    rw [components_eq, components_eq, hSame,
      List.prefix_append_right_inj, hLies.below.pathNames_eq,
      List.map_append]
    exact List.prefix_append _ _
  have hLength :
      (components base).length =
        (opening path).length + (pathNames base).length := by
    rw [components_eq, List.length_append, List.length_map,
      hSame]
  have hCount := List.length_pos_iff.mpr hSome
  rw [hLength] at hCount
  rcases exists_front_pathAfter (pathNames base).length
      hLies.ends.ne_nil hCount with
    ⟨front, back, hSegments, hNames, hAfter⟩
  have hFront := hNames.trans hLies.below.take_eq
  rw [relativeTo_of_starts hPrefix hSome, hLength, hAfter]
  exact (isBelow_of_segments hLies.below.1 hSegments hFront
    (hLies.below.endsInName hLies.ends hSegments
      hFront)).unique hLies.below

theorem isDotted_eq_false_of_head?
    (hDot : (segments base).head? ≠ some ['.']) :
    isDotted base = false := by
  unfold isDotted
  rw [beq_false_of_ne hDot]
  rfl

/- A base that does not begin with a dot opens as its paths. -/
theorem LiesBelow.opening_eq
    (hLies : LiesBelow base path rest)
    (hSome : base ≠ [])
    (hDot : (segments base).head? ≠ some ['.']) :
    opening base = opening path := by
  rcases opens_cases hSome with hNamed | hNot | hRoot
  · have hPath : ¬IsAbsolute path :=
      mt hLies.below.1.mp hNamed.not_isAbsolute
    have hBegins :=
      (beginsInName_or_dot hLies.ends.ne_nil
        hPath).resolve_right
        (hLies.undotted hNamed.pathNames_ne_nil)
    rw [opening_of_beginsInName hNamed,
      opening_of_beginsInName hBegins]
  · exact absurd hNot hDot
  · rw [opening_of_isAbsolute hRoot,
      opening_of_isAbsolute (hLies.below.1.mpr hRoot)]

theorem components_ne_nil
    (hSome : base ≠ []) :
    components base ≠ [] := by
  rw [components_eq]
  rcases opens_cases hSome with hNamed | hDot | hRoot
  · have hNames := hNamed.pathNames_ne_nil
    simp [hNames]
  · simp [opening_of_head? hDot]
  · simp [opening_of_isAbsolute hRoot]

/- What the markers are held against. -/
def testedText
    (base path : Text) :
    Text :=
  if isDotted base then path else restBelow base path

/-
  Relative to a base is the path below it, but for a dotted
  base nothing is cut off.
-/
theorem LiesBelow.relativeTo_eq
    (hLies : LiesBelow base path rest)
    (hSome : base ≠ []) :
    relativeTo base path = testedText base path := by
  have hOpens := components_ne_nil hSome
  unfold testedText
  rw [hLies.below.restBelow_eq hLies.ends]
  by_cases hDot : (segments base).head? = some ['.']
  · have hPath : ¬IsAbsolute path := by
      rw [hLies.below.1]
      exact not_isAbsolute_of_head? hDot
    rcases beginsInName_or_dot hLies.ends.ne_nil hPath with
      hBegins | hAlso
    · rw [relativeTo_of_apart
        (not_prefix_of_beginsInName hDot hBegins)]
      by_cases hNames : pathNames base = []
      · -- Nothing stands in front of the path.
        have hWhole : IsBelow base path path :=
          ⟨hLies.below.1, [], rfl, Or.inl rfl,
            hNames.symm, hBegins⟩
        rw [hWhole.unique hLies.below, ite_self]
      · rw [if_pos (by simp [isDotted, hDot, hNames])]
    · have hNames : pathNames base = [] := by
        by_contra hNames
        exact hLies.undotted hNames hAlso
      rw [hLies.relativeTo_eq_rest
          (by rw [opening_of_head? hDot, opening_of_head? hAlso])
          hOpens,
        if_neg (by simp [isDotted, hNames])]
  · rw [hLies.relativeTo_eq_rest (hLies.opening_eq hSome hDot)
        hOpens,
      isDotted_eq_false_of_head? hDot]
    rfl

end SafeRerun

------------------------------------------------------------
-- Order Below a Base
------------------------------------------------------------

namespace SafeRerun

variable {base path other rest more : Text}

theorem componentsBefore_append_left
    (common a b : List Component) :
    componentsBefore (common ++ a) (common ++ b) =
      componentsBefore a b := by
  induction common with
  | nil =>
      rfl
  | cons first common ih =>
      rw [List.cons_append, List.cons_append,
        componentsBefore, if_pos rfl, ih]

/- Paths come in the order of what stands below the base. -/
theorem IsBelow.pathBefore_eq
    (hOpens : opening path = opening other)
    (hRest : IsBelow base path rest)
    (hMore : IsBelow base other more) :
    pathBefore path other = pathBefore rest more := by
  unfold pathBefore
  rw [components_eq path, components_eq other,
    components_eq rest, components_eq more,
    opening_of_beginsInName hRest.beginsInName,
    opening_of_beginsInName hMore.beginsInName,
    hRest.pathNames_eq, hMore.pathNames_eq, hOpens,
    List.map_append, List.map_append, ← List.append_assoc,
    ← List.append_assoc, componentsBefore_append_left,
    List.nil_append, List.nil_append]

end SafeRerun
