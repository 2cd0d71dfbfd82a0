import SafeRerun.Project.Path

/-
  The segments of a path.

  Key theorems include:
    * `SafeRerun.segments_append_slash`
    * `SafeRerun.not_mem_of_mem_segments`
    * `SafeRerun.getLast?_of_getLast?_segments`

  A slash always divides two segments, so the segments of a
  path that is put together are those of its parts.
-/

------------------------------------------------------------
-- Segments
------------------------------------------------------------

namespace SafeRerun

theorem segments_ne_nil
    (path : Text) :
    segments path ≠ [] := by
  induction path with
  | nil =>
      simp [segments]
  | cons c rest ih =>
      unfold segments
      split
      · simp
      · split
        · simp
        · simp

/- The last segment stands behind the others. -/
theorem segments_eq_concat
    (path : Text) :
    segments path =
      (segments path).dropLast ++
        [(segments path).getLast?.getD []] := by
  rw [List.getLast?_eq_some_getLast (segments_ne_nil path),
    Option.getD_some, List.dropLast_concat_getLast]

/- A slash divides the segments of what it stands between. -/
theorem segments_append_slash
    (a b : Text) :
    segments (a ++ '/' :: b) = segments a ++ segments b := by
  induction a with
  | nil =>
      simp [segments]
  | cons c rest ih =>
      rw [List.cons_append]
      by_cases hSlash : c = '/'
      · simp [segments, hSlash, ih]
      · cases hRest : segments rest with
        | nil =>
            exact absurd hRest (segments_ne_nil rest)
        | cons name names =>
            simp [segments, hSlash, ih, hRest]

/- What holds no slash stays in front of the first segment. -/
theorem segments_append_of_not_mem
    {front back first : Text}
    {names : List Text}
    (hSlash : '/' ∉ front)
    (hSegments : segments back = first :: names) :
    segments (front ++ back) = (front ++ first) :: names := by
  induction front with
  | nil =>
      exact hSegments
  | cons c rest ih =>
      rw [List.mem_cons, not_or] at hSlash
      have hHead : c ≠ '/' := fun hEq => hSlash.1 hEq.symm
      rw [List.cons_append, segments, if_neg hHead,
        ih hSlash.2]
      rfl

/- A text without a slash is one segment. -/
theorem segments_of_not_mem
    {name : Text}
    (hSlash : '/' ∉ name) :
    segments name = [name] := by
  have hEmpty : segments [] = [[]] := rfl
  have hWhole := segments_append_of_not_mem hSlash hEmpty
  rwa [List.append_nil] at hWhole

/- No segment holds a slash. -/
theorem not_mem_of_mem_segments
    {path name : Text}
    (hMem : name ∈ segments path) :
    '/' ∉ name := by
  induction path generalizing name with
  | nil =>
      simp [segments] at hMem
      simp [hMem]
  | cons c rest ih =>
      unfold segments at hMem
      by_cases hSlash : c = '/'
      · simp [hSlash] at hMem
        rcases hMem with rfl | hRest
        · simp
        · exact ih hRest
      · cases hRest : segments rest with
        | nil =>
            exact absurd hRest (segments_ne_nil rest)
        | cons first names =>
            simp only [hSlash, if_false, hRest,
              List.mem_cons] at hMem
            rw [hRest] at ih
            rcases hMem with rfl | hMem
            · have hFirst := ih (List.mem_cons_self)
              rw [List.mem_cons, not_or]
              exact ⟨fun hEq => hSlash hEq.symm, hFirst⟩
            · exact ih (List.mem_cons_of_mem _ hMem)

/- The characters of a segment are characters of the path. -/
theorem mem_of_mem_segments
    {path name : Text}
    {c : Char}
    (hMem : name ∈ segments path)
    (hChar : c ∈ name) :
    c ∈ path := by
  induction path generalizing name with
  | nil =>
      rw [segments, List.mem_singleton] at hMem
      rw [hMem] at hChar
      exact hChar
  | cons d rest ih =>
      rw [segments] at hMem
      split at hMem
      · rcases List.mem_cons.mp hMem with rfl | hRest
        · contradiction
        · exact List.mem_cons_of_mem d (ih hRest hChar)
      · split at hMem
        · rw [List.mem_singleton] at hMem
          rw [hMem, List.mem_singleton] at hChar
          rw [hChar]
          exact List.mem_cons_self
        · rename_i first names hRest
          rcases List.mem_cons.mp hMem with rfl | hLater
          · rcases List.mem_cons.mp hChar with rfl | hFirst
            · exact List.mem_cons_self
            · exact List.mem_cons_of_mem d
                (ih (by simp [hRest]) hFirst)
          · exact List.mem_cons_of_mem d
              (ih (by simp [hRest, hLater]) hChar)

/- The last segment is empty where a slash ends the path. -/
theorem getLast?_segments_of_getLast?
    {path : Text}
    (hSlash : path.getLast? = some '/') :
    (segments path).getLast? = some [] := by
  rcases List.getLast?_eq_some_iff.mp hSlash with
    ⟨front, rfl⟩
  rw [segments_append_slash]
  simp [segments]

/- Only a slash at the end leaves the last segment empty. -/
theorem getLast?_of_getLast?_segments
    {path : Text}
    (hNonempty : path ≠ [])
    (hLast : (segments path).getLast? = some []) :
    path.getLast? = some '/' := by
  induction path with
  | nil =>
      contradiction
  | cons c rest ih =>
      rcases List.exists_cons_of_ne_nil
          (segments_ne_nil rest) with ⟨name, names, hRest⟩
      by_cases hEnd : rest = []
      · subst hEnd
        by_cases hSlash : c = '/'
        · rw [hSlash]
          rfl
        · simp [segments, hSlash] at hLast
      · -- The last segment is that of the rest.
        have hSame : (segments rest).getLast? = some [] := by
          by_cases hSlash : c = '/'
          · rw [segments, if_pos hSlash, hRest] at hLast
            rw [hRest]
            simpa using hLast
          · rw [segments, if_neg hSlash, hRest] at hLast
            rw [hRest]
            cases names with
            | nil =>
                simp at hLast
            | cons second others =>
                simpa using hLast
        rw [List.getLast?_cons_of_ne_nil hEnd, ih hEnd hSame]

end SafeRerun
