import SafeRerun.Text.Line

/-
  Lists of lines that a text can be divided into.

  Key definitions include:
    * `SafeRerun.EndsInFeed`
    * `SafeRerun.AreLines`
    * `SafeRerun.IsDivision`
    * `SafeRerun.ClosesLine`

  Key theorems include:
    * `SafeRerun.areLines_iff_isDivision`
    * `SafeRerun.areLines_splitLines`
    * `SafeRerun.splitLines_flatten`
    * `SafeRerun.splitLines_append_of_closesLine`

  The lines of a text end in their only line feed, all but
  the last, which can lack it.  Such a list is found again
  in the text that it makes.
-/

------------------------------------------------------------
-- Lists of Lines
------------------------------------------------------------

namespace SafeRerun

/- The text ends in a line feed and holds no other. -/
def EndsInFeed
    (line : Text) : Prop :=
  ∃ body, '\n' ∉ body ∧ line = body ++ ['\n']

/-
  The lists of lines: each line ends in its only line feed,
  but the last one can be some text without one instead.
-/
inductive AreLines :
    List Text → Prop
  | none :
      AreLines []
  | last
      (line : Text)
      (hNonempty : line ≠ [])
      (hFeed : '\n' ∉ line) :
      AreLines [line]
  | line
      (line : Text)
      (rest : List Text)
      (hLine : EndsInFeed line)
      (hRest : AreLines rest) :
      AreLines (line :: rest)

/-
  The lists of lines by what holds of each line: none is
  empty, a line feed stands at most at its end, and only the
  last line can lack it.
-/
structure IsDivision
    (lines : List Text) : Prop where
  nonempty :
    ∀ line ∈ lines, line ≠ []
  inner :
    ∀ line ∈ lines, '\n' ∉ line.dropLast
  closed :
    ∀ line ∈ lines.dropLast, line.getLast? = some '\n'

theorem endsInFeed_iff
    {line : Text} :
    EndsInFeed line ↔
      line.getLast? = some '\n' ∧
        '\n' ∉ line.dropLast := by
  constructor
  · rintro ⟨body, hFeed, rfl⟩
    simpa using hFeed
  · rintro ⟨hLast, hFeed⟩
    rcases List.getLast?_eq_some_iff.mp hLast with
      ⟨body, rfl⟩
    exact ⟨body, by simpa using hFeed, rfl⟩

/- Behind a first line the others are a list of lines. -/
theorem isDivision_cons_iff
    {line : Text}
    {rest : List Text} :
    IsDivision (line :: rest) ↔
      line ≠ [] ∧ '\n' ∉ line.dropLast ∧
        (rest ≠ [] → line.getLast? = some '\n') ∧
          IsDivision rest := by
  have hInit :
      ∀ first ∈ (line :: rest).dropLast,
        first = line ∧ rest ≠ [] ∨ first ∈ rest.dropLast := by
    cases rest with
    | nil =>
        simp
    | cons second others =>
        simp
  constructor
  · intro hLines
    refine ⟨hLines.nonempty line (by simp),
      hLines.inner line (by simp), fun hRest => ?_,
      fun first hMem => hLines.nonempty first (by simp [hMem]),
      fun first hMem => hLines.inner first (by simp [hMem]),
      fun first hMem => ?_⟩
    · apply hLines.closed
      simp [List.dropLast_cons_of_ne_nil hRest]
    · apply hLines.closed
      rw [List.dropLast_cons_of_ne_nil]
      · simp [hMem]
      · rintro rfl
        simp at hMem
  · rintro ⟨hNonempty, hFeed, hClosed, hRest⟩
    refine ⟨?_, ?_, fun first hMem => ?_⟩
    · rw [List.forall_mem_cons]
      exact ⟨hNonempty, hRest.nonempty⟩
    · rw [List.forall_mem_cons]
      exact ⟨hFeed, hRest.inner⟩
    · rcases hInit first hMem with ⟨rfl, hMore⟩ | hLater
      · exact hClosed hMore
      · exact hRest.closed first hLater

theorem areLines_iff_isDivision
    {lines : List Text} :
    AreLines lines ↔ IsDivision lines := by
  constructor
  · intro hLines
    induction hLines with
    | none =>
        exact ⟨by simp, by simp, by simp⟩
    | last line hNonempty hFeed =>
        refine isDivision_cons_iff.mpr
          ⟨hNonempty, fun hMem => ?_, by simp,
            by simp, by simp, by simp⟩
        exact hFeed (List.dropLast_subset line hMem)
    | line line rest hLine hRest ih =>
        rcases endsInFeed_iff.mp hLine with
          ⟨hLast, hFeed⟩
        refine isDivision_cons_iff.mpr
          ⟨?_, hFeed, fun _ => hLast, ih⟩
        rintro rfl
        simp at hLast
  · intro hLines
    induction lines with
    | nil =>
        exact AreLines.none
    | cons line rest ih =>
        rcases isDivision_cons_iff.mp hLines with
          ⟨hNonempty, hFeed, hClosed, hRest⟩
        by_cases hLast : line.getLast? = some '\n'
        · exact AreLines.line line rest
            (endsInFeed_iff.mpr ⟨hLast, hFeed⟩) (ih hRest)
        · -- A line without its feed has none behind it.
          have hEnd : rest = [] :=
            Decidable.byContradiction fun hMore =>
              hLast (hClosed hMore)
          subst hEnd
          refine AreLines.last line hNonempty fun hMem => ?_
          rcases List.eq_nil_or_concat line with
            rfl | ⟨body, last, rfl⟩
          · contradiction
          · rw [List.concat_eq_append] at hMem hFeed hLast
            rw [List.dropLast_concat] at hFeed
            rw [List.getLast?_concat, Option.some.injEq]
              at hLast
            rw [List.mem_append, List.mem_singleton] at hMem
            rcases hMem with hInner | hSame
            · exact hFeed hInner
            · exact hLast hSame.symm

end SafeRerun

------------------------------------------------------------
-- Splitting and Joining
------------------------------------------------------------

namespace SafeRerun

/- A first line that ends in its feed is split off. -/
theorem splitLines_line_append
    {line : Text}
    (hLine : EndsInFeed line)
    (rest : Text) :
    Text.splitLines (line ++ rest) =
      line :: Text.splitLines rest := by
  rcases hLine with ⟨body, hFeed, rfl⟩
  induction body with
  | nil =>
      simp [Text.splitLines]
  | cons c tail ih =>
      simp only [List.mem_cons, not_or] at hFeed
      rw [List.cons_append, List.cons_append,
        Text.splitLines, if_neg (Ne.symm hFeed.1),
        ih hFeed.2]

/- A text without a line feed is one line. -/
theorem splitLines_of_not_mem
    {line : Text}
    (hNonempty : line ≠ [])
    (hFeed : '\n' ∉ line) :
    Text.splitLines line = [line] := by
  induction line with
  | nil =>
      contradiction
  | cons c tail ih =>
      simp only [List.mem_cons, not_or] at hFeed
      rw [Text.splitLines, if_neg (Ne.symm hFeed.1)]
      cases tail with
      | nil =>
          rfl
      | cons d more =>
          rw [ih (by simp) hFeed.2]

/- The lines of a text are such a list. -/
theorem areLines_splitLines
    (t : Text) :
    AreLines (Text.splitLines t) := by
  induction t with
  | nil =>
      exact AreLines.none
  | cons c rest ih =>
      rw [Text.splitLines]
      by_cases hFeed : c = '\n'
      · rw [if_pos hFeed, hFeed]
        exact AreLines.line _ _ ⟨[], by simp, rfl⟩ ih
      · rw [if_neg hFeed]
        -- The character goes to the front of the next line.
        generalize Text.splitLines rest = lines at ih
        cases ih with
        | none =>
            exact AreLines.last [c] (by simp)
              (by simpa using Ne.symm hFeed)
        | last line hNonempty hNone =>
            refine AreLines.last (c :: line) (by simp) ?_
            simp only [List.mem_cons, not_or]
            exact ⟨Ne.symm hFeed, hNone⟩
        | line line lines hLine hRest =>
            rcases hLine with ⟨body, hBody, rfl⟩
            refine AreLines.line (c :: (body ++ ['\n']))
              lines ⟨c :: body, ?_, rfl⟩ hRest
            simp only [List.mem_cons, not_or]
            exact ⟨Ne.symm hFeed, hBody⟩

/- A list of lines is found again in the text it makes. -/
theorem splitLines_flatten
    {lines : List Text}
    (hLines : AreLines lines) :
    Text.splitLines lines.flatten = lines := by
  induction hLines with
  | none =>
      rfl
  | last line hNonempty hFeed =>
      rw [List.flatten_singleton,
        splitLines_of_not_mem hNonempty hFeed]
  | line line rest hLine hRest ih =>
      rw [List.flatten_cons, splitLines_line_append hLine,
        ih]

end SafeRerun

------------------------------------------------------------
-- Texts Behind One Another
------------------------------------------------------------

namespace SafeRerun

/- No line is left open at the end of the text. -/
def ClosesLine
    (t : Text) : Prop :=
  t = [] ∨ ∃ body, t = body ++ ['\n']

/- Behind a line feed the lines are those of the rest. -/
theorem splitLines_feed_append
    (body back : Text) :
    Text.splitLines (body ++ '\n' :: back) =
      Text.splitLines (body ++ ['\n']) ++
        Text.splitLines back := by
  induction body with
  | nil =>
      rfl
  | cons c tail ih =>
      rw [List.cons_append, List.cons_append,
        Text.splitLines, Text.splitLines, ih]
      split
      · rfl
      · cases hLines : Text.splitLines (tail ++ ['\n']) with
        | nil =>
            have hText :=
              Text.flatten_splitLines (tail ++ ['\n'])
            simp [hLines] at hText
        | cons line lines =>
            rfl

theorem splitLines_append_of_closesLine
    {front : Text}
    (hFront : ClosesLine front)
    (back : Text) :
    Text.splitLines (front ++ back) =
      Text.splitLines front ++ Text.splitLines back := by
  rcases hFront with rfl | ⟨body, rfl⟩
  · rfl
  · rw [← splitLines_feed_append, List.append_assoc,
      List.singleton_append]

/- Closed lines are as many as their line feeds. -/
theorem length_splitLines_of_closesLine
    {t : Text}
    (hClosed : ClosesLine t) :
    (Text.splitLines t).length = t.count '\n' := by
  rcases hClosed with rfl | ⟨body, rfl⟩
  · rfl
  · induction body with
    | nil =>
        rfl
    | cons c tail ih =>
        rw [List.cons_append, Text.splitLines,
          List.count_cons]
        split
        · rename_i hFeed
          rw [List.length_cons, ih, hFeed]
          rfl
        · rename_i hFeed
          rw [← ih, if_neg (by simpa using hFeed)]
          cases hLines :
              Text.splitLines (tail ++ ['\n']) with
          | nil =>
              simp [hLines] at ih
          | cons line lines =>
              rfl

/- A text is made of closed lines and one that is open. -/
theorem exists_openLine
    (t : Text) :
    ∃ closed line,
      t = closed ++ line ∧ ClosesLine closed ∧
        '\n' ∉ line := by
  induction t with
  | nil =>
      exact ⟨[], [], rfl, Or.inl rfl, by simp⟩
  | cons c rest ih =>
      rcases ih with ⟨closed, line, rfl, hClosed, hFeed⟩
      rcases hClosed with rfl | ⟨body, rfl⟩
      · by_cases hFirst : c = '\n'
        · exact ⟨[c], line, rfl, Or.inr ⟨[], by
            rw [hFirst]; rfl⟩, hFeed⟩
        · refine ⟨[], c :: line, rfl, Or.inl rfl, ?_⟩
          simp only [List.mem_cons, not_or]
          exact ⟨Ne.symm hFirst, hFeed⟩
      · exact ⟨c :: (body ++ ['\n']), line, rfl,
          Or.inr ⟨c :: body, rfl⟩, hFeed⟩

/- A text without a line feed begins the next line. -/
theorem splitLines_append_of_not_mem
    {front back line : Text}
    {lines : List Text}
    (hFeed : '\n' ∉ front)
    (hLines : Text.splitLines back = line :: lines) :
    Text.splitLines (front ++ back) =
      (front ++ line) :: lines := by
  induction front with
  | nil =>
      exact hLines
  | cons c tail ih =>
      simp only [List.mem_cons, not_or] at hFeed
      rw [List.cons_append, Text.splitLines,
        if_neg (Ne.symm hFeed.1), ih hFeed.2]
      rfl

/-
  The first line of a text that begins without a line feed
  goes on with a beginning of what follows.
-/
theorem exists_splitLines_append
    {front : Text}
    (hNonempty : front ≠ [])
    (hFeed : '\n' ∉ front)
    (back : Text) :
    ∃ more after lines,
      back = more ++ after ∧ (more = [] → back = []) ∧
        Text.splitLines (front ++ back) =
          (front ++ more) :: lines := by
  have hText := Text.flatten_splitLines back
  cases hLines : Text.splitLines back with
  | nil =>
      rw [hLines, List.flatten_nil] at hText
      refine ⟨[], [], [], hText.symm, fun _ => hText.symm,
        ?_⟩
      rw [← hText, List.append_nil,
        splitLines_of_not_mem hNonempty hFeed]
  | cons line lines =>
      rw [hLines, List.flatten_cons] at hText
      refine ⟨line, lines.flatten, lines, hText.symm, ?_,
        splitLines_append_of_not_mem hFeed hLines⟩
      intro hNil
      exact absurd hNil
        (Text.ne_nil_of_mem_splitLines back line
          (by simp [hLines]))

end SafeRerun
