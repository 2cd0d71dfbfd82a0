import SafeRerun.Proofs.Text.Line

/-
  Texts whose lines get a carriage return before their line
  feeds.

  Key definitions include:
    * `SafeRerun.Text.withReturns`

  Key theorems include:
    * `SafeRerun.lineEnd_eq_returnLineFeed_iff`
    * `SafeRerun.endsInFeed_of_closesLine`
    * `SafeRerun.splitLines_withReturns`

  Where every line of a text ends in its line feed, the
  carriage returns go to the ends of the lines, and the text
  is divided at the same places as before.
-/

------------------------------------------------------------
-- Ends of Lines
------------------------------------------------------------

namespace SafeRerun

variable {line : Text}

/- A line ends in both characters or in one or in none. -/
theorem lineEnd_eq_returnLineFeed_iff :
    lineEnd line = .returnLineFeed ↔
      ∃ body, line = body ++ ['\r', '\n'] := by
  unfold lineEnd
  constructor
  · intro hEnd
    split at hEnd
    · rename_i rest hReverse
      refine ⟨rest.reverse, ?_⟩
      rw [← List.reverse_reverse line, hReverse]
      simp
    · contradiction
    · contradiction
  · rintro ⟨body, rfl⟩
    simp

/- A line without a carriage return does not end in one. -/
theorem lineEnd_ne_of_not_mem
    (hReturn : '\r' ∉ line) :
    lineEnd line ≠ .returnLineFeed := by
  intro hEnd
  rcases lineEnd_eq_returnLineFeed_iff.mp hEnd with
    ⟨body, rfl⟩
  exact hReturn (by simp)

/- What stands behind the last line of closed text is closed. -/
theorem ClosesLine.of_append
    {front back : Text}
    (hClosed : ClosesLine (front ++ back)) :
    ClosesLine back := by
  rcases List.eq_nil_or_concat back with
    hNil | ⟨body, last, hLast⟩
  · exact Or.inl hNil
  · right
    rcases hClosed with hNone | ⟨whole, hWhole⟩
    · simp [hLast] at hNone
    · rw [List.concat_eq_append] at hLast
      rw [hLast, ← List.append_assoc] at hWhole
      have hSame := (List.append_inj' hWhole rfl).2
      exact ⟨body, by rw [hLast, hSame]⟩

/- Lines that make a closed text all end in their feeds. -/
theorem endsInFeed_of_closesLine
    {lines : List Text}
    (hLines : AreLines lines)
    (hClosed : ClosesLine lines.flatten) :
    ∀ line ∈ lines, EndsInFeed line := by
  induction hLines with
  | none =>
      simp
  | last line hNonempty hFeed =>
      rw [List.flatten_singleton] at hClosed
      rcases hClosed with hNil | ⟨body, rfl⟩
      · contradiction
      · simp at hFeed
  | line line rest hLine hRest ih =>
      rw [List.flatten_cons] at hClosed
      intro other hMem
      rcases List.mem_cons.mp hMem with rfl | hLater
      · exact hLine
      · exact ih hClosed.of_append other hLater

/- Texts that end in their feeds are lines. -/
theorem areLines_of_endsInFeed
    {lines : List Text}
    (hLines : ∀ line ∈ lines, EndsInFeed line) :
    AreLines lines := by
  induction lines with
  | nil =>
      exact AreLines.none
  | cons line rest ih =>
      exact AreLines.line line rest (hLines line (by simp))
        (ih fun other hMem => hLines other (by simp [hMem]))

end SafeRerun

------------------------------------------------------------
-- Carriage Returns
------------------------------------------------------------

namespace SafeRerun

namespace Text

/- The text with a carriage return before each line feed. -/
def withReturns
    (t : Text) :
    Text :=
  t.flatMap fun c =>
    if c = '\n' then ['\r', '\n'] else [c]

theorem withReturns_append
    (front back : Text) :
    withReturns (front ++ back) =
      withReturns front ++ withReturns back :=
  List.flatMap_append

theorem withReturns_flatten
    (lines : List Text) :
    withReturns lines.flatten =
      (lines.map withReturns).flatten := by
  induction lines with
  | nil =>
      rfl
  | cons line rest ih =>
      rw [List.flatten_cons, withReturns_append, ih,
        List.map_cons, List.flatten_cons]

/- Without a line feed there is nothing to put. -/
theorem withReturns_of_not_mem
    {t : Text}
    (hFeed : '\n' ∉ t) :
    withReturns t = t := by
  induction t with
  | nil =>
      rfl
  | cons c rest ih =>
      simp only [List.mem_cons, not_or] at hFeed
      rw [withReturns, List.flatMap_cons,
        if_neg (Ne.symm hFeed.1), ← withReturns,
        ih hFeed.2, List.singleton_append]

/- A line gets its carriage return at its end. -/
theorem withReturns_line
    {body : Text}
    (hFeed : '\n' ∉ body) :
    withReturns (body ++ ['\n']) =
      body ++ ['\r', '\n'] := by
  rw [withReturns_append, withReturns_of_not_mem hFeed]
  rfl

end Text

/- A line stays one. -/
theorem EndsInFeed.withReturns
    {line : Text}
    (hLine : EndsInFeed line) :
    EndsInFeed line.withReturns := by
  rcases hLine with ⟨body, hFeed, rfl⟩
  refine ⟨body ++ ['\r'], by simp [hFeed], ?_⟩
  rw [Text.withReturns_line hFeed, List.append_assoc]
  rfl

/- The lines of a closed text get their returns one by one. -/
theorem splitLines_withReturns
    {t : Text}
    (hClosed : ClosesLine t) :
    t.withReturns.splitLines =
      t.splitLines.map Text.withReturns := by
  have hEnds :
      ∀ line ∈ t.splitLines, EndsInFeed line := by
    refine endsInFeed_of_closesLine
      (areLines_splitLines t) ?_
    rw [Text.flatten_splitLines]
    exact hClosed
  have hLines :
      AreLines (t.splitLines.map Text.withReturns) := by
    refine areLines_of_endsInFeed fun other hMem => ?_
    rcases List.mem_map.mp hMem with ⟨line, hLine, rfl⟩
    exact (hEnds line hLine).withReturns
  rw [← splitLines_flatten hLines,
    ← Text.withReturns_flatten, Text.flatten_splitLines]

end SafeRerun
