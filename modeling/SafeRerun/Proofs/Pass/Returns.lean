import SafeRerun.Proofs.Pass.Position
import SafeRerun.Proofs.Pass.Step
import SafeRerun.Proofs.Script.LineEnd
import SafeRerun.Proofs.Text.Returns

/-
  Passes over scripts whose lines end in a carriage return
  and a line feed.

  Key definitions include:
    * `SafeRerun.Step.withReturns`
    * `SafeRerun.IsTwinPass`

  Key theorems include:
    * `SafeRerun.readAt_map`
    * `SafeRerun.isGuarded_map`
    * `SafeRerun.steps_withReturns`
    * `SafeRerun.pass_keeps_line_ends`

  A line with a carriage return at its end reads as it does
  without one, so both scripts are given the same guards.
  The guard above a line ends as that line does.
-/

------------------------------------------------------------
-- Lines That Read Alike
------------------------------------------------------------

namespace SafeRerun

variable {f : Text → Text}
variable {lines : List Text}

/- The same text is gathered from lines that read alike. -/
theorem gather_map
    (hAlike : ∀ line ∈ lines, ReadsAlike (f line) line)
    (lookahead : Nat)
    (statement : Text) :
    gather lookahead statement (lines.map f) =
      gather lookahead statement lines := by
  induction lines generalizing lookahead statement with
  | nil =>
      rfl
  | cons line rest ih =>
      rw [List.map_cons]
      cases lookahead with
      | zero =>
          rfl
      | succ lookahead =>
          have hRest :
              ∀ other ∈ rest, ReadsAlike (f other) other :=
            fun other hMem => hAlike other (by simp [hMem])
          unfold gather
          simp only [(hAlike line (by simp)).trim, ih hRest]

/- The same statements are read at lines that read alike. -/
theorem readAt_map
    (hAlike : ∀ line ∈ lines, ReadsAlike (f line) line)
    (lookahead index : Nat) :
    readAt lookahead (lines.map f) index =
      readAt lookahead lines index := by
  have hBelow :
      ∀ line ∈ lines.drop index,
        ReadsAlike (f line) line :=
    fun line hMem => hAlike line (List.mem_of_mem_drop hMem)
  rw [readAt, readAt, ← List.map_drop]
  cases hLines : lines.drop index with
  | nil =>
      rfl
  | cons line rest =>
      rw [hLines] at hBelow
      have hFirst := hBelow line (by simp)
      rw [List.map_cons, readFirst, readFirst, hFirst.start,
        hFirst.trim,
        gather_map fun other hMem =>
          hBelow other (by simp [hMem])]

/- The same guards are found on lines that read alike. -/
theorem isGuarded_map
    (hAlike : ∀ line ∈ lines, ReadsAlike (f line) line)
    (lookback index : Nat)
    (trigger : Text) :
    isGuarded lookback (lines.map f) index trigger =
      isGuarded lookback lines index trigger := by
  have hGuards :
      ∀ line ∈ lines,
        guardsTrigger trigger (f line) =
          guardsTrigger trigger line := by
    intro line hMem
    rw [guardsTrigger, guardsTrigger, (hAlike line hMem).names]
  rw [Bool.eq_iff_iff, isGuarded_iff, isGuarded_iff]
  constructor
  · rintro ⟨place, other, hAbove, hReach, hOther, hGuard⟩
    rw [List.getElem?_map, Option.map_eq_some_iff] at hOther
    rcases hOther with ⟨line, hLine, rfl⟩
    rw [hGuards line (List.mem_of_getElem? hLine)] at hGuard
    exact ⟨place, line, hAbove, hReach, hLine, hGuard⟩
  · rintro ⟨place, line, hAbove, hReach, hLine, hGuard⟩
    rw [← hGuards line (List.mem_of_getElem? hLine)]
      at hGuard
    exact ⟨place, f line, hAbove, hReach,
      by rw [List.getElem?_map, hLine, Option.map_some],
      hGuard⟩

end SafeRerun

------------------------------------------------------------
-- Ends of Guards
------------------------------------------------------------

namespace SafeRerun

/- A guard ends in both characters where its line does. -/
theorem guardEnd_eq_returnLineFeed_iff
    {lines : List Text}
    {index : Nat}
    {line : Text}
    (hLine : lines[index]? = some line) :
    guardEnd lines index = .returnLineFeed ↔
      lineEnd line = .returnLineFeed := by
  simp only [guardEnd, hLine]
  cases lineEnd line <;> simp

/- A guard that ends in a line feed has no return. -/
theorem return_not_mem_guardLine
    {declaration : Declaration}
    (hNamed : declaration.IsNamed) :
    '\r' ∉ guardLine declaration LineEnd.lineFeed.text := by
  rw [guardLine_eq_append, List.mem_append, not_or]
  exact ⟨not_mem_guardLine hNamed (Or.inl rfl), by decide⟩

/- A guard gets its carriage return at its end. -/
theorem withReturns_guardLine
    {declaration : Declaration}
    (hNamed : declaration.IsNamed) :
    (guardLine declaration
        LineEnd.lineFeed.text).withReturns =
      guardLine declaration LineEnd.returnLineFeed.text := by
  have hFeed : '\n' ∉ guardLine declaration [] :=
    not_mem_guardLine hNamed (Or.inr rfl)
  rw [guardLine_eq_append,
    guardLine_eq_append declaration
      LineEnd.returnLineFeed.text]
  exact Text.withReturns_line hFeed

end SafeRerun

------------------------------------------------------------
-- Steps With Carriage Returns
------------------------------------------------------------

namespace SafeRerun

/- A line reads as it does with a carriage return. -/
theorem readsAlike_withReturns
    {line : Text}
    (hLine : EndsInFeed line) :
    ReadsAlike line.withReturns line := by
  rcases hLine with ⟨body, hFeed, rfl⟩
  rw [Text.withReturns_line hFeed]
  exact readsAlike_append_blanks body (by simp)
    (isBlankRun_lineEnd .returnLineFeed) (by simp)
    (isBlankRun_lineEnd .lineFeed)

/- The line ends in both characters then. -/
theorem lineEnd_withReturns
    {line : Text}
    (hLine : EndsInFeed line) :
    lineEnd line.withReturns = .returnLineFeed := by
  rcases hLine with ⟨body, hFeed, rfl⟩
  rw [Text.withReturns_line hFeed]
  exact lineEnd_eq_returnLineFeed_iff.mpr ⟨body, rfl⟩

/- What a step does, with carriage returns. -/
def Step.withReturns
    (step : Step) :
    Step :=
  { reading := step.reading
    guard := step.guard.map Text.withReturns
    line := step.line.withReturns }

variable {bounds : Bounds}
variable {lines : List Text}

/- The guard of a declaration gets its carriage return. -/
theorem guardFor_withReturns
    {lookback index : Nat}
    {line : Text}
    {declaration : Declaration}
    (hLines : ∀ line ∈ lines, EndsInFeed line)
    (hApart :
      ∀ line ∈ lines, lineEnd line ≠ .returnLineFeed)
    (hLine : lines[index]? = some line)
    (hNamed : declaration.IsNamed) :
    guardFor lookback (lines.map Text.withReturns) index
        declaration =
      (guardFor lookback lines index declaration).map
        Text.withReturns := by
  have hMem := List.mem_of_getElem? hLine
  have hMapped :
      (lines.map Text.withReturns)[index]? =
        some line.withReturns := by
    rw [List.getElem?_map, hLine, Option.map_some]
  have hEnd :
      guardEnd lines index = .lineFeed :=
    (guardEnd_eq lines index).resolve_right fun hReturn =>
      hApart line hMem
        ((guardEnd_eq_returnLineFeed_iff hLine).mp hReturn)
  have hReturnEnd :
      guardEnd (lines.map Text.withReturns) index =
        .returnLineFeed :=
    (guardEnd_eq_returnLineFeed_iff hMapped).mpr
      (lineEnd_withReturns (hLines line hMem))
  rw [guardFor, guardFor,
    isGuarded_map fun other hOther =>
      readsAlike_withReturns (hLines other hOther)]
  split
  · rfl
  · rw [hEnd, hReturnEnd, Option.map_some]
    exact congrArg some (withReturns_guardLine hNamed).symm

/- A pass takes the same steps, with carriage returns. -/
theorem steps_withReturns
    (hLines : ∀ line ∈ lines, EndsInFeed line)
    (hApart :
      ∀ line ∈ lines, lineEnd line ≠ .returnLineFeed) :
    steps bounds (lines.map Text.withReturns) =
      (steps bounds lines).map Step.withReturns := by
  apply List.ext_getElem?
  intro index
  rw [List.getElem?_map, getElem?_steps, getElem?_steps,
    List.getElem?_map,
    readAt_map fun line hMem =>
      readsAlike_withReturns (hLines line hMem)]
  cases hLine : lines[index]? with
  | none =>
      rfl
  | some line =>
      simp only [Option.map_some, Step.withReturns,
        Option.some.injEq, Step.mk.injEq, true_and,
        and_true]
      cases hRead : readAt bounds.lookahead lines index with
      | declared declaration =>
          rcases readAt_eq_declared hRead with
            ⟨-, -, -, hNamed⟩
          exact guardFor_withReturns hLines hApart hLine
            hNamed
      | noStatement =>
          rfl
      | noOnClause =>
          rfl
      | unrecognised statement =>
          rfl

/- The steps make their lines with carriage returns. -/
theorem linesOf_withReturns
    (passed : List Step) :
    linesOf (passed.map Step.withReturns) =
      (linesOf passed).map Text.withReturns := by
  induction passed with
  | nil =>
      rfl
  | cons step rest ih =>
      rw [List.map_cons, linesOf_cons, linesOf_cons, ih,
        List.map_append]
      cases hGuard : step.guard <;>
        simp [Step.lines, Step.withReturns, hGuard]

/- The numbers of the steps stay what they are. -/
theorem tallyOf_withReturns
    (passed : List Step) :
    tallyOf (passed.map Step.withReturns) =
      tallyOf passed := by
  simp [tallyOf, List.countP_map, Function.comp_def,
    Step.withReturns]

end SafeRerun

------------------------------------------------------------
-- Passes With Carriage Returns
------------------------------------------------------------

namespace SafeRerun

/-
  A pass over the twin makes what one over the script makes,
  with carriage returns, and reports the same.
-/
structure IsTwinPass
    (bounds : Bounds)
    (script twin : List Text) : Prop where
  lines :
    addGuards bounds twin =
      (addGuards bounds script).map Text.withReturns
  changes :
    (tally bounds twin).changes =
      (tally bounds script).changes
  numbers : tally bounds twin = tally bounds script

/- The lines of a closed text are passed over alike. -/
theorem isTwinPass_withReturns
    (bounds : Bounds)
    {t : Text}
    (hClosed : ClosesLine t)
    (hApart :
      ∀ line ∈ t.splitLines,
        lineEnd line ≠ .returnLineFeed) :
    IsTwinPass bounds t.splitLines
      t.withReturns.splitLines := by
  have hLines : ∀ line ∈ t.splitLines, EndsInFeed line := by
    refine endsInFeed_of_closesLine
      (areLines_splitLines t) ?_
    rw [Text.flatten_splitLines]
    exact hClosed
  have hSteps :
      steps bounds t.withReturns.splitLines =
        (steps bounds t.splitLines).map Step.withReturns := by
    rw [splitLines_withReturns hClosed,
      steps_withReturns hLines hApart]
  have hTally :
      tally bounds t.withReturns.splitLines =
        tally bounds t.splitLines := by
    rw [tally, hSteps, tallyOf_withReturns, ← tally]
  refine ⟨?_, by rw [hTally], hTally⟩
  rw [addGuards, hSteps, linesOf_withReturns, ← addGuards]

variable {bounds : Bounds}
variable {lines : List Text}

/-
  A line of the result is one of the script, or a guard that
  ends as one of the script does.
-/
theorem of_mem_addGuards
    {line : Text}
    (hMem : line ∈ addGuards bounds lines) :
    line ∈ lines ∨
      ∃ below ∈ lines, ∃ index declaration,
        lines[index]? = some below ∧
          declaration.IsNamed ∧
            line =
              guardLine declaration
                (guardEnd lines index).text := by
  rcases mem_linesOf_iff.mp hMem with
    ⟨step, hStep, hGuard | rfl⟩
  · right
    rcases List.mem_iff_getElem?.mp hStep with
      ⟨index, hPlace⟩
    rcases guard_of_getElem?_steps hPlace hGuard with
      ⟨declaration, hRead, -, rfl⟩
    rcases readAt_eq_declared hRead with
      ⟨below, hBelow, -, hNamed⟩
    exact ⟨below, List.mem_of_getElem? hBelow, index,
      declaration, hBelow, hNamed, rfl⟩
  · left
    rw [← map_line_steps bounds lines]
    exact List.mem_map_of_mem hStep

/- Without a carriage return in the script none is added. -/
theorem return_not_mem_of_mem_addGuards
    {line : Text}
    (hReturn : ∀ other ∈ lines, '\r' ∉ other)
    (hMem : line ∈ addGuards bounds lines) :
    '\r' ∉ line := by
  rcases of_mem_addGuards hMem with
    hLine | ⟨below, hBelow, index, declaration, hPlace,
      hNamed, rfl⟩
  · exact hReturn line hLine
  · have hEnd : guardEnd lines index = .lineFeed :=
      (guardEnd_eq lines index).resolve_right fun hEnd =>
        lineEnd_ne_of_not_mem (hReturn below hBelow)
          ((guardEnd_eq_returnLineFeed_iff hPlace).mp hEnd)
    rw [hEnd]
    exact return_not_mem_guardLine hNamed

/- Where all lines end in both characters, so do guards. -/
theorem lineEnd_of_mem_addGuards
    {line : Text}
    (hReturns :
      ∀ other ∈ lines, lineEnd other = .returnLineFeed)
    (hMem : line ∈ addGuards bounds lines) :
    lineEnd line = .returnLineFeed := by
  rcases of_mem_addGuards hMem with
    hLine | ⟨below, hBelow, index, declaration, hPlace,
      -, rfl⟩
  · exact hReturns line hLine
  · rw [(guardEnd_eq_returnLineFeed_iff hPlace).mpr
      (hReturns below hBelow)]
    exact lineEnd_eq_returnLineFeed_iff.mpr
      ⟨guardLine declaration [], guardLine_eq_append _ _⟩

/-
  A pass over a text with carriage returns put before its
  line feeds makes what a pass over the text itself makes,
  with carriage returns put in there.  A text without
  carriage returns gets none, and one whose lines all end in
  both characters keeps to that, with the guards of any twin
  whose lines end in line feeds only.
-/
theorem pass_keeps_line_ends
    (bounds : Bounds)
    (t : Text) :
    ('\r' ∉ t →
      ClosesLine t →
        IsTwinPass bounds t.splitLines
          t.withReturns.splitLines) ∧
    ('\r' ∉ t →
      '\r' ∉ (addGuards bounds t.splitLines).flatten) ∧
    ((∀ line ∈ t.splitLines,
        lineEnd line = .returnLineFeed) →
      (∀ line ∈ addGuards bounds t.splitLines,
        lineEnd line = .returnLineFeed) ∧
      ∀ twin,
        ClosesLine twin →
          (∀ line ∈ twin.splitLines,
            lineEnd line = .lineFeed) →
            twin.withReturns = t →
              IsTwinPass bounds twin.splitLines
                t.splitLines) := by
  have hLines :
      '\r' ∉ t → ∀ line ∈ t.splitLines, '\r' ∉ line := by
    intro hReturn line hLine hMem
    refine hReturn ?_
    rw [← Text.flatten_splitLines t]
    exact List.mem_flatten_of_mem hLine hMem
  refine ⟨?_, ?_, ?_⟩
  · intro hReturn hClosed
    exact isTwinPass_withReturns bounds hClosed
      fun line hMem =>
        lineEnd_ne_of_not_mem (hLines hReturn line hMem)
  · intro hReturn hMem
    rcases List.mem_flatten.mp hMem with ⟨line, hLine, hIn⟩
    exact return_not_mem_of_mem_addGuards (hLines hReturn)
      hLine hIn
  · intro hReturns
    refine ⟨fun line => lineEnd_of_mem_addGuards hReturns,
      ?_⟩
    rintro twin hClosed hFeeds rfl
    refine isTwinPass_withReturns bounds hClosed ?_
    intro line hMem
    rw [hFeeds line hMem]
    simp

/- A statement on two lines that end in line feeds. -/
def feedScript :
    Text :=
  Text.ofString "CREATE TRIGGER a\n  ON t;\n"

/- Its twin is given a guard with a carriage return. -/
theorem pass_keeps_line_ends_feed :
    '\r' ∉ feedScript ∧ ClosesLine feedScript ∧
      (∀ line ∈ feedScript.withReturns.splitLines,
        lineEnd line = .returnLineFeed) ∧
      (∀ line ∈ feedScript.splitLines,
        lineEnd line = .lineFeed) ∧
      addGuards ⟨2, 5⟩ feedScript.splitLines =
        [Text.ofString
            "DROP TRIGGER IF EXISTS \"a\" ON t;\n",
          Text.ofString "CREATE TRIGGER a\n",
          Text.ofString "  ON t;\n"] ∧
      '\r' ∉
        (addGuards ⟨2, 5⟩ feedScript.splitLines).flatten ∧
      IsTwinPass ⟨2, 5⟩ feedScript.splitLines
        feedScript.withReturns.splitLines ∧
      ∀ line ∈
          addGuards ⟨2, 5⟩ feedScript.withReturns.splitLines,
        lineEnd line = .returnLineFeed := by
  have hReturn : '\r' ∉ feedScript := by
    decide
  have hClosed : ClosesLine feedScript :=
    Or.inr ⟨Text.ofString "CREATE TRIGGER a\n  ON t;", rfl⟩
  have hReturns :
      ∀ line ∈ feedScript.withReturns.splitLines,
        lineEnd line = .returnLineFeed := by
    decide
  have hFeeds :
      ∀ line ∈ feedScript.splitLines,
        lineEnd line = .lineFeed := by
    decide
  have hPass := pass_keeps_line_ends ⟨2, 5⟩ feedScript
  have hTwin :=
    (pass_keeps_line_ends ⟨2, 5⟩
      feedScript.withReturns).2.2 hReturns
  exact ⟨hReturn, hClosed, hReturns, hFeeds,
    by decide +kernel, hPass.2.1 hReturn,
    hTwin.2 feedScript hClosed hFeeds rfl, hTwin.1⟩

end SafeRerun
