import SafeRerun.Proofs.Pass.Position
import SafeRerun.Proofs.Pass.Step
import SafeRerun.Proofs.Text.Line

/-
  What a pass keeps and what it adds, with the numbers that
  it reports.

  Key definitions include:
    * `SafeRerun.InsertedAbove`
    * `SafeRerun.IsGuardAbove`

  Key theorems include:
    * `SafeRerun.pass_keeps_and_accounts`

  The lines of a script come out of a pass unmodified and in
  their order.  All that is added are guards, at most one
  directly above a start, and the numbers of the pass count
  exactly this.
-/

------------------------------------------------------------
-- Inserted Lines
------------------------------------------------------------

namespace SafeRerun

/-
  The second list is the first one with at most one more
  line above each line, and above the line at an index only
  what is allowed there.
-/
inductive InsertedAbove
    (allowed : Nat → Text → Prop) :
    Nat → List Text → List Text → Prop
  | done
      (index : Nat) :
      InsertedAbove allowed index [] []
  | kept
      (index : Nat)
      (line : Text)
      (rest result : List Text)
      (hRest : InsertedAbove allowed (index + 1) rest result) :
      InsertedAbove allowed index (line :: rest)
        (line :: result)
  | inserted
      (index : Nat)
      (extra line : Text)
      (rest result : List Text)
      (hExtra : allowed index extra)
      (hRest : InsertedAbove allowed (index + 1) rest result) :
      InsertedAbove allowed index (line :: rest)
        (extra :: line :: result)

/-
  The guard of the words that are declared at an index, where
  a statement starts, on a line of its own.
-/
def IsGuardAbove
    (lookahead : Nat)
    (lines : List Text)
    (index : Nat)
    (extra : Text) : Prop :=
  ∃ line declaration ending,
    lines[index]? = some line ∧
      isStatementStart line = true ∧
        readAt lookahead lines index =
            .declared declaration ∧
          IsWordRun declaration.trigger ∧
            IsWordRun declaration.table ∧
              (ending = ['\n'] ∨ ending = ['\r', '\n']) ∧
                extra =
                  Text.ofString "DROP TRIGGER IF EXISTS \"" ++
                    declaration.trigger ++
                    Text.ofString "\" ON " ++
                    declaration.table ++ ';' :: ending

/- Steps that insert what is allowed make such a list. -/
theorem insertedAbove_linesOf
    {allowed : Nat → Text → Prop}
    {passed : List Step}
    {first : Nat}
    (hAllowed :
      ∀ index step guard,
        passed[index]? = some step →
          step.guard = some guard →
            allowed (first + index) guard) :
    InsertedAbove allowed first (passed.map Step.line)
      (linesOf passed) := by
  induction passed generalizing first with
  | nil =>
      exact InsertedAbove.done first
  | cons step rest ih =>
      have hRest :
          InsertedAbove allowed (first + 1)
            (rest.map Step.line) (linesOf rest) := by
        apply ih
        intro index later guard hLater hGuard
        have hNext :=
          hAllowed (index + 1) later guard hLater hGuard
        have hSame :
            first + (index + 1) = first + 1 + index := by
          omega
        rwa [hSame] at hNext
      rw [linesOf_cons, List.map_cons]
      cases hGuard : step.guard with
      | none =>
          simp only [Step.lines, hGuard, Option.toList_none,
            List.nil_append, List.singleton_append]
          exact InsertedAbove.kept first step.line _ _ hRest
      | some guard =>
          simp only [Step.lines, hGuard, Option.toList_some,
            List.cons_append, List.nil_append]
          exact InsertedAbove.inserted first guard step.line
            _ _ (hAllowed 0 step guard rfl hGuard) hRest

/- A pass inserts nothing but guards of declarations. -/
theorem isGuardAbove_of_getElem?_steps
    {bounds : Bounds}
    {lines : List Text}
    {index : Nat}
    {step : Step}
    {guard : Text}
    (hStep : (steps bounds lines)[index]? = some step)
    (hGuard : step.guard = some guard) :
    IsGuardAbove bounds.lookahead lines index guard := by
  rcases guard_of_getElem?_steps hStep hGuard with
    ⟨declaration, hRead, -, rfl⟩
  rcases readAt_eq_declared hRead with
    ⟨line, hLine, hStart, hNamed⟩
  refine ⟨line, declaration, (guardEnd lines index).text,
    hLine, hStart, hRead, hNamed.trigger, hNamed.table,
    ?_, rfl⟩
  rcases guardEnd_eq lines index with hEnd | hEnd
  · left
    rw [hEnd]
    rfl
  · right
    rw [hEnd]
    rfl

end SafeRerun

------------------------------------------------------------
-- Starts
------------------------------------------------------------

namespace SafeRerun

/- A pass neither adds nor removes the start of a statement. -/
theorem countP_isStatementStart_linesOf
    {passed : List Step}
    (hSound : ∀ step ∈ passed, step.IsSound) :
    (linesOf passed).countP isStatementStart =
      (passed.map Step.line).countP isStatementStart := by
  induction passed with
  | nil =>
      rfl
  | cons step rest ih =>
      have hRest :=
        ih fun s hMem => hSound s (by simp [hMem])
      rw [linesOf_cons, List.countP_append, hRest,
        List.map_cons, List.countP_cons]
      cases hGuard : step.guard with
      | none =>
          simp [Step.lines, hGuard, List.countP_cons]
          omega
      | some guard =>
          rcases hSound step (by simp) guard hGuard with
            ⟨-, declaration, ending, -, -, rfl⟩
          simp [Step.lines, hGuard, List.countP_cons,
            isStatementStart_guardLine]
          omega

/-
  At a start something is declared or something is left
  alone, and elsewhere neither.
-/
theorem start_of_mem_steps
    {bounds : Bounds}
    {lines : List Text}
    {step : Step}
    (hMem : step ∈ steps bounds lines) :
    (isStatementStart step.line = true ↔
        step.reading.declaration?.isSome = true ∨
          step.reading.isSkipped = true) ∧
      ¬ (step.reading.declaration?.isSome = true ∧
          step.reading.isSkipped = true) := by
  rcases List.mem_iff_getElem?.mp hMem with ⟨index, hStep⟩
  rcases of_getElem?_steps hStep with ⟨hLine, hReading, -⟩
  have hStart :=
    readAt_eq_noStatement_iff bounds.lookahead hLine
  rw [← hReading] at hStart
  cases hCase : step.reading with
  | noStatement =>
      rw [hCase] at hStart
      simp [Reading.declaration?, Reading.isSkipped,
        hStart.mp rfl]
  | declared declaration =>
      rw [hCase] at hStart
      simpa [Reading.declaration?, Reading.isSkipped]
        using hStart
  | noOnClause =>
      rw [hCase] at hStart
      simpa [Reading.declaration?, Reading.isSkipped]
        using hStart
  | unrecognised statement =>
      rw [hCase] at hStart
      simpa [Reading.declaration?, Reading.isSkipped]
        using hStart

/- Two properties that exclude each other are counted apart. -/
theorem countP_add_countP_of_exclusive
    {α : Type}
    {p q r : α → Bool}
    {xs : List α}
    (hCases :
      ∀ x ∈ xs,
        (r x = true ↔ p x = true ∨ q x = true) ∧
          ¬ (p x = true ∧ q x = true)) :
    xs.countP p + xs.countP q = xs.countP r := by
  induction xs with
  | nil =>
      rfl
  | cons x rest ih =>
      have hRest := ih fun y hMem => hCases y (by simp [hMem])
      have hFirst := hCases x (by simp)
      simp only [List.countP_cons]
      cases hP : p x <;> cases hQ : q x <;>
        simp [hP, hQ] at hFirst <;> simp [hFirst] <;> omega

end SafeRerun

------------------------------------------------------------
-- The Result Read Again
------------------------------------------------------------

namespace SafeRerun

/- A guard is one line. -/
theorem endsInFeed_guardLine
    {declaration : Declaration}
    {ending : LineEnd}
    (hNamed : declaration.IsNamed)
    (hEnding :
      ending = .lineFeed ∨ ending = .returnLineFeed) :
    EndsInFeed (guardLine declaration ending.text) := by
  have hFeed : '\n' ∉ guardLine declaration [] :=
    not_mem_guardLine hNamed (Or.inr rfl)
  rw [guardLine_eq_append]
  rcases hEnding with rfl | rfl
  · exact ⟨guardLine declaration [], hFeed, rfl⟩
  · exact ⟨guardLine declaration [] ++ ['\r'],
      by simp [hFeed], by simp [LineEnd.text]⟩

/- Lines with guards between them are lines. -/
theorem areLines_linesOf
    {passed : List Step}
    (hSound : ∀ step ∈ passed, step.IsSound)
    (hLines : AreLines (passed.map Step.line)) :
    AreLines (linesOf passed) := by
  induction passed with
  | nil =>
      exact AreLines.none
  | cons step rest ih =>
      have hRest : ∀ s ∈ rest, s.IsSound :=
        fun s hMem => hSound s (by simp [hMem])
      -- The line and all below it are lines again.
      have hFrom :
          AreLines (step.line :: linesOf rest) := by
        generalize hList :
          (step :: rest).map Step.line = lines at hLines
        cases hLines with
        | none =>
            simp at hList
        | last line hNonempty hFeed =>
            simp only [List.map_cons, List.cons.injEq,
              List.map_eq_nil_iff] at hList
            rw [hList.1, hList.2]
            exact AreLines.last line hNonempty hFeed
        | line line others hLine hOthers =>
            simp only [List.map_cons, List.cons.injEq]
              at hList
            rw [← hList.2] at hOthers
            rw [hList.1]
            exact AreLines.line line _ hLine
              (ih hRest hOthers)
      rw [linesOf_cons]
      cases hGuard : step.guard with
      | none =>
          simpa [Step.lines, hGuard] using hFrom
      | some guard =>
          rcases hSound step (by simp) guard hGuard with
            ⟨-, declaration, ending, hNamed, hEnding, rfl⟩
          simp only [Step.lines, hGuard, Option.toList_some,
            List.cons_append, List.nil_append]
          exact AreLines.line _ _
            (endsInFeed_guardLine hNamed hEnding) hFrom

/- What a pass makes of lines is found again in its text. -/
theorem resplit_linesOf_steps
    (bounds : Bounds)
    {lines : List Text}
    (hLines : AreLines lines) :
    resplit (linesOf (steps bounds lines)) =
      linesOf (steps bounds lines) := by
  apply splitLines_flatten
  apply areLines_linesOf
  · intro step hMem
    exact isSound_of_mem_steps hMem
  · rwa [map_line_steps]

end SafeRerun

------------------------------------------------------------
-- The Numbers of a Pass
------------------------------------------------------------

namespace SafeRerun

/- Without a guard the lines are what they were. -/
theorem linesOf_eq_of_countP_eq_zero
    {passed : List Step}
    (hNone : passed.countP Step.inserts = 0) :
    linesOf passed = passed.map Step.line := by
  induction passed with
  | nil =>
      rfl
  | cons step rest ih =>
      rw [List.countP_eq_zero] at hNone
      have hRest :=
        ih (List.countP_eq_zero.mpr fun s hMem =>
          hNone s (by simp [hMem]))
      have hFirst := hNone step (by simp)
      have hGuard : step.guard = none := by
        simpa [Step.inserts] using hFirst
      rw [linesOf_cons, hRest]
      simp [Step.lines, hGuard]

theorem tally_inserted
    (bounds : Bounds)
    (lines : List Text) :
    (tally bounds lines).inserted =
      (steps bounds lines).countP Step.inserts := rfl

/- The result is longer by the number of inserted guards. -/
theorem length_addGuards
    (bounds : Bounds)
    (lines : List Text) :
    (addGuards bounds lines).length =
      lines.length + (tally bounds lines).inserted := by
  rw [addGuards, length_linesOf, length_steps,
    tally_inserted]

/- Guards are inserted only where something is declared. -/
theorem inserted_le_found
    (bounds : Bounds)
    (lines : List Text) :
    (tally bounds lines).inserted ≤
      (tally bounds lines).found := by
  apply List.countP_mono_left
  intro step hMem hGuard
  rcases Option.isSome_iff_exists.mp hGuard with
    ⟨guard, hSome⟩
  rcases List.mem_iff_getElem?.mp hMem with ⟨index, hStep⟩
  rcases guard_of_getElem?_steps hStep hSome with
    ⟨declaration, hRead, -, -⟩
  rcases of_getElem?_steps hStep with ⟨-, hReading, -⟩
  rw [hReading, hRead]
  rfl

/- Every start is recognised or left alone. -/
theorem found_add_skipped
    (bounds : Bounds)
    (lines : List Text) :
    (tally bounds lines).found +
        (tally bounds lines).skipped =
      lines.countP isStatementStart := by
  have hCount :
      (steps bounds lines).countP
          (fun step => isStatementStart step.line) =
        lines.countP isStatementStart := by
    conv_rhs => rw [← map_line_steps bounds lines]
    rw [List.countP_map]
    rfl
  rw [← hCount]
  exact countP_add_countP_of_exclusive fun step hMem =>
    start_of_mem_steps hMem

/- A pass says that it changes a script when it does. -/
theorem changes_tally_iff
    (bounds : Bounds)
    (lines : List Text) :
    (tally bounds lines).changes = true ↔
      addGuards bounds lines ≠ lines := by
  rw [Tally.changes, decide_eq_true_eq, tally_inserted]
  constructor
  · intro hSome hSame
    have hLength := length_addGuards bounds lines
    rw [hSame, tally_inserted] at hLength
    omega
  · intro hOther
    by_contra hNone
    apply hOther
    rw [addGuards, linesOf_eq_of_countP_eq_zero (by omega),
      map_line_steps]

/-
  A pass over the lines of a text keeps every line, adds
  nothing but guards above starts, and accounts for it: the
  numbers of guards, of recognised statements and of all
  starts fit together, the result differs from the lines when
  the pass says so, and the text of the result has the lines
  of the result.
-/
theorem pass_keeps_and_accounts
    (bounds : Bounds)
    (t : Text) :
    InsertedAbove
        (IsGuardAbove bounds.lookahead t.splitLines) 0
        t.splitLines (addGuards bounds t.splitLines) ∧
      (addGuards bounds t.splitLines).length =
        t.splitLines.length +
          (tally bounds t.splitLines).inserted ∧
      (tally bounds t.splitLines).inserted ≤
        (tally bounds t.splitLines).found ∧
      (tally bounds t.splitLines).found +
          (tally bounds t.splitLines).skipped =
        t.splitLines.countP isStatementStart ∧
      (addGuards bounds t.splitLines).countP
          isStatementStart =
        t.splitLines.countP isStatementStart ∧
      ((tally bounds t.splitLines).changes = true ↔
        addGuards bounds t.splitLines ≠ t.splitLines) ∧
      Text.splitLines
          (addGuards bounds t.splitLines).flatten =
        addGuards bounds t.splitLines := by
  have hSound :
      ∀ step ∈ steps bounds t.splitLines, step.IsSound :=
    fun step hMem => isSound_of_mem_steps hMem
  refine ⟨?_, length_addGuards _ _, inserted_le_found _ _,
    found_add_skipped _ _, ?_, changes_tally_iff _ _,
    resplit_linesOf_steps bounds (areLines_splitLines t)⟩
  · have hInserted :
        InsertedAbove
          (IsGuardAbove bounds.lookahead t.splitLines) 0
          ((steps bounds t.splitLines).map Step.line)
          (addGuards bounds t.splitLines) := by
      apply insertedAbove_linesOf
      intro index step guard hStep hGuard
      rw [Nat.zero_add]
      exact isGuardAbove_of_getElem?_steps hStep hGuard
    rwa [map_line_steps] at hInserted
  · have hStarts := countP_isStatementStart_linesOf hSound
    rwa [map_line_steps] at hStarts

end SafeRerun
