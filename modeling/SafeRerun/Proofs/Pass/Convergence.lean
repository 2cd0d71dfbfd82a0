import SafeRerun.Proofs.Pass.SecondPass

/-
  What repeated passes over a script come to.

  Key definitions include:
    * `SafeRerun.startIndices`
    * `SafeRerun.guardsReceived`
    * `SafeRerun.placeAfter`
    * `SafeRerun.PassesConverge`

  Key theorems include:
    * `SafeRerun.guardsReceived_le_one`
    * `SafeRerun.sum_inserted_eq_sum_guardsReceived`
    * `SafeRerun.repeated_passes_converge`

  Every start of the script is followed through the passes.
  The first guard that it receives settles it, so all passes
  together insert no more guards than the script has starts.
-/

------------------------------------------------------------
-- Starts and Their Guards
------------------------------------------------------------

namespace SafeRerun

/- The indices of the lines that start a statement. -/
def startIndices
    (lines : List Text) :
    Finset Nat :=
  (Finset.range lines.length).filter fun index =>
    lines[index]?.any isStatementStart = true

/-
  The number of guards that passes insert at the line that
  stood at an index before the first of them.
-/
def guardsReceived :
    List (List Step) → Nat → Nat
  | [], _ => 0
  | passed :: later, index =>
      (if insertsAt passed index = true then 1 else 0) +
        guardsReceived later (position passed index)

/- Where passes leave the line that stood at an index. -/
def placeAfter :
    List (List Step) → Nat → Nat
  | [], index => index
  | passed :: later, index =>
      placeAfter later (position passed index)

theorem mem_startIndices_iff
    {lines : List Text}
    {index : Nat} :
    index ∈ startIndices lines ↔
      ∃ line,
        lines[index]? = some line ∧
          isStatementStart line = true := by
  unfold startIndices
  rw [Finset.mem_filter, Finset.mem_range,
    Option.any_eq_true]
  constructor
  · intro hExists
    rcases hExists with ⟨-, hStart⟩
    exact hStart
  · intro hExists
    rcases hExists with ⟨line, hLine, hStart⟩
    exact ⟨(List.getElem?_eq_some_iff.mp hLine).1, line,
      hLine, hStart⟩

/- Counting in a list is summing over its indices. -/
theorem countP_eq_sum_range
    {α : Type}
    (p : α → Bool)
    (xs : List α) :
    xs.countP p =
      ∑ index ∈ Finset.range xs.length,
        if xs[index]?.any p = true then 1 else 0 := by
  induction xs with
  | nil =>
      rfl
  | cons x rest ih =>
      rw [List.length_cons, Finset.sum_range_succ',
        List.countP_cons, ih]
      simp

theorem card_startIndices
    (lines : List Text) :
    (startIndices lines).card =
      lines.countP isStatementStart := by
  rw [countP_eq_sum_range, startIndices,
    Finset.card_filter]

end SafeRerun

------------------------------------------------------------
-- One Pass
------------------------------------------------------------

namespace SafeRerun

variable {bounds : Bounds}
variable {lines : List Text}

/- The starts of the result are those of the lines, moved. -/
theorem startIndices_linesOf
    (bounds : Bounds)
    (lines : List Text) :
    startIndices (linesOf (steps bounds lines)) =
      (startIndices lines).image
        (position (steps bounds lines)) := by
  ext place
  rw [mem_startIndices_iff, Finset.mem_image]
  constructor
  · intro hExists
    rcases hExists with ⟨line, hLine, hStart⟩
    rcases exists_position hLine with
      ⟨index, step, hStep, hCase⟩
    rcases hCase with ⟨rfl, rfl⟩ | ⟨-, hGuard⟩
    · refine ⟨index, ?_, rfl⟩
      exact mem_startIndices_iff.mpr
        ⟨step.line, (of_getElem?_steps hStep).1, hStart⟩
    · rcases isSound_of_mem_steps
          (List.mem_of_getElem? hStep) line hGuard with
        ⟨-, declaration, ending, -, -, rfl⟩
      rw [isStatementStart_guardLine] at hStart
      contradiction
  · intro hExists
    rcases hExists with ⟨index, hMem, rfl⟩
    rcases mem_startIndices_iff.mp hMem with
      ⟨line, hLine, hStart⟩
    have hStep := getElem?_steps bounds lines index
    rw [hLine, Option.map_some] at hStep
    exact ⟨line, getElem?_position hStep, hStart⟩

/- A pass inserts guards at starts only. -/
theorem tally_inserted_eq_sum
    (bounds : Bounds)
    (lines : List Text) :
    (tally bounds lines).inserted =
      ∑ index ∈ startIndices lines,
        if insertsAt (steps bounds lines) index = true
          then 1 else 0 := by
  rw [tally_inserted, countP_eq_sum_range, length_steps,
    startIndices, Finset.sum_filter]
  apply Finset.sum_congr rfl
  intro index hMem
  by_cases hInserts :
      insertsAt (steps bounds lines) index = true
  · rcases insertsAt_eq_true_iff.mp hInserts with
      ⟨step, guard, hStep, hGuard⟩
    have hStart :=
      (isSound_of_mem_steps
        (List.mem_of_getElem? hStep) guard hGuard).1
    have hAny :
        lines[index]?.any isStatementStart = true := by
      rw [(of_getElem?_steps hStep).1]
      exact hStart
    rw [if_pos hAny]
    rfl
  · unfold insertsAt at hInserts
    simp [insertsAt, hInserts]

end SafeRerun

------------------------------------------------------------
-- Many Passes
------------------------------------------------------------

namespace SafeRerun

variable {bounds : Bounds}
variable {lines : List Text}
variable {index : Nat}

/- What a pass makes of lines are lines again. -/
theorem areLines_addGuards
    (bounds : Bounds)
    (hLines : AreLines lines) :
    AreLines (addGuards bounds lines) := by
  apply areLines_linesOf
  · intro step hMem
    exact isSound_of_mem_steps hMem
  · rwa [map_line_steps]

/- The next pass works on what the one before it made. -/
theorem passes_succ
    (bounds : Bounds)
    (hLines : AreLines lines)
    (count : Nat) :
    passes bounds lines (count + 1) =
      steps bounds lines ::
        passes bounds (addGuards bounds lines) count := by
  rw [passes, resplit_linesOf_steps bounds hLines]
  rfl

/- Every pass takes the steps of what was made so far. -/
theorem getElem?_passes
    {count number : Nat}
    (hLines : AreLines lines)
    (hNumber : number < count) :
    (passes bounds lines count)[number]? =
      some (steps bounds
        ((addGuards bounds)^[number] lines)) := by
  induction count generalizing lines number with
  | zero =>
      omega
  | succ count ih =>
      rw [passes_succ bounds hLines]
      cases number with
      | zero =>
          rfl
      | succ number =>
          rw [List.getElem?_cons_succ,
            Function.iterate_succ_apply]
          exact ih (areLines_addGuards bounds hLines)
            (by omega)

@[simp] theorem length_passes
    (bounds : Bounds)
    (lines : List Text)
    (count : Nat) :
    (passes bounds lines count).length = count := by
  induction count generalizing lines with
  | zero =>
      rfl
  | succ count ih =>
      rw [passes, List.length_cons, ih]

/- A settled statement receives no guard any more. -/
theorem guardsReceived_of_isSettled
    {line : Text}
    (hLines : AreLines lines)
    (hLookback : 1 ≤ bounds.lookback)
    (hLine : lines[index]? = some line)
    (hSettled : IsSettled bounds.lookahead lines index)
    (count : Nat) :
    guardsReceived (passes bounds lines count) index = 0 := by
  induction count generalizing lines index with
  | zero =>
      rfl
  | succ count ih =>
      have hStep := getElem?_steps bounds lines index
      rw [hLine, Option.map_some] at hStep
      have hLater :=
        ih (areLines_addGuards bounds hLines)
          (getElem?_position hStep)
          (hSettled.position hLookback hLine)
      rw [passes_succ bounds hLines, guardsReceived,
        hSettled.insertsAt_eq_false hLookback]
      simpa using hLater

/-
  No statement receives two guards, however many passes are
  made: the first one settles it.
-/
theorem guardsReceived_le_one
    {line : Text}
    (hLines : AreLines lines)
    (hLookback : 1 ≤ bounds.lookback)
    (hLine : lines[index]? = some line)
    (count : Nat) :
    guardsReceived (passes bounds lines count) index ≤ 1 := by
  induction count generalizing lines index with
  | zero =>
      exact Nat.zero_le 1
  | succ count ih =>
      have hStep := getElem?_steps bounds lines index
      rw [hLine, Option.map_some] at hStep
      have hNext := getElem?_position hStep
      have hNextLines := areLines_addGuards bounds hLines
      rw [passes_succ bounds hLines, guardsReceived]
      cases hInserts :
          insertsAt (steps bounds lines) index with
      | true =>
          have hLater :=
            guardsReceived_of_isSettled hNextLines hLookback
              hNext (isSettled_of_insertsAt hInserts) count
          rw [hLater]
          simp
      | false =>
          simpa using ih hNextLines hNext

/- The guards of all passes are those that starts receive. -/
theorem sum_inserted_eq_sum_guardsReceived
    (hLines : AreLines lines)
    (count : Nat) :
    ((passes bounds lines count).map fun passed =>
        (tallyOf passed).inserted).sum =
      ∑ index ∈ startIndices lines,
        guardsReceived (passes bounds lines count)
          index := by
  induction count generalizing lines with
  | zero =>
      simp [passes, guardsReceived]
  | succ count ih =>
      have hFirst := tally_inserted_eq_sum bounds lines
      rw [passes_succ bounds hLines, List.map_cons,
        List.sum_cons, ih (areLines_addGuards bounds hLines),
        addGuards, startIndices_linesOf, Finset.sum_image
          (position_strictMono _).injective.injOn]
      simp only [guardsReceived]
      rw [Finset.sum_add_distrib, ← hFirst]
      rfl

end SafeRerun

------------------------------------------------------------
-- Convergence
------------------------------------------------------------

namespace SafeRerun

variable {bounds : Bounds}
variable {lines : List Text}

/- A line is itself wherever passes leave it. -/
theorem line_at_placeAfter
    {line : Text}
    {index number : Nat}
    {passed : List Step}
    {count : Nat}
    (hLines : AreLines lines)
    (hLine : lines[index]? = some line)
    (hPassed :
      (passes bounds lines count)[number]? = some passed) :
    ((passed[placeAfter
        ((passes bounds lines count).take number)
          index]?).map Step.line) = some line := by
  induction count generalizing lines index number with
  | zero =>
      simp [passes] at hPassed
  | succ count ih =>
      rw [passes_succ bounds hLines] at hPassed ⊢
      have hStep := getElem?_steps bounds lines index
      rw [hLine, Option.map_some] at hStep
      cases number with
      | zero =>
          rw [List.getElem?_cons_zero, Option.some.injEq]
            at hPassed
          subst hPassed
          rw [List.take_zero, placeAfter, hStep]
          rfl
      | succ number =>
          rw [List.getElem?_cons_succ] at hPassed
          rw [List.take_succ_cons, placeAfter]
          exact ih (areLines_addGuards bounds hLines)
            (getElem?_position hStep) hPassed

/- A pass that says it changes a script inserts a guard. -/
theorem countP_changes_le_sum
    (runs : List (List Step)) :
    (runs.countP fun passed => (tallyOf passed).changes) ≤
      (runs.map fun passed =>
        (tallyOf passed).inserted).sum := by
  induction runs with
  | nil =>
      exact Nat.le_refl 0
  | cons passed rest ih =>
      rw [List.countP_cons, List.map_cons, List.sum_cons]
      split
      · rename_i hChanges
        rw [Tally.changes, decide_eq_true_eq] at hChanges
        omega
      · omega

/- After a pass without a change nothing changes any more. -/
theorem linesOf_eq_of_not_changes
    {count number later : Nat}
    {earlier after : List Step}
    (hLines : AreLines lines)
    (hOrder : number ≤ later)
    (hEarlier :
      (passes bounds lines count)[number]? = some earlier)
    (hAfter :
      (passes bounds lines count)[later]? = some after)
    (hSame : (tallyOf earlier).changes = false) :
    linesOf after = linesOf earlier := by
  have hCount :=
    (List.getElem?_eq_some_iff.mp hAfter).1
  rw [length_passes] at hCount
  rw [getElem?_passes hLines (by omega),
    Option.some.injEq] at hEarlier hAfter
  subst hEarlier
  subst hAfter
  -- The lines before the earlier pass are a fixed point.
  have hFixed :
      addGuards bounds ((addGuards bounds)^[number] lines) =
        (addGuards bounds)^[number] lines := by
    by_contra hOther
    have hChanges :=
      (changes_tally_iff bounds _).mpr hOther
    rw [tally, hSame] at hChanges
    contradiction
  rcases Nat.exists_eq_add_of_le' hOrder with
    ⟨further, rfl⟩
  rw [Function.iterate_add_apply,
    Function.iterate_fixed hFixed]

/-
  What passes over a script come to.  Every start is found
  again in every pass and receives at most one guard from
  all of them.  So they insert no more guards than the script
  has starts, and no more of them change anything.  After one
  that changes nothing all later ones return the same lines.
-/
structure PassesConverge
    (bounds : Bounds)
    (lines : List Text)
    (count : Nat) : Prop where
  kept :
    ∀ index ∈ startIndices lines,
      ∀ (number : Nat) (passed : List Step),
        (passes bounds lines count)[number]? = some passed →
          ((passed[placeAfter
              ((passes bounds lines count).take number)
                index]?).map Step.line) = lines[index]?
  once :
    ∀ index ∈ startIndices lines,
      guardsReceived (passes bounds lines count) index ≤ 1
  inserted_eq :
    ((passes bounds lines count).map fun passed =>
        (tallyOf passed).inserted).sum =
      ∑ index ∈ startIndices lines,
        guardsReceived (passes bounds lines count) index
  inserted_le :
    ((passes bounds lines count).map fun passed =>
        (tallyOf passed).inserted).sum ≤
      lines.countP isStatementStart
  changing_le :
    ((passes bounds lines count).countP fun passed =>
        (tallyOf passed).changes) ≤
      lines.countP isStatementStart
  stable :
    ∀ (number later : Nat) (earlier after : List Step),
      number ≤ later →
        (passes bounds lines count)[number]? =
            some earlier →
          (passes bounds lines count)[later]? =
              some after →
            (tallyOf earlier).changes = false →
              linesOf after = linesOf earlier

/- However often a text is passed over, the passes converge. -/
theorem repeated_passes_converge
    (bounds : Bounds)
    (hLookback : 1 ≤ bounds.lookback)
    (t : Text)
    (count : Nat) :
    PassesConverge bounds t.splitLines count := by
  have hLines := areLines_splitLines t
  have hOnce :
      ∀ index ∈ startIndices t.splitLines,
        guardsReceived (passes bounds t.splitLines count)
          index ≤ 1 := by
    intro index hMem
    rcases mem_startIndices_iff.mp hMem with
      ⟨line, hLine, -⟩
    exact guardsReceived_le_one hLines hLookback hLine count
  have hSum :
      ((passes bounds t.splitLines count).map fun passed =>
          (tallyOf passed).inserted).sum =
        ∑ index ∈ startIndices t.splitLines,
          guardsReceived (passes bounds t.splitLines count)
            index :=
    sum_inserted_eq_sum_guardsReceived hLines count
  have hTotal :
      ((passes bounds t.splitLines count).map fun passed =>
          (tallyOf passed).inserted).sum ≤
        t.splitLines.countP isStatementStart := by
    rw [hSum, ← card_startIndices, Finset.card_eq_sum_ones]
    exact Finset.sum_le_sum fun index hMem =>
      hOnce index hMem
  constructor
  case kept =>
    intro index hMem number passed hPassed
    rcases mem_startIndices_iff.mp hMem with
      ⟨line, hLine, -⟩
    rw [hLine]
    exact line_at_placeAfter hLines hLine hPassed
  case once =>
    exact hOnce
  case inserted_eq =>
    exact hSum
  case inserted_le =>
    exact hTotal
  case changing_le =>
    exact (countP_changes_le_sum _).trans hTotal
  case stable =>
    intro number later earlier after hOrder hEarlier hAfter
      hSame
    exact linesOf_eq_of_not_changes hLines hOrder hEarlier
      hAfter hSame

theorem cascade_passes_converge :
    1 ≤ Settings.default.bounds.lookback ∧
      PassesConverge Settings.default.bounds
        cascade.splitLines 3 :=
  ⟨by decide,
    repeated_passes_converge Settings.default.bounds
      (by decide) cascade 3⟩

end SafeRerun
