import SafeRerun.Settings.Basic
import SafeRerun.Proofs.Pass.Settled

/-
  When a second pass leaves a script as the first one made
  it.

  Key definitions include:
    * `SafeRerun.IsSilent`
    * `SafeRerun.IsReached`

  Key theorems include:
    * `SafeRerun.insertsAt_position_iff`
    * `SafeRerun.second_pass_isSilent_iff`
    * `SafeRerun.isSilent_addGuards_of_lookback_eq_one`

  The guards of the first pass move the lines apart.  A guard
  that stood within the lookback of a statement can be out of
  its reach afterwards, and the statement receives another
  one.
-/

------------------------------------------------------------
-- Silent Passes
------------------------------------------------------------

namespace SafeRerun

variable {bounds : Bounds}
variable {lines : List Text}

/- A pass that reports no change and makes none. -/
structure IsSilent
    (bounds : Bounds)
    (lines : List Text) : Prop where
  unchanged : (tally bounds lines).changes = false
  inserted : (tally bounds lines).inserted = 0
  same : addGuards bounds lines = lines

/- A pass is silent when it inserts nowhere. -/
theorem isSilent_iff :
    IsSilent bounds lines ↔
      ∀ index,
        insertsAt (steps bounds lines) index = false := by
  constructor
  · intro hSilent index
    by_contra hInserts
    rcases insertsAt_eq_true_iff.mp
        (by simpa using hInserts) with
      ⟨step, guard, hStep, hGuard⟩
    have hNone := hSilent.inserted
    rw [tally_inserted, List.countP_eq_zero] at hNone
    apply hNone step (List.mem_of_getElem? hStep)
    simp [Step.inserts, hGuard]
  · intro hNowhere
    have hNone : (tally bounds lines).inserted = 0 := by
      rw [tally_inserted, List.countP_eq_zero]
      intro step hMem hInserts
      rcases List.mem_iff_getElem?.mp hMem with
        ⟨index, hStep⟩
      have hNot := hNowhere index
      rw [insertsAt, hStep, Option.any_some, hInserts]
        at hNot
      contradiction
    have hSame :
        (tally bounds lines).changes = false := by
      simp [Tally.changes, hNone]
    refine ⟨hSame, hNone, ?_⟩
    by_contra hOther
    rw [(changes_tally_iff bounds lines).mpr hOther]
      at hSame
    contradiction

end SafeRerun

------------------------------------------------------------
-- Guards Within Reach
------------------------------------------------------------

namespace SafeRerun

variable {bounds : Bounds}
variable {lines : List Text}
variable {index : Nat}

/-
  After a pass the lookback still reaches a guard for the
  trigger: a line of the script, or the guard that the pass
  inserts for a statement above of the same trigger.
-/
def IsReached
    (bounds : Bounds)
    (lines : List Text)
    (index : Nat)
    (trigger : Text) : Prop :=
  ∃ place,
    place < index ∧
      ((∃ line,
          lines[place]? = some line ∧
            guardsTrigger trigger line = true ∧
              position (steps bounds lines) index ≤
                position (steps bounds lines) place +
                  bounds.lookback) ∨
        (∃ declaration,
          readAt bounds.lookahead lines place =
              .declared declaration ∧
            insertsAt (steps bounds lines) place = true ∧
              declaration.trigger.lowercase =
                trigger.lowercase ∧
                position (steps bounds lines) index + 1 ≤
                  position (steps bounds lines) place +
                    bounds.lookback))

/- The guards above the position of a line without one. -/
theorem isGuarded_position_iff
    {trigger : Text}
    (hNot : insertsAt (steps bounds lines) index = false) :
    isGuarded bounds.lookback
        (linesOf (steps bounds lines))
        (position (steps bounds lines) index) trigger =
          true ↔
      IsReached bounds lines index trigger := by
  have hMono := position_strictMono (steps bounds lines)
  rw [isGuarded_iff]
  constructor
  · intro hExists
    rcases hExists with
      ⟨place, line, hAbove, hReach, hLine, hGuards⟩
    rcases exists_position hLine with
      ⟨above, step, hStep, ⟨hPlace, rfl⟩ |
        ⟨hPlace, hGuard⟩⟩
    · rw [hPlace] at hAbove hReach
      exact ⟨above, hMono.lt_iff_lt.mp hAbove, Or.inl
        ⟨step.line, (of_getElem?_steps hStep).1, hGuards,
          hReach⟩⟩
    · -- The guard is not the one of the line itself.
      have hInserts :
          insertsAt (steps bounds lines) above = true :=
        insertsAt_eq_true_iff.mpr
          ⟨step, line, hStep, hGuard⟩
      have hOther : above ≠ index := by
        rintro rfl
        rw [hInserts] at hNot
        contradiction
      have hLess : above ≤ index :=
        hMono.le_iff_le.mp (by omega)
      rcases guard_of_getElem?_steps hStep hGuard with
        ⟨declaration, hRead, -, rfl⟩
      rcases readAt_eq_declared hRead with ⟨_, -, -, hNamed⟩
      have hSame :=
        (guardsTrigger_guardLine hNamed
          (isBlankRun_lineEnd _)).mp hGuards
      exact ⟨above, by omega, Or.inr
        ⟨declaration, hRead, hInserts, hSame, by omega⟩⟩
  · intro hExists
    rcases hExists with
      ⟨above, hAbove, ⟨line, hLine, hGuards, hReach⟩ |
        ⟨declaration, hRead, hInserts, hSame, hReach⟩⟩
    · have hStep := getElem?_steps bounds lines above
      rw [hLine, Option.map_some] at hStep
      exact ⟨position (steps bounds lines) above, line,
        hMono hAbove, hReach, getElem?_position hStep,
        hGuards⟩
    · rcases insertsAt_eq_true_iff.mp hInserts with
        ⟨step, guard, hStep, hGuard⟩
      rcases getElem?_guard hStep hGuard with
        ⟨place, hPlace, hLine⟩
      rcases guard_of_getElem?_steps hStep hGuard with
        ⟨found, hFound, -, rfl⟩
      rw [hRead, Reading.declared.injEq] at hFound
      subst hFound
      rcases readAt_eq_declared hRead with ⟨_, -, -, hNamed⟩
      have hLess := hMono hAbove
      exact ⟨place, _, by omega, by omega, hLine,
        (guardsTrigger_guardLine hNamed
          (isBlankRun_lineEnd _)).mpr hSame⟩

/-
  A second pass inserts a guard at a line without one exactly
  when the line declares a trigger, its text is not cut, and
  no guard is in reach any more.
-/
theorem insertsAt_position_iff
    {line : Text}
    (hLine : lines[index]? = some line)
    (hNot : insertsAt (steps bounds lines) index = false) :
    insertsAt (steps bounds (addGuards bounds lines))
        (position (steps bounds lines) index) = true ↔
      ∃ declaration,
        readAt bounds.lookahead lines index =
            .declared declaration ∧
          ¬ IsCut lines (steps bounds lines) index ∧
            ¬ IsReached bounds lines index
              declaration.trigger := by
  have hStep := getElem?_steps bounds lines index
  rw [hLine, Option.map_some] at hStep
  have hKept :
      ∀ declaration,
        readAt bounds.lookahead lines index =
            .declared declaration →
          ((∃ found,
            readAt bounds.lookahead
                (linesOf (steps bounds lines))
                (position (steps bounds lines) index) =
              .declared found) ↔
            ¬ IsCut lines (steps bounds lines) index) := by
    intro declaration hRead
    rw [← map_line_steps bounds lines] at hRead
    have hIff :=
      readAt_position_iff
        (fun s hMem => isSound_of_mem_steps hMem) hStep
        hRead
    rwa [map_line_steps] at hIff
  rw [insertsAt_steps_iff, addGuards]
  constructor
  · intro hExists
    rcases hExists with ⟨found, hFound, hNone⟩
    rcases exists_readAt_of_position hLine hFound with
      ⟨declaration, hRead, hTrigger⟩
    refine ⟨declaration, hRead,
      (hKept declaration hRead).mp ⟨found, hFound⟩, ?_⟩
    intro hReached
    rw [hTrigger, ← isGuarded_position_iff hNot, hNone]
      at hReached
    contradiction
  · intro hExists
    rcases hExists with
      ⟨declaration, hRead, hWhole, hUnreached⟩
    rcases (hKept declaration hRead).mpr hWhole with
      ⟨found, hFound⟩
    rcases exists_readAt_of_position hLine hFound with
      ⟨before, hBefore, hTrigger⟩
    rw [hRead, Reading.declared.injEq] at hBefore
    subst hBefore
    refine ⟨found, hFound, ?_⟩
    rw [hTrigger, ← isGuarded_position_iff hNot]
      at hUnreached
    simpa using hUnreached

end SafeRerun

------------------------------------------------------------
-- The Second Pass
------------------------------------------------------------

namespace SafeRerun

variable {bounds : Bounds}
variable {lines : List Text}

/- Only lines of the script can receive a second guard. -/
theorem insertsAt_addGuards_iff :
    (∀ place,
      insertsAt (steps bounds (addGuards bounds lines))
        place = false) ↔
      ∀ index line,
        lines[index]? = some line →
          insertsAt (steps bounds (addGuards bounds lines))
            (position (steps bounds lines) index) =
              false := by
  constructor
  · intro hNowhere index line _
    exact hNowhere _
  · intro hAtLines place
    by_contra hInserts
    rcases insertsAt_steps_iff.mp (by simpa using hInserts)
      with ⟨found, hFound, -⟩
    rcases readAt_eq_declared hFound with
      ⟨line, hLine, hStart, -⟩
    rcases exists_position hLine with
      ⟨index, step, hStep, ⟨rfl, -⟩ | ⟨-, hGuard⟩⟩
    · exact hInserts
        (hAtLines index step.line (of_getElem?_steps hStep).1)
    · -- An inserted guard is no start of a statement.
      rcases isSound_of_mem_steps
          (List.mem_of_getElem? hStep) line hGuard with
        ⟨-, declaration, ending, -, -, rfl⟩
      rw [isStatementStart_guardLine] at hStart
      contradiction

/- Where a guard is inserted, none was found above. -/
theorem insertsAt_eq_false_of_isGuarded
    {index : Nat}
    {declaration : Declaration}
    (hRead :
      readAt bounds.lookahead lines index =
        .declared declaration)
    (hGuarded :
      isGuarded bounds.lookback lines index
        declaration.trigger = true) :
    insertsAt (steps bounds lines) index = false := by
  by_contra hInserts
  rcases insertsAt_steps_iff.mp (by simpa using hInserts)
    with ⟨other, hOther, hNone⟩
  rw [hRead, Reading.declared.injEq] at hOther
  rw [← hOther, hGuarded] at hNone
  contradiction

/-
  The pass after a pass is silent exactly when every statement
  that the first one found guarded is cut by a guard below it
  or still has a guard in reach.
-/
theorem isSilent_addGuards_iff
    (hLookback : 1 ≤ bounds.lookback) :
    IsSilent bounds (addGuards bounds lines) ↔
      ∀ index declaration,
        readAt bounds.lookahead lines index =
            .declared declaration →
          isGuarded bounds.lookback lines index
              declaration.trigger = true →
            IsCut lines (steps bounds lines) index ∨
              IsReached bounds lines index
                declaration.trigger := by
  rw [isSilent_iff, insertsAt_addGuards_iff]
  constructor
  · intro hNowhere index declaration hRead hGuarded
    rcases readAt_eq_declared hRead with
      ⟨line, hLine, -, -⟩
    have hNot :=
      insertsAt_eq_false_of_isGuarded hRead hGuarded
    by_contra hNeither
    rw [not_or] at hNeither
    have hInserts :=
      (insertsAt_position_iff hLine hNot).mpr
        ⟨declaration, hRead, hNeither⟩
    rw [hNowhere index line hLine] at hInserts
    contradiction
  · intro hGuards index line hLine
    by_contra hInserts
    rw [Bool.not_eq_false] at hInserts
    cases hFirst : insertsAt (steps bounds lines) index with
    | true =>
        -- The guard of the first pass stands above.
        have hNone :=
          (isSettled_of_insertsAt hFirst).insertsAt_eq_false
            hLookback
        rw [← addGuards, hInserts] at hNone
        contradiction
    | false =>
        rcases (insertsAt_position_iff hLine hFirst).mp
            hInserts with
          ⟨declaration, hRead, hWhole, hUnreached⟩
        have hGuarded :
            isGuarded bounds.lookback lines index
              declaration.trigger = true := by
          by_contra hNone
          have hAgain :=
            insertsAt_steps_iff.mpr
              ⟨declaration, hRead, by simpa using hNone⟩
          rw [hFirst] at hAgain
          contradiction
        rcases hGuards index declaration hRead hGuarded with
          hCut | hReached
        · exact hWhole hCut
        · exact hUnreached hReached

/- A script without any guard is done in one pass. -/
theorem isSilent_addGuards_of_no_guards
    (hLookback : 1 ≤ bounds.lookback)
    (hNames : ∀ line ∈ lines, guardedNames line = []) :
    IsSilent bounds (addGuards bounds lines) := by
  rw [isSilent_addGuards_iff hLookback]
  intro index declaration _ hGuarded
  rcases isGuarded_iff.mp hGuarded with
    ⟨place, line, -, -, hLine, hGuards⟩
  rw [guardsTrigger,
    hNames line (List.mem_of_getElem? hLine)] at hGuards
  contradiction

/- A lookback of one line reaches what it reached before. -/
theorem isSilent_addGuards_of_lookback_eq_one
    (hLookback : bounds.lookback = 1) :
    IsSilent bounds (addGuards bounds lines) := by
  rw [isSilent_addGuards_iff (by omega)]
  intro index declaration hRead hGuarded
  have hNot :=
    insertsAt_eq_false_of_isGuarded hRead hGuarded
  rcases isGuarded_iff.mp hGuarded with
    ⟨place, line, hAbove, hReach, hLine, hGuards⟩
  have hNext : index = place + 1 := by omega
  subst hNext
  right
  refine ⟨place, hAbove,
    Or.inl ⟨line, hLine, hGuards, ?_⟩⟩
  rw [position_succ_of_insertsAt_eq_false hNot]
  omega

/-
  A script in which the guard for one statement is pushed
  out of reach by the guard for another.
-/
def cascade :
    Text :=
  Text.ofString "DROP TRIGGER IF EXISTS b ON t;\n" ++
    Text.ofString "CREATE TRIGGER a ON t;\n" ++
    Text.ofString "CREATE TRIGGER b ON t;\n"

/-
  A second pass over a text returns the lines of the first
  one exactly when every statement that had a guard is cut or
  still has one in reach.
-/
theorem second_pass_isSilent_iff
    (bounds : Bounds)
    (hLookback : 1 ≤ bounds.lookback)
    (t : Text) :
    IsSilent bounds
        (resplit (addGuards bounds t.splitLines)) ↔
      ∀ index declaration,
        readAt bounds.lookahead t.splitLines index =
            .declared declaration →
          isGuarded bounds.lookback t.splitLines index
              declaration.trigger = true →
            IsCut t.splitLines (steps bounds t.splitLines)
                index ∨
              IsReached bounds t.splitLines index
                declaration.trigger := by
  have hSame :
      resplit (addGuards bounds t.splitLines) =
        addGuards bounds t.splitLines :=
    resplit_linesOf_steps bounds (areLines_splitLines t)
  rw [hSame]
  exact isSilent_addGuards_iff hLookback

theorem second_pass_cascade_isSilent_iff :
    1 ≤ Settings.default.bounds.lookback ∧
      (IsSilent Settings.default.bounds
          (resplit
            (addGuards Settings.default.bounds
              cascade.splitLines)) ↔
        ∀ index declaration,
          readAt Settings.default.bounds.lookahead
                cascade.splitLines index =
              .declared declaration →
            isGuarded Settings.default.bounds.lookback
                cascade.splitLines index
                declaration.trigger = true →
              IsCut cascade.splitLines
                  (steps Settings.default.bounds
                    cascade.splitLines)
                  index ∨
                IsReached Settings.default.bounds
                  cascade.splitLines index
                  declaration.trigger) :=
  ⟨by decide,
    second_pass_isSilent_iff Settings.default.bounds
      (by decide) cascade⟩

/- A second pass is not silent for every script. -/
theorem not_forall_second_pass_isSilent :
    ¬ ∀ (bounds : Bounds) (t : Text),
      1 ≤ bounds.lookback →
        1 ≤ bounds.lookahead →
          IsSilent bounds
            (resplit (addGuards bounds t.splitLines)) := by
  intro hSilent
  have hSome :
      (tally Settings.default.bounds
        (resplit (addGuards Settings.default.bounds
          cascade.splitLines))).inserted = 1 := by
    decide +kernel
  have hNone :=
    (hSilent Settings.default.bounds cascade (by decide)
      (by decide)).inserted
  exact Nat.one_ne_zero (hSome.symm.trans hNone)

end SafeRerun
