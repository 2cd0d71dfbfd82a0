import SafeRerun.Proofs.Pass.Accounting
import SafeRerun.Proofs.Pass.Reading

/-
  Statements that need no guard any more.

  Key definitions include:
    * `SafeRerun.IsSettled`

  Key theorems include:
    * `SafeRerun.IsSettled.insertsAt_eq_false`
    * `SafeRerun.IsSettled.position`
    * `SafeRerun.isSettled_of_insertsAt`

  A statement is settled once a guard for its trigger stands
  directly above it.  A pass inserts nothing there, so the
  guard stays where it is, and what the statement declares
  keeps its trigger.
-/

------------------------------------------------------------
-- Settled Statements
------------------------------------------------------------

namespace SafeRerun

/-
  Whatever is declared at the index, a guard for it stands
  directly above.
-/
def IsSettled
    (lookahead : Nat)
    (lines : List Text)
    (index : Nat) : Prop :=
  ∀ declaration,
    readAt lookahead lines index = .declared declaration →
      ∃ above line,
        above + 1 = index ∧ lines[above]? = some line ∧
          guardsTrigger declaration.trigger line = true

variable {bounds : Bounds}
variable {lines : List Text}
variable {index : Nat}

/- What is declared after a pass was declared before it. -/
theorem exists_readAt_of_position
    {line : Text}
    {found : Declaration}
    (hLine : lines[index]? = some line)
    (hRead :
      readAt bounds.lookahead
          (linesOf (steps bounds lines))
          (position (steps bounds lines) index) =
        .declared found) :
    ∃ declaration,
      readAt bounds.lookahead lines index =
          .declared declaration ∧
        declaration.trigger = found.trigger := by
  have hStep := getElem?_steps bounds lines index
  rw [hLine, Option.map_some] at hStep
  have hBefore :=
    readAt_position_trigger
      (fun s hMem => isSound_of_mem_steps hMem) hStep hRead
  rwa [map_line_steps] at hBefore

/- A guard is inserted for a declaration without one. -/
theorem insertsAt_steps_iff :
    insertsAt (steps bounds lines) index = true ↔
      ∃ declaration,
        readAt bounds.lookahead lines index =
            .declared declaration ∧
          isGuarded bounds.lookback lines index
            declaration.trigger = false := by
  rw [insertsAt_eq_true_iff]
  constructor
  · intro hExists
    rcases hExists with ⟨step, guard, hStep, hGuard⟩
    rcases guard_of_getElem?_steps hStep hGuard with
      ⟨declaration, hRead, hNone, -⟩
    exact ⟨declaration, hRead, hNone⟩
  · intro hExists
    rcases hExists with ⟨declaration, hRead, hNone⟩
    rcases readAt_eq_declared hRead with
      ⟨line, hLine, -, -⟩
    have hStep := getElem?_steps bounds lines index
    rw [hLine, Option.map_some] at hStep
    exact ⟨_, _, hStep, guard?_eq_some_iff.mpr
      ⟨declaration, hRead, hNone, rfl⟩⟩

/- A pass inserts no guard where a statement is settled. -/
theorem IsSettled.insertsAt_eq_false
    (hSettled : IsSettled bounds.lookahead lines index)
    (hLookback : 1 ≤ bounds.lookback) :
    insertsAt (steps bounds lines) index = false := by
  by_contra hInserts
  rcases insertsAt_steps_iff.mp (by simpa using hInserts)
    with ⟨declaration, hRead, hNone⟩
  rcases hSettled declaration hRead with
    ⟨above, line, hAbove, hLine, hGuards⟩
  have hGuarded :
      isGuarded bounds.lookback lines index
        declaration.trigger = true :=
    isGuarded_iff.mpr
      ⟨above, line, by omega, by omega, hLine, hGuards⟩
  rw [hGuarded] at hNone
  contradiction

/- A settled statement stays settled at its new position. -/
theorem IsSettled.position
    {line : Text}
    (hSettled : IsSettled bounds.lookahead lines index)
    (hLookback : 1 ≤ bounds.lookback)
    (hLine : lines[index]? = some line) :
    IsSettled bounds.lookahead
      (linesOf (steps bounds lines))
      (position (steps bounds lines) index) := by
  intro found hFound
  rcases exists_readAt_of_position hLine hFound with
    ⟨declaration, hRead, hTrigger⟩
  rcases hSettled declaration hRead with
    ⟨above, guard, rfl, hGuard, hGuards⟩
  have hStep := getElem?_steps bounds lines above
  rw [hGuard, Option.map_some] at hStep
  refine ⟨SafeRerun.position (steps bounds lines) above,
    guard, ?_, getElem?_position hStep, ?_⟩
  · exact (position_succ_of_insertsAt_eq_false
      (hSettled.insertsAt_eq_false hLookback)).symm
  · rwa [← hTrigger]

/- A statement that receives a guard is settled by it. -/
theorem isSettled_of_insertsAt
    (hInserts :
      insertsAt (steps bounds lines) index = true) :
    IsSettled bounds.lookahead
      (linesOf (steps bounds lines))
      (position (steps bounds lines) index) := by
  rcases insertsAt_eq_true_iff.mp hInserts with
    ⟨step, guard, hStep, hGuard⟩
  rcases guard_of_getElem?_steps hStep hGuard with
    ⟨declaration, hRead, -, rfl⟩
  rcases readAt_eq_declared hRead with
    ⟨line, hLine, -, hNamed⟩
  rcases getElem?_guard hStep hGuard with
    ⟨above, hAbove, hAboveLine⟩
  intro found hFound
  rcases exists_readAt_of_position hLine hFound with
    ⟨before, hBefore, hTrigger⟩
  rw [hRead, Reading.declared.injEq] at hBefore
  subst hBefore
  refine ⟨above, _, hAbove, hAboveLine, ?_⟩
  rw [← hTrigger]
  exact (guardsTrigger_guardLine hNamed
    (isBlankRun_lineEnd _)).mpr rfl

end SafeRerun
