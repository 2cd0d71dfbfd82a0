import Mathlib.Order.Monotone.Basic
import SafeRerun.Script.Pass

/-
  Where the lines of a script stand after a pass.

  Key definitions include:
    * `SafeRerun.Step.inserts`
    * `SafeRerun.insertsAt`
    * `SafeRerun.position`

  Key theorems include:
    * `SafeRerun.position_strictMono`
    * `SafeRerun.drop_position`
    * `SafeRerun.exists_position`

  A line moves down by the number of guards inserted at it
  or above it.  Whatever stands in the result is a line of
  the script at its position or a guard directly above one.
-/

------------------------------------------------------------
-- Positions
------------------------------------------------------------

namespace SafeRerun

/- Whether a step inserts a guard. -/
def Step.inserts
    (step : Step) :
    Bool :=
  step.guard.isSome

/- Whether a guard is inserted above the line at an index. -/
def insertsAt
    (passed : List Step)
    (index : Nat) :
    Bool :=
  passed[index]?.any Step.inserts

/- The index in the result of the line at an index. -/
def position
    (passed : List Step)
    (index : Nat) :
    Nat :=
  index + (passed.take (index + 1)).countP Step.inserts

variable {passed : List Step}
variable {step : Step}
variable {index : Nat}

theorem insertsAt_eq_true_iff :
    insertsAt passed index = true ↔
      ∃ step guard,
        passed[index]? = some step ∧
          step.guard = some guard := by
  unfold insertsAt Step.inserts
  rw [Option.any_eq_true]
  constructor
  · intro hExists
    rcases hExists with ⟨step, hStep, hGuard⟩
    rcases Option.isSome_iff_exists.mp hGuard with
      ⟨guard, hSome⟩
    exact ⟨step, guard, hStep, hSome⟩
  · intro hExists
    rcases hExists with ⟨step, guard, hStep, hGuard⟩
    exact ⟨step, hStep, by simp [hGuard]⟩

theorem guard_eq_none_of_insertsAt_eq_false
    (hNot : insertsAt passed index = false)
    (hStep : passed[index]? = some step) :
    step.guard = none := by
  simpa [insertsAt, Step.inserts, hStep] using hNot

/- A step contributes its line, and its guard before it. -/
theorem length_lines
    (step : Step) :
    step.lines.length =
      1 + (if step.inserts = true then 1 else 0) := by
  unfold Step.lines Step.inserts
  cases step.guard <;> simp

@[simp] theorem linesOf_nil :
    linesOf [] = [] := rfl

theorem linesOf_cons
    (step : Step)
    (rest : List Step) :
    linesOf (step :: rest) = step.lines ++ linesOf rest := by
  simp [linesOf]

/- A line of the result is a line passed over or a guard. -/
theorem mem_linesOf_iff
    {passed : List Step}
    {line : Text} :
    line ∈ linesOf passed ↔
      ∃ step ∈ passed,
        step.guard = some line ∨ step.line = line := by
  simp only [linesOf, List.mem_flatMap, Step.lines,
    List.mem_append, Option.mem_toList,
    List.mem_singleton, eq_comm]

/- The result is longer by the number of guards. -/
theorem length_linesOf
    (passed : List Step) :
    (linesOf passed).length =
      passed.length + passed.countP Step.inserts := by
  induction passed with
  | nil =>
      rfl
  | cons step rest ih =>
      rw [linesOf_cons, List.length_append, ih,
        length_lines, List.countP_cons, List.length_cons]
      omega

theorem position_zero
    (step : Step)
    (rest : List Step) :
    position (step :: rest) 0 + 1 = step.lines.length := by
  rw [length_lines]
  simp [position, List.countP_cons]
  omega

theorem position_succ
    (step : Step)
    (rest : List Step)
    (index : Nat) :
    position (step :: rest) (index + 1) =
      step.lines.length + position rest index := by
  rw [length_lines]
  simp [position, List.countP_cons]
  omega

/- A pass keeps the lines apart and in their order. -/
theorem position_strictMono
    (passed : List Step) :
    StrictMono (position passed) := by
  apply strictMono_nat_of_lt_succ
  intro index
  unfold position
  have hMore :
      (passed.take (index + 1)).countP Step.inserts ≤
        (passed.take (index + 1 + 1)).countP
          Step.inserts :=
    (List.take_prefix_take_left
      (by omega)).sublist.countP_le
  omega

/- Without a guard between them, lines stay neighbours. -/
theorem position_succ_of_insertsAt_eq_false
    (hNot : insertsAt passed (index + 1) = false) :
    position passed (index + 1) =
      position passed index + 1 := by
  unfold position
  rw [List.take_add_one (i := index + 1),
    List.countP_append]
  cases hStep : passed[index + 1]? with
  | none =>
      simp
      omega
  | some step =>
      have hNone :=
        guard_eq_none_of_insertsAt_eq_false hNot hStep
      simp [Step.inserts, hNone]
      omega

end SafeRerun

------------------------------------------------------------
-- What Stands Where
------------------------------------------------------------

namespace SafeRerun

variable {passed : List Step}
variable {step : Step}
variable {index : Nat}

/- From the position of a line on, the result goes on alike. -/
theorem drop_position
    (hStep : passed[index]? = some step) :
    (linesOf passed).drop (position passed index) =
      step.line :: linesOf (passed.drop (index + 1)) := by
  induction passed generalizing index with
  | nil =>
      simp at hStep
  | cons first rest ih =>
      rw [linesOf_cons]
      cases index with
      | zero =>
          rw [List.getElem?_cons_zero, Option.some.injEq]
            at hStep
          subst hStep
          have hFirst := position_zero first rest
          cases hGuard : first.guard with
          | none =>
              have hLines : first.lines = [first.line] := by
                simp [Step.lines, hGuard]
              have hPlace : position (first :: rest) 0 = 0 := by
                rw [hLines, List.length_singleton] at hFirst
                omega
              rw [hPlace, hLines]
              rfl
          | some guard =>
              have hLines :
                  first.lines = [guard, first.line] := by
                simp [Step.lines, hGuard]
              have hPlace : position (first :: rest) 0 = 1 := by
                rw [hLines] at hFirst
                simp at hFirst
                omega
              rw [hPlace, hLines]
              rfl
      | succ index =>
          rw [List.getElem?_cons_succ] at hStep
          rw [position_succ, List.drop_length_add_append,
            ih hStep, List.drop_succ_cons]

/- The line itself stands at its position. -/
theorem getElem?_position
    (hStep : passed[index]? = some step) :
    (linesOf passed)[position passed index]? =
      some step.line := by
  rw [← List.head?_drop, drop_position hStep]
  rfl

/- An inserted guard stands directly above its line. -/
theorem getElem?_guard
    {guard : Text}
    (hStep : passed[index]? = some step)
    (hGuard : step.guard = some guard) :
    ∃ above,
      above + 1 = position passed index ∧
        (linesOf passed)[above]? = some guard := by
  induction passed generalizing index with
  | nil =>
      simp at hStep
  | cons first rest ih =>
      rw [linesOf_cons]
      cases index with
      | zero =>
          rw [List.getElem?_cons_zero, Option.some.injEq]
            at hStep
          subst hStep
          have hFirst := position_zero first rest
          have hLines :
              first.lines = [guard, first.line] := by
            simp [Step.lines, hGuard]
          rw [hLines] at hFirst ⊢
          simp at hFirst
          exact ⟨0, by omega, rfl⟩
      | succ index =>
          rw [List.getElem?_cons_succ] at hStep
          rcases ih hStep with ⟨above, hAbove, hLine⟩
          refine ⟨first.lines.length + above, ?_, ?_⟩
          · rw [position_succ, ← hAbove]
            omega
          · rw [List.getElem?_append_right (by omega)]
            simpa using hLine

/-
  A line of the result is a line of the script at its
  position, or a guard directly above one.
-/
theorem exists_position
    {place : Nat}
    {line : Text}
    (hLine : (linesOf passed)[place]? = some line) :
    ∃ index step,
      passed[index]? = some step ∧
        ((place = position passed index ∧
            line = step.line) ∨
          (place + 1 = position passed index ∧
            step.guard = some line)) := by
  induction passed generalizing place with
  | nil =>
      simp at hLine
  | cons first rest ih =>
      rw [linesOf_cons] at hLine
      by_cases hFirst : place < first.lines.length
      · rw [List.getElem?_append_left hFirst] at hLine
        have hPlace := position_zero first rest
        refine ⟨0, first, rfl, ?_⟩
        cases hGuard : first.guard with
        | none =>
            have hLines : first.lines = [first.line] := by
              simp [Step.lines, hGuard]
            rw [hLines] at hFirst hLine hPlace
            simp at hFirst hPlace
            subst hFirst
            left
            exact ⟨by omega, by simpa using hLine.symm⟩
        | some guard =>
            have hLines :
                first.lines = [guard, first.line] := by
              simp [Step.lines, hGuard]
            rw [hLines] at hFirst hLine hPlace
            simp at hFirst hPlace
            have hCases : place = 0 ∨ place = 1 := by omega
            rcases hCases with rfl | rfl
            · right
              exact ⟨by omega, by simpa using hLine⟩
            · left
              exact ⟨by omega, by simpa using hLine.symm⟩
      · rw [List.getElem?_append_right (by omega)] at hLine
        rcases ih hLine with ⟨index, step, hStep, hCase⟩
        refine ⟨index + 1, step, hStep, ?_⟩
        rw [position_succ]
        rcases hCase with ⟨hPlace, hSame⟩ | ⟨hPlace, hSame⟩
        · left
          exact ⟨by omega, hSame⟩
        · right
          exact ⟨by omega, hSame⟩

end SafeRerun
