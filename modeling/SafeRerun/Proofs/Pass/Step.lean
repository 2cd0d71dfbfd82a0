import SafeRerun.Script.Pass
import SafeRerun.Proofs.Script.Guard

/-
  The steps of a pass, one by one.

  Key definitions include:
    * `SafeRerun.Step.IsSound`

  Key theorems include:
    * `SafeRerun.getElem?_steps`
    * `SafeRerun.map_line_steps`
    * `SafeRerun.readAt_eq_declared`
    * `SafeRerun.guard_of_getElem?_steps`
    * `SafeRerun.isSound_of_mem_steps`

  A pass takes one step a line, and a guard in a step is the
  guard of what is declared there.
-/

------------------------------------------------------------
-- Readings
------------------------------------------------------------

namespace SafeRerun

theorem Reading.declaration?_eq_some
    {reading : Reading}
    {declaration : Declaration} :
    reading.declaration? = some declaration ↔
      reading = .declared declaration := by
  cases reading <;> simp [Reading.declaration?]

theorem readGathered_eq_declared_iff
    {gathered : Option Text}
    {declaration : Declaration} :
    readGathered gathered = .declared declaration ↔
      ∃ statement,
        gathered = some statement ∧
          declaration? statement = some declaration := by
  unfold readGathered
  cases gathered with
  | none =>
      simp
  | some statement =>
      cases hDeclares : declaration? statement with
      | none =>
          simp [hDeclares]
      | some found =>
          simp [hDeclares]

/- A declaration read at a line names words, at a start. -/
theorem readAt_eq_declared
    {lookahead index : Nat}
    {lines : List Text}
    {declaration : Declaration}
    (hRead :
      readAt lookahead lines index = .declared declaration) :
    ∃ line,
      lines[index]? = some line ∧
        isStatementStart line = true ∧
          declaration.IsNamed := by
  unfold readAt at hRead
  rw [← List.head?_drop]
  cases hLines : lines.drop index with
  | nil =>
      simp [hLines, readFirst] at hRead
  | cons line rest =>
      rw [hLines, readFirst] at hRead
      split at hRead
      · rename_i hStart
        rcases readGathered_eq_declared_iff.mp hRead with
          ⟨statement, -, hDeclares⟩
        exact ⟨line, rfl, hStart,
          isNamed_of_declaration? hDeclares⟩
      · simp at hRead

/- Nothing is read past the end. -/
theorem readAt_of_length_le
    {lookahead index : Nat}
    {lines : List Text}
    (hPast : lines.length ≤ index) :
    readAt lookahead lines index = .noStatement := by
  rw [readAt, List.drop_of_length_le hPast, readFirst]

/- Nothing is read exactly where no statement starts. -/
theorem readAt_eq_noStatement_iff
    (lookahead : Nat)
    {index : Nat}
    {lines : List Text}
    {line : Text}
    (hLine : lines[index]? = some line) :
    readAt lookahead lines index = .noStatement ↔
      isStatementStart line = false := by
  rw [← List.head?_drop] at hLine
  unfold readAt
  cases hLines : lines.drop index with
  | nil =>
      simp [hLines] at hLine
  | cons first rest =>
      rw [hLines, List.head?_cons, Option.some.injEq]
        at hLine
      subst hLine
      rw [readFirst]
      cases hStart : isStatementStart first with
      | false =>
          simp
      | true =>
          simp only [if_true, Bool.true_eq_false, iff_false]
          unfold readGathered
          split
          · simp
          · split
            · simp
            · simp

end SafeRerun

------------------------------------------------------------
-- Steps
------------------------------------------------------------

namespace SafeRerun

variable {bounds : Bounds}
variable {lines : List Text}

@[simp] theorem length_steps
    (bounds : Bounds)
    (lines : List Text) :
    (steps bounds lines).length = lines.length := by
  simp [steps]

/- The step at a line looks at the lines before the pass. -/
theorem getElem?_steps
    (bounds : Bounds)
    (lines : List Text)
    (index : Nat) :
    (steps bounds lines)[index]? =
      lines[index]?.map fun line =>
        { reading := readAt bounds.lookahead lines index
          guard :=
            (readAt bounds.lookahead lines index).guard?
              bounds.lookback lines index
          line := line } := by
  simp [steps, List.getElem?_mapIdx]

@[simp] theorem map_line_steps
    (bounds : Bounds)
    (lines : List Text) :
    (steps bounds lines).map Step.line = lines := by
  apply List.ext_getElem?
  intro index
  rw [List.getElem?_map, getElem?_steps]
  cases lines[index]? <;> rfl

/- What a step holds is decided by its place. -/
theorem of_getElem?_steps
    {index : Nat}
    {step : Step}
    (hStep : (steps bounds lines)[index]? = some step) :
    lines[index]? = some step.line ∧
      step.reading = readAt bounds.lookahead lines index ∧
        step.guard =
          (readAt bounds.lookahead lines index).guard?
            bounds.lookback lines index := by
  rw [getElem?_steps, Option.map_eq_some_iff] at hStep
  rcases hStep with ⟨line, hLine, rfl⟩
  exact ⟨hLine, rfl, rfl⟩

/- A guard is called for by a declaration without one. -/
theorem guard?_eq_some_iff
    {lookback index : Nat}
    {reading : Reading}
    {guard : Text} :
    reading.guard? lookback lines index = some guard ↔
      ∃ declaration,
        reading = .declared declaration ∧
          isGuarded lookback lines index
              declaration.trigger = false ∧
            guard =
              guardLine declaration
                (guardEnd lines index).text := by
  unfold Reading.guard?
  cases reading with
  | declared declaration =>
      simp only [guardFor, Reading.declared.injEq]
      split
      · rename_i hGuarded
        constructor
        · intro hSome
          simp at hSome
        · intro hExists
          rcases hExists with ⟨found, rfl, hNot, -⟩
          rw [hGuarded] at hNot
          contradiction
      · rename_i hGuarded
        rw [Option.some.injEq]
        constructor
        · intro hGuard
          exact ⟨declaration, rfl, by simpa using hGuarded,
            hGuard.symm⟩
        · intro hExists
          rcases hExists with ⟨found, rfl, -, hGuard⟩
          exact hGuard.symm
  | noStatement =>
      simp
  | noOnClause =>
      simp
  | unrecognised statement =>
      simp

/-
  A guard in a step is written for what is declared there,
  where no guard for the trigger stands above.
-/
theorem guard_of_getElem?_steps
    {index : Nat}
    {step : Step}
    {guard : Text}
    (hStep : (steps bounds lines)[index]? = some step)
    (hGuard : step.guard = some guard) :
    ∃ declaration,
      readAt bounds.lookahead lines index =
          .declared declaration ∧
        isGuarded bounds.lookback lines index
            declaration.trigger = false ∧
          guard =
            guardLine declaration
              (guardEnd lines index).text := by
  rcases of_getElem?_steps hStep with ⟨-, -, hSame⟩
  rw [hSame] at hGuard
  exact guard?_eq_some_iff.mp hGuard

end SafeRerun

------------------------------------------------------------
-- Sound Steps
------------------------------------------------------------

namespace SafeRerun

/-
  A step inserts nothing but a guard that names words, and
  this only above the start of a statement.
-/
def Step.IsSound
    (step : Step) : Prop :=
  ∀ guard,
    step.guard = some guard →
      isStatementStart step.line = true ∧
        ∃ declaration ending,
          declaration.IsNamed ∧
            (ending = LineEnd.lineFeed ∨
              ending = LineEnd.returnLineFeed) ∧
              guard = guardLine declaration ending.text

/- The end of a guard always holds a line feed. -/
theorem guardEnd_eq
    (lines : List Text)
    (index : Nat) :
    guardEnd lines index = .lineFeed ∨
      guardEnd lines index = .returnLineFeed := by
  unfold guardEnd
  split
  · split
    · exact Or.inr rfl
    · exact Or.inl rfl
  · exact Or.inl rfl

theorem isSound_of_mem_steps
    {bounds : Bounds}
    {lines : List Text}
    {step : Step}
    (hMem : step ∈ steps bounds lines) :
    step.IsSound := by
  intro guard hGuard
  rcases List.mem_iff_getElem?.mp hMem with ⟨index, hStep⟩
  rcases guard_of_getElem?_steps hStep hGuard with
    ⟨declaration, hRead, -, rfl⟩
  rcases readAt_eq_declared hRead with
    ⟨line, hLine, hStart, hNamed⟩
  rcases of_getElem?_steps hStep with ⟨hSame, -, -⟩
  rw [hSame, Option.some.injEq] at hLine
  rw [hLine]
  exact ⟨hStart, declaration, guardEnd lines index, hNamed,
    guardEnd_eq lines index, rfl⟩

end SafeRerun
