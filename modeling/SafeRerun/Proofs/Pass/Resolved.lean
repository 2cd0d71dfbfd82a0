import SafeRerun.Proofs.Pass.Settled

/-
  Which trigger the statements of a script resolve to after
  a pass.

  Key definitions include:
    * `SafeRerun.IsKept`

  Key theorems include:
    * `SafeRerun.isKept_position`
    * `SafeRerun.pass_keeps_triggers`

  The guards of a pass stand among the lines that are
  gathered for the statements above them.  They end the text
  of such a statement, or take the place of the start that
  followed it, but give no statement another trigger.
-/

------------------------------------------------------------
-- Positions Past the End
------------------------------------------------------------

namespace SafeRerun

/- An index past the end has its position past the end. -/
theorem length_linesOf_le_position
    {passed : List Step}
    {index : Nat}
    (hPast : passed.length ≤ index) :
    (linesOf passed).length ≤ position passed index := by
  rw [length_linesOf, position,
    List.take_of_length_le (by omega)]
  omega

/- The lines stand at their positions after a pass. -/
theorem getElem?_addGuards_position
    (bounds : Bounds)
    (lines : List Text)
    (index : Nat) :
    (addGuards bounds lines)[
        position (steps bounds lines) index]? =
      lines[index]? := by
  unfold addGuards
  cases hStep : (steps bounds lines)[index]? with
  | none =>
      have hPast :
          (steps bounds lines).length ≤ index :=
        List.getElem?_eq_none_iff.mp hStep
      rw [List.getElem?_eq_none
        (length_linesOf_le_position hPast)]
      rw [length_steps] at hPast
      exact (List.getElem?_eq_none hPast).symm
  | some step =>
      rw [getElem?_position hStep,
        (of_getElem?_steps hStep).1]

end SafeRerun

------------------------------------------------------------
-- Kept Declarations
------------------------------------------------------------

namespace SafeRerun

variable {lines : List Text}
variable {index : Nat}

/-
  What becomes of the declaration of a statement, from the
  one before a pass to the one after it.
-/
inductive IsKept
    (lines : List Text)
    (passed : List Step)
    (index : Nat) :
    Option Declaration → Option Declaration → Prop
  /- Nothing is declared that was not declared before. -/
  | undeclared :
      IsKept lines passed index none none
  /- A guard ends the text before the declaration is open. -/
  | cut
      (declaration : Declaration)
      (hCut : IsCut lines passed index) :
      IsKept lines passed index (some declaration) none
  /-
    A guard stands where the next start was taken for the
    table, so that its first word is taken instead.
  -/
  | displaced
      (trigger create : Text)
      (hWhole : ¬ IsCut lines passed index)
      (hOpen : IsLeftOpen lines passed index)
      (hCreate : Spelled createWord create) :
      IsKept lines passed index
        (some ⟨trigger, create⟩) (some ⟨trigger, dropWord⟩)
  /- No guard is met, and the declaration is the same. -/
  | same
      (declaration : Declaration)
      (hWhole : ¬ IsCut lines passed index)
      (hClosed : ¬ IsLeftOpen lines passed index) :
      IsKept lines passed index
        (some declaration) (some declaration)

/- Every statement is kept by a pass over sound steps. -/
theorem isKept_position
    {passed : List Step}
    {step : Step}
    {lookahead : Nat}
    (hSound : ∀ s ∈ passed, s.IsSound)
    (hStep : passed[index]? = some step) :
    IsKept (passed.map Step.line) passed index
      (readAt lookahead (passed.map Step.line)
        index).declaration?
      (readAt lookahead (linesOf passed)
        (position passed index)).declaration? := by
  cases hAfter :
      (readAt lookahead (linesOf passed)
        (position passed index)).declaration? with
  | some found =>
      have hRead := Reading.declaration?_eq_some.mp hAfter
      rcases exists_declared_of_readAt_position hSound hStep
          hRead with ⟨declaration, hBefore, hTrigger, hCase⟩
      have hWhole :=
        (readAt_position_iff hSound hStep hBefore).mp
          ⟨found, hRead⟩
      rw [Reading.declaration?_eq_some.mpr hBefore]
      rcases declaration with ⟨trigger, table⟩
      rcases found with ⟨foundTrigger, foundTable⟩
      rcases hCase with ⟨hOpen, hCreate, hTable⟩ |
        ⟨hClosed, hSame⟩
      · simp only at hCreate hTrigger hTable
        subst hTrigger hTable
        exact IsKept.displaced trigger table hWhole hOpen
          hCreate
      · rw [← hSame]
        exact IsKept.same _ hWhole hClosed
  | none =>
      cases hBefore :
          (readAt lookahead (passed.map Step.line)
            index).declaration? with
      | none =>
          exact IsKept.undeclared
      | some declaration =>
          have hRead := Reading.declaration?_eq_some.mp hBefore
          apply IsKept.cut declaration
          -- What is not cut declares something still.
          by_contra hWhole
          rcases (readAt_position_iff hSound hStep hRead).mpr
              hWhole with ⟨found, hFound⟩
          rw [← Reading.declaration?_eq_some, hAfter]
            at hFound
          contradiction

/- A statement that is kept declares no other trigger. -/
theorem IsKept.map_trigger
    {passed : List Step}
    {before after : Option Declaration}
    (hKept : IsKept lines passed index before after) :
    after = none ∨
      after.map Declaration.trigger =
        before.map Declaration.trigger := by
  cases hKept with
  | undeclared =>
      exact Or.inl rfl
  | cut declaration hCut =>
      exact Or.inl rfl
  | displaced trigger create hWhole hOpen hCreate =>
      exact Or.inr rfl
  | same declaration hWhole hClosed =>
      exact Or.inr rfl

/-
  A pass changes no trigger that a statement resolves to.
  Every line stands at its position in the result, where
  nothing is declared or the same trigger as before the pass;
  so nothing is where nothing was.  The last part says which
  of the two it is and what becomes of the table.
-/
theorem pass_keeps_triggers
    (bounds : Bounds)
    (lines : List Text)
    (index : Nat) :
    let before :=
      (readAt bounds.lookahead lines index).declaration?
    let place := position (steps bounds lines) index
    let after :=
      (readAt bounds.lookahead (addGuards bounds lines)
        place).declaration?
    (addGuards bounds lines)[place]? = lines[index]? ∧
      (after = none ∨
        after.map Declaration.trigger =
          before.map Declaration.trigger) ∧
      IsKept lines (steps bounds lines) index before
        after := by
  intro before place after
  have hKept :
      IsKept lines (steps bounds lines) index before
        after := by
    cases hStep : (steps bounds lines)[index]? with
    | some step =>
        have hSteps :=
          @isKept_position index _ step bounds.lookahead
            (fun s hMem => isSound_of_mem_steps hMem) hStep
        rwa [map_line_steps] at hSteps
    | none =>
        have hPast :
            (steps bounds lines).length ≤ index :=
          List.getElem?_eq_none_iff.mp hStep
        have hBefore : before = none := by
          rw [length_steps] at hPast
          simp only [before, readAt_of_length_le hPast,
            Reading.declaration?]
        have hAfter : after = none := by
          simp only [after, addGuards, place,
            readAt_of_length_le
              (length_linesOf_le_position hPast),
            Reading.declaration?]
        rw [hBefore, hAfter]
        exact IsKept.undeclared
  exact ⟨getElem?_addGuards_position bounds lines index,
    hKept.map_trigger, hKept⟩

/-
  A statement that ends in ON takes the first word of the
  next line for its table: CREATE before the pass, and DROP
  after it.
-/
example :
    let lines :=
      [Text.ofString "CREATE TRIGGER a ON\n",
        Text.ofString "CREATE TRIGGER b ON t;\n"]
    position (steps ⟨2, 3⟩ lines) 0 = 1 ∧
      readAt 3 lines 0 =
          .declared ⟨Text.ofString "a", createWord⟩ ∧
        readAt 3 (addGuards ⟨2, 3⟩ lines) 1 =
          .declared ⟨Text.ofString "a", dropWord⟩ := by
  decide +kernel

end SafeRerun
