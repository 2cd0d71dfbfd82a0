import SafeRerun.Proofs.Pass.Gathering

/-
  How the guards of a pass change with its bounds.

  Key definitions include:
    * `SafeRerun.Step.IsWithin`
    * `SafeRerun.Bounds.IsStricter`
    * `SafeRerun.guardAt`

  Key theorems include:
    * `SafeRerun.isGuarded_of_le`
    * `SafeRerun.readAt_eq_declared_of_le`
    * `SafeRerun.isWithin_steps`
    * `SafeRerun.guards_follow_bounds`

  A wider lookback finds every guard that a shorter one
  finds, so it leaves more statements alone.  A longer
  lookahead gathers up to the same clause as a shorter one
  that reaches it, so it only recognises more statements.
  Each step of a pass with stricter bounds is therefore
  within the step of the other pass at the same line.
-/

------------------------------------------------------------
-- One Bound at a Time
------------------------------------------------------------

namespace SafeRerun

variable {lines : List Text}
variable {index : Nat}

/- A wider lookback finds what a shorter one finds. -/
theorem isGuarded_of_le
    {lookback wider : Nat}
    {trigger : Text}
    (hWider : lookback ≤ wider)
    (hGuarded :
      isGuarded lookback lines index trigger = true) :
    isGuarded wider lines index trigger = true := by
  rcases isGuarded_iff.mp hGuarded with
    ⟨place, line, hAbove, hReach, hLine, hGuards⟩
  exact isGuarded_iff.mpr
    ⟨place, line, hAbove,
      hReach.trans (Nat.add_le_add_left hWider place),
      hLine, hGuards⟩

/-
  A longer lookahead reads what a shorter one does: the
  number of lines up to the first clause is the same.
-/
theorem readAt_eq_declared_of_le
    {lookahead further : Nat}
    {declaration : Declaration}
    (hFurther : lookahead ≤ further)
    (hRead :
      readAt lookahead lines index = .declared declaration) :
    readAt further lines index = .declared declaration := by
  rcases readAt_eq_declared_iff.mp hRead with
    ⟨hStarts, count, hBound, hClause, hDeclares⟩
  exact readAt_eq_declared_iff.mpr
    ⟨hStarts, count, hBound.trans hFurther, hClause,
      hDeclares⟩

/- What two lookaheads read at a line is one declaration. -/
theorem declaration_unique
    {lookahead other : Nat}
    {declaration found : Declaration}
    (hRead :
      readAt lookahead lines index = .declared declaration)
    (hOther : readAt other lines index = .declared found) :
    declaration = found := by
  have hLonger :=
    readAt_eq_declared_of_le
      (Nat.le_max_left lookahead other) hRead
  rw [readAt_eq_declared_of_le
    (Nat.le_max_right lookahead other) hOther,
    Reading.declared.injEq] at hLonger
  exact hLonger.symm

end SafeRerun

------------------------------------------------------------
-- Steps Within Others
------------------------------------------------------------

namespace SafeRerun

/-
  A step does no more than another one at the same line: what
  it declares the other one declares, and the guard that it
  inserts the other one inserts.
-/
structure Step.IsWithin
    (step other : Step) : Prop where
  line : step.line = other.line
  declared :
    ∀ declaration,
      step.reading = .declared declaration →
        other.reading = .declared declaration
  guard :
    ∀ guard,
      step.guard = some guard → other.guard = some guard

/- Bounds that look further up and less far down. -/
structure Bounds.IsStricter
    (bounds other : Bounds) : Prop where
  lookback : other.lookback ≤ bounds.lookback
  lookahead : bounds.lookahead ≤ other.lookahead

variable {bounds other : Bounds}
variable {lines : List Text}
variable {index : Nat}

/- A step with stricter bounds is within the other one. -/
theorem isWithin_of_getElem?
    {step found : Step}
    (hStricter : bounds.IsStricter other)
    (hStep : (steps bounds lines)[index]? = some step)
    (hFound : (steps other lines)[index]? = some found) :
    step.IsWithin found := by
  rcases of_getElem?_steps hStep with
    ⟨hLine, hReading, hGuard⟩
  rcases of_getElem?_steps hFound with
    ⟨hFoundLine, hFoundReading, hFoundGuard⟩
  refine ⟨?_, ?_, ?_⟩
  · rw [hLine, Option.some.injEq] at hFoundLine
    exact hFoundLine
  · intro declaration hDeclared
    rw [hReading] at hDeclared
    rw [hFoundReading]
    exact readAt_eq_declared_of_le hStricter.lookahead
      hDeclared
  · intro guard hSome
    rw [hGuard] at hSome
    rcases guard?_eq_some_iff.mp hSome with
      ⟨declaration, hRead, hNot, hText⟩
    rw [hFoundGuard]
    refine guard?_eq_some_iff.mpr
      ⟨declaration,
        readAt_eq_declared_of_le hStricter.lookahead hRead,
        ?_, hText⟩
    rw [Bool.eq_false_iff] at hNot ⊢
    intro hGuarded
    exact hNot (isGuarded_of_le hStricter.lookback hGuarded)

/- The passes are compared line by line. -/
theorem isWithin_steps
    (hStricter : bounds.IsStricter other)
    (lines : List Text) :
    List.Forall₂ Step.IsWithin (steps bounds lines)
      (steps other lines) := by
  rw [List.forall₂_iff_get]
  refine ⟨by rw [length_steps, length_steps], ?_⟩
  intro index hStep hFound
  exact isWithin_of_getElem? hStricter
    (List.getElem?_eq_getElem hStep)
    (List.getElem?_eq_getElem hFound)

variable {passed others : List Step}

/- Steps within others make some of the lines of those. -/
theorem linesOf_sublist
    (hWithin : List.Forall₂ Step.IsWithin passed others) :
    (linesOf passed).Sublist (linesOf others) := by
  induction hWithin with
  | nil =>
      exact List.Sublist.refl _
  | cons hFirst hRest ih =>
      rename_i step found _ _
      rw [linesOf_cons, linesOf_cons]
      refine List.Sublist.append ?_ ih
      rw [Step.lines, Step.lines, hFirst.line]
      refine List.Sublist.append ?_ (List.Sublist.refl _)
      cases hGuard : step.guard with
      | none =>
          exact List.nil_sublist _
      | some guard =>
          rw [hFirst.guard guard hGuard]

/- Steps within others recognise no more statements. -/
theorem found_le_found
    (hWithin : List.Forall₂ Step.IsWithin passed others) :
    (tallyOf passed).found ≤ (tallyOf others).found := by
  induction hWithin with
  | nil =>
      exact Nat.le_refl _
  | cons hFirst hRest ih =>
      rename_i step found _ _
      simp only [tallyOf, List.countP_cons] at ih ⊢
      refine Nat.add_le_add ih ?_
      cases hReading : step.reading with
      | declared declaration =>
          rw [hFirst.declared declaration hReading]
      | noStatement =>
          exact Nat.zero_le _
      | noOnClause =>
          exact Nat.zero_le _
      | unrecognised statement =>
          exact Nat.zero_le _

end SafeRerun

------------------------------------------------------------
-- Guards at Lines
------------------------------------------------------------

namespace SafeRerun

/- The guard that is inserted above the line at an index. -/
def guardAt
    (bounds : Bounds)
    (lines : List Text)
    (index : Nat) :
    Option Text :=
  (steps bounds lines)[index]?.bind Step.guard

variable {bounds other : Bounds}
variable {lines : List Text}
variable {index : Nat}

/- A guard is written for what is read at its line. -/
theorem guardAt_eq_some
    {guard : Text}
    (hGuard : guardAt bounds lines index = some guard) :
    ∃ declaration,
      readAt bounds.lookahead lines index =
          .declared declaration ∧
        guard =
          guardLine declaration
            (guardEnd lines index).text := by
  rcases Option.bind_eq_some_iff.mp hGuard with
    ⟨step, hStep, hSome⟩
  rcases guard_of_getElem?_steps hStep hSome with
    ⟨declaration, hRead, -, hText⟩
  exact ⟨declaration, hRead, hText⟩

/- A guard of the stricter pass is one of the other. -/
theorem guardAt_of_isStricter
    {guard : Text}
    (hStricter : bounds.IsStricter other)
    (hGuard : guardAt bounds lines index = some guard) :
    guardAt other lines index = some guard := by
  rcases Option.bind_eq_some_iff.mp hGuard with
    ⟨step, hStep, hSome⟩
  have hLine := (of_getElem?_steps hStep).1
  have hFound := getElem?_steps other lines index
  rw [hLine, Option.map_some] at hFound
  rw [guardAt, hFound, Option.bind_some]
  exact (isWithin_of_getElem? hStricter hStep hFound).guard
    guard hSome

/-
  With a wider lookback a pass inserts some of its guards
  and no others, and with a longer lookahead it inserts all
  of them and perhaps more.  The guard above a line is the
  same for all bounds that call for one, what is read with
  some lookahead is read with every longer one, and no
  longer lookahead recognises fewer statements.
-/
theorem guards_follow_bounds
    (lines : List Text)
    {lookback wider lookahead further : Nat}
    (hWider : lookback ≤ wider)
    (hFurther : lookahead ≤ further) :
    (∀ index guard,
      guardAt ⟨wider, lookahead⟩ lines index = some guard →
        guardAt ⟨lookback, lookahead⟩ lines index =
          some guard) ∧
    (∀ index guard,
      guardAt ⟨lookback, lookahead⟩ lines index =
          some guard →
        guardAt ⟨lookback, further⟩ lines index =
          some guard) ∧
    (∀ bounds other index guard found,
      guardAt bounds lines index = some guard →
        guardAt other lines index = some found →
          guard = found) ∧
    ((addGuards ⟨wider, lookahead⟩ lines).Sublist
        (addGuards ⟨lookback, lookahead⟩ lines) ∧
      (addGuards ⟨lookback, lookahead⟩ lines).Sublist
        (addGuards ⟨lookback, further⟩ lines)) ∧
    (∀ index declaration,
      readAt lookahead lines index = .declared declaration →
        readAt further lines index =
          .declared declaration) ∧
    (tally ⟨lookback, lookahead⟩ lines).found ≤
      (tally ⟨lookback, further⟩ lines).found := by
  have hBack :
      Bounds.IsStricter ⟨wider, lookahead⟩
        ⟨lookback, lookahead⟩ :=
    ⟨hWider, Nat.le_refl _⟩
  have hAhead :
      Bounds.IsStricter ⟨lookback, lookahead⟩
        ⟨lookback, further⟩ :=
    ⟨Nat.le_refl _, hFurther⟩
  refine ⟨fun _ _ => guardAt_of_isStricter hBack,
    fun _ _ => guardAt_of_isStricter hAhead, ?_,
    ⟨linesOf_sublist (isWithin_steps hBack lines),
      linesOf_sublist (isWithin_steps hAhead lines)⟩,
    fun _ _ => readAt_eq_declared_of_le hFurther,
    found_le_found (isWithin_steps hAhead lines)⟩
  intro bounds other index guard found hGuard hFound
  rcases guardAt_eq_some hGuard with
    ⟨declaration, hRead, rfl⟩
  rcases guardAt_eq_some hFound with
    ⟨same, hSame, rfl⟩
  rw [declaration_unique hRead hSame]

/-
  A statement with a guard two lines above and its table one
  line below.
-/
def spacedScript :
    List Text :=
  [Text.ofString "DROP TRIGGER IF EXISTS a ON t;\n",
    Text.ofString "-- again\n",
    Text.ofString "CREATE TRIGGER a\n",
    Text.ofString "  ON t;\n"]

/- Only a short lookback and a long lookahead insert one. -/
theorem guards_follow_bounds_spaced :
    1 ≤ 2 ∧ 1 ≤ 5 ∧
      guardAt ⟨2, 5⟩ spacedScript 2 = none ∧
        guardAt ⟨1, 0⟩ spacedScript 2 = none ∧
          guardAt ⟨1, 5⟩ spacedScript 2 =
            some (Text.ofString
              "DROP TRIGGER IF EXISTS \"a\" ON t;\n") := by
  have hWider : 1 ≤ 2 := by decide
  have hFurther : 1 ≤ 5 := by decide
  have hSome :
      guardAt ⟨1, 1⟩ spacedScript 2 =
        some (Text.ofString
          "DROP TRIGGER IF EXISTS \"a\" ON t;\n") := by
    decide +kernel
  have hBoth :=
    guards_follow_bounds spacedScript hWider hFurther
  exact ⟨hWider, hFurther, by decide +kernel,
    by decide +kernel, hBoth.2.1 2 _ hSome⟩

end SafeRerun
