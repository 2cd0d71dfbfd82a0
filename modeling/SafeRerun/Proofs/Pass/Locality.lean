import SafeRerun.Proofs.Pass.Gathering

/-
  What a pass decides about a line depends on the lines
  around it only.

  Key definitions include:
    * `SafeRerun.Decision`
    * `SafeRerun.decisionAt`
    * `SafeRerun.window`
    * `SafeRerun.placeInWindow`

  Key theorems include:
    * `SafeRerun.declaration?_readAt_window`
    * `SafeRerun.linesAbove_window`
    * `SafeRerun.decisions_are_local`

  The lines that a decision can look at are those that the
  lookback and the lookahead reach.  A script that ends
  where the lookahead does is read in another way than one
  that goes on there: what is gathered is then kept and not
  given up.  Both declare nothing, because a text that names
  no table declares nothing.
-/

------------------------------------------------------------
-- Decisions
------------------------------------------------------------

namespace SafeRerun

/-
  What a pass decides about a line: whether a statement
  starts there, what it declares, and the guard that is
  inserted above.
-/
structure Decision where
  starts : Bool
  declaration : Option Declaration
  guard : Option Text
  deriving DecidableEq, Repr

/- The decision that a step takes. -/
def Step.decision
    (step : Step) :
    Decision :=
  { starts := isStatementStart step.line
    declaration := step.reading.declaration?
    guard := step.guard }

/- The decision of a pass about the line at an index. -/
def decisionAt
    (bounds : Bounds)
    (lines : List Text)
    (index : Nat) :
    Option Decision :=
  (steps bounds lines)[index]?.map Step.decision

/- A guard is called for by what is declared. -/
theorem guard?_eq_bind
    (lookback : Nat)
    (lines : List Text)
    (index : Nat)
    (reading : Reading) :
    reading.guard? lookback lines index =
      reading.declaration?.bind
        (guardFor lookback lines index) := by
  cases reading <;> rfl

/- A decision is made up of what is found at its line. -/
theorem decisionAt_eq
    (bounds : Bounds)
    (lines : List Text)
    (index : Nat) :
    decisionAt bounds lines index =
      lines[index]?.map fun line =>
        { starts := isStatementStart line
          declaration :=
            (readAt bounds.lookahead lines
              index).declaration?
          guard :=
            (readAt bounds.lookahead lines
              index).declaration?.bind
                (guardFor bounds.lookback lines index) } := by
  rw [decisionAt, getElem?_steps, Option.map_map]
  simp only [Function.comp_def, Step.decision,
    guard?_eq_bind]

end SafeRerun

------------------------------------------------------------
-- The Lines Around a Line
------------------------------------------------------------

namespace SafeRerun

/-
  The lines that the bounds reach around an index, the line
  at the index with them, as far as the script goes.
-/
def window
    (bounds : Bounds)
    (lines : List Text)
    (index : Nat) :
    List Text :=
  (lines.take (index + bounds.lookahead + 1)).drop
    (index - bounds.lookback)

/- Where the line at an index stands in its window. -/
def placeInWindow
    (bounds : Bounds)
    (index : Nat) :
    Nat :=
  min index bounds.lookback

variable (bounds : Bounds)
variable (lines : List Text)
variable (index : Nat)

theorem sub_add_placeInWindow :
    index - bounds.lookback + placeInWindow bounds index =
      index := by
  unfold placeInWindow
  omega

/- A window begins with the lines above its index. -/
theorem take_window :
    (window bounds lines index).take
        (placeInWindow bounds index) =
      linesAbove bounds.lookback lines index := by
  have hInside :
      min index (index + bounds.lookahead + 1) = index := by
    omega
  rw [window, linesAbove, List.take_drop,
    sub_add_placeInWindow,
    List.take_take, hInside]

/- From its index on a window has what is looked ahead at. -/
theorem drop_window :
    (window bounds lines index).drop
        (placeInWindow bounds index) =
      (lines.drop index).take (bounds.lookahead + 1) := by
  have hLength :
      index + bounds.lookahead + 1 - index =
        bounds.lookahead + 1 := by
    omega
  rw [window, List.drop_drop, sub_add_placeInWindow,
    List.drop_take,
    hLength]

/- The line at the index is in the window. -/
theorem getElem?_window :
    (window bounds lines index)[placeInWindow bounds
        index]? =
      lines[index]? := by
  rw [← List.head?_drop, drop_window, List.head?_take,
    if_neg (Nat.succ_ne_zero _), List.head?_drop]

/- Above the index there is no more than the lookback. -/
theorem linesAbove_window :
    linesAbove bounds.lookback (window bounds lines index)
        (placeInWindow bounds index) =
      linesAbove bounds.lookback lines index := by
  have hAll :
      placeInWindow bounds index - bounds.lookback = 0 :=
    Nat.sub_eq_zero_of_le (Nat.min_le_right _ _)
  conv_lhs => rw [linesAbove, hAll, List.drop_zero]
  exact take_window bounds lines index

end SafeRerun

------------------------------------------------------------
-- Decisions in a Window
------------------------------------------------------------

namespace SafeRerun

/-
  Lines beyond a count are of no account to whether a table
  is named there for the first time.
-/
theorem namesTableAfter_take_iff
    {statement : Text}
    {below : List Text}
    {count reach : Nat}
    (hReach : count ≤ reach) :
    NamesTableAfter statement (below.take reach) count ↔
      NamesTableAfter statement below count := by
  have hTake :
      ∀ {fewer : Nat},
        fewer ≤ count →
          (below.take reach).take fewer =
            below.take fewer := by
    intro fewer hFewer
    rw [List.take_take,
      Nat.min_eq_left (hFewer.trans hReach)]
  constructor
  · rintro ⟨hInside, hNamed, hLeast⟩
    refine ⟨?_, ?_, fun fewer hFewer => ?_⟩
    · rw [List.length_take] at hInside
      exact hInside.trans (Nat.min_le_right _ _)
    · rw [← hTake le_rfl]
      exact hNamed
    · rw [← hTake hFewer.le]
      exact hLeast fewer hFewer
  · rintro ⟨hInside, hNamed, hLeast⟩
    refine ⟨?_, ?_, fun fewer hFewer => ?_⟩
    · rw [List.length_take]
      exact Nat.le_min.mpr ⟨hReach, hInside⟩
    · rw [hTake le_rfl]
      exact hNamed
    · rw [hTake hFewer.le]
      exact hLeast fewer hFewer

/-
  A statement declares the same whether or not the script
  goes on where the lookahead ends.
-/
theorem declaration?_gather_take
    (lookahead : Nat)
    (statement : Text)
    (below : List Text) :
    (readGathered (gather lookahead statement
        (below.take lookahead))).declaration? =
      (readGathered
        (gather lookahead statement below)).declaration? := by
  apply Option.ext
  intro declaration
  rw [Reading.declaration?_eq_some,
    Reading.declaration?_eq_some,
    readGathered_eq_declared_iff_after,
    readGathered_eq_declared_iff_after]
  refine exists_congr fun count =>
    and_congr_right fun hBound => ?_
  rw [namesTableAfter_take_iff hBound, List.take_take,
    Nat.min_eq_left hBound]

variable (bounds : Bounds)
variable (lines : List Text)
variable (index : Nat)

/- A window declares at its index what the script does. -/
theorem declaration?_readAt_window :
    (readAt bounds.lookahead (window bounds lines index)
        (placeInWindow bounds index)).declaration? =
      (readAt bounds.lookahead lines
        index).declaration? := by
  unfold readAt
  rw [drop_window]
  cases lines.drop index with
  | nil =>
      rfl
  | cons line below =>
      rw [List.take_succ_cons, readFirst, readFirst]
      split
      · exact declaration?_gather_take bounds.lookahead
          line.trim below
      · rfl

/- A window calls for the same guards as the script. -/
theorem guardFor_window :
    guardFor bounds.lookback (window bounds lines index)
        (placeInWindow bounds index) =
      guardFor bounds.lookback lines index := by
  funext declaration
  unfold guardFor isGuarded guardEnd
  rw [linesAbove_window, getElem?_window]

theorem decisionAt_window :
    decisionAt bounds (window bounds lines index)
        (placeInWindow bounds index) =
      decisionAt bounds lines index := by
  rw [decisionAt_eq, decisionAt_eq, getElem?_window,
    declaration?_readAt_window, guardFor_window]

/-
  A pass decides about a line of a script as it does about
  the line in its window alone.  So an edit of the script
  that keeps the window, and the place of the line in it,
  keeps the decision.
-/
theorem decisions_are_local
    (bounds : Bounds)
    (lines : List Text)
    (index : Nat) :
    decisionAt bounds (window bounds lines index)
        (placeInWindow bounds index) =
      decisionAt bounds lines index ∧
    ∀ edited place,
      window bounds edited place =
          window bounds lines index →
        placeInWindow bounds place =
            placeInWindow bounds index →
          decisionAt bounds edited place =
            decisionAt bounds lines index := by
  refine ⟨decisionAt_window bounds lines index, ?_⟩
  intro edited place hWindow hPlace
  rw [← decisionAt_window bounds edited place, hWindow,
    hPlace, decisionAt_window]

/-
  A script whose statement has a guard beyond the lookback
  and its table on the last line that is looked at.
-/
def distantScript :
    List Text :=
  [Text.ofString "DROP TRIGGER IF EXISTS a ON t;\n",
    Text.ofString "-- again\n",
    Text.ofString "CREATE TRIGGER a\r\n",
    Text.ofString "  ON t;\n",
    Text.ofString "SELECT 1;\n"]

/- The script with other lines around those looked at. -/
def editedScript :
    List Text :=
  [Text.ofString "-- again\n",
    Text.ofString "CREATE TRIGGER a\r\n",
    Text.ofString "  ON t;\n"]

theorem decisions_are_local_edited :
    window ⟨1, 1⟩ editedScript 1 =
        window ⟨1, 1⟩ distantScript 2 ∧
      placeInWindow ⟨1, 1⟩ 1 = placeInWindow ⟨1, 1⟩ 2 ∧
        decisionAt ⟨1, 1⟩ editedScript 1 =
          some
            { starts := true
              declaration :=
                some ⟨Text.ofString "a", Text.ofString "t"⟩
              guard :=
                some (Text.ofString
                  "DROP TRIGGER IF EXISTS \"a\" ON t;\r\n") } := by
  have hWindow :
      window ⟨1, 1⟩ editedScript 1 =
        window ⟨1, 1⟩ distantScript 2 := by
    decide
  refine ⟨hWindow, rfl, ?_⟩
  rw [(decisions_are_local ⟨1, 1⟩ distantScript 2).2
    editedScript 1 hWindow rfl]
  decide +kernel

end SafeRerun
