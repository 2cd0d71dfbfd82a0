import SafeRerun.Settings.Basic
import SafeRerun.Proofs.Pass.Accounting
import SafeRerun.Proofs.Pass.Reading
import SafeRerun.Proofs.Rerun.Execution

/-
  When a rewritten script runs on every database.

  Key definitions include:
    * `SafeRerun.IsSafeStep`
    * `SafeRerun.Follows`

  Key theorems include:
    * `SafeRerun.guard_eq_none_iff`
    * `SafeRerun.follows_step`
    * `SafeRerun.follows_run`
    * `SafeRerun.rewritten_runs_iff`

  The run of the rewritten script is compared with that of
  the script on an empty database.  It holds no more than the
  other one, but for triggers that were there from the start
  and that no line has dropped yet.
-/

------------------------------------------------------------
-- Steps on Lines of a Script
------------------------------------------------------------

namespace SafeRerun

variable {bounds : Bounds}
variable {lines : List Text}
variable {index : Nat}
variable {line : Text}
variable {declaration : Declaration}

/- What a line creates is what is read there. -/
theorem readAt_of_create
    (lookahead : Nat)
    (hLine : lines[index]? = some line)
    (hCreate : statement? line = some (.create declaration)) :
    readAt lookahead lines index = .declared declaration := by
  have hDeclares := declaration?_of_create hCreate
  rw [← List.head?_drop] at hLine
  rcases List.head?_eq_some_iff.mp hLine with
    ⟨below, hBelow⟩
  rw [readAt_of_isStatementStart hBelow
    (isStatementStart_of_create hCreate)]
  exact readGathered_eq_declared_iff.mpr
    ⟨line.trim, gather_of_hasOnClause
      (hasOnClause_of_declaration? hDeclares) _ _,
      hDeclares⟩

/- Only lines that create start a statement. -/
theorem create_of_isStatementStart
    (hScript : IsScriptLine line)
    (hStart : isStatementStart line = true) :
    ∃ declaration,
      statement? line = some (.create declaration) := by
  rcases hScript with ⟨statement, hStatement⟩ | ⟨hNone, -⟩
  · cases statement with
    | create declaration =>
        exact ⟨declaration, hStatement⟩
    | drop declaration =>
        rw [isStatementStart_of_drop hStatement] at hStart
        contradiction
  · rw [isStatementStart_of_not_occursIn hNone] at hStart
    contradiction

/- Only lines that drop a trigger of the name guard it. -/
theorem guardsTrigger_iff
    {trigger : Text}
    (hScript : IsScriptLine line) :
    guardsTrigger trigger line = true ↔
      ∃ declaration,
        statement? line = some (.drop declaration) ∧
          declaration.trigger.lowercase =
            trigger.lowercase := by
  unfold guardsTrigger
  constructor
  · intro hGuards
    rcases hScript with ⟨statement, hStatement⟩ | ⟨-, hNone⟩
    · cases statement with
      | create declaration =>
          rw [guardedNames_of_create hStatement] at hGuards
          contradiction
      | drop declaration =>
          rw [guardedNames_of_drop hStatement] at hGuards
          exact ⟨declaration, hStatement,
            by simpa using hGuards⟩
    · rw [guardedNames_of_not_occursIn hNone] at hGuards
      contradiction
  · intro hExists
    rcases hExists with ⟨declaration, hDrop, hSame⟩
    rw [guardedNames_of_drop hDrop]
    simpa using hSame

/- The guard above a line that creates is written for it. -/
theorem guard_of_create
    {step : Step}
    {guard : Text}
    (hStep : (steps bounds lines)[index]? = some step)
    (hCreate :
      statement? step.line = some (.create declaration))
    (hGuard : step.guard = some guard) :
    declaration.IsNamed ∧
      guard =
        guardLine declaration
          (guardEnd lines index).text := by
  have hLine := (of_getElem?_steps hStep).1
  have hCreated :=
    readAt_of_create bounds.lookahead hLine hCreate
  rcases guard_of_getElem?_steps hStep hGuard with
    ⟨found, hRead, -, rfl⟩
  rw [hCreated, Reading.declared.injEq] at hRead
  subst hRead
  rcases readAt_eq_declared hCreated with
    ⟨-, -, -, hNamed⟩
  exact ⟨hNamed, rfl⟩

/-
  A guard stands only above a line that creates, and drops
  what is created there.
-/
theorem drop_of_guard
    {step : Step}
    {guard : Text}
    (hScript : ∀ line ∈ lines, IsScriptLine line)
    (hStep : (steps bounds lines)[index]? = some step)
    (hGuard : step.guard = some guard) :
    ∃ declaration,
      statement? step.line = some (.create declaration) ∧
        statement? guard = some (.drop declaration) := by
  have hLine :=
    List.mem_of_getElem? (of_getElem?_steps hStep).1
  have hStart :=
    (isSound_of_mem_steps (List.mem_of_getElem? hStep) guard
      hGuard).1
  rcases create_of_isStatementStart
      (hScript step.line hLine) hStart with
    ⟨declaration, hCreate⟩
  rcases guard_of_create hStep hCreate hGuard with
    ⟨hNamed, rfl⟩
  exact ⟨declaration, hCreate,
    statement?_guardLine hNamed (isBlankRun_lineEnd _)⟩

/-
  Above a line that creates no guard is inserted exactly
  where a trigger of the name is dropped within the lookback.
-/
theorem guard_eq_none_iff
    {step : Step}
    (hScript : ∀ line ∈ lines, IsScriptLine line)
    (hStep : (steps bounds lines)[index]? = some step)
    (hCreate :
      statement? step.line = some (.create declaration)) :
    step.guard = none ↔
      ∃ above ∈ linesAbove bounds.lookback lines index,
        ∃ dropped,
          statement? above = some (.drop dropped) ∧
            dropped.trigger.lowercase =
              declaration.trigger.lowercase := by
  rcases of_getElem?_steps hStep with ⟨hLine, -, hGuard⟩
  have hRead :=
    readAt_of_create bounds.lookahead hLine hCreate
  rw [hGuard, hRead]
  simp only [Reading.guard?, guardFor]
  have hGuarded :
      isGuarded bounds.lookback lines index
          declaration.trigger = true ↔
        ∃ above ∈ linesAbove bounds.lookback lines index,
          ∃ dropped,
            statement? above = some (.drop dropped) ∧
              dropped.trigger.lowercase =
                declaration.trigger.lowercase := by
    unfold isGuarded
    rw [List.any_eq_true]
    constructor
    · intro hExists
      rcases hExists with ⟨above, hMem, hGuards⟩
      have hAbove :=
        hScript above
          (List.mem_of_mem_take (List.mem_of_mem_drop hMem))
      exact ⟨above, hMem,
        (guardsTrigger_iff hAbove).mp hGuards⟩
    · intro hExists
      rcases hExists with ⟨above, hMem, hDrops⟩
      have hAbove :=
        hScript above
          (List.mem_of_mem_take (List.mem_of_mem_drop hMem))
      exact ⟨above, hMem,
        (guardsTrigger_iff hAbove).mpr hDrops⟩
  rw [← hGuarded]
  split
  · rename_i hYes
    simp [hYes]
  · rename_i hNo
    simp [hNo]

end SafeRerun

------------------------------------------------------------
-- Following a Run
------------------------------------------------------------

namespace SafeRerun

/-
  A step after the past lines of a script is safe when its
  guard drops what its line creates, or a past line did.
-/
structure IsSafeStep
    (past : List Text)
    (step : Step) : Prop where
  guards :
    ∀ guard,
      step.guard = some guard →
        ∃ declaration,
          statement? step.line =
              some (.create declaration) ∧
            statement? guard = some (.drop declaration)
  dropped :
    ∀ declaration,
      statement? step.line = some (.create declaration) →
        step.guard = none →
          Drops past declaration.key

/-
  What a guarded run holds after the past lines: triggers of
  the plain run, and initial ones that no line has dropped.
-/
def Follows
    (initial : Triggers)
    (past : List Text)
    (plain guarded : Triggers) : Prop :=
  ∀ key ∈ guarded,
    key ∈ plain ∨ (key ∈ initial ∧ ¬ Drops past key)

variable {initial plain guarded after : Triggers}
variable {past : List Text}
variable {step : Step}

/- A line that drops nothing leaves no more dropped. -/
theorem drops_append_singleton_iff
    {line : Text}
    {key : Text × Text}
    (hNone :
      ∀ declaration,
        statement? line ≠ some (.drop declaration)) :
    Drops (past ++ [line]) key ↔ Drops past key := by
  rw [drops_append_iff, drops_singleton_iff]
  constructor
  · rintro (hPast | ⟨declaration, hDrop, -⟩)
    · exact hPast
    · exact absurd hDrop (hNone declaration)
  · exact Or.inl

/- Where nothing is created no guard stands. -/
theorem IsSafeStep.lines_eq
    (hSafe : IsSafeStep past step)
    (hNone :
      ∀ declaration,
        statement? step.line ≠ some (.create declaration)) :
    step.lines = [step.line] := by
  unfold Step.lines
  cases hGuard : step.guard with
  | none =>
      rfl
  | some guard =>
      rcases hSafe.guards guard hGuard with
        ⟨declaration, hCreate, -⟩
      exact absurd hCreate (hNone declaration)

/-
  A trigger that the plain run can create can be created in
  the guarded run, which drops it before if it has to.
-/
theorem follows_create
    {declaration : Declaration}
    (hFollows : Follows initial past plain guarded)
    (hSafe : IsSafeStep past step)
    (hCreate :
      statement? step.line = some (.create declaration))
    (hNew : declaration.key ∉ plain) :
    ∃ next,
      runLines guarded step.lines = some next ∧
        ∀ key ∈ next,
          key = declaration.key ∨ key ∈ guarded := by
  unfold Step.lines
  cases hGuard : step.guard with
  | none =>
      have hAbsent : declaration.key ∉ guarded := by
        intro hMem
        rcases hFollows declaration.key hMem with
          hPlain | ⟨-, hKept⟩
        · exact hNew hPlain
        · exact hKept
            (hSafe.dropped declaration hCreate hGuard)
      refine ⟨insert declaration.key guarded, ?_, ?_⟩
      · rw [Option.toList_none, List.nil_append]
        exact runLines_cons_eq_some_iff.mpr
          ⟨_, (runLine_create_eq_some_iff hCreate).mpr
            ⟨hAbsent, rfl⟩, rfl⟩
      · intro key hMem
        exact Finset.mem_insert.mp hMem
  | some guard =>
      rcases hSafe.guards guard hGuard with
        ⟨created, hCreated, hDrop⟩
      rw [hCreate, Option.some.injEq,
        Statement.create.injEq] at hCreated
      subst hCreated
      refine ⟨insert declaration.key
        (guarded.erase declaration.key), ?_, ?_⟩
      · rw [Option.toList_some, List.singleton_append]
        exact runLines_cons_eq_some_iff.mpr
          ⟨_, runLine_drop hDrop,
            runLines_cons_eq_some_iff.mpr
              ⟨_, (runLine_create_eq_some_iff hCreate).mpr
                ⟨Finset.notMem_erase _ _, rfl⟩, rfl⟩⟩
      · intro key hMem
        rcases Finset.mem_insert.mp hMem with hSame | hOld
        · exact Or.inl hSame
        · exact Or.inr (Finset.mem_of_mem_erase hOld)

/- A safe step is followed wherever its line runs. -/
theorem follows_step
    (hFollows : Follows initial past plain guarded)
    (hSafe : IsSafeStep past step)
    (hRun : runLine plain step.line = some after) :
    ∃ next,
      runLines guarded step.lines = some next ∧
        Follows initial (past ++ [step.line]) after next := by
  cases hStatement : statement? step.line with
  | none =>
      have hLines := hSafe.lines_eq (by simp [hStatement])
      rw [runLine_none hStatement, Option.some.injEq]
        at hRun
      subst hRun
      refine ⟨guarded, ?_, ?_⟩
      · rw [hLines]
        exact runLines_cons_eq_some_iff.mpr
          ⟨_, runLine_none hStatement, rfl⟩
      · intro key hMem
        rw [drops_append_singleton_iff (by simp [hStatement])]
        exact hFollows key hMem
  | some statement =>
      cases statement with
      | create declaration =>
          rcases (runLine_create_eq_some_iff hStatement).mp
              hRun with ⟨hNew, rfl⟩
          rcases follows_create hFollows hSafe hStatement
              hNew with ⟨next, hNext, hKeys⟩
          refine ⟨next, hNext, ?_⟩
          intro key hMem
          rw [drops_append_singleton_iff
            (by simp [hStatement])]
          rcases hKeys key hMem with rfl | hOld
          · exact Or.inl (Finset.mem_insert_self _ _)
          · rcases hFollows key hOld with hPlain | hInitial
            · exact Or.inl
                (Finset.mem_insert_of_mem hPlain)
            · exact Or.inr hInitial
      | drop declaration =>
          have hLines :=
            hSafe.lines_eq (by simp [hStatement])
          rw [runLine_drop hStatement, Option.some.injEq]
            at hRun
          subst hRun
          refine ⟨guarded.erase declaration.key, ?_, ?_⟩
          · rw [hLines]
            exact runLines_cons_eq_some_iff.mpr
              ⟨_, runLine_drop hStatement, rfl⟩
          · intro key hMem
            rcases Finset.mem_erase.mp hMem with
              ⟨hOther, hOld⟩
            rcases hFollows key hOld with
              hPlain | ⟨hInitial, hKept⟩
            · exact Or.inl
                (Finset.mem_erase.mpr ⟨hOther, hPlain⟩)
            · refine Or.inr ⟨hInitial, ?_⟩
              rw [drops_append_iff, drops_singleton_iff]
              rintro (hPast | ⟨dropped, hDrop, hSame⟩)
              · exact hKept hPast
              · rw [hStatement, Option.some.injEq,
                  Statement.drop.injEq] at hDrop
                rw [hDrop] at hOther
                exact hOther hSame.symm

/- Safe steps are followed to the end of the script. -/
theorem follows_run
    {passed : List Step}
    (hFollows : Follows initial past plain guarded)
    (hSafe :
      ∀ front step back,
        passed = front ++ step :: back →
          IsSafeStep (past ++ front.map Step.line) step)
    (hRun :
      runLines plain (passed.map Step.line) = some after) :
    ∃ next,
      runLines guarded (linesOf passed) = some next ∧
        Follows initial (past ++ passed.map Step.line) after
          next := by
  induction passed generalizing past plain guarded with
  | nil =>
      rw [List.map_nil, runLines, Option.some.injEq] at hRun
      subst hRun
      refine ⟨guarded, rfl, ?_⟩
      rw [List.map_nil, List.append_nil]
      exact hFollows
  | cons step rest ih =>
      rw [List.map_cons] at hRun
      rcases runLines_cons_eq_some_iff.mp hRun with
        ⟨middle, hFirst, hLater⟩
      have hHere : IsSafeStep past step := by
        simpa using hSafe [] step rest rfl
      rcases follows_step hFollows hHere hFirst with
        ⟨next, hNext, hThere⟩
      have hRest :
          ∀ front other back,
            rest = front ++ other :: back →
              IsSafeStep
                (past ++ [step.line] ++
                  front.map Step.line)
                other := by
        intro front other back hSplit
        have hWhole :=
          hSafe (step :: front) other back
            (by rw [hSplit]; rfl)
        simpa using hWhole
      rcases ih hThere hRest hLater with
        ⟨last, hLast, hEnd⟩
      refine ⟨last, ?_, by simpa using hEnd⟩
      rw [linesOf_cons]
      exact runLines_append_eq_some_iff.mpr
        ⟨next, hNext, hLast⟩

end SafeRerun

------------------------------------------------------------
-- Running a Script Again
------------------------------------------------------------

namespace SafeRerun

variable {bounds : Bounds}
variable {lines : List Text}
variable {index : Nat}
variable {step : Step}
variable {declaration : Declaration}
variable {after : Triggers}

/- The steps of a pass, divided at one of them. -/
theorem exists_split_steps
    (hStep : (steps bounds lines)[index]? = some step) :
    ∃ front back,
      steps bounds lines = front ++ step :: back ∧
        front.map Step.line = lines.take index := by
  rcases List.getElem?_eq_some_iff.mp hStep with
    ⟨hIndex, hGet⟩
  refine ⟨(steps bounds lines).take index,
    (steps bounds lines).drop (index + 1), ?_, ?_⟩
  · rw [← hGet, ← List.drop_eq_getElem_cons hIndex,
      List.take_append_drop]
  · rw [List.map_take, map_line_steps]

/- Where the plain run comes to, what is created is new. -/
theorem exists_run_of_create
    (hStep : (steps bounds lines)[index]? = some step)
    (hCreate :
      statement? step.line = some (.create declaration))
    (hRuns : runLines ∅ lines = some after) :
    ∃ before,
      runLines ∅ (lines.take index) = some before ∧
        declaration.key ∉ before := by
  rcases exists_split_steps hStep with
    ⟨front, back, hSplit, hFront⟩
  rw [← map_line_steps bounds lines, hSplit,
    List.map_append, List.map_cons, hFront] at hRuns
  rcases runLines_append_eq_some_iff.mp hRuns with
    ⟨before, hBefore, hRest⟩
  rcases runLines_cons_eq_some_iff.mp hRest with
    ⟨next, hLine, -⟩
  exact ⟨before, hBefore,
    ((runLine_create_eq_some_iff hCreate).mp hLine).1⟩

/- The guards above a step drop what its script created. -/
theorem not_drops_linesOf
    {front back : List Step}
    (hScript : ∀ line ∈ lines, IsScriptLine line)
    (hSplit : steps bounds lines = front ++ step :: back)
    (hFront : front.map Step.line = lines.take index)
    (hStep : (steps bounds lines)[index]? = some step)
    (hCreate :
      statement? step.line = some (.create declaration))
    (hRuns : runLines ∅ lines = some after)
    (hKept : ¬ Drops (lines.take index) declaration.key) :
    ¬ Drops (linesOf front) declaration.key := by
  intro hExists
  rcases hExists with ⟨text, hMem, dropped, hDrop, hKey⟩
  rcases List.mem_flatMap.mp hMem with
    ⟨above, hAbove, hText⟩
  have hPast : above.line ∈ lines.take index := by
    rw [← hFront]
    exact List.mem_map_of_mem hAbove
  rcases List.mem_append.mp hText with hGuard | hLine
  · -- The plain run would find the trigger there.
    rw [Option.mem_toList] at hGuard
    have hSteps : above ∈ steps bounds lines := by
      rw [hSplit]
      exact List.mem_append_left _ hAbove
    rcases List.mem_iff_getElem?.mp hSteps with
      ⟨place, hPlace⟩
    rcases drop_of_guard hScript hPlace hGuard with
      ⟨created, hCreated, hDropped⟩
    rw [hDrop, Option.some.injEq, Statement.drop.injEq]
      at hDropped
    subst hDropped
    rcases exists_run_of_create hStep hCreate hRuns with
      ⟨before, hBefore, hNew⟩
    rw [← hKey] at hNew hKept
    exact hNew (mem_of_create hPast hCreated hBefore hKept)
  · rw [List.mem_singleton.mp hLine] at hDrop
    exact hKept ⟨above.line, hPast, dropped, hDrop, hKey⟩

/-
  Where no guard is inserted, a database that holds nothing
  but the trigger shows that it has to be dropped above.
-/
theorem drops_of_runs
    (hScript : ∀ line ∈ lines, IsScriptLine line)
    (hRuns : runLines ∅ lines = some after)
    (hStep : (steps bounds lines)[index]? = some step)
    (hCreate :
      statement? step.line = some (.create declaration))
    (hNone : step.guard = none)
    (hAgain :
      (runLines {declaration.key}
        (addGuards bounds lines)).isSome = true) :
    Drops (lines.take index) declaration.key := by
  by_contra hKept
  rcases exists_split_steps hStep with
    ⟨front, back, hSplit, hFront⟩
  rcases Option.isSome_iff_exists.mp hAgain with
    ⟨last, hLast⟩
  have hLines : step.lines = [step.line] := by
    simp [Step.lines, hNone]
  rw [addGuards, hSplit, linesOf, List.flatMap_append,
    List.flatMap_cons, hLines] at hLast
  rcases runLines_append_eq_some_iff.mp hLast with
    ⟨before, hBefore, hRest⟩
  rcases runLines_cons_eq_some_iff.mp hRest with
    ⟨next, hLine, -⟩
  have hThere :=
    mem_of_not_drops (Finset.mem_singleton_self _) hBefore
      (not_drops_linesOf hScript hSplit hFront hStep hCreate
        hRuns hKept)
  exact ((runLine_create_eq_some_iff hCreate).mp hLine).1
    hThere

/- Where nothing is missed, every database is good enough. -/
theorem runs_of_drops
    (hScript : ∀ line ∈ lines, IsScriptLine line)
    (hRuns : runLines ∅ lines = some after)
    (hDropped :
      ∀ index step declaration,
        (steps bounds lines)[index]? = some step →
          statement? step.line =
              some (.create declaration) →
            step.guard = none →
              Drops (lines.take index) declaration.key)
    (initial : Triggers) :
    (runLines initial (addGuards bounds lines)).isSome =
      true := by
  have hFollows : Follows initial [] ∅ initial := by
    intro key hMem
    exact Or.inr ⟨hMem, not_drops_nil⟩
  have hSafe :
      ∀ front step back,
        steps bounds lines = front ++ step :: back →
          IsSafeStep ([] ++ front.map Step.line) step := by
    intro front step back hSplit
    have hStep :
        (steps bounds lines)[front.length]? =
          some step := by
      rw [hSplit]
      simp
    have hPast :
        front.map Step.line = lines.take front.length := by
      rw [← map_line_steps bounds lines, hSplit]
      simp
    refine ⟨fun guard hGuard =>
      drop_of_guard hScript hStep hGuard, ?_⟩
    intro declaration hCreate hNone
    rw [List.nil_append, hPast]
    exact hDropped front.length step declaration hStep
      hCreate hNone
  rw [← map_line_steps bounds lines] at hRuns
  rcases follows_run hFollows hSafe hRuns with
    ⟨next, hNext, -⟩
  rw [addGuards, hNext]
  rfl

/-
  A script that runs on an empty database runs on every one
  after a pass, exactly if each trigger that it creates below
  a drop of its name within the lookback is also dropped
  itself somewhere above.
-/
theorem runs_addGuards_iff
    (hScript : ∀ line ∈ lines, IsScriptLine line)
    (hRuns : (runLines ∅ lines).isSome = true) :
    (∀ initial,
      (runLines initial (addGuards bounds lines)).isSome =
        true) ↔
      ∀ index line declaration,
        lines[index]? = some line →
          statement? line = some (.create declaration) →
            (∃ above ∈
                linesAbove bounds.lookback lines index,
              ∃ dropped,
                statement? above = some (.drop dropped) ∧
                  dropped.trigger.lowercase =
                    declaration.trigger.lowercase) →
              Drops (lines.take index) declaration.key := by
  rcases Option.isSome_iff_exists.mp hRuns with
    ⟨after, hAfter⟩
  constructor
  · intro hAgain index line declaration hLine hCreate hNamed
    have hStep := getElem?_steps bounds lines index
    rw [hLine, Option.map_some] at hStep
    exact drops_of_runs hScript hAfter hStep hCreate
      ((guard_eq_none_iff hScript hStep hCreate).mpr hNamed)
      (hAgain _)
  · intro hDropped
    refine runs_of_drops hScript hAfter ?_
    intro index step declaration hStep hCreate hNone
    exact hDropped index step.line declaration
      (of_getElem?_steps hStep).1 hCreate
      ((guard_eq_none_iff hScript hStep hCreate).mp hNone)

/-
  A script that uses each name on one table only runs on
  every database after a pass.
-/
theorem runs_addGuards_of_one_table
    (hScript : ∀ line ∈ lines, IsScriptLine line)
    (hRuns : (runLines ∅ lines).isSome = true)
    (hTable :
      ∀ line ∈ lines, ∀ above ∈ lines,
        ∀ created dropped,
          statement? line = some (.create created) →
            statement? above = some (.drop dropped) →
              dropped.trigger.lowercase =
                  created.trigger.lowercase →
                dropped.table.lowercase =
                  created.table.lowercase)
    (initial : Triggers) :
    (runLines initial (addGuards bounds lines)).isSome =
      true := by
  refine (runs_addGuards_iff hScript hRuns).mpr ?_ initial
  rintro index line created hLine hCreate
    ⟨above, hAbove, dropped, hDrop, hName⟩
  have hPast : above ∈ lines.take index :=
    List.mem_of_mem_drop hAbove
  have hSame :=
    hTable line (List.mem_of_getElem? hLine) above
      (List.mem_of_mem_take hPast) created dropped hCreate
      hDrop hName
  exact ⟨above, hPast, dropped, hDrop,
    Prod.ext hName hSame⟩

/- A script that drops and creates triggers of one name. -/
def namesake :
    Text :=
  Text.ofString "DROP TRIGGER IF EXISTS n ON t;\n" ++
    Text.ofString "CREATE TRIGGER n ON u;\n"

/-
  The rewritten text of a script runs on every database,
  exactly if each trigger that the script creates below a
  drop of its name within the lookback is dropped above.
-/
theorem rewritten_runs_iff
    (bounds : Bounds)
    (t : Text)
    (hScript : ∀ line ∈ t.splitLines, IsScriptLine line)
    (hRuns : (runLines ∅ t.splitLines).isSome = true) :
    (∀ initial,
      (runLines initial
        (resplit
          (addGuards bounds t.splitLines))).isSome =
        true) ↔
      ∀ index line declaration,
        t.splitLines[index]? = some line →
          statement? line = some (.create declaration) →
            (∃ above ∈
                linesAbove bounds.lookback t.splitLines index,
              ∃ dropped,
                statement? above = some (.drop dropped) ∧
                  dropped.trigger.lowercase =
                    declaration.trigger.lowercase) →
              Drops (t.splitLines.take index)
                declaration.key := by
  have hSame :
      resplit (addGuards bounds t.splitLines) =
        addGuards bounds t.splitLines :=
    resplit_linesOf_steps bounds (areLines_splitLines t)
  rw [hSame]
  exact runs_addGuards_iff hScript hRuns

theorem namesake_rewritten_runs_iff :
    (∀ line ∈ namesake.splitLines, IsScriptLine line) ∧
      (runLines ∅ namesake.splitLines).isSome = true ∧
        ((∀ initial,
          (runLines initial
            (resplit
              (addGuards Settings.default.bounds
                namesake.splitLines))).isSome = true) ↔
          ∀ index line declaration,
            namesake.splitLines[index]? = some line →
              statement? line =
                  some (.create declaration) →
                (∃ above ∈
                    linesAbove
                      Settings.default.bounds.lookback
                      namesake.splitLines index,
                  ∃ dropped,
                    statement? above =
                        some (.drop dropped) ∧
                      dropped.trigger.lowercase =
                        declaration.trigger.lowercase) →
                  Drops (namesake.splitLines.take index)
                    declaration.key) :=
  have hScript :
      ∀ line ∈ namesake.splitLines, IsScriptLine line := by
    decide +kernel
  have hRuns :
      (runLines ∅ namesake.splitLines).isSome = true := by
    decide +kernel
  ⟨hScript, hRuns,
    rewritten_runs_iff Settings.default.bounds namesake
      hScript hRuns⟩

/- A drop of the same name on another table is no guard. -/
theorem not_forall_rewritten_runs :
    ¬ ∀ (bounds : Bounds) (t : Text),
      1 ≤ bounds.lookback →
        1 ≤ bounds.lookahead →
          (∀ line ∈ t.splitLines, IsScriptLine line) →
            (runLines ∅ t.splitLines).isSome = true →
              ∀ initial,
                (runLines initial
                  (resplit
                    (addGuards bounds
                      t.splitLines))).isSome = true := by
  intro hSafe
  have hFails :
      (runLines {(['n'], ['u'])}
        (resplit
          (addGuards Settings.default.bounds
            namesake.splitLines))).isSome = false := by
    decide +kernel
  have hRuns :=
    hSafe Settings.default.bounds namesake (by decide)
      (by decide) (by decide +kernel) (by decide +kernel)
      {(['n'], ['u'])}
  exact Bool.false_ne_true (hFails.symm.trans hRuns)

end SafeRerun
