import SafeRerun.Proofs.Rerun.Statement

/-
  Running scripts on the triggers of a database.

  Key definitions include:
    * `SafeRerun.Triggers`
    * `SafeRerun.Statement.execute`
    * `SafeRerun.runLines`
    * `SafeRerun.Drops`

  Key theorems include:
    * `SafeRerun.runLines_append`
    * `SafeRerun.mem_of_not_drops`
    * `SafeRerun.mem_of_create`

  A statement that creates a trigger fails where the trigger
  is there already, and the script fails with it.  Nothing
  else fails.
-/

------------------------------------------------------------
-- Databases
------------------------------------------------------------

namespace SafeRerun

/- A trigger is known by its name and its table. -/
def Declaration.key
    (declaration : Declaration) :
    Text × Text :=
  (declaration.trigger.lowercase,
    declaration.table.lowercase)

/- The triggers of a database. -/
abbrev Triggers : Type :=
  Finset (Text × Text)

/- What becomes of the triggers, unless the statement fails. -/
def Statement.execute
    (there : Triggers) :
    Statement → Option Triggers
  | .create declaration =>
      if declaration.key ∈ there then
        none
      else
        some (insert declaration.key there)
  | .drop declaration =>
      some (there.erase declaration.key)

/- A line without a statement does nothing. -/
def runLine
    (there : Triggers)
    (line : Text) :
    Option Triggers :=
  match statement? line with
  | some statement => statement.execute there
  | none => some there

/- The lines of a script are run in order, to the first failure. -/
def runLines :
    Triggers → List Text → Option Triggers
  | there, [] => some there
  | there, line :: rest =>
      (runLine there line).bind fun next =>
        runLines next rest

/- One of the lines drops the trigger. -/
def Drops
    (lines : List Text)
    (key : Text × Text) : Prop :=
  ∃ line ∈ lines, ∃ declaration,
    statement? line = some (.drop declaration) ∧
      declaration.key = key

end SafeRerun

------------------------------------------------------------
-- One Line
------------------------------------------------------------

namespace SafeRerun

variable {there after : Triggers}
variable {line : Text}
variable {declaration : Declaration}
variable {key : Text × Text}

theorem runLine_create
    (hCreate : statement? line = some (.create declaration)) :
    runLine there line =
      if declaration.key ∈ there then
        none
      else
        some (insert declaration.key there) := by
  rw [runLine, hCreate]
  rfl

theorem runLine_drop
    (hDrop : statement? line = some (.drop declaration)) :
    runLine there line =
      some (there.erase declaration.key) := by
  rw [runLine, hDrop]
  rfl

theorem runLine_none
    (hNone : statement? line = none) :
    runLine there line = some there := by
  rw [runLine, hNone]

/- A statement that creates runs where its trigger is new. -/
theorem runLine_create_eq_some_iff
    (hCreate : statement? line = some (.create declaration)) :
    runLine there line = some after ↔
      declaration.key ∉ there ∧
        after = insert declaration.key there := by
  rw [runLine_create hCreate]
  split
  · rename_i hMem
    simp [hMem]
  · rename_i hNew
    simp [hNew, eq_comm]

@[simp] theorem not_drops_nil :
    ¬ Drops [] key := by
  intro hExists
  rcases hExists with ⟨line, hMem, -⟩
  simp at hMem

theorem drops_append_iff
    {lines others : List Text} :
    Drops (lines ++ others) key ↔
      Drops lines key ∨ Drops others key := by
  simp only [Drops, List.mem_append, or_and_right,
    exists_or]

theorem drops_singleton_iff :
    Drops [line] key ↔
      ∃ declaration,
        statement? line = some (.drop declaration) ∧
          declaration.key = key := by
  simp [Drops]

/- A trigger stays until it is dropped. -/
theorem mem_of_runLine
    (hMem : key ∈ there)
    (hRun : runLine there line = some after)
    (hKept : ¬ Drops [line] key) :
    key ∈ after := by
  cases hStatement : statement? line with
  | none =>
      rw [runLine_none hStatement, Option.some.injEq]
        at hRun
      rwa [← hRun]
  | some statement =>
      cases statement with
      | create declaration =>
          rcases (runLine_create_eq_some_iff hStatement).mp
              hRun with ⟨-, rfl⟩
          exact Finset.mem_insert_of_mem hMem
      | drop declaration =>
          rw [runLine_drop hStatement, Option.some.injEq]
            at hRun
          rw [← hRun]
          refine Finset.mem_erase.mpr ⟨?_, hMem⟩
          intro hSame
          exact hKept (drops_singleton_iff.mpr
            ⟨declaration, hStatement, hSame.symm⟩)

end SafeRerun

------------------------------------------------------------
-- Whole Scripts
------------------------------------------------------------

namespace SafeRerun

variable {there after : Triggers}
variable {lines : List Text}
variable {line : Text}
variable {declaration : Declaration}
variable {key : Text × Text}

theorem runLines_cons_eq_some_iff :
    runLines there (line :: lines) = some after ↔
      ∃ next,
        runLine there line = some next ∧
          runLines next lines = some after := by
  rw [runLines, Option.bind_eq_some_iff]

/- A script in two parts runs part by part. -/
theorem runLines_append
    (there : Triggers)
    (lines others : List Text) :
    runLines there (lines ++ others) =
      (runLines there lines).bind fun next =>
        runLines next others := by
  induction lines generalizing there with
  | nil =>
      rfl
  | cons line rest ih =>
      rw [List.cons_append, runLines, runLines,
        Option.bind_assoc]
      congr 1
      funext next
      exact ih next

theorem runLines_append_eq_some_iff
    {others : List Text} :
    runLines there (lines ++ others) = some after ↔
      ∃ next,
        runLines there lines = some next ∧
          runLines next others = some after := by
  rw [runLines_append, Option.bind_eq_some_iff]

/- A trigger stays through lines that do not drop it. -/
theorem mem_of_not_drops
    (hMem : key ∈ there)
    (hRun : runLines there lines = some after)
    (hKept : ¬ Drops lines key) :
    key ∈ after := by
  induction lines generalizing there with
  | nil =>
      rw [runLines, Option.some.injEq] at hRun
      rwa [← hRun]
  | cons line rest ih =>
      rcases runLines_cons_eq_some_iff.mp hRun with
        ⟨next, hLine, hRest⟩
      rw [← List.singleton_append, drops_append_iff, not_or]
        at hKept
      exact ih (mem_of_runLine hMem hLine hKept.1) hRest
        hKept.2

/- A trigger that was created is there until it is dropped. -/
theorem mem_of_create
    (hMem : line ∈ lines)
    (hCreate : statement? line = some (.create declaration))
    (hRun : runLines there lines = some after)
    (hKept : ¬ Drops lines declaration.key) :
    declaration.key ∈ after := by
  induction lines generalizing there with
  | nil =>
      simp at hMem
  | cons first rest ih =>
      rcases runLines_cons_eq_some_iff.mp hRun with
        ⟨next, hFirst, hRest⟩
      rw [← List.singleton_append, drops_append_iff, not_or]
        at hKept
      rcases List.mem_cons.mp hMem with rfl | hLater
      · rcases (runLine_create_eq_some_iff hCreate).mp
            hFirst with ⟨-, rfl⟩
        exact mem_of_not_drops
          (Finset.mem_insert_self _ _) hRest hKept.2
      · exact ih hLater hRest hKept.2

end SafeRerun
