import SafeRerun.Proofs.Pass.Position
import SafeRerun.Proofs.Pass.Step

/-
  What a statement declares after a pass has inserted guards
  below it.

  Key definitions include:
    * `SafeRerun.joined`
    * `SafeRerun.IsCut`
    * `SafeRerun.IsLeftOpen`

  Key theorems include:
    * `SafeRerun.exists_declared_of_readAt_position`
    * `SafeRerun.readAt_position_iff`

  A guard below a statement ends the text that is gathered
  for it.  If the text ends in an open declaration there, so
  it did before the pass, since the line below the guard
  starts a statement; both readings then name the same
  trigger.  In every other case the text that the guard ends
  declares nothing.
-/

------------------------------------------------------------
-- Gathered Text
------------------------------------------------------------

namespace SafeRerun

/- The text grown by further lines, each after a space. -/
def grown
    (statement : Text)
    (lines : List Text) :
    Text :=
  lines.foldl
    (fun t line => t ++ ' ' :: line.trim) statement

/- A clause in a text is one in every longer text. -/
theorem hasOnClause_append_blank
    {t : Text}
    {blank : Char}
    (hClause : hasOnClause t = true)
    (hBlank : isBlank blank = true)
    (rest : Text) :
    hasOnClause (t ++ blank :: rest) = true := by
  unfold hasOnClause Phrase.occursIn at hClause
  rcases Option.isSome_iff_exists.mp hClause with
    ⟨names, hFind⟩
  rcases Phrase.exists_suffix_of_find? hFind with
    ⟨ending, after, ⟨front, rfl⟩, hRead⟩
  have hLonger :
      onPhrase.read (ending ++ blank :: rest) =
        some (names, after ++ blank :: rest) :=
    Phrase.read_append_blank_of_read (by decide)
      (by decide) hBlank rest hRead
  exact Phrase.occursIn_of_suffix
    ⟨front, by simp⟩ hLonger

theorem hasOnClause_grown
    {statement : Text}
    (hClause : hasOnClause statement = true)
    (lines : List Text) :
    hasOnClause (grown statement lines) = true := by
  induction lines generalizing statement with
  | nil =>
      exact hClause
  | cons line rest ih =>
      exact ih
        (hasOnClause_append_blank hClause rfl line.trim)

/- Gathering stops as soon as a table is named. -/
theorem gather_of_hasOnClause
    {statement : Text}
    (hClause : hasOnClause statement = true)
    (lookahead : Nat)
    (lines : List Text) :
    gather lookahead statement lines = some statement := by
  cases lines with
  | nil =>
      simp [gather]
  | cons line rest =>
      unfold gather
      rw [if_pos hClause]

/- A line is gathered while no table is named. -/
theorem gather_cons
    {statement : Text}
    (hClause : hasOnClause statement = false)
    (lookahead : Nat)
    (line : Text)
    (rest : List Text) :
    gather (lookahead + 1) statement (line :: rest) =
      gather lookahead (statement ++ ' ' :: line.trim)
        rest := by
  conv_lhs => unfold gather
  simp [hClause]

/- Without a lookahead no further line is gathered. -/
theorem gather_zero
    {statement : Text}
    (hClause : hasOnClause statement = false)
    {lines : List Text}
    (hLines : lines ≠ []) :
    gather 0 statement lines = none := by
  cases lines with
  | nil =>
      contradiction
  | cons line rest =>
      unfold gather
      simp [hClause]

end SafeRerun

------------------------------------------------------------
-- A Guard Below a Statement
------------------------------------------------------------

namespace SafeRerun

variable {statement : Text}
variable {step : Step}
variable {guard : Text}

/- A guard below a statement completes its text. -/
theorem hasOnClause_append_guard
    (hSound : step.IsSound)
    (hGuard : step.guard = some guard) :
    hasOnClause (statement ++ ' ' :: guard.trim) =
      true := by
  rcases hSound guard hGuard with
    ⟨-, declaration, ending, hNamed, -, rfl⟩
  rw [trim_guardLine declaration
    (isBlankRun_lineEnd ending)]
  have hClause :
      hasOnClause (guardLine declaration []) = true :=
    hasOnClause_guardLine hNamed isBlankRun_nil
  exact hasOnClause_of_suffix
    ⟨statement ++ [' '], by simp⟩ hClause

/- With a guard below it, only an open declaration counts. -/
theorem declaration?_append_guard
    (hClause : hasOnClause statement = false)
    (hSound : step.IsSound)
    (hGuard : step.guard = some guard) :
    declaration? (statement ++ ' ' :: guard.trim) =
      (openTrigger? statement).map fun trigger =>
        ⟨trigger, dropWord⟩ := by
  rcases hSound guard hGuard with
    ⟨-, declaration, ending, hNamed, -, rfl⟩
  rw [trim_guardLine declaration
    (isBlankRun_lineEnd ending)]
  rw [declaration?_append_foreign hClause rfl
    (isForeign_guardLine declaration []),
    takeWhile_guardLine, declaration?_guardLine hNamed]
  cases openTrigger? statement <;> rfl

/-
  The line below the guard completes an open declaration of
  the same trigger.
-/
theorem declaration?_append_start
    (hClause : hasOnClause statement = false)
    (hStart : isStatementStart step.line = true)
    {trigger : Text}
    (hOpen : openTrigger? statement = some trigger) :
    declaration? (statement ++ ' ' :: step.line.trim) =
      some ⟨trigger, step.line.trim.takeWhile isWord⟩ := by
  rw [declaration?_append_foreign hClause rfl
    (isForeign_trim_of_isStatementStart hStart), hOpen]

end SafeRerun

------------------------------------------------------------
-- Gathering Over Inserted Guards
------------------------------------------------------------

namespace SafeRerun

/-
  A guard is inserted below the statement at a place where
  its text names no table.  The condition is on the trigger
  of the declaration that the text leaves open there.
-/
def MeetsGuard
    (condition : Option Text → Prop)
    (statement : Text)
    (below : List Step) : Prop :=
  ∃ index,
    insertsAt below index = true ∧
      hasOnClause
          (grown statement
            ((below.take index).map Step.line)) = false ∧
        condition
          (openTrigger?
            (grown statement
              ((below.take index).map Step.line)))

/-
  A guard is inserted below the statement at a place where
  its text names no table and ends in no open declaration.
-/
def IsCutBelow
    (statement : Text)
    (below : List Step) : Prop :=
  ∃ index,
    insertsAt below index = true ∧
      hasOnClause
          (grown statement
            ((below.take index).map Step.line)) = false ∧
        openTrigger?
            (grown statement
              ((below.take index).map Step.line)) = none

/-
  A guard is inserted below the statement at a place where
  its text names no table and ends in an open declaration.
-/
def IsOpenBelow
    (statement : Text)
    (below : List Step) : Prop :=
  MeetsGuard (· ≠ none) statement below

theorem isCutBelow_iff
    {statement : Text}
    {below : List Step} :
    IsCutBelow statement below ↔
      MeetsGuard (· = none) statement below :=
  Iff.rfl

variable {condition : Option Text → Prop}

/- Without steps below no guard is met. -/
theorem not_meetsGuard_nil
    (statement : Text) :
    ¬ MeetsGuard condition statement [] := by
  rintro ⟨index, hInserts, -⟩
  simp [insertsAt] at hInserts

/- A text that names its table meets no guard below. -/
theorem not_meetsGuard_of_hasOnClause
    {statement : Text}
    (hClause : hasOnClause statement = true)
    (below : List Step) :
    ¬ MeetsGuard condition statement below := by
  intro hExists
  rcases hExists with ⟨index, -, hNot, -⟩
  rw [hasOnClause_grown hClause] at hNot
  contradiction

/- A step without a guard passes the question on. -/
theorem meetsGuard_cons_iff
    {statement : Text}
    {step : Step}
    {rest : List Step}
    (hGuard : step.guard = none) :
    MeetsGuard condition statement (step :: rest) ↔
      MeetsGuard condition
        (statement ++ ' ' :: step.line.trim) rest := by
  constructor
  · intro hExists
    rcases hExists with ⟨index, hInserts, hClause, hOpen⟩
    cases index with
    | zero =>
        simp [insertsAt, Step.inserts, hGuard] at hInserts
    | succ index =>
        exact ⟨index, by simpa [insertsAt] using hInserts,
          by simpa [grown] using hClause,
          by simpa [grown] using hOpen⟩
  · intro hExists
    rcases hExists with ⟨index, hInserts, hClause, hOpen⟩
    exact ⟨index + 1, by simpa [insertsAt] using hInserts,
      by simpa [grown] using hClause,
      by simpa [grown] using hOpen⟩

/- A guard directly below is met by a text without a table. -/
theorem meetsGuard_of_guard
    {statement : Text}
    {step : Step}
    {rest : List Step}
    (hClause : hasOnClause statement = false)
    (hInserts : step.inserts = true)
    (hEnds : condition (openTrigger? statement)) :
    MeetsGuard condition statement (step :: rest) :=
  ⟨0, by simpa [insertsAt] using hInserts,
    by simpa [grown] using hClause,
    by simpa [grown] using hEnds⟩

/-
  A guard directly below cuts the text unless it ends in an
  open declaration.
-/
theorem isCutBelow_guard_iff
    {statement : Text}
    {step : Step}
    {rest : List Step}
    (hClause : hasOnClause statement = false)
    (hStart : isStatementStart step.line = true)
    (hInserts : step.inserts = true) :
    IsCutBelow statement (step :: rest) ↔
      openTrigger? statement = none := by
  constructor
  · intro hExists
    rcases hExists with ⟨index, -, hNot, hNone⟩
    cases index with
    | zero =>
        simpa [grown] using hNone
    | succ index =>
        by_contra hSome
        rcases Option.ne_none_iff_exists'.mp hSome with
          ⟨trigger, hOpen⟩
        have hDeclares :=
          declaration?_append_start hClause hStart hOpen
        have hNamed :=
          hasOnClause_grown
            (hasOnClause_of_declaration? hDeclares)
            ((rest.take index).map Step.line)
        simp only [List.take_succ_cons, List.map_cons,
          grown, List.foldl_cons] at hNot
        rw [grown, hNot] at hNamed
        contradiction
  · intro hNone
    rw [isCutBelow_iff]
    exact meetsGuard_of_guard hClause hInserts hNone

/-
  What is declared after a pass was declared before it, of
  the same trigger and, unless a guard below takes the place
  of a start, of the same table.  The induction is on the
  steps below the statement; the first one that inserts a
  guard ends it.
-/
theorem exists_declared_of_linesOf
    {lookahead : Nat}
    {statement : Text}
    {below : List Step}
    {found : Declaration}
    (hSound : ∀ step ∈ below, step.IsSound)
    (hRead :
      readGathered
          (gather lookahead statement (linesOf below)) =
        .declared found) :
    ∃ declaration,
      readGathered
          (gather lookahead statement
            (below.map Step.line)) =
          .declared declaration ∧
        declaration.trigger = found.trigger ∧
          ((IsOpenBelow statement below ∧
              Spelled createWord declaration.table ∧
                found.table = dropWord) ∨
            (¬ IsOpenBelow statement below ∧
              declaration = found)) := by
  induction below generalizing lookahead statement with
  | nil =>
      exact ⟨found, hRead, rfl,
        Or.inr ⟨not_meetsGuard_nil statement, rfl⟩⟩
  | cons step rest ih =>
      have hFirst := hSound step (by simp)
      have hRest : ∀ s ∈ rest, s.IsSound :=
        fun s hMem => hSound s (by simp [hMem])
      cases hClause : hasOnClause statement with
      | true =>
          rw [gather_of_hasOnClause hClause] at hRead ⊢
          exact ⟨found, hRead, rfl, Or.inr
            ⟨not_meetsGuard_of_hasOnClause hClause _, rfl⟩⟩
      | false =>
          cases lookahead with
          | zero =>
              rw [gather_zero hClause (by
                simp [linesOf_cons, Step.lines])] at hRead
              simp [readGathered] at hRead
          | succ lookahead =>
              rw [linesOf_cons] at hRead
              rw [List.map_cons, gather_cons hClause]
              cases hGuard : step.guard with
              | none =>
                  simp only [Step.lines, hGuard,
                    Option.toList_none, List.nil_append,
                    List.singleton_append,
                    gather_cons hClause] at hRead
                  rw [IsOpenBelow, meetsGuard_cons_iff hGuard]
                  exact ih hRest hRead
              | some guard =>
                  -- The guard ends the gathered text.
                  simp only [Step.lines, hGuard,
                    Option.toList_some, List.cons_append,
                    List.nil_append,
                    gather_cons hClause] at hRead
                  rw [gather_of_hasOnClause
                    (hasOnClause_append_guard hFirst hGuard)]
                    at hRead
                  rcases readGathered_eq_declared_iff.mp hRead
                    with ⟨text, hText, hDeclares⟩
                  rw [Option.some.injEq] at hText
                  subst hText
                  rw [declaration?_append_guard hClause hFirst
                    hGuard, Option.map_eq_some_iff]
                    at hDeclares
                  rcases hDeclares with
                    ⟨trigger, hOpen, rfl⟩
                  have hStart := (hFirst guard hGuard).1
                  have hBefore :=
                    declaration?_append_start hClause hStart
                      hOpen
                  have hMeets :
                      IsOpenBelow statement (step :: rest) :=
                    meetsGuard_of_guard hClause
                      (by simp [Step.inserts, hGuard])
                      (by simp [hOpen])
                  refine ⟨_,
                    readGathered_eq_declared_iff.mpr
                      ⟨_, gather_of_hasOnClause
                        (hasOnClause_of_declaration? hBefore)
                        _ _, hBefore⟩, rfl, Or.inl ⟨hMeets,
                      ?_, rfl⟩⟩
                  exact
                    spelled_takeWhile_trim_of_isStatementStart
                      hStart

/-
  What is declared before a pass is still declared after it
  unless the text is cut.
-/
theorem exists_declared_linesOf_iff
    {lookahead : Nat}
    {statement : Text}
    {below : List Step}
    {declaration : Declaration}
    (hSound : ∀ step ∈ below, step.IsSound)
    (hRead :
      readGathered
          (gather lookahead statement
            (below.map Step.line)) =
        .declared declaration) :
    (∃ found,
      readGathered
          (gather lookahead statement (linesOf below)) =
        .declared found) ↔
      ¬ IsCutBelow statement below := by
  induction below generalizing lookahead statement with
  | nil =>
      constructor
      · rintro - ⟨index, hInserts, -, -⟩
        simp [insertsAt] at hInserts
      · intro _
        exact ⟨declaration, hRead⟩
  | cons step rest ih =>
      have hFirst := hSound step (by simp)
      have hRest : ∀ s ∈ rest, s.IsSound :=
        fun s hMem => hSound s (by simp [hMem])
      cases hClause : hasOnClause statement with
      | true =>
          rw [gather_of_hasOnClause hClause] at hRead ⊢
          constructor
          · intro _
            rw [isCutBelow_iff]
            exact not_meetsGuard_of_hasOnClause hClause _
          · intro _
            exact ⟨declaration, hRead⟩
      | false =>
          cases lookahead with
          | zero =>
              rw [gather_zero hClause (by simp)] at hRead
              simp [readGathered] at hRead
          | succ lookahead =>
              rw [List.map_cons, gather_cons hClause]
                at hRead
              rw [linesOf_cons]
              cases hGuard : step.guard with
              | none =>
                  simp only [Step.lines, hGuard,
                    Option.toList_none, List.nil_append,
                    List.singleton_append,
                    gather_cons hClause]
                  rw [isCutBelow_iff,
                    meetsGuard_cons_iff hGuard]
                  exact ih hRest hRead
              | some guard =>
                  simp only [Step.lines, hGuard,
                    Option.toList_some, List.cons_append,
                    List.nil_append, gather_cons hClause]
                  rw [isCutBelow_guard_iff hClause
                    (hFirst guard hGuard).1
                    (by simp [Step.inserts, hGuard])]
                  rw [gather_of_hasOnClause
                    (hasOnClause_append_guard hFirst
                      hGuard)]
                  simp only [readGathered_eq_declared_iff,
                    Option.some.injEq, exists_eq_left',
                    declaration?_append_guard hClause hFirst
                      hGuard]
                  cases openTrigger? statement with
                  | none =>
                      simp
                  | some trigger =>
                      simp

end SafeRerun

------------------------------------------------------------
-- Readings After a Pass
------------------------------------------------------------

namespace SafeRerun

/-
  The text of the lines from one index up to another, each
  trimmed and set off by a space.
-/
def joined
    (lines : List Text)
    (first last : Nat) :
    Text :=
  Text.joinWith [' ']
    (((lines.drop first).take (last - first)).map
      Text.trim)

/-
  A guard is inserted below the statement at an index where
  the text gathered so far names no table.  The condition is
  on the trigger of the declaration that the text leaves
  open there.
-/
def MeetsGuardAt
    (condition : Option Text → Prop)
    (lines : List Text)
    (passed : List Step)
    (index : Nat) : Prop :=
  ∃ place,
    index < place ∧ insertsAt passed place = true ∧
      hasOnClause (joined lines index place) = false ∧
        condition
          (openTrigger? (joined lines index place))

/-
  A guard is inserted below the statement at an index where
  the text gathered so far names no table and ends in no
  open declaration.
-/
def IsCut
    (lines : List Text)
    (passed : List Step)
    (index : Nat) : Prop :=
  ∃ place,
    index < place ∧ insertsAt passed place = true ∧
      hasOnClause (joined lines index place) = false ∧
        openTrigger? (joined lines index place) = none

/-
  A guard is inserted below the statement at an index where
  the text gathered so far names no table and ends in an
  open declaration.
-/
def IsLeftOpen
    (lines : List Text)
    (passed : List Step)
    (index : Nat) : Prop :=
  MeetsGuardAt (· ≠ none) lines passed index

variable {condition : Option Text → Prop}

/- Joining lines is growing the first one by the others. -/
theorem joinWith_eq_grown
    (statement : Text)
    (rest : List Text) :
    Text.joinWith [' '] (statement :: rest.map Text.trim) =
      grown statement rest := by
  induction rest generalizing statement with
  | nil =>
      simp [Text.joinWith, grown]
  | cons line rest ih =>
      have hNext := ih (statement ++ ' ' :: line.trim)
      rw [grown, List.foldl_cons, ← grown, ← hNext]
      unfold Text.joinWith
      rw [List.map_cons, List.intercalate_cons_cons]
      cases rest.map Text.trim with
      | nil =>
          simp
      | cons second others =>
          simp [List.intercalate_cons_cons]

/- The lines that follow a first one grow its text. -/
theorem joined_eq_grown
    {lines : List Text}
    {index : Nat}
    {line : Text}
    {below : List Text}
    (hLines : lines.drop index = line :: below)
    (count : Nat) :
    joined lines index (index + count + 1) =
      grown line.trim (below.take count) := by
  have hCount : index + count + 1 - index = count + 1 := by
    omega
  rw [← joinWith_eq_grown, joined, hCount, hLines,
    List.take_succ_cons, List.map_cons]

theorem drop_map_line
    {passed : List Step}
    {step : Step}
    {index : Nat}
    (hStep : passed[index]? = some step) :
    (passed.map Step.line).drop index =
      step.line ::
        (passed.drop (index + 1)).map Step.line := by
  rcases List.getElem?_eq_some_iff.mp hStep with
    ⟨hIndex, rfl⟩
  rw [← List.map_drop, List.drop_eq_getElem_cons hIndex,
    List.map_cons]

/- The guards met at a line are those met below it. -/
theorem meetsGuardAt_iff
    {passed : List Step}
    {step : Step}
    {index : Nat}
    (hStep : passed[index]? = some step) :
    MeetsGuardAt condition (passed.map Step.line) passed
        index ↔
      MeetsGuard condition step.line.trim
        (passed.drop (index + 1)) := by
  have hJoined :
      ∀ offset,
        joined (passed.map Step.line) index
            (index + 1 + offset) =
          grown step.line.trim
            (((passed.drop (index + 1)).take offset).map
              Step.line) := by
    intro offset
    have hPlace : index + 1 + offset = index + offset + 1 := by
      omega
    rw [hPlace, joined_eq_grown (drop_map_line hStep),
      List.map_take]
  constructor
  · intro hExists
    rcases hExists with
      ⟨place, hBelow, hInserts, hClause, hOpen⟩
    rcases Nat.exists_eq_add_of_lt hBelow with
      ⟨offset, hPlace⟩
    have hSame : place = index + 1 + offset := by omega
    subst hSame
    rw [hJoined] at hClause hOpen
    refine ⟨offset, ?_, hClause, hOpen⟩
    simpa [insertsAt] using hInserts
  · intro hExists
    rcases hExists with ⟨offset, hInserts, hClause, hOpen⟩
    refine ⟨index + 1 + offset, by omega, ?_, ?_, ?_⟩
    · simpa [insertsAt] using hInserts
    · rw [hJoined]
      exact hClause
    · rw [hJoined]
      exact hOpen

theorem isCut_iff
    {passed : List Step}
    {step : Step}
    {index : Nat}
    (hStep : passed[index]? = some step) :
    IsCut (passed.map Step.line) passed index ↔
      IsCutBelow step.line.trim
        (passed.drop (index + 1)) := by
  rw [isCutBelow_iff, ← meetsGuardAt_iff hStep]
  rfl

variable {bounds : Bounds}
variable {lines : List Text}
variable {index : Nat}

/- What is read at a line that starts a statement. -/
theorem readAt_of_isStatementStart
    {lookahead : Nat}
    {line : Text}
    {below : List Text}
    (hLines : lines.drop index = line :: below)
    (hStart : isStatementStart line = true) :
    readAt lookahead lines index =
      readGathered (gather lookahead line.trim below) := by
  rw [readAt, hLines, readFirst, if_pos hStart]

/-
  A pass keeps the trigger of every statement: what is
  declared at the position of a line was declared at the
  line, of the same trigger.  The table is kept as well,
  unless the statement is left open at a guard: it then read
  CREATE before the pass and reads DROP after it.
-/
theorem exists_declared_of_readAt_position
    {passed : List Step}
    {step : Step}
    {lookahead : Nat}
    {found : Declaration}
    (hSound : ∀ s ∈ passed, s.IsSound)
    (hStep : passed[index]? = some step)
    (hRead :
      readAt lookahead (linesOf passed)
          (position passed index) =
        .declared found) :
    ∃ declaration,
      readAt lookahead (passed.map Step.line) index =
          .declared declaration ∧
        declaration.trigger = found.trigger ∧
          ((IsLeftOpen (passed.map Step.line) passed index ∧
              Spelled createWord declaration.table ∧
                found.table = dropWord) ∨
            (¬ IsLeftOpen (passed.map Step.line) passed
                index ∧
              declaration = found)) := by
  have hAfter := drop_position hStep
  have hBefore := drop_map_line hStep
  rcases readAt_eq_declared hRead with
    ⟨line, hLine, hStart, -⟩
  rw [getElem?_position hStep, Option.some.injEq] at hLine
  subst hLine
  rw [readAt_of_isStatementStart hAfter hStart] at hRead
  rw [readAt_of_isStatementStart hBefore hStart,
    IsLeftOpen, meetsGuardAt_iff hStep]
  exact exists_declared_of_linesOf
    (fun s hMem => hSound s (List.mem_of_mem_drop hMem))
    hRead

theorem readAt_position_trigger
    {passed : List Step}
    {step : Step}
    {lookahead : Nat}
    {found : Declaration}
    (hSound : ∀ s ∈ passed, s.IsSound)
    (hStep : passed[index]? = some step)
    (hRead :
      readAt lookahead (linesOf passed)
          (position passed index) =
        .declared found) :
    ∃ declaration,
      readAt lookahead (passed.map Step.line) index =
          .declared declaration ∧
        declaration.trigger = found.trigger := by
  rcases exists_declared_of_readAt_position hSound hStep
      hRead with ⟨declaration, hBefore, hTrigger, -⟩
  exact ⟨declaration, hBefore, hTrigger⟩

theorem readAt_position_iff
    {passed : List Step}
    {step : Step}
    {lookahead : Nat}
    {declaration : Declaration}
    (hSound : ∀ s ∈ passed, s.IsSound)
    (hStep : passed[index]? = some step)
    (hRead :
      readAt lookahead (passed.map Step.line) index =
          .declared declaration) :
    (∃ found,
      readAt lookahead (linesOf passed)
          (position passed index) =
        .declared found) ↔
      ¬ IsCut (passed.map Step.line) passed index := by
  have hAfter := drop_position hStep
  have hBefore := drop_map_line hStep
  rcases readAt_eq_declared hRead with
    ⟨line, hLine, hStart, -⟩
  rw [List.getElem?_map, hStep, Option.map_some,
    Option.some.injEq] at hLine
  subst hLine
  rw [readAt_of_isStatementStart hBefore hStart] at hRead
  simp only [readAt_of_isStatementStart hAfter hStart]
  rw [isCut_iff hStep]
  exact exists_declared_linesOf_iff
    (fun s hMem => hSound s (List.mem_of_mem_drop hMem))
    hRead

end SafeRerun
