import SafeRerun.Proofs.Pass.Reading
import SafeRerun.Proofs.Script.Choice

/-
  What is declared at a line, said without the loop that
  gathers lines.

  Key definitions include:
    * `SafeRerun.NamesTableAfter`
    * `SafeRerun.DeclaresAt`
    * `SafeRerun.readByMachine`

  Key theorems include:
    * `SafeRerun.readGathered_eq_declared_iff_after`
    * `SafeRerun.readAt_agrees_with_patterns`

  Gathering ends at the least number of lines whose text
  names a table.  A text that names none declares nothing,
  so what is gathered up to the end of a script in vain is
  of no account.  The bounds of the loop are kept in machine
  words, and none of their sums is too large for a word.
-/

------------------------------------------------------------
-- The Least Number of Lines
------------------------------------------------------------

namespace SafeRerun

/-
  The text of a statement first names a table when this many
  of the lines below it are gathered.
-/
structure NamesTableAfter
    (statement : Text)
    (below : List Text)
    (count : Nat) : Prop where
  inside : count ≤ below.length
  named :
    hasOnClause (grown statement (below.take count)) = true
  least :
    ∀ fewer < count,
      hasOnClause (grown statement (below.take fewer)) =
        false

variable {statement : Text}
variable {below : List Text}
variable {count : Nat}

/- A text that names a table needs no further line. -/
theorem namesTableAfter_iff_of_hasOnClause
    (hClause : hasOnClause statement = true) :
    NamesTableAfter statement below count ↔ count = 0 := by
  constructor
  · intro hAfter
    by_contra hSome
    have hNone :=
      hAfter.least 0 (Nat.pos_of_ne_zero hSome)
    rw [List.take_zero, grown, List.foldl_nil, hClause]
      at hNone
    contradiction
  · rintro rfl
    exact ⟨Nat.zero_le _, hClause, by simp⟩

/- A text that names none needs one line more than the next. -/
theorem namesTableAfter_cons_iff
    (hClause : hasOnClause statement = false)
    (line : Text)
    (rest : List Text) :
    NamesTableAfter statement (line :: rest) count ↔
      ∃ more,
        count = more + 1 ∧
          NamesTableAfter (statement ++ ' ' :: line.trim)
            rest more := by
  constructor
  · rintro ⟨hInside, hNamed, hLeast⟩
    cases count with
    | zero =>
        rw [List.take_zero, grown, List.foldl_nil, hClause]
          at hNamed
        contradiction
    | succ more =>
        refine ⟨more, rfl, Nat.le_of_succ_le_succ hInside,
          hNamed, fun fewer hFewer => ?_⟩
        exact hLeast (fewer + 1) (Nat.succ_lt_succ hFewer)
  · rintro ⟨more, rfl, hInside, hNamed, hLeast⟩
    refine ⟨Nat.succ_le_succ hInside, hNamed, ?_⟩
    intro fewer hFewer
    cases fewer with
    | zero =>
        exact hClause
    | succ fewer =>
        exact hLeast fewer (Nat.lt_of_succ_lt_succ hFewer)

/- A text that names a table is read as it is. -/
theorem readGathered_eq_declared_of_hasOnClause
    (hClause : hasOnClause statement = true)
    {lookahead : Nat}
    {declaration : Declaration} :
    readGathered (gather lookahead statement below) =
        .declared declaration ↔
      ∃ count,
        count ≤ lookahead ∧
          NamesTableAfter statement below count ∧
            declaration?
                (grown statement (below.take count)) =
              some declaration := by
  simp only [gather_of_hasOnClause hClause,
    namesTableAfter_iff_of_hasOnClause hClause,
    readGathered_eq_declared_iff, Option.some.injEq,
    exists_eq_left']
  constructor
  · intro hDeclares
    exact ⟨0, Nat.zero_le _, rfl, hDeclares⟩
  · rintro ⟨count, -, rfl, hDeclares⟩
    exact hDeclares

/-
  A statement declares what its text does once it names a
  table, if this is so within the lookahead.  The induction
  is on the lines below; each one that is gathered uses up
  one of the lookahead.
-/
theorem readGathered_eq_declared_iff_after
    {lookahead : Nat}
    {declaration : Declaration} :
    readGathered (gather lookahead statement below) =
        .declared declaration ↔
      ∃ count,
        count ≤ lookahead ∧
          NamesTableAfter statement below count ∧
            declaration?
                (grown statement (below.take count)) =
              some declaration := by
  induction below generalizing lookahead statement with
  | nil =>
      cases hClause : hasOnClause statement with
      | true =>
          exact readGathered_eq_declared_of_hasOnClause
            hClause
      | false =>
          -- Nothing is named, so nothing is declared.
          have hNever :
              declaration? statement ≠
                some declaration := by
            intro hDeclares
            rw [hasOnClause_of_declaration? hDeclares]
              at hClause
            contradiction
          simp only [gather, readGathered_eq_declared_iff,
            Option.some.injEq, exists_eq_left',
            List.take_nil, grown, List.foldl_nil]
          constructor
          · intro hDeclares
            exact absurd hDeclares hNever
          · rintro ⟨count, -, -, hDeclares⟩
            exact hDeclares
  | cons line rest ih =>
      cases hClause : hasOnClause statement with
      | true =>
          exact readGathered_eq_declared_of_hasOnClause
            hClause
      | false =>
          simp only [namesTableAfter_cons_iff hClause]
          cases lookahead with
          | zero =>
              rw [gather_zero hClause (by simp)]
              constructor
              · intro hRead
                simp [readGathered] at hRead
              · rintro ⟨count, hBound, ⟨more, rfl, -⟩, -⟩
                simp at hBound
          | succ lookahead =>
              rw [gather_cons hClause, ih]
              constructor
              · rintro ⟨more, hBound, hAfter, hDeclares⟩
                exact ⟨more + 1,
                  Nat.succ_le_succ hBound,
                  ⟨more, rfl, hAfter⟩, hDeclares⟩
              · rintro ⟨count, hBound,
                  ⟨more, rfl, hAfter⟩, hDeclares⟩
                exact ⟨more, Nat.le_of_succ_le_succ hBound,
                  hAfter, hDeclares⟩

end SafeRerun

------------------------------------------------------------
-- Declarations by Pattern
------------------------------------------------------------

namespace SafeRerun

variable {lines : List Text}
variable {index count : Nat}

/-
  The text of the lines from the index on first matches a
  clause that names a table when it reaches this many lines
  below.
-/
structure IsFirstClause
    (lines : List Text)
    (index count : Nat) : Prop where
  inside : index + count < lines.length
  clause :
    onPhrase.leftmost?
        (joined lines index (index + count + 1)) ≠ none
  first :
    ∀ fewer < count,
      onPhrase.leftmost?
          (joined lines index (index + fewer + 1)) = none

/-
  What a script declares at a line: the line starts a
  statement, a clause that names a table is reached within
  the lookahead, and the text up to there declares it.
-/
structure DeclaresAt
    (lookahead : Nat)
    (lines : List Text)
    (index : Nat)
    (declaration : Declaration) : Prop where
  starts :
    ∃ line,
      lines[index]? = some line ∧ startPhrase.ways line ≠ []
  declares :
    ∃ count,
      count ≤ lookahead ∧ IsFirstClause lines index count ∧
        declarationPhrase.leftmost?
            (joined lines index (index + count + 1)) =
          some [declaration.trigger, declaration.table]

theorem hasOnClause_iff
    {t : Text} :
    hasOnClause t = true ↔
      onPhrase.leftmost? t ≠ none := by
  rw [hasOnClause, Phrase.occursIn,
    Phrase.find?_eq_leftmost? onPhrase_isDirect,
    Option.isSome_iff_ne_none]

theorem hasOnClause_eq_false_iff
    {t : Text} :
    hasOnClause t = false ↔
      onPhrase.leftmost? t = none := by
  rw [Bool.eq_false_iff, ne_eq, hasOnClause_iff, not_not]

theorem declaration?_eq_some_iff
    {t : Text}
    {declaration : Declaration} :
    declaration? t = some declaration ↔
      declarationPhrase.leftmost? t =
        some [declaration.trigger, declaration.table] := by
  rw [declaration?,
    Phrase.find?_eq_leftmost? declarationPhrase_isDirect]
  constructor
  · intro hDeclares
    split at hDeclares
    · rename_i trigger table hFound
      rw [Option.some.injEq] at hDeclares
      rw [hFound, ← hDeclares]
    · simp at hDeclares
  · intro hFound
    simp only [hFound]

theorem isFirstClause_iff
    {line : Text}
    {below : List Text}
    (hLines : lines.drop index = line :: below) :
    IsFirstClause lines index count ↔
      NamesTableAfter line.trim below count := by
  have hLength : lines.length = index + below.length + 1 := by
    have hDropped := congrArg List.length hLines
    rw [List.length_drop, List.length_cons] at hDropped
    omega
  constructor
  · rintro ⟨hInside, hClause, hFirst⟩
    refine ⟨by omega, ?_, fun fewer hFewer => ?_⟩
    · rw [hasOnClause_iff, ← joined_eq_grown hLines]
      exact hClause
    · rw [hasOnClause_eq_false_iff,
        ← joined_eq_grown hLines]
      exact hFirst fewer hFewer
  · rintro ⟨hInside, hNamed, hLeast⟩
    refine ⟨by omega, ?_, fun fewer hFewer => ?_⟩
    · rw [joined_eq_grown hLines, ← hasOnClause_iff]
      exact hNamed
    · rw [joined_eq_grown hLines,
        ← hasOnClause_eq_false_iff]
      exact hLeast fewer hFewer

/- What is read at a line is what the patterns say of it. -/
theorem readAt_eq_declared_iff
    {lookahead : Nat}
    {declaration : Declaration} :
    readAt lookahead lines index = .declared declaration ↔
      DeclaresAt lookahead lines index declaration := by
  cases hLines : lines.drop index with
  | nil =>
      have hNone : lines[index]? = none := by
        rw [← List.head?_drop, hLines, List.head?_nil]
      constructor
      · intro hRead
        simp [readAt, hLines, readFirst] at hRead
      · rintro ⟨⟨line, hLine, -⟩, -⟩
        simp [hNone] at hLine
  | cons line below =>
      have hLine : lines[index]? = some line := by
        rw [← List.head?_drop, hLines, List.head?_cons]
      have hStarts :
          isStatementStart line = true ↔
            startPhrase.ways line ≠ [] :=
        Phrase.startsIn_iff startPhrase_isDirect line
      constructor
      · intro hRead
        rcases readAt_eq_declared hRead with
          ⟨first, hFirst, hStart, -⟩
        rw [hLine, Option.some.injEq] at hFirst
        subst hFirst
        rw [readAt_of_isStatementStart hLines hStart,
          readGathered_eq_declared_iff_after] at hRead
        rcases hRead with
          ⟨count, hBound, hAfter, hDeclares⟩
        refine ⟨⟨line, hLine, hStarts.mp hStart⟩, count,
          hBound, (isFirstClause_iff hLines).mpr hAfter, ?_⟩
        rw [joined_eq_grown hLines,
          ← declaration?_eq_some_iff]
        exact hDeclares
      · rintro ⟨⟨first, hFirst, hStart⟩, count, hBound,
          hClause, hDeclares⟩
        rw [hLine, Option.some.injEq] at hFirst
        subst hFirst
        rw [readAt_of_isStatementStart hLines
            (hStarts.mpr hStart),
          readGathered_eq_declared_iff_after]
        refine ⟨count, hBound,
          (isFirstClause_iff hLines).mp hClause, ?_⟩
        rw [declaration?_eq_some_iff,
          ← joined_eq_grown hLines]
        exact hDeclares

end SafeRerun

------------------------------------------------------------
-- Bounds in Machine Words
------------------------------------------------------------

namespace SafeRerun

variable {lines : List Text}

/- The sum of two words, if it is one. -/
def machineSum?
    (a b : UInt64) :
    Option UInt64 :=
  if a.toNat + b.toNat < UInt64.size then
    some (a + b)
  else
    none

/- The sum of two words, or the largest word. -/
def saturatedSum
    (a b : UInt64) :
    UInt64 :=
  (machineSum? a b).getD (UInt64.ofNat (UInt64.size - 1))

theorem toNat_of_machineSum?
    {a b sum : UInt64}
    (hSum : machineSum? a b = some sum) :
    sum.toNat = a.toNat + b.toNat := by
  unfold machineSum? at hSum
  split at hSum
  · rename_i hFits
    rw [Option.some.injEq] at hSum
    rw [← hSum, UInt64.toNat_add]
    exact Nat.mod_eq_of_lt hFits
  · simp at hSum

theorem toNat_saturatedSum
    (a b : UInt64) :
    (saturatedSum a b).toNat =
      min (a.toNat + b.toNat) (UInt64.size - 1) := by
  unfold saturatedSum
  cases hSum : machineSum? a b with
  | some sum =>
      have hWord := sum.toNat_lt_size
      rw [Option.getD_some]
      rw [toNat_of_machineSum? hSum] at hWord ⊢
      omega
  | none =>
      simp only [machineSum?, ite_eq_right_iff, reduceCtorEq,
        imp_false] at hSum
      rw [Option.getD_none, UInt64.toNat_ofNat_of_lt']
      · omega
      · simp [UInt64.size]

/-
  Gathering with the indices of a script in machine words:
  the next line, and the last one that may be looked at.
  Nothing results when an index is too large for a word.
-/
def gatherByMachine
    (lines : List Text)
    (limit : UInt64)
    (statement : Text)
    (next : UInt64) :
    Option (Option Text) :=
  if hasOnClause statement then
    some (some statement)
  else
    match _hLine : lines[next.toNat]? with
    | none => some (some statement)
    | some line =>
        if limit < next then
          some none
        else
          match _hSum : machineSum? next 1 with
          | none => none
          | some after =>
              gatherByMachine lines limit
                (statement ++ ' ' :: line.trim) after
termination_by lines.length - next.toNat
decreasing_by
  have hAfter := toNat_of_machineSum? _hSum
  rcases List.getElem?_eq_some_iff.mp _hLine with
    ⟨hInside, -⟩
  simp at hAfter
  omega

/-
  The reading of a script at a line, with every index and
  bound in a machine word.
-/
def readByMachine
    (lookahead : UInt64)
    (lines : List Text)
    (index : UInt64) :
    Option Reading :=
  match lines[index.toNat]? with
  | none => some .noStatement
  | some line =>
      if isStatementStart line then
        match machineSum? index 1 with
        | none => none
        | some next =>
            (gatherByMachine lines
              (saturatedSum index lookahead) line.trim
              next).map readGathered
      else
        some .noStatement

/- From a line on there are the line and those below it. -/
theorem drop_eq_cons_of_getElem?
    {index : Nat}
    {line : Text}
    (hLine : lines[index]? = some line) :
    lines.drop index = line :: lines.drop (index + 1) := by
  rw [List.drop_eq_getElem?_toList_append, hLine]
  rfl

/- A lookahead beyond the last line is as good as any. -/
theorem gather_of_length_le
    {lookahead : Nat}
    {statement : Text}
    {below : List Text}
    (hReach : below.length ≤ lookahead) :
    gather lookahead statement below =
      gather below.length statement below := by
  induction below generalizing lookahead statement with
  | nil =>
      simp [gather]
  | cons line rest ih =>
      cases hClause : hasOnClause statement with
      | true =>
          simp only [gather_of_hasOnClause hClause]
      | false =>
          rw [List.length_cons] at hReach ⊢
          rcases Nat.exists_eq_add_of_le' hReach with
            ⟨more, rfl⟩
          rw [← Nat.add_assoc, gather_cons hClause,
            gather_cons hClause]
          exact ih (Nat.le_add_left rest.length more)

/- One round of the loop in machine words. -/
theorem gatherByMachine_of_line
    {limit next after : UInt64}
    {statement line : Text}
    (hClause : ¬ hasOnClause statement = true)
    (hLine : lines[next.toNat]? = some line)
    (hLimit : ¬ limit < next)
    (hSum : machineSum? next 1 = some after) :
    gatherByMachine lines limit statement next =
      gatherByMachine lines limit
        (statement ++ ' ' :: line.trim) after := by
  rw [gatherByMachine, if_neg hClause]
  split
  · simp_all
  · rename_i found hFound
    rw [hLine, Option.some.injEq] at hFound
    subst hFound
    rw [if_neg hLimit]
    split
    · simp_all
    · rename_i sum hFound
      rw [hSum, Option.some.injEq] at hFound
      rw [hFound]

/-
  No index of the loop is too large for a word, and the loop
  gathers as many lines as its limit leaves.
-/
theorem gatherByMachine_eq
    (hFits : lines.length < UInt64.size)
    (limit : UInt64)
    (statement : Text)
    (next : UInt64) :
    gatherByMachine lines limit statement next =
      some (gather (limit.toNat + 1 - next.toNat) statement
        (lines.drop next.toNat)) := by
  induction statement, next using
      gatherByMachine.induct lines limit with
  | case1 statement next hClause =>
      rw [gatherByMachine, if_pos hClause,
        gather_of_hasOnClause hClause]
  | case2 statement next hClause hNone =>
      have hEnd : lines.drop next.toNat = [] :=
        List.drop_eq_nil_of_le
          (List.getElem?_eq_none_iff.mp hNone)
      rw [gatherByMachine, if_neg hClause, hEnd, gather]
      split <;> simp_all
  | case3 statement next hClause line hLine hLimit =>
      have hBelow := drop_eq_cons_of_getElem? hLine
      have hUsed : limit.toNat + 1 - next.toNat = 0 := by
        rw [UInt64.lt_iff_toNat_lt] at hLimit
        omega
      rw [gatherByMachine, if_neg hClause, hUsed, hBelow,
        gather_zero (by simpa using hClause) (by simp)]
      split <;> simp_all
  | case4 statement next hClause line hLine hLimit hSum =>
      -- The next line exists, so its index is a word.
      rcases List.getElem?_eq_some_iff.mp hLine with
        ⟨hInside, -⟩
      simp [machineSum?] at hSum
      omega
  | case5 statement next hClause line hLine hLimit after
      hSum ih =>
      have hAfter := toNat_of_machineSum? hSum
      have hBelow := drop_eq_cons_of_getElem? hLine
      have hLeft :
          limit.toNat + 1 - next.toNat =
            limit.toNat + 1 - after.toNat + 1 := by
        rw [UInt64.lt_iff_toNat_lt, not_lt] at hLimit
        simp at hAfter
        omega
      rw [gatherByMachine_of_line hClause hLine hLimit hSum,
        ih, hLeft, hBelow,
        gather_cons (by simpa using hClause), hAfter]
      rfl

/- A limit that is cut off still reaches the last line. -/
theorem gather_saturatedSum
    (hFits : lines.length < UInt64.size)
    (lookahead index : UInt64)
    (statement : Text) :
    gather
        ((saturatedSum index lookahead).toNat + 1 -
          (index.toNat + 1))
        statement (lines.drop (index.toNat + 1)) =
      gather lookahead.toNat statement
        (lines.drop (index.toNat + 1)) := by
  have hLimit := toNat_saturatedSum index lookahead
  by_cases hCut :
      index.toNat + lookahead.toNat < UInt64.size
  · have hLeft :
        (saturatedSum index lookahead).toNat + 1 -
            (index.toNat + 1) =
          lookahead.toNat := by
      omega
    rw [hLeft]
  · have hLength :
        (lines.drop (index.toNat + 1)).length =
          lines.length - (index.toNat + 1) :=
      List.length_drop
    have hReach :
        (lines.drop (index.toNat + 1)).length ≤
          lookahead.toNat := by
      omega
    rw [gather_of_length_le hReach,
      gather_of_length_le (by omega)]

/- Words hold every index and bound of a reading. -/
theorem readByMachine_eq
    (hFits : lines.length < UInt64.size)
    (lookahead index : UInt64) :
    readByMachine lookahead lines index =
      some (readAt lookahead.toNat lines index.toNat) := by
  cases hLine : lines[index.toNat]? with
  | none =>
      have hEnd : lines.drop index.toNat = [] :=
        List.drop_eq_nil_of_le
          (List.getElem?_eq_none_iff.mp hLine)
      simp [readByMachine, hLine, readAt, hEnd, readFirst]
  | some line =>
      have hBelow := drop_eq_cons_of_getElem? hLine
      rcases List.getElem?_eq_some_iff.mp hLine with
        ⟨hInside, -⟩
      simp only [readByMachine, hLine]
      cases hStart : isStatementStart line with
      | false =>
          simp [readAt, hBelow, readFirst, hStart]
      | true =>
          rw [readAt_of_isStatementStart hBelow hStart,
            if_pos rfl]
          cases hSum : machineSum? index 1 with
          | none =>
              simp [machineSum?] at hSum
              omega
          | some next =>
              have hNext := toNat_of_machineSum? hSum
              rw [UInt64.toNat_one] at hNext
              simp only [gatherByMachine_eq hFits, hNext,
                gather_saturatedSum hFits, Option.map_some]

/-
  What a script declares at a line is what the patterns say
  of it, and the reading takes no index or bound that is too
  large for a machine word.
-/
theorem readAt_agrees_with_patterns
    (lines : List Text) :
    (∀ lookahead index declaration,
      (readAt lookahead lines index).declaration? =
          some declaration ↔
        DeclaresAt lookahead lines index declaration) ∧
      (lines.length < UInt64.size →
        ∀ lookahead index : UInt64,
          readByMachine lookahead lines index =
            some (readAt lookahead.toNat lines
              index.toNat)) := by
  refine ⟨fun lookahead index declaration => ?_,
    readByMachine_eq⟩
  rw [← readAt_eq_declared_iff]
  cases readAt lookahead lines index <;>
    simp [Reading.declaration?]

/-
  A statement over two lines, read with the largest bound
  that a machine word can hold.
-/
theorem readAt_agrees_with_patterns_largest :
    readByMachine (UInt64.ofNat (UInt64.size - 1))
        [Text.ofString "CREATE TRIGGER audit\n",
          Text.ofString "  ON orders;\n"] 0 =
      some (.declared ⟨Text.ofString "audit",
        Text.ofString "orders"⟩) := by
  rw [(readAt_agrees_with_patterns _).2 (by decide)]
  decide +kernel

end SafeRerun
