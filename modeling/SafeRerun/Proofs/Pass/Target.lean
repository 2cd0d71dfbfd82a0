import SafeRerun.Proofs.Pass.Layout

/-
  The target of a statement that creates a trigger, and the
  table that is taken from it.

  Key definitions include:
    * `SafeRerun.endsTarget`
    * `SafeRerun.Creation`
    * `SafeRerun.Creation.declared`
    * `SafeRerun.CreatesAt`

  Key theorems include:
    * `SafeRerun.declaration?_eq_some_iff_creation`
    * `SafeRerun.readAt_eq_declared_iff_createsAt`
    * `SafeRerun.declared_table_isWhole_iff`

  The target of a statement goes from the word ON to the
  next blank, semicolon, parenthesis or comma.  A reading
  takes the word that the target begins with for the table,
  whatever the target goes on with.
-/

------------------------------------------------------------
-- Statements with a Target
------------------------------------------------------------

namespace SafeRerun

/- A character that no target goes over. -/
def endsTarget
    (c : Char) :
    Bool :=
  isBlank c || c == ';' || c == '(' || c == ')' || c == ','

/- What ends a target is no part of a word. -/
theorem isWord_eq_false_of_endsTarget
    {c : Char}
    (hEnds : endsTarget c = true) :
    isWord c = false := by
  simp only [endsTarget, Bool.or_eq_true, beq_iff_eq]
    at hEnds
  rcases hEnds with (((hBlank | rfl) | rfl) | rfl) | rfl
  · exact isWord_eq_false_of_isBlank hBlank
  · decide
  · decide
  · decide
  · decide

/-
  A text that begins with the statement of a trigger on a
  target.  The target begins with a word and goes as far as
  nothing ends it.
-/
structure Creation where
  create : Text
  inside : Gap
  keyword : Text
  behindKeyword : Gap
  trigger : Text
  behindTrigger : Gap
  on : Text
  behindOn : Gap
  target : Text
  rest : Text
  createSpelled : Spelled createWord create
  keywordSpelled : Spelled triggerWord keyword
  onSpelled : Spelled onWord on
  named : IsWordRun trigger
  begun : target.takeWhile isWord ≠ []
  whole : ∀ c ∈ target, endsTarget c = false
  ended : StartsOutside (fun c => !endsTarget c) rest

namespace Creation

/- The statement up to its target. -/
def front
    (creation : Creation) :
    Text :=
  creation.create ++ (creation.inside.text ++
    (creation.keyword ++ (creation.behindKeyword.text ++
      (creation.trigger ++ (creation.behindTrigger.text ++
        (creation.on ++ creation.behindOn.text))))))

/- The text that begins with the statement. -/
def text
    (creation : Creation) :
    Text :=
  creation.front ++ (creation.target ++ creation.rest)

/- What the statement is taken to declare. -/
def declared
    (creation : Creation) :
    Declaration :=
  ⟨creation.trigger, creation.target.takeWhile isWord⟩

variable (creation : Creation)

/- The word that a target begins with ends with the word. -/
theorem startsOutside_behind :
    StartsOutside isWord
      (creation.target.dropWhile isWord ++
        creation.rest) := by
  by_cases hNone : creation.target.dropWhile isWord = []
  · rw [hNone, List.nil_append]
    intro c hHead
    exact isWord_eq_false_of_endsTarget
      (by simpa using creation.ended c hHead)
  · exact (startsOutside_dropWhile isWord _).append hNone _

/- A statement is read with the word its target begins with. -/
theorem read_text :
    declarationPhrase.read creation.text =
      some ([creation.trigger,
          creation.target.takeWhile isWord],
        creation.target.dropWhile isWord ++
          creation.rest) := by
  have hTable :
      IsWordRun (creation.target.takeWhile isWord) :=
    ⟨creation.begun,
      fun c hMem => List.mem_takeWhile_imp hMem⟩
  have hTarget :
      creation.target ++ creation.rest =
        creation.target.takeWhile isWord ++
          (creation.target.dropWhile isWord ++
            creation.rest) := by
    rw [← List.append_assoc,
      List.takeWhile_append_dropWhile]
  refine read_declarationPhrase_iff.mpr
    ⟨creation.trigger, creation.target.takeWhile isWord,
      creation.behindTrigger.text ++ (creation.on ++
        (creation.behindOn.text ++
          (creation.target ++ creation.rest))), rfl, ?_, ?_⟩
  · exact read_headPhrase_iff.mpr
      ⟨creation.create, creation.inside.text,
        creation.keyword, creation.behindKeyword.text,
        creation.createSpelled, creation.inside.nonempty,
        creation.inside.blank, creation.keywordSpelled,
        creation.behindKeyword.nonempty,
        creation.behindKeyword.blank, creation.named,
        creation.behindTrigger.blank.startsOutside_isWord
          creation.behindTrigger.nonempty _,
        by simp [text, front]⟩
  · exact read_onPhrase_iff.mpr
      ⟨creation.behindTrigger.text, creation.on,
        creation.behindOn.text,
        creation.behindTrigger.nonempty,
        creation.behindTrigger.blank, creation.onSpelled,
        creation.behindOn.nonempty,
        creation.behindOn.blank, hTable,
        creation.startsOutside_behind, by rw [hTarget]⟩

end Creation

/- Where a declaration is read, a statement begins. -/
theorem exists_creation_of_read
    {t after : Text}
    {names : List Text}
    (hRead : declarationPhrase.read t = some (names, after)) :
    ∃ creation : Creation, creation.text = t := by
  rcases read_declarationPhrase_iff.mp hRead with
    ⟨trigger, table, clause, -, hHead, hOnRead⟩
  rcases read_headPhrase_iff.mp hHead with
    ⟨create, gap₁, keyword, gap₂, hCreate, hGap₁, hBlank₁,
      hKeyword, hGap₂, hBlank₂, hTrigger, -, rfl⟩
  rcases read_onPhrase_iff.mp hOnRead with
    ⟨gap₃, on, gap₄, hGap₃, hBlank₃, hOn, hGap₄, hBlank₄,
      hTable, -, rfl⟩
  -- The target has the table for its beginning.
  have hInside : ∀ c ∈ table, (!endsTarget c) = true := by
    intro c hMem
    by_contra hEnds
    have hApart :=
      isWord_eq_false_of_endsTarget (c := c)
        (by simpa using hEnds)
    rw [hTable.2 c hMem] at hApart
    contradiction
  have hBegun :
      ((table ++ after).takeWhile fun c =>
        !endsTarget c).takeWhile isWord ≠ [] := by
    rw [List.takeWhile_append_of_pos hInside,
      List.takeWhile_append_of_pos hTable.2]
    simp [hTable.1]
  refine ⟨{
    create := create
    inside := ⟨gap₁, hGap₁, hBlank₁⟩
    keyword := keyword
    behindKeyword := ⟨gap₂, hGap₂, hBlank₂⟩
    trigger := trigger
    behindTrigger := ⟨gap₃, hGap₃, hBlank₃⟩
    on := on
    behindOn := ⟨gap₄, hGap₄, hBlank₄⟩
    target := (table ++ after).takeWhile fun c => !endsTarget c
    rest := (table ++ after).dropWhile fun c => !endsTarget c
    createSpelled := hCreate
    keywordSpelled := hKeyword
    onSpelled := hOn
    named := hTrigger
    begun := hBegun
    whole := fun c hMem => by
      simpa using List.mem_takeWhile_imp hMem
    ended := startsOutside_dropWhile _ _ }, ?_⟩
  simp [Creation.text, Creation.front]

/- A text begins with a statement of one kind only. -/
theorem Creation.eq_of_text_eq
    {creation other : Creation}
    (hText : creation.text = other.text) :
    creation.trigger = other.trigger ∧
      creation.target = other.target := by
  have hRead := creation.read_text
  rw [hText, other.read_text, Option.some.injEq,
    Prod.mk.injEq, List.cons.injEq, List.cons.injEq]
    at hRead
  rcases hRead with ⟨⟨hTrigger, hTable, -⟩, hAfter⟩
  have hTarget :
      other.target ++ other.rest =
        creation.target ++ creation.rest := by
    rw [← List.takeWhile_append_dropWhile (p := isWord)
        (l := other.target),
      ← List.takeWhile_append_dropWhile (p := isWord)
        (l := creation.target),
      List.append_assoc, List.append_assoc, hTable, hAfter]
  have hSame :=
    append_run_inj hTarget
      (p := fun c => !endsTarget c)
      (fun c hMem => by simp [other.whole c hMem])
      other.ended
      (fun c hMem => by simp [creation.whole c hMem])
      creation.ended
  exact ⟨hTrigger.symm, hSame.1.symm⟩

end SafeRerun

------------------------------------------------------------
-- The First Statement of a Text
------------------------------------------------------------

namespace SafeRerun

/-
  The text holds the statement, and no other one begins
  further left.
-/
structure IsFirstCreation
    (t : Text)
    (creation : Creation) : Prop where
  ends : creation.text <:+ t
  first :
    ∀ other : Creation,
      other.text <:+ t →
        other.text.length ≤ creation.text.length

/- A text declares what its first statement does. -/
theorem declaration?_eq_some_iff_creation
    {t : Text}
    {declaration : Declaration} :
    declaration? t = some declaration ↔
      ∃ creation,
        IsFirstCreation t creation ∧
          declaration = creation.declared := by
  have hFind :
      declaration? t = some declaration ↔
        declarationPhrase.find? t =
          some [declaration.trigger, declaration.table] := by
    rw [declaration?_eq_some_iff,
      Phrase.find?_eq_leftmost? declarationPhrase_isDirect]
  rw [hFind, Phrase.find?_eq_some_iff]
  constructor
  · rintro ⟨ending, after, hEnd, hRead, hFirst⟩
    rcases exists_creation_of_read hRead with
      ⟨creation, rfl⟩
    refine ⟨creation, ⟨hEnd, fun other hOther => ?_⟩, ?_⟩
    · exact hFirst other.text hOther
        (by simp [other.read_text])
    · rw [creation.read_text, Option.some.injEq,
        Prod.mk.injEq, List.cons.injEq, List.cons.injEq]
        at hRead
      rcases hRead with ⟨⟨hTrigger, hTable, -⟩, -⟩
      rw [Creation.declared, hTrigger, hTable]
  · rintro ⟨creation, ⟨hEnd, hFirst⟩, rfl⟩
    refine ⟨creation.text, _, hEnd, creation.read_text,
      fun other hOther hSome => ?_⟩
    rcases Option.ne_none_iff_exists'.mp hSome with
      ⟨⟨names, after⟩, hRead⟩
    rcases exists_creation_of_read hRead with ⟨found, rfl⟩
    exact hFirst found hOther

/- The first statement of a text has one target only. -/
theorem IsFirstCreation.unique
    {t : Text}
    {creation other : Creation}
    (hFirst : IsFirstCreation t creation)
    (hOther : IsFirstCreation t other) :
    creation.trigger = other.trigger ∧
      creation.target = other.target := by
  have hLength :
      creation.text.length = other.text.length :=
    Nat.le_antisymm (hOther.first creation hFirst.ends)
      (hFirst.first other hOther.ends)
  have hText : creation.text <:+ other.text :=
    List.suffix_of_suffix_length_le hFirst.ends hOther.ends
      hLength.le
  exact Creation.eq_of_text_eq (hText.eq_of_length hLength)

end SafeRerun

------------------------------------------------------------
-- The Target at a Line
------------------------------------------------------------

namespace SafeRerun

/-
  The statement that a script creates a trigger with at a
  line: the line starts a statement, a clause that names a
  table is reached within the lookahead, and the statement
  is the first one in the text up to there.
-/
structure CreatesAt
    (lookahead : Nat)
    (lines : List Text)
    (index : Nat)
    (creation : Creation) : Prop where
  starts :
    ∃ line,
      lines[index]? = some line ∧ startPhrase.ways line ≠ []
  reached :
    ∃ count,
      count ≤ lookahead ∧ IsFirstClause lines index count ∧
        IsFirstCreation
          (joined lines index (index + count + 1)) creation

variable {lookahead index : Nat}
variable {lines : List Text}

/- What is declared at a line is taken from its statement. -/
theorem readAt_eq_declared_iff_createsAt
    {declaration : Declaration} :
    readAt lookahead lines index = .declared declaration ↔
      ∃ creation,
        CreatesAt lookahead lines index creation ∧
          declaration = creation.declared := by
  rw [readAt_eq_declared_iff]
  constructor
  · rintro ⟨hStarts, count, hBound, hClause, hDeclares⟩
    rw [← declaration?_eq_some_iff,
      declaration?_eq_some_iff_creation] at hDeclares
    rcases hDeclares with ⟨creation, hFirst, hDeclared⟩
    exact ⟨creation,
      ⟨hStarts, count, hBound, hClause, hFirst⟩, hDeclared⟩
  · rintro ⟨creation,
      ⟨hStarts, count, hBound, hClause, hFirst⟩, hDeclared⟩
    refine ⟨hStarts, count, hBound, hClause, ?_⟩
    rw [← declaration?_eq_some_iff]
    exact declaration?_eq_some_iff_creation.mpr
      ⟨creation, hFirst, hDeclared⟩

/- A line creates on one target only. -/
theorem CreatesAt.unique
    {creation other : Creation}
    (hCreates : CreatesAt lookahead lines index creation)
    (hOther : CreatesAt lookahead lines index other) :
    other.trigger = creation.trigger ∧
      other.target = creation.target := by
  rcases hCreates.reached with
    ⟨count, -, hClause, hFirst⟩
  rcases hOther.reached with
    ⟨otherCount, -, hOtherClause, hOtherFirst⟩
  have hSame : otherCount = count := by
    rcases Nat.lt_trichotomy otherCount count with
      hLess | hSame | hMore
    · exact absurd (hClause.first otherCount hLess)
        hOtherClause.clause
    · exact hSame
    · exact absurd (hOtherClause.first count hMore)
        hClause.clause
  rw [hSame] at hOtherFirst
  exact hOtherFirst.unique hFirst

/- A statement is taken whole if its target is a word. -/
theorem Creation.declared_eq_iff
    (creation : Creation) :
    creation.declared =
        ⟨creation.trigger, creation.target⟩ ↔
      IsWordRun creation.target := by
  rw [Creation.declared, Declaration.mk.injEq,
    List.takeWhile_eq_self_iff]
  constructor
  · rintro ⟨-, hAll⟩
    refine ⟨?_, hAll⟩
    intro hNil
    exact creation.begun (by rw [hNil, List.takeWhile_nil])
  · rintro ⟨-, hAll⟩
    exact ⟨rfl, hAll⟩

/-
  A line that declares something creates a trigger on one
  target.  The word that the target begins with is declared
  for the table, and a guard that is inserted above names
  this word.  So both name the target exactly when it is a
  plain word.
-/
theorem declared_table_isWhole_iff
    (lookahead : Nat)
    (lines : List Text)
    (index : Nat) :
    (∀ declaration,
      readAt lookahead lines index =
          .declared declaration →
        ∃ creation,
          CreatesAt lookahead lines index creation ∧
            declaration = creation.declared) ∧
    ∀ creation,
      CreatesAt lookahead lines index creation →
        (∀ other,
          CreatesAt lookahead lines index other →
            other.trigger = creation.trigger ∧
              other.target = creation.target) ∧
        readAt lookahead lines index =
            .declared
              ⟨creation.trigger,
                creation.target.takeWhile isWord⟩ ∧
        (readAt lookahead lines index =
            .declared
              ⟨creation.trigger, creation.target⟩ ↔
          IsWordRun creation.target) ∧
        ∀ lookback step guard,
          (steps ⟨lookback, lookahead⟩ lines)[index]? =
              some step →
            step.guard = some guard →
              guard =
                guardLine
                  ⟨creation.trigger,
                    creation.target.takeWhile isWord⟩
                  (guardEnd lines index).text := by
  refine ⟨fun declaration hRead =>
    readAt_eq_declared_iff_createsAt.mp hRead, ?_⟩
  intro creation hCreates
  have hDeclared :
      readAt lookahead lines index =
        .declared creation.declared :=
    readAt_eq_declared_iff_createsAt.mpr
      ⟨creation, hCreates, rfl⟩
  refine ⟨fun other => hCreates.unique, hDeclared, ?_, ?_⟩
  · rw [hDeclared, Reading.declared.injEq,
      creation.declared_eq_iff]
  · intro lookback step guard hStep hGuard
    rcases guard_of_getElem?_steps hStep hGuard with
      ⟨declaration, hRead, -, hLine⟩
    rw [hDeclared, Reading.declared.injEq] at hRead
    rw [hLine, ← hRead, Creation.declared]

/- A script that creates a trigger in a named schema. -/
def qualifiedScript :
    List Text :=
  [Text.ofString "CREATE TRIGGER n ON public.accounts;\n"]

/- The statement of the script, with its whole target. -/
def qualifiedCreation :
    Creation where
  create := Text.ofString "CREATE"
  inside := ⟨[' '], by decide, by decide⟩
  keyword := Text.ofString "TRIGGER"
  behindKeyword := ⟨[' '], by decide, by decide⟩
  trigger := Text.ofString "n"
  behindTrigger := ⟨[' '], by decide, by decide⟩
  on := Text.ofString "ON"
  behindOn := ⟨[' '], by decide, by decide⟩
  target := Text.ofString "public.accounts"
  rest := Text.ofString ";"
  createSpelled := by
    simp [Spelled, createWord, Text.ofString, spells]
  keywordSpelled := by
    simp [Spelled, triggerWord, Text.ofString, spells]
  onSpelled := by
    simp [Spelled, onWord, Text.ofString, spells]
  named := by decide
  begun := by decide
  whole := by
    have hAll :
        (Text.ofString "public.accounts").all
            (fun c => !endsTarget c) = true := by
      decide
    simpa using hAll
  ended := startsOutside_cons_iff.mpr (by decide)

theorem createsAt_qualified :
    CreatesAt 500 qualifiedScript 0 qualifiedCreation := by
  have hText :
      qualifiedCreation.text = joined qualifiedScript 0 1 := by
    decide +kernel
  refine ⟨⟨_, rfl, by decide +kernel⟩, 0, Nat.zero_le _,
    ⟨Nat.one_pos, by decide +kernel, by simp⟩, ?_, ?_⟩
  · rw [hText]
  · intro other hEnd
    rw [hText]
    exact hEnd.length_le

/- Of a qualified table only the schema is declared. -/
theorem declared_table_qualified :
    CreatesAt 500 qualifiedScript 0 qualifiedCreation ∧
      readAt 500 qualifiedScript 0 =
        .declared
          ⟨Text.ofString "n", Text.ofString "public"⟩ := by
  refine ⟨createsAt_qualified, ?_⟩
  have hCreates :=
    (declared_table_isWhole_iff 500 qualifiedScript 0).2
      qualifiedCreation createsAt_qualified
  exact hCreates.2.1.trans (by decide)

/- Not every declared table is the target of its statement. -/
theorem not_forall_declared_table_isWhole :
    ¬ ∀ (lookahead : Nat) (lines : List Text) (index : Nat)
          (declaration : Declaration) (creation : Creation),
        readAt lookahead lines index =
            .declared declaration →
          CreatesAt lookahead lines index creation →
            declaration.table = creation.target := by
  intro hAll
  have hSchema :=
    hAll 500 qualifiedScript 0
      ⟨Text.ofString "n", Text.ofString "public"⟩
      qualifiedCreation (by decide +kernel)
      createsAt_qualified
  revert hSchema
  decide

end SafeRerun
