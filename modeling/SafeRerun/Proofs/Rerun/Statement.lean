import SafeRerun.Proofs.Script.Guard

/-
  Statements on lines of their own, and how a pass reads
  these lines.

  Key definitions include:
    * `SafeRerun.Statement`
    * `SafeRerun.statement?`
    * `SafeRerun.IsScriptLine`

  Key theorems include:
    * `SafeRerun.declaration?_of_create`
    * `SafeRerun.guardedNames_of_drop`
    * `SafeRerun.guardedNames_of_not_occursIn`
    * `SafeRerun.statement?_guardLine`

  A pass looks for phrases anywhere in a line.  On lines that
  hold one statement, or none, what it finds is what stands
  there.
-/

------------------------------------------------------------
-- Statements
------------------------------------------------------------

namespace SafeRerun

/- A statement that fills a line. -/
inductive Statement where
  /- Creates the trigger on its table. -/
  | create (declaration : Declaration)
  /- Drops the trigger from its table if it is there. -/
  | drop (declaration : Declaration)
  deriving DecidableEq, Repr

/- A line that creates a trigger. -/
def createLine :
    Phrase :=
  .margin :: (headPhrase ++ endPhrase)

/- A line that drops a trigger, with the signs round it. -/
def dropLine
    (quote : Phrase) :
    Phrase :=
  .margin ::
    (dropPhrase ++ (quote ++ .name :: (quote ++ endPhrase)))

/- The name of a trigger can stand between double quotes. -/
def quoteSign :
    Phrase :=
  [.keyword ['"']]

/- What the phrase declares if it takes the whole line. -/
def Phrase.whole?
    (phrase : Phrase)
    (line : Text) :
    Option Declaration :=
  match phrase.read line with
  | some ([trigger, table], []) => some ⟨trigger, table⟩
  | _ => none

/- The statement that a line consists of, if any. -/
def statement?
    (line : Text) :
    Option Statement :=
  match createLine.whole? line with
  | some declaration => some (.create declaration)
  | none =>
      match (dropLine []).whole? line with
      | some declaration => some (.drop declaration)
      | none =>
          ((dropLine quoteSign).whole? line).map
            Statement.drop

/- The beginning of what creates a trigger. -/
def createTrigger :
    Phrase :=
  [.keyword createWord, .gap, .keyword triggerWord]

/- The beginning of what drops a trigger. -/
def dropTrigger :
    Phrase :=
  [.keyword dropWord, .gap, .keyword triggerWord]

/-
  A line that is one statement, or holds no beginning of
  one.
-/
def IsScriptLine
    (line : Text) : Prop :=
  (∃ statement, statement? line = some statement) ∨
    (createTrigger.occursIn line = false ∧
      dropTrigger.occursIn line = false)

instance
    (line : Text) :
    Decidable (IsScriptLine line) :=
  decidable_of_iff
    ((statement? line).isSome = true ∨
      (createTrigger.occursIn line = false ∧
        dropTrigger.occursIn line = false))
    (by rw [IsScriptLine, Option.isSome_iff_exists])

theorem Phrase.whole?_eq_some_iff
    {phrase : Phrase}
    {line : Text}
    {declaration : Declaration} :
    phrase.whole? line = some declaration ↔
      phrase.read line =
        some ([declaration.trigger, declaration.table],
          []) := by
  unfold Phrase.whole?
  constructor
  · intro hWhole
    split at hWhole
    · rename_i trigger table hRead
      rw [Option.some.injEq] at hWhole
      rw [hRead, ← hWhole]
    · simp at hWhole
  · intro hRead
    rw [hRead]

theorem read_of_statement?_create
    {line : Text}
    {declaration : Declaration}
    (hCreate : statement? line = some (.create declaration)) :
    createLine.read line =
      some ([declaration.trigger, declaration.table],
        []) := by
  unfold statement? at hCreate
  split at hCreate
  · rename_i found hFound
    rw [Option.some.injEq, Statement.create.injEq]
      at hCreate
    rw [← hCreate]
    exact Phrase.whole?_eq_some_iff.mp hFound
  · split at hCreate
    · simp at hCreate
    · simp at hCreate

theorem read_of_statement?_drop
    {line : Text}
    {declaration : Declaration}
    (hDrop : statement? line = some (.drop declaration)) :
    ∃ quote,
      (quote = [] ∨ quote = quoteSign) ∧
        (dropLine quote).read line =
          some ([declaration.trigger, declaration.table],
            []) := by
  unfold statement? at hDrop
  split at hDrop
  · simp at hDrop
  · split at hDrop
    · rename_i found hFound
      rw [Option.some.injEq, Statement.drop.injEq] at hDrop
      rw [← hDrop]
      exact ⟨[], Or.inl rfl,
        Phrase.whole?_eq_some_iff.mp hFound⟩
    · rw [Option.map_eq_some_iff] at hDrop
      rcases hDrop with ⟨found, hFound, hSame⟩
      rw [Statement.drop.injEq] at hSame
      rw [← hSame]
      exact ⟨quoteSign, Or.inr rfl,
        Phrase.whole?_eq_some_iff.mp hFound⟩

end SafeRerun

------------------------------------------------------------
-- Lines That Create
------------------------------------------------------------

namespace SafeRerun

variable {line : Text}
variable {declaration : Declaration}

/- Trimming a statement keeps it whole. -/
theorem exists_trim_append_end
    {front t table : Text}
    (hFront : StartsOutside isBlank front)
    (hNonempty : front ≠ [])
    (hEnd : endPhrase.read t = some ([table], [])) :
    ∃ kept,
      Text.trim (front ++ t) = front ++ kept ∧
        endPhrase.read kept = some ([table], []) := by
  rcases read_endPhrase_iff.mp hEnd with
    ⟨gap, on, blanks, ending, hGap, hGapBlank, hOn, hBlanks,
      hRun, hTable, hEnding, rfl⟩
  refine ⟨gap ++ (on ++ (blanks ++ (table ++ [';']))), ?_,
    read_endPhrase_iff.mpr
      ⟨gap, on, blanks, [], hGap, hGapBlank, hOn, hBlanks,
        hRun, hTable, isBlankRun_nil, rfl⟩⟩
  rw [Text.trim_of_startsOutside
    (hFront.append hNonempty _)]
  have hSplit :
      front ++ (gap ++ (on ++ (blanks ++
          (table ++ ';' :: ending)))) =
        (front ++ (gap ++ (on ++ (blanks ++ table)))) ++
          ';' :: ending := by
    simp
  rw [hSplit, Text.dropTrailingBlanks_append _ rfl,
    Text.dropTrailingBlanks_blanks hEnding]
  simp

end SafeRerun

------------------------------------------------------------
-- What a Pass Finds on a Line That Creates
------------------------------------------------------------

namespace SafeRerun

variable {line : Text}
variable {declaration : Declaration}

/- A line that creates is a head and an end, indented. -/
theorem exists_of_statement?_create
    (hCreate : statement? line = some (.create declaration)) :
    ∃ margin body rest,
      IsBlankRun margin ∧ line = margin ++ body ∧
        headPhrase.read body =
            some ([declaration.trigger], rest) ∧
          endPhrase.read rest =
            some ([declaration.table], []) := by
  rcases Phrase.read_margin_iff.mp
      (read_of_statement?_create hCreate) with
    ⟨margin, body, hMargin, -, hLine, hBody⟩
  rcases Phrase.read_append_iff.mp hBody with
    ⟨first, rest, more, hHead, hEnd, hNames⟩
  rcases List.length_eq_one_iff.mp
      (Phrase.length_of_read hHead) with ⟨name, rfl⟩
  rcases List.length_eq_one_iff.mp
      (Phrase.length_of_read hEnd) with ⟨table, rfl⟩
  simp only [List.cons_append, List.nil_append,
    List.cons.injEq, and_true] at hNames
  rw [← hNames.1] at hHead
  rw [← hNames.2] at hEnd
  exact ⟨margin, body, rest, hMargin, hLine, hHead, hEnd⟩

/- A line that creates starts a statement. -/
theorem isStatementStart_of_create
    (hCreate : statement? line = some (.create declaration)) :
    isStatementStart line = true := by
  have hRead := read_of_statement?_create hCreate
  have hSplit :
      createLine = startPhrase ++ .name :: endPhrase := rfl
  rw [hSplit] at hRead
  rcases Phrase.read_append_iff.mp hRead with
    ⟨first, middle, more, hStart, -, -⟩
  unfold isStatementStart Phrase.startsIn
  rw [hStart]
  rfl

/- What it creates is what its text declares. -/
theorem declaration?_of_create
    (hCreate : statement? line = some (.create declaration)) :
    declaration? line.trim = some declaration := by
  rcases exists_of_statement?_create hCreate with
    ⟨margin, body, rest, hMargin, rfl, hHead, hEnd⟩
  rcases read_headPhrase_iff.mp hHead with
    ⟨create, gap, trigger, blanks, hWord, hGap, hGapBlank,
      hTrigger, hBlanks, hRun, hName, -, rfl⟩
  have hCreateWord := hWord.isWordRun isKeyword_createWord
  have hFront :
      StartsOutside isBlank
        (create ++ (gap ++ (trigger ++ (blanks ++
          declaration.trigger)))) :=
    hCreateWord.startsOutside_isBlank _
  rcases exists_trim_append_end hFront
      (by simp [hCreateWord.1]) hEnd with
    ⟨kept, hTrim, hKept⟩
  have hKeptHead :
      headPhrase.read
          ((create ++ (gap ++ (trigger ++ (blanks ++
            declaration.trigger)))) ++ kept) =
        some ([declaration.trigger], kept) :=
    read_headPhrase_iff.mpr
      ⟨create, gap, trigger, blanks, hWord, hGap, hGapBlank,
        hTrigger, hBlanks, hRun, hName,
        startsOutside_isWord_of_read_endPhrase hKept,
        by simp⟩
  rcases read_onPhrase_of_read_endPhrase hKept with
    ⟨after, hOn⟩
  have hSame :
      Text.trim
          (margin ++ (create ++ (gap ++ (trigger ++
            (blanks ++ (declaration.trigger ++ rest)))))) =
        (create ++ (gap ++ (trigger ++ (blanks ++
          declaration.trigger)))) ++ kept := by
    rw [← hTrim, Text.trim_blanks_append hMargin
      (hCreateWord.startsOutside_isBlank _),
      ← Text.trim_of_startsOutside
        (hCreateWord.startsOutside_isBlank _)]
    simp
  rw [hSame]
  exact declaration?_of_read
    (Phrase.read_append_iff.mpr
      ⟨[declaration.trigger], kept, [declaration.table],
        hKeptHead, hOn, rfl⟩)

/- A line that creates holds no guard. -/
theorem guardedNames_of_create
    (hCreate : statement? line = some (.create declaration)) :
    guardedNames line = [] := by
  rcases exists_of_statement?_create hCreate with
    ⟨margin, body, rest, hMargin, rfl, hHead, hEnd⟩
  rcases read_headPhrase_iff.mp hHead with
    ⟨create, gap, trigger, blanks, hWord, hGap, hGapBlank,
      hTrigger, hBlanks, hRun, hName, -, rfl⟩
  have hCreateWord := hWord.isWordRun isKeyword_createWord
  have hTriggerWord :=
    hTrigger.isWordRun isKeyword_triggerWord
  rw [guardedNames_blanks_append hMargin]
  apply guardedNames_of_find?_eq_none
  -- Neither CREATE nor TRIGGER ends in DROP.
  refine (Phrase.find?_word_append isKeyword_dropWord
    hCreateWord.solid hGap hGapBlank
    (hTriggerWord.startsOutside_isBlank _) ?_).trans ?_
  · intro ending hEnding hSpelled
    have hSuffix :=
      hWord.suffix isKeyword_dropWord isKeyword_createWord
        hEnding hSpelled
    exact absurd hSuffix (by decide)
  refine (Phrase.find?_word_append isKeyword_dropWord
    hTriggerWord.solid hBlanks hRun
    (hName.startsOutside_isBlank _) ?_).trans ?_
  · intro ending hEnding hSpelled
    have hSuffix :=
      hTrigger.suffix isKeyword_dropWord
        isKeyword_triggerWord hEnding hSpelled
    exact absurd hSuffix (by decide)
  exact find?_append_end isKeyword_dropWord hName.solid hEnd

end SafeRerun

------------------------------------------------------------
-- What a Pass Finds on Other Lines
------------------------------------------------------------

namespace SafeRerun

variable {line : Text}
variable {declaration : Declaration}

/- A line that drops is a beginning, a name and an end. -/
theorem exists_of_statement?_drop
    (hDrop : statement? line = some (.drop declaration)) :
    ∃ margin body sign rest,
      IsBlankRun margin ∧ StartsOutside isBlank body ∧
        line = margin ++ body ∧
          (sign = [] ∨ sign = ['"']) ∧
            IsWordRun declaration.trigger ∧
              StartsOutside isWord (sign ++ rest) ∧
                endPhrase.read rest =
                    some ([declaration.table], []) ∧
                  dropPhrase.read body =
                    some ([], sign ++
                      (declaration.trigger ++
                        (sign ++ rest))) := by
  rcases read_of_statement?_drop hDrop with
    ⟨quote, hQuote, hRead⟩
  rcases Phrase.read_margin_iff.mp hRead with
    ⟨margin, body, hMargin, hBody, hLine, hBodyRead⟩
  rcases Phrase.read_append_iff.mp hBodyRead with
    ⟨first, middle, more, hPhrase, hMiddle, hNames⟩
  have hFirst :=
    List.length_eq_zero_iff.mp
      (Phrase.length_of_read hPhrase)
  subst hFirst
  rw [List.nil_append] at hNames
  subst hNames
  rcases hQuote with rfl | rfl
  · rcases Phrase.read_name_iff.mp hMiddle with
      ⟨name, rest, others, hName, hRest, rfl, hNames, hEnd⟩
    simp only [List.cons.injEq] at hNames
    rcases hNames with ⟨rfl, rfl⟩
    exact ⟨margin, body, [], rest, hMargin, hBody, hLine,
      Or.inl rfl, hName, hRest, hEnd, hPhrase⟩
  · rcases Phrase.read_keyword_iff.mp hMiddle with
      ⟨sign, t₁, hSign, rfl, hNameRead⟩
    rcases Phrase.read_name_iff.mp hNameRead with
      ⟨name, t₂, others, hName, hRest, rfl, hNames,
        hSignRead⟩
    rcases Phrase.read_keyword_iff.mp hSignRead with
      ⟨last, rest, hLast, rfl, hEnd⟩
    simp only [List.cons.injEq] at hNames
    rcases hNames with ⟨rfl, rfl⟩
    rw [hSign.eq_sign (by decide), hLast.eq_sign (by decide)]
      at hPhrase
    exact ⟨margin, body, ['"'], rest, hMargin, hBody, hLine,
      Or.inr rfl, hName, startsOutside_cons_iff.mpr rfl,
      hEnd, hPhrase⟩

/- A line that drops starts no statement. -/
theorem isStatementStart_of_drop
    (hDrop : statement? line = some (.drop declaration)) :
    isStatementStart line = false := by
  rcases exists_of_statement?_drop hDrop with
    ⟨margin, body, sign, rest, hMargin, hBody, rfl, -, -, -,
      -, hPhrase⟩
  rcases Phrase.read_keyword_iff.mp hPhrase with
    ⟨word, t₁, hWord, rfl, -⟩
  have hNone :
      startPhrase.read (margin ++ (word ++ t₁)) = none :=
    (Phrase.read_margin_append hMargin hBody).trans
      (Phrase.read_keyword_word_append hWord
        isKeyword_dropWord isKeyword_createWord
        (by decide) _)
  unfold isStatementStart Phrase.startsIn
  rw [hNone]
  rfl

/- What it drops is the one name found on it. -/
theorem guardedNames_of_drop
    (hDrop : statement? line = some (.drop declaration)) :
    guardedNames line = [declaration.trigger] := by
  rcases exists_of_statement?_drop hDrop with
    ⟨margin, body, sign, rest, hMargin, -, rfl, hSign,
      hName, hRest, hEnd, hPhrase⟩
  rw [guardedNames_blanks_append hMargin,
    guardedNames_of_read (read_guardPhrase_of_read hPhrase
      hSign hName hRest),
    guardedNames_of_find?_eq_none
      (find?_append_end isKeyword_dropWord
        (isBlank_of_mem_sign hSign) hEnd)]
  rfl

/- Where CREATE TRIGGER does not occur, nothing starts. -/
theorem isStatementStart_of_not_occursIn
    (hNone : createTrigger.occursIn line = false) :
    isStatementStart line = false := by
  by_contra hStart
  rcases isStatementStart_iff.mp (by simpa using hStart) with
    ⟨margin, create, gap, trigger, blanks, rest, -, hCreate,
      hGap, hGapBlank, hTrigger, -, -, -, rfl⟩
  have hRead :
      createTrigger.read
          (create ++ (gap ++ (trigger ++
            (blanks ++ rest)))) =
        some ([], blanks ++ rest) := by
    refine Phrase.read_keyword_iff.mpr
      ⟨create, _, hCreate, rfl, ?_⟩
    refine Phrase.read_gap_iff.mpr
      ⟨gap, _, hGap, hGapBlank,
        (hTrigger.isWordRun
          isKeyword_triggerWord).startsOutside_isBlank _,
        rfl, ?_⟩
    exact Phrase.read_keyword_iff.mpr
      ⟨trigger, _, hTrigger, rfl, rfl⟩
  rw [Phrase.occursIn_of_suffix
    (List.suffix_append margin _) hRead] at hNone
  contradiction

/- Where DROP TRIGGER does not occur, no name is found. -/
theorem guardedNames_of_not_occursIn
    (hNone : dropTrigger.occursIn line = false) :
    guardedNames line = [] := by
  apply guardedNames_of_find?_eq_none
  by_contra hSome
  rcases Option.ne_none_iff_exists'.mp hSome with
    ⟨names, hFind⟩
  rcases Phrase.exists_suffix_of_find? hFind with
    ⟨ending, after, hEnd, hRead⟩
  have hSplit :
      guardPhrase =
        dropTrigger ++
          [.gap, .keyword ifWord, .gap, .keyword existsWord,
           .gap, .quote, .name] := rfl
  rw [hSplit] at hRead
  rcases Phrase.read_append_iff.mp hRead with
    ⟨first, middle, more, hFirst, -, -⟩
  rw [Phrase.occursIn_of_suffix hEnd hFirst] at hNone
  contradiction

/- A written guard is a line that drops a quoted name. -/
theorem whole?_guardLine
    {ending : Text}
    (hNamed : declaration.IsNamed)
    (hEnding : IsBlankRun ending) :
    (dropLine quoteSign).whole?
        (guardLine declaration ending) =
      some declaration := by
  have hSign : Spelled ['"'] ['"'] := by
    simp [Spelled]
    decide
  refine Phrase.whole?_eq_some_iff.mpr
    (Phrase.read_margin_iff.mpr
      ⟨[], _, isBlankRun_nil,
        startsOutside_cons_iff.mpr rfl, rfl, ?_⟩)
  refine Phrase.read_append_iff.mpr
    ⟨[], _, [declaration.trigger, declaration.table],
      read_dropPhrase_guardLine declaration ending, ?_,
      rfl⟩
  refine Phrase.read_keyword_iff.mpr
    ⟨['"'], _, hSign, rfl, ?_⟩
  refine Phrase.read_name_iff.mpr
    ⟨declaration.trigger, _, [declaration.table],
      hNamed.trigger, startsOutside_cons_iff.mpr rfl, rfl,
      rfl, ?_⟩
  exact Phrase.read_keyword_iff.mpr
    ⟨['"'], _, hSign, rfl,
      read_endPhrase_guard hNamed hEnding⟩

/- It creates nothing, and its name is not plain. -/
theorem whole?_guardLine_eq_none
    (declaration : Declaration)
    (ending : Text) :
    createLine.whole? (guardLine declaration ending) =
        none ∧
      (dropLine []).whole? (guardLine declaration ending) =
        none :=
  ⟨rfl, rfl⟩

/- A written guard is a statement that drops its trigger. -/
theorem statement?_guardLine
    {ending : Text}
    (hNamed : declaration.IsNamed)
    (hEnding : IsBlankRun ending) :
    statement? (guardLine declaration ending) =
      some (.drop declaration) := by
  rcases whole?_guardLine_eq_none declaration ending with
    ⟨hCreate, hPlain⟩
  unfold statement?
  rw [hCreate, hPlain, whole?_guardLine hNamed hEnding]
  rfl

end SafeRerun
