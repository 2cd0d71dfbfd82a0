import SafeRerun.Script.Guard
import SafeRerun.Proofs.Script.Start

/-
  The line that a guard is written on, read again.

  Key theorems include:
    * `SafeRerun.isStatementStart_guardLine`
    * `SafeRerun.isForeign_guardLine`
    * `SafeRerun.declaration?_guardLine`
    * `SafeRerun.hasOnClause_guardLine`
    * `SafeRerun.guardsTrigger_guardLine`

  A guard starts no statement and declares nothing, but it
  names a table and so ends the text that is gathered for a
  statement above it.
-/

------------------------------------------------------------
-- The Words of a Guard
------------------------------------------------------------

namespace SafeRerun

/- The keyword DROP. -/
def dropWord :
    Text :=
  ['D', 'R', 'O', 'P']

theorem isKeyword_dropWord :
    IsKeyword dropWord := by
  decide

/- The keyword IF. -/
def ifWord :
    Text :=
  ['I', 'F']

/- The keyword EXISTS. -/
def existsWord :
    Text :=
  ['E', 'X', 'I', 'S', 'T', 'S']

/- A guard line up to its name, and what comes after. -/
theorem guardLine_eq
    (declaration : Declaration)
    (ending : Text) :
    guardLine declaration ending =
      Text.ofString "DROP TRIGGER IF EXISTS " ++
        (['"'] ++ (declaration.trigger ++ (['"'] ++
          ([' '] ++ (onWord ++ ([' '] ++
            (declaration.table ++ ';' :: ending))))))) := by
  simp [guardLine, Text.ofString, onWord]

theorem isBlankRun_space :
    IsBlankRun [' '] := by
  decide

/- A line end is made of blanks, if of anything. -/
theorem isBlankRun_lineEnd
    (ending : LineEnd) :
    IsBlankRun ending.text := by
  cases ending <;> decide

/- What ends a guard stands behind the rest of it. -/
theorem guardLine_eq_append
    (declaration : Declaration)
    (ending : Text) :
    guardLine declaration ending =
      guardLine declaration [] ++ ending := by
  simp [guardLine]

/- No character that ends lines stands before that. -/
theorem not_mem_guardLine
    {declaration : Declaration}
    {c : Char}
    (hNamed : declaration.IsNamed)
    (hEnd : c = '\r' ∨ c = '\n') :
    c ∉ guardLine declaration [] := by
  have hBlank : isBlank c = true := by
    rcases hEnd with rfl | rfl <;> decide
  have hTrigger :=
    hNamed.trigger.not_mem_of_isBlank hBlank
  have hTable := hNamed.table.not_mem_of_isBlank hBlank
  rcases hEnd with rfl | rfl
  · simp [guardLine, Text.ofString, hTrigger, hTable]
  · simp [guardLine, Text.ofString, hTrigger, hTable]

/- What stands between the quotes, with them, is solid. -/
theorem isBlank_of_mem_quoted
    {name : Text}
    (hName : IsWordRun name) :
    ∀ c ∈ '"' :: (name ++ ['"']), isBlank c = false := by
  intro c hMem
  simp only [List.mem_cons, List.mem_append,
    List.not_mem_nil, or_false] at hMem
  rcases hMem with rfl | hWord | rfl
  · rfl
  · exact isBlank_eq_false_of_isWord (hName.2 c hWord)
  · rfl

end SafeRerun

------------------------------------------------------------
-- The End of a Statement
------------------------------------------------------------

namespace SafeRerun

/- The end of a statement on one line, after its name. -/
def endPhrase :
    Phrase :=
  [.gap, .keyword onWord, .gap, .name, .keyword [';'],
   .margin]

theorem endPhrase_eq_append :
    endPhrase = onPhrase ++ [.keyword [';'], .margin] :=
  rfl

/- The end of a statement is its ON clause, ended. -/
theorem read_endPhrase_iff
    {t table : Text} :
    endPhrase.read t = some ([table], []) ↔
      ∃ gap on blanks ending,
        gap ≠ [] ∧ IsBlankRun gap ∧ Spelled onWord on ∧
          blanks ≠ [] ∧ IsBlankRun blanks ∧
            IsWordRun table ∧ IsBlankRun ending ∧
              t =
                gap ++ (on ++ (blanks ++
                  (table ++ ';' :: ending))) := by
  rw [endPhrase_eq_append, Phrase.read_append_iff]
  constructor
  · intro hExists
    rcases hExists with
      ⟨names, clause, none, hOnRead, hSignRead, hNames⟩
    rcases Phrase.read_keyword_iff.mp hSignRead with
      ⟨sign, t₁, hSign, rfl, hEndingRead⟩
    rcases Phrase.read_margin_iff.mp hEndingRead with
      ⟨ending, t₂, hEnding, -, rfl, hRead⟩
    simp only [Phrase.read, Option.some.injEq,
      Prod.mk.injEq] at hRead
    rcases hRead with ⟨rfl, rfl⟩
    rw [List.append_nil] at hNames
    rw [← hNames] at hOnRead
    rcases read_onPhrase_iff.mp hOnRead with
      ⟨gap, on, blanks, hGap, hGapBlank, hOn, hBlanks, hRun,
        hTable, -, rfl⟩
    have hSame := hSign.eq_sign (by decide)
    exact ⟨gap, on, blanks, ending, hGap, hGapBlank, hOn,
      hBlanks, hRun, hTable, hEnding, by simp [hSame]⟩
  · intro hExists
    rcases hExists with
      ⟨gap, on, blanks, ending, hGap, hGapBlank, hOn,
        hBlanks, hRun, hTable, hEnding, rfl⟩
    have hOnRead :
        onPhrase.read
            (gap ++ (on ++ (blanks ++
              (table ++ ';' :: ending)))) =
          some ([table], ';' :: ending) :=
      read_onPhrase_iff.mpr
        ⟨gap, on, blanks, hGap, hGapBlank, hOn, hBlanks,
          hRun, hTable, startsOutside_cons_iff.mpr rfl, rfl⟩
    refine ⟨[table], _, [], hOnRead, ?_, rfl⟩
    refine Phrase.read_keyword_iff.mpr
      ⟨[';'], ending, by simp [Spelled]; rfl, rfl, ?_⟩
    exact Phrase.read_margin_iff.mpr
      ⟨ending, [], hEnding, startsOutside_nil _, by simp,
        rfl⟩

/- The end of a statement begins with a gap. -/
theorem startsOutside_isWord_of_read_endPhrase
    {t table : Text}
    (hEnd : endPhrase.read t = some ([table], [])) :
    StartsOutside isWord t := by
  rcases read_endPhrase_iff.mp hEnd with
    ⟨gap, on, blanks, ending, hGap, hGapBlank, -, -, -, -,
      -, rfl⟩
  exact hGapBlank.startsOutside_isWord hGap _

/- The end of a statement holds its ON clause. -/
theorem read_onPhrase_of_read_endPhrase
    {t table : Text}
    (hEnd : endPhrase.read t = some ([table], [])) :
    ∃ after, onPhrase.read t = some ([table], after) := by
  rw [endPhrase_eq_append] at hEnd
  rcases Phrase.read_append_iff.mp hEnd with
    ⟨first, middle, more, hOn, hSign, hNames⟩
  rcases Phrase.read_keyword_iff.mp hSign with
    ⟨sign, t₁, -, -, hMargin⟩
  rcases Phrase.read_margin_iff.mp hMargin with
    ⟨blanks, t₂, -, -, -, hRead⟩
  simp only [Phrase.read, Option.some.injEq,
    Prod.mk.injEq] at hRead
  rw [← hRead.1, List.append_nil] at hNames
  rw [← hNames] at hOn
  exact ⟨middle, hOn⟩

/-
  No statement begins from a solid word to the end of the
  statement that goes on there.
-/
theorem find?_append_end
    {keyword word t table : Text}
    {back : Phrase}
    (hKeyword : IsKeyword keyword)
    (hSolid : ∀ c ∈ word, isBlank c = false)
    (hEnd : endPhrase.read t = some ([table], [])) :
    Phrase.find?
        (.keyword keyword :: .gap ::
          .keyword triggerWord :: .gap :: back)
        (word ++ t) =
      none := by
  rcases read_endPhrase_iff.mp hEnd with
    ⟨gap, on, blanks, ending, hGap, hGapBlank, hOn,
      hBlanks, hRun, hTable, hEnding, rfl⟩
  have hOnWord := hOn.isWordRun isKeyword_onWord
  have hLast :
      ∀ c ∈ table ++ [';'], isBlank c = false := by
    intro c hMem
    rcases List.mem_append.mp hMem with hName | hSign
    · exact isBlank_eq_false_of_isWord (hTable.2 c hName)
    · rw [List.mem_singleton.mp hSign]
      rfl
  have hPassed :
      Phrase.find?
          (.keyword keyword :: .gap ::
            .keyword triggerWord :: .gap :: back)
          (word ++ (gap ++ (on ++ (blanks ++
            (table ++ ';' :: ending))))) =
        Phrase.find?
          (.keyword keyword :: .gap ::
            .keyword triggerWord :: .gap :: back)
          (table ++ ';' :: ending) := by
    refine (Phrase.find?_word_append hKeyword hSolid hGap
      hGapBlank (hOnWord.startsOutside_isBlank _) ?_).trans
      (Phrase.find?_word_append hKeyword ?_ hBlanks hRun
        (hTable.startsOutside_isBlank _) ?_)
    · intro _ _ _
      exact Phrase.read_keyword_word_append hOn
        isKeyword_onWord isKeyword_triggerWord (by decide) _
    · intro c hMem
      exact isBlank_eq_false_of_isWord (hOnWord.2 c hMem)
    · intro _ _ _
      exact Phrase.read_keyword_gap_of_word
        isKeyword_triggerWord hTable (startsOutside_cons_iff.mpr rfl)
        (startsOutside_cons_iff.mpr rfl)
  rw [hPassed]
  by_cases hNil : ending = []
  · rw [hNil]
    exact Phrase.find?_keyword_gap_of_solid hLast
  · have hSplit :
        table ++ ';' :: ending =
          (table ++ [';']) ++ (ending ++ []) := by
      simp
    rw [hSplit, Phrase.find?_word_append hKeyword hLast hNil
      hEnding (startsOutside_nil _) fun _ _ _ => rfl]
    exact Phrase.find?_keyword_gap_of_solid (by simp)

end SafeRerun

------------------------------------------------------------
-- Guards Among Statements
------------------------------------------------------------

namespace SafeRerun

/- A guard starts no statement. -/
theorem isStatementStart_guardLine
    (declaration : Declaration)
    (ending : Text) :
    isStatementStart (guardLine declaration ending) =
      false := rfl

/- Trimming a guard takes its line end away. -/
theorem trim_guardLine
    (declaration : Declaration)
    {ending : Text}
    (hEnding : IsBlankRun ending) :
    Text.trim (guardLine declaration ending) =
      guardLine declaration [] := by
  have hStart :
      StartsOutside isBlank
        (guardLine declaration ending) := by
    rw [guardLine_eq]
    exact startsOutside_cons_iff.mpr rfl
  rw [Text.trim_of_startsOutside hStart]
  unfold guardLine
  rw [Text.dropTrailingBlanks_append _ (by rfl),
    Text.dropTrailingBlanks_blanks hEnding]

/- A guard goes on in no declaration begun before it. -/
theorem isForeign_guardLine
    (declaration : Declaration)
    (ending : Text) :
    IsForeign (guardLine declaration ending) := by
  constructor
  · exact ⟨'D', _, rfl, rfl⟩
  · rfl
  · rfl
  · rfl

/- The first word of a guard is DROP. -/
theorem takeWhile_guardLine
    (declaration : Declaration)
    (ending : Text) :
    (guardLine declaration ending).takeWhile isWord =
      dropWord := rfl

/- The end of a guard names its table. -/
theorem read_endPhrase_guard
    {declaration : Declaration}
    {ending : Text}
    (hNamed : declaration.IsNamed)
    (hEnding : IsBlankRun ending) :
    endPhrase.read
        ([' '] ++ (onWord ++ ([' '] ++
          (declaration.table ++ ';' :: ending)))) =
      some ([declaration.table], []) :=
  read_endPhrase_iff.mpr
    ⟨[' '], onWord, [' '], ending, List.cons_ne_nil _ _,
      isBlankRun_space, by simp [Spelled, onWord]; decide,
      List.cons_ne_nil _ _, isBlankRun_space,
      hNamed.table, hEnding, rfl⟩

/- A guard declares nothing, whatever it names. -/
theorem declaration?_guardLine
    {declaration : Declaration}
    (hNamed : declaration.IsNamed) :
    declaration? (guardLine declaration []) = none := by
  -- No letter before the name is the first one of CREATE.
  have hPassed :
      declarationPhrase.find? (guardLine declaration []) =
        declarationPhrase.find?
          (['"'] ++ (declaration.trigger ++ (['"'] ++
            ([' '] ++ (onWord ++ ([' '] ++
              (declaration.table ++ [';']))))))) := by
    rw [guardLine_eq]
    rfl
  have hSplit :
      ['"'] ++ (declaration.trigger ++ (['"'] ++
          ([' '] ++ (onWord ++ ([' '] ++
            (declaration.table ++ [';'])))))) =
        ('"' :: (declaration.trigger ++ ['"'])) ++
          ([' '] ++ (onWord ++ ([' '] ++
            (declaration.table ++ [';'])))) := by
    simp
  have hNone :
      declarationPhrase.find? (guardLine declaration []) =
        none := by
    rw [hPassed, hSplit]
    exact find?_append_end isKeyword_createWord
      (isBlank_of_mem_quoted hNamed.trigger)
      (read_endPhrase_guard hNamed isBlankRun_nil)
  simp only [declaration?, hNone]

/- A guard names a table. -/
theorem hasOnClause_guardLine
    {declaration : Declaration}
    {ending : Text}
    (hNamed : declaration.IsNamed)
    (hEnding : IsBlankRun ending) :
    hasOnClause (guardLine declaration ending) = true := by
  rcases read_onPhrase_of_read_endPhrase
      (read_endPhrase_guard hNamed hEnding) with
    ⟨after, hOn⟩
  refine Phrase.occursIn_of_suffix ?_ hOn
  refine ⟨Text.ofString "DROP TRIGGER IF EXISTS \"" ++
    declaration.trigger ++ ['"'], ?_⟩
  simp [guardLine, Text.ofString, onWord]

end SafeRerun

------------------------------------------------------------
-- Finding a Written Guard
------------------------------------------------------------

namespace SafeRerun

/- The part of a guard before the name it drops. -/
def dropPhrase :
    Phrase :=
  [.keyword dropWord, .gap, .keyword triggerWord, .gap,
   .keyword ifWord, .gap, .keyword existsWord, .gap]

/- The sign before a name, if there is one, is no blank. -/
theorem isBlank_of_mem_sign
    {sign : Text}
    (hSign : sign = [] ∨ sign = ['"']) :
    ∀ c ∈ sign, isBlank c = false := by
  intro c hMem
  rcases hSign with rfl | rfl
  · simp at hMem
  · rw [List.mem_singleton.mp hMem]
    rfl

/- A name is read with a double quote before it or without. -/
theorem read_quote_name
    {sign name rest : Text}
    (hSign : sign = [] ∨ sign = ['"'])
    (hName : IsWordRun name)
    (hRest : StartsOutside isWord rest) :
    Phrase.read [.quote, .name] (sign ++ (name ++ rest)) =
      some ([name], rest) := by
  have hRead :
      Phrase.read [.name] (name ++ rest) =
        some ([name], rest) :=
    Phrase.read_name_iff.mpr
      ⟨name, rest, [], hName, hRest, rfl, rfl, rfl⟩
  rcases hSign with rfl | rfl
  · cases name with
    | nil =>
        exact absurd rfl hName.1
    | cons c tail =>
        have hOther : c ≠ '"' := by
          rintro rfl
          exact absurd (hName.2 '"' (by simp)) (by decide)
        exact (Phrase.read_quote_of_ne hOther _ _).trans
          hRead
  · exact (Phrase.read_quote_cons _ _).trans hRead

/- A guard phrase is read off a beginning and a name. -/
theorem read_guardPhrase_of_read
    {t sign name rest : Text}
    (hDrop :
      dropPhrase.read t =
        some ([], sign ++ (name ++ rest)))
    (hSign : sign = [] ∨ sign = ['"'])
    (hName : IsWordRun name)
    (hRest : StartsOutside isWord rest) :
    guardPhrase.read t = some ([name], rest) := by
  have hPhrase :
      guardPhrase = dropPhrase ++ [.quote, .name] := rfl
  rw [hPhrase]
  exact Phrase.read_append_iff.mpr
    ⟨[], _, [name], hDrop,
      read_quote_name hSign hName hRest, rfl⟩

/- A written guard goes on with the name in its quotes. -/
theorem read_dropPhrase_guardLine
    (declaration : Declaration)
    (ending : Text) :
    dropPhrase.read (guardLine declaration ending) =
      some ([], ['"'] ++ (declaration.trigger ++
        (['"'] ++ ([' '] ++ (onWord ++ ([' '] ++
          (declaration.table ++ ';' :: ending))))))) := by
  rw [guardLine_eq]
  rfl

theorem guardedNames_of_read
    {t after : Text}
    {names : List Text}
    (hRead : guardPhrase.read t = some (names, after)) :
    guardedNames t = names ++ guardedNames after := by
  cases t with
  | nil =>
      simp [guardPhrase, Phrase.read, Piece.read,
        readKeyword] at hRead
  | cons c rest =>
      rw [guardedNames]
      split
      · rename_i found behind hFound
        rw [hRead] at hFound
        simp only [Option.some.injEq, Prod.mk.injEq]
          at hFound
        rw [hFound.1, hFound.2]
      · rename_i hNone
        rw [hRead] at hNone
        simp at hNone

/- Where no guard begins, the search goes on. -/
theorem guardedNames_cons_of_read_eq_none
    {c : Char}
    {rest : Text}
    (hNone : guardPhrase.read (c :: rest) = none) :
    guardedNames (c :: rest) = guardedNames rest := by
  rw [guardedNames]
  split
  · rename_i names after hRead
    rw [hNone] at hRead
    simp at hRead
  · rfl

/- A line in which no guard begins holds no names. -/
theorem guardedNames_of_find?_eq_none
    {t : Text}
    (hNone : guardPhrase.find? t = none) :
    guardedNames t = [] := by
  induction t with
  | nil =>
      rw [guardedNames]
  | cons c rest ih =>
      have hHere :=
        Phrase.find?_eq_none_iff.mp hNone (c :: rest)
          List.suffix_rfl
      rw [Phrase.find?, hHere] at hNone
      rw [guardedNames_cons_of_read_eq_none hHere]
      exact ih hNone

/- Blanks at the beginning of a line hold no names. -/
theorem guardedNames_blanks_append
    {blanks : Text}
    (hBlanks : IsBlankRun blanks)
    (rest : Text) :
    guardedNames (blanks ++ rest) = guardedNames rest := by
  induction blanks with
  | nil =>
      rfl
  | cons c tail ih =>
      have hHere :
          guardPhrase.read (c :: (tail ++ rest)) = none :=
        Phrase.read_keyword_blank isKeyword_dropWord
          (hBlanks c (by simp)) _
      rw [List.cons_append,
        guardedNames_cons_of_read_eq_none hHere]
      exact ih fun d hMem => hBlanks d (by simp [hMem])

/- A guard line holds one name, that of its trigger. -/
theorem guardedNames_guardLine
    {declaration : Declaration}
    {ending : Text}
    (hNamed : declaration.IsNamed)
    (hEnding : IsBlankRun ending) :
    guardedNames (guardLine declaration ending) =
      [declaration.trigger] := by
  rw [guardedNames_of_read
    (read_guardPhrase_of_read
      (read_dropPhrase_guardLine declaration ending)
      (Or.inr rfl) hNamed.trigger
      (startsOutside_cons_iff.mpr rfl)),
    guardedNames_of_find?_eq_none
      (find?_append_end isKeyword_dropWord
        (isBlank_of_mem_sign (Or.inr rfl))
        (read_endPhrase_guard hNamed hEnding)),
    List.append_nil]

/- A guard is found for triggers of the name it drops. -/
theorem guardsTrigger_guardLine
    {trigger : Text}
    {declaration : Declaration}
    {ending : Text}
    (hNamed : declaration.IsNamed)
    (hEnding : IsBlankRun ending) :
    guardsTrigger trigger (guardLine declaration ending) =
        true ↔
      declaration.trigger.lowercase = trigger.lowercase := by
  unfold guardsTrigger
  rw [guardedNames_guardLine hNamed hEnding]
  simp

end SafeRerun

------------------------------------------------------------
-- The Lookback
------------------------------------------------------------

namespace SafeRerun

/- A line above the index is reached by its distance. -/
theorem mem_linesAbove_iff
    {lookback index : Nat}
    {lines : List Text}
    {line : Text} :
    line ∈ linesAbove lookback lines index ↔
      ∃ place,
        place < index ∧ index ≤ place + lookback ∧
          lines[place]? = some line := by
  unfold linesAbove
  rw [List.mem_iff_getElem?]
  constructor
  · intro hExists
    rcases hExists with ⟨offset, hLine⟩
    rw [List.getElem?_drop, List.getElem?_take] at hLine
    split at hLine
    · rename_i hAbove
      exact ⟨index - lookback + offset, hAbove, by omega,
        hLine⟩
    · simp at hLine
  · intro hExists
    rcases hExists with ⟨place, hAbove, hReach, hLine⟩
    refine ⟨place - (index - lookback), ?_⟩
    have hPlace :
        index - lookback + (place - (index - lookback)) =
          place := by
      omega
    rw [List.getElem?_drop, hPlace,
      List.getElem?_take_of_lt hAbove, hLine]

/- The nearest line above is the last one within reach. -/
theorem linesAbove_append_cons
    (lookback : Nat)
    (above : List Text)
    (line : Text)
    (below : List Text) :
    linesAbove (lookback + 1) (above ++ line :: below)
        (above.length + 1) =
      linesAbove lookback above above.length ++ [line] := by
  have hReach :
      above.length + 1 - (lookback + 1) =
        above.length - lookback :=
    Nat.add_sub_add_right _ _ _
  rw [linesAbove, linesAbove, List.take_length_add_append,
    List.take_length, hReach,
    List.drop_append_of_le_length (Nat.sub_le _ _)]
  rfl

/- No guard is found where no line is looked at. -/
theorem isGuarded_zero
    (lines : List Text)
    (index : Nat)
    (trigger : Text) :
    isGuarded 0 lines index trigger = false := by
  simp [isGuarded, linesAbove]

theorem isGuarded_nil
    (lookback index : Nat)
    (trigger : Text) :
    isGuarded lookback [] index trigger = false := by
  simp [isGuarded, linesAbove]

/-
  A guard stands above a line when the line above holds it
  or a shorter lookback finds it from there.
-/
theorem isGuarded_append_cons
    (lookback : Nat)
    (above : List Text)
    (line : Text)
    (below : List Text)
    (trigger : Text) :
    isGuarded (lookback + 1) (above ++ line :: below)
        (above.length + 1) trigger = true ↔
      isGuarded lookback above above.length trigger =
          true ∨
        guardsTrigger trigger line = true := by
  rw [isGuarded, linesAbove_append_cons, List.any_append,
    Bool.or_eq_true, isGuarded]
  simp

/- A guard counts when it stands within the lookback. -/
theorem isGuarded_iff
    {lookback index : Nat}
    {lines : List Text}
    {trigger : Text} :
    isGuarded lookback lines index trigger = true ↔
      ∃ place line,
        place < index ∧ index ≤ place + lookback ∧
          lines[place]? = some line ∧
            guardsTrigger trigger line = true := by
  unfold isGuarded
  rw [List.any_eq_true]
  constructor
  · intro hExists
    rcases hExists with ⟨line, hMem, hGuards⟩
    rcases mem_linesAbove_iff.mp hMem with
      ⟨place, hAbove, hReach, hLine⟩
    exact ⟨place, line, hAbove, hReach, hLine, hGuards⟩
  · intro hExists
    rcases hExists with
      ⟨place, line, hAbove, hReach, hLine, hGuards⟩
    exact ⟨line, mem_linesAbove_iff.mpr
      ⟨place, hAbove, hReach, hLine⟩, hGuards⟩

end SafeRerun
