import SafeRerun.Proofs.Pass.Gathering
import SafeRerun.Proofs.Script.Start
import SafeRerun.Proofs.Text.Words

/-
  Statements laid out over the lines of a script in any way.

  Key definitions include:
    * `SafeRerun.Gap`
    * `SafeRerun.Layout`
    * `SafeRerun.Layout.text`

  Key theorems include:
    * `SafeRerun.declaration?_of_words`
    * `SafeRerun.exists_words_of_hasOnClause`
    * `SafeRerun.readAt_layout`

  A pass trims the lines of a statement and joins them with
  spaces.  This keeps its words, and the words alone decide
  what the text declares and whether it names a table.  So
  only the words matter of how a statement is laid out, and
  where its lines end is of no account.
-/

------------------------------------------------------------
-- What Words Decide
------------------------------------------------------------

namespace SafeRerun

variable {t : Text}

/- The words of a statement that grows are those added. -/
theorem words_grown
    (statement : Text)
    (lines : List Text) :
    (grown statement lines).words =
      statement.words ++ lines.flatMap Text.words := by
  induction lines generalizing statement with
  | nil =>
      simp [grown]
  | cons line rest ih =>
      have hSpace : isBlank ' ' = true := by decide
      rw [grown, List.foldl_cons, ← grown, ih,
        Text.words_append_blank statement hSpace,
        Text.words_trim, List.flatMap_cons,
        List.append_assoc]

/- A word is the beginning of a word of the text. -/
theorem exists_words_append
    {word rest : Text}
    (hWord : IsWordRun word)
    (hRest : StartsOutside isWord rest) :
    ∃ more others,
      (word ++ rest).words = (word ++ more) :: others ∧
        StartsOutside isWord more := by
  have hDivide :
      rest.takeWhile (fun c => !isBlank c) ++
          rest.dropWhile (fun c => !isBlank c) =
        rest :=
    List.takeWhile_append_dropWhile
  refine ⟨rest.takeWhile (fun c => !isBlank c),
    Text.words (rest.dropWhile (fun c => !isBlank c)),
    ?_, ?_⟩
  · have hSolid :
        ∀ c ∈ word ++ rest.takeWhile (fun c => !isBlank c),
          isBlank c = false := by
      intro c hMem
      rcases List.mem_append.mp hMem with hFront | hBack
      · exact hWord.solid c hFront
      · simpa using List.mem_takeWhile_imp hBack
    rw [← Text.words_solid_append (by simp [hWord.1])
      hSolid (startsOutside_dropWhile _ rest),
      List.append_assoc, hDivide]
  · rw [← hDivide] at hRest
    exact hRest.of_append

/- No text goes on inside a word behind the word. -/
theorem startsOutside_isWord_of_solid
    (hStart : StartsOutside (fun c => !isBlank c) t) :
    StartsOutside isWord t := by
  intro c hHead
  have hBlank : isBlank c = true := by
    simpa using hStart c hHead
  exact isWord_eq_false_of_isBlank hBlank

/- The first five words of a text declare a trigger. -/
theorem declaration?_of_words
    {create trigger on more : Text}
    {others : List Text}
    {declaration : Declaration}
    (hCreate : Spelled createWord create)
    (hTrigger : Spelled triggerWord trigger)
    (hOn : Spelled onWord on)
    (hNamed : declaration.IsNamed)
    (hMore : StartsOutside isWord more)
    (hWords :
      t.words =
        create :: trigger :: declaration.trigger :: on ::
          (declaration.table ++ more) :: others) :
    declaration? t = some declaration := by
  rcases Text.exists_of_words_eq_cons hWords with
    ⟨margin, t₁, rfl, hMargin, -, -, hStart₁, hWords₁⟩
  rcases Text.exists_gap_of_words_eq_cons hWords₁
      hStart₁ with
    ⟨gap₁, t₂, hGap₁, hBlank₁, rfl, hSolid₁, hStart₂,
      hWords₂⟩
  rcases Text.exists_gap_of_words_eq_cons hWords₂
      hStart₂ with
    ⟨gap₂, t₃, hGap₂, hBlank₂, rfl, hSolid₂, hStart₃,
      hWords₃⟩
  rcases Text.exists_gap_of_words_eq_cons hWords₃
      hStart₃ with
    ⟨gap₃, t₄, hGap₃, hBlank₃, rfl, hSolid₃, hStart₄,
      hWords₄⟩
  rcases Text.exists_gap_of_words_eq_cons hWords₄
      hStart₄ with
    ⟨gap₄, t₅, hGap₄, hBlank₄, rfl, hSolid₄, hStart₅, -⟩
  rw [declaration?_blanks_append hMargin]
  have hTable : StartsOutside isWord (more ++ t₅) := by
    by_cases hNil : more = []
    · rw [hNil]
      exact startsOutside_isWord_of_solid hStart₅
    · exact hMore.append hNil t₅
  have hHead :
      headPhrase.read
          (create ++ (gap₁ ++ (trigger ++ (gap₂ ++
            (declaration.trigger ++ (gap₃ ++ (on ++
              (gap₄ ++ (declaration.table ++ more ++
                t₅))))))))) =
        some ([declaration.trigger],
          gap₃ ++ (on ++ (gap₄ ++
            (declaration.table ++ more ++ t₅)))) :=
    read_headPhrase_iff.mpr
      ⟨create, gap₁, trigger, gap₂, hCreate, hGap₁,
        hBlank₁, hTrigger, hGap₂, hBlank₂, hNamed.trigger,
        hBlank₃.startsOutside_isWord hGap₃ _, rfl⟩
  have hOnRead :
      onPhrase.read
          (gap₃ ++ (on ++ (gap₄ ++
            (declaration.table ++ more ++ t₅)))) =
        some ([declaration.table], more ++ t₅) :=
    read_onPhrase_iff.mpr
      ⟨gap₃, on, gap₄, hGap₃, hBlank₃, hOn, hGap₄, hBlank₄,
        hNamed.table, hTable, by rw [List.append_assoc]⟩
  exact declaration?_of_read
    (read_declarationPhrase_iff.mpr
      ⟨_, _, _, rfl, hHead, hOnRead⟩)

/- A clause that names a table is the word ON and another. -/
theorem exists_words_of_hasOnClause
    (hClause : hasOnClause t = true) :
    ∃ front on word back,
      t.words = front ++ on :: word :: back ∧
        Spelled onWord on := by
  rw [hasOnClause, Phrase.occursIn,
    Option.isSome_iff_exists] at hClause
  rcases hClause with ⟨names, hFind⟩
  rcases Phrase.exists_suffix_of_find? hFind with
    ⟨ending, after, ⟨front, rfl⟩, hRead⟩
  rcases List.length_eq_one_iff.mp
    (Phrase.length_of_read hRead) with ⟨name, rfl⟩
  rcases read_onPhrase_iff.mp hRead with
    ⟨gap₁, on, gap₂, hGap₁, hBlank₁, hOn, hGap₂, hBlank₂,
      hName, hOut, rfl⟩
  rcases exists_words_append hName hOut with
    ⟨tail, others, hWords, -⟩
  have hOnWord := hOn.isWordRun isKeyword_onWord
  refine ⟨Text.words front, on, name ++ tail, others, ?_, hOn⟩
  cases gap₁ with
  | nil =>
      contradiction
  | cons blank blanks =>
      have hBlanks : IsBlankRun blanks :=
        fun c hMem => hBlank₁ c (by simp [hMem])
      rw [List.cons_append,
        Text.words_append_blank front
          (hBlank₁ blank (by simp)),
        Text.words_blanks_append hBlanks,
        Text.words_solid_append hOnWord.1 hOnWord.solid
          (hBlank₂.startsOutside_solid hGap₂ _),
        Text.words_blanks_append hBlank₂, hWords]

end SafeRerun

------------------------------------------------------------
-- Layouts
------------------------------------------------------------

namespace SafeRerun

/- The blanks between two words, at least one. -/
structure Gap where
  text : Text
  nonempty : text ≠ []
  blank : IsBlankRun text

/-
  A way to lay out the statement of a declaration in a text.
  The words CREATE and TRIGGER stand on one line, which has
  nothing but blanks before them.  Every other gap can go
  over any number of lines.
-/
structure Layout
    (declaration : Declaration) where
  above : Text
  margin : Text
  create : Text
  inside : Gap
  trigger : Text
  behindTrigger : Gap
  behindName : Gap
  on : Text
  behindOn : Gap
  rest : Text
  closed : ClosesLine above
  marginBlank : IsBlankRun margin
  marginLine : '\n' ∉ margin
  createSpelled : Spelled createWord create
  insideLine : '\n' ∉ inside.text
  triggerSpelled : Spelled triggerWord trigger
  onSpelled : Spelled onWord on
  named : declaration.IsNamed
  ended : StartsOutside isWord rest

namespace Layout

variable {declaration : Declaration}

/- The beginning of the statement, all on one line. -/
def head
    (layout : Layout declaration) :
    Text :=
  layout.margin ++ (layout.create ++
    (layout.inside.text ++ layout.trigger))

/- The statement up to its table. -/
def front
    (layout : Layout declaration) :
    Text :=
  layout.head ++ (layout.behindTrigger.text ++
    (declaration.trigger ++ (layout.behindName.text ++
      (layout.on ++ layout.behindOn.text))))

/- The text that holds the statement. -/
def text
    (layout : Layout declaration) :
    Text :=
  layout.above ++ (layout.front ++
    (declaration.table ++ layout.rest))

/- The line on which the statement starts. -/
def startLine
    (layout : Layout declaration) :
    Nat :=
  layout.above.count '\n'

/- The line on which the name of the table starts. -/
def tableLine
    (layout : Layout declaration) :
    Nat :=
  (layout.above ++ layout.front).count '\n'

variable (layout : Layout declaration)

/- The words of the statement before its table. -/
theorem words_front_append
    (back : Text) :
    (layout.front ++ back).words =
      layout.create :: layout.trigger ::
        declaration.trigger :: layout.on :: back.words := by
  have hCreate :=
    layout.createSpelled.isWordRun isKeyword_createWord
  have hTrigger :=
    layout.triggerSpelled.isWordRun isKeyword_triggerWord
  have hName := layout.named.trigger
  have hOn := layout.onSpelled.isWordRun isKeyword_onWord
  simp only [front, head, List.append_assoc]
  rw [Text.words_blanks_append layout.marginBlank,
    Text.words_word_gap_append hCreate layout.inside.nonempty
      layout.inside.blank,
    Text.words_word_gap_append hTrigger
      layout.behindTrigger.nonempty
      layout.behindTrigger.blank,
    Text.words_word_gap_append hName
      layout.behindName.nonempty layout.behindName.blank,
    Text.words_word_gap_append hOn layout.behindOn.nonempty
      layout.behindOn.blank]

/- No line ends before the word TRIGGER does. -/
theorem feed_not_mem_head :
    '\n' ∉ layout.head := by
  have hCreate :=
    layout.createSpelled.isWordRun isKeyword_createWord
  have hTrigger :=
    layout.triggerSpelled.isWordRun isKeyword_triggerWord
  simp only [head, List.mem_append, not_or]
  exact ⟨layout.marginLine, hCreate.feed_not_mem,
    layout.insideLine, hTrigger.feed_not_mem⟩

/- The statement starts the first line that holds it. -/
theorem exists_startLine
    (back : Text) :
    ∃ line below,
      Text.splitLines (layout.front ++ back) =
          line :: below ∧
        isStatementStart line = true := by
  have hTrigger :=
    layout.triggerSpelled.isWordRun isKeyword_triggerWord
  have hHead : layout.head ≠ [] := by
    simp [head, hTrigger.1]
  rw [front, List.append_assoc]
  rcases exists_splitLines_append hHead
      layout.feed_not_mem_head _ with
    ⟨more, after, below, hMore, hSome, hLines⟩
  refine ⟨layout.head ++ more, below, hLines, ?_⟩
  -- What follows TRIGGER on its line begins with a blank.
  have hGap : more.takeWhile isBlank ≠ [] := by
    cases more with
    | nil =>
        have hNone := hSome rfl
        simp [layout.behindTrigger.nonempty] at hNone
    | cons c tail =>
        have hBlank : isBlank c = true := by
          cases hText : layout.behindTrigger.text with
          | nil =>
              exact absurd hText
                layout.behindTrigger.nonempty
          | cons d blanks =>
              rw [hText] at hMore
              rw [← (List.cons.inj hMore).1]
              exact layout.behindTrigger.blank d
                (by simp [hText])
        simp [hBlank]
  exact isStatementStart_iff.mpr
    ⟨layout.margin, layout.create, layout.inside.text,
      layout.trigger, more.takeWhile isBlank,
      more.dropWhile isBlank, layout.marginBlank,
      layout.createSpelled, layout.inside.nonempty,
      layout.inside.blank, layout.triggerSpelled, hGap,
      fun c hMem => List.mem_takeWhile_imp hMem,
      startsOutside_dropWhile isBlank more,
      by simp [head]⟩

/- No text that ends before the table names one. -/
theorem hasOnClause_eq_false_of_prefix
    {t : Text}
    (hName : ¬ Spelled onWord declaration.trigger)
    (hWords : t.words <+: layout.front.words) :
    hasOnClause t = false := by
  have hFront := layout.words_front_append []
  rw [List.append_nil, Text.words_nil] at hFront
  rw [Bool.eq_false_iff]
  intro hClause
  rcases exists_words_of_hasOnClause hClause with
    ⟨before, on, word, back, hText, hOn⟩
  rcases hWords with ⟨after, hAfter⟩
  rw [hFront, hText, List.append_assoc, List.cons_append,
    List.cons_append] at hAfter
  -- The word ON can be none of the three before it.
  have hOther :
      ∀ {keyword spelling : Text},
        IsKeyword keyword → Spelled keyword spelling →
          keyword ≠ onWord → on ≠ spelling := by
    rintro keyword spelling hKeyword hSpelled hApart rfl
    exact hApart (hSpelled.unique hOn hKeyword.2
      isKeyword_onWord.2)
  rcases before with _ | ⟨first, _ | ⟨second, _ | ⟨third,
    more⟩⟩⟩
  · exact hOther isKeyword_createWord layout.createSpelled
      (by decide) (List.cons.inj hAfter).1
  · simp only [List.cons_append, List.nil_append,
      List.cons.injEq] at hAfter
    exact hOther isKeyword_triggerWord layout.triggerSpelled
      (by decide) hAfter.2.1
  · simp only [List.cons_append, List.nil_append,
      List.cons.injEq] at hAfter
    rw [hAfter.2.2.1] at hOn
    exact hName hOn
  · have hCount := congrArg List.length hAfter
    simp at hCount
    omega

/-
  The lines of the statement: closed ones, and the one on
  which the name of the table starts.
-/
theorem exists_lines :
    ∃ closed line more lines,
      layout.front = closed ++ line ∧ ClosesLine closed ∧
        closed.count '\n' = layout.front.count '\n' ∧
          StartsOutside isWord more ∧
            Text.splitLines
                (layout.front ++
                  (declaration.table ++ layout.rest)) =
              Text.splitLines closed ++
                (line ++ (declaration.table ++ more)) ::
                  lines := by
  rcases exists_openLine layout.front with
    ⟨closed, line, hFront, hClosed, hFeed⟩
  have hTable := layout.named.table
  have hStart : line ++ declaration.table ≠ [] := by
    simp [hTable.1]
  have hNone : '\n' ∉ line ++ declaration.table := by
    rw [List.mem_append, not_or]
    exact ⟨hFeed, hTable.feed_not_mem⟩
  rcases exists_splitLines_append hStart hNone
      layout.rest with
    ⟨more, after, lines, hRest, -, hLines⟩
  have hEnded := layout.ended
  rw [hRest] at hEnded
  refine ⟨closed, line, more, lines, hFront, hClosed, ?_,
    hEnded.of_append, ?_⟩
  · rw [hFront, List.count_append,
      List.count_eq_zero.mpr hFeed, Nat.add_zero]
  · rw [hFront, List.append_assoc,
      splitLines_append_of_closesLine hClosed,
      ← List.append_assoc line, hLines, List.append_assoc]

end Layout

end SafeRerun

------------------------------------------------------------
-- Reading a Layout
------------------------------------------------------------

namespace SafeRerun

/-
  A statement is recognised in whatever way it is laid out
  and whatever stands above and below it, if the lookahead
  reaches the line of its table.
-/
theorem readAt_layout
    {declaration : Declaration}
    (layout : Layout declaration)
    (lookahead : Nat)
    (hName : ¬ Spelled onWord declaration.trigger)
    (hReach :
      layout.tableLine ≤ layout.startLine + lookahead) :
    readAt lookahead layout.text.splitLines
        layout.startLine =
      .declared declaration := by
  rcases layout.exists_lines with
    ⟨closed, line, more, lines, hFront, hClosed, hCount,
      hMore, hLines⟩
  rcases layout.exists_startLine
      (declaration.table ++ layout.rest) with
    ⟨first, below, hFirst, hStart⟩
  have hDrop :
      layout.text.splitLines.drop layout.startLine =
        first :: below := by
    rw [Layout.text,
      splitLines_append_of_closesLine layout.closed, hFirst]
    exact List.drop_left'
      (length_splitLines_of_closesLine layout.closed)
  have hAll :
      first :: below =
        closed.splitLines ++
          (line ++ (declaration.table ++ more)) :: lines :=
    hFirst.symm.trans hLines
  have hLength :=
    length_splitLines_of_closesLine hClosed
  -- Gathered text has the words of the lines gathered.
  have hWords :
      ∀ count,
        (grown first.trim (below.take count)).words =
          ((first :: below).take (count + 1)).flatMap
            Text.words := by
    intro count
    rw [words_grown, Text.words_trim, List.take_succ_cons,
      List.flatMap_cons]
  have hDeclares :
      declaration?
          (grown first.trim
            (below.take (closed.count '\n'))) =
        some declaration := by
    rcases exists_words_append layout.named.table hMore with
      ⟨tail, others, hTable, hTail⟩
    have hTake :
        (first :: below).take (closed.count '\n' + 1) =
          closed.splitLines ++
            [line ++ (declaration.table ++ more)] := by
      rw [hAll, ← hLength, List.take_length_add_append]
      rfl
    have hFive :
        (grown first.trim
            (below.take (closed.count '\n'))).words =
          layout.create :: layout.trigger ::
            declaration.trigger :: layout.on ::
              (declaration.table ++ tail) :: others := by
      rw [hWords, hTake, List.flatMap_append,
        Text.flatMap_words_splitLines,
        List.flatMap_singleton,
        ← Text.words_append_of_closesLine hClosed,
        ← List.append_assoc, ← hFront,
        layout.words_front_append, hTable]
    exact declaration?_of_words layout.createSpelled
      layout.triggerSpelled layout.onSpelled layout.named
      hTail hFive
  rw [readAt_of_isStatementStart hDrop hStart,
    readGathered_eq_declared_iff_after]
  refine ⟨closed.count '\n', ?_, ⟨?_, ?_, ?_⟩, hDeclares⟩
  · simp only [Layout.tableLine, Layout.startLine,
      List.count_append] at hReach
    omega
  · have hSame := congrArg List.length hAll
    simp only [List.length_cons, List.length_append]
      at hSame
    omega
  · exact hasOnClause_of_declaration? hDeclares
  · intro fewer hFewer
    apply layout.hasOnClause_eq_false_of_prefix hName
    rw [hWords, hAll, List.take_append_of_le_length
        (hFewer.trans_eq hLength.symm),
      hFront, Text.words_append_of_closesLine hClosed,
      ← Text.flatMap_words_splitLines closed]
    exact ((List.take_prefix _ _).flatMap _).trans
      (List.prefix_append _ _)

/-
  A statement over six lines with other text above, its ends
  of lines not all alike and its second gap a wide space.
-/
def scatteredLayout :
    Layout ⟨Text.ofString "one", Text.ofString "t1"⟩ where
  above := Text.ofString "-- first\r\n\n"
  margin := Text.ofString " \t"
  create := Text.ofString "Create"
  inside :=
    ⟨Text.ofString "  ", by decide, by decide⟩
  trigger := Text.ofString "tRIGGER"
  behindTrigger :=
    ⟨Text.ofString "\r\n\u3000\n", by decide, by decide⟩
  behindName :=
    ⟨Text.ofString "\n", by decide, by decide⟩
  on := Text.ofString "oN"
  behindOn :=
    ⟨Text.ofString " \n\n ", by decide, by decide⟩
  rest := Text.ofString "(a);\nON t2"
  closed := Or.inr ⟨Text.ofString "-- first\r\n", by decide⟩
  marginBlank := by decide
  marginLine := by decide
  createSpelled := by
    simp [Spelled, createWord, Text.ofString, spells]
  insideLine := by decide
  triggerSpelled := by
    simp [Spelled, triggerWord, Text.ofString, spells]
  onSpelled := by
    simp [Spelled, onWord, Text.ofString, spells]
  named := ⟨by decide, by decide⟩
  ended := by
    simp [StartsOutside, Text.ofString]
    decide

theorem readAt_layout_scattered :
    scatteredLayout.tableLine = 7 ∧
      readAt 5 scatteredLayout.text.splitLines 2 =
        .declared ⟨Text.ofString "one",
          Text.ofString "t1"⟩ := by
  refine ⟨by decide, readAt_layout scatteredLayout 5 ?_ ?_⟩
  · intro hSpelled
    exact absurd hSpelled.length_eq (by decide)
  · decide

end SafeRerun
