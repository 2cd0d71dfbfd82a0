import SafeRerun.Script.Declaration
import SafeRerun.Proofs.Script.Occurrence

/-
  What becomes of a declaration when the text in which it
  stands is continued.

  Key definitions include:
    * `SafeRerun.openTrigger?`
    * `SafeRerun.IsForeign`

  Key theorems include:
    * `SafeRerun.read_headPhrase_iff`
    * `SafeRerun.read_onPhrase_iff`
    * `SafeRerun.read_declarationPhrase_iff`
    * `SafeRerun.hasOnClause_of_declaration?`
    * `SafeRerun.isNamed_of_declaration?`
    * `SafeRerun.declaration?_append_foreign`

  A text that names no table yet can end in the beginning of
  a declaration.  A foreign text behind it completes this
  beginning only if the word ON has been reached, and then
  its first word is taken for the table.
-/

------------------------------------------------------------
-- The Keywords of a Declaration
------------------------------------------------------------

namespace SafeRerun

theorem isKeyword_createWord :
    IsKeyword createWord := by
  decide

theorem isKeyword_triggerWord :
    IsKeyword triggerWord := by
  decide

theorem isKeyword_onWord :
    IsKeyword onWord := by
  decide

end SafeRerun

------------------------------------------------------------
-- What a Declaration Holds
------------------------------------------------------------

namespace SafeRerun

/- The part of a declaration before its ON clause. -/
def headPhrase :
    Phrase :=
  [.keyword createWord, .gap, .keyword triggerWord, .gap,
   .name]

/- The part of a declaration before its table. -/
def openPhrase :
    Phrase :=
  [.keyword createWord, .gap, .keyword triggerWord, .gap,
   .name, .gap, .keyword onWord]

theorem declarationPhrase_eq_append :
    declarationPhrase = headPhrase ++ onPhrase := rfl

theorem declarationPhrase_isPlain :
    ∀ piece ∈ declarationPhrase, piece.IsPlain := by
  decide

theorem openPhrase_isPlain :
    ∀ piece ∈ openPhrase, piece.IsPlain := by
  decide

/- A keyword with a name behind it, and blanks between. -/
theorem Phrase.read_keyword_name_iff
    {keyword t name rest : Text} :
    Phrase.read [.keyword keyword, .gap, .name] t =
        some ([name], rest) ↔
      ∃ word blanks,
        Spelled keyword word ∧
          blanks ≠ [] ∧ IsBlankRun blanks ∧
            IsWordRun name ∧ StartsOutside isWord rest ∧
              t = word ++ (blanks ++ (name ++ rest)) := by
  constructor
  · intro hRead
    rcases Phrase.read_keyword_iff.mp hRead with
      ⟨word, t₁, hWord, rfl, hGapRead⟩
    rcases Phrase.read_gap_iff.mp hGapRead with
      ⟨blanks, t₂, hBlanks, hRun, -, rfl, hNameRead⟩
    rcases Phrase.read_name_iff.mp hNameRead with
      ⟨found, t₃, more, hName, hRest, rfl, hNames, hEnd⟩
    simp only [Phrase.read, Option.some.injEq,
      Prod.mk.injEq] at hEnd
    rw [List.cons.injEq] at hNames
    rw [hNames.1, ← hEnd.2]
    exact ⟨word, blanks, hWord, hBlanks, hRun, hName, hRest,
      rfl⟩
  · intro hExists
    rcases hExists with
      ⟨word, blanks, hWord, hBlanks, hRun, hName, hRest,
        rfl⟩
    refine Phrase.read_keyword_iff.mpr
      ⟨word, _, hWord, rfl, ?_⟩
    refine Phrase.read_gap_iff.mpr
      ⟨blanks, _, hBlanks, hRun,
        hName.startsOutside_isBlank _, rfl, ?_⟩
    exact Phrase.read_name_iff.mpr
      ⟨name, rest, [], hName, hRest, rfl, rfl, rfl⟩

/- The head of a declaration is its two words and a name. -/
theorem read_headPhrase_iff
    {t name rest : Text} :
    headPhrase.read t = some ([name], rest) ↔
      ∃ create gap trigger blanks,
        Spelled createWord create ∧
          gap ≠ [] ∧ IsBlankRun gap ∧
            Spelled triggerWord trigger ∧
              blanks ≠ [] ∧ IsBlankRun blanks ∧
                IsWordRun name ∧ StartsOutside isWord rest ∧
                  t =
                    create ++ (gap ++ (trigger ++
                      (blanks ++ (name ++ rest)))) := by
  constructor
  · intro hHead
    rcases Phrase.read_keyword_iff.mp hHead with
      ⟨create, t₁, hCreate, rfl, hGapRead⟩
    rcases Phrase.read_gap_iff.mp hGapRead with
      ⟨gap, t₂, hGap, hGapBlank, -, rfl, hTriggerRead⟩
    rcases Phrase.read_keyword_name_iff.mp hTriggerRead with
      ⟨trigger, blanks, hTrigger, hBlanks, hRun, hName,
        hRest, rfl⟩
    exact ⟨create, gap, trigger, blanks, hCreate, hGap,
      hGapBlank, hTrigger, hBlanks, hRun, hName, hRest,
      rfl⟩
  · intro hExists
    rcases hExists with
      ⟨create, gap, trigger, blanks, hCreate, hGap,
        hGapBlank, hTrigger, hBlanks, hRun, hName, hRest,
        rfl⟩
    have hTriggerWord :=
      hTrigger.isWordRun isKeyword_triggerWord
    refine Phrase.read_keyword_iff.mpr
      ⟨create, _, hCreate, rfl, ?_⟩
    refine Phrase.read_gap_iff.mpr
      ⟨gap, _, hGap, hGapBlank,
        hTriggerWord.startsOutside_isBlank _, rfl, ?_⟩
    exact Phrase.read_keyword_name_iff.mpr
      ⟨trigger, blanks, hTrigger, hBlanks, hRun, hName,
        hRest, rfl⟩

/- The ON clause is its word and a name, with gaps. -/
theorem read_onPhrase_iff
    {t table rest : Text} :
    onPhrase.read t = some ([table], rest) ↔
      ∃ gap on blanks,
        gap ≠ [] ∧ IsBlankRun gap ∧ Spelled onWord on ∧
          blanks ≠ [] ∧ IsBlankRun blanks ∧
            IsWordRun table ∧ StartsOutside isWord rest ∧
              t =
                gap ++ (on ++ (blanks ++
                  (table ++ rest))) := by
  constructor
  · intro hClause
    rcases Phrase.read_gap_iff.mp hClause with
      ⟨gap, t₁, hGap, hGapBlank, -, rfl, hOnRead⟩
    rcases Phrase.read_keyword_name_iff.mp hOnRead with
      ⟨on, blanks, hOn, hBlanks, hRun, hTable, hRest, rfl⟩
    exact ⟨gap, on, blanks, hGap, hGapBlank, hOn, hBlanks,
      hRun, hTable, hRest, rfl⟩
  · intro hExists
    rcases hExists with
      ⟨gap, on, blanks, hGap, hGapBlank, hOn, hBlanks, hRun,
        hTable, hRest, rfl⟩
    have hOnWord := hOn.isWordRun isKeyword_onWord
    refine Phrase.read_gap_iff.mpr
      ⟨gap, _, hGap, hGapBlank,
        hOnWord.startsOutside_isBlank _, rfl, ?_⟩
    exact Phrase.read_keyword_name_iff.mpr
      ⟨on, blanks, hOn, hBlanks, hRun, hTable, hRest, rfl⟩

/- A declaration is its head with its ON clause behind. -/
theorem read_declarationPhrase_iff
    {t rest : Text}
    {names : List Text} :
    declarationPhrase.read t = some (names, rest) ↔
      ∃ trigger table clause,
        names = [trigger, table] ∧
          headPhrase.read t = some ([trigger], clause) ∧
            onPhrase.read clause = some ([table], rest) := by
  rw [declarationPhrase_eq_append, Phrase.read_append_iff]
  constructor
  · intro hExists
    rcases hExists with ⟨first, clause, more, hHead, hOn, rfl⟩
    rcases List.length_eq_one_iff.mp
      (Phrase.length_of_read hHead) with ⟨trigger, rfl⟩
    rcases List.length_eq_one_iff.mp
      (Phrase.length_of_read hOn) with ⟨table, rfl⟩
    exact ⟨trigger, table, clause, rfl, hHead, hOn⟩
  · intro hExists
    rcases hExists with
      ⟨trigger, table, clause, rfl, hHead, hOn⟩
    exact ⟨[trigger], clause, [table], hHead, hOn, rfl⟩

/- A declaration is two words read from some place on. -/
theorem exists_read_of_declaration?
    {t : Text}
    {declaration : Declaration}
    (hDeclares : declaration? t = some declaration) :
    ∃ ending after,
      ending <:+ t ∧
        declarationPhrase.read ending =
          some ([declaration.trigger, declaration.table],
            after) := by
  unfold declaration? at hDeclares
  split at hDeclares
  · rename_i trigger table hFind
    simp only [Option.some.injEq] at hDeclares
    subst hDeclares
    exact Phrase.exists_suffix_of_find? hFind
  · simp at hDeclares

/- A clause in an ending of a text is one in the text. -/
theorem hasOnClause_of_suffix
    {t ending : Text}
    (hEnd : ending <:+ t)
    (hClause : hasOnClause ending = true) :
    hasOnClause t = true :=
  Phrase.occursIn_mono hEnd hClause

/- A declaration at the beginning of a text is the leftmost. -/
theorem declaration?_of_read
    {t after trigger table : Text}
    (hRead :
      declarationPhrase.read t =
        some ([trigger, table], after)) :
    declaration? t = some ⟨trigger, table⟩ := by
  cases t with
  | nil =>
      simp only [declaration?, Phrase.find?, hRead,
        Option.map_some]
  | cons c rest =>
      simp only [declaration?, Phrase.find?, hRead]

theorem declaration?_cons_of_read_eq_none
    {c : Char}
    {rest : Text}
    (hRead : declarationPhrase.read (c :: rest) = none) :
    declaration? (c :: rest) = declaration? rest := by
  simp only [declaration?, Phrase.find?, hRead]

/- Blanks before a text do not matter to its declaration. -/
theorem declaration?_blanks_append
    {blanks : Text}
    (hBlanks : IsBlankRun blanks)
    (rest : Text) :
    declaration? (blanks ++ rest) = declaration? rest := by
  have hFind :
      declarationPhrase.find? (blanks ++ rest) =
        declarationPhrase.find? rest :=
    Phrase.find?_blanks_append isKeyword_createWord hBlanks
      rest
  simp only [declaration?, hFind]

/- A text that declares a trigger names its table. -/
theorem hasOnClause_of_declaration?
    {t : Text}
    {declaration : Declaration}
    (hDeclares : declaration? t = some declaration) :
    hasOnClause t = true := by
  rcases exists_read_of_declaration? hDeclares with
    ⟨ending, after, hEnd, hRead⟩
  rcases read_declarationPhrase_iff.mp hRead with
    ⟨trigger, table, clause, -, hHead, hOn⟩
  exact Phrase.occursIn_of_suffix
    ((Phrase.suffix_of_read hHead).trans hEnd) hOn

/- The trigger and the table of a declaration are words. -/
structure Declaration.IsNamed
    (declaration : Declaration) : Prop where
  trigger : IsWordRun declaration.trigger
  table : IsWordRun declaration.table

theorem isNamed_of_declaration?
    {t : Text}
    {declaration : Declaration}
    (hDeclares : declaration? t = some declaration) :
    declaration.IsNamed := by
  rcases exists_read_of_declaration? hDeclares with
    ⟨ending, after, -, hRead⟩
  rcases read_declarationPhrase_iff.mp hRead with
    ⟨trigger, table, clause, hNames, hHead, hOn⟩
  rcases read_headPhrase_iff.mp hHead with
    ⟨create, gap, keyword, blanks, -, -, -, -, -, -,
      hTrigger, -, -⟩
  rcases read_onPhrase_iff.mp hOn with
    ⟨onGap, on, onBlanks, -, -, -, -, -, hTable, -, -⟩
  rw [List.cons.injEq, List.cons.injEq] at hNames
  rcases hNames with ⟨hFirst, hSecond, -⟩
  exact ⟨hFirst ▸ hTrigger, hSecond ▸ hTable⟩

end SafeRerun

------------------------------------------------------------
-- Declarations That Are Still Open
------------------------------------------------------------

namespace SafeRerun

/-
  The trigger of the leftmost declaration that the text ends
  in before the table is named.
-/
def openTrigger? :
    Text → Option Text
  | [] => none
  | c :: rest =>
      match openPhrase.read (c :: rest) with
      | some ([trigger], left) =>
          if left.isAllBlank then
            some trigger
          else
            openTrigger? rest
      | _ => openTrigger? rest

theorem openTrigger?_of_open
    {t left trigger : Text}
    (hOpen : openPhrase.read t = some ([trigger], left))
    (hLeft : IsBlankRun left) :
    openTrigger? t = some trigger := by
  have hAll : left.isAllBlank = true :=
    List.all_eq_true.mpr hLeft
  cases t with
  | nil =>
      simp [Phrase.read_nil_of_isPlain openPhrase_isPlain
        (by decide)] at hOpen
  | cons c rest =>
      simp only [openTrigger?, hOpen, hAll, if_true]

theorem openTrigger?_cons_of_not_open
    {c : Char}
    {rest : Text}
    (hNot :
      ¬ ∃ trigger left,
        openPhrase.read (c :: rest) =
            some ([trigger], left) ∧
          IsBlankRun left) :
    openTrigger? (c :: rest) = openTrigger? rest := by
  rw [openTrigger?]
  split
  · rename_i trigger left hOpen
    rw [if_neg]
    intro hAll
    exact hNot ⟨trigger, left, hOpen,
      List.all_eq_true.mp hAll⟩
  · rfl

/-
  A text that a declaration begun before it goes on in only
  with its table: it begins with a word, and with no part of
  a declaration that is longer than the table.
-/
structure IsForeign
    (t : Text) : Prop where
  startsWord : ∃ c rest, t = c :: rest ∧ isWord c = true
  noTrigger :
    Phrase.read
      [.keyword triggerWord, .gap, .name, .gap,
       .keyword onWord, .gap, .name] t = none
  noName :
    Phrase.read
      [.name, .gap, .keyword onWord, .gap, .name] t = none
  noOn :
    Phrase.read [.keyword onWord, .gap, .name] t = none

/- The first word of a foreign text can be read. -/
theorem IsForeign.read_name
    {t : Text}
    (hForeign : IsForeign t) :
    Phrase.read [.name] t =
      some ([t.takeWhile isWord], t.dropWhile isWord) := by
  rcases hForeign.startsWord with ⟨c, rest, rfl, hWord⟩
  simp [Phrase.read, Piece.read, hWord]

theorem IsForeign.startsOutside
    {t : Text}
    (hForeign : IsForeign t) :
    StartsOutside isBlank t := by
  rcases hForeign.startsWord with ⟨c, rest, rfl, hWord⟩
  exact startsOutside_cons_iff.mpr
    (isBlank_eq_false_of_isWord hWord)

/- The four gaps of a declaration and what follows each. -/
theorem declarationPhrase_gaps
    {front back : Phrase}
    (hPhrase : declarationPhrase = front ++ .gap :: back) :
    back =
        [.keyword triggerWord, .gap, .name, .gap,
         .keyword onWord, .gap, .name] ∨
      back =
        [.name, .gap, .keyword onWord, .gap, .name] ∨
      back = [.keyword onWord, .gap, .name] ∨
      (front = openPhrase ∧ back = [.name]) := by
  unfold declarationPhrase at hPhrase
  rcases front with
    _ | ⟨p₁, _ | ⟨p₂, _ | ⟨p₃, _ | ⟨p₄, _ | ⟨p₅, _ | ⟨p₆,
      _ | ⟨p₇, _ | ⟨p₈, _ | ⟨p₉, front⟩⟩⟩⟩⟩⟩⟩⟩⟩
  all_goals simp at hPhrase
  · simp [← hPhrase.2]
  · simp [← hPhrase.2.2.2]
  · simp [← hPhrase.2.2.2.2.2]
  · simp [← hPhrase, openPhrase]

end SafeRerun

------------------------------------------------------------
-- Foreign Text Behind a Statement
------------------------------------------------------------

namespace SafeRerun

/- The reading of an open declaration names its trigger. -/
theorem exists_trigger_of_read_openPhrase
    {t left : Text}
    {names : List Text}
    (hRead : openPhrase.read t = some (names, left)) :
    ∃ trigger, names = [trigger] :=
  List.length_eq_one_iff.mp (Phrase.length_of_read hRead)

/-
  A declaration that is read across the border of a foreign
  text was open there.
-/
theorem open_of_read_declarationPhrase
    {t rest after : Text}
    {blank : Char}
    {names : List Text}
    (hClause : hasOnClause t = false)
    (hBlank : isBlank blank = true)
    (hForeign : IsForeign rest)
    (hRead :
      declarationPhrase.read (t ++ blank :: rest) =
        some (names, after)) :
    ∃ trigger left,
      openPhrase.read t = some ([trigger], left) ∧
        IsBlankRun left ∧
          names = [trigger, rest.takeWhile isWord] := by
  rcases Phrase.read_append_blank declarationPhrase_isPlain
      hBlank hForeign.startsOutside hRead with
    ⟨left, hInside⟩ |
    ⟨front, back, first, left, more, hPhrase, hFront, hLeft,
      hBack, rfl⟩
  · -- The text before the border holds the whole clause.
    rcases read_declarationPhrase_iff.mp hInside with
      ⟨trigger, table, clause, -, hHead, hOn⟩
    have hOccurs : hasOnClause t = true :=
      Phrase.occursIn_of_suffix
        (Phrase.suffix_of_read hHead) hOn
    rw [hOccurs] at hClause
    contradiction
  · rcases declarationPhrase_gaps hPhrase with
      rfl | rfl | rfl | ⟨rfl, rfl⟩
    · rw [hForeign.noTrigger] at hBack
      simp at hBack
    · rw [hForeign.noName] at hBack
      simp at hBack
    · rw [hForeign.noOn] at hBack
      simp at hBack
    · rcases exists_trigger_of_read_openPhrase hFront with
        ⟨trigger, rfl⟩
      rw [hForeign.read_name] at hBack
      simp only [Option.some.injEq, Prod.mk.injEq] at hBack
      exact ⟨trigger, left, hFront, hLeft,
        by simp [← hBack.1]⟩

/- An open declaration takes its table across the border. -/
theorem read_declarationPhrase_of_open
    {t left rest trigger : Text}
    {blank : Char}
    (hBlank : isBlank blank = true)
    (hForeign : IsForeign rest)
    (hOpen : openPhrase.read t = some ([trigger], left))
    (hLeft : IsBlankRun left) :
    declarationPhrase.read (t ++ blank :: rest) =
      some ([trigger, rest.takeWhile isWord],
        rest.dropWhile isWord) :=
  Phrase.read_append_blank_of_gap openPhrase_isPlain
    (by decide) hBlank hForeign.startsOutside hOpen hLeft
    hForeign.read_name

/-
  With a foreign text behind it, a text that names no table
  declares the trigger of its open declaration; without one
  the foreign text is on its own.
-/
theorem declaration?_append_foreign
    {t rest : Text}
    {blank : Char}
    (hClause : hasOnClause t = false)
    (hBlank : isBlank blank = true)
    (hForeign : IsForeign rest) :
    declaration? (t ++ blank :: rest) =
      match openTrigger? t with
      | some trigger =>
          some ⟨trigger, rest.takeWhile isWord⟩
      | none => declaration? rest := by
  induction t with
  | nil =>
      have hBlanks : IsBlankRun [blank] := by
        simp [IsBlankRun, hBlank]
      exact declaration?_blanks_append hBlanks rest
  | cons c tail ih =>
      have hTail : hasOnClause tail = false := by
        rw [Bool.eq_false_iff] at hClause ⊢
        intro hSome
        exact hClause (hasOnClause_of_suffix
          (List.suffix_cons c tail) hSome)
      by_cases hOpen :
          ∃ trigger left,
            openPhrase.read (c :: tail) =
                some ([trigger], left) ∧
              IsBlankRun left
      · rcases hOpen with ⟨trigger, left, hRead, hLeft⟩
        rw [openTrigger?_of_open hRead hLeft]
        exact declaration?_of_read
          (read_declarationPhrase_of_open hBlank hForeign
            hRead hLeft)
      · rw [openTrigger?_cons_of_not_open hOpen, ← ih hTail]
        apply declaration?_cons_of_read_eq_none
        by_contra hSome
        rcases Option.ne_none_iff_exists'.mp hSome with
          ⟨⟨names, after⟩, hRead⟩
        rcases open_of_read_declarationPhrase hClause hBlank
            hForeign hRead with
          ⟨trigger, left, hHere, hLeft, -⟩
        exact hOpen ⟨trigger, left, hHere, hLeft⟩

end SafeRerun
