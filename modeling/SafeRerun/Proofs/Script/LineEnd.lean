import SafeRerun.Proofs.Script.Row
import SafeRerun.Proofs.Text.Words

/-
  What is read of a line whatever blanks it ends in.

  Key definitions include:
    * `SafeRerun.ReadsAlike`

  Key theorems include:
    * `SafeRerun.guardedNames_append_blanks`
    * `SafeRerun.isStatementStart_append_blanks_iff`
    * `SafeRerun.readsAlike_append_blanks`

  A pass looks at a line in three ways: whether a statement
  starts on it, which text it adds to a statement, and which
  guards it holds.  None of them tells apart two lines that
  differ in the blanks at their ends only, as long as there
  is a blank at all: the word TRIGGER needs one behind it.
-/

------------------------------------------------------------
-- Guards Before Blanks
------------------------------------------------------------

namespace SafeRerun

namespace Phrase

variable {blank : Char}
variable {blanks : Text}

/- No gap is read at the end if something must follow it. -/
theorem read_gap_of_isBlankRun
    {pieces : Phrase}
    {t : Text}
    (hNone : pieces.read [] = none)
    (hRun : IsBlankRun t) :
    Phrase.read (.gap :: pieces) t = none := by
  by_contra hSome
  rcases Option.ne_none_iff_exists'.mp hSome with
    ⟨⟨names, after⟩, hRead⟩
  rcases read_gap_iff.mp hRead with
    ⟨gap, rest, -, -, hStart, rfl, hMore⟩
  cases rest with
  | nil =>
      simp [hNone] at hMore
  | cons c tail =>
      have hOut := startsOutside_cons_iff.mp hStart
      rw [hRun c (by simp)] at hOut
      contradiction

/-
  A gap that something must follow does not end in blanks at
  the end of a text.  Where it ends before them, it ends as
  if they were not there.
-/
theorem EndsBefore.gap_blanks
    {pieces : Phrase}
    (hBlanks : IsBlankRun blanks)
    (hPieces : EndsBefore pieces blanks)
    (hNone : pieces.read [] = none) :
    EndsBefore (.gap :: pieces) blanks := by
  intro t
  by_cases hRun : IsBlankRun t
  · have hLong : IsBlankRun (t ++ blanks) := by
      intro c hMem
      rcases List.mem_append.mp hMem with hFront | hBack
      · exact hRun c hFront
      · exact hBlanks c hBack
    rw [read_gap_of_isBlankRun hNone hLong,
      read_gap_of_isBlankRun hNone hRun, Option.map_none]
  · refine hPieces.read_cons ?_
    cases t with
    | nil =>
        exact absurd isBlankRun_nil hRun
    | cons c tail =>
        by_cases hBlank : isBlank c = true
        · have hTail : tail.dropWhile isBlank ≠ [] := by
            intro hNil
            refine hRun fun d hMem => ?_
            rcases List.mem_cons.mp hMem with rfl | hRest
            · exact hBlank
            · exact List.dropWhile_eq_nil_iff.mp hNil d
                hRest
          simp [Piece.read, Text.skipBlanks, hBlank,
            List.dropWhile_append, hTail]
        · simp [Piece.read, hBlank]

/- Plain pieces in front end before blanks as well. -/
theorem EndsBefore.append_blanks
    {front back : Phrase}
    (hPlain : ∀ piece ∈ front, piece.IsPlain)
    (hBlanks : IsBlankRun (blank :: blanks))
    (hBack : back.EndsBefore (blank :: blanks))
    (hNone : back.read [] = none) :
    EndsBefore (front ++ back) (blank :: blanks) := by
  have hApart : isWord blank = false :=
    isWord_eq_false_of_isBlank (hBlanks blank (by simp))
  induction front with
  | nil =>
      exact hBack
  | cons piece pieces ih =>
      have hPieces : ∀ other ∈ pieces, other.IsPlain :=
        fun other hMem => hPlain other (by simp [hMem])
      have hPiece := hPlain piece (by simp)
      have hRest := ih hPieces
      cases piece with
      | margin =>
          exact absurd hPiece (by simp [Piece.IsPlain])
      | quote =>
          exact absurd hPiece (by simp [Piece.IsPlain])
      | keyword letters =>
          exact fun t =>
            hRest.read_cons (Piece.read_keyword_append hApart
              hPiece.2 t blanks)
      | name =>
          exact fun t =>
            hRest.read_cons
              (Piece.read_name_append hApart t blanks)
      | gap =>
          refine EndsBefore.gap_blanks hBlanks hRest ?_
          cases pieces with
          | nil =>
              exact hNone
          | cons next others =>
              simp [Phrase.read,
                (hPieces next (by simp)).read_nil]

end Phrase

/- Blanks behind a line hold no guard and end none. -/
theorem guardedNames_append_blanks
    (t : Text)
    {blanks : Text}
    (hBlanks : IsBlankRun blanks) :
    guardedNames (t ++ blanks) = guardedNames t := by
  have hNames : guardedNames blanks = [] := by
    rw [← List.append_nil blanks,
      guardedNames_blanks_append hBlanks, guardedNames]
  cases blanks with
  | nil =>
      rw [List.append_nil]
  | cons blank rest =>
      have hApart : isWord blank = false :=
        isWord_eq_false_of_isBlank (hBlanks blank (by simp))
      have hName :
          Phrase.EndsBefore [.quote, .name]
            (blank :: rest) := by
        refine Phrase.endsBefore_quote_name hApart ?_
        rintro rfl
        exact absurd (hBlanks '"' (by simp)) (by decide)
      have hEnds : guardPhrase.EndsBefore (blank :: rest) :=
        Phrase.EndsBefore.append_blanks dropPhrase_isPlain
          hBlanks hName rfl
      rw [guardedNames_append hEnds, hNames,
        List.append_nil]

end SafeRerun

------------------------------------------------------------
-- Starts Before Blanks
------------------------------------------------------------

namespace SafeRerun

variable {t : Text}
variable {blanks : Text}

/- A start begins with the words CREATE and TRIGGER. -/
theorem exists_words_of_isStatementStart
    {line : Text}
    (hStart : isStatementStart line = true) :
    ∃ create trigger others,
      line.words = create :: trigger :: others ∧
        Spelled createWord create ∧
          Spelled triggerWord trigger := by
  rcases isStatementStart_iff.mp hStart with
    ⟨margin, create, gap, trigger, behind, rest, hMargin,
      hCreate, hGap, hGapBlank, hTrigger, hBehind, hBlank,
      -, rfl⟩
  refine ⟨create, trigger, rest.words, ?_, hCreate,
    hTrigger⟩
  rw [Text.words_blanks_append hMargin,
    Text.words_word_gap_append
      (hCreate.isWordRun isKeyword_createWord) hGap
      hGapBlank,
    Text.words_word_gap_append
      (hTrigger.isWordRun isKeyword_triggerWord) hBehind
      hBlank]

/-
  A line that ends in a blank starts a statement exactly when
  its first two words are CREATE and TRIGGER.
-/
theorem isStatementStart_append_blanks_iff
    (hNonempty : blanks ≠ [])
    (hBlanks : IsBlankRun blanks) :
    isStatementStart (t ++ blanks) = true ↔
      ∃ create trigger others,
        t.words = create :: trigger :: others ∧
          Spelled createWord create ∧
            Spelled triggerWord trigger := by
  have hSame : (t ++ blanks).words = t.words :=
    Text.words_append_blanks t hBlanks
  constructor
  · intro hStart
    rw [← hSame]
    exact exists_words_of_isStatementStart hStart
  · rintro ⟨create, trigger, others, hWords, hCreate,
      hTrigger⟩
    have hCreateWord :=
      hCreate.isWordRun isKeyword_createWord
    have hTriggerWord :=
      hTrigger.isWordRun isKeyword_triggerWord
    rw [← hSame] at hWords
    rcases Text.exists_of_words_eq_cons hWords with
      ⟨margin, rest, hText, hMargin, -, -, hOut, hMore⟩
    rcases Text.exists_gap_of_words_eq_cons hMore hOut with
      ⟨gap, behind, hGap, hGapBlank, rfl, -, hBehind, -⟩
    -- The blank at the end stands behind TRIGGER.
    have hSome : behind ≠ [] := by
      rintro rfl
      have hLast :
          blanks.getLast? = trigger.getLast? := by
        rw [← List.getLast?_append_of_ne_nil t hNonempty,
          hText, List.append_nil, ← List.append_assoc,
          ← List.append_assoc,
          List.getLast?_append_of_ne_nil _ hTriggerWord.1]
      have hEnd :=
        List.getLast?_eq_some_getLast hTriggerWord.1
      have hBlank :=
        hBlanks _ (List.mem_of_getLast? (hLast.trans hEnd))
      rw [hTriggerWord.solid _
        (List.mem_of_getLast? hEnd)] at hBlank
      contradiction
    refine isStatementStart_iff.mpr
      ⟨margin, create, gap, trigger,
        behind.takeWhile isBlank, behind.dropWhile isBlank,
        hMargin, hCreate, hGap, hGapBlank, hTrigger, ?_,
        fun c hMem => List.mem_takeWhile_imp hMem,
        startsOutside_dropWhile isBlank behind, ?_⟩
    · cases behind with
      | nil =>
          contradiction
      | cons c tail =>
          have hBlank : isBlank c = true := by
            simpa using startsOutside_cons_iff.mp hBehind
          simp [hBlank]
    · rw [List.takeWhile_append_dropWhile]
      exact hText

/- Which blanks a line ends in is of no account. -/
theorem isStatementStart_append_blanks
    {others : Text}
    (t : Text)
    (hNonempty : blanks ≠ [])
    (hBlanks : IsBlankRun blanks)
    (hOtherNonempty : others ≠ [])
    (hOthers : IsBlankRun others) :
    isStatementStart (t ++ blanks) =
      isStatementStart (t ++ others) := by
  rw [Bool.eq_iff_iff,
    isStatementStart_append_blanks_iff hNonempty hBlanks,
    isStatementStart_append_blanks_iff hOtherNonempty
      hOthers]

end SafeRerun

------------------------------------------------------------
-- Lines That Read Alike
------------------------------------------------------------

namespace SafeRerun

/- Two lines in which a pass finds the same. -/
structure ReadsAlike
    (line other : Text) : Prop where
  start : isStatementStart line = isStatementStart other
  trim : line.trim = other.trim
  names : guardedNames line = guardedNames other

/- Lines that differ in the blanks at their ends only. -/
theorem readsAlike_append_blanks
    {blanks others : Text}
    (t : Text)
    (hNonempty : blanks ≠ [])
    (hBlanks : IsBlankRun blanks)
    (hOtherNonempty : others ≠ [])
    (hOthers : IsBlankRun others) :
    ReadsAlike (t ++ blanks) (t ++ others) where
  start :=
    isStatementStart_append_blanks t hNonempty hBlanks
      hOtherNonempty hOthers
  trim := by
    rw [Text.trim_append_blanks t hBlanks,
      Text.trim_append_blanks t hOthers]
  names := by
    rw [guardedNames_append_blanks t hBlanks,
      guardedNames_append_blanks t hOthers]

end SafeRerun
