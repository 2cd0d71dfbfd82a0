import SafeRerun.Proofs.Script.Declaration
import SafeRerun.Proofs.Text.Trim

/-
  Lines that start a statement.

  Key theorems include:
    * `SafeRerun.isStatementStart_iff`
    * `SafeRerun.exists_trim_of_isStatementStart`
    * `SafeRerun.isForeign_trim_of_isStatementStart`

  A statement that is still open when the next one starts
  takes at most the word CREATE from it.
-/

------------------------------------------------------------
-- The Text of a Start
------------------------------------------------------------

namespace SafeRerun

/- A start is CREATE TRIGGER with blanks behind each word. -/
theorem isStatementStart_iff
    {line : Text} :
    isStatementStart line = true ↔
      ∃ margin create gap trigger blanks rest,
        IsBlankRun margin ∧ Spelled createWord create ∧
          gap ≠ [] ∧ IsBlankRun gap ∧
            Spelled triggerWord trigger ∧
              blanks ≠ [] ∧ IsBlankRun blanks ∧
                StartsOutside isBlank rest ∧
                  line =
                    margin ++ (create ++ (gap ++
                      (trigger ++ (blanks ++ rest)))) := by
  unfold isStatementStart Phrase.startsIn
  rw [Option.isSome_iff_exists]
  constructor
  · intro hExists
    rcases hExists with ⟨⟨names, after⟩, hRead⟩
    rcases Phrase.read_margin_iff.mp hRead with
      ⟨margin, t₁, hMargin, -, hText, hCreateRead⟩
    rcases Phrase.read_keyword_iff.mp hCreateRead with
      ⟨create, t₂, hCreate, rfl, hGapRead⟩
    rcases Phrase.read_gap_iff.mp hGapRead with
      ⟨gap, t₃, hGap, hGapBlank, -, rfl, hTriggerRead⟩
    rcases Phrase.read_keyword_iff.mp hTriggerRead with
      ⟨trigger, t₄, hTrigger, rfl, hBlanksRead⟩
    rcases Phrase.read_gap_iff.mp hBlanksRead with
      ⟨blanks, t₅, hBlanks, hBlank, hRest, rfl, -⟩
    exact ⟨margin, create, gap, trigger, blanks, t₅,
      hMargin, hCreate, hGap, hGapBlank, hTrigger, hBlanks,
      hBlank, hRest, hText⟩
  · intro hExists
    rcases hExists with
      ⟨margin, create, gap, trigger, blanks, rest, hMargin,
        hCreate, hGap, hGapBlank, hTrigger, hBlanks, hBlank,
        hRest, rfl⟩
    have hCreateWord := hCreate.isWordRun isKeyword_createWord
    have hTriggerWord :=
    hTrigger.isWordRun isKeyword_triggerWord
    refine ⟨([], rest), ?_⟩
    refine Phrase.read_margin_iff.mpr
      ⟨margin, _, hMargin,
        hCreateWord.startsOutside_isBlank _, rfl, ?_⟩
    refine Phrase.read_keyword_iff.mpr
      ⟨create, _, hCreate, rfl, ?_⟩
    refine Phrase.read_gap_iff.mpr
      ⟨gap, _, hGap, hGapBlank,
        hTriggerWord.startsOutside_isBlank _, rfl, ?_⟩
    refine Phrase.read_keyword_iff.mpr
      ⟨trigger, _, hTrigger, rfl, ?_⟩
    exact Phrase.read_gap_iff.mpr
      ⟨blanks, rest, hBlanks, hBlank, hRest, rfl, rfl⟩

/- Trimming keeps both words of a start. -/
theorem exists_trim_of_isStatementStart
    {line : Text}
    (hStart : isStatementStart line = true) :
    ∃ create gap trigger tail,
      Spelled createWord create ∧
        gap ≠ [] ∧ IsBlankRun gap ∧
          Spelled triggerWord trigger ∧
            line.trim =
              create ++ (gap ++ (trigger ++ tail)) := by
  rcases isStatementStart_iff.mp hStart with
    ⟨margin, create, gap, trigger, blanks, rest, hMargin,
      hCreate, hGap, hGapBlank, hTrigger, hBlanks, hBlank,
      hRest, rfl⟩
  have hCreateWord := hCreate.isWordRun isKeyword_createWord
  have hTriggerWord :=
    hTrigger.isWordRun isKeyword_triggerWord
  refine ⟨create, gap, trigger,
    Text.dropTrailingBlanks (blanks ++ rest), hCreate, hGap,
    hGapBlank, hTrigger, ?_⟩
  rw [Text.trim_blanks_append hMargin
    (hCreateWord.startsOutside_isBlank _)]
  rcases List.eq_nil_or_concat trigger with
    hNil | ⟨front, last, hLast⟩
  · exact absurd hNil hTriggerWord.1
  · have hSolid : isBlank last = false :=
      isBlank_eq_false_of_isWord
        (hTriggerWord.2 last (by simp [hLast]))
    have hKept :=
      Text.dropTrailingBlanks_append
        (create ++ (gap ++ front)) hSolid (blanks ++ rest)
    rw [hLast]
    simpa using hKept

/- The first word of a start is CREATE. -/
theorem spelled_takeWhile_trim_of_isStatementStart
    {line : Text}
    (hStart : isStatementStart line = true) :
    Spelled createWord (line.trim.takeWhile isWord) := by
  rcases exists_trim_of_isStatementStart hStart with
    ⟨create, gap, trigger, tail, hCreate, hGap, hGapBlank,
      -, hText⟩
  have hCreateWord := hCreate.isWordRun isKeyword_createWord
  rw [hText, takeWhile_run_append hCreateWord.2
    (hGapBlank.startsOutside_isWord hGap _)]
  exact hCreate

/- A start goes on in no declaration begun before it. -/
theorem isForeign_trim_of_isStatementStart
    {line : Text}
    (hStart : isStatementStart line = true) :
    IsForeign line.trim := by
  rcases exists_trim_of_isStatementStart hStart with
    ⟨create, gap, trigger, tail, hCreate, hGap, hGapBlank,
      hTrigger, hText⟩
  have hCreateWord := hCreate.isWordRun isKeyword_createWord
  have hTriggerWord :=
    hTrigger.isWordRun isKeyword_triggerWord
  rw [hText]
  constructor
  · rcases hCreateWord with ⟨hNonempty, hWord⟩
    cases create with
    | nil =>
        contradiction
    | cons c letters =>
        exact ⟨c, _, rfl, hWord c (by simp)⟩
  · exact Phrase.read_keyword_word_append hCreate
      isKeyword_createWord isKeyword_triggerWord
      (by decide) _
  · by_contra hSome
    rcases Option.ne_none_iff_exists'.mp hSome with
      ⟨⟨names, after⟩, hRead⟩
    rcases Phrase.read_name_iff.mp hRead with
      ⟨name, t₁, more, hName, hOutside, hSplit, -,
        hGapRead⟩
    rcases append_run_inj hSplit hCreateWord.2
        (hGapBlank.startsOutside_isWord hGap _) hName.2
        hOutside with ⟨-, rfl⟩
    rcases Phrase.read_gap_iff.mp hGapRead with
      ⟨blanks, t₂, -, hBlanks, hStarts, hRun, hOnRead⟩
    rcases append_run_inj hRun hGapBlank
        (hTriggerWord.startsOutside_isBlank _) hBlanks
        hStarts with ⟨-, rfl⟩
    have hNone :
        Phrase.read [.keyword onWord, .gap, .name]
          (trigger ++ tail) = none :=
      Phrase.read_keyword_word_append hTrigger
        isKeyword_triggerWord isKeyword_onWord
        (by decide) tail
    rw [hNone] at hOnRead
    simp at hOnRead
  · exact Phrase.read_keyword_word_append hCreate
      isKeyword_createWord isKeyword_onWord (by decide) _

end SafeRerun
