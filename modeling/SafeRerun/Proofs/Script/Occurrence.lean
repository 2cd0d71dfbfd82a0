import SafeRerun.Proofs.Script.Phrase

/-
  Where phrases occur in a text that is put together from
  two parts with a blank between them.

  Key definitions include:
    * `SafeRerun.Piece.IsPlain`

  Key theorems include:
    * `SafeRerun.Phrase.find?_eq_some_iff`
    * `SafeRerun.Phrase.find?_eq_none_iff`
    * `SafeRerun.Piece.IsPlain.read_append_blank`
    * `SafeRerun.Phrase.read_append_blank`
    * `SafeRerun.Phrase.read_append_blank_of_gap`

  Keywords and names never hold a blank, so a reading that
  passes the blank does so inside a gap.  It either ends in
  the first part, or the first part ends in that gap.
-/

------------------------------------------------------------
-- Occurrences
------------------------------------------------------------

namespace SafeRerun

namespace Phrase

/- What is found is read at some place of the text. -/
theorem exists_suffix_of_find?
    {phrase : Phrase}
    {t : Text}
    {names : List Text}
    (hFind : phrase.find? t = some names) :
    ∃ ending after,
      ending <:+ t ∧
        phrase.read ending = some (names, after) := by
  induction t with
  | nil =>
      simp only [Phrase.find?, Option.map_eq_some_iff]
        at hFind
      rcases hFind with ⟨⟨found, after⟩, hRead, rfl⟩
      exact ⟨[], after, List.suffix_rfl, hRead⟩
  | cons c rest ih =>
      simp only [Phrase.find?] at hFind
      split at hFind
      · rename_i found after hRead
        simp only [Option.some.injEq] at hFind
        subst hFind
        exact ⟨c :: rest, after, List.suffix_rfl, hRead⟩
      · rcases ih hFind with ⟨ending, after, hEnd, hRead⟩
        exact ⟨ending, after,
          hEnd.trans (List.suffix_cons c rest), hRead⟩

/- Nothing is found where no place of the text is read. -/
theorem find?_eq_none_iff
    {phrase : Phrase}
    {t : Text} :
    phrase.find? t = none ↔
      ∀ ending, ending <:+ t →
        phrase.read ending = none := by
  induction t with
  | nil =>
      simp [Phrase.find?]
  | cons c rest ih =>
      simp only [Phrase.find?]
      constructor
      · intro hFind ending hEnd
        split at hFind
        · simp at hFind
        · rename_i hRead
          rcases List.suffix_cons_iff.mp hEnd with
            rfl | hRest
          · exact hRead
          · exact ih.mp hFind ending hRest
      · intro hNone
        rw [hNone (c :: rest) List.suffix_rfl]
        exact ih.mpr fun ending hEnd =>
          hNone ending
            (hEnd.trans (List.suffix_cons c rest))

/- What is found is read where the phrase is read first. -/
theorem find?_eq_some_iff
    {phrase : Phrase}
    {t : Text}
    {names : List Text} :
    phrase.find? t = some names ↔
      ∃ ending after,
        ending <:+ t ∧
          phrase.read ending = some (names, after) ∧
            ∀ other, other <:+ t →
              phrase.read other ≠ none →
                other.length ≤ ending.length := by
  induction t with
  | nil =>
      simp [Phrase.find?]
  | cons c rest ih =>
      simp only [Phrase.find?]
      cases hRead : phrase.read (c :: rest) with
      | some found =>
          simp only [Option.some.injEq]
          constructor
          · rintro rfl
            exact ⟨c :: rest, found.2, List.suffix_rfl,
              hRead, fun other hEnd _ => hEnd.length_le⟩
          · rintro ⟨ending, after, hEnd, hNames, hFirst⟩
            have hLength :=
              hFirst (c :: rest) List.suffix_rfl
                (by simp [hRead])
            have hSame := hEnd.eq_of_length_le hLength
            rw [hSame, hRead, Option.some.injEq] at hNames
            rw [hNames]
      | none =>
          rw [ih]
          constructor
          · rintro ⟨ending, after, hEnd, hNames, hFirst⟩
            refine ⟨ending, after,
              hEnd.trans (List.suffix_cons c rest), hNames,
              fun other hOther hSome => ?_⟩
            rcases List.suffix_cons_iff.mp hOther with
              rfl | hRest
            · exact absurd hRead hSome
            · exact hFirst other hRest hSome
          · rintro ⟨ending, after, hEnd, hNames, hFirst⟩
            rcases List.suffix_cons_iff.mp hEnd with
              rfl | hRest
            · simp [hRead] at hNames
            · exact ⟨ending, after, hRest, hNames,
                fun other hOther =>
                  hFirst other (hOther.trans
                    (List.suffix_cons c rest))⟩

/- A phrase that is read somewhere occurs. -/
theorem occursIn_of_suffix
    {phrase : Phrase}
    {t ending after : Text}
    {names : List Text}
    (hEnd : ending <:+ t)
    (hRead : phrase.read ending = some (names, after)) :
    phrase.occursIn t = true := by
  unfold Phrase.occursIn
  by_contra hNot
  have hNone : phrase.find? t = none := by
    simpa using hNot
  rw [find?_eq_none_iff.mp hNone ending hEnd] at hRead
  simp at hRead

/- A phrase that occurs in an ending occurs in the text. -/
theorem occursIn_mono
    {phrase : Phrase}
    {t ending : Text}
    (hEnd : ending <:+ t)
    (hOccurs : phrase.occursIn ending = true) :
    phrase.occursIn t = true := by
  unfold Phrase.occursIn at hOccurs
  rcases Option.isSome_iff_exists.mp hOccurs with
    ⟨names, hFind⟩
  rcases exists_suffix_of_find? hFind with
    ⟨place, after, hPlace, hRead⟩
  exact occursIn_of_suffix (hPlace.trans hEnd) hRead

/- What a piece leaves is an ending of the text. -/
theorem suffix_of_readPiece
    {piece : Piece}
    {t after : Text}
    {names : List Text}
    (hRead : piece.read t = some (names, after)) :
    after <:+ t := by
  unfold Piece.read at hRead
  split at hRead
  · simp only [Option.some.injEq, Prod.mk.injEq] at hRead
    rw [← hRead.2]
    exact List.dropWhile_suffix isBlank
  · simp at hRead
  · rename_i c rest
    split at hRead
    · simp only [Option.some.injEq, Prod.mk.injEq]
        at hRead
      rw [← hRead.2]
      exact (List.dropWhile_suffix isBlank).trans
        (List.suffix_cons c rest)
    · simp at hRead
  · rename_i letters
    rcases Option.map_eq_some_iff.mp hRead with
      ⟨rest, hKeyword, hPair⟩
    rcases (readKeyword_eq_some_iff letters t rest).mp
        hKeyword with ⟨word, -, hText⟩
    simp only [Prod.mk.injEq] at hPair
    rw [← hPair.2, hText]
    exact List.suffix_append word rest
  · rename_i rest
    simp only [Option.some.injEq, Prod.mk.injEq] at hRead
    rw [← hRead.2]
    exact List.suffix_cons _ rest
  · simp only [Option.some.injEq, Prod.mk.injEq] at hRead
    rcases hRead with ⟨-, rfl⟩
    exact List.suffix_rfl
  · simp at hRead
  · rename_i c rest
    split at hRead
    · simp only [Option.some.injEq, Prod.mk.injEq]
        at hRead
      rw [← hRead.2]
      exact (List.dropWhile_suffix isWord).trans
        (List.suffix_cons c rest)
    · simp at hRead

/- What a phrase leaves is an ending of the text. -/
theorem suffix_of_read
    {phrase : Phrase}
    {t after : Text}
    {names : List Text}
    (hRead : phrase.read t = some (names, after)) :
    after <:+ t := by
  induction phrase generalizing t names with
  | nil =>
      simp only [Phrase.read, Option.some.injEq,
        Prod.mk.injEq] at hRead
      rcases hRead with ⟨-, rfl⟩
      exact List.suffix_rfl
  | cons piece pieces ih =>
      rcases read_cons_iff.mp hRead with
        ⟨first, middle, more, hPiece, hMore, -⟩
      exact (ih hMore).trans (suffix_of_readPiece hPiece)

end Phrase

end SafeRerun

------------------------------------------------------------
-- Reading Across a Blank
------------------------------------------------------------

namespace SafeRerun

variable {sign blank : Char}
variable {t rest left behind : Text}
variable {found : List Text}
variable {piece : Piece}

/- A keyword ends before a character outside of words. -/
theorem Piece.read_keyword_append
    {keyword : Text}
    (hApart : isWord sign = false)
    (hCapitals :
      ∀ letter ∈ keyword, letter.isUpper = true)
    (t rest : Text) :
    Piece.read (.keyword keyword) (t ++ sign :: rest) =
      (Piece.read (.keyword keyword) t).map fun found =>
        (found.1, found.2 ++ sign :: rest) := by
  have hRead :
      readKeyword keyword (t ++ sign :: rest) =
        (readKeyword keyword t).map
          (· ++ sign :: rest) := by
    induction keyword generalizing t with
    | nil =>
        simp [readKeyword]
    | cons letter letters ih =>
        cases t with
        | nil =>
            have hOther : spells letter sign = false := by
              by_contra hSpells
              have hWord :=
                isWord_of_spells
                  (hCapitals letter (by simp))
                  (by simpa using hSpells)
              rw [hApart] at hWord
              contradiction
            simp [readKeyword, hOther]
        | cons c tail =>
            simp only [List.cons_append, readKeyword]
            split
            · exact ih (fun other hMem =>
                hCapitals other (by simp [hMem])) tail
            · rfl
  simp only [Piece.read, hRead, Option.map_map,
    Function.comp_def]

/- A name ends before a character outside of words. -/
theorem Piece.read_name_append
    (hApart : isWord sign = false)
    (t rest : Text) :
    Piece.read .name (t ++ sign :: rest) =
      (Piece.read .name t).map fun found =>
        (found.1, found.2 ++ sign :: rest) := by
  cases t with
  | nil =>
      simp [Piece.read, hApart]
  | cons c tail =>
      simp only [List.cons_append, Piece.read,
        takeWhile_append_cons hApart,
        dropWhile_append_cons hApart]
      split <;> rfl

/-
  Blanks are skipped up to where the first part goes on, or
  with the blank behind it.
-/
theorem skipBlanks_append_blank
    (hBlank : isBlank blank = true)
    (hRest : StartsOutside isBlank rest)
    (t : Text) :
    Text.skipBlanks (t ++ blank :: rest) =
      if IsBlankRun t then
        rest
      else
        Text.skipBlanks t ++ blank :: rest := by
  split
  · rename_i hRun
    have hLong : IsBlankRun (t ++ [blank]) := by
      intro c hMem
      rcases List.mem_append.mp hMem with hOld | hNew
      · exact hRun c hOld
      · rw [List.mem_singleton.mp hNew]
        exact hBlank
    rw [List.append_cons]
    exact dropWhile_run_append hLong hRest
  · rename_i hRun
    unfold Text.skipBlanks
    rw [List.dropWhile_append, if_neg]
    rw [List.isEmpty_iff, List.dropWhile_eq_nil_iff]
    exact hRun

/- A gap ends in the first part or takes all of it. -/
theorem Piece.read_gap_append_blank
    (hBlank : isBlank blank = true)
    (hRest : StartsOutside isBlank rest)
    (hRead :
      Piece.read .gap (t ++ blank :: rest) =
        some (found, behind)) :
    (∃ left,
      Piece.read .gap t = some (found, left) ∧
        behind = left ++ blank :: rest) ∨
      IsBlankRun t ∧ found = [] ∧ behind = rest := by
  cases t with
  | nil =>
      have hSkip :=
        skipBlanks_append_blank hBlank hRest []
      simp only [List.nil_append, Text.skipBlanks,
        List.dropWhile_cons_of_pos hBlank] at hSkip
      rw [List.nil_append, Piece.read, if_pos hBlank,
        Option.some.injEq, Prod.mk.injEq] at hRead
      rcases hRead with ⟨rfl, rfl⟩
      right
      exact ⟨isBlankRun_nil, rfl, hSkip⟩
  | cons c tail =>
      rw [List.cons_append, Piece.read] at hRead
      by_cases hFirst : isBlank c = true
      · rw [if_pos hFirst, Option.some.injEq, Prod.mk.injEq,
          skipBlanks_append_blank hBlank hRest] at hRead
        rcases hRead with ⟨rfl, rfl⟩
        by_cases hAll : IsBlankRun tail
        · right
          rw [if_pos hAll]
          refine ⟨?_, rfl, rfl⟩
          intro d hMem
          rcases List.mem_cons.mp hMem with rfl | hLater
          · exact hFirst
          · exact hAll d hLater
        · left
          rw [if_neg hAll]
          refine ⟨Text.skipBlanks tail, ?_, rfl⟩
          rw [Piece.read, if_pos hFirst]
      · rw [if_neg hFirst] at hRead
        contradiction

/- The pieces that take words and blanks, at least one. -/
def Piece.IsPlain :
    Piece → Prop
  | .margin => False
  | .gap => True
  | .keyword letters => IsKeyword letters
  | .quote => False
  | .name => True

instance
    (piece : Piece) :
    Decidable piece.IsPlain := by
  cases piece <;> unfold Piece.IsPlain <;> infer_instance

/- A plain piece takes something. -/
theorem Piece.IsPlain.read_nil
    {piece : Piece}
    (hPlain : piece.IsPlain) :
    piece.read [] = none := by
  cases piece with
  | margin =>
      exact absurd hPlain (by simp [Piece.IsPlain])
  | gap =>
      rfl
  | keyword letters =>
      rcases hPlain with ⟨hNonempty, -⟩
      cases letters with
      | nil =>
          contradiction
      | cons letter more =>
          rfl
  | quote =>
      exact absurd hPlain (by simp [Piece.IsPlain])
  | name =>
      rfl

/-
  A plain piece ends in the first part, or it is a gap that
  takes all of it.
-/
theorem Piece.IsPlain.read_append_blank
    (hPlain : piece.IsPlain)
    (hBlank : isBlank blank = true)
    (hRest : StartsOutside isBlank rest)
    (hRead :
      piece.read (t ++ blank :: rest) =
        some (found, behind)) :
    (∃ left,
      piece.read t = some (found, left) ∧
        behind = left ++ blank :: rest) ∨
      piece = .gap ∧
        IsBlankRun t ∧ found = [] ∧ behind = rest := by
  have hApart := isWord_eq_false_of_isBlank hBlank
  cases piece with
  | margin =>
      exact absurd hPlain (by simp [Piece.IsPlain])
  | quote =>
      exact absurd hPlain (by simp [Piece.IsPlain])
  | keyword letters =>
      rw [Piece.read_keyword_append hApart hPlain.2,
        Option.map_eq_some_iff] at hRead
      rcases hRead with ⟨⟨names, left⟩, hPiece, hPair⟩
      rw [Prod.mk.injEq] at hPair
      rcases hPair with ⟨rfl, rfl⟩
      exact Or.inl ⟨left, hPiece, rfl⟩
  | name =>
      rw [Piece.read_name_append hApart,
        Option.map_eq_some_iff] at hRead
      rcases hRead with ⟨⟨names, left⟩, hPiece, hPair⟩
      rw [Prod.mk.injEq] at hPair
      rcases hPair with ⟨rfl, rfl⟩
      exact Or.inl ⟨left, hPiece, rfl⟩
  | gap =>
      exact (Piece.read_gap_append_blank hBlank hRest
        hRead).imp_right fun hAll => ⟨rfl, hAll⟩

/- It reads on as before if it does not end at the blank. -/
theorem Piece.IsPlain.read_append_blank_of_read
    (hPlain : piece.IsPlain)
    (hBlank : isBlank blank = true)
    (hOpen : piece = .gap → left ≠ [])
    (hRead : piece.read t = some (found, left)) :
    piece.read (t ++ blank :: rest) =
      some (found, left ++ blank :: rest) := by
  have hApart := isWord_eq_false_of_isBlank hBlank
  cases piece with
  | margin =>
      exact absurd hPlain (by simp [Piece.IsPlain])
  | quote =>
      exact absurd hPlain (by simp [Piece.IsPlain])
  | keyword letters =>
      rw [Piece.read_keyword_append hApart hPlain.2, hRead]
      rfl
  | name =>
      rw [Piece.read_name_append hApart, hRead]
      rfl
  | gap =>
      have hLeft := hOpen rfl
      cases t with
      | nil =>
          contradiction
      | cons c tail =>
          rw [Piece.read] at hRead
          rw [List.cons_append, Piece.read]
          split at hRead
          · rename_i hFirst
            rw [Option.some.injEq, Prod.mk.injEq] at hRead
            rcases hRead with ⟨rfl, rfl⟩
            unfold Text.skipBlanks at hLeft ⊢
            rw [if_pos hFirst, List.dropWhile_append,
              if_neg (by simpa using hLeft)]
          · contradiction

namespace Phrase

/- A phrase of plain pieces is not read off nothing. -/
theorem read_nil_of_isPlain
    {phrase : Phrase}
    (hPlain : ∀ piece ∈ phrase, piece.IsPlain)
    (hNonempty : phrase ≠ []) :
    phrase.read [] = none := by
  cases phrase with
  | nil =>
      contradiction
  | cons piece pieces =>
      simp [Phrase.read, (hPlain piece (by simp)).read_nil]

/-
  A reading that starts before a blank either ends there or
  passes it in a gap, which takes all that is left before
  the blank.
-/
theorem read_append_blank
    {phrase : Phrase}
    {t rest after : Text}
    {blank : Char}
    {names : List Text}
    (hPlain : ∀ piece ∈ phrase, piece.IsPlain)
    (hBlank : isBlank blank = true)
    (hRest : StartsOutside isBlank rest)
    (hRead :
      phrase.read (t ++ blank :: rest) =
        some (names, after)) :
    (∃ left, phrase.read t = some (names, left)) ∨
      ∃ front back first left more,
        phrase = front ++ .gap :: back ∧
          Phrase.read front t = some (first, left) ∧
            IsBlankRun left ∧
              Phrase.read back rest = some (more, after) ∧
                names = first ++ more := by
  induction phrase generalizing t names with
  | nil =>
      simp only [Phrase.read, Option.some.injEq,
        Prod.mk.injEq] at hRead
      left
      exact ⟨t, by simp [Phrase.read, hRead.1]⟩
  | cons piece pieces ih =>
      have hPieces : ∀ p ∈ pieces, p.IsPlain :=
        fun p hMem => hPlain p (by simp [hMem])
      rcases read_cons_iff.mp hRead with
        ⟨found, behind, others, hPiece, hMore, rfl⟩
      rcases (hPlain piece (by simp)).read_append_blank hBlank
          hRest hPiece with
        ⟨middle, hMiddle, rfl⟩ | ⟨rfl, hAll, rfl, rfl⟩
      · rcases ih hPieces hMore with
          ⟨left, hLeft⟩ |
          ⟨front, back, first, left, more, rfl, hFront,
            hLeft, hBack, rfl⟩
        · left
          exact ⟨left, read_cons_iff.mpr
            ⟨found, middle, others, hMiddle, hLeft, rfl⟩⟩
        · right
          exact ⟨piece :: front, back, found ++ first, left,
            more, rfl,
            read_cons_iff.mpr
              ⟨found, middle, first, hMiddle, hFront, rfl⟩,
            hLeft, hBack, (List.append_assoc _ _ _).symm⟩
      · right
        exact ⟨[], pieces, [], t, others, rfl, rfl, hAll,
          hMore, rfl⟩

/-
  A phrase that does not end in a gap reads on as before
  when a blank and more text are put behind.
-/
theorem read_append_blank_of_read
    {phrase : Phrase}
    {t left : Text}
    {blank : Char}
    {names : List Text}
    (hPlain : ∀ piece ∈ phrase, piece.IsPlain)
    (hLast : phrase.getLast? ≠ some .gap)
    (hBlank : isBlank blank = true)
    (rest : Text)
    (hRead : phrase.read t = some (names, left)) :
    phrase.read (t ++ blank :: rest) =
      some (names, left ++ blank :: rest) := by
  induction phrase generalizing t names with
  | nil =>
      simp only [Phrase.read, Option.some.injEq,
        Prod.mk.injEq] at hRead ⊢
      simp [hRead]
  | cons piece pieces ih =>
      have hPieces : ∀ p ∈ pieces, p.IsPlain :=
        fun p hMem => hPlain p (by simp [hMem])
      have hLater : pieces.getLast? ≠ some .gap := by
        intro hGap
        apply hLast
        simp [List.getLast?_cons, hGap]
      rcases read_cons_iff.mp hRead with
        ⟨found, middle, others, hPiece, hMore, rfl⟩
      -- Behind a gap more pieces follow, and take something.
      have hOpen : piece = .gap → middle ≠ [] := by
        rintro rfl rfl
        have hSome : pieces ≠ [] := by
          rintro rfl
          exact hLast rfl
        rw [read_nil_of_isPlain hPieces hSome] at hMore
        contradiction
      exact read_cons_iff.mpr
        ⟨found, middle ++ blank :: rest, others,
          (hPlain piece (by simp)).read_append_blank_of_read
            hBlank hOpen hPiece,
          ih hPieces hLater hMore, rfl⟩

/-
  A reading that ends in blanks is continued in a gap by
  what is read behind the blank.
-/
theorem read_append_blank_of_gap
    {front back : Phrase}
    {t left rest after : Text}
    {blank : Char}
    {first more : List Text}
    (hPlain : ∀ piece ∈ front, piece.IsPlain)
    (hLast : front.getLast? ≠ some .gap)
    (hBlank : isBlank blank = true)
    (hRest : StartsOutside isBlank rest)
    (hFront : front.read t = some (first, left))
    (hLeft : IsBlankRun left)
    (hBack : back.read rest = some (more, after)) :
    Phrase.read (front ++ .gap :: back)
        (t ++ blank :: rest) =
      some (first ++ more, after) := by
  refine read_append_iff.mpr
    ⟨first, left ++ blank :: rest, more,
      read_append_blank_of_read hPlain hLast hBlank rest
        hFront, ?_, rfl⟩
  refine read_gap_iff.mpr
    ⟨left ++ [blank], rest, by simp, ?_, hRest, by simp,
      hBack⟩
  intro c hMem
  rcases List.mem_append.mp hMem with hOld | hNew
  · exact hLeft c hOld
  · rw [List.mem_singleton.mp hNew]
    exact hBlank

end Phrase

end SafeRerun

------------------------------------------------------------
-- Searching Word by Word
------------------------------------------------------------

namespace SafeRerun

namespace Phrase

/- A keyword is not read off a blank. -/
theorem read_keyword_blank
    {keyword : Text}
    {pieces : Phrase}
    {blank : Char}
    (hKeyword : IsKeyword keyword)
    (hBlank : isBlank blank = true)
    (rest : Text) :
    Phrase.read (.keyword keyword :: pieces)
        (blank :: rest) = none := by
  by_contra hSome
  rcases Option.ne_none_iff_exists'.mp hSome with
    ⟨⟨names, after⟩, hRead⟩
  rcases read_keyword_iff.mp hRead with
    ⟨word, behind, hSpelled, hText, -⟩
  rcases hSpelled.isWordRun hKeyword with
    ⟨hNonempty, hWord⟩
  cases word with
  | nil =>
      contradiction
  | cons c tail =>
      have hSame : blank = c := (List.cons.inj hText).1
      have hNot := isWord_eq_false_of_isBlank hBlank
      rw [hSame, hWord c (by simp)] at hNot
      contradiction

/- A word that begins with another letter is no spelling. -/
theorem read_keyword_word_append
    {letter other : Char}
    {letters others word : Text}
    {pieces : Phrase}
    (hSpelled : Spelled (letter :: letters) word)
    (hKeyword : IsKeyword (letter :: letters))
    (hOther : IsKeyword (other :: others))
    (hApart : letter ≠ other)
    (rest : Text) :
    Phrase.read (.keyword (other :: others) :: pieces)
        (word ++ rest) = none := by
  by_contra hSome
  rcases Option.ne_none_iff_exists'.mp hSome with
    ⟨⟨names, after⟩, hRead⟩
  rcases read_keyword_iff.mp hRead with
    ⟨spelling, behind, hOtherSpelled, hText, -⟩
  cases hSpelled with
  | cons hFirst hMore =>
      cases hOtherSpelled with
      | cons hOtherFirst hOtherMore =>
          simp only [List.cons_append, List.cons.injEq]
            at hText
          rw [hText.1] at hFirst
          exact hApart (spells_unique
            (hKeyword.2 letter (by simp))
            (hOther.2 other (by simp)) hFirst hOtherFirst)

/- Blanks at the beginning do not matter for a search. -/
theorem find?_blanks_append
    {keyword : Text}
    {pieces : Phrase}
    {blanks : Text}
    (hKeyword : IsKeyword keyword)
    (hBlanks : IsBlankRun blanks)
    (rest : Text) :
    Phrase.find? (.keyword keyword :: pieces)
        (blanks ++ rest) =
      Phrase.find? (.keyword keyword :: pieces) rest := by
  induction blanks with
  | nil =>
      rfl
  | cons c tail ih =>
      rw [List.cons_append, Phrase.find?,
        read_keyword_blank hKeyword (hBlanks c (by simp))]
      exact ih fun d hMem => hBlanks d (by simp [hMem])

/-
  A text without blanks holds no two keywords with a gap
  between them.
-/
theorem read_keyword_gap_of_solid
    {keyword word : Text}
    {back : Phrase}
    (hSolid : ∀ c ∈ word, isBlank c = false) :
    Phrase.read (.keyword keyword :: .gap :: back) word =
      none := by
  by_contra hSome
  rcases Option.ne_none_iff_exists'.mp hSome with
    ⟨⟨names, after⟩, hRead⟩
  rcases read_keyword_iff.mp hRead with
    ⟨spelling, behind, -, rfl, hMore⟩
  rcases read_gap_iff.mp hMore with
    ⟨gap, next, hGap, hGapBlank, -, rfl, -⟩
  rcases List.exists_mem_of_ne_nil gap hGap with ⟨c, hMem⟩
  have hNot := hSolid c (by simp [hMem])
  rw [hGapBlank c hMem] at hNot
  contradiction

theorem find?_keyword_gap_of_solid
    {keyword word : Text}
    {back : Phrase}
    (hSolid : ∀ c ∈ word, isBlank c = false) :
    Phrase.find? (.keyword keyword :: .gap :: back) word =
      none := by
  refine find?_eq_none_iff.mpr fun ending hEnd => ?_
  exact read_keyword_gap_of_solid fun c hMem =>
    hSolid c (hEnd.subset hMem)

/- A word before a sign is no keyword before a gap. -/
theorem read_keyword_gap_of_word
    {keyword word rest : Text}
    {back : Phrase}
    (hKeyword : IsKeyword keyword)
    (hWord : IsWordRun word)
    (hSign : StartsOutside isWord rest)
    (hSolid : StartsOutside isBlank rest) :
    Phrase.read (.keyword keyword :: .gap :: back)
        (word ++ rest) = none := by
  by_contra hSome
  rcases Option.ne_none_iff_exists'.mp hSome with
    ⟨⟨names, after⟩, hRead⟩
  rcases read_keyword_iff.mp hRead with
    ⟨spelling, behind, hSpelled, hText, hMore⟩
  rcases read_gap_iff.mp hMore with
    ⟨gap, next, hGap, hGapBlank, -, rfl, -⟩
  rcases append_run_inj hText hWord.2 hSign
      (hSpelled.isWordRun hKeyword).2
      (hGapBlank.startsOutside_isWord hGap next) with
    ⟨-, rfl⟩
  cases gap with
  | nil =>
      contradiction
  | cons c tail =>
      have hNot := startsOutside_cons_iff.mp hSolid
      rw [hGapBlank c (by simp)] at hNot
      contradiction

/-
  A search for two keywords passes a word that does not end
  in the first one, or is not followed by what comes next.
-/
theorem find?_word_append
    {keyword word blanks rest : Text}
    {back : Phrase}
    (hKeyword : IsKeyword keyword)
    (hSolid : ∀ c ∈ word, isBlank c = false)
    (hNonempty : blanks ≠ [])
    (hBlanks : IsBlankRun blanks)
    (hRest : StartsOutside isBlank rest)
    (hNext :
      ∀ ending, ending <:+ word →
        Spelled keyword ending → back.read rest = none) :
    Phrase.find? (.keyword keyword :: .gap :: back)
        (word ++ (blanks ++ rest)) =
      Phrase.find? (.keyword keyword :: .gap :: back)
        rest := by
  induction word with
  | nil =>
      exact find?_blanks_append hKeyword hBlanks rest
  | cons c tail ih =>
      have hNone :
          Phrase.read (.keyword keyword :: .gap :: back)
            (c :: tail ++ (blanks ++ rest)) = none := by
        by_contra hSome
        rcases Option.ne_none_iff_exists'.mp hSome with
          ⟨⟨names, after⟩, hRead⟩
        rcases read_keyword_iff.mp hRead with
          ⟨spelling, behind, hSpelled, hText, hMore⟩
        rcases read_gap_iff.mp hMore with
          ⟨gap, next, hGap, hGapBlank, hNextStart, rfl,
            hBack⟩
        have hSpelling :=
          (hSpelled.isWordRun hKeyword).2
        rcases append_run_inj hText
            (fun d hMem => by simp [hSolid d hMem])
            (hBlanks.startsOutside_solid hNonempty rest)
            (fun d hMem => by
              simp [isBlank_eq_false_of_isWord
                (hSpelling d hMem)])
            (hGapBlank.startsOutside_solid hGap next) with
          ⟨rfl, hRun⟩
        rcases append_run_inj hRun hBlanks hRest hGapBlank
            hNextStart with ⟨-, rfl⟩
        rw [hNext (c :: tail) List.suffix_rfl hSpelled]
          at hBack
        simp at hBack
      rw [List.cons_append, Phrase.find?,
        ← List.cons_append, hNone]
      refine ih (fun d hMem => hSolid d (by simp [hMem]))
        fun ending hEnd hSpelled => ?_
      exact hNext ending
        (hEnd.trans (List.suffix_cons c tail)) hSpelled

end Phrase

end SafeRerun
