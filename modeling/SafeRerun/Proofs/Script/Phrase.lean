import SafeRerun.Proofs.Text.Run

/-
  What the texts look like that a phrase reads.

  Key theorems include:
    * `SafeRerun.Phrase.read_keyword_iff`
    * `SafeRerun.Phrase.read_gap_iff`
    * `SafeRerun.Phrase.read_name_iff`
    * `SafeRerun.Phrase.read_append_iff`

  Reading is a function that takes as much as it can, piece
  by piece.  Each theorem says for one piece which text it
  takes, as a division of the text, so that a reading can be
  taken apart and put together without running it.
-/

------------------------------------------------------------
-- Keywords
------------------------------------------------------------

namespace SafeRerun

/- A keyword is read off a text that begins with a spelling. -/
theorem readKeyword_eq_some_iff
    (keyword t rest : Text) :
    readKeyword keyword t = some rest ↔
      ∃ word, Spelled keyword word ∧ t = word ++ rest := by
  induction keyword generalizing t with
  | nil =>
      constructor
      · intro hRead
        refine ⟨[], List.Forall₂.nil, ?_⟩
        simpa [readKeyword] using hRead
      · intro hExists
        rcases hExists with ⟨word, hSpelled, rfl⟩
        cases hSpelled
        simp [readKeyword]
  | cons letter letters ih =>
      constructor
      · intro hRead
        cases t with
        | nil =>
            simp [readKeyword] at hRead
        | cons c tail =>
            simp only [readKeyword] at hRead
            split at hRead
            · rename_i hFirst
              rcases (ih tail).mp hRead with
                ⟨word, hSpelled, hTail⟩
              exact ⟨c :: word,
                List.Forall₂.cons hFirst hSpelled,
                by simp [hTail]⟩
            · simp at hRead
      · intro hExists
        rcases hExists with ⟨word, hSpelled, rfl⟩
        cases hSpelled with
        | @cons _ c _ tail hFirst hRest =>
            simp only [List.cons_append, readKeyword,
              hFirst, if_true]
            exact (ih (tail ++ rest)).mpr
              ⟨tail, hRest, rfl⟩

end SafeRerun

------------------------------------------------------------
-- One Piece and the Rest
------------------------------------------------------------

namespace SafeRerun

namespace Phrase

variable {pieces : Phrase}
variable {names : List Text}
variable {t after : Text}

/- A phrase reads its first piece and goes on behind it. -/
theorem read_cons_iff
    {piece : Piece} :
    Phrase.read (piece :: pieces) t = some (names, after) ↔
      ∃ first middle more,
        piece.read t = some (first, middle) ∧
          pieces.read middle = some (more, after) ∧
            names = first ++ more := by
  simp only [Phrase.read]
  constructor
  · intro hRead
    split at hRead
    · simp at hRead
    · rename_i first middle hFirst
      split at hRead
      · simp at hRead
      · rename_i more behind hMore
        simp only [Option.some.injEq, Prod.mk.injEq]
          at hRead
        rcases hRead with ⟨hNames, hAfter⟩
        subst hAfter
        exact ⟨first, middle, more, hFirst, hMore,
          hNames.symm⟩
  · intro hExists
    rcases hExists with
      ⟨first, middle, more, hFirst, hMore, rfl⟩
    simp [hFirst, hMore]

theorem read_keyword_iff
    {keyword : Text} :
    Phrase.read (.keyword keyword :: pieces) t =
        some (names, after) ↔
      ∃ word rest,
        Spelled keyword word ∧ t = word ++ rest ∧
          pieces.read rest = some (names, after) := by
  rw [read_cons_iff]
  constructor
  · intro hExists
    rcases hExists with
      ⟨first, middle, more, hPiece, hMore, rfl⟩
    simp only [Piece.read, Option.map_eq_some_iff,
      Prod.mk.injEq] at hPiece
    rcases hPiece with ⟨rest, hRead, rfl, rfl⟩
    rcases (readKeyword_eq_some_iff keyword t rest).mp
        hRead with ⟨word, hSpelled, hText⟩
    exact ⟨word, rest, hSpelled, hText, hMore⟩
  · intro hExists
    rcases hExists with ⟨word, rest, hSpelled, hText, hMore⟩
    have hRead :=
      (readKeyword_eq_some_iff keyword t rest).mpr
        ⟨word, hSpelled, hText⟩
    exact ⟨[], rest, names, by simp [Piece.read, hRead],
      hMore, rfl⟩

theorem read_margin_iff :
    Phrase.read (.margin :: pieces) t =
        some (names, after) ↔
      ∃ blanks rest,
        IsBlankRun blanks ∧ StartsOutside isBlank rest ∧
          t = blanks ++ rest ∧
            pieces.read rest = some (names, after) := by
  rw [read_cons_iff]
  constructor
  · intro hExists
    rcases hExists with
      ⟨first, middle, more, hPiece, hMore, rfl⟩
    simp only [Piece.read, Text.skipBlanks,
      Option.some.injEq, Prod.mk.injEq] at hPiece
    rcases hPiece with ⟨rfl, rfl⟩
    refine ⟨t.takeWhile isBlank, t.dropWhile isBlank,
      ?_, startsOutside_dropWhile isBlank t,
      List.takeWhile_append_dropWhile.symm, hMore⟩
    intro c hMem
    exact List.mem_takeWhile_imp hMem
  · intro hExists
    rcases hExists with
      ⟨blanks, rest, hBlanks, hRest, rfl, hMore⟩
    refine ⟨[], rest, names, ?_, hMore, rfl⟩
    simp [Piece.read, Text.skipBlanks,
      dropWhile_run_append hBlanks hRest]

/- Blanks before a text are passed by a margin. -/
theorem read_margin_append
    {blanks : Text}
    (hBlanks : IsBlankRun blanks)
    (hStart : StartsOutside isBlank t) :
    Phrase.read (.margin :: pieces) (blanks ++ t) =
      pieces.read t := by
  have hPiece :
      Piece.read .margin (blanks ++ t) = some ([], t) := by
    simp [Piece.read, Text.skipBlanks,
      dropWhile_run_append hBlanks hStart]
  rw [Phrase.read, hPiece]
  cases hRead : pieces.read t with
  | none =>
      simp [hRead]
  | some pair =>
      simp [hRead]

theorem read_gap_iff :
    Phrase.read (.gap :: pieces) t = some (names, after) ↔
      ∃ blanks rest,
        blanks ≠ [] ∧ IsBlankRun blanks ∧
          StartsOutside isBlank rest ∧
            t = blanks ++ rest ∧
              pieces.read rest = some (names, after) := by
  rw [read_cons_iff]
  constructor
  · intro hExists
    rcases hExists with
      ⟨first, middle, more, hPiece, hMore, rfl⟩
    cases t with
    | nil =>
        simp [Piece.read] at hPiece
    | cons c tail =>
        simp only [Piece.read, Text.skipBlanks] at hPiece
        split at hPiece
        · rename_i hBlank
          simp only [Option.some.injEq, Prod.mk.injEq]
            at hPiece
          rcases hPiece with ⟨rfl, rfl⟩
          refine ⟨c :: tail.takeWhile isBlank,
            tail.dropWhile isBlank, by simp, ?_,
            startsOutside_dropWhile isBlank tail, ?_,
            hMore⟩
          · intro d hMem
            rcases List.mem_cons.mp hMem with rfl | hTail
            · exact hBlank
            · exact List.mem_takeWhile_imp hTail
          · simp [List.takeWhile_append_dropWhile]
        · simp at hPiece
  · intro hExists
    rcases hExists with
      ⟨blanks, rest, hNonempty, hBlanks, hRest, rfl, hMore⟩
    refine ⟨[], rest, names, ?_, hMore, rfl⟩
    cases blanks with
    | nil =>
        contradiction
    | cons c tail =>
        have hTail : ∀ d ∈ tail, isBlank d = true :=
          fun d hMem => hBlanks d (by simp [hMem])
        simp [Piece.read, Text.skipBlanks,
          hBlanks c (by simp),
          dropWhile_run_append hTail hRest]

theorem read_name_iff :
    Phrase.read (.name :: pieces) t = some (names, after) ↔
      ∃ name rest more,
        IsWordRun name ∧ StartsOutside isWord rest ∧
          t = name ++ rest ∧ names = name :: more ∧
            pieces.read rest = some (more, after) := by
  rw [read_cons_iff]
  constructor
  · intro hExists
    rcases hExists with
      ⟨first, middle, more, hPiece, hMore, rfl⟩
    cases t with
    | nil =>
        simp [Piece.read] at hPiece
    | cons c tail =>
        simp only [Piece.read] at hPiece
        split at hPiece
        · rename_i hWord
          simp only [Option.some.injEq, Prod.mk.injEq]
            at hPiece
          rcases hPiece with ⟨rfl, rfl⟩
          refine ⟨c :: tail.takeWhile isWord,
            tail.dropWhile isWord, more, ⟨by simp, ?_⟩,
            startsOutside_dropWhile isWord tail, ?_, rfl,
            hMore⟩
          · intro d hMem
            rcases List.mem_cons.mp hMem with rfl | hTail
            · exact hWord
            · exact List.mem_takeWhile_imp hTail
          · simp [List.takeWhile_append_dropWhile]
        · simp at hPiece
  · intro hExists
    rcases hExists with
      ⟨name, rest, more, ⟨hNonempty, hName⟩, hRest, rfl,
        rfl, hMore⟩
    refine ⟨[name], rest, more, ?_, hMore, rfl⟩
    cases name with
    | nil =>
        contradiction
    | cons c tail =>
        have hTail : ∀ d ∈ tail, isWord d = true :=
          fun d hMem => hName d (by simp [hMem])
        simp [Piece.read, hName c (by simp),
          dropWhile_run_append hTail hRest,
          takeWhile_run_append hTail hRest]

/- A double quote is passed where there may be one. -/
theorem read_quote_cons
    (pieces : Phrase)
    (rest : Text) :
    Phrase.read (.quote :: pieces) ('"' :: rest) =
      pieces.read rest := by
  have hPiece :
      Piece.read .quote ('"' :: rest) = some ([], rest) :=
    rfl
  rw [Phrase.read, hPiece]
  cases hRead : pieces.read rest <;> simp [hRead]

/- Another character is left to the pieces behind. -/
theorem read_quote_of_ne
    {c : Char}
    (hOther : c ≠ '"')
    (pieces : Phrase)
    (rest : Text) :
    Phrase.read (.quote :: pieces) (c :: rest) =
      pieces.read (c :: rest) := by
  have hPiece :
      Piece.read .quote (c :: rest) =
        some ([], c :: rest) := by
    simp [Piece.read, hOther]
  rw [Phrase.read, hPiece]
  cases hRead : pieces.read (c :: rest) <;> simp [hRead]

/- No name begins outside the word characters. -/
theorem read_name_of_startsOutside
    (hStart : StartsOutside isWord t)
    (pieces : Phrase) :
    Phrase.read (.name :: pieces) t = none := by
  cases t with
  | nil =>
      rfl
  | cons c rest =>
      have hOut := startsOutside_cons_iff.mp hStart
      simp [Phrase.read, Piece.read, hOut]

/- A phrase in two parts is read part by part. -/
theorem read_append_iff
    {front back : Phrase} :
    Phrase.read (front ++ back) t = some (names, after) ↔
      ∃ first middle more,
        front.read t = some (first, middle) ∧
          back.read middle = some (more, after) ∧
            names = first ++ more := by
  induction front generalizing t names with
  | nil =>
      simp [Phrase.read]
  | cons piece front ih =>
      rw [List.cons_append, read_cons_iff]
      constructor
      · intro hExists
        rcases hExists with
          ⟨first, middle, more, hPiece, hMore, rfl⟩
        rcases ih.mp hMore with
          ⟨second, next, third, hFront, hBack, rfl⟩
        exact ⟨first ++ second, next, third,
          read_cons_iff.mpr
            ⟨first, middle, second, hPiece, hFront, rfl⟩,
          hBack, by simp⟩
      · intro hExists
        rcases hExists with
          ⟨first, middle, more, hFront, hBack, rfl⟩
        rcases read_cons_iff.mp hFront with
          ⟨head, next, second, hPiece, hSecond, rfl⟩
        exact ⟨head, next, second ++ more, hPiece,
          ih.mpr ⟨second, middle, more, hSecond, hBack,
            rfl⟩, by simp⟩

/- A piece names one word or none. -/
theorem length_of_readPiece
    {piece : Piece}
    (hRead : piece.read t = some (names, after)) :
    names.length = [piece].count .name := by
  unfold Piece.read at hRead
  split at hRead
  · simp only [Option.some.injEq, Prod.mk.injEq] at hRead
    simp [← hRead.1]
  · simp at hRead
  · split at hRead
    · simp only [Option.some.injEq, Prod.mk.injEq]
        at hRead
      simp [← hRead.1]
    · simp at hRead
  · rcases Option.map_eq_some_iff.mp hRead with
      ⟨rest, -, hPair⟩
    rw [Prod.mk.injEq] at hPair
    simp [← hPair.1]
  · simp only [Option.some.injEq, Prod.mk.injEq] at hRead
    simp [← hRead.1]
  · simp only [Option.some.injEq, Prod.mk.injEq] at hRead
    simp [← hRead.1]
  · simp at hRead
  · split at hRead
    · simp only [Option.some.injEq, Prod.mk.injEq]
        at hRead
      simp [← hRead.1]
    · simp at hRead

/- A phrase names as many words as it has places for them. -/
theorem length_of_read
    {phrase : Phrase}
    (hRead : phrase.read t = some (names, after)) :
    names.length = phrase.count .name := by
  induction phrase generalizing t names with
  | nil =>
      simp only [Phrase.read, Option.some.injEq,
        Prod.mk.injEq] at hRead
      simp [← hRead.1]
  | cons piece pieces ih =>
      rcases read_cons_iff.mp hRead with
        ⟨first, middle, more, hPiece, hMore, rfl⟩
      rw [List.length_append, length_of_readPiece hPiece,
        ih hMore, ← List.count_append]
      rfl

end Phrase

end SafeRerun
