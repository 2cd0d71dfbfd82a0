import SafeRerun.Proofs.Text.Line
import SafeRerun.Proofs.Text.Trim

/-
  The words of a text, which are what its blanks separate.

  Key definitions include:
    * `SafeRerun.Text.words`

  Key theorems include:
    * `SafeRerun.Text.words_append_blank`
    * `SafeRerun.Text.words_trim`
    * `SafeRerun.Text.flatMap_words_splitLines`
    * `SafeRerun.Text.exists_of_words_eq_cons`

  A blank divides a text into two whose words are counted
  apart.  Everything else follows: blanks on their own are
  no word, so neither trimming a text nor dividing it into
  lines changes its words.
-/

------------------------------------------------------------
-- Words
------------------------------------------------------------

namespace SafeRerun

namespace Text

/- The longest parts of a text that hold no blank. -/
def words
    (t : Text) :
    List Text :=
  (t.splitOnP isBlank).filter fun word => word ≠ []

variable {t : Text}

theorem words_nil :
    words [] = [] := by
  simp [words]

/- A blank belongs to no word and ends the one before it. -/
theorem words_append_blank
    (front : Text)
    {blank : Char}
    (hBlank : isBlank blank = true)
    (back : Text) :
    words (front ++ blank :: back) =
      words front ++ words back := by
  rw [words, List.splitOnP_append_cons front back hBlank,
    List.filter_append, ← words, ← words]

theorem words_blank_cons
    {blank : Char}
    (hBlank : isBlank blank = true)
    (rest : Text) :
    words (blank :: rest) = words rest := by
  rw [← List.nil_append (blank :: rest),
    words_append_blank [] hBlank, words_nil,
    List.nil_append]

/- Blanks before a text are no word of it. -/
theorem words_blanks_append
    {blanks : Text}
    (hBlanks : IsBlankRun blanks)
    (rest : Text) :
    words (blanks ++ rest) = words rest := by
  induction blanks with
  | nil =>
      rfl
  | cons c tail ih =>
      rw [List.cons_append,
        words_blank_cons (hBlanks c (by simp))]
      exact ih fun d hMem => hBlanks d (by simp [hMem])

/- Blanks behind a text are no word of it. -/
theorem words_append_blanks
    (front : Text)
    {blanks : Text}
    (hBlanks : IsBlankRun blanks) :
    words (front ++ blanks) = words front := by
  cases blanks with
  | nil =>
      rw [List.append_nil]
  | cons c tail =>
      have hTail : IsBlankRun tail :=
        fun d hMem => hBlanks d (by simp [hMem])
      have hNone := words_blanks_append hTail []
      rw [List.append_nil, words_nil] at hNone
      rw [words_append_blank front (hBlanks c (by simp)),
        hNone, List.append_nil]

/-
  A part without blanks is one word if nothing continues it.
-/
theorem words_solid_append
    {word rest : Text}
    (hNonempty : word ≠ [])
    (hSolid : ∀ c ∈ word, isBlank c = false)
    (hRest : StartsOutside (fun c => !isBlank c) rest) :
    words (word ++ rest) = word :: words rest := by
  have hWord : words word = [word] := by
    rw [words, List.splitOnP_eq_singleton hSolid]
    simp [hNonempty]
  cases rest with
  | nil =>
      rw [List.append_nil, hWord, words_nil]
  | cons c tail =>
      have hBlank : isBlank c = true := by
        simpa using startsOutside_cons_iff.mp hRest
      rw [words_append_blank word hBlank, hWord,
        words_blank_cons hBlank]
      rfl

theorem words_word_gap_append
    {word gap : Text}
    (hWord : IsWordRun word)
    (hGap : gap ≠ [])
    (hBlank : IsBlankRun gap)
    (rest : Text) :
    words (word ++ (gap ++ rest)) = word :: words rest := by
  rw [words_solid_append hWord.1 hWord.solid
      (hBlank.startsOutside_solid hGap rest),
    words_blanks_append hBlank]

/- A text begins with its first word, after some blanks. -/
theorem exists_of_words_eq_cons
    {word : Text}
    {others : List Text}
    (hWords : words t = word :: others) :
    ∃ blanks rest,
      t = blanks ++ (word ++ rest) ∧ IsBlankRun blanks ∧
        word ≠ [] ∧ (∀ c ∈ word, isBlank c = false) ∧
          StartsOutside (fun c => !isBlank c) rest ∧
            words rest = others := by
  have hBlanks : IsBlankRun (t.takeWhile isBlank) :=
    fun c hMem => List.mem_takeWhile_imp hMem
  have hSplit :
      t.takeWhile isBlank ++ t.dropWhile isBlank = t :=
    List.takeWhile_append_dropWhile
  have hStart := startsOutside_dropWhile isBlank t
  rw [← hSplit, words_blanks_append hBlanks] at hWords
  generalize t.dropWhile isBlank = solid at hSplit hStart hWords
  have hDivide :
      solid.takeWhile (fun c => !isBlank c) ++
          solid.dropWhile (fun c => !isBlank c) =
        solid :=
    List.takeWhile_append_dropWhile
  have hRest :=
    startsOutside_dropWhile (fun c => !isBlank c) solid
  have hSolid :
      ∀ c ∈ solid.takeWhile (fun c => !isBlank c),
        isBlank c = false := by
    intro c hMem
    simpa using List.mem_takeWhile_imp hMem
  have hNonempty :
      solid.takeWhile (fun c => !isBlank c) ≠ [] := by
    cases solid with
    | nil =>
        simp [words_nil] at hWords
    | cons c tail =>
        simp [startsOutside_cons_iff.mp hStart]
  rw [← hDivide, words_solid_append hNonempty hSolid hRest,
    List.cons.injEq] at hWords
  rcases hWords with ⟨rfl, rfl⟩
  exact ⟨t.takeWhile isBlank, _,
    by rw [hDivide, hSplit], hBlanks, hNonempty, hSolid,
    hRest, rfl⟩

/- Behind a word, blanks come before the next one. -/
theorem exists_gap_of_words_eq_cons
    {word : Text}
    {others : List Text}
    (hWords : t.words = word :: others)
    (hStart : StartsOutside (fun c => !isBlank c) t) :
    ∃ gap rest,
      gap ≠ [] ∧ IsBlankRun gap ∧ t = gap ++ (word ++ rest) ∧
        StartsOutside isBlank (word ++ rest) ∧
          StartsOutside (fun c => !isBlank c) rest ∧
            rest.words = others := by
  rcases exists_of_words_eq_cons hWords with
    ⟨gap, rest, rfl, hGap, hNonempty, hSolid, hRest, hOthers⟩
  cases word with
  | nil =>
      contradiction
  | cons c tail =>
      have hFirst := hSolid c (by simp)
      refine ⟨gap, rest, ?_, hGap, rfl,
        startsOutside_cons_iff.mpr hFirst, hRest, hOthers⟩
      rintro rfl
      rw [List.nil_append, List.cons_append,
        startsOutside_cons_iff, hFirst] at hStart
      contradiction

end Text

end SafeRerun

------------------------------------------------------------
-- Words of Trimmed Texts and of Lines
------------------------------------------------------------

namespace SafeRerun

namespace Text

/- Trimming takes blanks away on either side. -/
theorem exists_eq_append_trim
    (t : Text) :
    ∃ front back,
      IsBlankRun front ∧ IsBlankRun back ∧
        t = front ++ (t.trim ++ back) := by
  refine ⟨t.takeWhile isBlank,
    ((t.skipBlanks).reverse.takeWhile isBlank).reverse,
    fun c hMem => List.mem_takeWhile_imp hMem, ?_, ?_⟩
  · intro c hMem
    exact List.mem_takeWhile_imp (List.mem_reverse.mp hMem)
  · rw [trim, dropTrailingBlanks, ← List.reverse_append,
      List.takeWhile_append_dropWhile, List.reverse_reverse,
      skipBlanks, List.takeWhile_append_dropWhile]

/- Trimming takes no word away. -/
theorem words_trim
    (t : Text) :
    words t.trim = words t := by
  rcases exists_eq_append_trim t with
    ⟨front, back, hFront, hBack, hText⟩
  conv_rhs =>
    rw [hText, words_blanks_append hFront,
      words_append_blanks _ hBack]

/- The end of a line is the end of a word. -/
theorem words_append_of_closesLine
    {front : Text}
    (hFront : ClosesLine front)
    (back : Text) :
    words (front ++ back) = words front ++ words back := by
  have hFeed : isBlank '\n' = true := by decide
  rcases hFront with rfl | ⟨body, rfl⟩
  · rw [words_nil, List.nil_append, List.nil_append]
  · rw [List.append_assoc, List.singleton_append,
      words_append_blank body hFeed,
      words_append_blank body hFeed, words_nil,
      List.append_nil]

/- The words of lines are the words of the text they make. -/
theorem words_flatten
    {lines : List Text}
    (hLines : AreLines lines) :
    words lines.flatten = lines.flatMap words := by
  induction hLines with
  | none =>
      exact words_nil
  | last line hNonempty hFeed =>
      simp
  | line line rest hLine hRest ih =>
      rcases hLine with ⟨body, hBody, rfl⟩
      rw [List.flatten_cons, List.flatMap_cons,
        words_append_of_closesLine (Or.inr ⟨body, rfl⟩),
        ih]

theorem flatMap_words_splitLines
    (t : Text) :
    (splitLines t).flatMap words = words t := by
  rw [← words_flatten (areLines_splitLines t),
    flatten_splitLines]

end Text

end SafeRerun
