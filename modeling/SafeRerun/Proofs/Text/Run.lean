import SafeRerun.Proofs.Text.Character

/-
  Runs of characters at the beginning of a text, and the
  words and gaps that are such runs.

  Key definitions include:
    * `SafeRerun.StartsOutside`
    * `SafeRerun.IsWordRun`
    * `SafeRerun.IsBlankRun`
    * `SafeRerun.Spelled`

  Key theorems include:
    * `SafeRerun.append_run_inj`

  A run ends where the text goes on outside its class.  A
  text is divided into a run and a rest in one way only.
-/

------------------------------------------------------------
-- Where a Run Ends
------------------------------------------------------------

namespace SafeRerun

/- The text is empty or begins outside the class. -/
def StartsOutside
    (p : Char → Bool)
    (t : Text) : Prop :=
  ∀ c, t.head? = some c → p c = false

theorem startsOutside_nil
    (p : Char → Bool) :
    StartsOutside p [] := by
  intro c hHead
  simp at hHead

theorem startsOutside_cons_iff
    {p : Char → Bool}
    {c : Char}
    {t : Text} :
    StartsOutside p (c :: t) ↔ p c = false := by
  simp [StartsOutside]

/- The beginning of a text decides. -/
theorem StartsOutside.of_append
    {p : Char → Bool}
    {front back : Text}
    (hOut : StartsOutside p (front ++ back)) :
    StartsOutside p front := by
  cases front with
  | nil =>
      exact startsOutside_nil p
  | cons c tail =>
      rw [List.cons_append, startsOutside_cons_iff] at hOut
      exact startsOutside_cons_iff.mpr hOut

theorem StartsOutside.append
    {p : Char → Bool}
    {front : Text}
    (hOut : StartsOutside p front)
    (hNonempty : front ≠ [])
    (back : Text) :
    StartsOutside p (front ++ back) := by
  cases front with
  | nil =>
      contradiction
  | cons c tail =>
      rw [List.cons_append, startsOutside_cons_iff]
      exact startsOutside_cons_iff.mp hOut

/- What is left behind a run begins outside the class. -/
theorem startsOutside_dropWhile
    (p : Char → Bool)
    (t : Text) :
    StartsOutside p (t.dropWhile p) := by
  induction t with
  | nil =>
      exact startsOutside_nil p
  | cons c rest ih =>
      by_cases hClass : p c = true
      · rw [List.dropWhile_cons_of_pos hClass]
        exact ih
      · rw [List.dropWhile_cons_of_neg hClass,
          startsOutside_cons_iff]
        simpa using hClass

/- A run is all that is taken. -/
theorem takeWhile_run_append
    {p : Char → Bool}
    {run rest : Text}
    (hRun : ∀ c ∈ run, p c = true)
    (hRest : StartsOutside p rest) :
    (run ++ rest).takeWhile p = run := by
  rw [List.takeWhile_append_of_pos hRun]
  cases rest with
  | nil =>
      simp
  | cons c tail =>
      have hOut := startsOutside_cons_iff.mp hRest
      simp [hOut]

/- What follows a run is all that is left. -/
theorem dropWhile_run_append
    {p : Char → Bool}
    {run rest : Text}
    (hRun : ∀ c ∈ run, p c = true)
    (hRest : StartsOutside p rest) :
    (run ++ rest).dropWhile p = rest := by
  rw [List.dropWhile_append_of_pos hRun]
  cases rest with
  | nil =>
      simp
  | cons c tail =>
      have hOut := startsOutside_cons_iff.mp hRest
      simp [hOut]

/-
  A run is not lengthened by text behind the first character
  outside its class.
-/
theorem takeWhile_append_cons
    {p : Char → Bool}
    {c : Char}
    (hOut : p c = false)
    (t rest : Text) :
    (t ++ c :: rest).takeWhile p = t.takeWhile p := by
  induction t with
  | nil =>
      simp [hOut]
  | cons d tail ih =>
      by_cases hClass : p d = true
      · simp [hClass, ih]
      · simp [hClass]

theorem dropWhile_append_cons
    {p : Char → Bool}
    {c : Char}
    (hOut : p c = false)
    (t rest : Text) :
    (t ++ c :: rest).dropWhile p =
      t.dropWhile p ++ c :: rest := by
  induction t with
  | nil =>
      simp [hOut]
  | cons d tail ih =>
      by_cases hClass : p d = true
      · simp [hClass, ih]
      · simp [hClass]

/- A text is a run and a rest in one way only. -/
theorem append_run_inj
    {p : Char → Bool}
    {run rest run' rest' : Text}
    (hEq : run ++ rest = run' ++ rest')
    (hRun : ∀ c ∈ run, p c = true)
    (hRest : StartsOutside p rest)
    (hRun' : ∀ c ∈ run', p c = true)
    (hRest' : StartsOutside p rest') :
    run = run' ∧ rest = rest' := by
  have hTake := takeWhile_run_append hRun hRest
  have hDrop := dropWhile_run_append hRun hRest
  rw [hEq] at hTake hDrop
  rw [takeWhile_run_append hRun' hRest'] at hTake
  rw [dropWhile_run_append hRun' hRest'] at hDrop
  exact ⟨hTake.symm, hDrop.symm⟩

end SafeRerun

------------------------------------------------------------
-- Words, Gaps and Spelled Keywords
------------------------------------------------------------

namespace SafeRerun

/- A word is a run of word characters that is not empty. -/
def IsWordRun
    (t : Text) : Prop :=
  t ≠ [] ∧ ∀ c ∈ t, isWord c = true

instance
    (t : Text) :
    Decidable (IsWordRun t) :=
  decidable_of_iff (t ≠ [] ∧ t.all isWord = true)
    (by rw [List.all_eq_true]; rfl)

/- A text that holds nothing but blanks. -/
def IsBlankRun
    (t : Text) : Prop :=
  ∀ c ∈ t, isBlank c = true

instance
    (t : Text) :
    Decidable (IsBlankRun t) :=
  decidable_of_iff (t.all isBlank = true) List.all_eq_true

/- A text that spells a keyword, letter by letter. -/
def Spelled
    (keyword t : Text) : Prop :=
  List.Forall₂
    (fun letter c => spells letter c = true) keyword t

/- A keyword has letters, all of them capitals. -/
def IsKeyword
    (keyword : Text) : Prop :=
  keyword ≠ [] ∧ ∀ letter ∈ keyword, letter.isUpper = true

instance
    (keyword : Text) :
    Decidable (IsKeyword keyword) :=
  decidable_of_iff
    (keyword ≠ [] ∧ keyword.all Char.isUpper = true)
    (by rw [List.all_eq_true]; rfl)

/- A word holds no blank. -/
theorem IsWordRun.solid
    {t : Text}
    (hWord : IsWordRun t) :
    ∀ c ∈ t, isBlank c = false :=
  fun c hMem => isBlank_eq_false_of_isWord (hWord.2 c hMem)

/- A word does not go over the end of a line. -/
theorem IsWordRun.not_mem_of_isBlank
    {t : Text}
    {blank : Char}
    (hWord : IsWordRun t)
    (hBlank : isBlank blank = true) :
    blank ∉ t := by
  intro hMem
  rw [hWord.solid blank hMem] at hBlank
  contradiction

theorem IsWordRun.feed_not_mem
    {t : Text}
    (hWord : IsWordRun t) :
    '\n' ∉ t :=
  hWord.not_mem_of_isBlank (by decide)

theorem IsWordRun.startsOutside_isBlank
    {t : Text}
    (hWord : IsWordRun t)
    (rest : Text) :
    StartsOutside isBlank (t ++ rest) := by
  rcases hWord with ⟨hNonempty, hAll⟩
  refine StartsOutside.append ?_ hNonempty rest
  intro c hHead
  exact isBlank_eq_false_of_isWord
    (hAll c (List.mem_of_head? hHead))

theorem IsBlankRun.startsOutside_isWord
    {t : Text}
    (hBlank : IsBlankRun t)
    (hNonempty : t ≠ [])
    (rest : Text) :
    StartsOutside isWord (t ++ rest) := by
  refine StartsOutside.append ?_ hNonempty rest
  intro c hHead
  exact isWord_eq_false_of_isBlank
    (hBlank c (List.mem_of_head? hHead))

theorem IsBlankRun.startsOutside_solid
    {t : Text}
    (hBlank : IsBlankRun t)
    (hNonempty : t ≠ [])
    (rest : Text) :
    StartsOutside (fun c => !isBlank c) (t ++ rest) := by
  refine StartsOutside.append ?_ hNonempty rest
  intro c hHead
  simp [hBlank c (List.mem_of_head? hHead)]

theorem isBlankRun_nil :
    IsBlankRun [] := by
  intro c hMem
  simp at hMem

/- Whatever spells a keyword is a word. -/
theorem Spelled.isWordRun
    {keyword t : Text}
    (hSpelled : Spelled keyword t)
    (hKeyword : IsKeyword keyword) :
    IsWordRun t := by
  rcases hKeyword with ⟨hNonempty, hCapitals⟩
  constructor
  · intro hNil
    subst hNil
    cases hSpelled
    contradiction
  · clear hNonempty
    induction hSpelled with
    | nil =>
        simp
    | cons hFirst hRest ih =>
        intro d hMem
        rcases List.mem_cons.mp hMem with rfl | hTail
        · exact isWord_of_spells
            (hCapitals _ (by simp)) hFirst
        · exact ih
            (fun letter hLetter =>
              hCapitals letter (by simp [hLetter]))
            d hTail

/- A sign that is no letter is spelled as it is. -/
theorem Spelled.eq_sign
    {sign : Char}
    {t : Text}
    (hSpelled : Spelled [sign] t)
    (hSign : sign.isAlpha = false) :
    t = [sign] := by
  cases hSpelled with
  | cons hFirst hRest =>
      cases hRest
      rw [eq_of_spells hSign hFirst]

/- No text spells two keywords. -/
theorem Spelled.unique
    {keyword other t : Text}
    (hSpelled : Spelled keyword t)
    (hOtherSpelled : Spelled other t)
    (hKeyword : ∀ letter ∈ keyword, letter.isUpper = true)
    (hOther : ∀ letter ∈ other, letter.isUpper = true) :
    keyword = other := by
  induction hSpelled generalizing other with
  | nil =>
      cases hOtherSpelled
      rfl
  | cons hFirst hRest ih =>
      cases hOtherSpelled with
      | cons hOtherFirst hOtherRest =>
          have hSame :=
            spells_unique (hKeyword _ (by simp))
              (hOther _ (by simp)) hFirst hOtherFirst
          rw [hSame, ih hOtherRest
            (fun letter hMem =>
              hKeyword letter (by simp [hMem]))
            (fun letter hMem =>
              hOther letter (by simp [hMem]))]

/-
  What a spelled keyword ends in spells nothing but an
  ending of the keyword.
-/
theorem Spelled.suffix
    {keyword other word ending : Text}
    (hOtherSpelled : Spelled other word)
    (hKeyword : IsKeyword keyword)
    (hOther : IsKeyword other)
    (hEnd : ending <:+ word)
    (hSpelled : Spelled keyword ending) :
    keyword <:+ other := by
  rcases hEnd with ⟨front, rfl⟩
  have hDropped :
      Spelled (other.drop front.length) ending :=
    List.forall₂_drop_append other front ending
      hOtherSpelled
  have hSame :=
    hSpelled.unique hDropped hKeyword.2
      fun letter hMem =>
        hOther.2 letter (List.mem_of_mem_drop hMem)
  rw [hSame]
  exact List.drop_suffix _ other

end SafeRerun
