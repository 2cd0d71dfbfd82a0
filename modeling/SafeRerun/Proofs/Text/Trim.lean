import SafeRerun.Proofs.Text.Run

/-
  What trimming leaves of a text that is known in parts.

  Key theorems include:
    * `SafeRerun.Text.trim_blanks_append`
    * `SafeRerun.Text.dropTrailingBlanks_append`
    * `SafeRerun.Text.trim_append_blanks`

  A text loses its leading blanks and its trailing ones, and
  all that stands between two solid characters is kept.
-/

------------------------------------------------------------
-- Leading and Trailing Blanks
------------------------------------------------------------

namespace SafeRerun

namespace Text

/- Leading blanks are lost. -/
theorem trim_blanks_append
    {blanks t : Text}
    (hBlanks : IsBlankRun blanks)
    (hStart : StartsOutside isBlank t) :
    Text.trim (blanks ++ t) = dropTrailingBlanks t := by
  unfold Text.trim skipBlanks
  rw [dropWhile_run_append hBlanks hStart]

/- A text that begins with no blank only loses at its end. -/
theorem trim_of_startsOutside
    {t : Text}
    (hStart : StartsOutside isBlank t) :
    t.trim = dropTrailingBlanks t := by
  exact trim_blanks_append isBlankRun_nil hStart

/- All that stands before a last solid character is kept. -/
theorem dropTrailingBlanks_append
    (front : Text)
    {c : Char}
    (hSolid : isBlank c = false)
    (back : Text) :
    dropTrailingBlanks (front ++ c :: back) =
      front ++ c :: dropTrailingBlanks back := by
  unfold dropTrailingBlanks
  rw [List.reverse_append, List.reverse_cons,
    List.append_assoc, List.dropWhile_append]
  by_cases hEmpty :
      (List.dropWhile isBlank back.reverse).isEmpty = true
  · rw [if_pos hEmpty]
    rw [List.isEmpty_iff] at hEmpty
    simp [hEmpty, hSolid]
  · rw [if_neg hEmpty]
    simp

/- Blanks alone are lost altogether. -/
theorem dropTrailingBlanks_blanks
    {blanks : Text}
    (hBlanks : IsBlankRun blanks) :
    dropTrailingBlanks blanks = [] := by
  unfold dropTrailingBlanks
  rw [List.reverse_eq_nil_iff, List.dropWhile_eq_nil_iff]
  intro c hMem
  exact hBlanks c (List.mem_reverse.mp hMem)

/- Trailing blanks are lost whatever stands before them. -/
theorem dropTrailingBlanks_append_blanks
    (t : Text)
    {blanks : Text}
    (hBlanks : IsBlankRun blanks) :
    dropTrailingBlanks (t ++ blanks) =
      dropTrailingBlanks t := by
  have hRun : ∀ c ∈ blanks.reverse, isBlank c = true :=
    fun c hMem => hBlanks c (List.mem_reverse.mp hMem)
  unfold dropTrailingBlanks
  rw [List.reverse_append,
    List.dropWhile_append_of_pos hRun]

theorem trim_append_blanks
    (t : Text)
    {blanks : Text}
    (hBlanks : IsBlankRun blanks) :
    trim (t ++ blanks) = trim t := by
  unfold trim skipBlanks
  rw [List.dropWhile_append]
  by_cases hNone : (t.dropWhile isBlank).isEmpty = true
  · have hAll : blanks.dropWhile isBlank = [] :=
      List.dropWhile_eq_nil_iff.mpr hBlanks
    rw [if_pos hNone, hAll, List.isEmpty_iff.mp hNone]
  · rw [if_neg hNone,
      dropTrailingBlanks_append_blanks _ hBlanks]

end Text

end SafeRerun
