import Mathlib
import SafeRerun.Script.Phrase

/-
  How the classes of characters lie to one another.

  Key theorems include:
    * `SafeRerun.isWord_eq_false_of_isBlank`
    * `SafeRerun.isWord_of_spells`
    * `SafeRerun.spells_unique`

  No blank is a word character, every spelling of a capital
  letter is one, and no character spells two capitals.  All
  that is later said about where words end rests on this.
-/

------------------------------------------------------------
-- Disjoint Tables
------------------------------------------------------------

namespace SafeRerun

/- A character lies in no range apart from its own. -/
theorem inRanges_eq_false_of_apart
    (ranges others : List (Nat × Nat))
    (c : Char)
    (hApart :
      ∀ r ∈ ranges, ∀ s ∈ others,
        r.2 < s.1 ∨ s.2 < r.1)
    (hOther : inRanges others c = true) :
    inRanges ranges c = false := by
  rcases (inRanges_eq_true_iff others c).mp hOther with
    ⟨s, hMem, hLow, hHigh⟩
  by_contra hInside
  rcases (inRanges_eq_true_iff ranges c).mp
      (by simpa using hInside) with
    ⟨r, hRange, hFirst, hLast⟩
  rcases hApart r hRange s hMem with hBelow | hAbove
  · omega
  · omega

/- The two tables above ASCII have no code point in common. -/
theorem wordRanges_apart_blankRanges :
    ∀ r ∈ wordRanges, ∀ s ∈ blankRanges,
      r.2 < s.1 ∨ s.2 < r.1 := by
  decide +kernel

/- No blank of ASCII is a letter, a digit or the low line. -/
theorem isAsciiWord_eq_false_of_isAsciiBlank
    (c : Char)
    (hBlank : isAsciiBlank c = true) :
    isAsciiWord c = false := by
  simp only [isAsciiBlank, Bool.or_eq_true, beq_iff_eq,
    Bool.and_eq_true, decide_eq_true_eq] at hBlank
  rcases hBlank with rfl | ⟨hLow, hHigh⟩
  · rfl
  · have hCode : c = Char.ofNat c.toNat := by simp
    rw [hCode]
    generalize c.toNat = code at hLow hHigh
    interval_cases code <;> rfl

/- No blank is a word character. -/
theorem isWord_eq_false_of_isBlank
    {c : Char}
    (hBlank : isBlank c = true) :
    isWord c = false := by
  unfold isBlank at hBlank
  unfold isWord
  split at hBlank
  · rename_i hAscii
    rw [if_pos hAscii]
    exact isAsciiWord_eq_false_of_isAsciiBlank c hBlank
  · rename_i hAbove
    rw [if_neg hAbove]
    exact inRanges_eq_false_of_apart wordRanges
      blankRanges c wordRanges_apart_blankRanges hBlank

/- No word character is blank. -/
theorem isBlank_eq_false_of_isWord
    {c : Char}
    (hWord : isWord c = true) :
    isBlank c = false := by
  by_contra hBlank
  have hNot :=
    isWord_eq_false_of_isBlank (c := c) (by simpa using hBlank)
  simp [hWord] at hNot

end SafeRerun

------------------------------------------------------------
-- Spellings of Capitals
------------------------------------------------------------

namespace SafeRerun

/- The letters of ASCII are word characters. -/
theorem isWord_of_isAlpha
    {c : Char}
    (hAlpha : c.isAlpha = true) :
    isWord c = true := by
  have hAscii : c.toNat < 128 := by
    simp only [Char.isAlpha, Char.isUpper, Char.isLower,
      Bool.or_eq_true, Bool.and_eq_true, decide_eq_true_eq,
      UInt32.le_iff_toNat_le, ge_iff_le] at hAlpha
    change (65 ≤ c.toNat ∧ c.toNat ≤ 90) ∨
      (97 ≤ c.toNat ∧ c.toNat ≤ 122) at hAlpha
    omega
  rw [isWord_of_lt c hAscii]
  simp [isAsciiWord, Char.isAlphanum, hAlpha]

/- Whatever spells a capital letter is a word character. -/
theorem isWord_of_spells
    {letter c : Char}
    (hLetter : letter.isUpper = true)
    (hSpells : spells letter c = true) :
    isWord c = true := by
  have hCode : c = Char.ofNat c.toNat := by simp
  simp only [spells, Bool.or_eq_true, beq_iff_eq,
    Bool.and_eq_true] at hSpells
  rcases hSpells with (hUpper | ⟨-, hLong⟩) | ⟨-, hKelvin⟩
  · apply isWord_of_isAlpha
    rw [← Char.isUpper_toUpper_eq_isAlpha, hUpper]
    exact hLetter
  · rw [hCode, hLong]
    decide +kernel
  · rw [hCode, hKelvin]
    decide +kernel

/- What is no letter is spelled by itself only. -/
theorem eq_of_spells
    {sign c : Char}
    (hSign : sign.isAlpha = false)
    (hSpells : spells sign c = true) :
    c = sign := by
  simp only [spells, Bool.or_eq_true, beq_iff_eq,
    Bool.and_eq_true] at hSpells
  rcases hSpells with (hUpper | ⟨rfl, -⟩) | ⟨rfl, -⟩
  · have hAlpha : c.isAlpha = false := by
      rw [← Char.isAlpha_toUpper_eq_isAlpha, hUpper]
      exact hSign
    have hLower : ¬ c.isLower = true := by
      intro hSmall
      simp [Char.isAlpha, hSmall] at hAlpha
    rwa [Char.toUpper_eq_of_not_isLower hLower] at hUpper
  · simp at hSign
  · simp at hSign

/- No character spells two capital letters. -/
theorem spells_unique
    {letter other c : Char}
    (hLetter : letter.isUpper = true)
    (hOther : other.isUpper = true)
    (hSpells : spells letter c = true)
    (hSpellsOther : spells other c = true) :
    letter = other := by
  -- The long s and the Kelvin sign have no ASCII capital.
  have hLong : c.toNat = 0x17F → c.toUpper.isUpper = false := by
    intro hCode
    rw [← Char.ofNat_toNat c, hCode]
    decide
  have hKelvin :
      c.toNat = 0x212A → c.toUpper.isUpper = false := by
    intro hCode
    rw [← Char.ofNat_toNat c, hCode]
    decide
  simp only [spells, Bool.or_eq_true, beq_iff_eq,
    Bool.and_eq_true] at hSpells hSpellsOther
  grind

end SafeRerun
