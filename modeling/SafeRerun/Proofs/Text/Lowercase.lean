import SafeRerun.Text.Lowercase
import SafeRerun.Proofs.Text.Character

/-
  How long the lower case form of a text is.

  Key theorems include:
    * `SafeRerun.Text.length_lowercase`
    * `SafeRerun.Text.eq_of_infix_of_lowercase_eq`

  Every character has a form of its own that is not empty,
  and a sigma has forms of one length.  So a part of a text
  that is not the whole has a shorter form than the text.
-/

------------------------------------------------------------
-- Lengths of Forms
------------------------------------------------------------

namespace SafeRerun

/- The form of a character is not empty. -/
theorem length_lowercaseOf_pos
    (c : Char) :
    0 < (lowercaseOf c).length := by
  unfold lowercaseOf
  split
  · exact Nat.one_pos
  · split
    · exact Nat.two_pos
    · split
      · exact Nat.one_pos
      · exact Nat.one_pos

namespace Text

/- A capital sigma has a form of one character. -/
theorem length_lowercaseOf_sigma
    {c : Char}
    (hSigma : c.toNat = 0x3A3) :
    (lowercaseOf c).length = 1 := by
  have hChar : c = Char.ofNat 0x3A3 := by
    rw [← hSigma, Char.ofNat_toNat]
  rw [hChar]
  decide +kernel

/- The lengths of the forms of its characters add up. -/
theorem length_lowercaseAfter
    (before t : Text) :
    (lowercaseAfter before t).length =
      (t.map fun c => (lowercaseOf c).length).sum := by
  induction t generalizing before with
  | nil =>
      rfl
  | cons c rest ih =>
      rw [lowercaseAfter, List.length_append, ih,
        List.map_cons, List.sum_cons]
      congr 1
      by_cases hSigma : c.toNat = 0x3A3
      · rw [if_pos hSigma, length_lowercaseOf_sigma hSigma]
        split <;> rfl
      · rw [if_neg hSigma]

theorem length_lowercase
    (t : Text) :
    t.lowercase.length =
      (t.map fun c => (lowercaseOf c).length).sum :=
  length_lowercaseAfter [] t

/- A form is at least as long as its text. -/
theorem length_le_length_lowercase
    (t : Text) :
    t.length ≤ t.lowercase.length := by
  rw [length_lowercase]
  induction t with
  | nil =>
      rfl
  | cons c rest ih =>
      have hFirst := length_lowercaseOf_pos c
      rw [List.length_cons, List.map_cons, List.sum_cons]
      omega

/- A part with the form of the whole text is the text. -/
theorem eq_of_infix_of_lowercase_eq
    {part t : Text}
    (hPart : part <:+: t)
    (hForm : part.lowercase = t.lowercase) :
    part = t := by
  rcases hPart with ⟨front, back, rfl⟩
  have hLength := congrArg List.length hForm
  have hFront := length_le_length_lowercase front
  have hBack := length_le_length_lowercase back
  rw [length_lowercase] at hFront hBack
  rw [length_lowercase, length_lowercase, List.map_append,
    List.map_append, List.sum_append, List.sum_append]
    at hLength
  have hNone : front = [] ∧ back = [] := by
    constructor
    · exact List.length_eq_zero_iff.mp (by omega)
    · exact List.length_eq_zero_iff.mp (by omega)
  rw [hNone.1, hNone.2, List.nil_append, List.append_nil]

end Text

end SafeRerun
