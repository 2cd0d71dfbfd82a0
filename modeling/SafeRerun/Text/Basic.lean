/-
  Text as a list of characters, and membership in a table of
  character ranges.

  Key definitions include:
    * `SafeRerun.Text`
    * `SafeRerun.Text.octets`
    * `SafeRerun.inRanges`
    * `SafeRerun.Text.contains`

  Key theorems include:
    * `SafeRerun.Text.octets_append`

  Every decision of this library is taken by looking at
  characters from the left, so text is kept as the list of
  its characters.  Strings appear where text enters or
  leaves the library.
-/

------------------------------------------------------------
-- Text
------------------------------------------------------------

namespace SafeRerun

/- A text is the list of its characters. -/
abbrev Text : Type :=
  List Char

/- The characters of a string. -/
def Text.ofString
    (s : String) :
    Text :=
  s.toList

/- The text as a string, for output. -/
def Text.toString
    (t : Text) :
    String :=
  String.ofList t

/- The decimal digits of a number. -/
def Text.ofNat
    (n : Nat) :
    Text :=
  (Nat.toDigits 10 n)

/- The number of octets that encode a text. -/
def Text.octets :
    Text → Nat
  | [] => 0
  | c :: rest => c.utf8Size + octets rest

/- Texts that follow one another add their octets. -/
theorem Text.octets_append
    (a b : Text) :
    Text.octets (a ++ b) = a.octets + b.octets := by
  induction a with
  | nil =>
      simp [Text.octets]
  | cons c rest ih =>
      rw [List.cons_append, Text.octets, Text.octets, ih]
      omega

end SafeRerun

------------------------------------------------------------
-- Character Ranges
------------------------------------------------------------

namespace SafeRerun

/-
  A table of inclusive code point ranges decides a property
  of characters: a character has it when one range holds
  its code point.
-/
def inRanges
    (ranges : List (Nat × Nat))
    (c : Char) :
    Bool :=
  ranges.any fun r =>
    decide (r.1 ≤ c.toNat) && decide (c.toNat ≤ r.2)

/- Membership in a table names the range that holds it. -/
theorem inRanges_eq_true_iff
    (ranges : List (Nat × Nat))
    (c : Char) :
    inRanges ranges c = true ↔
      ∃ r ∈ ranges, r.1 ≤ c.toNat ∧ c.toNat ≤ r.2 := by
  simp [inRanges]

end SafeRerun

------------------------------------------------------------
-- Substrings
------------------------------------------------------------

namespace SafeRerun

namespace Text

/- Whether `part` occurs somewhere in the text. -/
def contains
    (part : Text) :
    Text → Bool
  | [] => part.isEmpty
  | c :: rest =>
      part.isPrefixOf (c :: rest) || contains part rest

/- The texts joined with a separator between neighbours. -/
def joinWith
    (separator : Text)
    (parts : List Text) :
    Text :=
  separator.intercalate parts

end Text

end SafeRerun
