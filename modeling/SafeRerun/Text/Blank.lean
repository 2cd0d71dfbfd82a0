import SafeRerun.Text.Basic

/-
  Blank characters, which separate the words of a statement.

  Key definitions include:
    * `SafeRerun.isBlank`
    * `SafeRerun.Text.trim`
    * `SafeRerun.Text.skipBlanks`

  Blank means the property White_Space of the character
  database, so it covers the line ends and the typographic
  spaces besides the space and the tab.  The zero width
  characters are not blank.
-/

------------------------------------------------------------
-- Blank Characters
------------------------------------------------------------

namespace SafeRerun

/- The blanks among the first 128 code points. -/
def isAsciiBlank
    (c : Char) :
    Bool :=
  c == ' ' || (decide (9 ≤ c.toNat) && decide (c.toNat ≤ 13))

/- The blanks above ASCII, as code point ranges. -/
def blankRanges :
    List (Nat × Nat) :=
  [(0x85, 0x85), (0xA0, 0xA0), (0x1680, 0x1680),
   (0x2000, 0x200A), (0x2028, 0x2029), (0x202F, 0x202F),
   (0x205F, 0x205F), (0x3000, 0x3000)]

/- Whether a character is blank. -/
def isBlank
    (c : Char) :
    Bool :=
  if c.toNat < 128 then
    isAsciiBlank c
  else
    inRanges blankRanges c

end SafeRerun

------------------------------------------------------------
-- Trimming
------------------------------------------------------------

namespace SafeRerun

namespace Text

/- The text after its leading blanks. -/
def skipBlanks
    (t : Text) :
    Text :=
  t.dropWhile isBlank

/- The text before its trailing blanks. -/
def dropTrailingBlanks
    (t : Text) :
    Text :=
  (t.reverse.dropWhile isBlank).reverse

/- The text between its leading and its trailing blanks. -/
def trim
    (t : Text) :
    Text :=
  dropTrailingBlanks (skipBlanks t)

/- Whether the text holds nothing but blanks. -/
def isAllBlank
    (t : Text) :
    Bool :=
  t.all isBlank

end Text

end SafeRerun
