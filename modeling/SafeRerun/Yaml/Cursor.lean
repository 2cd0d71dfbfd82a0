import SafeRerun.Text.Basic

/-
  A place in a YAML document and the text that follows it.

  Key definitions include:
    * `SafeRerun.Yaml.Mark`
    * `SafeRerun.Yaml.Cursor`
    * `SafeRerun.Yaml.Cursor.advance`
    * `SafeRerun.Yaml.Cursor.advanceLine`

  Lines and columns are counted from zero.  Besides the line
  feed and the carriage return, three further characters of
  the character database break a line.
-/

------------------------------------------------------------
-- Character Classes
------------------------------------------------------------

namespace SafeRerun

namespace Yaml

/- Characters that a document may hold. -/
def isAllowed
    (c : Char) :
    Bool :=
  inRanges
    [(0x9, 0xA), (0xD, 0xD), (0x20, 0x7E), (0x85, 0x85),
     (0xA0, 0xD7FF), (0xE000, 0xFFFD),
     (0x10000, 0x10FFFF)] c

/- Characters that break a line. -/
def isBreak
    (c : Char) :
    Bool :=
  c == '\n' || c == '\r' || c.toNat == 0x85 ||
    c.toNat == 0x2028 || c.toNat == 0x2029

/- The space and the tab. -/
def isSpacing
    (c : Char) :
    Bool :=
  c == ' ' || c == '\t'

/- Characters that do not belong to a run of text. -/
def isGap
    (c : Char) :
    Bool :=
  isSpacing c || isBreak c

/- Characters of anchors, handles and directive names. -/
def isIdentifier
    (c : Char) :
    Bool :=
  c.isAlphanum || c == '_' || c == '-'

/- The value of a hexadecimal digit. -/
def hexValue?
    (c : Char) :
    Option Nat :=
  if '0' ≤ c ∧ c ≤ '9' then
    some (c.toNat - '0'.toNat)
  else if 'a' ≤ c ∧ c ≤ 'f' then
    some (c.toNat - 'a'.toNat + 10)
  else if 'A' ≤ c ∧ c ≤ 'F' then
    some (c.toNat - 'A'.toNat + 10)
  else
    none

end Yaml

end SafeRerun

------------------------------------------------------------
-- Marks and Cursors
------------------------------------------------------------

namespace SafeRerun

namespace Yaml

/- A place in a document: its index counts octets. -/
structure Mark where
  line : Nat
  column : Nat
  index : Nat
  deriving DecidableEq, Repr

/- A place in a document with the text from there on. -/
structure Cursor where
  rest : Text
  mark : Mark

namespace Cursor

/- The cursor at the beginning of a text. -/
def start
    (t : Text) :
    Cursor :=
  ⟨t, ⟨0, 0, 0⟩⟩

/- The next character. -/
def peek?
    (cursor : Cursor) :
    Option Char :=
  cursor.rest.head?

/- Whether the next character is the given one. -/
def sees
    (c : Char)
    (cursor : Cursor) :
    Bool :=
  cursor.rest.head? == some c

/- Whether the next character has a property. -/
def seesAny
    (p : Char → Bool)
    (cursor : Cursor) :
    Bool :=
  cursor.rest.head?.any p

/-
  Whether the text ends, or a gap stands, after the given
  number of characters.
-/
def gapAfter
    (count : Nat)
    (cursor : Cursor) :
    Bool :=
  match cursor.rest.drop count with
  | [] => true
  | c :: _ => isGap c

/- Whether the line or the text ends here. -/
def atLineEnd
    (cursor : Cursor) :
    Bool :=
  match cursor.rest with
  | [] => true
  | c :: _ => isBreak c

/- Past the given number of characters of the line. -/
def advance
    (count : Nat)
    (cursor : Cursor) :
    Cursor :=
  { rest := cursor.rest.drop count
    mark :=
      { cursor.mark with
        column := cursor.mark.column + count
        index :=
          cursor.mark.index +
            Text.octets (cursor.rest.take count) } }

/- Past a line break, if one stands here. -/
def advanceLine
    (cursor : Cursor) :
    Cursor :=
  let below (width : Nat) (rest : Text) : Cursor :=
    ⟨rest, ⟨cursor.mark.line + 1, 0,
      cursor.mark.index + width⟩⟩
  match cursor.rest with
  | '\r' :: '\n' :: rest => below 2 rest
  | c :: rest =>
      if isBreak c then below c.utf8Size rest else cursor
  | [] => cursor

/-
  What a line break contributes to a text: a line feed, but
  the two Unicode separators stay what they are.
-/
def breakText
    (cursor : Cursor) :
    Text :=
  match cursor.rest with
  | c :: _ =>
      if c.toNat == 0x2028 || c.toNat == 0x2029 then
        [c]
      else if isBreak c then
        ['\n']
      else
        []
  | [] => []

/- The next characters with a property. -/
def run
    (p : Char → Bool)
    (cursor : Cursor) :
    Text :=
  cursor.rest.takeWhile p

/- Past the next characters with a property. -/
def skip
    (p : Char → Bool)
    (cursor : Cursor) :
    Cursor :=
  cursor.advance (cursor.run p).length

/- Past a comment, if one stands here. -/
def skipComment
    (cursor : Cursor) :
    Cursor :=
  if cursor.sees '#' then
    cursor.skip fun c => !isBreak c
  else
    cursor

/-
  Whether a line that separates documents begins here: three
  equal marks at the first column, and then a gap.
-/
def atDocumentLine
    (c : Char)
    (cursor : Cursor) :
    Bool :=
  cursor.mark.column == 0 &&
    [c, c, c].isPrefixOf cursor.rest && cursor.gapAfter 3

/- Whether a line that separates documents begins here. -/
def atAnyDocumentLine
    (cursor : Cursor) :
    Bool :=
  cursor.atDocumentLine '-' || cursor.atDocumentLine '.'

end Cursor

end Yaml

end SafeRerun
