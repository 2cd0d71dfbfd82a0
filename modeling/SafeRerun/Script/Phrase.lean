import SafeRerun.Text.Blank
import SafeRerun.Text.Word

/-
  Phrases, the word patterns by which statements are found
  in a script.

  Key definitions include:
    * `SafeRerun.Piece`
    * `SafeRerun.Phrase`
    * `SafeRerun.Phrase.read`
    * `SafeRerun.Phrase.find?`

  Key theorems include:
    * `SafeRerun.Phrase.length_read_le`
    * `SafeRerun.Phrase.length_read_lt`

  A phrase is a list of pieces: keywords in any case, gaps of
  blanks, and names.  Each piece takes as much text as it
  can.  Nothing is given back later, and nothing needs to
  be: no blank is a word character, so where a gap or a name
  ends is never in doubt.
-/

------------------------------------------------------------
-- Keywords
------------------------------------------------------------

namespace SafeRerun

/-
  Whether a character spells a keyword's capital letter.
  Besides the two ASCII cases, the long s stands for S and
  the Kelvin sign for K.
-/
def spells
    (letter c : Char) :
    Bool :=
  c.toUpper == letter ||
    (letter == 'S' && c.toNat == 0x17F) ||
    (letter == 'K' && c.toNat == 0x212A)

/- The text after a keyword, if the text begins with it. -/
def readKeyword :
    Text → Text → Option Text
  | [], t => some t
  | _ :: _, [] => none
  | letter :: letters, c :: rest =>
      if spells letter c then
        readKeyword letters rest
      else
        none

/- A keyword takes one character a letter. -/
theorem length_readKeyword
    (keyword t rest : Text)
    (hRead : readKeyword keyword t = some rest) :
    rest.length + keyword.length = t.length := by
  induction keyword generalizing t with
  | nil =>
      simp [readKeyword] at hRead
      simp [hRead]
  | cons letter letters ih =>
      cases t with
      | nil =>
          simp [readKeyword] at hRead
      | cons c tail =>
          simp only [readKeyword] at hRead
          split at hRead
          · have hTail := ih tail hRead
            simp
            omega
          · simp at hRead

end SafeRerun

------------------------------------------------------------
-- Pieces
------------------------------------------------------------

namespace SafeRerun

/- The parts that phrases are made of. -/
inductive Piece where
  /- Blanks, or none. -/
  | margin
  /- At least one blank. -/
  | gap
  /- A keyword, given in capitals. -/
  | keyword (letters : Text)
  /- A double quote, or none. -/
  | quote
  /- A word, which the phrase names. -/
  | name
  deriving DecidableEq, Repr

/-
  What a piece takes from the beginning of a text: the name
  it captures, if it is one, and the text after it.
-/
def Piece.read :
    Piece → Text → Option (List Text × Text)
  | .margin, t => some ([], t.skipBlanks)
  | .gap, [] => none
  | .gap, c :: rest =>
      if isBlank c then
        some ([], Text.skipBlanks rest)
      else
        none
  | .keyword letters, t =>
      (readKeyword letters t).map fun rest => ([], rest)
  | .quote, '"' :: rest => some ([], rest)
  | .quote, t => some ([], t)
  | .name, [] => none
  | .name, c :: rest =>
      if isWord c then
        some ([c :: rest.takeWhile isWord],
          rest.dropWhile isWord)
      else
        none

/- Dropping a run of characters never lengthens a text. -/
theorem length_dropWhile_le
    (p : Char → Bool)
    (t : Text) :
    (t.dropWhile p).length ≤ t.length := by
  have hSplit :
      (t.takeWhile p ++ t.dropWhile p).length =
        t.length := by
    rw [List.takeWhile_append_dropWhile]
  rw [List.length_append] at hSplit
  omega

/- A piece leaves no more text than there was. -/
theorem Piece.length_read_le
    (piece : Piece)
    (t : Text)
    (names : List Text)
    (rest : Text)
    (hRead : piece.read t = some (names, rest)) :
    rest.length ≤ t.length := by
  unfold Piece.read at hRead
  split at hRead
  · simp at hRead
    rw [← hRead.2]
    exact length_dropWhile_le isBlank t
  · simp at hRead
  · rename_i c tail
    split at hRead
    · simp at hRead
      rw [← hRead.2]
      have hTail := length_dropWhile_le isBlank tail
      simp [Text.skipBlanks]
      omega
    · simp at hRead
  · rename_i letters
    cases hKeyword : readKeyword letters t with
    | none =>
        simp [hKeyword] at hRead
    | some after =>
        simp [hKeyword] at hRead
        have hLength :=
          length_readKeyword letters t after hKeyword
        rw [← hRead.2]
        omega
  · simp at hRead
    simp [← hRead.2]
  · simp at hRead
    simp [← hRead.2]
  · simp at hRead
  · rename_i c tail
    split at hRead
    · simp at hRead
      rw [← hRead.2]
      have hTail := length_dropWhile_le isWord tail
      simp
      omega
    · simp at hRead

end SafeRerun

------------------------------------------------------------
-- Phrases
------------------------------------------------------------

namespace SafeRerun

/- A phrase is read piece by piece. -/
abbrev Phrase : Type :=
  List Piece

namespace Phrase

/-
  What a phrase takes from the beginning of a text: the
  names it captures, in order, and the text after it.
-/
def read :
    Phrase → Text → Option (List Text × Text)
  | [], t => some ([], t)
  | piece :: pieces, t =>
      match piece.read t with
      | none => none
      | some (names, rest) =>
          match read pieces rest with
          | none => none
          | some (more, after) =>
              some (names ++ more, after)

/- Whether the text begins with the phrase. -/
def startsIn
    (phrase : Phrase)
    (t : Text) :
    Bool :=
  (phrase.read t).isSome

/-
  The names captured by the leftmost occurrence of the
  phrase, if it occurs.
-/
def find?
    (phrase : Phrase) :
    Text → Option (List Text)
  | [] => (read phrase []).map Prod.fst
  | c :: rest =>
      match read phrase (c :: rest) with
      | some (names, _) => some names
      | none => find? phrase rest

/- Whether the phrase occurs anywhere in the text. -/
def occursIn
    (phrase : Phrase)
    (t : Text) :
    Bool :=
  (phrase.find? t).isSome

/- A phrase leaves no more text than there was. -/
theorem length_read_le
    (phrase : Phrase)
    (t : Text)
    (names : List Text)
    (rest : Text)
    (hRead : phrase.read t = some (names, rest)) :
    rest.length ≤ t.length := by
  induction phrase generalizing t names rest with
  | nil =>
      simp [read] at hRead
      simp [hRead.2]
  | cons piece pieces ih =>
      simp only [read] at hRead
      split at hRead
      · simp at hRead
      · rename_i first middle hPiece
        split at hRead
        · simp at hRead
        · rename_i more after hMore
          simp at hRead
          have hFirst :=
            piece.length_read_le t first middle hPiece
          have hRest := ih middle more after hMore
          rw [← hRead.2]
          omega

/- A phrase that begins with a keyword takes some text. -/
theorem length_read_lt
    (letter : Char)
    (letters : Text)
    (phrase : Phrase)
    (t : Text)
    (names : List Text)
    (rest : Text)
    (hRead :
      read (.keyword (letter :: letters) :: phrase) t =
        some (names, rest)) :
    rest.length < t.length := by
  simp only [read, Piece.read] at hRead
  cases hKeyword : readKeyword (letter :: letters) t with
  | none =>
      simp [hKeyword] at hRead
  | some middle =>
      have hLength :=
        length_readKeyword (letter :: letters) t
          middle hKeyword
      simp only [hKeyword, Option.map_some] at hRead
      split at hRead
      · simp at hRead
      · rename_i more after hMore
        simp at hRead
        have hRest :=
          length_read_le phrase middle more after hMore
        rw [← hRead.2]
        simp at hLength
        omega

end Phrase

end SafeRerun
