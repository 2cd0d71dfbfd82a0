import SafeRerun.Proofs.Script.Guard

/-
  Written guards in a row on one line, and the names that
  are found there.

  Key definitions include:
    * `SafeRerun.IsSign`
    * `SafeRerun.Phrase.EndsBefore`
    * `SafeRerun.WrittenGuard`
    * `SafeRerun.guardRow`

  Key theorems include:
    * `SafeRerun.Piece.IsPlain.read_append_sign`
    * `SafeRerun.guardedNames_append_sign`
    * `SafeRerun.isGuarded_below_guardRow`

  A sign is neither blank nor part of a word, so nothing
  that is read before it goes on behind it.  A search for
  guards can therefore be divided at every sign: at the
  quote that closes the name of a guard and at the semicolon
  that ends it.  Between the two no guard begins.
-/

------------------------------------------------------------
-- Signs
------------------------------------------------------------

namespace SafeRerun

/- A character that is neither blank nor part of a word. -/
structure IsSign
    (c : Char) : Prop where
  solid : isBlank c = false
  apart : isWord c = false

theorem isSign_quote :
    IsSign '"' :=
  ⟨by decide, by decide⟩

theorem isSign_semicolon :
    IsSign ';' :=
  ⟨by decide, by decide⟩

variable {sign : Char}

/- What a plain piece reads before a sign ends there. -/
theorem Piece.IsPlain.read_append_sign
    {piece : Piece}
    (hPlain : piece.IsPlain)
    (hSign : IsSign sign)
    (t rest : Text) :
    piece.read (t ++ sign :: rest) =
      (piece.read t).map fun found =>
        (found.1, found.2 ++ sign :: rest) := by
  cases piece with
  | margin =>
      exact absurd hPlain (by simp [Piece.IsPlain])
  | quote =>
      exact absurd hPlain (by simp [Piece.IsPlain])
  | keyword letters =>
      exact Piece.read_keyword_append hSign.apart hPlain.2 t
        rest
  | gap =>
      cases t with
      | nil =>
          simp [Piece.read, hSign.solid]
      | cons c tail =>
          simp only [List.cons_append, Piece.read,
            Text.skipBlanks,
            dropWhile_append_cons hSign.solid]
          split <;> rfl
  | name =>
      exact Piece.read_name_append hSign.apart t rest

end SafeRerun

------------------------------------------------------------
-- Readings That End Before a Text
------------------------------------------------------------

namespace SafeRerun

namespace Phrase

/-
  Whatever the phrase reads before the text it reads as if
  the text were not there.
-/
def EndsBefore
    (phrase : Phrase)
    (back : Text) : Prop :=
  ∀ t,
    phrase.read (t ++ back) =
      (phrase.read t).map fun found =>
        (found.1, found.2 ++ back)

variable {sign : Char}
variable {rest : Text}

/- A piece that ends before the text leaves it to the rest. -/
theorem EndsBefore.read_cons
    {piece : Piece}
    {pieces : Phrase}
    {t back : Text}
    (hPieces : EndsBefore pieces back)
    (hPiece :
      piece.read (t ++ back) =
        (piece.read t).map fun found =>
          (found.1, found.2 ++ back)) :
    Phrase.read (piece :: pieces) (t ++ back) =
      (Phrase.read (piece :: pieces) t).map fun found =>
        (found.1, found.2 ++ back) := by
  rw [Phrase.read, Phrase.read, hPiece]
  cases piece.read t with
  | none =>
      rfl
  | some found =>
      simp only [Option.map_some, hPieces found.2]
      cases Phrase.read pieces found.2 <;> rfl

/- Plain pieces in front end before a sign as well. -/
theorem EndsBefore.append
    {front back : Phrase}
    (hPlain : ∀ piece ∈ front, piece.IsPlain)
    (hSign : IsSign sign)
    (hBack : back.EndsBefore (sign :: rest)) :
    EndsBefore (front ++ back) (sign :: rest) := by
  induction front with
  | nil =>
      exact hBack
  | cons piece pieces ih =>
      have hRest :=
        ih fun other hMem => hPlain other (by simp [hMem])
      have hPiece := hPlain piece (by simp)
      exact fun t =>
        hRest.read_cons (hPiece.read_append_sign hSign t rest)

/-
  A name with a quote before it or without ends before a
  character outside of words.  A quote there must not have a
  name behind it.
-/
theorem endsBefore_quote_name
    (hApart : isWord sign = false)
    (hQuote : sign = '"' → StartsOutside isWord rest) :
    EndsBefore [.quote, .name] (sign :: rest) := by
  have hName : EndsBefore [.name] (sign :: rest) := by
    intro t
    rw [Phrase.read, Phrase.read,
      Piece.read_name_append hApart]
    cases Piece.read .name t <;> rfl
  intro t
  cases t with
  | nil =>
      rw [List.nil_append]
      by_cases hSame : sign = '"'
      · subst hSame
        rw [read_quote_cons,
          read_name_of_startsOutside (hQuote rfl)]
        rfl
      · rw [read_quote_of_ne hSame]
        exact hName []
  | cons c tail =>
      rw [List.cons_append]
      by_cases hSame : c = '"'
      · subst hSame
        rw [read_quote_cons, read_quote_cons]
        exact hName tail
      · rw [read_quote_of_ne hSame, read_quote_of_ne hSame]
        exact hName (c :: tail)

end Phrase

end SafeRerun

------------------------------------------------------------
-- Names on Both Sides of a Sign
------------------------------------------------------------

namespace SafeRerun

variable {sign : Char}
variable {rest : Text}

theorem dropPhrase_isPlain :
    ∀ piece ∈ dropPhrase, piece.IsPlain := by
  decide

theorem endsBefore_guardPhrase
    (hSign : IsSign sign)
    (hQuote : sign = '"' → StartsOutside isWord rest) :
    guardPhrase.EndsBefore (sign :: rest) :=
  Phrase.EndsBefore.append dropPhrase_isPlain hSign
    (Phrase.endsBefore_quote_name hSign.apart hQuote)

/-
  The names on a line are those before the text that no guard
  goes on in and those found there.  The induction goes from
  guard to guard as the search does.
-/
theorem guardedNames_append
    {back : Text}
    (hEnds : guardPhrase.EndsBefore back)
    (t : Text) :
    guardedNames (t ++ back) =
      guardedNames t ++ guardedNames back := by
  induction t using guardedNames.induct with
  | case1 =>
      rw [guardedNames, List.nil_append, List.nil_append]
  | case2 c tail names after hRead ih =>
      have hLonger := hEnds (c :: tail)
      rw [hRead, Option.map_some] at hLonger
      rw [guardedNames_of_read hLonger,
        guardedNames_of_read hRead, ih, List.append_assoc]
  | case3 c tail hNone ih =>
      have hLonger := hEnds (c :: tail)
      rw [hNone, Option.map_none, List.cons_append]
        at hLonger
      rw [List.cons_append,
        guardedNames_cons_of_read_eq_none hLonger,
        guardedNames_cons_of_read_eq_none hNone, ih]

/-
  The names on a line are those before a sign and those
  behind it.  A quote can belong to a guard begun before it,
  so no name may follow a quote.
-/
theorem guardedNames_append_sign
    (hSign : IsSign sign)
    (hQuote : sign = '"' → StartsOutside isWord rest)
    (t : Text) :
    guardedNames (t ++ sign :: rest) =
      guardedNames t ++ guardedNames rest := by
  have hEnds := endsBefore_guardPhrase hSign hQuote
  have hNone : guardPhrase.read (sign :: rest) = none :=
    hEnds []
  rw [guardedNames_append hEnds,
    guardedNames_cons_of_read_eq_none hNone]

end SafeRerun

------------------------------------------------------------
-- Guards in a Row
------------------------------------------------------------

namespace SafeRerun

/- A guard as it is written, with the blanks behind it. -/
structure WrittenGuard where
  declaration : Declaration
  ending : Text
  named : declaration.IsNamed
  blank : IsBlankRun ending

/- The text of a written guard. -/
def WrittenGuard.text
    (written : WrittenGuard) :
    Text :=
  guardLine written.declaration written.ending

/- Written guards one behind the other on one line. -/
def guardRow
    (row : List WrittenGuard) :
    Text :=
  row.flatMap WrittenGuard.text

/- A written guard puts its name before those behind it. -/
theorem WrittenGuard.guardedNames_append
    (written : WrittenGuard)
    (rest : Text) :
    guardedNames (written.text ++ rest) =
      written.declaration.trigger :: guardedNames rest := by
  rcases written with ⟨declaration, ending, hNamed, hBlank⟩
  -- Everything up to the semicolon that ends the guard.
  have hSplit :
      ∀ back : Text,
        guardLine declaration back =
          (Text.ofString "DROP TRIGGER IF EXISTS \"" ++
            declaration.trigger ++ Text.ofString "\" ON " ++
            declaration.table) ++ ';' :: back := by
    intro back
    simp [guardLine]
  have hFront :=
    guardedNames_guardLine hNamed isBlankRun_nil
  rw [hSplit,
    guardedNames_append_sign isSign_semicolon (by simp)]
    at hFront
  rw [text, hSplit, List.append_assoc, List.cons_append,
    guardedNames_append_sign isSign_semicolon (by simp),
    guardedNames_blanks_append hBlank]
  rw [guardedNames, List.append_nil] at hFront
  rw [hFront, List.singleton_append]

/- A row of guards holds their names, in its order. -/
theorem guardedNames_guardRow
    (row : List WrittenGuard) :
    guardedNames (guardRow row) =
      row.map fun written =>
        written.declaration.trigger := by
  induction row with
  | nil =>
      rw [guardRow, List.flatMap_nil, guardedNames,
        List.map_nil]
  | cons written others ih =>
      rw [guardRow, List.flatMap_cons,
        written.guardedNames_append, ← guardRow, ih,
        List.map_cons]

/- A row directly above a line, under any text. -/
theorem isGuarded_below_guardRow_iff
    (row : List WrittenGuard)
    (lookback : Nat)
    (above below : List Text)
    (trigger : Text) :
    isGuarded (lookback + 1)
        (above ++ guardRow row :: below)
        (above.length + 1) trigger = true ↔
      isGuarded lookback above above.length trigger = true ∨
        ∃ written ∈ row,
          written.declaration.trigger.lowercase =
            trigger.lowercase := by
  rw [isGuarded_append_cons, guardsTrigger,
    guardedNames_guardRow]
  simp

/-
  On a line of written guards the names found are those of
  the guards and no others.  So a row directly above a line
  counts for a trigger exactly when one of its guards is for
  a trigger of the same lower case form: alone if it is all
  that is looked at or the first line of the text, and else
  beside the guards further up.
-/
theorem isGuarded_below_guardRow
    (row : List WrittenGuard) :
    guardedNames (guardRow row) =
        (row.map fun written =>
          written.declaration.trigger) ∧
      (∀ lookback above below trigger,
        isGuarded (lookback + 1)
            (above ++ guardRow row :: below)
            (above.length + 1) trigger = true ↔
          isGuarded lookback above above.length trigger =
              true ∨
            ∃ written ∈ row,
              written.declaration.trigger.lowercase =
                trigger.lowercase) ∧
      (∀ above below trigger,
        isGuarded 1 (above ++ guardRow row :: below)
            (above.length + 1) trigger = true ↔
          ∃ written ∈ row,
            written.declaration.trigger.lowercase =
              trigger.lowercase) ∧
      ∀ lookback below trigger,
        isGuarded (lookback + 1) (guardRow row :: below) 1
            trigger = true ↔
          ∃ written ∈ row,
            written.declaration.trigger.lowercase =
              trigger.lowercase := by
  have hBelow := isGuarded_below_guardRow_iff row
  refine ⟨guardedNames_guardRow row, hBelow, ?_, ?_⟩
  · intro above below trigger
    rw [hBelow 0 above below trigger, isGuarded_zero]
    simp
  · intro lookback below trigger
    have hFirst := hBelow lookback [] below trigger
    rw [List.nil_append, List.length_nil, Nat.zero_add,
      isGuarded_nil] at hFirst
    rw [hFirst]
    simp

/- Keywords as names, and no blank between two guards. -/
example :
    let row :=
      Text.ofString
        "DROP TRIGGER IF EXISTS \"ON\" ON DROP;" ++
      Text.ofString
        "DROP TRIGGER IF EXISTS \"drop\" ON t;\n"
    isGuarded 1 [row] 1 (Text.ofString "DROP") = true ∧
      isGuarded 1 [row] 1 (Text.ofString "t") = false := by
  decide +kernel

end SafeRerun
