import SafeRerun.Script.Guard
import SafeRerun.Proofs.Script.Declaration

/-
  All the ways in which a phrase matches, in the order in
  which a search that goes back tries them.

  Key definitions include:
    * `SafeRerun.runs`
    * `SafeRerun.Phrase.ways`
    * `SafeRerun.Phrase.leftmost?`
    * `SafeRerun.Phrase.Matches`
    * `SafeRerun.Phrase.isDirect`

  Key theorems include:
    * `SafeRerun.Phrase.read_eq_head?_ways`
    * `SafeRerun.Phrase.find?_eq_leftmost?`

  As a pattern a phrase leaves open how far a gap or a name
  goes: every run that is not empty will do, the longest one
  first, and a later piece that fails has the next one tried.
  Reading takes the longest run and never goes back.  For a
  direct phrase this makes no difference, because what a
  shorter run leaves is nothing the next piece could take.
-/

------------------------------------------------------------
-- Runs of a Class
------------------------------------------------------------

namespace SafeRerun

variable {p : Char → Bool}
variable {t : Text}

/-
  The ways to take characters of a class, at least one, from
  the beginning of a text.  The longest run comes first.
-/
def runs
    (p : Char → Bool) :
    Text → List (Text × Text)
  | [] => []
  | c :: rest =>
      if p c then
        (runs p rest).map (fun way =>
          (c :: way.1, way.2)) ++ [([c], rest)]
      else
        []

/-
  The first run goes as far as the class does.  Behind every
  other run the text goes on inside the class.
-/
theorem runs_cons_of_pos
    {c : Char}
    (hClass : p c = true)
    (rest : Text) :
    ∃ shorter,
      runs p (c :: rest) =
          (c :: rest.takeWhile p, rest.dropWhile p) ::
            shorter ∧
        ∀ way ∈ shorter,
          ∃ d after, way.2 = d :: after ∧ p d = true := by
  induction rest generalizing c with
  | nil =>
      exact ⟨[], by simp [runs, hClass], by simp⟩
  | cons d tail ih =>
      by_cases hNext : p d = true
      · rcases ih hNext with ⟨shorter, hRuns, hShorter⟩
        refine ⟨shorter.map (fun way =>
          (c :: way.1, way.2)) ++ [([c], d :: tail)],
          ?_, ?_⟩
        · rw [runs, if_pos hClass, hRuns]
          simp [hNext]
        · rw [List.forall_mem_append, List.forall_mem_map,
            List.forall_mem_singleton]
          exact ⟨hShorter, d, tail, rfl, hNext⟩
      · refine ⟨[], ?_, by simp⟩
        simp [runs, hClass, hNext]

end SafeRerun

------------------------------------------------------------
-- Ways to Match
------------------------------------------------------------

namespace SafeRerun

/-
  The ways in which a piece matches at the beginning of a
  text: what it captures and the text after it.
-/
def Piece.ways :
    Piece → Text → List (List Text × Text)
  | .margin, t =>
      (runs isBlank t).map (fun way => ([], way.2)) ++
        [([], t)]
  | .gap, t => (runs isBlank t).map fun way => ([], way.2)
  | .keyword letters, t =>
      (readKeyword letters t).toList.map fun rest =>
        ([], rest)
  | .quote, '"' :: rest => [([], rest), ([], '"' :: rest)]
  | .quote, t => [([], t)]
  | .name, t =>
      (runs isWord t).map fun way => ([way.1], way.2)

namespace Phrase

/-
  The ways in which a phrase matches: each way of its first
  piece, with every way in which the others go on behind it.
-/
def ways :
    Phrase → Text → List (List Text × Text)
  | [], t => [([], t)]
  | piece :: pieces, t =>
      (piece.ways t).flatMap fun first =>
        (ways pieces first.2).map fun more =>
          (first.1 ++ more.1, more.2)

/-
  The names captured by the match that begins first, in the
  first of the ways to match there.
-/
def leftmost?
    (phrase : Phrase)
    (t : Text) :
    Option (List Text) :=
  t.tails.findSome? fun ending =>
    (phrase.ways ending).head?.map Prod.fst

end Phrase

end SafeRerun

------------------------------------------------------------
-- Matches From the Left
------------------------------------------------------------

namespace SafeRerun

namespace Phrase

/-
  What the matches of a phrase in a text capture, from the
  left and without overlaps: the match that begins first, in
  the first of its ways, and then those in the text after it.
-/
inductive Matches
    (phrase : Phrase) :
    Text → List (List Text) → Prop
  | done
      {t : Text}
      (hNone :
        ∀ ending, ending <:+ t → phrase.ways ending = []) :
      Matches phrase t []
  | next
      {t ending after : Text}
      {names : List Text}
      {found : List (List Text)}
      (hSuffix : ending <:+ t)
      (hEarlier :
        ∀ longer,
          longer <:+ t →
            ending.length < longer.length →
              phrase.ways longer = [])
      (hFirst :
        (phrase.ways ending).head? = some (names, after))
      (hRest : Matches phrase after found) :
      Matches phrase t (names :: found)

variable {phrase : Phrase}
variable {t : Text}
variable {found : List (List Text)}

/- An empty text without a match has none. -/
theorem matches_nil_iff
    (hNone : phrase.ways [] = []) :
    phrase.Matches [] found ↔ found = [] := by
  constructor
  · intro hMatches
    cases hMatches with
    | done =>
        rfl
    | next hSuffix hEarlier hFirst hRest =>
        rw [List.suffix_nil.mp hSuffix, hNone] at hFirst
        contradiction
  · rintro rfl
    refine Matches.done fun ending hSuffix => ?_
    rw [List.suffix_nil.mp hSuffix, hNone]

/- Where no match begins, the search goes on. -/
theorem matches_cons_iff
    {c : Char}
    (hNone : phrase.ways (c :: t) = []) :
    phrase.Matches (c :: t) found ↔
      phrase.Matches t found := by
  constructor
  · intro hMatches
    cases hMatches with
    | done hNowhere =>
        exact Matches.done fun ending hSuffix =>
          hNowhere ending
            (hSuffix.trans (List.suffix_cons c t))
    | next hSuffix hEarlier hFirst hRest =>
        rcases List.suffix_cons_iff.mp hSuffix with
          rfl | hLater
        · rw [hNone] at hFirst
          contradiction
        · exact Matches.next hLater
            (fun longer hLonger hLength =>
              hEarlier longer
                (hLonger.trans (List.suffix_cons c t))
                hLength)
            hFirst hRest
  · intro hMatches
    cases hMatches with
    | done hNowhere =>
        refine Matches.done fun ending hSuffix => ?_
        rcases List.suffix_cons_iff.mp hSuffix with
          rfl | hLater
        · exact hNone
        · exact hNowhere ending hLater
    | next hSuffix hEarlier hFirst hRest =>
        refine Matches.next
          (hSuffix.trans (List.suffix_cons c t)) ?_ hFirst
          hRest
        intro longer hLonger hLength
        rcases List.suffix_cons_iff.mp hLonger with
          rfl | hLater
        · exact hNone
        · exact hEarlier longer hLater hLength

/- A match at the beginning is the first one. -/
theorem matches_of_ways_iff
    {names : List Text}
    {after : Text}
    (hFirst : (phrase.ways t).head? = some (names, after)) :
    phrase.Matches t found ↔
      ∃ more,
        found = names :: more ∧
          phrase.Matches after more := by
  constructor
  · intro hMatches
    cases hMatches with
    | done hNowhere =>
        rw [hNowhere t List.suffix_rfl] at hFirst
        contradiction
    | @next _ ending _ _ more hSuffix hEarlier hHere hRest =>
        -- A later match would pass over this one.
        have hSame : ending = t := by
          refine hSuffix.eq_of_length_le ?_
          by_contra hShorter
          rw [hEarlier t List.suffix_rfl (by omega)]
            at hFirst
          contradiction
        rw [hSame, hFirst, Option.some.injEq,
          Prod.mk.injEq] at hHere
        rcases hHere with ⟨rfl, rfl⟩
        exact ⟨more, rfl, hRest⟩
  · rintro ⟨more, rfl, hRest⟩
    refine Matches.next List.suffix_rfl ?_ hFirst hRest
    intro longer hLonger hLength
    have hShorter := hLonger.length_le
    omega

end Phrase

end SafeRerun

------------------------------------------------------------
-- Pieces That Are Given Back
------------------------------------------------------------

namespace SafeRerun

/-
  Whether a piece can leave a character it could have taken.
-/
def Piece.givesBack :
    Piece → Char → Bool
  | .margin, c => isBlank c
  | .gap, c => isBlank c
  | .keyword _, _ => false
  | .quote, c => c == '"'
  | .name, c => isWord c

variable {piece : Piece}
variable {t : Text}

/- A piece that is not read matches in no way. -/
theorem Piece.ways_eq_nil
    (hRead : piece.read t = none) :
    piece.ways t = [] := by
  cases piece with
  | margin =>
      simp [Piece.read] at hRead
  | gap =>
      cases t with
      | nil =>
          rfl
      | cons c rest =>
          simp only [Piece.read] at hRead
          split at hRead
          · simp at hRead
          · rename_i hBlank
            simp [Piece.ways, runs, hBlank]
  | keyword letters =>
      simp only [Piece.read, Option.map_eq_none_iff]
        at hRead
      simp [Piece.ways, hRead]
  | quote =>
      unfold Piece.read at hRead
      split at hRead <;> simp_all
  | name =>
      cases t with
      | nil =>
          rfl
      | cons c rest =>
          simp only [Piece.read] at hRead
          split at hRead
          · simp at hRead
          · rename_i hWord
            simp [Piece.ways, runs, hWord]

/-
  What is read is the first way of a piece.  Every other way
  leaves a character that the piece could have taken.
-/
theorem Piece.ways_eq_cons
    {first : List Text × Text}
    (hRead : piece.read t = some first) :
    ∃ others,
      piece.ways t = first :: others ∧
        ∀ other ∈ others,
          ∃ c rest,
            other.2 = c :: rest ∧
              piece.givesBack c = true := by
  cases piece with
  | margin =>
      simp only [Piece.read, Option.some.injEq] at hRead
      subst hRead
      cases t with
      | nil =>
          exact ⟨[], by simp [Piece.ways, runs,
            Text.skipBlanks], by simp⟩
      | cons c rest =>
          by_cases hBlank : isBlank c = true
          · rcases runs_cons_of_pos hBlank rest with
              ⟨shorter, hRuns, hShorter⟩
            refine ⟨shorter.map (fun way => ([], way.2)) ++
              [([], c :: rest)], ?_, ?_⟩
            · simp [Piece.ways, hRuns, Text.skipBlanks,
                hBlank]
            · rw [List.forall_mem_append,
                List.forall_mem_map, List.forall_mem_singleton]
              exact ⟨hShorter, c, rest, rfl, hBlank⟩
          · exact ⟨[], by simp [Piece.ways, runs,
              Text.skipBlanks, hBlank], by simp⟩
  | gap =>
      cases t with
      | nil =>
          simp [Piece.read] at hRead
      | cons c rest =>
          simp only [Piece.read] at hRead
          split at hRead
          · rename_i hBlank
            rw [Option.some.injEq] at hRead
            subst hRead
            rcases runs_cons_of_pos hBlank rest with
              ⟨shorter, hRuns, hShorter⟩
            refine ⟨shorter.map fun way => ([], way.2),
              by simp [Piece.ways, hRuns, Text.skipBlanks],
              List.forall_mem_map.mpr hShorter⟩
          · simp at hRead
  | keyword letters =>
      simp only [Piece.read, Option.map_eq_some_iff]
        at hRead
      rcases hRead with ⟨rest, hKeyword, rfl⟩
      exact ⟨[], by simp [Piece.ways, hKeyword], by simp⟩
  | quote =>
      unfold Piece.read at hRead
      split at hRead <;> simp_all [Piece.ways,
        Piece.givesBack]
  | name =>
      cases t with
      | nil =>
          simp [Piece.read] at hRead
      | cons c rest =>
          simp only [Piece.read] at hRead
          split at hRead
          · rename_i hWord
            rw [Option.some.injEq] at hRead
            subst hRead
            rcases runs_cons_of_pos hWord rest with
              ⟨shorter, hRuns, hShorter⟩
            refine ⟨shorter.map fun way =>
              ([way.1], way.2),
              by simp [Piece.ways, hRuns],
              List.forall_mem_map.mpr hShorter⟩
          · simp at hRead

end SafeRerun

------------------------------------------------------------
-- Direct Phrases
------------------------------------------------------------

namespace SafeRerun

namespace Phrase

/- Whether the pieces cannot begin with a blank. -/
def startsSolid :
    Phrase → Bool
  | .keyword letters :: _ => decide (IsKeyword letters)
  | .name :: _ => true
  | .quote :: .name :: _ => true
  | _ => false

/-
  Whether the pieces can take nothing of what the piece
  before them gives back.
-/
def standsBehind :
    Piece → Phrase → Bool
  | .margin, pieces => startsSolid pieces
  | .gap, pieces => startsSolid pieces
  | .keyword _, _ => true
  | .quote, .name :: _ => true
  | .name, .gap :: _ => true
  | _, _ => false

/-
  Whether it is of no use to go back in a phrase: no piece
  gives back what the next one could take.
-/
def isDirect :
    Phrase → Bool
  | [] => true
  | piece :: pieces =>
      (pieces.isEmpty || standsBehind piece pieces) &&
        isDirect pieces

/- Pieces that start solid are not read off a blank. -/
theorem read_blank_of_startsSolid
    {pieces : Phrase}
    {blank : Char}
    (hSolid : pieces.startsSolid = true)
    (hBlank : isBlank blank = true)
    (rest : Text) :
    pieces.read (blank :: rest) = none := by
  have hApart : StartsOutside isWord (blank :: rest) :=
    startsOutside_cons_iff.mpr
      (isWord_eq_false_of_isBlank hBlank)
  unfold startsSolid at hSolid
  split at hSolid
  · exact read_keyword_blank (of_decide_eq_true hSolid)
      hBlank rest
  · exact read_name_of_startsOutside hApart _
  · -- No blank is a quote, so the name has to take it.
    have hQuote : blank ≠ '"' := by
      intro hSame
      subst hSame
      revert hBlank
      decide
    rw [read_quote_of_ne hQuote]
    exact read_name_of_startsOutside hApart _
  · contradiction

/- What a piece gives back the pieces behind it do not take. -/
theorem read_of_givesBack
    {piece : Piece}
    {pieces : Phrase}
    {c : Char}
    (hBehind : standsBehind piece pieces = true)
    (hBack : piece.givesBack c = true)
    (rest : Text) :
    pieces.read (c :: rest) = none := by
  unfold standsBehind at hBehind
  split at hBehind
  · exact read_blank_of_startsSolid hBehind hBack rest
  · exact read_blank_of_startsSolid hBehind hBack rest
  · simp [Piece.givesBack] at hBack
  · have hSign : isWord c = false := by
      rw [beq_iff_eq.mp hBack]
      decide
    exact read_name_of_startsOutside
      (startsOutside_cons_iff.mpr hSign) _
  · have hSolid :=
      isBlank_eq_false_of_isWord (c := c) hBack
    simp [Phrase.read, Piece.read, hSolid]
  · contradiction

/-
  What is read of a direct phrase is the first of its ways.
  The induction is on the pieces; the first way of a piece
  is the only one behind which the others can go on.
-/
theorem read_eq_head?_ways
    {phrase : Phrase}
    (hDirect : phrase.isDirect = true)
    (t : Text) :
    phrase.read t = (phrase.ways t).head? := by
  induction phrase generalizing t with
  | nil =>
      rfl
  | cons piece pieces ih =>
      rw [isDirect, Bool.and_eq_true, Bool.or_eq_true,
        List.isEmpty_iff] at hDirect
      rcases hDirect with ⟨hBehind, hPieces⟩
      have hHead :
          (ways (piece :: pieces) t).head? =
            (piece.ways t).findSome? fun first =>
              (read pieces first.2).map fun more =>
                (first.1 ++ more.1, more.2) := by
        rw [ways, List.head?_flatMap]
        simp only [List.head?_map, ih hPieces]
      rw [hHead, Phrase.read]
      cases hPiece : piece.read t with
      | none =>
          simp [Piece.ways_eq_nil hPiece]
      | some first =>
          rcases Piece.ways_eq_cons hPiece with
            ⟨others, hWays, hOthers⟩
          rw [hWays, List.findSome?_cons]
          cases hMore : read pieces first.2 with
          | some more =>
              simp [hMore]
          | none =>
              rcases hBehind with rfl | hBehind
              · simp [Phrase.read] at hMore
              · have hNone :
                    ∀ other ∈ others,
                      read pieces other.2 = none := by
                  intro other hMem
                  rcases hOthers other hMem with
                    ⟨c, rest, hRest, hBack⟩
                  rw [hRest]
                  exact read_of_givesBack hBehind hBack rest
                simp only [hMore, Option.map_none]
                symm
                rw [List.findSome?_eq_none_iff]
                intro other hMem
                rw [hNone other hMem, Option.map_none]

/- A text begins with a direct phrase if it matches there. -/
theorem startsIn_iff
    {phrase : Phrase}
    (hDirect : phrase.isDirect = true)
    (t : Text) :
    phrase.startsIn t = true ↔ phrase.ways t ≠ [] := by
  rw [startsIn, read_eq_head?_ways hDirect]
  cases phrase.ways t <;> simp

/- What is found of a direct phrase is its leftmost match. -/
theorem find?_eq_leftmost?
    {phrase : Phrase}
    (hDirect : phrase.isDirect = true)
    (t : Text) :
    phrase.find? t = phrase.leftmost? t := by
  induction t with
  | nil =>
      simp [find?, leftmost?, read_eq_head?_ways hDirect]
  | cons c rest ih =>
      have hRead := read_eq_head?_ways hDirect (c :: rest)
      rw [find?, hRead, leftmost?, List.tails,
        List.findSome?_cons, ← leftmost?, ← ih]
      cases (phrase.ways (c :: rest)).head? <;> rfl

end Phrase

/- The phrases of a script are direct. -/
theorem startPhrase_isDirect :
    startPhrase.isDirect = true := by
  decide

theorem onPhrase_isDirect :
    onPhrase.isDirect = true := by
  decide

theorem declarationPhrase_isDirect :
    declarationPhrase.isDirect = true := by
  decide

theorem guardPhrase_isDirect :
    guardPhrase.isDirect = true := by
  decide

end SafeRerun
