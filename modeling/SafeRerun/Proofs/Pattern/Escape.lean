import Mathlib.Data.List.Forall2
import SafeRerun.Pattern.Search
import SafeRerun.Proofs.Project.Segment

/-
  Escaped texts as patterns.

  Key definitions include:
    * `SafeRerun.literalItem`
    * `SafeRerun.PathSegment.Spells`

  Key theorems include:
    * `SafeRerun.parsePattern_escapePattern`
    * `SafeRerun.matchesName_literalItems`
    * `SafeRerun.segments_escapePattern`
    * `SafeRerun.pathSegments_escaped_append`
    * `SafeRerun.mem_of_literal_mem`

  An escaped text is a pattern for itself and for no other
  name.  Escaping keeps the slashes, so an escaped path has
  the segments of the path, each of them escaped.
-/

------------------------------------------------------------
-- Items of an Escaped Text
------------------------------------------------------------

namespace SafeRerun

/- Whether a character is escaped in a pattern. -/
def isSpecial
    (c : Char) :
    Bool :=
  c = '?' || c = '*' || c = '[' || c = ']'

/- The item for a character as it is. -/
def literalItem
    (c : Char) :
    Wild :=
  if isSpecial c then .oneOf [.single c] else .exactly c

/- The pattern for a character as it is. -/
def escapeChar
    (c : Char) :
    Text :=
  if isSpecial c then ['[', c, ']'] else [c]

@[simp] theorem escapePattern_nil :
    escapePattern [] = [] := rfl

theorem escapePattern_cons
    (c : Char)
    (rest : Text) :
    escapePattern (c :: rest) =
      escapeChar c ++ escapePattern rest := by
  unfold escapePattern escapeChar isSpecial
  simp

theorem escapePattern_append
    (a b : Text) :
    escapePattern (a ++ b) =
      escapePattern a ++ escapePattern b :=
  List.flatMap_append

theorem isSpecial_eq_true_iff
    {c : Char} :
    isSpecial c = true ↔
      c = '?' ∨ c = '*' ∨ c = '[' ∨ c = ']' := by
  simp [isSpecial, or_assoc]

/- An item that is read stands before the later ones. -/
theorem parseFrom_of_readItem
    {position : Nat}
    {atSegmentStart : Bool}
    {c : Char}
    {rest after : Text}
    {item : Wild}
    (hItem :
      readItem position atSegmentStart c rest =
        .ok (item, after)) :
    ∃ later startsSegment,
      parseFrom position atSegmentStart (c :: rest) =
        (parseFrom later startsSegment after).map
          (item :: ·) := by
  rw [parseFrom]
  split
  · rename_i e hError
    rw [hItem] at hError
    contradiction
  · rename_i found remaining hFound
    rw [hItem, Except.ok.injEq, Prod.mk.injEq] at hFound
    rcases hFound with ⟨rfl, rfl⟩
    refine ⟨position + (rest.length + 1 - after.length),
      item == .exactly '/' || item == .anyDepth, ?_⟩
    dsimp only
    cases parseFrom (position +
        (rest.length + 1 - after.length))
        (item == .exactly '/' || item == .anyDepth) after with
    | error e =>
        rfl
    | ok items =>
        rfl

/- An escaped character is read as the item for it. -/
theorem parseFrom_escapeChar
    (position : Nat)
    (atSegmentStart : Bool)
    (c : Char)
    (rest : Text) :
    ∃ later startsSegment,
      parseFrom position atSegmentStart
          (escapeChar c ++ rest) =
        (parseFrom later startsSegment rest).map
          (literalItem c :: ·) := by
  unfold escapeChar literalItem
  by_cases hSpecial : isSpecial c = true
  · have hSet :
        readSet (c :: ']' :: rest) =
          some (.oneOf [.single c], rest) := by
      rw [isSpecial_eq_true_iff] at hSpecial
      rcases hSpecial with rfl | rfl | rfl | rfl <;>
        simp [readSet, readSpans, charSpans]
    rw [if_pos hSpecial, if_pos hSpecial]
    apply parseFrom_of_readItem
    simp [readItem, hSet]
  · rw [if_neg hSpecial, if_neg hSpecial]
    apply parseFrom_of_readItem
    rw [isSpecial_eq_true_iff] at hSpecial
    simp only [not_or] at hSpecial
    simp [readItem, hSpecial]

theorem parseFrom_escapePattern
    (position : Nat)
    (atSegmentStart : Bool)
    (t : Text) :
    parseFrom position atSegmentStart (escapePattern t) =
      .ok (t.map literalItem) := by
  induction t generalizing position atSegmentStart with
  | nil =>
      rw [escapePattern_nil, parseFrom]
      rfl
  | cons c rest ih =>
      rcases parseFrom_escapeChar position atSegmentStart c
          (escapePattern rest) with
        ⟨later, startsSegment, hParsed⟩
      rw [escapePattern_cons, hParsed, ih]
      rfl

/- An escaped text is read character by character. -/
theorem parsePattern_escapePattern
    (t : Text) :
    parsePattern (escapePattern t) =
      .ok (t.map literalItem) :=
  parseFrom_escapePattern 0 true t

/- These items match the text and nothing else. -/
theorem matchesName_literalItems
    (t name : Text) :
    matchesName (t.map literalItem) name = (name == t) := by
  induction t generalizing name with
  | nil =>
      cases name with
      | nil =>
          rfl
      | cons c tail =>
          rfl
  | cons d rest ih =>
      rw [List.map_cons]
      cases name with
      | nil =>
          unfold literalItem
          split
          · rfl
          · rfl
      | cons c tail =>
          have hHolds :
              (literalItem d).holds c = (c == d) := by
            unfold literalItem
            split
            · simp [Wild.holds, CharSpan.holds]
            · rfl
          have hStep :
              matchesName
                  (literalItem d :: rest.map literalItem)
                  (c :: tail) =
                ((literalItem d).holds c &&
                  matchesName (rest.map literalItem)
                    tail) := by
            unfold literalItem
            split
            · simp only [matchesName]
            · simp only [matchesName]
          rw [hStep, hHolds, ih, List.cons_beq_cons]

end SafeRerun

------------------------------------------------------------
-- Segments of an Escaped Text
------------------------------------------------------------

namespace SafeRerun

theorem not_mem_escapeChar
    {c : Char}
    (hSlash : c ≠ '/') :
    '/' ∉ escapeChar c := by
  unfold escapeChar
  split
  · simp [hSlash.symm]
  · simp [hSlash.symm]

/- Escaping a path escapes its segments. -/
theorem segments_escapePattern
    (t : Text) :
    segments (escapePattern t) =
      (segments t).map escapePattern := by
  induction t with
  | nil =>
      rfl
  | cons c rest ih =>
      rw [escapePattern_cons]
      by_cases hSlash : c = '/'
      · subst hSlash
        have hSelf : escapeChar '/' = ['/'] := rfl
        simp [hSelf, segments, ih]
      · cases hRest : segments rest with
        | nil =>
            exact absurd hRest (segments_ne_nil rest)
        | cons name names =>
            rw [hRest] at ih
            rw [segments_append_of_not_mem
              (not_mem_escapeChar hSlash) ih, segments,
              if_neg hSlash, hRest]
            simp [escapePattern_cons]

end SafeRerun

------------------------------------------------------------
-- Segments That Spell a Name
------------------------------------------------------------

namespace SafeRerun

/- The segment of a pattern matches the name alone. -/
def PathSegment.Spells
    (name : Text) :
    PathSegment → Prop
  | .literal text => text = name
  | .wild items =>
      items = name.map literalItem ∧
        literalText? items = none
  | .anyDepth => False

theorem eq_of_literalText?
    {t name : Text}
    (hText :
      literalText? (t.map literalItem) = some name) :
    name = t := by
  induction t generalizing name with
  | nil =>
      rw [List.map_nil, literalText?,
        Option.some.injEq] at hText
      exact hText.symm
  | cons c rest ih =>
      rw [List.map_cons, literalItem] at hText
      split at hText
      · simp [literalText?] at hText
      · rw [literalText?, Option.map_eq_some_iff] at hText
        rcases hText with ⟨tail, hTail, rfl⟩
        rw [ih hTail]

/- The items of an escaped name spell it. -/
theorem spells_ofItems
    (name : Text) :
    (PathSegment.ofItems (name.map literalItem)).Spells
      name := by
  unfold PathSegment.ofItems
  split
  · rename_i found hText
    exact eq_of_literalText? hText
  · rename_i hNone
    have hShallow :
        (name.map literalItem).contains .anyDepth =
          false := by
      rw [Bool.eq_false_iff, Ne, List.contains_iff_mem,
        List.mem_map]
      rintro ⟨c, -, hItem⟩
      unfold literalItem at hItem
      split at hItem
      · contradiction
      · contradiction
    rw [hShallow]
    exact ⟨rfl, hNone⟩

/-
  A pattern with escaped segments in front has segments that
  spell them in front.
-/
theorem pathSegments_escaped_append
    {names others : List Text}
    {parts : List PathSegment}
    (hParts :
      pathSegments (names.map escapePattern ++ others) =
        .ok parts) :
    ∃ front back,
      parts = front ++ back ∧
        List.Forall₂ PathSegment.Spells names front ∧
          pathSegments others = .ok back := by
  induction names generalizing parts with
  | nil =>
      exact ⟨[], parts, rfl, .nil, hParts⟩
  | cons name rest ih =>
      rw [List.map_cons, List.cons_append, pathSegments,
        parsePattern_escapePattern] at hParts
      cases hMore :
          pathSegments
            (rest.map escapePattern ++ others) with
      | error e =>
          simp [hMore] at hParts
      | ok more =>
          simp only [hMore, Except.ok.injEq] at hParts
          rcases ih hMore with
            ⟨front, back, rfl, hSpells, hBack⟩
          refine ⟨_ :: front, back, hParts.symm,
            .cons (spells_ofItems name) hSpells, hBack⟩

end SafeRerun

------------------------------------------------------------
-- Literal Segments
------------------------------------------------------------

namespace SafeRerun

/- A literal item is read from its character. -/
theorem eq_of_readItem_exactly
    {position : Nat}
    {atSegmentStart : Bool}
    {c d : Char}
    {rest after : Text}
    (hItem :
      readItem position atSegmentStart c rest =
        .ok (.exactly d, after)) :
    d = c ∧ after = rest := by
  unfold readItem at hItem
  split at hItem
  · simp at hItem
  split at hItem
  · split at hItem
    · rename_i found remaining hSet
      simp only [Except.ok.injEq, Prod.mk.injEq] at hItem
      rw [hItem.1] at hSet
      unfold readSet at hSet
      split at hSet
      · rcases Option.map_eq_some_iff.mp hSet with
          ⟨spans, -, hSpans⟩
        simp at hSpans
      · rcases Option.map_eq_some_iff.mp hSet with
          ⟨spans, -, hSpans⟩
        simp at hSpans
    · contradiction
  split at hItem
  · split at hItem
    · contradiction
    · split at hItem
      · simp at hItem
      · contradiction
    · simp at hItem
  · simp only [Except.ok.injEq, Prod.mk.injEq,
      Wild.exactly.injEq] at hItem
    exact ⟨hItem.1.symm, hItem.2.symm⟩

/- A pattern without wildcards is the text that it means. -/
theorem eq_of_parseFrom_literal
    {position : Nat}
    {atSegmentStart : Bool}
    {t name : Text}
    {items : List Wild}
    (hParse :
      parseFrom position atSegmentStart t = .ok items)
    (hText : literalText? items = some name) :
    name = t := by
  induction t generalizing position atSegmentStart items name
    with
  | nil =>
      rw [parseFrom, Except.ok.injEq] at hParse
      subst hParse
      rw [literalText?, Option.some.injEq] at hText
      exact hText.symm
  | cons c rest ih =>
      cases hItem : readItem position atSegmentStart c rest with
      | error e =>
          rw [parseFrom] at hParse
          split at hParse
          · contradiction
          · rename_i found remaining hFound
            rw [hItem] at hFound
            contradiction
      | ok read =>
          obtain ⟨item, after⟩ := read
          rcases parseFrom_of_readItem hItem with
            ⟨later, startsSegment, hMore⟩
          rw [hMore] at hParse
          cases hRest : parseFrom later startsSegment after with
          | error e =>
              simp [hRest, Except.map] at hParse
          | ok more =>
              simp only [hRest, Except.map,
                Except.ok.injEq] at hParse
              subst hParse
              cases item with
              | exactly d =>
                  rcases eq_of_readItem_exactly hItem with
                    ⟨rfl, rfl⟩
                  rw [literalText?,
                    Option.map_eq_some_iff] at hText
                  rcases hText with ⟨tail, hTail, rfl⟩
                  rw [ih hRest hTail]
              | _ =>
                  contradiction

/- A literal segment is one of the parts, as it is spelled. -/
theorem mem_of_literal_mem
    {texts : List Text}
    {parts : List PathSegment}
    {name : Text}
    (hParts : pathSegments texts = .ok parts)
    (hMem : .literal name ∈ parts) :
    name ∈ texts := by
  induction texts generalizing parts with
  | nil =>
      rw [pathSegments, Except.ok.injEq] at hParts
      rw [← hParts] at hMem
      contradiction
  | cons text rest ih =>
      rw [pathSegments] at hParts
      cases hText : parsePattern text with
      | error e =>
          simp [hText] at hParts
      | ok items =>
          cases hRest : pathSegments rest with
          | error e =>
              simp [hText, hRest] at hParts
          | ok more =>
              simp only [hText, hRest,
                Except.ok.injEq] at hParts
              subst hParts
              rcases List.mem_cons.mp hMem with hFirst | hLater
              · unfold PathSegment.ofItems at hFirst
                split at hFirst
                · rename_i found hFound
                  rw [PathSegment.literal.injEq] at hFirst
                  rw [hFirst,
                    eq_of_parseFrom_literal hText hFound]
                  exact List.mem_cons_self
                · split at hFirst
                  · contradiction
                  · contradiction
              · exact List.mem_cons_of_mem text (ih hRest hLater)

theorem not_mem_of_literal_mem
    {t name : Text}
    {parts : List PathSegment}
    (hParts :
      pathSegments (terminatedSegments t) = .ok parts)
    (hMem : .literal name ∈ parts) :
    '/' ∉ name := by
  have hText := mem_of_literal_mem hParts hMem
  unfold terminatedSegments at hText
  split at hText
  · exact not_mem_of_mem_segments
      ((List.dropLast_sublist _).subset hText)
  · exact not_mem_of_mem_segments hText

end SafeRerun
