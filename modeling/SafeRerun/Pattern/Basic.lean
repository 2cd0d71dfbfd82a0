import SafeRerun.Project.Path

/-
  File name patterns and the names they match.

  Key definitions include:
    * `SafeRerun.Wild`
    * `SafeRerun.PatternError`
    * `SafeRerun.parsePattern`
    * `SafeRerun.matchesName`
    * `SafeRerun.escapePattern`

  In a pattern a question mark stands for one character, a
  star for any run of characters, and brackets for one
  character of a set.  Two stars that fill a segment stand
  for any number of directories.  There are no escapes; a
  special character is meant literally inside brackets.
-/

------------------------------------------------------------
-- Character Sets
------------------------------------------------------------

namespace SafeRerun

/- The members of a character set, one by one or in ranges. -/
inductive CharSpan where
  | single (c : Char)
  | range (first last : Char)
  deriving DecidableEq, Repr

/- Whether a span holds a character. -/
def CharSpan.holds
    (c : Char) :
    CharSpan → Bool
  | .single d => c == d
  | .range first last =>
      decide (first.toNat ≤ c.toNat) &&
        decide (c.toNat ≤ last.toNat)

/- The spans between two brackets. -/
def charSpans :
    Text → List CharSpan
  | first :: '-' :: last :: rest =>
      .range first last :: charSpans rest
  | c :: rest => .single c :: charSpans rest
  | [] => []

end SafeRerun

------------------------------------------------------------
-- Pattern Items
------------------------------------------------------------

namespace SafeRerun

/- The items of a pattern. -/
inductive Wild where
  | exactly (c : Char)
  | anyOne
  | oneOf (spans : List CharSpan)
  | noneOf (spans : List CharSpan)
  | anyRun
  | anyDepth
  deriving DecidableEq, Repr

/- What can be wrong with a pattern. -/
inductive PatternFault where
  | tooManyStars
  | partialDepth
  | badSet
  deriving DecidableEq, Repr

/- A fault and the place of it, counted in characters. -/
structure PatternError where
  position : Nat
  fault : PatternFault
  deriving DecidableEq, Repr

/- The wording of a pattern fault. -/
def PatternFault.message :
    PatternFault → String
  | .tooManyStars =>
      "wildcards are either regular `*` or recursive `**`"
  | .partialDepth =>
      "recursive wildcards must form a single path " ++
        "component"
  | .badSet => "invalid range pattern"

/- The wording of a pattern error. -/
def PatternError.message
    (e : PatternError) :
    Text :=
  Text.ofString "Pattern syntax error near position " ++
    Text.ofNat e.position ++ Text.ofString ": " ++
    Text.ofString e.fault.message

end SafeRerun

------------------------------------------------------------
-- Reading a Pattern
------------------------------------------------------------

namespace SafeRerun

/-
  The set after an opening bracket, and what follows it.
  The first character belongs to the set whatever it is, so
  a closing bracket can be a member.
-/
def readSpans :
    Text → Option (List CharSpan × Text)
  | [] => none
  | first :: rest =>
      match rest.dropWhile (· != ']') with
      | [] => none
      | _ :: after =>
          some (charSpans
            (first :: rest.takeWhile (· != ']')), after)

/- A set with its sense, after the opening bracket. -/
def readSet :
    Text → Option (Wild × Text)
  | '!' :: rest =>
      (readSpans rest).map fun r => (.noneOf r.1, r.2)
  | t => (readSpans t).map fun r => (.oneOf r.1, r.2)

/-
  Two stars must fill their segment.  A slash after them
  belongs to them.  The position is that of the first star.
-/
def readDepth
    (position : Nat)
    (atSegmentStart : Bool) :
    Text → Except PatternError Text
  | [] =>
      if atSegmentStart then
        .ok []
      else
        .error ⟨position - 1, .partialDepth⟩
  | c :: rest =>
      if !atSegmentStart then
        .error ⟨position - 1, .partialDepth⟩
      else if c = '/' then
        .ok rest
      else
        .error ⟨position + 2, .partialDepth⟩

/-
  The next item of a pattern and what follows it.  A pair of
  stars gives an item for the depth, a longer run of stars
  is refused at its third one.
-/
def readItem
    (position : Nat)
    (atSegmentStart : Bool)
    (c : Char)
    (rest : Text) :
    Except PatternError (Wild × Text) :=
  if c = '?' then
    .ok (.anyOne, rest)
  else if c = '[' then
    match readSet rest with
    | some (item, after) => .ok (item, after)
    | none => .error ⟨position, .badSet⟩
  else if c = '*' then
    match rest with
    | '*' :: '*' :: _ =>
        .error ⟨position + 2, .tooManyStars⟩
    | '*' :: after =>
        match readDepth position atSegmentStart after with
        | .ok remaining => .ok (.anyDepth, remaining)
        | .error e => .error e
    | _ => .ok (.anyRun, rest)
  else
    .ok (.exactly c, rest)

/- A set leaves less text than there was. -/
theorem length_readSpans
    (t : Text)
    (spans : List CharSpan)
    (after : Text)
    (hRead : readSpans t = some (spans, after)) :
    after.length < t.length := by
  cases t with
  | nil =>
      simp [readSpans] at hRead
  | cons first rest =>
      simp only [readSpans] at hRead
      split at hRead
      · simp at hRead
      · rename_i last tail hDrop
        simp at hRead
        have hLength :=
          congrArg List.length
            (rest.takeWhile_append_dropWhile
              (p := (· != ']')))
        rw [hDrop, List.length_append] at hLength
        simp only [List.length_cons] at hLength ⊢
        rw [← hRead.2]
        omega

/- A signed set leaves less text than there was. -/
theorem length_readSet
    (t : Text)
    (item : Wild)
    (after : Text)
    (hRead : readSet t = some (item, after)) :
    after.length < t.length := by
  unfold readSet at hRead
  split at hRead
  · rename_i rest
    cases hSpans : readSpans rest with
    | none =>
        simp [hSpans] at hRead
    | some r =>
        simp [hSpans] at hRead
        have hLess :=
          length_readSpans rest r.1 r.2 hSpans
        rw [← hRead.2]
        simp
        omega
  · cases hSpans : readSpans t with
    | none =>
        simp [hSpans] at hRead
    | some r =>
        simp [hSpans] at hRead
        rw [← hRead.2]
        exact length_readSpans t r.1 r.2 hSpans

/- Two stars leave no more text than follows them. -/
theorem length_readDepth
    (position : Nat)
    (atSegmentStart : Bool)
    (t after : Text)
    (hRead :
      readDepth position atSegmentStart t = .ok after) :
    after.length ≤ t.length := by
  unfold readDepth at hRead
  split at hRead
  · split at hRead
    · simp at hRead
      simp [← hRead]
    · simp at hRead
  · split at hRead
    · simp at hRead
    · split at hRead
      · simp at hRead
        simp [← hRead]
      · simp at hRead

/- An item leaves no more text than follows its beginning. -/
theorem length_readItem
    (position : Nat)
    (atSegmentStart : Bool)
    (c : Char)
    (rest : Text)
    (item : Wild)
    (after : Text)
    (hRead :
      readItem position atSegmentStart c rest =
        .ok (item, after)) :
    after.length ≤ rest.length := by
  unfold readItem at hRead
  split at hRead
  · simp at hRead
    simp [hRead.2]
  split at hRead
  · split at hRead
    · rename_i found remaining hSet
      simp at hRead
      have hLess := length_readSet rest found remaining hSet
      rw [← hRead.2]
      omega
    · simp at hRead
  split at hRead
  · split at hRead
    · simp at hRead
    · rename_i tail _
      split at hRead
      · rename_i remaining hDepth
        simp at hRead
        have hLess :=
          length_readDepth position atSegmentStart tail
            remaining hDepth
        rw [← hRead.2]
        simp
        omega
      · simp at hRead
    · simp at hRead
      simp [hRead.2]
  · simp at hRead
    simp [hRead.2]

/- The items of the pattern that begins at a position. -/
def parseFrom
    (position : Nat)
    (atSegmentStart : Bool)
    (t : Text) :
    Except PatternError (List Wild) :=
  match t with
  | [] => .ok []
  | c :: rest =>
      match _hItem :
          readItem position atSegmentStart c rest with
      | .error e => .error e
      | .ok (item, after) =>
          let consumed := rest.length + 1 - after.length
          let startsSegment :=
            item == .exactly '/' || item == .anyDepth
          match
            parseFrom (position + consumed) startsSegment
              after
          with
          | .ok items => .ok (item :: items)
          | .error e => .error e
termination_by t.length
decreasing_by
  have hLess :=
    length_readItem position atSegmentStart c rest item
      after _hItem
  simp
  omega

/- The items of a pattern, or the first fault in it. -/
def parsePattern
    (t : Text) :
    Except PatternError (List Wild) :=
  parseFrom 0 true t

end SafeRerun

------------------------------------------------------------
-- Matching Names
------------------------------------------------------------

namespace SafeRerun

/- Whether the text or one of its endings has a property. -/
def someEnding
    (p : Text → Bool) :
    Text → Bool
  | [] => p []
  | c :: rest => p (c :: rest) || someEnding p rest

/- Whether an item that stands for one character holds it. -/
def Wild.holds
    (c : Char) :
    Wild → Bool
  | .exactly d => c == d
  | .anyOne => true
  | .oneOf spans => spans.any (·.holds c)
  | .noneOf spans => !spans.any (·.holds c)
  | .anyRun => false
  | .anyDepth => false

/- Whether the items match the whole of a name. -/
def matchesName :
    List Wild → Text → Bool
  | [], name => name.isEmpty
  | .anyRun :: items, name =>
      someEnding (matchesName items) name
  | .anyDepth :: items, name =>
      someEnding (matchesName items) name
  | _ :: _, [] => false
  | item :: items, c :: rest =>
      item.holds c && matchesName items rest

end SafeRerun

------------------------------------------------------------
-- Escaping
------------------------------------------------------------

namespace SafeRerun

/- A pattern for a text that means every character as is. -/
def escapePattern
    (t : Text) :
    Text :=
  t.flatMap fun c =>
    if c = '?' || c = '*' || c = '[' || c = ']' then
      ['[', c, ']']
    else
      [c]

end SafeRerun
