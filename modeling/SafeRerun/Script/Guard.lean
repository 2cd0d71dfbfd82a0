import SafeRerun.Script.Declaration
import SafeRerun.Text.Line
import SafeRerun.Text.Lowercase

/-
  Guards, the statements that drop a trigger before it is
  created again.

  Key definitions include:
    * `SafeRerun.guardedNames`
    * `SafeRerun.isGuarded`
    * `SafeRerun.guardLine`
    * `SafeRerun.guardFor`

  A guard counts for a trigger when it stands within the
  lookback above the statement and its name has the same
  lower case form.  A line can hold several guards; each is
  sought after the end of the one before it.
-/

------------------------------------------------------------
-- Finding Guards
------------------------------------------------------------

namespace SafeRerun

/- The beginning of a guard, up to the name it drops. -/
def guardPhrase :
    Phrase :=
  [.keyword ['D', 'R', 'O', 'P'], .gap,
   .keyword triggerWord, .gap,
   .keyword ['I', 'F'], .gap,
   .keyword ['E', 'X', 'I', 'S', 'T', 'S'], .gap,
   .quote, .name]

/-
  The names of the guards on a line, from the left.  After a
  guard the search goes on behind its name.
-/
def guardedNames
    (line : Text) :
    List Text :=
  match line with
  | [] => []
  | c :: rest =>
      match _hRead : guardPhrase.read (c :: rest) with
      | some (names, after) =>
          names ++ guardedNames after
      | none => guardedNames rest
termination_by line.length
decreasing_by
  · exact Phrase.length_read_lt 'D' ['R', 'O', 'P'] _
      (c :: rest) names after _hRead
  · simp

/- The lines above an index that the lookback reaches. -/
def linesAbove
    (lookback : Nat)
    (lines : List Text)
    (index : Nat) :
    List Text :=
  (lines.take index).drop (index - lookback)

/- Whether a line holds a guard for the trigger. -/
def guardsTrigger
    (trigger line : Text) :
    Bool :=
  (guardedNames line).any fun name =>
    name.lowercase == trigger.lowercase

/- Whether a guard for the trigger stands above the index. -/
def isGuarded
    (lookback : Nat)
    (lines : List Text)
    (index : Nat)
    (trigger : Text) :
    Bool :=
  (linesAbove lookback lines index).any
    (guardsTrigger trigger)

end SafeRerun

------------------------------------------------------------
-- Writing Guards
------------------------------------------------------------

namespace SafeRerun

/- The guard of a declaration as a line of a script. -/
def guardLine
    (declaration : Declaration)
    (ending : Text) :
    Text :=
  Text.ofString "DROP TRIGGER IF EXISTS \"" ++
    declaration.trigger ++ Text.ofString "\" ON " ++
    declaration.table ++ ';' :: ending

/-
  A guard ends as the line it stands above does, but always
  with a line feed.
-/
def guardEnd
    (lines : List Text)
    (index : Nat) :
    LineEnd :=
  match lines[index]? with
  | some line =>
      match lineEnd line with
      | .returnLineFeed => .returnLineFeed
      | _ => .lineFeed
  | none => .lineFeed

/- The guard a declaration needs at a line, if any. -/
def guardFor
    (lookback : Nat)
    (lines : List Text)
    (index : Nat)
    (declaration : Declaration) :
    Option Text :=
  if isGuarded lookback lines index declaration.trigger then
    none
  else
    some (guardLine declaration
      (guardEnd lines index).text)

end SafeRerun
