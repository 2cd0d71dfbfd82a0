import SafeRerun.Script.Phrase

/-
  Statements that create a trigger, and what they declare.

  Key definitions include:
    * `SafeRerun.Declaration`
    * `SafeRerun.isStatementStart`
    * `SafeRerun.hasOnClause`
    * `SafeRerun.declaration?`

  A line starts a statement when it begins with the words
  CREATE TRIGGER and a blank.  The name of the trigger and
  the table may follow on that line or on later ones, so
  they are sought in the text that the lines make together.
-/

------------------------------------------------------------
-- Declarations
------------------------------------------------------------

namespace SafeRerun

/- A trigger and the table it is created on. -/
structure Declaration where
  trigger : Text
  table : Text
  deriving DecidableEq, Repr

end SafeRerun

------------------------------------------------------------
-- Keywords and Phrases of a Statement
------------------------------------------------------------

namespace SafeRerun

/- The keyword CREATE. -/
def createWord :
    Text :=
  ['C', 'R', 'E', 'A', 'T', 'E']

/- The keyword TRIGGER. -/
def triggerWord :
    Text :=
  ['T', 'R', 'I', 'G', 'G', 'E', 'R']

/- The keyword ON. -/
def onWord :
    Text :=
  ['O', 'N']

/- The beginning of a line that starts a statement. -/
def startPhrase :
    Phrase :=
  [.margin, .keyword createWord, .gap,
   .keyword triggerWord, .gap]

/- The clause that names the table. -/
def onPhrase :
    Phrase :=
  [.gap, .keyword onWord, .gap, .name]

/- The part of a statement that declares the trigger. -/
def declarationPhrase :
    Phrase :=
  [.keyword createWord, .gap, .keyword triggerWord, .gap,
   .name, .gap, .keyword onWord, .gap, .name]

end SafeRerun

------------------------------------------------------------
-- Reading a Statement
------------------------------------------------------------

namespace SafeRerun

/- Whether a line starts a statement. -/
def isStatementStart
    (line : Text) :
    Bool :=
  startPhrase.startsIn line

/- Whether a text holds a clause that names a table. -/
def hasOnClause
    (t : Text) :
    Bool :=
  onPhrase.occursIn t

/-
  The declaration in a text: the leftmost place where the
  words stand together decides.
-/
def declaration?
    (t : Text) :
    Option Declaration :=
  match declarationPhrase.find? t with
  | some [trigger, table] => some ⟨trigger, table⟩
  | _ => none

end SafeRerun
