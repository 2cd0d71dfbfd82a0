import SafeRerun.Script.Declaration

/-
  Reading the statement that starts at a line of a script.

  Key definitions include:
    * `SafeRerun.Reading`
    * `SafeRerun.gather`
    * `SafeRerun.readAt`

  Lines are gathered below the start of the statement until
  the text names a table, the script ends, or the number of
  lines that may be looked at is used up.  The gathered text
  then declares a trigger or is left alone.
-/

------------------------------------------------------------
-- Gathering Lines
------------------------------------------------------------

namespace SafeRerun

/-
  The statement grown by following lines, each trimmed and
  set off by a space, until it holds the clause that names a
  table or the lines end.  Nothing results when the clause
  is still missing, the lookahead is used up and there are
  lines left.
-/
def gather
    (lookahead : Nat)
    (statement : Text) :
    List Text → Option Text
  | [] => some statement
  | line :: rest =>
      if hasOnClause statement then
        some statement
      else
        match lookahead with
        | 0 => none
        | lookahead + 1 =>
            gather lookahead
              (statement ++ ' ' :: line.trim) rest

end SafeRerun

------------------------------------------------------------
-- Readings
------------------------------------------------------------

namespace SafeRerun

/- What is found at a line of a script. -/
inductive Reading where
  /- No statement starts there. -/
  | noStatement
  /- The statement declares a trigger. -/
  | declared (declaration : Declaration)
  /- No clause naming a table within the lookahead. -/
  | noOnClause
  /- The gathered text has another shape. -/
  | unrecognised (statement : Text)
  deriving DecidableEq, Repr

namespace Reading

/- The declaration of a reading, if it has one. -/
def declaration? :
    Reading → Option Declaration
  | .declared declaration => some declaration
  | _ => none

/- Whether a statement started that declares nothing. -/
def isSkipped :
    Reading → Bool
  | .noStatement => false
  | .declared _ => false
  | .noOnClause => true
  | .unrecognised _ => true

end Reading

/- The reading of a gathered text. -/
def readGathered :
    Option Text → Reading
  | none => .noOnClause
  | some statement =>
      match declaration? statement with
      | some declaration => .declared declaration
      | none => .unrecognised statement

/- The reading of the first of the given lines. -/
def readFirst
    (lookahead : Nat) :
    List Text → Reading
  | [] => .noStatement
  | line :: rest =>
      if isStatementStart line then
        readGathered (gather lookahead line.trim rest)
      else
        .noStatement

/- The reading of a script at a line, counted from zero. -/
def readAt
    (lookahead : Nat)
    (lines : List Text)
    (index : Nat) :
    Reading :=
  readFirst lookahead (lines.drop index)

end SafeRerun
