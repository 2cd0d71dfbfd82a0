import SafeRerun.Text.Basic

/-
  Notices, what a run tells about its work on the side.

  Key definitions include:
    * `SafeRerun.Notice`
    * `SafeRerun.Notice.level`
    * `SafeRerun.Notice.message`

  A notice is a value; its wording is in one place.  Line
  numbers count from one.
-/

------------------------------------------------------------
-- Notices
------------------------------------------------------------

namespace SafeRerun

/- What can be worth a notice. -/
inductive Notice where
  /- The clause that names the table was not found in time. -/
  | noOnClause (lookahead line : Nat)
  /- A statement started at the line but declares nothing. -/
  | unrecognised (line : Nat) (statement : Text)
  /- Statements of the file were left alone. -/
  | skippedStatements (path : Text) (count : Nat)
  /- The file was found but its path holds a marker. -/
  | excludedFile (path : Text)
  /- The project has no settings file. -/
  | noSettingsFile (directory : Text)
  deriving DecidableEq, Repr

end SafeRerun

------------------------------------------------------------
-- Wording
------------------------------------------------------------

namespace SafeRerun

/- How much attention a notice asks for. -/
inductive NoticeLevel where
  | warning
  | detail
  deriving DecidableEq, Repr

/- The word that stands before a notice. -/
def NoticeLevel.word :
    NoticeLevel → String
  | .warning => "WARN"
  | .detail => "DEBUG"

namespace Notice

/- Only a missing clause is worth a warning. -/
def level :
    Notice → NoticeLevel
  | .noOnClause _ _ => .warning
  | _ => .detail

/- The wording of a notice. -/
def message :
    Notice → Text
  | .noOnClause lookahead line =>
      Text.ofString "No ON clause within " ++
        Text.ofNat lookahead ++
        Text.ofString
          " lines of CREATE TRIGGER at line " ++
        Text.ofNat line ++ Text.ofString "; skipping"
  | .unrecognised line statement =>
      Text.ofString
          "Unrecognised CREATE TRIGGER shape at line " ++
        Text.ofNat line ++ Text.ofString ": " ++ statement
  | .skippedStatements path count =>
      path ++ Text.ofString ": skipped " ++
        Text.ofNat count ++
        Text.ofString
          " unrecognised CREATE TRIGGER statement(s)"
  | .excludedFile path =>
      Text.ofString "Skipping excluded migration " ++ path
  | .noSettingsFile directory =>
      Text.ofString "No config file in " ++ directory ++
        Text.ofString ", using defaults"

/- The notice with its level. -/
def render
    (notice : Notice) :
    Text :=
  Text.ofString notice.level.word ++ ' ' :: notice.message

end Notice

end SafeRerun
