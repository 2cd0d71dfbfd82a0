import SafeRerun.Pattern.Search
import SafeRerun.Settings.Document

/-
  Why a run fails.

  Key definitions include:
    * `SafeRerun.Failure`
    * `SafeRerun.Failure.message`
    * `SafeRerun.Failure.chain`

  A failure keeps its cause as a value.  Each kind has a
  code that opens its message; the chain of a failure adds
  the causes that lie behind it.
-/

------------------------------------------------------------
-- Failures
------------------------------------------------------------

namespace SafeRerun

/- Why the scripts of a project could not be selected. -/
inductive SelectionFault where
  | inaccessible (cause : AccessError)
  | badPattern (pattern : Text) (cause : PatternError)
  | unlisted (fault : ListingFault)
  deriving DecidableEq, Repr

/- The wording of a selection fault. -/
def SelectionFault.message :
    SelectionFault → Text
  | .inaccessible cause => Text.ofString cause.message
  | .badPattern pattern cause =>
      Text.ofString "invalid glob '" ++ pattern ++
        Text.ofString "': " ++ cause.message
  | .unlisted fault =>
      Text.ofString "attempting to read `" ++
        fault.directory ++
        Text.ofString "` resulted in an error: " ++
        Text.ofString fault.cause.message

/- What can make a run fail. -/
inductive Failure where
  /- The settings file is not there. -/
  | settingsMissing (path : Text)
  /- The settings file does not give settings. -/
  | settingsMalformed (path : Text) (cause : DocumentFault)
  /- The settings are not usable. -/
  | settingsUnusable (cause : SettingsFault)
  /- The settings are not usable once they are overridden. -/
  | badOverride (cause : SettingsFault)
  /- The scripts could not be selected. -/
  | notSelected (base : Text) (cause : SelectionFault)
  /- A file could not be read. -/
  | notRead (path : Text) (cause : AccessError)
  /- A file could not be written. -/
  | notWritten (path : Text) (cause : AccessError)
  deriving DecidableEq, Repr

end SafeRerun

------------------------------------------------------------
-- Wording
------------------------------------------------------------

namespace SafeRerun

/- The wording of unusable settings. -/
def unusableMessage
    (cause : SettingsFault) :
    Text :=
  Text.ofString "[TG003] Invalid config: " ++
    Text.ofString cause.message

namespace Failure

/- The wording of a failure. -/
def message :
    Failure → Text
  | .settingsMissing path =>
      Text.ofString "[TG001] Config file not found: " ++ path
  | .settingsMalformed path cause =>
      Text.ofString "[TG002] Failed to parse config " ++
        path ++ Text.ofString ": " ++ cause.message
  | .settingsUnusable cause => unusableMessage cause
  | .badOverride cause =>
      Text.ofString "Invalid command-line override: " ++
        unusableMessage cause
  | .notSelected base cause =>
      Text.ofString
          "[TG004] Failed to discover migrations under '" ++
        base ++ Text.ofString "': " ++ cause.message
  | .notRead path cause =>
      Text.ofString "[TG005] Failed to read '" ++ path ++
        Text.ofString "': " ++ Text.ofString cause.message
  | .notWritten path cause =>
      Text.ofString "[TG006] Failed to write '" ++ path ++
        Text.ofString "': " ++ Text.ofString cause.message

/- The wording of the cause behind a failure, if any. -/
def cause? :
    Failure → Option Text
  | .settingsMalformed _ cause => some cause.message
  | .notRead _ cause => some (Text.ofString cause.message)
  | .notWritten _ cause =>
      some (Text.ofString cause.message)
  | _ => none

/- The failure and the cause behind it. -/
def chain
    (failure : Failure) :
    Text :=
  match failure.cause? with
  | some cause =>
      failure.message ++ Text.ofString ": " ++ cause
  | none => failure.message

end Failure

end SafeRerun
