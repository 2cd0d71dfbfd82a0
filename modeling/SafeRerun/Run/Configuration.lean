import SafeRerun.Failure
import SafeRerun.Project.Path

/-
  The settings of a run: where they are read from, and how
  the options of the run override them.

  Key definitions include:
    * `SafeRerun.Options`
    * `SafeRerun.loadSettings`
    * `SafeRerun.settingsFile?`
    * `SafeRerun.projectSettings`
    * `SafeRerun.runSettings`

  A settings file that is named must be there.  Without one,
  the project directory is looked at under two names, and a
  project without a settings file has the defaults.
-/

------------------------------------------------------------
-- Options
------------------------------------------------------------

namespace SafeRerun

/- What a run is asked for. -/
structure Options where
  verbose : Bool
  project : Text
  settingsFile : Option Text
  overrides : Overrides
  deriving DecidableEq, Repr

end SafeRerun

------------------------------------------------------------
-- Loading
------------------------------------------------------------

namespace SafeRerun

/- The settings of a text, if they are usable. -/
def usableSettings
    (path t : Text) :
    Except Failure Settings :=
  match Settings.parse t with
  | .error cause => .error (.settingsMalformed path cause)
  | .ok settings =>
      match settings.fault? with
      | some fault => .error (.settingsUnusable fault)
      | none => .ok settings

/- The settings of the file at a path. -/
def loadSettings
    (tree : Tree)
    (path : Text) :
    Except Failure Settings :=
  if tree.pathExists path then
    match tree.readText path with
    | .error cause => .error (.notRead path cause)
    | .ok t => usableSettings path t
  else
    .error (.settingsMissing path)

/- The paths that a settings file of a project can have. -/
def settingsPaths
    (directory : Text) :
    List Text :=
  [Text.ofString "trigger-guard.yml",
    Text.ofString "trigger-guard.yaml"].map
    (joinPath directory)

/- The settings file of a project, if there is one. -/
def settingsFile?
    (tree : Tree)
    (directory : Text) :
    Option Text :=
  (settingsPaths directory).find? tree.pathExists

/- The settings of a project. -/
def projectSettings
    (tree : Tree)
    (directory : Text) :
    Except Failure Settings :=
  match settingsFile? tree directory with
  | some path => loadSettings tree path
  | none => .ok .default

/- The notice of a project without a settings file. -/
def settingsNotices
    (tree : Tree)
    (directory : Text) :
    List Notice :=
  match settingsFile? tree directory with
  | some _ => []
  | none => [.noSettingsFile directory]

end SafeRerun

------------------------------------------------------------
-- Settings of a Run
------------------------------------------------------------

namespace SafeRerun

/- The settings before the options override them. -/
def baseSettings
    (tree : Tree)
    (options : Options) :
    Except Failure Settings :=
  match options.settingsFile with
  | some path => loadSettings tree path
  | none => projectSettings tree options.project

/- The notices of looking for the settings. -/
def configurationNotices
    (tree : Tree)
    (options : Options) :
    List Notice :=
  match options.settingsFile with
  | some _ => []
  | none => settingsNotices tree options.project

/- The settings of a run. -/
def runSettings
    (tree : Tree)
    (options : Options) :
    Except Failure Settings :=
  match baseSettings tree options with
  | .error failure => .error failure
  | .ok settings =>
      let chosen := options.overrides.apply settings
      match chosen.fault? with
      | some fault => .error (.badOverride fault)
      | none => .ok chosen

end SafeRerun
