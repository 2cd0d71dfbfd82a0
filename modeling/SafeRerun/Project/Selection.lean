import SafeRerun.Failure

/-
  Selecting the scripts of a project.

  Key definitions include:
    * `SafeRerun.fullPattern`
    * `SafeRerun.findings`
    * `SafeRerun.matchedFiles`
    * `SafeRerun.selectScripts`

  The pattern of the settings is searched below the base
  directory, whose own name is taken literally.  Files whose
  path holds a marker are left out, where the path is taken
  relative to the base directory.
-/

------------------------------------------------------------
-- Selecting
------------------------------------------------------------

namespace SafeRerun

/- The pattern of the settings below a base directory. -/
def fullPattern
    (base : Text)
    (settings : Settings) :
    Text :=
  joinPath (escapePattern base) settings.pattern

/- Whether a base directory can be listed. -/
def listable
    (tree : Tree)
    (base : Text) :
    Except AccessError Unit :=
  match tree.resolve base with
  | .error fault => .error fault
  | .ok location =>
      if tree.holdsDirectory location then
        .ok ()
      else
        .error .notDirectory

/- What the pattern leads to below a base directory. -/
def findings
    (tree : Tree)
    (base : Text)
    (settings : Settings) :
    Except Failure (List (Finding Text)) :=
  match listable tree base with
  | .error fault =>
      .error (.notSelected base (.inaccessible fault))
  | .ok () =>
      match pathPattern (fullPattern base settings) with
      | .error e =>
          .error (.notSelected base
            (.badPattern (fullPattern base settings) e))
      | .ok pattern => .ok (pattern.search tree)

/- The paths that are found before the first fault. -/
def pathsFound :
    List (Finding Text) → List Text
  | .ok path :: rest => path :: pathsFound rest
  | _ => []

/- The first fault that is found, if any. -/
def faultFound? :
    List (Finding Text) → Option ListingFault
  | [] => none
  | .ok _ :: rest => faultFound? rest
  | .error fault :: _ => some fault

/- The files that the pattern matches, in search order. -/
def matchedFiles
    (tree : Tree)
    (base : Text)
    (settings : Settings) :
    Except Failure (List Text) :=
  match findings tree base settings with
  | .error failure => .error failure
  | .ok found =>
      match faultFound? found with
      | some fault =>
          .error (.notSelected base (.unlisted fault))
      | none => .ok ((pathsFound found).filter tree.isFile)

/- Whether a matched path is left out. -/
def isLeftOut
    (base : Text)
    (settings : Settings)
    (path : Text) :
    Bool :=
  settings.excludes (relativeTo base path)

/- Those of the matched paths that are not left out. -/
def keepSelected
    (base : Text)
    (settings : Settings)
    (paths : List Text) :
    List Text :=
  (paths.filter fun path =>
    !isLeftOut base settings path).mergeSort pathBefore

/- The paths of the scripts, in order. -/
def selectScripts
    (tree : Tree)
    (base : Text)
    (settings : Settings) :
    Except Failure (List Text) :=
  (matchedFiles tree base settings).map
    (keepSelected base settings)

/-
  The notices about files that are left out.  They are given
  file by file, so also before a fault.
-/
def selectionNotices
    (tree : Tree)
    (base : Text)
    (settings : Settings) :
    List Notice :=
  match findings tree base settings with
  | .error _ => []
  | .ok found =>
      (((pathsFound found).filter tree.isFile).filter
        (isLeftOut base settings)).map Notice.excludedFile

end SafeRerun
