import SafeRerun.Project.Tree

/-
  Paths as texts: joining, comparing, and cutting off a
  leading directory.

  Key definitions include:
    * `SafeRerun.Component`
    * `SafeRerun.components`
    * `SafeRerun.joinPath`
    * `SafeRerun.stripBase?`
    * `SafeRerun.pathBefore`

  Two spellings of a path are compared by their components,
  so repeated slashes and inner dots make no difference.  A
  dot at the beginning is a component of its own.
-/

------------------------------------------------------------
-- Components
------------------------------------------------------------

namespace SafeRerun

/- The parts of a path. -/
inductive Component where
  | root
  | here
  | parent
  | name (text : Text)
  deriving DecidableEq, Repr

/- The component of a segment after the first one. -/
def laterComponent?
    (segment : Text) :
    Option Component :=
  if isIdle segment then
    none
  else if segment == ['.', '.'] then
    some .parent
  else
    some (.name segment)

/-
  The component of the first segment, which also tells an
  absolute path and a leading dot.
-/
def firstComponent?
    (path segment : Text) :
    Option Component :=
  if segment == ['.'] then
    some .here
  else if path.head? == some '/' then
    some .root
  else
    laterComponent? segment

/- The components of a path. -/
def components
    (path : Text) :
    List Component :=
  match segments path with
  | [] => []
  | first :: rest =>
      (firstComponent? path first).toList ++
        rest.filterMap laterComponent?

/- Whether a path is one dot, however it is spelled. -/
def isHere
    (path : Text) :
    Bool :=
  components path == [.here]

end SafeRerun

------------------------------------------------------------
-- Joining
------------------------------------------------------------

namespace SafeRerun

/-
  A path below a directory.  A slash is put between them
  where none stands, and an absolute path replaces the
  directory.
-/
def joinPath
    (directory path : Text) :
    Text :=
  if path.head? == some '/' then
    path
  else if directory == [] || directory.getLast? == some '/'
  then
    directory ++ path
  else
    directory ++ '/' :: path

/- The text of segments with slashes between them. -/
def joinSegments
    (parts : List Text) :
    Text :=
  Text.joinWith ['/'] parts

end SafeRerun

------------------------------------------------------------
-- Cutting Off a Directory
------------------------------------------------------------

namespace SafeRerun

/- The segments after the given number of components. -/
def dropComponents :
    Nat → List Text → List Text
  | 0, parts => parts
  | _ + 1, [] => []
  | count + 1, part :: rest =>
      if isIdle part then
        dropComponents (count + 1) rest
      else
        dropComponents count rest

/- The segments without idle ones at either end. -/
def trimIdle
    (parts : List Text) :
    List Text :=
  ((parts.dropWhile isIdle).reverse.dropWhile
    isIdle).reverse

/-
  The text of a path after its first components, as it was
  spelled.
-/
def pathAfter
    (count : Nat)
    (path : Text) :
    Text :=
  match segments path with
  | [] => []
  | first :: rest =>
      if (firstComponent? path first).isSome then
        joinSegments
          (trimIdle (dropComponents (count - 1) rest))
      else
        joinSegments (trimIdle (dropComponents count rest))

/- The path below a base directory, if it lies below it. -/
def stripBase?
    (base path : Text) :
    Option Text :=
  if (components base).isPrefixOf (components path) then
    if components base == [] then
      some path
    else
      some (pathAfter (components base).length path)
  else
    none

/- The path without the directory it is relative to. -/
def relativeTo
    (base path : Text) :
    Text :=
  (stripBase? base path).getD path

/- A path as it is shown: without a leading dot. -/
def displayPath
    (path : Text) :
    Text :=
  relativeTo ['.'] path

end SafeRerun

------------------------------------------------------------
-- Order
------------------------------------------------------------

namespace SafeRerun

/-
  The rank of a component: the root first, then the dot,
  the double dot, and the names by their characters.
-/
def Component.rank :
    Component → Nat × Text
  | .root => (0, [])
  | .here => (1, [])
  | .parent => (2, [])
  | .name text => (3, text)

/- Components in order. -/
def Component.before
    (a b : Component) :
    Bool :=
  decide (a.rank.1 < b.rank.1) ||
    (a.rank.1 == b.rank.1 && !decide (b.rank.2 < a.rank.2))

/-
  Lists of components in order: the first difference
  decides, and a list comes before its continuations.
-/
def componentsBefore :
    List Component → List Component → Bool
  | [], _ => true
  | _ :: _, [] => false
  | a :: as, b :: bs =>
      if a = b then
        componentsBefore as bs
      else
        a.before b

/- Paths in order of their components. -/
def pathBefore
    (a b : Text) :
    Bool :=
  componentsBefore (components a) (components b)

end SafeRerun
