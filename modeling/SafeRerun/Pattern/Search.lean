import SafeRerun.Pattern.Basic

/-
  Searching a tree for the paths that a pattern matches.

  Key definitions include:
    * `SafeRerun.PathSegment`
    * `SafeRerun.PathPattern`
    * `SafeRerun.pathPattern`
    * `SafeRerun.Finding`
    * `SafeRerun.PathPattern.search`

  A pattern is searched segment by segment.  A literal
  segment is followed wherever it leads; a segment with
  wildcards is held against the names in a directory; a
  segment of two stars goes on anywhere below the directory.
  A path is found once for every way to divide it among the
  segments.  A directory shows the kinds of its entries, so
  the search can know one that it is not able to list, since
  the path to it is too long; then it finds this fault.
-/

------------------------------------------------------------
-- Segments of a Pattern
------------------------------------------------------------

namespace SafeRerun

/- What a segment of a pattern asks for. -/
inductive PathSegment where
  | literal (name : Text)
  | wild (items : List Wild)
  | anyDepth
  deriving DecidableEq, Repr

/- The text of items that are all literal. -/
def literalText? :
    List Wild → Option Text
  | [] => some []
  | .exactly c :: rest => (literalText? rest).map (c :: ·)
  | _ :: _ => none

/- The segment that a list of items makes. -/
def PathSegment.ofItems
    (items : List Wild) :
    PathSegment :=
  match literalText? items with
  | some name => .literal name
  | none =>
      if items.contains .anyDepth then
        .anyDepth
      else
        .wild items

/- The segments of the parts of a pattern. -/
def pathSegments :
    List Text → Except PatternError (List PathSegment)
  | [] => .ok []
  | part :: rest =>
      match parsePattern part with
      | .error e => .error e
      | .ok items =>
          match pathSegments rest with
          | .error e => .error e
          | .ok more => .ok (.ofItems items :: more)

/-
  A pattern ready for a search: the path it starts from, its
  segments, and whether only directories are wanted.
-/
structure PathPattern where
  start : Text
  parts : List PathSegment
  onlyDirectories : Bool

/- A pattern without the slash that makes it absolute. -/
def withoutRoot :
    Text → Text
  | '/' :: rest => rest
  | t => t

/- The segments of a text, a last slash ending the last. -/
def terminatedSegments
    (t : Text) :
    List Text :=
  if (segments t).getLast? == some [] then
    (segments t).dropLast
  else
    segments t

/-
  The pattern that a text spells.  The text is first read as
  a whole, then segment by segment.
-/
def pathPattern
    (t : Text) :
    Except PatternError PathPattern :=
  match parsePattern t with
  | .error e => .error e
  | .ok _ =>
      match pathSegments (terminatedSegments (withoutRoot t))
      with
      | .error e => .error e
      | .ok parts =>
          .ok
            { start :=
                if t.head? == some '/' then ['/'] else ['.']
              parts := parts
              onlyDirectories := t.getLast? == some '/' }

end SafeRerun

------------------------------------------------------------
-- Findings
------------------------------------------------------------

namespace SafeRerun

/- A path that a search has reached. -/
structure Reached where
  path : Text
  isDirectory : Bool
  deriving DecidableEq, Repr

/- A directory that could not be listed, and why. -/
structure ListingFault where
  directory : Text
  cause : AccessError
  deriving DecidableEq, Repr

/- What a search comes upon. -/
abbrev Finding (α : Type) : Type :=
  Except ListingFault α

/- Going on from what has been reached. -/
def goOn
    {α : Type}
    (next : Reached → List (Finding α))
    (found : List (Finding Reached)) :
    List (Finding α) :=
  found.flatMap fun
    | .ok reached => next reached
    | .error fault => [.error fault]

end SafeRerun

------------------------------------------------------------
-- One Step of a Search
------------------------------------------------------------

namespace SafeRerun

/- A name below a directory; the dot itself is not shown. -/
def stepInto
    (directory name : Text) :
    Text :=
  if isHere directory then
    name
  else
    joinPath directory name

/- The path at the end of a way below a directory. -/
def pathAlong
    (path : Text)
    (way : Location) :
    Text :=
  way.foldl stepInto path

/- A path that is looked up to see what is there. -/
def Tree.lookAt
    (tree : Tree)
    (path : Text) :
    Reached :=
  ⟨path, tree.isDirectory path⟩

/- An entry that is seen in a listing, by the way to it. -/
def Tree.seenAlong
    (tree : Tree)
    (path : Text)
    (location way : Location) :
    Reached :=
  ⟨pathAlong path way,
    tree.holdsDirectory (location ++ way)⟩

/- The path that a literal segment leads to, if any. -/
def literalStep
    (tree : Tree)
    (name : Text)
    (reached : Reached) :
    List (Finding Reached) :=
  let next := stepInto reached.path name
  if name == ['.'] || name == ['.', '.'] then
    if reached.isDirectory then
      [.ok (tree.lookAt next)]
    else
      []
  else if tree.pathExists next then
    [.ok (tree.lookAt next)]
  else
    []

/-
  The dot directories, for a segment that begins with a
  literal dot.
-/
def dotSteps
    (items : List Wild)
    (path : Text) :
    List Text :=
  if items.head? == some (.exactly '.') then
    ([['.', '.'], ['.']].filter (matchesName items)).map
      (joinPath path)
  else
    []

/- The paths that a wildcard segment leads to. -/
def wildStep
    (tree : Tree)
    (items : List Wild)
    (reached : Reached) :
    List (Finding Reached) :=
  if reached.isDirectory then
    match tree.resolve reached.path with
    | .error cause => [.error ⟨reached.path, cause⟩]
    | .ok location =>
        (dotSteps items reached.path).map
            (fun path => .ok (tree.lookAt path)) ++
          ((tree.namesIn location).filter
            (matchesName items)).map fun name =>
              .ok (tree.seenAlong reached.path location
                [name])
  else
    []

/- Whether a segment matches a name by its spelling. -/
def PathSegment.matchesName
    (name : Text) :
    PathSegment → Bool
  | .literal text => text == name
  | .wild items => SafeRerun.matchesName items name
  | .anyDepth => true

/- The fault of a directory that cannot be listed, if it is one. -/
def Tree.listingFault?
    (tree : Tree)
    (reached : Reached) :
    Option ListingFault :=
  if reached.isDirectory then
    match tree.resolve reached.path with
    | .error cause => some ⟨reached.path, cause⟩
    | .ok _ => none
  else
    none

/-
  What a search comes upon at the end of a way below a
  directory: the entry if it is wanted, and a fault if what
  is below the entry cannot be listed.  Where the directory
  above could not be listed, it comes upon nothing.
-/
def findingsAlong
    (tree : Tree)
    (wanted : Text → Bool → Bool)
    (path : Text)
    (location way : Location) :
    List (Finding Reached) :=
  match tree.resolve (pathAlong path way.dropLast) with
  | .error _ => []
  | .ok _ =>
      let seen := tree.seenAlong path location way
      let entry : List (Finding Reached) :=
        if
          wanted (way.getLast?.getD []) seen.isDirectory
        then
          [.ok seen]
        else
          []
      entry ++ (tree.listingFault? seen).toList.map .error

/- What a search comes upon anywhere below a directory. -/
def findingsBelow
    (tree : Tree)
    (wanted : Text → Bool → Bool)
    (reached : Reached) :
    List (Finding Reached) :=
  if reached.isDirectory then
    match tree.resolve reached.path with
    | .error cause => [.error ⟨reached.path, cause⟩]
    | .ok location =>
        (tree.below location).flatMap
          (findingsAlong tree wanted reached.path location)
  else
    []

/-
  The paths anywhere below a directory whose last name the
  segment matches.
-/
def deepStep
    (tree : Tree)
    (part : PathSegment)
    (reached : Reached) :
    List (Finding Reached) :=
  findingsBelow tree (fun name _ => part.matchesName name)
    reached

/- The directories anywhere below a directory. -/
def deepDirectories
    (tree : Tree)
    (reached : Reached) :
    List (Finding Reached) :=
  findingsBelow tree (fun _ isDirectory => isDirectory)
    reached

end SafeRerun

------------------------------------------------------------
-- The Search
------------------------------------------------------------

namespace SafeRerun

/- What the segments lead to from what has been reached. -/
def searchFrom
    (tree : Tree) :
    List PathSegment → Reached → List (Finding Reached)
  | [], reached => [.ok reached]
  | .literal name :: rest, reached =>
      goOn (searchFrom tree rest)
        (literalStep tree name reached)
  | .wild items :: rest, reached =>
      goOn (searchFrom tree rest)
        (wildStep tree items reached)
  | [.anyDepth], reached => deepDirectories tree reached
  | .anyDepth :: .anyDepth :: rest, reached =>
      searchFrom tree (.anyDepth :: rest) reached
  | .anyDepth :: part :: rest, reached =>
      goOn (searchFrom tree rest)
        (deepStep tree part reached)

/- What a pattern leads to in a tree, in order. -/
def PathPattern.search
    (tree : Tree)
    (pattern : PathPattern) :
    List (Finding Text) :=
  goOn
    (fun reached =>
      if pattern.onlyDirectories && !reached.isDirectory then
        []
      else
        [.ok reached.path])
    (searchFrom tree pattern.parts
      (tree.lookAt pattern.start))

end SafeRerun
