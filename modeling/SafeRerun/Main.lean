import SafeRerun.Command.Program

/-
  The program as it is run: the part of the file system that
  the command line is about is read as a tree, the command
  line is answered, and what has changed is written back.

  Key definitions include:
    * `SafeRerun.readPath`
    * `SafeRerun.readTree`
    * `SafeRerun.writeChanges`
    * `main`
-/

------------------------------------------------------------
-- Reading
------------------------------------------------------------

namespace SafeRerun

/- The tree with a directory entry and all below it. -/
partial def readEntry
    (above : Text)
    (tree : Tree)
    (entry : IO.FS.DirEntry) :
    IO Tree := do
  let path :=
    joinPath above (Text.ofString entry.fileName)
  if ← entry.path.isDir then
    let mut grown := tree.addDirectory path
    for inner in ← entry.path.readDir do
      grown ← readEntry path grown inner
    return grown
  else
    let bytes ← IO.FS.readBinFile entry.path
    return tree.addFile path bytes

/- The tree with what a path leads to and all below it. -/
def readPath
    (tree : Tree)
    (path : Text) :
    IO Tree := do
  let place := (← IO.currentDir) / path.toString
  if ← place.isDir then
    let mut grown := tree.addDirectory path
    for entry in ← place.readDir do
      grown ← readEntry path grown entry
    return grown
  else if ← place.pathExists then
    return tree.addFile path (← IO.FS.readBinFile place)
  else
    return tree

/- A tree that holds the working directory and no more. -/
def readHome :
    IO Tree := do
  let home := Text.ofString (← IO.currentDir).toString
  return Tree.startingAt ((segments home).filter isName)

/-
  A directory that the search of a pattern does not leave:
  the segments before the first wildcard, and upwards as
  often as later segments can lead there.
-/
def searchedPath
    (base : Text)
    (settings : Settings) :
    Text :=
  let isPlain (segment : Text) : Bool :=
    escapePattern segment == segment
  let parts := segments settings.pattern
  let upwards :=
    (parts.dropWhile isPlain).filter fun segment =>
      segment == ['.', '.'] ||
        (segment.head? == some '.' && !isPlain segment)
  joinPath base
    (joinSegments
      (parts.takeWhile isPlain ++
        upwards.map fun _ => ['.', '.']))

/- What a run with the options can read. -/
def readRun
    (options : Options) :
    IO Tree := do
  let mut tree ← readHome
  for path in options.project :: options.settingsFile.toList do
    tree ← readPath tree path
  match runSettings tree options with
  | .error _ => return tree
  | .ok settings =>
      readPath tree (searchedPath options.project settings)

/- What the answer to a command line can depend on. -/
def readTree
    (arguments : List Text) :
    IO Tree :=
  match parseArguments arguments with
  | some (.perform _ options) => readRun options
  | _ => readHome

end SafeRerun

------------------------------------------------------------
-- Writing
------------------------------------------------------------

namespace SafeRerun

/- Writes the files that differ between two trees. -/
def writeChanges
    (before after : Tree) :
    IO Unit := do
  for (location, entry) in after.entries do
    match entry with
    | .directory => pure ()
    | .file bytes =>
        if before.entryAt location != some entry then
          let path : Text := '/' :: joinSegments location
          IO.FS.writeBinFile path.toString bytes

end SafeRerun

------------------------------------------------------------
-- Entry Point
------------------------------------------------------------

open SafeRerun in
/- Answers the command line in the working directory. -/
def main
    (arguments : List String) :
    IO UInt32 := do
  let words := arguments.map Text.ofString
  let before ← readTree words
  let (output, after) := program words before
  writeChanges before after
  (← IO.getStdout).putStr output.out.toString
  (← IO.getStderr).putStr output.err.toString
  return output.code.toUInt32
