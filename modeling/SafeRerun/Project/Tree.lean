import SafeRerun.Text.Basic

/-
  Directory trees as values.

  Key definitions include:
    * `SafeRerun.isName`
    * `SafeRerun.Tree`
    * `SafeRerun.Tree.resolve`
    * `SafeRerun.Tree.read`
    * `SafeRerun.Tree.write`

  Key theorems include:
    * `SafeRerun.Tree.entryAt_put`
    * `SafeRerun.Tree.entryAt_above`

  A tree holds the entries below the root, each under the
  names that lead to it, and the location of the working
  directory.  It is built so that no location stands twice,
  and that what is above an entry is a directory.  A path is a text that is followed name by name,
  from the root if it begins with a slash and else from the
  working directory.  So a path through a file or through a
  missing name leads nowhere, whatever comes after it.  Names
  and paths have a greatest length, and no path holds a null
  character.
-/

------------------------------------------------------------
-- Entries
------------------------------------------------------------

namespace SafeRerun

/- The names that lead from the root down. -/
abbrev Location : Type :=
  List Text

/- What stands at a location. -/
inductive Entry where
  | directory
  | file (bytes : ByteArray)

/- Whether an entry is a directory. -/
def Entry.isDirectory :
    Entry → Bool
  | .directory => true
  | .file _ => false

/- Files are the same when their bytes are. -/
def Entry.same :
    Entry → Entry → Bool
  | .directory, .directory => true
  | .file bytes, .file others => bytes.data == others.data
  | _, _ => false

instance : BEq Entry :=
  ⟨Entry.same⟩

/- A segment that stays where it is. -/
def isIdle
    (segment : Text) :
    Bool :=
  segment == [] || segment == ['.']

/- The greatest length of a name, in octets. -/
def nameLimit :
    Nat :=
  255

/- Whether an entry of a directory can have the name. -/
def isName
    (name : Text) :
    Bool :=
  !isIdle name && name != ['.', '.'] &&
    decide (name.octets ≤ nameLimit) &&
      name.all fun c => c != '/' && c.toNat != 0

/-
  The working directory and the entries below the root, one at
  each location, under names that an entry can have, and each
  in a directory.  The root itself is always there.
-/
structure Tree where
  home : Location
  entries : List (Location × Entry)
  distinct : (entries.map Prod.fst).Nodup
  named : ∀ e ∈ entries, e.1.all isName = true
  grounded :
    ∀ e ∈ entries,
      ∀ above name,
        e.1 = above ++ [name] →
          above = [] ∨ (above, .directory) ∈ entries

namespace Tree

/- The entry at a location. -/
def entryAt
    (tree : Tree)
    (location : Location) :
    Option Entry :=
  if location = [] then
    some .directory
  else
    tree.entries.lookup location

/- Whether a directory stands at a location. -/
def holdsDirectory
    (tree : Tree)
    (location : Location) :
    Bool :=
  (tree.entryAt location).any Entry.isDirectory

theorem holdsDirectory_iff
    {tree : Tree}
    {location : Location} :
    tree.holdsDirectory location = true ↔
      tree.entryAt location = some .directory := by
  unfold holdsDirectory
  cases tree.entryAt location with
  | none =>
      simp
  | some entry =>
      cases entry with
      | directory =>
          simp [Entry.isDirectory]
      | file bytes =>
          simp [Entry.isDirectory]

theorem mem_of_entryAt
    {tree : Tree}
    {location : Location}
    {entry : Entry}
    (hEntry : tree.entryAt location = some entry) :
    location = [] ∧ entry = .directory ∨
      (location, entry) ∈ tree.entries := by
  unfold entryAt at hEntry
  split at hEntry
  · rename_i hRoot
    rw [Option.some.injEq] at hEntry
    exact Or.inl ⟨hRoot, hEntry.symm⟩
  · rcases List.lookup_eq_some_iff.mp hEntry with
      ⟨front, back, hEntries, -⟩
    rw [hEntries]
    simp

/- Where an entry stands, the names can lead. -/
theorem all_isName_of_entryAt
    {tree : Tree}
    {location : Location}
    {entry : Entry}
    (hEntry : tree.entryAt location = some entry) :
    location.all isName = true := by
  rcases mem_of_entryAt hEntry with ⟨rfl, -⟩ | hMem
  · rfl
  · exact tree.named _ hMem

end Tree

end SafeRerun

------------------------------------------------------------
-- Setting Entries
------------------------------------------------------------

namespace SafeRerun

namespace Tree

/- The entries with an entry set at a location. -/
def setEntry
    (entries : List (Location × Entry))
    (location : Location)
    (entry : Entry) :
    List (Location × Entry) :=
  (location, entry) ::
    entries.filter fun e => e.1 != location

/-
  Whether an entry can be set below a location: it has a name,
  a directory is there, and none gives way to a file.
-/
def canPut
    (tree : Tree)
    (above : Location)
    (name : Text)
    (entry : Entry) :
    Bool :=
  isName name && tree.holdsDirectory above &&
    (entry.isDirectory ||
      !tree.holdsDirectory (above ++ [name]))

variable {tree : Tree}
variable {above : Location}
variable {name : Text}
variable {entry : Entry}

/- An entry is looked up where no location stands twice. -/
theorem lookup_of_mem
    {entries : List (Location × Entry)}
    {location : Location}
    {entry : Entry}
    (hDistinct : (entries.map Prod.fst).Nodup)
    (hMem : (location, entry) ∈ entries) :
    entries.lookup location = some entry := by
  induction entries with
  | nil =>
      contradiction
  | cons e rest ih =>
      rw [List.map_cons, List.nodup_cons] at hDistinct
      rcases List.mem_cons.mp hMem with rfl | hRest
      · simp
      · have hOther : location ≠ e.1 := by
          intro hSame
          apply hDistinct.1
          rw [← hSame]
          exact List.mem_map_of_mem hRest
        rw [List.lookup_cons, beq_false_of_ne hOther]
        exact ih hDistinct.2 hRest

/- Looking up another key is not disturbed by a removal. -/
theorem lookup_filter_of_ne
    (entries : List (Location × Entry))
    (location other : Location)
    (hOther : other ≠ location) :
    (entries.filter fun e => e.1 != location).lookup other =
      entries.lookup other := by
  induction entries with
  | nil =>
      rfl
  | cons e rest ih =>
      obtain ⟨key, entry⟩ := e
      by_cases hKey : key = location
      · have hDiffer : (other == location) = false := by
          simp [hOther]
        simp [hKey, List.lookup_cons, hDiffer, ih]
      · by_cases hFound : other = key
        · simp [hKey, hFound]
        · have hDiffer : (other == key) = false := by
            simp [hFound]
          simp [hKey, List.lookup_cons, hDiffer, ih]

/- Setting an entry takes the old one out. -/
theorem nodup_setEntry
    (tree : Tree)
    (location : Location)
    (entry : Entry) :
    ((setEntry tree.entries location entry).map
      Prod.fst).Nodup := by
  unfold setEntry
  rw [List.map_cons, List.nodup_cons]
  constructor
  · intro hMem
    rcases List.mem_map.mp hMem with ⟨e, hKept, hKey⟩
    have hOther := (List.mem_filter.mp hKept).2
    rw [hKey] at hOther
    simp at hOther
  · exact tree.distinct.sublist
      (List.filter_sublist.map Prod.fst)

theorem named_setEntry
    (hPut : tree.canPut above name entry = true) :
    ∀ e ∈ setEntry tree.entries (above ++ [name]) entry,
      e.1.all isName = true := by
  simp only [canPut, Bool.and_eq_true] at hPut
  rcases hPut with ⟨⟨hName, hAbove⟩, -⟩
  intro e hMem
  rcases List.mem_cons.mp hMem with rfl | hKept
  · have hNames :=
      all_isName_of_entryAt (holdsDirectory_iff.mp hAbove)
    simp only [List.all_append, List.all_cons, List.all_nil,
      hNames, hName, Bool.and_self]
  · exact tree.named e (List.mem_filter.mp hKept).1

/- An entry that stays is still in a directory. -/
theorem grounded_setEntry
    (hPut : tree.canPut above name entry = true) :
    ∀ e ∈ setEntry tree.entries (above ++ [name]) entry,
      ∀ upper last,
        e.1 = upper ++ [last] →
          upper = [] ∨
            (upper, .directory) ∈
              setEntry tree.entries (above ++ [name])
                entry := by
  simp only [canPut, Bool.and_eq_true, Bool.or_eq_true,
    Bool.not_eq_true'] at hPut
  rcases hPut with ⟨⟨-, hAbove⟩, hFree⟩
  intro e hMem upper last hKey
  rcases List.mem_cons.mp hMem with rfl | hKept
  · rcases List.append_inj' hKey rfl with ⟨rfl, -⟩
    rcases mem_of_entryAt (holdsDirectory_iff.mp hAbove) with
      ⟨hRoot, -⟩ | hThere
    · exact Or.inl hRoot
    · right
      refine List.mem_cons_of_mem _
        (List.mem_filter.mpr ⟨hThere, ?_⟩)
      simp
  · rcases tree.grounded e (List.mem_filter.mp hKept).1 upper
        last hKey with
      hRoot | hThere
    · exact Or.inl hRoot
    · right
      by_cases hHere : upper = above ++ [name]
      · -- The directory that is set again holds the entry.
        subst hHere
        have hSame : entry = .directory := by
          rcases hFree with hDirectory | hFree
          · cases entry with
            | directory =>
                rfl
            | file bytes =>
                contradiction
          · have hSome :
                tree.entryAt (above ++ [name]) =
                  some .directory := by
              unfold entryAt
              rw [if_neg (by simp)]
              exact lookup_of_mem tree.distinct hThere
            rw [holdsDirectory_iff.mpr hSome] at hFree
            contradiction
        rw [hSame]
        exact List.mem_cons_self
      · exact List.mem_cons_of_mem _
          (List.mem_filter.mpr ⟨hThere, by simp [hHere]⟩)

/- The tree with an entry set, if it can be set. -/
def put
    (tree : Tree)
    (above : Location)
    (name : Text)
    (entry : Entry) :
    Tree :=
  if hPut : tree.canPut above name entry = true then
    { home := tree.home
      entries := setEntry tree.entries (above ++ [name]) entry
      distinct := nodup_setEntry tree (above ++ [name]) entry
      named := named_setEntry hPut
      grounded := grounded_setEntry hPut }
  else
    tree

@[simp] theorem home_put
    (tree : Tree)
    (above : Location)
    (name : Text)
    (entry : Entry) :
    (tree.put above name entry).home = tree.home := by
  unfold put
  split
  · rfl
  · rfl

/- An entry that is set is found, the others stay. -/
theorem entryAt_put
    (hPut : tree.canPut above name entry = true)
    (other : Location) :
    (tree.put above name entry).entryAt other =
      if other = above ++ [name] then
        some entry
      else
        tree.entryAt other := by
  unfold entryAt put setEntry
  rw [dif_pos hPut]
  by_cases hSame : other = above ++ [name]
  · simp [hSame]
  · have hDiffer : (other == above ++ [name]) = false :=
      beq_false_of_ne hSame
    simp only [if_neg hSame, List.lookup_cons, hDiffer,
      lookup_filter_of_ne _ _ _ hSame]

/- An entry stands in a directory. -/
theorem entryAt_above
    (hEntry : (tree.entryAt (above ++ [name])).isSome) :
    tree.entryAt above = some .directory := by
  rcases Option.isSome_iff_exists.mp hEntry with
    ⟨found, hFound⟩
  rcases mem_of_entryAt hFound with ⟨hRoot, -⟩ | hMem
  · simp at hRoot
  · rcases tree.grounded _ hMem above name rfl with
      hRoot | hThere
    · rw [hRoot]
      rfl
    · unfold entryAt
      split
      · rfl
      · exact lookup_of_mem tree.distinct hThere

end Tree

end SafeRerun

------------------------------------------------------------
-- Following Paths
------------------------------------------------------------

namespace SafeRerun

/- Why an entry could not be used. -/
inductive AccessError where
  | notFound
  | notDirectory
  | isDirectory
  | tooLong
  | nullInPath
  | notText
  deriving DecidableEq, Repr

/- The system's wording of an access error. -/
def AccessError.message :
    AccessError → String
  | .notFound => "No such file or directory (os error 2)"
  | .notDirectory => "Not a directory (os error 20)"
  | .isDirectory => "Is a directory (os error 21)"
  | .tooLong => "File name too long (os error 36)"
  | .nullInPath =>
      "file name contained an unexpected NUL byte"
  | .notText => "stream did not contain valid UTF-8"

/- The names of a path, as the slashes divide it. -/
def segments :
    Text → List Text
  | [] => [[]]
  | c :: rest =>
      if c = '/' then
        [] :: segments rest
      else
        match segments rest with
        | [] => [[c]]
        | name :: names => (c :: name) :: names

/- The greatest length of a path, in octets. -/
def pathLimit :
    Nat :=
  4095

/- What is wrong with a path before it is followed, if anything. -/
def pathFault?
    (path : Text) :
    Option AccessError :=
  if path.any fun c => c.toNat == 0 then
    some .nullInPath
  else if path = [] then
    some .notFound
  else if pathLimit < path.octets then
    some .tooLong
  else
    none

namespace Tree

/- What stands under a name in a directory, if the name fits. -/
def lookUp
    (tree : Tree)
    (location : Location)
    (name : Text) :
    Except AccessError (Option Entry) :=
  if nameLimit < name.octets then
    .error .tooLong
  else
    .ok (tree.entryAt (location ++ [name]))

/- One segment further.  Above the root is the root. -/
def follow
    (tree : Tree)
    (location : Location)
    (segment : Text) :
    Except AccessError Location :=
  match tree.entryAt location with
  | none => .error .notFound
  | some (.file _) => .error .notDirectory
  | some .directory =>
      if isIdle segment then
        .ok location
      else if segment == ['.', '.'] then
        .ok location.dropLast
      else
        match tree.lookUp location segment with
        | .error fault => .error fault
        | .ok none => .error .notFound
        | .ok (some _) => .ok (location ++ [segment])

/- Several segments further. -/
def followAll
    (tree : Tree)
    (location : Location) :
    List Text → Except AccessError Location
  | [] => .ok location
  | segment :: rest =>
      match tree.follow location segment with
      | .ok next => tree.followAll next rest
      | .error fault => .error fault

/- Where a path begins. -/
def origin
    (tree : Tree) :
    Text → Location
  | '/' :: _ => []
  | _ => tree.home

/- Where a path leads. -/
def resolve
    (tree : Tree)
    (path : Text) :
    Except AccessError Location :=
  match pathFault? path with
  | some fault => .error fault
  | none =>
      tree.followAll (tree.origin path) (segments path)

/- Whether a path leads anywhere. -/
def pathExists
    (tree : Tree)
    (path : Text) :
    Bool :=
  (tree.resolve path).toBool

/- Whether a path leads to a directory. -/
def isDirectory
    (tree : Tree)
    (path : Text) :
    Bool :=
  match tree.resolve path with
  | .ok location => tree.holdsDirectory location
  | .error _ => false

/- The location of the file that a path leads to, if any. -/
def fileAt?
    (tree : Tree)
    (path : Text) :
    Option Location :=
  match tree.resolve path with
  | .ok location =>
      match tree.entryAt location with
      | some (.file _) => some location
      | _ => none
  | .error _ => none

/- Whether a path leads to a file. -/
def isFile
    (tree : Tree)
    (path : Text) :
    Bool :=
  (tree.fileAt? path).isSome

end Tree

end SafeRerun

------------------------------------------------------------
-- Reading and Writing
------------------------------------------------------------

namespace SafeRerun

/- The text that the bytes encode, if they encode one. -/
def decodeText?
    (bytes : ByteArray) :
    Option Text :=
  bytes.utf8Decode?.map Array.toList

/- The bytes that encode a text. -/
def encodeText
    (t : Text) :
    ByteArray :=
  (String.ofList t).toUTF8

/- What is encoded can be decoded. -/
theorem decodeText?_encodeText
    (t : Text) :
    decodeText? (encodeText t) = some t := by
  simp [decodeText?, encodeText]

namespace Tree

/- The bytes of the file that a path leads to. -/
def read
    (tree : Tree)
    (path : Text) :
    Except AccessError ByteArray :=
  match tree.resolve path with
  | .error fault => .error fault
  | .ok location =>
      match tree.entryAt location with
      | some (.file bytes) => .ok bytes
      | some .directory => .error .isDirectory
      | none => .error .notFound

/- The text of the file that a path leads to. -/
def readText
    (tree : Tree)
    (path : Text) :
    Except AccessError Text :=
  match tree.read path with
  | .error fault => .error fault
  | .ok bytes =>
      match decodeText? bytes with
      | some t => .ok t
      | none => .error .notText

/-
  The tree with a file of the given bytes below a directory.
-/
def writeBelow
    (tree : Tree)
    (location : Location)
    (name : Text)
    (bytes : ByteArray) :
    Except AccessError Tree :=
  match tree.entryAt location with
  | none => .error .notFound
  | some (.file _) => .error .notDirectory
  | some .directory =>
      match tree.lookUp location name with
      | .error fault => .error fault
      | .ok (some .directory) => .error .isDirectory
      | .ok _ =>
          .ok (tree.put location name (.file bytes))

/- The names of a path without the slashes at its end. -/
def namesOf
    (path : Text) :
    List Text :=
  ((segments path).reverse.dropWhile (· == [])).reverse

/- Whether a path can only lead to a directory. -/
def namesDirectory
    (path : Text) :
    Bool :=
  let name := (namesOf path).getLast?.getD []
  path.getLast? == some '/' || isIdle name ||
    name == ['.', '.']

/-
  The tree with the bytes written to a path.  The directory
  must be there; a path that can only lead to a directory is
  refused.
-/
def write
    (tree : Tree)
    (path : Text)
    (bytes : ByteArray) :
    Except AccessError Tree :=
  match pathFault? path with
  | some fault => .error fault
  | none =>
      match
        tree.followAll (tree.origin path)
          (namesOf path).dropLast
      with
      | .error fault => .error fault
      | .ok location =>
          if !tree.holdsDirectory location then
            .error .notDirectory
          else if namesDirectory path then
            .error .isDirectory
          else
            tree.writeBelow location
              ((namesOf path).getLast?.getD []) bytes

end Tree

end SafeRerun

------------------------------------------------------------
-- Listing
------------------------------------------------------------

namespace SafeRerun

/- Locations in the order of their names. -/
def locationBefore
    (a b : Location) :
    Bool :=
  !decide (b < a)

namespace Tree

/- The way from a location down to another one. -/
def wayBelow?
    (location key : Location) :
    Option Location :=
  if location.isPrefixOf key &&
      location.length < key.length then
    some (key.drop location.length)
  else
    none

/-
  The ways from a directory down to everything below it: a
  directory comes before what it holds, and neighbours come
  in the order of their names.
-/
def below
    (tree : Tree)
    (location : Location) :
    List Location :=
  (tree.entries.filterMap fun e =>
    wayBelow? location e.1).mergeSort locationBefore

/- The names directly below a directory, in order. -/
def namesIn
    (tree : Tree)
    (location : Location) :
    List Text :=
  (tree.below location).filterMap fun way =>
    match way with
    | [name] => some name
    | _ => none

end Tree

end SafeRerun

------------------------------------------------------------
-- Building
------------------------------------------------------------

namespace SafeRerun

namespace Tree

/-
  One name further in a tree that grows: a directory that is
  missing is made.
-/
def enter
    (built : Tree × Location)
    (name : Text) :
    Tree × Location :=
  if isIdle name then
    built
  else if name == ['.', '.'] then
    (built.1, built.2.dropLast)
  else
    let below := built.2 ++ [name]
    if (built.1.entryAt below).isSome then
      (built.1, below)
    else
      (built.1.put built.2 name .directory, below)

/-
  The tree with the directories that the names lead through,
  and where the names lead.
-/
def enterAll
    (tree : Tree)
    (location : Location)
    (names : List Text) :
    Tree × Location :=
  names.foldl enter (tree, location)

/- A tree with nothing but the way to its working directory. -/
def startingAt
    (home : Location) :
    Tree :=
  let bare : Tree :=
    { home := home
      entries := []
      distinct := List.nodup_nil
      named := by simp
      grounded := by simp }
  (bare.enterAll [] home).1

/- A tree in which the working directory is empty. -/
def empty :
    Tree :=
  startingAt [Text.ofString "work"]

/- The tree with a directory and the directories on its way. -/
def addDirectory
    (tree : Tree)
    (path : Text) :
    Tree :=
  (tree.enterAll (tree.origin path) (segments path)).1

/- The tree with a file and the directories on its way. -/
def addFile
    (tree : Tree)
    (path : Text)
    (bytes : ByteArray) :
    Tree :=
  let (built, above) :=
    tree.enterAll (tree.origin path) (segments path).dropLast
  built.put above ((segments path).getLast?.getD [])
    (.file bytes)

end Tree

end SafeRerun
