import SafeRerun.Yaml.Event

/-
  The first document of a YAML text, with its aliases
  resolved.

  Key definitions include:
    * `SafeRerun.Yaml.Node`
    * `SafeRerun.Yaml.Document`
    * `SafeRerun.Yaml.documentOf`

  A document is the list of its nodes.  It is sound when it
  is well formed to its end, and single when nothing follows
  it.  An alias refers to a node by the number of its
  anchor.
-/

------------------------------------------------------------
-- Nodes
------------------------------------------------------------

namespace SafeRerun

namespace Yaml

/- The nodes of a document as they begin and end. -/
inductive NodeKind where
  | scalar (tag : Option Text) (text : Text)
      (style : ScalarStyle)
  | alias (anchor : Nat)
  | sequenceStart
  | sequenceEnd
  | mappingStart
  | mappingEnd
  deriving DecidableEq, Repr

/- A node and its place. -/
structure Node where
  kind : NodeKind
  mark : Mark
  deriving DecidableEq, Repr

/-
  A document: its nodes, the place of the node of each
  anchor number in the list, and how the document ends.
-/
structure Document where
  nodes : List Node
  anchored : List (Nat × Nat)
  sound : Bool
  single : Bool

/- The nodes from the one that an alias refers to on. -/
def Document.aliased
    (document : Document)
    (anchor : Nat) :
    List Node :=
  match document.anchored.lookup anchor with
  | some place => document.nodes.drop place
  | none => []

end Yaml

end SafeRerun

------------------------------------------------------------
-- Collecting Nodes
------------------------------------------------------------

namespace SafeRerun

namespace Yaml

/-
  The nodes so far in order, the numbers of the anchors by
  name, and the places of the anchored nodes by number.
-/
structure Collected where
  nodes : List Node
  names : List (Text × Nat)
  places : List (Nat × Nat)

namespace Collected

/- Nothing collected. -/
def nothing :
    Collected :=
  ⟨[], [], []⟩

/-
  One more node.  An anchor gets the count of the names so
  far as its number; a name that was there keeps its place
  in that count.
-/
def add
    (kind : NodeKind)
    (event : Event)
    (c : Collected) :
    Collected :=
  let nodes := c.nodes ++ [⟨kind, event.mark⟩]
  match event.anchor with
  | none => { c with nodes := nodes }
  | some name =>
      let number := c.names.length
      { nodes := nodes
        names :=
          (name, number) ::
            c.names.filter fun e => e.1 != name
        places := (number, c.nodes.length) :: c.places }

/- The document that the collected nodes make. -/
def finish
    (sound single : Bool)
    (c : Collected) :
    Document :=
  ⟨c.nodes, c.places, sound, single⟩

end Collected

/-
  The document whose events these are, given what has been
  collected.  It ends before an alias to an unknown anchor.
-/
def collect :
    Collected → List Event → Document
  | c, [] => c.finish false false
  | c, event :: rest =>
      match event.kind with
      | .streamEnd => c.finish true true
      | .documentStart => collect c rest
      | .documentEnd =>
          let single :=
            match rest with
            | next :: _ => next.kind == .streamEnd
            | [] => false
          c.finish true single
      | .alias name =>
          match c.names.lookup name with
          | some number =>
              collect (c.add (.alias number) event) rest
          | none => c.finish false false
      | .scalar tag text style =>
          collect (c.add (.scalar tag text style) event) rest
      | .sequenceStart =>
          collect (c.add .sequenceStart event) rest
      | .sequenceEnd =>
          collect (c.add .sequenceEnd event) rest
      | .mappingStart =>
          collect (c.add .mappingStart event) rest
      | .mappingEnd =>
          collect (c.add .mappingEnd event) rest

/- The first document of a text. -/
def documentOf
    (t : Text) :
    Document :=
  collect .nothing (eventsOf t)

end Yaml

end SafeRerun
