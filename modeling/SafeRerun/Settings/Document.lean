import SafeRerun.Settings.Basic
import SafeRerun.Yaml.Document
import SafeRerun.Yaml.Value

/-
  Settings read from a YAML document.

  Key definitions include:
    * `SafeRerun.DocumentFault`
    * `SafeRerun.DocumentFault.message`
    * `SafeRerun.Settings.ofDocument`
    * `SafeRerun.Settings.parse`

  A settings document is a mapping from field names to
  values, or empty.  A field that is not given keeps its
  default, a field that is not known or given twice is
  refused.  The first node that does not fit decides, even
  when the document is ill formed further down.
-/

------------------------------------------------------------
-- Faults
------------------------------------------------------------

namespace SafeRerun

/- What does not fit in a well formed document. -/
inductive Misfit where
  /- A value of another kind than the expected one. -/
  | wrongType (found : Text) (expected : String)
  /- A text that does not spell what its tag asks for. -/
  | wrongValue (found : Text) (expected : String)
  /- A field that settings do not have. -/
  | unknownField (name : Text)
  /- A field that is given twice. -/
  | duplicateField (name : Text)
  deriving DecidableEq, Repr

/- Why a document gives no settings. -/
inductive DocumentFault where
  /- It is not one well formed document. -/
  | illFormed
  /- A node of it does not fit, under a field or at the top. -/
  | misfit (field : Text) (mark : Yaml.Mark)
      (what : Misfit)
  deriving DecidableEq, Repr

/- The wording of a misfit. -/
def Misfit.message :
    Misfit → Text
  | .wrongType found expected =>
      Text.ofString "invalid type: " ++ found ++
        Text.ofString ", expected " ++
        Text.ofString expected
  | .wrongValue found expected =>
      Text.ofString "invalid value: string " ++
        found.quoted ++ Text.ofString ", expected " ++
        Text.ofString expected
  | .unknownField name =>
      Text.ofString "unknown field `" ++ name ++
        Text.ofString "`, expected one of " ++
        Text.ofString
          "`migrations_glob`, `exclude`, " ++
        Text.ofString "`lookback_lines`, `max_lookahead`"
  | .duplicateField name =>
      Text.ofString "duplicate field `" ++ name ++
        Text.ofString "`"

/-
  The place of a misfit, counted from one.  The very first
  place of a document is not mentioned.
-/
def placeText
    (mark : Yaml.Mark) :
    Text :=
  if mark.line = 0 ∧ mark.column = 0 then
    []
  else
    Text.ofString " at line " ++
      Text.ofNat (mark.line + 1) ++
      Text.ofString " column " ++
      Text.ofNat (mark.column + 1)

/-
  The wording of a document fault.  That of an ill formed
  document belongs to the parser of documents and is left
  out.
-/
def DocumentFault.message :
    DocumentFault → Text
  | .illFormed => []
  | .misfit field mark what =>
      let path :=
        if field = [] then
          []
        else
          field ++ Text.ofString ": "
      path ++ what.message ++ placeText mark

end SafeRerun

------------------------------------------------------------
-- Nodes as Values
------------------------------------------------------------

namespace SafeRerun

namespace Settings

open Yaml

/-
  The node that stands for a node: an alias stands for the
  anchored node and what follows that one.
-/
def target
    (document : Document)
    (node : Node)
    (rest : List Node) :
    List Node :=
  match node.kind with
  | .alias anchor => document.aliased anchor
  | _ => node :: rest

/- A node that is not what was expected. -/
def unexpected
    (field : Text)
    (expected : String)
    (node : Node) :
    DocumentFault :=
  let wrong (found : Text) : DocumentFault :=
    .misfit field node.mark (.wrongType found expected)
  match node.kind with
  | .scalar tag text style =>
      match scalarValue tag text style with
      | .ok value => wrong value.describe
      | .error kind =>
          .misfit field node.mark (.wrongValue text kind.name)
  | .sequenceStart => wrong (Text.ofString "sequence")
  | .mappingStart => wrong (Text.ofString "map")
  | _ => .illFormed

/- Whether a node is a plain scalar without text. -/
def isEmptyScalar
    (node : Node) :
    Bool :=
  match node.kind with
  | .scalar _ text style => text == [] && style == .plain
  | _ => false

/- The text of a scalar node. -/
def textOf
    (document : Document)
    (field : Text)
    (expected : String)
    (node : Node) :
    Except DocumentFault Text :=
  match target document node [] with
  | [] => .error .illFormed
  | found :: _ =>
      match found.kind with
      | .scalar _ text _ => .ok text
      | _ => .error (unexpected field expected found)

/- The natural number of a scalar node. -/
def naturalOf
    (document : Document)
    (field : Text)
    (node : Node) :
    Except DocumentFault Nat :=
  match target document node [] with
  | [] => .error .illFormed
  | found :: _ =>
      match found.kind with
      | .scalar tag text style =>
          match naturalValue? tag text style with
          | some n => .ok n
          | none => .error (unexpected field "usize" found)
      | _ => .error (unexpected field "usize" found)

/- The path of an element below a field. -/
def elementPath
    (field : Text)
    (index : Nat) :
    Text :=
  field ++ '[' :: Text.ofNat index ++ [']']

/- The texts up to the end of a sequence, and what follows. -/
def textsOf
    (document : Document)
    (field : Text) :
    Nat → List Node → Except DocumentFault
      (List Text × List Node)
  | _, [] => .error .illFormed
  | index, node :: rest =>
      if node.kind = .sequenceEnd then
        .ok ([], rest)
      else
        match
          textOf document (elementPath field index)
            "a string" node
        with
        | .error fault => .error fault
        | .ok text =>
            match textsOf document field (index + 1) rest with
            | .error fault => .error fault
            | .ok (texts, after) =>
                .ok (text :: texts, after)

/-
  The texts of a sequence node, and what follows the node.
  An empty scalar is an empty sequence.
-/
def sequenceOf
    (document : Document)
    (field : Text)
    (node : Node)
    (rest : List Node) :
    Except DocumentFault (List Text × List Node) :=
  match target document node rest with
  | [] => .error .illFormed
  | found :: inside =>
      if found.kind = .sequenceStart then
        match textsOf document field 0 inside with
        | .error fault => .error fault
        | .ok (texts, after) =>
            if found = node then
              .ok (texts, after)
            else
              .ok (texts, rest)
      else if isEmptyScalar found then
        .ok ([], rest)
      else
        .error (unexpected field "a sequence" found)

end Settings

end SafeRerun

------------------------------------------------------------
-- Fields
------------------------------------------------------------

namespace SafeRerun

namespace Settings

open Yaml

/- The fields of settings. -/
inductive Field where
  | pattern
  | exclude
  | lookback
  | lookahead
  deriving DecidableEq, Repr

/- The name of a field in a document. -/
def Field.name :
    Field → Text
  | .pattern => Text.ofString "migrations_glob"
  | .exclude => Text.ofString "exclude"
  | .lookback => Text.ofString "lookback_lines"
  | .lookahead => Text.ofString "max_lookahead"

/- The field with a name. -/
def fieldNamed?
    (name : Text) :
    Option Field :=
  [Field.pattern, .exclude, .lookback, .lookahead].find?
    fun field => field.name == name

/-
  The field a value belongs to, as a message shows it.  A
  key that is not a scalar itself has no name to show.
-/
def shownKey
    (key : Node) :
    Text :=
  match key.kind with
  | .scalar _ text _ => text
  | _ => ['?']

/- The settings with the value of one field, and the rest. -/
def setField
    (document : Document)
    (path : Text)
    (field : Field)
    (settings : Settings)
    (node : Node)
    (rest : List Node) :
    Except DocumentFault (Settings × List Node) :=
  match field with
  | .pattern =>
      (textOf document path "a string" node).map fun t =>
        ({ settings with pattern := t }, rest)
  | .exclude =>
      (sequenceOf document path node rest).map fun r =>
        ({ settings with exclude := r.1 }, r.2)
  | .lookback =>
      (naturalOf document path node).map fun n =>
        ({ settings with lookback := n }, rest)
  | .lookahead =>
      (naturalOf document path node).map fun n =>
        ({ settings with lookahead := n }, rest)

/- The field that a key names. -/
def fieldOf
    (document : Document)
    (key : Node) :
    Except DocumentFault Field :=
  match textOf document [] "field identifier" key with
  | .error fault => .error fault
  | .ok name =>
      match fieldNamed? name with
      | some field => .ok field
      | none =>
          let mark :=
            ((target document key []).head?.getD key).mark
          .error (.misfit [] mark (.unknownField name))

/-
  The settings after the fields up to the end of a mapping.
  Each field takes at least two nodes, so the count of the
  nodes bounds the count of the fields.
-/
def setFields
    (document : Document)
    (opening : Mark) :
    Nat → List Field → Settings → List Node →
      Except DocumentFault Settings
  | 0, _, _, _ => .error .illFormed
  | fuel + 1, given, settings, nodes =>
      match nodes with
      | [] => .error .illFormed
      | key :: rest =>
          if key.kind = .mappingEnd then
            .ok settings
          else
            match fieldOf document key with
            | .error fault => .error fault
            | .ok field =>
                if given.contains field then
                  .error (.misfit [] opening
                    (.duplicateField field.name))
                else
                  match rest with
                  | [] => .error .illFormed
                  | node :: after =>
                      match
                        setField document (shownKey key)
                          field settings node after
                      with
                      | .error fault => .error fault
                      | .ok (changed, left) =>
                          setFields document opening fuel
                            (field :: given) changed left

end Settings

end SafeRerun

------------------------------------------------------------
-- Documents
------------------------------------------------------------

namespace SafeRerun

namespace Settings

open Yaml

/- The settings that the nodes of a document give. -/
def ofNodes
    (document : Document) :
    Except DocumentFault Settings :=
  match document.nodes with
  | [] =>
      if document.sound then
        .ok .default
      else
        .error .illFormed
  | node :: rest =>
      if node.kind = .mappingStart then
        setFields document node.mark document.nodes.length
          [] .default rest
      else if isEmptyScalar node then
        .ok .default
      else
        .error (unexpected [] "struct Config" node)

/- The settings of a document that is well formed. -/
def ofDocument
    (document : Document) :
    Except DocumentFault Settings :=
  match ofNodes document with
  | .error fault => .error fault
  | .ok settings =>
      if document.sound && document.single then
        .ok settings
      else
        .error .illFormed

/- The settings that a text gives. -/
def parse
    (t : Text) :
    Except DocumentFault Settings :=
  ofDocument (documentOf t)

end Settings

end SafeRerun
