import SafeRerun.Yaml.Lexer

/-
  The nodes of a YAML document in the order in which they
  begin and end.

  Key definitions include:
    * `SafeRerun.Yaml.Event`
    * `SafeRerun.Yaml.Reader.next`
    * `SafeRerun.Yaml.eventsOf`

  The tokens of a document are read with a stack of what is
  expected after each node.  Reading stops at the first
  token that is out of place; the events before it remain.
-/

------------------------------------------------------------
-- Events
------------------------------------------------------------

namespace SafeRerun

namespace Yaml

/- What can begin or end. -/
inductive EventKind where
  | streamEnd
  | documentStart
  | documentEnd
  | alias (name : Text)
  | scalar (tag : Option Text) (text : Text)
      (style : ScalarStyle)
  | sequenceStart
  | sequenceEnd
  | mappingStart
  | mappingEnd
  deriving DecidableEq, Repr

/- An event, its anchor if it has one, and its place. -/
structure Event where
  kind : EventKind
  anchor : Option Text
  mark : Mark
  deriving DecidableEq, Repr

/- What is expected next. -/
inductive Expectation where
  | firstDocument
  | laterDocument
  | documentContent
  | documentEnd
  | blockNode
  | blockSequence (first : Bool)
  | indentlessSequence
  | blockKey (first : Bool)
  | blockValue
  | flowSequence (first : Bool)
  | pairKey
  | pairValue
  | pairEnd
  | flowKey (first : Bool)
  | flowValue
  | flowNoValue
  | nothing
  deriving DecidableEq, Repr

/-
  The tokens that are left, what is expected next and after
  the nodes in progress, and the tag shorthands in force.
-/
structure Reader where
  tokens : List Token
  expected : Expectation
  later : List Expectation
  shorthands : List (Text × Text)

end Yaml

end SafeRerun

------------------------------------------------------------
-- Moves of a Reader
------------------------------------------------------------

namespace SafeRerun

namespace Yaml

namespace Reader

/- Past the next token. -/
def skip
    (reader : Reader) :
    Reader :=
  { reader with tokens := reader.tokens.drop 1 }

/- Expecting something else. -/
def expecting
    (e : Expectation)
    (reader : Reader) :
    Reader :=
  { reader with expected := e }

/- Expecting something after the next node. -/
def afterNode
    (e : Expectation)
    (reader : Reader) :
    Reader :=
  { reader with later := e :: reader.later }

/- Expecting what comes after the node that is finished. -/
def resume
    (reader : Reader) :
    Reader :=
  { reader with
    expected := reader.later.head?.getD .nothing
    later := reader.later.drop 1 }

/- An event and the reader after it. -/
abbrev Move : Type :=
  Option (Event × Reader)

/- An event without an anchor. -/
def emit
    (kind : EventKind)
    (mark : Mark)
    (reader : Reader) :
    Move :=
  some (⟨kind, none, mark⟩, reader)

/- An empty scalar where no node stands. -/
def emitEmpty
    (mark : Mark)
    (reader : Reader) :
    Move :=
  reader.emit (.scalar none [] .plain) mark

end Reader

end Yaml

end SafeRerun

------------------------------------------------------------
-- Nodes
------------------------------------------------------------

namespace SafeRerun

namespace Yaml

/- The properties before the content of a node. -/
structure Properties where
  anchor : Option Text
  tag : Option (Text × Text)
  mark : Option Mark

/-
  The anchor and the tag of a node, in either order, and the
  tokens after them.
-/
def readProperties :
    List Token → Properties × List Token
  | ⟨.anchor a, first, _⟩ :: ⟨.tag h s, _, _⟩ :: rest =>
      (⟨some a, some (h, s), some first⟩, rest)
  | ⟨.tag h s, first, _⟩ :: ⟨.anchor a, _, _⟩ :: rest =>
      (⟨some a, some (h, s), some first⟩, rest)
  | ⟨.anchor a, first, _⟩ :: rest =>
      (⟨some a, none, some first⟩, rest)
  | ⟨.tag h s, first, _⟩ :: rest =>
      (⟨none, some (h, s), some first⟩, rest)
  | rest => (⟨none, none, none⟩, rest)

/-
  The full tag, nothing if the handle is not known.  A tag
  that is only a mark means no tag.
-/
def resolveTag
    (shorthands : List (Text × Text))
    (handle suffix : Text) :
    Option Text :=
  if handle == [] then
    some suffix
  else
    (shorthands.lookup handle).map (· ++ suffix)

/- The full tag of a node's properties, if it is in order. -/
def Properties.fullTag
    (shorthands : List (Text × Text))
    (p : Properties) :
    Option (Option Text) :=
  match p.tag with
  | none => some none
  | some (handle, suffix) =>
      (resolveTag shorthands handle suffix).map some

namespace Reader

/-
  The node that begins with the next token.  Block
  collections may stand only in block context, and a
  sequence without indentation only as a value of a mapping.
-/
def node
    (inBlock indentless : Bool)
    (reader : Reader) :
    Move :=
  match reader.tokens with
  | [] => none
  | ⟨.alias name, mark, _⟩ :: _ =>
      reader.skip.resume.emit (.alias name) mark
  | _ =>
      let (properties, rest) := readProperties reader.tokens
      match rest, properties.fullTag reader.shorthands with
      | [], _ => none
      | _, none => none
      | token :: _, some tag =>
          let here := { reader with tokens := rest }
          let mark := properties.mark.getD token.first
          let opened (kind : EventKind) (e : Expectation) :
              Move :=
            some (⟨kind, properties.anchor, mark⟩,
              here.expecting e)
          match token.kind with
          | .scalar text style =>
              some (⟨.scalar tag text style,
                properties.anchor, mark⟩, here.skip.resume)
          | .flowSequenceStart =>
              opened .sequenceStart (.flowSequence true)
          | .flowMappingStart =>
              opened .mappingStart (.flowKey true)
          | kind =>
              if indentless && kind == .blockEntry then
                opened .sequenceStart .indentlessSequence
              else if
                  inBlock && kind == .blockSequenceStart
                then
                opened .sequenceStart (.blockSequence true)
              else if
                  inBlock && kind == .blockMappingStart
                then
                opened .mappingStart (.blockKey true)
              else if properties.mark.isSome then
                some (⟨.scalar tag [] .plain,
                  properties.anchor, mark⟩, here.resume)
              else
                none

end Reader

end Yaml

end SafeRerun

------------------------------------------------------------
-- Documents
------------------------------------------------------------

namespace SafeRerun

namespace Yaml

/- The shorthands of a document that declares none. -/
def standardShorthands :
    List (Text × Text) :=
  [(['!'], ['!']),
   (['!', '!'], Text.ofString "tag:yaml.org,2002:")]

/-
  The directives before a document: the shorthands they
  declare and the tokens after them.  A version must be one
  that is known, and nothing may be declared twice.
-/
def readDirectives :
    Bool → List (Text × Text) → List Token →
      Option (List (Text × Text) × List Token)
  | versioned, declared, ⟨.version major minor, _, _⟩ :: rest =>
      if versioned || major != 1 ||
          (minor != 1 && minor != 2) then
        none
      else
        readDirectives true declared rest
  | versioned, declared, ⟨.tagShorthand h l, _, _⟩ :: rest =>
      if (declared.lookup h).isSome then
        none
      else
        readDirectives versioned (declared ++ [(h, l)]) rest
  | _, declared, rest => some (declared, rest)

namespace Reader

/- The document that begins with its own line. -/
def explicitDocument
    (reader : Reader) :
    Move :=
  match readDirectives false [] reader.tokens with
  | none => none
  | some (declared, rest) =>
      match rest, reader.tokens with
      | ⟨.documentStart, _, _⟩ :: after, token :: _ =>
          let begun : Reader :=
            { tokens := after
              expected := .documentContent
              later := .documentEnd :: reader.later
              shorthands := declared ++ standardShorthands }
          begun.emit .documentStart token.first
      | _, _ => none

/- The next document, or the end. -/
def document
    (isFirst : Bool)
    (reader : Reader) :
    Move :=
  let here :=
    if isFirst then
      reader
    else
      { reader with
        tokens :=
          reader.tokens.dropWhile fun t =>
            t.kind == .documentEnd }
  match here.tokens with
  | [] => none
  | token :: _ =>
      match token.kind with
      | .streamEnd =>
          (here.skip.expecting .nothing).emit .streamEnd
            token.first
      | .version _ _ => here.explicitDocument
      | .tagShorthand _ _ => here.explicitDocument
      | .documentStart => here.explicitDocument
      | _ =>
          if isFirst then
            let begun : Reader :=
              { tokens := here.tokens
                expected := .blockNode
                later := .documentEnd :: here.later
                shorthands := standardShorthands }
            begun.emit .documentStart token.first
          else
            here.explicitDocument

/- Whether a token ends a document that holds nothing. -/
def endsContent :
    TokenKind → Bool
  | .version _ _ => true
  | .tagShorthand _ _ => true
  | .documentStart => true
  | .documentEnd => true
  | .streamEnd => true
  | _ => false

/- The content of a document with a line of its own. -/
def content
    (reader : Reader) :
    Move :=
  match reader.tokens with
  | [] => none
  | token :: _ =>
      if endsContent token.kind then
        reader.resume.emitEmpty token.first
      else
        reader.node true false

/- The end of a document. -/
def endDocument
    (reader : Reader) :
    Move :=
  match reader.tokens with
  | [] => none
  | token :: _ =>
      let here :=
        if token.kind == .documentEnd then
          reader.skip
        else
          reader
      (here.expecting .laterDocument).emit .documentEnd
        token.first

end Reader

end Yaml

end SafeRerun

------------------------------------------------------------
-- Block Collections
------------------------------------------------------------

namespace SafeRerun

namespace Yaml

namespace Reader

/- Past the token that opened a collection. -/
def enter
    (first : Bool)
    (reader : Reader) :
    Reader :=
  if first then reader.skip else reader

/-
  A node after an indicator, or an empty scalar where one of
  the given tokens follows at once.
-/
def nodeOrEmpty
    (indentless : Bool)
    (empty : TokenKind → Bool)
    (e : Expectation)
    (reader : Reader) :
    Move :=
  match reader.tokens with
  | [] => none
  | token :: _ =>
      let here := reader.skip
      match here.tokens with
      | [] => none
      | next :: _ =>
          if empty next.kind then
            (here.expecting e).emitEmpty token.last
          else
            (here.afterNode e).node true indentless

/- The end of a collection that has a token of its own. -/
def close
    (kind : EventKind)
    (mark : Mark)
    (reader : Reader) :
    Move :=
  reader.skip.resume.emit kind mark

/- The next entry of a block sequence, or its end. -/
def blockSequence
    (first : Bool)
    (reader : Reader) :
    Move :=
  let here := reader.enter first
  match here.tokens with
  | [] => none
  | token :: _ =>
      if token.kind == .blockEntry then
        here.nodeOrEmpty false
          (fun k => k == .blockEntry || k == .blockEnd)
          (.blockSequence false)
      else if token.kind == .blockEnd then
        here.close .sequenceEnd token.first
      else
        none

/- The next entry of a sequence that is not indented. -/
def indentlessSequence
    (reader : Reader) :
    Move :=
  match reader.tokens with
  | [] => none
  | token :: _ =>
      if token.kind == .blockEntry then
        reader.nodeOrEmpty false
          (fun k =>
            k == .blockEntry || k == .key || k == .value ||
              k == .blockEnd)
          .indentlessSequence
      else
        reader.resume.emit .sequenceEnd token.first

/- Tokens that show that a key or a value is empty. -/
def endsPair
    (k : TokenKind) :
    Bool :=
  k == .key || k == .value || k == .blockEnd

/- The next key of a block mapping, or its end. -/
def blockKey
    (first : Bool)
    (reader : Reader) :
    Move :=
  let here := reader.enter first
  match here.tokens with
  | [] => none
  | token :: _ =>
      if token.kind == .key then
        here.nodeOrEmpty true endsPair .blockValue
      else if token.kind == .blockEnd then
        here.close .mappingEnd token.first
      else
        none

/- The value of a key of a block mapping. -/
def blockValue
    (reader : Reader) :
    Move :=
  match reader.tokens with
  | [] => none
  | token :: _ =>
      if token.kind == .value then
        reader.nodeOrEmpty true endsPair (.blockKey false)
      else
        (reader.expecting (.blockKey false)).emitEmpty
          token.first

end Reader

end Yaml

end SafeRerun

------------------------------------------------------------
-- Flow Collections
------------------------------------------------------------

namespace SafeRerun

namespace Yaml

namespace Reader

/- Past the comma before every entry but the first. -/
def flowEntry
    (first : Bool)
    (ending : TokenKind)
    (reader : Reader) :
    Option Reader :=
  let here := reader.enter first
  match here.tokens with
  | [] => none
  | token :: _ =>
      if first || token.kind == ending then
        some here
      else if token.kind == .flowEntry then
        some here.skip
      else
        none

/- A node of a flow collection. -/
def flowNode
    (e : Expectation)
    (reader : Reader) :
    Move :=
  (reader.afterNode e).node false false

/- The next entry of a flow sequence, or its end. -/
def flowSequence
    (first : Bool)
    (reader : Reader) :
    Move :=
  match reader.flowEntry first .flowSequenceEnd with
  | none => none
  | some here =>
      match here.tokens with
      | [] => none
      | token :: _ =>
          if token.kind == .flowSequenceEnd then
            here.close .sequenceEnd token.first
          else if token.kind == .key then
            (here.skip.expecting .pairKey).emit
              .mappingStart token.first
          else
            here.flowNode (.flowSequence false)

/- Tokens that end a pair inside a flow sequence. -/
def endsFlowPair
    (k : TokenKind) :
    Bool :=
  k == .flowEntry || k == .flowSequenceEnd

/- The key of a pair inside a flow sequence. -/
def pairKey
    (reader : Reader) :
    Move :=
  match reader.tokens with
  | [] => none
  | token :: _ =>
      if token.kind == .value || endsFlowPair token.kind then
        (reader.skip.expecting .pairValue).emitEmpty
          token.last
      else
        reader.flowNode .pairValue

/- The value of a pair inside a flow sequence. -/
def pairValue
    (reader : Reader) :
    Move :=
  match reader.tokens with
  | [] => none
  | token :: _ =>
      if token.kind == .value then
        match reader.skip.tokens with
        | [] => none
        | next :: _ =>
            if endsFlowPair next.kind then
              (reader.skip.expecting .pairEnd).emitEmpty
                next.first
            else
              reader.skip.flowNode .pairEnd
      else
        (reader.expecting .pairEnd).emitEmpty token.first

/- The end of a pair inside a flow sequence. -/
def pairEnd
    (reader : Reader) :
    Move :=
  match reader.tokens with
  | [] => none
  | token :: _ =>
      (reader.expecting (.flowSequence false)).emit
        .mappingEnd token.first

/- Tokens that end an entry of a flow mapping. -/
def endsFlowEntry
    (k : TokenKind) :
    Bool :=
  k == .flowEntry || k == .flowMappingEnd

/- The next key of a flow mapping, or its end. -/
def flowKey
    (first : Bool)
    (reader : Reader) :
    Move :=
  match reader.flowEntry first .flowMappingEnd with
  | none => none
  | some here =>
      match here.tokens with
      | [] => none
      | token :: _ =>
          if token.kind == .flowMappingEnd then
            here.close .mappingEnd token.first
          else if token.kind == .key then
            match here.skip.tokens with
            | [] => none
            | next :: _ =>
                if next.kind == .value ||
                    endsFlowEntry next.kind then
                  (here.skip.expecting .flowValue).emitEmpty
                    next.first
                else
                  here.skip.flowNode .flowValue
          else
            here.flowNode .flowNoValue

/- The value of a key of a flow mapping. -/
def flowValue
    (reader : Reader) :
    Move :=
  match reader.tokens with
  | [] => none
  | token :: _ =>
      if token.kind == .value then
        match reader.skip.tokens with
        | [] => none
        | next :: _ =>
            if endsFlowEntry next.kind then
              (reader.skip.expecting
                (.flowKey false)).emitEmpty next.first
            else
              reader.skip.flowNode (.flowKey false)
      else
        (reader.expecting (.flowKey false)).emitEmpty
          token.first

/- The empty value of a node that stands alone. -/
def flowNoValue
    (reader : Reader) :
    Move :=
  match reader.tokens with
  | [] => none
  | token :: _ =>
      (reader.expecting (.flowKey false)).emitEmpty
        token.first

end Reader

end Yaml

end SafeRerun

------------------------------------------------------------
-- All Events
------------------------------------------------------------

namespace SafeRerun

namespace Yaml

namespace Reader

/- The reader at the first token after the stream start. -/
def start
    (tokens : List Token) :
    Reader :=
  ⟨tokens.drop 1, .firstDocument, [], []⟩

/- The next event, if the next token is in place. -/
def next
    (reader : Reader) :
    Move :=
  match reader.expected with
  | .firstDocument => reader.document true
  | .laterDocument => reader.document false
  | .documentContent => reader.content
  | .documentEnd => reader.endDocument
  | .blockNode => reader.node true false
  | .blockSequence first => reader.blockSequence first
  | .indentlessSequence => reader.indentlessSequence
  | .blockKey first => reader.blockKey first
  | .blockValue => reader.blockValue
  | .flowSequence first => reader.flowSequence first
  | .pairKey => reader.pairKey
  | .pairValue => reader.pairValue
  | .pairEnd => reader.pairEnd
  | .flowKey first => reader.flowKey first
  | .flowValue => reader.flowValue
  | .flowNoValue => reader.flowNoValue
  | .nothing => none

/- The events of at most the given number of moves. -/
def events :
    Nat → Reader → List Event
  | 0, _ => []
  | fuel + 1, reader =>
      match reader.next with
      | none => []
      | some (event, after) => event :: events fuel after

end Reader

/-
  The events of a document as far as it is well formed.  A
  token gives rise to at most two events, and the empty
  scalars between tokens to less than that again.
-/
def eventsOf
    (t : Text) :
    List Event :=
  let tokens := (tokenize t).tokens
  (Reader.start tokens).events (4 * tokens.length + 4)

end Yaml

end SafeRerun
