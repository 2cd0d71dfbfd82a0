import SafeRerun.Yaml.Token

/-
  Dividing a YAML document into tokens.

  Key definitions include:
    * `SafeRerun.Yaml.PossibleKey`
    * `SafeRerun.Yaml.Lexer`
    * `SafeRerun.Yaml.Lexer.fetch`
    * `SafeRerun.Yaml.tokenize`

  Whether a node is the key of a mapping shows only at the
  colon after it.  Until then its place is kept as that of a
  possible key, and the tokens from there on are held back.
  When the document turns out to be ill formed, the tokens
  that were not held back still count.
-/

------------------------------------------------------------
-- State
------------------------------------------------------------

namespace SafeRerun

namespace Yaml

/-
  The place of a node that may turn out to be a key, and the
  number its first token has.
-/
structure PossibleKey where
  required : Bool
  number : Nat
  mark : Mark

/-
  What is known on the way through a document: the tokens so
  far, the indentation with the ones around it, whether a
  key may stand here, and the possible key of each
  collection from the innermost flow collection outwards.
-/
structure Lexer where
  cursor : Cursor
  tokens : List Token
  indent : Int
  indents : List Int
  keyAllowed : Bool
  keys : List (Option PossibleKey)
  flowLevel : Nat

namespace Lexer

/- The state at the beginning of a document. -/
def start
    (t : Text) :
    Lexer :=
  { cursor := .start t
    tokens := [⟨.streamStart, ⟨0, 0, 0⟩, ⟨0, 0, 0⟩⟩]
    indent := -1
    indents := []
    keyAllowed := true
    keys := [none]
    flowLevel := 0 }

/- Whether the place is inside a flow collection. -/
def inFlow
    (lexer : Lexer) :
    Bool :=
  lexer.flowLevel != 0

/- One more token at the end. -/
def push
    (kind : TokenKind)
    (first last : Mark)
    (lexer : Lexer) :
    Lexer :=
  { lexer with
    tokens := lexer.tokens ++ [⟨kind, first, last⟩] }

/- One more token that no character spells. -/
def insertAt
    (number : Nat)
    (kind : TokenKind)
    (mark : Mark)
    (lexer : Lexer) :
    Lexer :=
  { lexer with
    tokens :=
      lexer.tokens.take number ++
        ⟨kind, mark, mark⟩ :: lexer.tokens.drop number }

/- The tokens that are not held back by a possible key. -/
def settled
    (lexer : Lexer) :
    List Token :=
  let held :=
    (lexer.keys.filterMap id).map PossibleKey.number
  lexer.tokens.take (held.foldl min lexer.tokens.length)

end Lexer

end Yaml

end SafeRerun

------------------------------------------------------------
-- Possible Keys
------------------------------------------------------------

namespace SafeRerun

namespace Yaml

namespace Lexer

/-
  Whether a possible key can no longer be one: a key ends on
  its line and within 1024 octets.
-/
def isStale
    (here : Mark)
    (key : PossibleKey) :
    Bool :=
  decide (key.mark.line < here.line) ||
    decide (key.mark.index + 1024 < here.index)

/-
  Forgets the possible keys that are stale.  Where one of
  them had to be a key, the document is ill formed.
-/
def dropStale
    (lexer : Lexer) :
    Option Lexer :=
  let stale (key? : Option PossibleKey) : Bool :=
    key?.any (isStale lexer.cursor.mark)
  if lexer.keys.any fun k => stale k && k.any (·.required)
  then
    none
  else
    some { lexer with
      keys :=
        lexer.keys.map fun k => if stale k then none else k }

/-
  Forgets the possible key of the innermost collection.
  Where it had to be a key, the document is ill formed.
-/
def dropKey
    (lexer : Lexer) :
    Option Lexer :=
  match lexer.keys with
  | [] => some lexer
  | key? :: rest =>
      if key?.any (·.required) then
        none
      else
        some { lexer with keys := none :: rest }

/-
  Keeps the place as that of a possible key.  In block
  context a node at the indentation has to be a key.
-/
def saveKey
    (lexer : Lexer) :
    Option Lexer :=
  if lexer.keyAllowed then
    match lexer.dropKey with
    | none => none
    | some cleared =>
        some { cleared with
          keys :=
            some
              { required :=
                  !lexer.inFlow &&
                    lexer.indent ==
                      (lexer.cursor.mark.column : Int)
                number := lexer.tokens.length
                mark := lexer.cursor.mark } ::
              cleared.keys.drop 1 }
  else
    some lexer

end Lexer

end Yaml

end SafeRerun

------------------------------------------------------------
-- Indentation
------------------------------------------------------------

namespace SafeRerun

namespace Yaml

namespace Lexer

/-
  Opens a block collection when the column lies deeper than
  the indentation.
-/
def openBlock
    (column : Nat)
    (number : Nat)
    (kind : TokenKind)
    (mark : Mark)
    (lexer : Lexer) :
    Lexer :=
  if !lexer.inFlow && lexer.indent < (column : Int) then
    { lexer.insertAt number kind mark with
      indent := column
      indents := lexer.indent :: lexer.indents }
  else
    lexer

/- The indentations that remain left of a column. -/
def outerIndents
    (column : Int) :
    Int → List Int → Nat × Int × List Int
  | indent, [] => (0, indent, [])
  | indent, outer :: rest =>
      if column < indent then
        let (closed, left) := outerIndents column outer rest
        (closed + 1, left)
      else
        (0, indent, outer :: rest)

/-
  Closes the block collections that lie deeper than the
  column.
-/
def closeBlocks
    (column : Int)
    (lexer : Lexer) :
    Lexer :=
  if lexer.inFlow then
    lexer
  else
    let (closed, indent, indents) :=
      outerIndents column lexer.indent lexer.indents
    let mark := lexer.cursor.mark
    { lexer with
      tokens :=
        lexer.tokens ++
          List.replicate closed ⟨.blockEnd, mark, mark⟩
      indent := indent
      indents := indents }

end Lexer

end Yaml

end SafeRerun

------------------------------------------------------------
-- Between Tokens
------------------------------------------------------------

namespace SafeRerun

namespace Yaml

namespace Lexer

/-
  Past blanks, comments and line ends.  In block context a
  tab does not count as a blank where a key may stand, and a
  key may stand on every new line.
-/
def skipToToken :
    Nat → Lexer → Lexer
  | 0, lexer => lexer
  | fuel + 1, lexer =>
      let unmarked :=
        if lexer.cursor.mark.column == 0 &&
            lexer.cursor.sees (Char.ofNat 0xFEFF) then
          lexer.cursor.advance 1
        else
          lexer.cursor
      let tabs := lexer.inFlow || !lexer.keyAllowed
      let here :=
        (unmarked.skip fun c =>
          c == ' ' || (tabs && c == '\t')).skipComment
      if here.seesAny isBreak then
        skipToToken fuel
          { lexer with
            cursor := here.advanceLine
            keyAllowed := lexer.keyAllowed || !lexer.inFlow }
      else
        { lexer with cursor := here }

end Lexer

end Yaml

end SafeRerun

------------------------------------------------------------
-- Fetching One Token
------------------------------------------------------------

namespace SafeRerun

namespace Yaml

namespace Lexer

/- One more token of the given width. -/
def take
    (kind : TokenKind)
    (width : Nat)
    (lexer : Lexer) :
    Lexer :=
  let after := lexer.cursor.advance width
  { lexer.push kind lexer.cursor.mark after.mark with
    cursor := after }

/- The end of the document. -/
def fetchEnd
    (lexer : Lexer) :
    Option Lexer :=
  let mark := lexer.cursor.mark
  let ended :=
    if mark.column == 0 then
      mark
    else
      { mark with line := mark.line + 1, column := 0 }
  let atEnd :=
    { lexer with cursor := ⟨lexer.cursor.rest, ended⟩ }
  ((atEnd.closeBlocks (-1)).dropKey).map fun cleared =>
    ({ cleared with keyAllowed := false }).push .streamEnd
      ended ended

/- A directive. -/
def fetchDirective
    (lexer : Lexer) :
    Option Lexer :=
  match (lexer.closeBlocks (-1)).dropKey with
  | none => none
  | some cleared =>
      (readDirective lexer.cursor).map fun r =>
        { cleared.push r.1 lexer.cursor.mark r.2.1.mark with
          keyAllowed := false
          cursor := r.2.2 }

/- A line that separates documents. -/
def fetchDocumentLine
    (kind : TokenKind)
    (lexer : Lexer) :
    Option Lexer :=
  ((lexer.closeBlocks (-1)).dropKey).map fun cleared =>
    ({ cleared with keyAllowed := false }).take kind 3

/- The beginning of a flow collection. -/
def fetchFlowStart
    (kind : TokenKind)
    (lexer : Lexer) :
    Option Lexer :=
  lexer.saveKey.map fun saved =>
    ({ saved with
        keys := none :: saved.keys
        flowLevel := saved.flowLevel + 1
        keyAllowed := true }).take kind 1

/- The end of a flow collection. -/
def fetchFlowEnd
    (kind : TokenKind)
    (lexer : Lexer) :
    Option Lexer :=
  lexer.dropKey.map fun cleared =>
    let outer :=
      if cleared.inFlow then
        { cleared with
          keys := cleared.keys.drop 1
          flowLevel := cleared.flowLevel - 1 }
      else
        cleared
    ({ outer with keyAllowed := false }).take kind 1

/- The comma of a flow collection. -/
def fetchFlowEntry
    (lexer : Lexer) :
    Option Lexer :=
  lexer.dropKey.map fun cleared =>
    ({ cleared with keyAllowed := true }).take .flowEntry 1

/- The hyphen of a block sequence. -/
def fetchBlockEntry
    (lexer : Lexer) :
    Option Lexer :=
  if !lexer.inFlow && !lexer.keyAllowed then
    none
  else
    let mark := lexer.cursor.mark
    let opened :=
      lexer.openBlock mark.column lexer.tokens.length
        .blockSequenceStart mark
    opened.dropKey.map fun cleared =>
      ({ cleared with keyAllowed := true }).take .blockEntry
        1

/- The question mark before a key. -/
def fetchKey
    (lexer : Lexer) :
    Option Lexer :=
  if !lexer.inFlow && !lexer.keyAllowed then
    none
  else
    let mark := lexer.cursor.mark
    let opened :=
      lexer.openBlock mark.column lexer.tokens.length
        .blockMappingStart mark
    opened.dropKey.map fun cleared =>
      ({ cleared with keyAllowed := !lexer.inFlow }).take
        .key 1

/-
  The colon before a value.  A possible key becomes a key,
  and in block context perhaps the first of a mapping.
-/
def fetchValue
    (lexer : Lexer) :
    Option Lexer :=
  match lexer.keys with
  | some key :: outer =>
      let keyed := lexer.insertAt key.number .key key.mark
      let opened :=
        keyed.openBlock key.mark.column key.number
          .blockMappingStart key.mark
      some
        (({ opened with
            keys := none :: outer
            keyAllowed := false }).take .value 1)
  | _ =>
      if !lexer.inFlow && !lexer.keyAllowed then
        none
      else
        let mark := lexer.cursor.mark
        let opened :=
          lexer.openBlock mark.column lexer.tokens.length
            .blockMappingStart mark
        some
          (({ opened with keyAllowed := !lexer.inFlow }).take
            .value 1)

/- A token that may begin a key, as its reader returns it. -/
def fetchNode
    (read : Cursor → Option (TokenKind × Cursor))
    (lexer : Lexer) :
    Option Lexer :=
  match lexer.saveKey with
  | none => none
  | some saved =>
      (read lexer.cursor).map fun r =>
        { saved.push r.1 lexer.cursor.mark r.2.mark with
          cursor := r.2
          keyAllowed := false }

/- A block scalar. -/
def fetchBlockScalar
    (literal : Bool)
    (lexer : Lexer) :
    Option Lexer :=
  match lexer.dropKey with
  | none => none
  | some cleared =>
      (readBlock literal lexer.indent lexer.cursor).map
        fun r =>
          let style : ScalarStyle :=
            if literal then .literal else .folded
          { cleared.push (.scalar r.1 style)
              lexer.cursor.mark r.2.mark with
            cursor := r.2
            keyAllowed := true }

/- A plain scalar.  After a line end a key may follow. -/
def fetchPlain
    (lexer : Lexer) :
    Option Lexer :=
  match lexer.saveKey with
  | none => none
  | some saved =>
      (readPlain lexer.inFlow (lexer.indent + 1).toNat
        lexer.cursor).map fun r =>
          { saved.push (.scalar r.text .plain)
              lexer.cursor.mark r.after.mark with
            cursor := r.after
            keyAllowed := r.endsBroken }

/- Whether a plain scalar may begin with the character. -/
def beginsPlain
    (lexer : Lexer)
    (c : Char) :
    Bool :=
  let special :=
    ['-', '?', ':', ',', '[', ']', '\x7b', '\x7d', '#', '&',
     '*', '!', '|', '>', '\'', '"', '%', '@', '\x60']
  let after := lexer.cursor.rest.drop 1
  (!isGap c && !special.contains c) ||
    (c == '-' && !(after.head?.any isSpacing)) ||
    (!lexer.inFlow && (c == '?' || c == ':') &&
      !lexer.cursor.gapAfter 1)

/- The token that begins with the next character. -/
def fetchAt
    (c : Char)
    (lexer : Lexer) :
    Option Lexer :=
  let here := lexer.cursor
  if here.mark.column == 0 && c == '%' then
    lexer.fetchDirective
  else if here.atDocumentLine '-' then
    lexer.fetchDocumentLine .documentStart
  else if here.atDocumentLine '.' then
    lexer.fetchDocumentLine .documentEnd
  else if c == '[' then
    lexer.fetchFlowStart .flowSequenceStart
  else if c == '\x7b' then
    lexer.fetchFlowStart .flowMappingStart
  else if c == ']' then
    lexer.fetchFlowEnd .flowSequenceEnd
  else if c == '\x7d' then
    lexer.fetchFlowEnd .flowMappingEnd
  else if c == ',' then
    lexer.fetchFlowEntry
  else if c == '-' && here.gapAfter 1 then
    lexer.fetchBlockEntry
  else if c == '?' && (lexer.inFlow || here.gapAfter 1) then
    lexer.fetchKey
  else if c == ':' && (lexer.inFlow || here.gapAfter 1) then
    lexer.fetchValue
  else if c == '*' then
    lexer.fetchNode fun place =>
      (readAnchor place).map fun r => (.alias r.1, r.2)
  else if c == '&' then
    lexer.fetchNode fun place =>
      (readAnchor place).map fun r => (.anchor r.1, r.2)
  else if c == '!' then
    lexer.fetchNode fun place =>
      (readTag lexer.inFlow place).map fun r =>
        (.tag r.1 r.2.1, r.2.2)
  else if c == '|' && !lexer.inFlow then
    lexer.fetchBlockScalar true
  else if c == '>' && !lexer.inFlow then
    lexer.fetchBlockScalar false
  else if c == '\'' then
    lexer.fetchNode fun place =>
      (readQuoted true place).map fun r =>
        (.scalar r.1 .singleQuoted, r.2)
  else if c == '"' then
    lexer.fetchNode fun place =>
      (readQuoted false place).map fun r =>
        (.scalar r.1 .doubleQuoted, r.2)
  else if lexer.beginsPlain c then
    lexer.fetchPlain
  else
    none

/- The state after the next token, and whether it ends. -/
def fetch
    (lexer : Lexer) :
    Option (Bool × Lexer) :=
  let here :=
    lexer.skipToToken (lexer.cursor.rest.length + 1)
  match here.dropStale with
  | none => none
  | some fresh =>
      let level :=
        fresh.closeBlocks (fresh.cursor.mark.column : Int)
      match level.cursor.rest with
      | [] => level.fetchEnd.map fun l => (true, l)
      | c :: _ => (level.fetchAt c).map fun l => (false, l)

end Lexer

end Yaml

end SafeRerun

------------------------------------------------------------
-- Whole Documents
------------------------------------------------------------

namespace SafeRerun

namespace Yaml

/- Tokens, and whether they are all of the document. -/
structure Tokens where
  tokens : List Token
  complete : Bool

/- The octets of a document that are read at a time. -/
def portionSize :
    Nat :=
  16384

/-
  Where the first portion with a character that is not
  allowed begins, if there is one.  The text stands at the
  index `here`, in the portion that begins at `start`; a
  character that does not fit begins the next portion.
-/
def faultyPortion?
    (start here : Nat) :
    Text → Option Nat
  | [] => none
  | c :: rest =>
      let next := here + c.utf8Size
      let first :=
        if start + portionSize < next then here else start
      if isAllowed c then
        faultyPortion? first next rest
      else
        some first

/-
  Whether a reader gets to a place.  It sees up to four
  characters ahead, and none of a faulty portion.
-/
def reaches
    (faulty : Option Nat)
    (mark : Mark) :
    Bool :=
  match faulty with
  | none => true
  | some start => decide (mark.index + 4 ≤ start)

/- The tokens from a state on, before any faulty portion. -/
def tokenizeFrom
    (faulty : Option Nat) :
    Nat → Lexer → Tokens
  | 0, lexer => ⟨lexer.settled, false⟩
  | fuel + 1, lexer =>
      match lexer.fetch with
      | none => ⟨lexer.settled, false⟩
      | some (ended, after) =>
          match after.dropStale with
          | none => ⟨lexer.settled, false⟩
          | some fresh =>
              if !reaches faulty fresh.cursor.mark then
                ⟨lexer.settled, false⟩
              else if ended then
                ⟨fresh.tokens, true⟩
              else
                tokenizeFrom faulty fuel fresh

/-
  The tokens of a document, which is read portion by
  portion.
-/
def tokenize
    (t : Text) :
    Tokens :=
  tokenizeFrom (faultyPortion? 0 0 t) (t.length + 2)
    (.start t)

end Yaml

end SafeRerun
