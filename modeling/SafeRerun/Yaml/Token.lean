import SafeRerun.Yaml.Scalar

/-
  Tokens of a YAML document, and readers for those that are
  not scalars.

  Key definitions include:
    * `SafeRerun.Yaml.Token`
    * `SafeRerun.Yaml.readAnchor`
    * `SafeRerun.Yaml.readTag`
    * `SafeRerun.Yaml.readDirective`

  A reader returns nothing where the document breaks the
  rules.  Beginnings and ends of block collections are
  tokens of their own although no character spells them.
-/

------------------------------------------------------------
-- Tokens
------------------------------------------------------------

namespace SafeRerun

namespace Yaml

/- The kinds of tokens. -/
inductive TokenKind where
  | streamStart
  | streamEnd
  | version (major minor : Nat)
  | tagShorthand (handle lead : Text)
  | documentStart
  | documentEnd
  | blockSequenceStart
  | blockMappingStart
  | blockEnd
  | flowSequenceStart
  | flowSequenceEnd
  | flowMappingStart
  | flowMappingEnd
  | blockEntry
  | flowEntry
  | key
  | value
  | alias (name : Text)
  | anchor (name : Text)
  | tag (handle suffix : Text)
  | scalar (text : Text) (style : ScalarStyle)
  deriving DecidableEq, Repr

/- A token and the places where it begins and ends. -/
structure Token where
  kind : TokenKind
  first : Mark
  last : Mark
  deriving DecidableEq, Repr

end Yaml

end SafeRerun

------------------------------------------------------------
-- Anchors and Aliases
------------------------------------------------------------

namespace SafeRerun

namespace Yaml

/- Marks that may follow the name of an anchor directly. -/
def endsAnchor
    (c : Char) :
    Bool :=
  isGap c || c == '?' || c == ':' || c == ',' || c == ']' ||
    c == '\x7d' || c == '%' || c == '@' || c == '\x60'

/- The name of an anchor or an alias, after its mark. -/
def readAnchor
    (cursor : Cursor) :
    Option (Text × Cursor) :=
  let here := cursor.advance 1
  let name := here.run isIdentifier
  let after := here.advance name.length
  if name == [] then
    none
  else if (after.peek?.map endsAnchor).getD true then
    some (name, after)
  else
    none

end Yaml

end SafeRerun

------------------------------------------------------------
-- Tags
------------------------------------------------------------

namespace SafeRerun

namespace Yaml

/- Characters that a tag may hold. -/
def isTagChar
    (verbatim : Bool)
    (c : Char) :
    Bool :=
  isIdentifier c ||
    [';', '/', '?', ':', '@', '&', '=', '+', '$', '.', '%',
     '!', '~', '*', '\'', '(', ')'].contains c ||
    (verbatim && (c == ',' || c == '[' || c == ']'))

/- The octet that a percent sign and two digits write. -/
def readOctet :
    Text → Option (Nat × Text)
  | '%' :: a :: b :: rest =>
      match hexValue? a, hexValue? b with
      | some x, some y => some (x * 16 + y, rest)
      | _, _ => none
  | _ => none

/- The number of octets after a leading one, if it leads. -/
def octetsAfter?
    (octet : Nat) :
    Option Nat :=
  if octet < 0x80 then
    some 0
  else if 0xC0 ≤ octet ∧ octet < 0xE0 then
    some 1
  else if 0xE0 ≤ octet ∧ octet < 0xF0 then
    some 2
  else if 0xF0 ≤ octet ∧ octet < 0xF8 then
    some 3
  else
    none

/- Octets that continue a character. -/
def readMoreOctets :
    Nat → Text → Option (Text × Text)
  | 0, t => some ([], t)
  | count + 1, t =>
      match readOctet t with
      | none => none
      | some (octet, rest) =>
          if 0x80 ≤ octet ∧ octet < 0xC0 then
            (readMoreOctets count rest).map fun r =>
              (Char.ofNat octet :: r.1, r.2)
          else
            none

/- The octets of one escaped character. -/
def readEscapedOctets
    (t : Text) :
    Option (Text × Text) :=
  match readOctet t with
  | none => none
  | some (octet, rest) =>
      match octetsAfter? octet with
      | none => none
      | some count =>
          (readMoreOctets count rest).map fun r =>
            (Char.ofNat octet :: r.1, r.2)

/-
  The characters of a tag that begin a text, and what
  follows them.  Escaped octets stand for themselves.
-/
def readTagChars
    (verbatim : Bool) :
    Nat → Text → Option (Text × Text)
  | 0, t => some ([], t)
  | fuel + 1, t =>
      match t with
      | [] => some ([], [])
      | c :: rest =>
          if !isTagChar verbatim c then
            some ([], t)
          else if c == '%' then
            match readEscapedOctets t with
            | none => none
            | some (octets, after) =>
                (readTagChars verbatim fuel after).map
                  fun r => (octets ++ r.1, r.2)
          else
            (readTagChars verbatim fuel rest).map fun r =>
              (c :: r.1, r.2)

/- A null octet ends the spelling of a tag. -/
def untilNull
    (spelling : Text) :
    Text :=
  spelling.takeWhile fun c => c.toNat != 0

/-
  The spelling of the tag that stands here.  Something must
  stand here, unless the tag has begun before.
-/
def readTagText
    (verbatim begun : Bool)
    (cursor : Cursor) :
    Option (Text × Cursor) :=
  match
    readTagChars verbatim cursor.rest.length cursor.rest
  with
  | none => none
  | some (text, rest) =>
      let width := cursor.rest.length - rest.length
      if width == 0 && !begun then
        none
      else
        some (untilNull text, cursor.advance width)

/- A handle: a mark, and perhaps a name and a mark. -/
def readHandle
    (cursor : Cursor) :
    Option (Text × Cursor) :=
  if cursor.sees '!' then
    let here := cursor.advance 1
    let name := here.run isIdentifier
    let after := here.advance name.length
    if after.sees '!' then
      some ('!' :: name ++ ['!'], after.advance 1)
    else
      some ('!' :: name, after)
  else
    none

/- Whether a text is a handle with a mark at both ends. -/
def isFullHandle
    (handle : Text) :
    Bool :=
  decide (2 ≤ handle.length) &&
    handle.getLast? == some '!'

/- The handle and the suffix of a tag, wherever it ends. -/
def readTagParts
    (cursor : Cursor) :
    Option (Text × Text × Cursor) :=
  if (cursor.advance 1).sees '<' then
    match readTagText true false (cursor.advance 2) with
    | none => none
    | some (suffix, after) =>
        if after.sees '>' then
          some ([], suffix, after.advance 1)
        else
          none
  else
    match readHandle cursor with
    | none => none
    | some (handle, here) =>
        if isFullHandle handle then
          (readTagText false false here).map fun r =>
            (handle, r.1, r.2)
        else
          match readTagText false true here with
          | none => none
          | some (more, after) =>
              let suffix := handle.drop 1 ++ more
              if suffix == [] then
                some ([], ['!'], after)
              else
                some (['!'], suffix, after)

/- The tag that stands here; a gap must follow it. -/
def readTag
    (inFlow : Bool)
    (cursor : Cursor) :
    Option (Text × Text × Cursor) :=
  match readTagParts cursor with
  | none => none
  | some (handle, suffix, after) =>
      if (inFlow && after.sees ',') || after.gapAfter 0 then
        some (handle, suffix, after)
      else
        none

end Yaml

end SafeRerun

------------------------------------------------------------
-- Directives
------------------------------------------------------------

namespace SafeRerun

namespace Yaml

/- A number of at most nine digits. -/
def readVersionNumber
    (cursor : Cursor) :
    Option (Nat × Cursor) :=
  let digits := cursor.run Char.isDigit
  if digits == [] || digits.length > 9 then
    none
  else
    some
      (digits.foldl
        (fun n c => n * 10 + (c.toNat - 48)) 0,
        cursor.advance digits.length)

/- The value of a version directive. -/
def readVersion
    (cursor : Cursor) :
    Option (TokenKind × Cursor) :=
  match readVersionNumber (cursor.skip isSpacing) with
  | none => none
  | some (major, dot) =>
      if dot.sees '.' then
        (readVersionNumber (dot.advance 1)).map fun r =>
          (.version major r.1, r.2)
      else
        none

/- The value of a tag directive. -/
def readTagShorthand
    (cursor : Cursor) :
    Option (TokenKind × Cursor) :=
  match readHandle (cursor.skip isSpacing) with
  | none => none
  | some (handle, here) =>
      if (isFullHandle handle || handle == ['!']) &&
          here.seesAny isSpacing then
        match
          readTagText true false (here.skip isSpacing)
        with
        | none => none
        | some (lead, after) =>
            if after.gapAfter 0 then
              some (.tagShorthand handle lead, after)
            else
              none
      else
        none

/- The value of the directive with the given name. -/
def readDirectiveValue
    (name : Text)
    (cursor : Cursor) :
    Option (TokenKind × Cursor) :=
  if name == ['Y', 'A', 'M', 'L'] then
    readVersion cursor
  else if name == ['T', 'A', 'G'] then
    readTagShorthand cursor
  else
    none

/-
  The directive that stands here, where its value ends, and
  the beginning of the line after it.
-/
def readDirective
    (cursor : Cursor) :
    Option (TokenKind × Cursor × Cursor) :=
  let here := cursor.advance 1
  let name := here.run isIdentifier
  let after := here.advance name.length
  if name == [] || !after.gapAfter 0 then
    none
  else
    match readDirectiveValue name after with
    | none => none
    | some (kind, stop) =>
        let rest := (stop.skip isSpacing).skipComment
        if rest.atLineEnd then
          some (kind, stop, rest.advanceLine)
        else
          none

end Yaml

end SafeRerun
