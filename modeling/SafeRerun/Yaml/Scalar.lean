import SafeRerun.Yaml.Cursor

/-
  The texts of YAML scalars: plain, quoted, and block ones.

  Key definitions include:
    * `SafeRerun.Yaml.ScalarStyle`
    * `SafeRerun.Yaml.readPlain`
    * `SafeRerun.Yaml.readQuoted`
    * `SafeRerun.Yaml.readBlock`

  A reader returns nothing where the document breaks the
  rules of its style.  Inside a scalar a single line break
  is folded into a space and further ones are kept, unless
  the style is literal.
-/

------------------------------------------------------------
-- Styles and Folding
------------------------------------------------------------

namespace SafeRerun

namespace Yaml

/- The ways a scalar can be written. -/
inductive ScalarStyle where
  | plain
  | singleQuoted
  | doubleQuoted
  | literal
  | folded
  deriving DecidableEq, Repr

/-
  Blanks met between two runs of text: spaces before any
  line break, the first break, and the later ones.
-/
structure Spacing where
  spaces : Text
  first : Text
  later : Text
  broken : Bool

namespace Spacing

/- No blanks at all. -/
def nothing :
    Spacing :=
  ⟨[], [], [], false⟩

/- The blanks after an escaped line break. -/
def joined :
    Spacing :=
  ⟨[], [], [], true⟩

/- One more space or tab. -/
def addSpace
    (c : Char)
    (s : Spacing) :
    Spacing :=
  if s.broken then
    s
  else
    { s with spaces := s.spaces ++ [c] }

/- One more line break. -/
def addBreak
    (t : Text)
    (s : Spacing) :
    Spacing :=
  if s.broken then
    { s with later := s.later ++ t }
  else
    ⟨[], t, s.later, true⟩

/- What the blanks contribute between the two runs. -/
def folded
    (s : Spacing) :
    Text :=
  if s.broken then
    if s.first.head? == some '\n' then
      if s.later == [] then [' '] else s.later
    else
      s.first ++ s.later
  else
    s.spaces

end Spacing

/-
  Past the blanks that stand here.  With a margin given, a
  tab left of it after a line break is refused.
-/
def readSpacing
    (margin : Option Nat) :
    Nat → Spacing → Cursor → Option (Spacing × Cursor)
  | 0, s, cursor => some (s, cursor)
  | fuel + 1, s, cursor =>
      match cursor.peek? with
      | none => some (s, cursor)
      | some c =>
          if isSpacing c then
            let early :=
              match margin with
              | some m =>
                  s.broken && c == '\t' &&
                    cursor.mark.column < m
              | none => false
            if early then
              none
            else
              readSpacing margin fuel (s.addSpace c)
                (cursor.advance 1)
          else if isBreak c then
            readSpacing margin fuel
              (s.addBreak cursor.breakText)
              cursor.advanceLine
          else
            some (s, cursor)

end Yaml

end SafeRerun

------------------------------------------------------------
-- Plain Scalars
------------------------------------------------------------

namespace SafeRerun

namespace Yaml

/- Marks that structure a flow collection. -/
def isFlowMark
    (c : Char) :
    Bool :=
  c == ',' || c == '[' || c == ']' || c == '\x7b' ||
    c == '\x7d'

/-
  The next run of a plain scalar.  A colon before a gap ends
  it; so do the marks of a flow collection inside one, where
  a colon directly before such a mark is refused.
-/
def plainRun
    (inFlow : Bool) :
    Text → Option Text
  | [] => some []
  | c :: rest =>
      if isGap c then
        some []
      else if
          inFlow && c == ':' &&
            rest.head?.any fun d => isFlowMark d || d == '?'
        then
        none
      else if
          (c == ':' && (rest.head?.map isGap).getD true) ||
            (inFlow && isFlowMark c)
        then
        some []
      else
        (plainRun inFlow rest).map (c :: ·)

/- A scalar that was read. -/
structure PlainText where
  text : Text
  endsBroken : Bool
  after : Cursor

/-
  The runs of a plain scalar with the blanks between them.
  It ends before a comment, a line that separates documents,
  a line that is not indented enough, or a mark.
-/
def readPlainFrom
    (inFlow : Bool)
    (margin : Nat) :
    Nat → Text → Spacing → Cursor → Option PlainText
  | 0, _, _, _ => none
  | fuel + 1, text, spacing, cursor =>
      if cursor.atAnyDocumentLine || cursor.sees '#' then
        some ⟨text, spacing.broken, cursor⟩
      else
        match plainRun inFlow cursor.rest with
        | none => none
        | some run =>
            let grown :=
              if run == [] then
                text
              else
                text ++ spacing.folded ++ run
            let unread :=
              if run == [] then spacing else .nothing
            let here := cursor.advance run.length
            if here.seesAny isGap then
              match
                readSpacing (some margin)
                  here.rest.length unread here
              with
              | none => none
              | some (next, there) =>
                  if !inFlow &&
                      there.mark.column < margin then
                    some ⟨grown, next.broken, there⟩
                  else
                    readPlainFrom inFlow margin fuel grown
                      next there
            else
              some ⟨grown, unread.broken, here⟩

/- The plain scalar that begins here. -/
def readPlain
    (inFlow : Bool)
    (margin : Nat)
    (cursor : Cursor) :
    Option PlainText :=
  readPlainFrom inFlow margin (cursor.rest.length + 1) []
    .nothing cursor

end Yaml

end SafeRerun

------------------------------------------------------------
-- Quoted Scalars
------------------------------------------------------------

namespace SafeRerun

namespace Yaml

/- The character of a one-letter escape. -/
def shortEscape?
    (c : Char) :
    Option Char :=
  ([('0', Char.ofNat 0), ('a', Char.ofNat 7),
    ('b', Char.ofNat 8), ('t', '\t'), ('\t', '\t'),
    ('n', '\n'), ('v', Char.ofNat 11),
    ('f', Char.ofNat 12), ('r', '\r'),
    ('e', Char.ofNat 27), (' ', ' '), ('"', '"'),
    ('/', '/'), ('\\', '\\'), ('N', Char.ofNat 0x85),
    ('_', Char.ofNat 0xA0), ('L', Char.ofNat 0x2028),
    ('P', Char.ofNat 0x2029)] :
    List (Char × Char)).lookup c

/- The number of digits of an escape by code point. -/
def escapeWidth?
    (c : Char) :
    Option Nat :=
  ([('x', 2), ('u', 4), ('U', 8)] :
    List (Char × Nat)).lookup c

/- The number that the given hexadecimal digits write. -/
def hexNumber?
    (digits : Text) :
    Option Nat :=
  digits.foldl
    (fun n? c =>
      match n?, hexValue? c with
      | some n, some d => some (n * 16 + d)
      | _, _ => none)
    (some 0)

/- The character with a code point, if there is one. -/
def charOfCode?
    (n : Nat) :
    Option Char :=
  if h : n.isValidChar then
    some (Char.ofNatAux n h)
  else
    none

/-
  The character that an escape stands for and the number of
  characters the escape takes, given what follows the
  backslash.
-/
def readEscape :
    Text → Option (Char × Nat)
  | [] => none
  | c :: rest =>
      match shortEscape? c with
      | some d => some (d, 2)
      | none =>
          match escapeWidth? c with
          | none => none
          | some width =>
              let digits := rest.take width
              if digits.length < width then
                none
              else
                match hexNumber? digits with
                | none => none
                | some n =>
                    (charOfCode? n).map fun d =>
                      (d, width + 2)

/-
  The next run of a quoted scalar: its text, whether it ends
  with an escaped line break, and the place after it.  The
  characters read so far are given from the last one on.
-/
def quotedRun
    (single : Bool) :
    Nat → Text → Cursor → Option (Text × Bool × Cursor)
  | 0, _, _ => none
  | fuel + 1, text, cursor =>
      match cursor.rest with
      | [] => some (text.reverse, false, cursor)
      | c :: rest =>
          if isGap c then
            some (text.reverse, false, cursor)
          else if single then
            if c == '\'' then
              if rest.head? == some '\'' then
                quotedRun single fuel ('\'' :: text)
                  (cursor.advance 2)
              else
                some (text.reverse, false, cursor)
            else
              quotedRun single fuel (c :: text)
                (cursor.advance 1)
          else if c == '"' then
            some (text.reverse, false, cursor)
          else if c == '\\' then
            if rest.head?.any isBreak then
              some (text.reverse, true,
                (cursor.advance 1).advanceLine)
            else
              match readEscape rest with
              | none => none
              | some (d, width) =>
                  quotedRun single fuel (d :: text)
                    (cursor.advance width)
          else
            quotedRun single fuel (c :: text)
              (cursor.advance 1)

/- The rest of a quoted scalar with the text so far. -/
def readQuotedFrom
    (single : Bool) :
    Nat → Text → Cursor → Option (Text × Cursor)
  | 0, _, _ => none
  | fuel + 1, text, cursor =>
      if cursor.atAnyDocumentLine || cursor.rest == [] then
        none
      else
        match
          quotedRun single (cursor.rest.length + 1) [] cursor
        with
        | none => none
        | some (run, joined, here) =>
            let grown := text ++ run
            if here.sees (if single then '\'' else '"') then
              some (grown, here.advance 1)
            else
              let begun :=
                if joined then
                  Spacing.joined
                else
                  Spacing.nothing
              match
                readSpacing none here.rest.length begun here
              with
              | none => none
              | some (spacing, there) =>
                  readQuotedFrom single fuel
                    (grown ++ spacing.folded) there

/- The quoted scalar whose opening quote stands here. -/
def readQuoted
    (single : Bool)
    (cursor : Cursor) :
    Option (Text × Cursor) :=
  readQuotedFrom single (cursor.rest.length + 1) []
    (cursor.advance 1)

end Yaml

end SafeRerun

------------------------------------------------------------
-- Block Scalars
------------------------------------------------------------

namespace SafeRerun

namespace Yaml

/- What becomes of the line breaks at the end of a block. -/
inductive Chomping where
  | strip
  | clip
  | keep
  deriving DecidableEq, Repr

/- The indicators of a block scalar. -/
structure BlockHeader where
  chomping : Chomping
  indent : Option Nat

/- The chomping that a character indicates. -/
def chomping?
    (c : Char) :
    Option Chomping :=
  if c == '+' then
    some .keep
  else if c == '-' then
    some .strip
  else
    none

/-
  The indicators after the mark of a block scalar, in either
  order, and how many characters they take.  An indentation
  of zero is refused.
-/
def readBlockHeader :
    Text → Option (BlockHeader × Nat)
  | [] => some (⟨.clip, none⟩, 0)
  | c :: rest =>
      match chomping? c with
      | some chomping =>
          match rest with
          | d :: _ =>
              if d.isDigit then
                if d == '0' then
                  none
                else
                  some (⟨chomping, some (d.toNat - 48)⟩, 2)
              else
                some (⟨chomping, none⟩, 1)
          | [] => some (⟨chomping, none⟩, 1)
      | none =>
          if c.isDigit then
            if c == '0' then
              none
            else
              match rest.head?.bind chomping? with
              | some chomping =>
                  some (⟨chomping, some (c.toNat - 48)⟩, 2)
              | none =>
                  some (⟨.clip, some (c.toNat - 48)⟩, 1)
          else
            some (⟨.clip, none⟩, 0)

/-
  Past indentation and empty lines.  The result holds the
  line breaks met, the widest indentation seen, and the
  place of the first line that is not empty.
-/
def readEmptyLines
    (indent : Option Nat) :
    Nat → Text → Nat → Cursor → Option (Text × Nat × Cursor)
  | 0, _, _, _ => none
  | fuel + 1, breaks, widest, cursor =>
      let spaces := (cursor.run (· == ' ')).length
      let count :=
        match indent with
        | some n => min spaces (n - cursor.mark.column)
        | none => spaces
      let here := cursor.advance count
      let widest' := max widest here.mark.column
      let early :=
        match indent with
        | some n => here.mark.column < n
        | none => true
      if early && here.sees '\t' then
        none
      else if here.seesAny isBreak then
        readEmptyLines indent fuel
          (breaks ++ here.breakText) widest'
          here.advanceLine
      else
        some (breaks, widest', here)

/- A block scalar in the making. -/
structure BlockState where
  text : Text
  leading : Text
  trailing : Text
  afterBlank : Bool

/-
  The lines of a block scalar.  When lines are folded, the
  break between two lines becomes a space, unless one of
  them begins with a blank.
-/
def readBlockLines
    (literal : Bool)
    (indent : Nat) :
    Nat → BlockState → Cursor → Option (BlockState × Cursor)
  | 0, _, _ => none
  | fuel + 1, state, cursor =>
      if cursor.mark.column == indent &&
          cursor.rest != [] then
        let blank := cursor.seesAny isSpacing
        let folds :=
          !literal && state.leading.head? == some '\n' &&
            !state.afterBlank && !blank
        let joint :=
          if folds then
            if state.trailing == [] then [' '] else []
          else
            state.leading
        let line := cursor.run fun c => !isBreak c
        let here := cursor.advance line.length
        match
          readEmptyLines (some indent)
            (here.rest.length + 1) [] 0 here.advanceLine
        with
        | none => none
        | some (breaks, _, there) =>
            readBlockLines literal indent fuel
              { text :=
                  state.text ++ joint ++ state.trailing ++
                    line
                leading := here.breakText
                trailing := breaks
                afterBlank := blank } there
      else
        some (state, cursor)

/- The text of a finished block scalar. -/
def BlockState.chomped
    (chomping : Chomping)
    (state : BlockState) :
    Text :=
  match chomping with
  | .strip => state.text
  | .clip => state.text ++ state.leading
  | .keep => state.text ++ state.leading ++ state.trailing

/-
  The block scalar whose mark stands here, below a parent
  with the given indentation.
-/
def readBlock
    (literal : Bool)
    (parent : Int)
    (cursor : Cursor) :
    Option (Text × Cursor) :=
  match readBlockHeader (cursor.advance 1).rest with
  | none => none
  | some (header, width) =>
      let afterHeader :=
        ((cursor.advance (1 + width)).skip
          isSpacing).skipComment
      if !afterHeader.atLineEnd then
        none
      else
        let below := afterHeader.advanceLine
        let fuel := below.rest.length + 1
        let given :=
          header.indent.map fun n => parent.toNat + n
        match readEmptyLines given fuel [] 0 below with
        | none => none
        | some (breaks, widest, here) =>
            let indent :=
              given.getD
                (max widest (max (parent + 1).toNat 1))
            match
              readBlockLines literal indent fuel
                ⟨[], [], breaks, false⟩ here
            with
            | none => none
            | some (state, there) =>
                some (state.chomped header.chomping, there)

end Yaml

end SafeRerun
