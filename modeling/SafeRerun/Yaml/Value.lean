import SafeRerun.Decimal.Shortest
import SafeRerun.Text.Quoted
import SafeRerun.Yaml.Event

/-
  What a scalar means.

  Key definitions include:
    * `SafeRerun.Yaml.Value`
    * `SafeRerun.Yaml.readNatural`
    * `SafeRerun.Yaml.plainValue`
    * `SafeRerun.Yaml.scalarValue`
    * `SafeRerun.Yaml.Value.describe`

  A plain scalar without a tag is a null, a truth value, a
  number or a text, by its spelling.  Digits after a leading
  zero are a text.  A scalar in quotes or in a block is a
  text, unless its tag says otherwise.
-/

------------------------------------------------------------
-- Values
------------------------------------------------------------

namespace SafeRerun

namespace Yaml

/- The values a scalar can have. -/
inductive Value where
  | null
  | boolean (value : Bool)
  | integer (value : Int)
  | decimal (shown : Text)
  | text (value : Text)
  deriving DecidableEq, Repr

/- An integer as it is shown, with its width if it is wide. -/
def describeInteger
    (n : Int) :
    Text :=
  let digits :=
    if n < 0 then
      '-' :: Text.ofNat (-n).toNat
    else
      Text.ofNat n.toNat
  let shown :=
    Text.ofString "integer `" ++ digits ++
      Text.ofString "`"
  if Int.pow 2 64 ≤ n then
    shown ++ Text.ofString " as u128"
  else if n < -Int.pow 2 63 then
    shown ++ Text.ofString " as i128"
  else
    shown

/- A value as a message names it. -/
def Value.describe :
    Value → Text
  | .null => Text.ofString "unit value"
  | .boolean true => Text.ofString "boolean `true`"
  | .boolean false => Text.ofString "boolean `false`"
  | .integer n => describeInteger n
  | .decimal shown =>
      Text.ofString "floating point `" ++ shown ++
        Text.ofString "`"
  | .text t => Text.ofString "string " ++ t.quoted

end Yaml

end SafeRerun

------------------------------------------------------------
-- Numbers
------------------------------------------------------------

namespace SafeRerun

namespace Yaml

/- The number that digits of a base write. -/
def digitsIn?
    (base : Nat)
    (t : Text) :
    Option Nat :=
  if t == [] then
    none
  else
    t.foldl
      (fun n? c =>
        match n?, hexValue? c with
        | some n, some d =>
            if d < base then some (n * base + d) else none
        | _, _ => none)
      (some 0)

/- Digits after a leading zero, which make a text. -/
def isPaddedNumber
    (t : Text) :
    Bool :=
  let digits := (readSign t).2
  decide (1 < digits.length) && digits.head? == some '0' &&
    digits.all Char.isDigit

/- The base that two characters announce. -/
def baseAhead? :
    Text → Option (Nat × Text)
  | '0' :: 'x' :: rest => some (16, rest)
  | '0' :: 'o' :: rest => some (8, rest)
  | '0' :: 'b' :: rest => some (2, rest)
  | _ => none

/- A number without a sign, in any of the bases. -/
def unsignedNumber?
    (t : Text) :
    Option Nat :=
  match baseAhead? t with
  | some (base, digits) => digitsIn? base digits
  | none => digitsIn? 10 t

/- A natural number, perhaps with a plus sign. -/
def readNatural
    (t : Text) :
    Option Nat :=
  if isPaddedNumber t then
    none
  else
    match t with
    | '+' :: rest => unsignedNumber? rest
    | _ => unsignedNumber? t

/- An integer, with a sign or without. -/
def readInteger
    (t : Text) :
    Option Int :=
  match t with
  | '-' :: rest =>
      if isPaddedNumber t then
        none
      else
        (unsignedNumber? rest).map fun n => -(n : Int)
  | _ => (readNatural t).map fun n => (n : Int)

/- An integer that fits 128 bits. -/
def integer?
    (t : Text) :
    Option Value :=
  match readInteger t with
  | some n =>
      if -Int.pow 2 127 ≤ n ∧ n < Int.pow 2 128 then
        some (.integer n)
      else
        none
  | none => none

/- The spellings of infinity, without a sign. -/
def isInfinity
    (t : Text) :
    Bool :=
  [Text.ofString ".inf", Text.ofString ".Inf",
    Text.ofString ".INF"].contains t

/- The spellings of what is not a number. -/
def isNotNumber
    (t : Text) :
    Bool :=
  [Text.ofString ".nan", Text.ofString ".NaN",
    Text.ofString ".NAN"].contains t

/- A decimal number as it is shown, if it is finite. -/
def finiteDecimal?
    (t : Text) :
    Option Value :=
  match Decimal.parse? t with
  | none => none
  | some d =>
      d.toBinary?.map fun b =>
        if d.negative then
          .decimal ('-' :: b.positional)
        else
          .decimal b.positional

/- A floating point number, finite or special. -/
def decimal?
    (t : Text) :
    Option Value :=
  if isInfinity (if t.head? == some '+' then t.drop 1 else t)
  then
    some (.decimal (Text.ofString "inf"))
  else if t.head? == some '-' && isInfinity (t.drop 1) then
    some (.decimal (Text.ofString "-inf"))
  else if isNotNumber t then
    some (.decimal (Text.ofString "NaN"))
  else
    match t with
    | '+' :: '+' :: _ => none
    | '+' :: '-' :: _ => none
    | _ => finiteDecimal? t

end Yaml

end SafeRerun

------------------------------------------------------------
-- Scalars
------------------------------------------------------------

namespace SafeRerun

namespace Yaml

/- The truth value that a text spells. -/
def boolean?
    (t : Text) :
    Option Value :=
  if [Text.ofString "true", Text.ofString "True",
      Text.ofString "TRUE"].contains t then
    some (.boolean true)
  else if [Text.ofString "false", Text.ofString "False",
      Text.ofString "FALSE"].contains t then
    some (.boolean false)
  else
    none

/- The null that a text spells. -/
def null?
    (t : Text) :
    Option Value :=
  if [Text.ofString "null", Text.ofString "Null",
      Text.ofString "NULL", ['~']].contains t then
    some .null
  else
    none

/- The value of a plain scalar by its spelling. -/
def plainValue
    (t : Text) :
    Value :=
  if t == [] then
    .null
  else
    match null? t with
    | some v => v
    | none =>
        match boolean? t with
        | some v => v
        | none =>
            match integer? t with
            | some v => v
            | none =>
                let number? :=
                  if isPaddedNumber t then
                    none
                  else
                    decimal? t
                number?.getD (.text t)

/- The kinds of values that a tag can ask for. -/
inductive AskedKind where
  | boolean
  | integer
  | float
  | null
  deriving DecidableEq, Repr

/- The name of an asked kind in a message. -/
def AskedKind.name :
    AskedKind → String
  | .boolean => "a boolean"
  | .integer => "an integer"
  | .float => "a float"
  | .null => "null"

/- The kind that a full tag asks for. -/
def askedKind?
    (tag : Text) :
    Option AskedKind :=
  ([(Text.ofString "tag:yaml.org,2002:bool", .boolean),
    (Text.ofString "tag:yaml.org,2002:int", .integer),
    (Text.ofString "tag:yaml.org,2002:float", .float),
    (Text.ofString "tag:yaml.org,2002:null", .null)] :
    List (Text × AskedKind)).lookup tag

/- The value of the asked kind that a text spells. -/
def AskedKind.value?
    (t : Text) :
    AskedKind → Option Value
  | .boolean => boolean? t
  | .integer => integer? t
  | .float => decimal? t
  | .null => null? t

/-
  The value of a scalar.  Where its text does not spell a
  value of the kind its tag asks for, that kind results.
-/
def scalarValue
    (tag : Option Text)
    (t : Text)
    (style : ScalarStyle) :
    Except AskedKind Value :=
  match tag with
  | none =>
      if style = .plain then
        .ok (plainValue t)
      else
        .ok (.text t)
  | some name =>
      match askedKind? name with
      | some kind =>
          match kind.value? t with
          | some v => .ok v
          | none => .error kind
      | none =>
          if name.head? == some '!' && style == .plain then
            .ok (plainValue t)
          else
            .ok (.text t)

/-
  The natural number that a scalar gives where one is asked
  for: a plain one, or a literal one whose tag says so.
-/
def naturalValue?
    (tag : Option Text)
    (t : Text)
    (style : ScalarStyle) :
    Option Nat :=
  let asked :=
    style == .literal &&
      tag == some (Text.ofString "tag:yaml.org,2002:int")
  if style == .plain || asked then
    match readNatural t with
    | some n => if n < Nat.pow 2 64 then some n else none
    | none => none
  else
    none

end Yaml

end SafeRerun
