import SafeRerun.Text.Basic

/-
  Decimal numbers rounded to a binary format of 53 digits.

  Key definitions include:
    * `SafeRerun.Decimal`
    * `SafeRerun.Binary`
    * `SafeRerun.Decimal.parse?`
    * `SafeRerun.Decimal.toBinary?`

  The binary format is the double of the common standard:
    * a magnitude is m * 2 ^ q with m below 2 ^ 53;
    * the least exponent is -1074;
    * a half goes to the even neighbour.
  All arithmetic is exact, on natural numbers.
-/

------------------------------------------------------------
-- Decimal Notation
------------------------------------------------------------

namespace SafeRerun

/- A decimal number: digits times a power of ten. -/
structure Decimal where
  negative : Bool
  digits : Nat
  exponent : Int
  deriving DecidableEq, Repr

/- The number that decimal digits write. -/
def decimalDigits
    (digits : Text) :
    Nat :=
  digits.foldl (fun n c => n * 10 + (c.toNat - 48)) 0

/- The exponent after its letter, with its sign. -/
def readExponent
    (t : Text) :
    Option Int :=
  let (negative, digits) :=
    match t with
    | '-' :: rest => (true, rest)
    | '+' :: rest => (false, rest)
    | _ => (false, t)
  if digits == [] || !digits.all Char.isDigit then
    none
  else if negative then
    some (-(decimalDigits digits : Int))
  else
    some (decimalDigits digits : Int)

/- A text without its sign, and whether that is a minus. -/
def readSign :
    Text → Bool × Text
  | '-' :: rest => (true, rest)
  | '+' :: rest => (false, rest)
  | t => (false, t)

/-
  Digits around an optional point with an optional exponent.
  There must be a digit on one side of the point.
-/
def Decimal.parse?
    (t : Text) :
    Option Decimal :=
  let (negative, body) := readSign t
  let whole := body.takeWhile Char.isDigit
  let afterWhole := body.drop whole.length
  let (fraction, rest) :=
    match afterWhole with
    | '.' :: more =>
        let digits := more.takeWhile Char.isDigit
        (digits, more.drop digits.length)
    | _ => ([], afterWhole)
  if whole == [] && fraction == [] then
    none
  else
    let exponent? :=
      match rest with
      | [] => some 0
      | c :: more =>
          if c == 'e' || c == 'E' then
            readExponent more
          else
            none
    exponent?.map fun exponent =>
      { negative := negative
        digits := decimalDigits (whole ++ fraction)
        exponent := exponent - (fraction.length : Int) }

end SafeRerun

------------------------------------------------------------
-- Rounding
------------------------------------------------------------

namespace SafeRerun

/- A magnitude m * 2 ^ q. -/
structure Binary where
  mantissa : Nat
  exponent : Int
  deriving DecidableEq, Repr

/- A quotient rounded, a half going to the even number. -/
def roundDiv
    (num den : Nat) :
    Nat :=
  let q := num / den
  let r := num % den
  if 2 * r < den then
    q
  else if den < 2 * r then
    q + 1
  else
    q + q % 2

/-
  The fraction num / den rounded to m * 2 ^ q for the
  exponent q.
-/
def roundAt
    (num den : Nat)
    (q : Int) :
    Nat :=
  if 0 ≤ q then
    roundDiv num (den * Nat.pow 2 q.toNat)
  else
    roundDiv (num * Nat.pow 2 (-q).toNat) den

/-
  The exponent at which a positive fraction has 53 binary
  digits, but not below the least one.
-/
def exponentFor
    (num den : Nat) :
    Int :=
  let guess := (num.log2 : Int) - (den.log2 : Int) - 53
  let least := max guess (-1074)
  if roundAt num den least < Nat.pow 2 53 then
    least
  else if roundAt num den (least + 1) < Nat.pow 2 53 then
    least + 1
  else
    least + 2

/- A positive fraction in the binary format. -/
def roundFraction
    (num den : Nat) :
    Binary :=
  let q := exponentFor num den
  ⟨roundAt num den q, q⟩

/-
  The magnitude of a decimal number in the binary format,
  if it is finite there.  Numbers far outside the range are
  told by the number of their digits.
-/
def Decimal.toBinary?
    (d : Decimal) :
    Option Binary :=
  let size :=
    ((Text.ofNat d.digits).length : Int) + d.exponent
  if d.digits = 0 || size < -330 then
    some ⟨0, 0⟩
  else if 310 < size then
    none
  else
    let rounded :=
      if 0 ≤ d.exponent then
        roundFraction
          (d.digits * Nat.pow 10 d.exponent.toNat) 1
      else
        roundFraction d.digits
          (Nat.pow 10 (-d.exponent).toNat)
    if 971 < rounded.exponent then none else some rounded

end SafeRerun
