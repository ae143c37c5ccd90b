import RowStream.Number.Numeral

/-! Decimal numbers that keep their exponent: 1.0 and 1.00 are different values. -/
namespace RowStream

inductive Decimal where
  | finite (negative : Bool) (coefficient : Nat) (exponent : Int)
  | infinite (negative : Bool)
  | nan (negative signaling : Bool)
  deriving DecidableEq, Repr, Inhabited

namespace Decimal

inductive Fault where
  | invalid
  | overflow
  deriving DecidableEq, Repr

def ofInt (i : Int) : Decimal := .finite (i < 0) i.natAbs 0

/-- The number of digits of a coefficient; zero has one. -/
def digitCount (n : Nat) : Nat := (Text.ofNat n).length

/-- The exponent of the leading digit. -/
def adjusted (coefficient : Nat) (exponent : Int) : Int := exponent + digitCount coefficient - 1

/-- The largest exponent a leading digit may have, and the smallest exponent of a last digit. -/
def largestAdjusted : Int := 999999999999999999

def smallestExponent : Int := -1999999999999999997

/-- A numeral's value, digit for digit. -/
def ofNumeral (n : Numeral) : Except Fault Decimal :=
  if n.scale < smallestExponent ∨ largestAdjusted < adjusted n.coefficient n.scale then
    .error .invalid
  else .ok (.finite n.negative n.coefficient n.scale)

/-- The integer part. Only finite numbers have one. -/
def truncate? : Decimal → Option Int
  | .finite negative c e =>
    let n := if 0 ≤ e then c * Nat.pow 10 e.toNat
      else if digitCount c ≤ (-e).toNat then 0 else c / Nat.pow 10 (-e).toNat
    some (Numeral.signed negative n)
  | _ => none

/-- How a discarded part is rounded: a half goes away from zero or to the even neighbour. -/
inductive Ties where
  | away
  | even
  deriving DecidableEq, Repr

/-- The quotient rounded to the nearest integer. -/
def roundQuotient (ties : Ties) (n d : Nat) : Nat :=
  let q := n / d
  let r := n % d
  if 2 * r < d then q
  else if d < 2 * r then q + 1
  else match ties with
    | .away => q + 1
    | .even => q + q % 2

/-- A coefficient with its last `count` digits rounded away. -/
def dropDigits (ties : Ties) (coefficient count : Nat) : Nat :=
  if digitCount coefficient < count then 0 else roundQuotient ties coefficient (Nat.pow 10 count)

/-- Exponents that rescaled numbers stay within. -/
def emax : Int := 999999

/-- The smallest exponent a number of `precision` digits may have. -/
def smallestScale (precision : Nat) : Int := -emax - (precision - 1 : Int)

/-- The digits that arithmetic works with where nothing else is said. -/
def defaultPrecision : Nat := 28

/-- The exponent of a unit that stands `places` digits after the point. -/
def unitExponent (places : Int) : Except Fault Int :=
  if 2 * (emax + defaultPrecision) < (places.natAbs : Int) then .error .invalid
  else if emax < -places then .error .overflow
  else .ok (max (-places) (smallestScale defaultPrecision))

/-- The same number with the given exponent, in at most `precision` digits. -/
def withExponent (precision : Nat) (ties : Ties) (d : Decimal) (target : Int) :
    Except Fault Decimal :=
  match d with
  | .nan negative false => .ok (.nan negative false)
  | .nan _ true => .error .invalid
  | .infinite _ => .error .invalid
  | .finite negative c e =>
    if emax < target ∨ target < smallestScale precision then .error .invalid
    else if c = 0 then .ok (.finite negative 0 target)
    else if (precision : Int) < digitCount c + (e - target) then .error .invalid
    else
      let scaled := if target ≤ e then c * Nat.pow 10 (e - target).toNat
        else dropDigits ties c (target - e).toNat
      if precision < digitCount scaled ∨ emax < adjusted scaled target then .error .invalid
      else .ok (.finite negative scaled target)

/-- The same number with `places` digits after the point. -/
def rescale (precision : Nat) (ties : Ties) (d : Decimal) (places : Int) :
    Except Fault Decimal := do
  d.withExponent precision ties (← unitExponent places)

def signText (negative : Bool) : Text := if negative then ['-'] else []

/-- Digits with a point before the last `places` of them, and zeros in front where they do not
reach it. -/
def pointed (digits : Text) (places : Nat) : Text :=
  let digits := List.replicate (places + 1 - digits.length) '0' ++ digits
  if places = 0 then digits
  else digits.take (digits.length - places) ++ '.' :: digits.drop (digits.length - places)

def specialText : Decimal → Text
  | .nan negative signaling => signText negative ++ (if signaling then "sNaN" else "NaN").toList
  | .infinite negative => signText negative ++ "Infinity".toList
  | .finite .. => []

/-- The text that keeps the exponent: positional unless the exponent is positive or the number
begins more than six places after the point. -/
def text : Decimal → Text
  | .finite negative c e =>
    let digits := Text.ofNat c
    let lead := adjusted c e
    signText negative ++
      (if e ≤ 0 ∧ -6 ≤ lead then pointed digits (-e).toNat
      else pointed digits (digits.length - 1) ++ 'E' :: (if lead < 0 then '-' else '+')
        :: Text.ofNat lead.natAbs)
  | special => specialText special

/-- The text without an exponent. -/
def fixedText : Decimal → Text
  | .finite negative c e =>
    signText negative ++
      (if 0 < e then
        if c = 0 then ['0'] else Text.ofNat c ++ List.replicate e.toNat '0'
      else pointed (Text.ofNat c) (-e).toNat)
  | special => specialText special

end Decimal

end RowStream
