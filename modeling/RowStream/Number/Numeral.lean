import RowStream.Text.Basic

/-! Numerals: signs, digits, a point and an exponent, in ASCII. Texts of decimal and of binary
numbers are both read through them. -/
namespace RowStream

structure Numeral where
  negative : Bool
  whole : List Nat
  fraction : List Nat
  exponent : Int
  deriving DecidableEq, Repr

namespace Numeral

/-- A leading run of digits, and what follows it. -/
def takeDigits (t : Text) : List Nat × Text :=
  ((t.takeWhile Char.isDigit).filterMap Text.digit?, t.dropWhile Char.isDigit)

/-- An optional sign: whether it is a minus, and what follows it. -/
def takeSign : Text → Bool × Text
  | '-' :: rest => (true, rest)
  | '+' :: rest => (false, rest)
  | rest => (false, rest)

def signed (negative : Bool) (n : Nat) : Int := if negative then -(n : Int) else n

/-- An optional exponent that ends the text. -/
def exponent? : Text → Option Int
  | [] => some 0
  | c :: rest =>
    if c = 'e' ∨ c = 'E' then
      let (negative, rest) := takeSign rest
      match takeDigits rest with
      | ([], _) => none
      | (digits, []) => some (signed negative (Text.numberOf digits))
      | _ => none
    else none

/-- The digits after a point, if there is one. -/
def takeFraction : Text → List Nat × Text
  | '.' :: rest => takeDigits rest
  | rest => ([], rest)

/-- Reads a whole text as a numeral; there is a digit before or after the point. -/
def parse? (t : Text) : Option Numeral :=
  let (negative, rest) := takeSign t
  let (whole, rest) := takeDigits rest
  let (fraction, rest) := takeFraction rest
  if whole.isEmpty && fraction.isEmpty then none
  else (exponent? rest).map fun e => ⟨negative, whole, fraction, e⟩

/-- The numeral denotes its coefficient times ten to its scale. -/
def coefficient (n : Numeral) : Nat := Text.numberOf (n.whole ++ n.fraction)

def scale (n : Numeral) : Int := n.exponent - n.fraction.length

/-- Reads a whole text as a sign and digits only. -/
def integerDigits? (t : Text) : Option (Bool × List Nat) :=
  let (negative, rest) := takeSign t
  match takeDigits rest with
  | ([], _) => none
  | (digits, []) => some (negative, digits)
  | _ => none

end Numeral

end RowStream
