import RowStream.Number.Decimal

/-! Floating-point numbers of 64 bits as exact data: a sign, a mantissa of at most 53 bits and a
power of two. Reading rounds to the nearest; writing gives the shortest digits that read back. -/
namespace RowStream

inductive Binary64 where
  | nan
  | infinite (negative : Bool)
  | finite (negative : Bool) (mantissa : Nat) (exponent : Int)
  deriving DecidableEq, Repr, Inhabited

namespace Binary64

/-- The smallest exponent, that of subnormal numbers. -/
def smallestExponent : Int := -1074

def largestExponent : Int := 971

def zero (negative : Bool) : Binary64 := .finite negative 0 smallestExponent

def isZero : Binary64 → Bool
  | .finite _ m _ => m = 0
  | _ => false

/-- The exponent at which a positive quotient has a mantissa of 53 bits, no smaller than that of
subnormal numbers. -/
def exponentOf (n d : Nat) : Int :=
  let e : Int := (n.log2 : Int) - d.log2 - 53
  let large := if 0 ≤ e + 53 then d * Nat.pow 2 (e + 53).toNat ≤ n
    else d ≤ n * Nat.pow 2 (-(e + 53)).toNat
  max smallestExponent (if large then e + 1 else e)

/-- The number nearest to `n / d`; of two equally near the one with an even mantissa. -/
def ofQuotient (negative : Bool) (n d : Nat) : Binary64 :=
  if n = 0 then zero negative
  else
    let e := exponentOf n d
    let m := if 0 ≤ e then Decimal.roundQuotient .even n (d * Nat.pow 2 e.toNat)
      else Decimal.roundQuotient .even (n * Nat.pow 2 (-e).toNat) d
    let (m, e) := if m = Nat.pow 2 53 then (Nat.pow 2 52, e + 1) else (m, e)
    if largestExponent < e then .infinite negative else .finite negative m e

/-- The number nearest to a coefficient times a power of ten. Magnitudes from 10^310 up are past
every finite number, and those below 10^-400 round to zero. -/
def ofScaled (negative : Bool) (coefficient : Nat) (exponent : Int) : Binary64 :=
  let lead := Decimal.adjusted coefficient exponent
  if coefficient = 0 ∨ lead < -400 then zero negative
  else if 310 ≤ lead then .infinite negative
  else if 0 ≤ exponent then ofQuotient negative (coefficient * Nat.pow 10 exponent.toNat) 1
  else ofQuotient negative coefficient (Nat.pow 10 (-exponent).toNat)

def ofNumeral (n : Numeral) : Binary64 := ofScaled n.negative n.coefficient n.scale

/-- The nearest number, unless the integer is past every finite one. -/
def ofInt? (i : Int) : Option Binary64 :=
  match ofQuotient (i < 0) i.natAbs 1 with
  | .infinite _ => none
  | x => some x

/-- The integer part. Only finite numbers have one. -/
def truncate? : Binary64 → Option Int
  | .finite negative m e =>
    some (Numeral.signed negative
      (if 0 ≤ e then m * Nat.pow 2 e.toNat else m / Nat.pow 2 (-e).toNat))
  | _ => none

/-- Digits and a power of ten, none of the digits a trailing zero. -/
def stripZeros : (fuel digits : Nat) → (exponent : Int) → Nat × Int
  | 0, c, e => (c, e)
  | fuel + 1, c, e => if c % 10 = 0 ∧ c ≠ 0 then stripZeros fuel (c / 10) (e + 1) else (c, e)

/-- A positive number's neighbourhood in units of a power of ten: every decimal in it is read as
that number. -/
structure Neighbourhood where
  low : Nat
  centre : Nat
  high : Nat
  closed : Bool
  unit : Int

def neighbourhood (m : Nat) (e : Int) : Neighbourhood :=
  -- a quarter of the last bit, written as a decimal
  let f := e - 2
  let quarter := if 0 ≤ f then Nat.pow 2 f.toNat else Nat.pow 5 (-f).toNat
  let below := if m = Nat.pow 2 52 ∧ smallestExponent < e then 1 else 2
  ⟨(4 * m - below) * quarter, 4 * m * quarter, (4 * m + 2) * quarter, m % 2 = 0, min f 0⟩

def Neighbourhood.contains (b : Neighbourhood) (n : Nat) : Bool :=
  if b.closed then b.low ≤ n && n ≤ b.high else b.low < n && n < b.high

/-- The point of the grid of `step` that lies in the neighbourhood, the nearer one of two. -/
def Neighbourhood.gridPoint? (b : Neighbourhood) (step : Nat) : Option Nat :=
  let below := b.centre / step
  let lowHit := b.contains (below * step)
  let highHit := b.contains ((below + 1) * step)
  if lowHit && highHit then some (Decimal.roundQuotient .even b.centre step)
  else if lowHit then some below
  else if highHit then some (below + 1)
  else none

/-- Tries ever finer grids; seventeen digits always suffice. -/
def Neighbourhood.shortest (b : Neighbourhood) : Nat × Int :=
  let count := Decimal.digitCount b.centre
  let hit := (List.range 17).findSome? fun n =>
    let dropped := count - (n + 1)
    (b.gridPoint? (Nat.pow 10 dropped)).map fun c => stripZeros 20 c (b.unit + dropped)
  hit.getD (b.centre, b.unit)

/-- The fewest decimal digits that read back as the finite number, and their power of ten. -/
def shortest (m : Nat) (e : Int) : Nat × Int :=
  if m = 0 then (0, 0) else (neighbourhood m e).shortest

/-- How the numbers that are not finite are spelled. -/
structure Spelling where
  nan : Text
  infinity : Text

def Spelling.short : Spelling := ⟨"nan".toList, "inf".toList⟩

def Spelling.long : Spelling := ⟨"NaN".toList, "Infinity".toList⟩

/-- Positional from 0.0001 up to below 10^16, with a digit after the point; else with an exponent
of a sign and at least two digits. -/
def digitsText (c : Nat) (e : Int) : Text :=
  let digits := Text.ofNat c
  let lead := Decimal.adjusted c e
  if -4 ≤ lead ∧ lead < 16 then
    if 0 ≤ e then digits ++ List.replicate e.toNat '0' ++ ['.', '0']
    else Decimal.pointed digits (-e).toNat
  else
    Decimal.pointed digits (digits.length - 1) ++ 'e' :: (if lead < 0 then '-' else '+')
      :: Text.padded 2 lead.natAbs

def textAs (spelling : Spelling) : Binary64 → Text
  | .nan => spelling.nan
  | .infinite negative => Decimal.signText negative ++ spelling.infinity
  | .finite negative m e =>
    let (c, x) := shortest m e
    Decimal.signText negative ++ digitsText c x

def text (x : Binary64) : Text := x.textAs .short

/-- The decimal that the shortest digits spell, with at least one digit after the point where
the text has one. Only finite numbers have one. -/
def toDecimal? (x : Binary64) : Option Decimal :=
  match x with
  | .finite .. => (Numeral.parse? x.text).bind fun n => (Decimal.ofNumeral n).toOption
  | _ => none

/-- Spellings of infinity and of the number that is none, in any letter case. -/
def special? (t : Text) : Option Binary64 :=
  let (negative, name) := Numeral.takeSign (Text.lower t)
  if name = "inf".toList ∨ name = "infinity".toList then some (.infinite negative)
  else if name = "nan".toList then some .nan
  else none

def parse? (t : Text) : Option Binary64 :=
  special? t <|> (Numeral.parse? t).map ofNumeral

/-- The nearest number to a decimal. A signaling NaN has none. -/
def ofDecimal? : Decimal → Option Binary64
  | .finite negative c e => some (ofScaled negative c e)
  | .infinite negative => some (.infinite negative)
  | .nan _ false => some .nan
  | .nan _ true => none

end Binary64

end RowStream
