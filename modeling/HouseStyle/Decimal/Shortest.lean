/-!
# Shortest decimals

A binary floating-point number stands for all the reals that round to it. `Binary.shortest` finds
the decimal number with the fewest digits among these reals, and among those with as few digits
the one nearest to the number itself; of two equally near ones it takes the larger. For each
number of digits only the two neighbours of the number on that decimal grid are tried, in exact
arithmetic. `Decimal.positional` writes a decimal number without an exponent.
-/

namespace HouseStyle

/-- The number `digits · 10 ^ exponent`. -/
structure Decimal where
  /-- The digits, read as one number. -/
  digits : Nat
  /-- The power of ten of the last digit. -/
  exponent : Int
  deriving DecidableEq, Repr

/-- The number `mantissa · 2 ^ exponent` of a binary format. -/
structure Binary where
  /-- The mantissa. -/
  mantissa : Nat
  /-- The power of two of its last bit. -/
  exponent : Int
  /-- Whether the next smaller number is only half as far away as the next larger one. -/
  isBoundary : Bool
  deriving DecidableEq, Repr

namespace Binary

/-- The factor of a power with a positive exponent. -/
def up (base : Nat) (e : Int) : Nat := Nat.pow base e.toNat

/-- The factor of the denominator of a power with a negative exponent. -/
def down (base : Nat) (e : Int) : Nat := Nat.pow base (-e).toNat

/-- The number in units of a quarter of its last bit. -/
def quarters (b : Binary) : Nat := 4 * b.mantissa * up 2 (b.exponent - 2)

/-- The smallest real that may round to the number, in the same units. -/
def lowest (b : Binary) : Nat :=
  (4 * b.mantissa - if b.isBoundary then 1 else 2) * up 2 (b.exponent - 2)

/-- The largest real that may round to the number, in the same units. -/
def highest (b : Binary) : Nat := (4 * b.mantissa + 2) * up 2 (b.exponent - 2)

/-- The denominator of the units. -/
def unit (b : Binary) : Nat := down 2 (b.exponent - 2)

/-- Whether `c · 10 ^ k` rounds to the number; the ends of the interval do if the mantissa is
even. -/
def accepts (b : Binary) (c : Nat) (k : Int) : Bool :=
  let x := c * up 10 k * b.unit
  let low := b.lowest * down 10 k
  let high := b.highest * down 10 k
  if b.mantissa % 2 = 0 then low ≤ x && x ≤ high else low < x && x < high

/-- The largest multiple of `10 ^ k` that does not exceed the number. -/
def floorAt (b : Binary) (k : Int) : Nat := b.quarters * down 10 k / (up 10 k * b.unit)

/-- The best multiple of `10 ^ k` that rounds to the number. -/
def onGrid? (b : Binary) (k : Int) : Option Nat :=
  let c := b.floorAt k
  let isNearer := 2 * (b.quarters * down 10 k) < (2 * c + 1) * (up 10 k * b.unit)
  match b.accepts c k, b.accepts (c + 1) k with
  | true, true => some (if isNearer then c else c + 1)
  | true, false => some c
  | false, true => some (c + 1)
  | false, false => none

/-- The least exponent `p` from `p₀` on with the number below `10 ^ p`. -/
def magnitude (b : Binary) (p₀ : Int) : Nat → Int
  | 0 => p₀
  | fuel + 1 =>
    if b.quarters * down 10 p₀ < up 10 p₀ * b.unit then p₀ else magnitude b (p₀ + 1) fuel

/-- Tries the grids from `10 ^ k` on downwards. -/
def search (b : Binary) (k : Int) : Nat → Decimal
  | 0 => ⟨b.floorAt k, k⟩
  | fuel + 1 =>
    match b.onGrid? k with
    | some c => ⟨c, k⟩
    | none => search b (k - 1) fuel

/-- The shortest decimal of a double-precision number other than zero: its decimal exponents lie
between -324 and 309, and seventeen digits always suffice. -/
def shortest (b : Binary) : Decimal := b.search (b.magnitude (-324) 640 - 1) 17

/-- The implied leading bit of a double-precision mantissa, above its 52 stored bits. -/
def leadingBit : Nat := 0x10000000000000

/-- The absolute value of a finite double-precision number, from its bits: 52 of the fraction, 11 of
the exponent, and the sign. -/
def ofBits (bits : UInt64) : Binary :=
  let fraction : Nat := bits.toNat % leadingBit
  let biased : Nat := bits.toNat / leadingBit % 0x800
  if biased = 0 then ⟨fraction, -1074, false⟩
  else ⟨leadingBit + fraction, (biased : Int) - 1075, fraction = 0 && 1 < biased⟩

end Binary

namespace Decimal

/-- The digits of a number, at least `width` of them. -/
def padded (width n : Nat) : List Char :=
  let digits := Nat.toDigits 10 n
  List.replicate (width - digits.length) '0' ++ digits

/-- Removes the zeros at the end, but keeps one digit. -/
def dropZeros (digits : List Char) : List Char :=
  match digits.reverse.dropWhile (· == '0') with
  | [] => ['0']
  | rest => rest.reverse

/-- A decimal number without an exponent, with at least one digit on either side of the point. -/
def positional (d : Decimal) : List Char :=
  if 0 ≤ d.exponent then
    Nat.toDigits 10 d.digits ++ List.replicate d.exponent.toNat '0' ++ ['.', '0']
  else
    let places := (-d.exponent).toNat
    let digits := padded (places + 1) d.digits
    let whole := digits.length - places
    digits.take whole ++ '.' :: dropZeros (digits.drop whole)

end Decimal

/-- A double-precision number: its shortest decimal, always with a point. -/
def floatText (x : Float) : String :=
  if x.isNaN then "NaN"
  else
    let sign := if 0x8000000000000000 ≤ x.toBits.toNat then "-" else ""
    if x.isInf then sign ++ "inf"
    else if x == 0 then sign ++ "0.0"
    else sign ++ String.ofList (Binary.ofBits x.toBits).shortest.positional

end HouseStyle
