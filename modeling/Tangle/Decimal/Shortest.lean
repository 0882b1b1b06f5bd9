/-!
# Shortest decimals

The shortest decimal number that reads back as a given binary floating-point number. A positive
finite number is `significand * 2 ^ exponent`. The reals that round to it form an interval around
it, its ends included when the significand is even. For a growing number of digits the two
neighbours of the number on the grid of decimals with that many digits are tried; the first grid
with a neighbour inside the interval gives the answer, the nearer one if both are inside.

All comparisons are made between natural numbers.
-/

namespace Tangle.Decimal

/-- A positive number `significand * 2 ^ exponent`, and whether the gap below it is half of the gap
above it. -/
structure Binary where
  significand : Nat
  exponent : Int
  narrowBelow : Bool
  deriving Repr

/-- A positive decimal `digits * 10 ^ exponent`. -/
structure Scaled where
  digits : Nat
  exponent : Int
  deriving Repr, DecidableEq

/-- The positive number with the given bits, sign aside. -/
def Binary.ofBits (bits : UInt64) : Binary :=
  let fraction := (bits &&& 0xFFFFFFFFFFFFF).toNat
  let scale := ((bits >>> 52) &&& 0x7FF).toNat
  if scale = 0 then ⟨fraction, -1074, false⟩
  else ⟨fraction + Nat.pow 2 52, (scale : Int) - 1075, fraction = 0 && 1 < scale⟩

/-- `d * 10 ^ p` and `x * 2 ^ q`, brought to a common denominator. -/
def common (d : Nat) (p : Int) (x : Nat) (q : Int) : Nat × Nat :=
  (d * Nat.pow 10 p.toNat * Nat.pow 2 (-q).toNat,
    x * Nat.pow 2 q.toNat * Nat.pow 10 (-p).toNat)

namespace Binary

/-- The number, and the ends of its interval, in quarters of the unit of its significand. -/
def quarters (b : Binary) : Nat := 4 * b.significand

/-- The lower end. -/
def low (b : Binary) : Nat := b.quarters - if b.narrowBelow then 1 else 2

/-- The upper end. -/
def high (b : Binary) : Nat := b.quarters + 2

/-- Whether a decimal lies in the interval. -/
def holds (b : Binary) (d : Scaled) : Bool :=
  let (below, low) := common d.digits d.exponent b.low (b.exponent - 2)
  let (above, high) := common d.digits d.exponent b.high (b.exponent - 2)
  if b.significand % 2 = 0 then low ≤ below && above ≤ high else low < below && above < high

/-- The least `k` from `k` on, within `fuel` steps, for which the number is below `10 ^ k`. -/
def scaleFrom (b : Binary) : Nat → Int → Int
  | 0, k => k
  | fuel + 1, k =>
    let (power, value) := common 1 k b.quarters (b.exponent - 2)
    if value < power then k else scaleFrom b fuel (k + 1)

/-- The decimal below or at the number on the grid of multiples of `10 ^ p`. -/
def floorAt (b : Binary) (p : Int) : Nat :=
  let (unit, value) := common 1 p b.quarters (b.exponent - 2)
  value / unit

/-- Whether the upper neighbour on a grid is nearer than the lower one, `d`. -/
def nearerAbove (b : Binary) (d : Nat) (p : Int) : Bool :=
  let (twice, value) := common (2 * d + 1) p (2 * b.quarters) (b.exponent - 2)
  twice < value || (twice = value && d % 2 = 1)

/-- Tries grids from `digits` digits on. The number is below `10 ^ scale`. -/
def searchFrom (b : Binary) (scale : Int) : Nat → Nat → Scaled
  | 0, digits => ⟨b.floorAt (scale - digits), scale - digits⟩
  | fuel + 1, digits =>
    let p := scale - digits
    let lower : Scaled := ⟨b.floorAt p, p⟩
    let upper : Scaled := ⟨b.floorAt p + 1, p⟩
    match b.holds lower && 0 < lower.digits, b.holds upper with
    | true, true => if b.nearerAbove lower.digits p then upper else lower
    | true, false => lower
    | false, true => upper
    | false, false => searchFrom b scale fuel (digits + 1)

/-- The shortest decimal in the interval of a number. -/
def shortest (b : Binary) : Scaled := b.searchFrom (b.scaleFrom 700 (-330)) 17 1

end Binary

/-! ## Layout -/

/-- A number's decimal digits. -/
def digitsOf (n : Nat) : List Char := (toString n).toList

/-- Digits without the zeros at their end, and how many there were. -/
def dropZeros (digits : List Char) : List Char × Nat :=
  let kept := (digits.reverse.dropWhile (· = '0')).reverse
  (kept, digits.length - kept.length)

/-- A decimal in positional notation, always with a point and a digit after it. -/
def positional (d : Scaled) : List Char :=
  let (digits, zeros) := dropZeros (digitsOf d.digits)
  let exponent := d.exponent + zeros
  let point := (digits.length : Int) + exponent
  if 0 ≤ exponent then digits ++ List.replicate exponent.toNat '0' ++ ['.', '0']
  else if 0 < point then digits.take point.toNat ++ '.' :: digits.drop point.toNat
  else '0' :: '.' :: List.replicate (-point).toNat '0' ++ digits

/-- A decimal with one digit before the point and a power of ten. -/
def scientific (d : Scaled) : List Char :=
  let (digits, zeros) := dropZeros (digitsOf d.digits)
  let power := (digits.length : Int) + d.exponent + zeros - 1
  let tail := digits.tail
  digits.take 1 ++ (if tail.isEmpty then [] else '.' :: tail) ++ 'e' :: (toString power).toList

/-- A text of a number, `finite` laying out the decimal of a positive finite one. -/
def textWith (finite : Scaled → List Char) (x : Float) : List Char :=
  if x.isNaN then ['N', 'a', 'N']
  else
    let bits := x.toBits
    let sign : List Char := if bits >>> 63 = 1 then ['-'] else []
    if x.isInf then sign ++ ['i', 'n', 'f']
    else if bits &&& 0x7FFFFFFFFFFFFFFF = 0 then sign ++ ['0', '.', '0']
    else sign ++ finite (Binary.ofBits bits).shortest

/-- A number in positional notation, however large or small. -/
def plainText (x : Float) : List Char := textWith positional x

/-- A number in positional notation between a hundred-thousandth and ten to the sixteenth, and
outside with a power of ten. -/
def compactText (x : Float) : List Char :=
  textWith
    (fun d =>
      let power := ((digitsOf d.digits).length : Int) + d.exponent - 1
      if -5 ≤ power && power < 16 then positional d else scientific d)
    x

end Tangle.Decimal
