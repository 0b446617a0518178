import BasicWorkbench.NumberText

namespace BasicWorkbench

/-- A number as written: a sign, digits and a power of ten. -/
structure Decimal where
  negative : Bool
  digits : Nat
  exponent : Int
  deriving DecidableEq, Repr

/-- A magnitude in double precision: `mantissa` times two to the `exponent`, or past all of them. -/
inductive Magnitude where
  | finite (mantissa : Nat) (exponent : Int)
  | infinite
  deriving DecidableEq, Repr

/-- The quotient as a ratio with the power of `base` multiplied in. -/
def scaleRatio (base : Nat) (power : Int) (num den : Nat) : Nat × Nat :=
  if 0 ≤ power then (num * base.pow power.toNat, den) else (num, den * base.pow (-power).toNat)

def roundRatio (num den : Nat) : Nat :=
  let q := num / den
  let r := num % den
  if 2 * r < den || (2 * r == den && q % 2 == 0) then q else q + 1

def nearestDouble (num den : Nat) : Magnitude :=
  let guess : Int := (num.log2 : Int) - den.log2 - 52
  let (n, d) := scaleRatio 2 (-guess) num den
  let exponent := max (if n < d * Nat.pow 2 52 then guess - 1 else guess) (-1074)
  let (n, d) := scaleRatio 2 (-exponent) num den
  let m := roundRatio n d
  if m = Nat.pow 2 53 then (if exponent + 1 > 971 then .infinite else .finite (Nat.pow 2 52) (exponent + 1))
  else if exponent > 971 then .infinite
  else .finite m exponent

/-- The double nearest to a written number, apart from the sign. Powers of ten far outside the
range are settled by the place of the first digit. -/
def Decimal.magnitude (x : Decimal) : Magnitude :=
  let place := ((natText x.digits).length : Int) + x.exponent
  if x.digits = 0 || place < -330 then .finite 0 0
  else if 320 < place then .infinite
  else
    let (n, d) := scaleRatio 10 x.exponent x.digits 1
    nearestDouble n d

/-- The place of the first digit of a positive ratio: it lies below that power of ten and not below
the one before. -/
def decimalPlace (num den : Nat) : Int :=
  let guess : Int := (natText num).length - (natText den).length
  let (n, d) := scaleRatio 10 (-guess) num den
  if d ≤ n then guess + 1 else guess

/-- The nearer of the two numbers of `count` digits around the double that read back as it. -/
def digitsReadingBack? (mantissa : Nat) (exponent : Int) (count : Nat) : Option (Nat × Int) :=
  let (num, den) := scaleRatio 2 exponent mantissa 1
  let power := decimalPlace num den - count
  let (n, d) := scaleRatio 10 (-power) num den
  let low := n / d
  let readsBack (c : Nat) : Bool :=
    let (cn, cd) := scaleRatio 10 power c 1
    c != 0 && nearestDouble cn cd == .finite mantissa exponent
  match readsBack low, readsBack (low + 1) with
  | true, true => some (roundRatio n d, power)
  | true, false => some (low, power)
  | false, true => some (low + 1, power)
  | false, false => none

def shortestDigits (mantissa : Nat) (exponent : Int) : Nat × Int :=
  ((List.range 17).findSome? fun i => digitsReadingBack? mantissa exponent (i + 1)).getD (0, 0)

def placeDigits (digits : Nat) (exponent : Int) : Text :=
  let all := natText digits
  let shown := (all.reverse.dropWhile (· == '0')).reverse
  let place : Int := all.length + exponent
  if -4 < place && place ≤ 16 then
    if place ≤ 0 then "0." ++ List.replicate (-place).toNat '0' ++ shown
    else
      let whole := shown.take place.toNat
      let part := shown.drop place.toNat
      whole ++ List.replicate (place.toNat - whole.length) '0' ++
        '.' :: (if part.isEmpty then ['0'] else part)
  else
    let power := place - 1
    let mark : Char := if power < 0 then '-' else '+'
    let size := natText power.natAbs
    shown.take 1 ++ (if shown.length ≤ 1 then [] else '.' :: shown.drop 1) ++
      'e' :: mark :: (List.replicate (2 - size.length) '0' ++ size)

def Magnitude.wholePart? : Magnitude → Option (Nat × Bool)
  | .finite m e =>
    let (num, den) := scaleRatio 2 e m 1
    some (num / den, num % den == 0)
  | .infinite => none

def Decimal.isZero (x : Decimal) : Bool :=
  match x.magnitude with
  | .finite m _ => m == 0
  | .infinite => false

/-- The text of a magnitude: the shortest that reads back as the same double. -/
def Magnitude.text : Magnitude → Text
  | .finite 0 _ => "0.0"
  | .finite m e =>
    let (digits, power) := shortestDigits m e
    placeDigits digits power
  | .infinite => "inf"

/-- A number in double precision: one that digits write, an infinite one, or none at all. -/
inductive RealNumber where
  | decimal (x : Decimal)
  | infinite (negative : Bool)
  | undefined
  deriving DecidableEq, Repr

namespace RealNumber

def isZero : RealNumber → Bool
  | .decimal x => x.isZero
  | .infinite _ | .undefined => false

def isPositive : RealNumber → Bool
  | .decimal x => !x.negative && !x.isZero
  | .infinite negative => !negative
  | .undefined => false

def wholePart? : RealNumber → Option (Int × Bool)
  | .decimal x =>
    x.magnitude.wholePart?.map fun (n, exact) => (if x.negative then -(n : Int) else n, exact)
  | .infinite _ | .undefined => none

def text : RealNumber → Text
  | .decimal x => if x.negative then '-' :: x.magnitude.text else x.magnitude.text
  | .infinite negative => if negative then "-inf" else "inf"
  | .undefined => "nan"

end RealNumber

end BasicWorkbench
