/-! Double-precision numbers as bit patterns.
A finite number is a whole count of units of 2^-1074, so every operation here is exact
arithmetic on natural numbers followed by one rounding to the nearest number. -/
namespace SearchCriteria

/-- A sign bit, eleven exponent bits and fifty-two fraction bits. -/
structure Double where
  bits : UInt64
  deriving DecidableEq, Inhabited

namespace Double

def isNegative (x : Double) : Bool := 1 <<< 63 ≤ x.bits.toNat

/-- The pattern without its sign; larger patterns stand for larger numbers. -/
def magnitude (x : Double) : Nat := x.bits.toNat % 1 <<< 63

/-- The magnitude of the infinities; every larger one is not a number. -/
def infinity : Nat := 2047 <<< 52

def isNaN (x : Double) : Bool := infinity < x.magnitude
def isInfinite (x : Double) : Bool := x.magnitude == infinity

def mantissa (x : Double) : Nat :=
  if x.magnitude < 1 <<< 52 then x.magnitude else 1 <<< 52 + x.magnitude % 1 <<< 52

/-- How many places the mantissa stands above the units. -/
def scale (x : Double) : Nat := x.magnitude >>> 52 - 1

/-- The absolute value in units of 2^-1074, for a finite number. -/
def units (x : Double) : Nat := x.mantissa <<< x.scale

def ofMagnitude (negative : Bool) (m : Nat) : Double :=
  ⟨UInt64.ofNat (if negative then 1 <<< 63 + m else m)⟩

def zero (negative : Bool) : Double := ofMagnitude negative 0
def infinite (negative : Bool) : Double := ofMagnitude negative infinity
def nan : Double := ofMagnitude false (infinity + 1 <<< 51)

/-- Numeric equality: the two zeros are equal, and what is not a number equals nothing. -/
def equals (x y : Double) : Bool :=
  !x.isNaN && !y.isNaN && (x == y || x.magnitude == 0 && y.magnitude == 0)

/-- The whole number nearest to a quotient, the even one of two that are equally near. -/
def nearest (num den : Nat) : Nat :=
  let q := num / den
  let r := num % den
  if 2 * r < den then q else if den < 2 * r then q + 1 else q + q % 2

def ofRatio (negative : Bool) (num den : Nat) : Double :=
  let n := num <<< 1074
  let shift := (n / den).log2 - 52
  ofMagnitude negative (min infinity (shift <<< 52 + nearest n (den <<< shift)))

/-- The double that holds the single-precision number nearest to a quotient. -/
def ofRatioSingle (negative : Bool) (num den : Nat) : Double :=
  let n := num <<< 149
  let shift := (n / den).log2 - 23
  let k := nearest n (den <<< shift) <<< shift
  if 1 <<< 277 ≤ k then infinite negative else ofRatio negative k (1 <<< 149)

def ofNat (n : Nat) : Double := ofRatio false n 1

def negate (x : Double) : Double := ofMagnitude (!x.isNegative) x.magnitude

def addMagnitudes (x y : Double) : Double := ofRatio false (x.units + y.units) (1 <<< 1074)

def mulMagnitudes (x y : Double) : Double := ofRatio false (x.units * y.units) (1 <<< 2148)

def divMagnitudes (x y : Double) : Double := ofRatio false x.units y.units

def atMost (x : Double) (n : Nat) : Bool := !x.isNaN && !x.isInfinite && x.units ≤ n <<< 1074

/-- The nearest count of 64 bits, halves away from zero; what lies outside goes to the
nearer end, and what is not a number to zero. -/
def toCount (x : Double) : UInt64 :=
  if x.isNaN then 0
  else if x.isNegative then 0
  else if x.isInfinite then UInt64.ofNat (UInt64.size - 1)
  else UInt64.ofNat (min (UInt64.size - 1) ((2 * x.units + 1 <<< 1074) >>> 1075))

end Double
end SearchCriteria
