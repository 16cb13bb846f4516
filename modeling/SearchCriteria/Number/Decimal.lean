import SearchCriteria.Number.Double

/-! Decimal numerals and the floating-point numbers nearest to them.
A numeral is a coefficient times a power of ten; a text is read as a numeral with an
optional sign, point and exponent, or as one of the names of the special numbers. -/
namespace SearchCriteria

/-- The number `coefficient * 10 ^ exponent`. -/
structure Decimal where
  coefficient : Nat
  exponent : Int
  deriving DecidableEq, Inhabited

def digitsValue (cs : List Char) : Nat :=
  cs.foldl (fun n c => 10 * n + (c.toNat - '0'.toNat)) 0

def digitCount (n : Nat) : Nat := (Nat.toDigits 10 n).length

def isInt64 (n : Int) : Bool := Int64.minValue.toInt ≤ n && n ≤ Int64.maxValue.toInt

namespace Decimal

/-- Rounds with the given rule; far outside the range the answer needs no arithmetic. -/
def roundWith (round : Bool → Nat → Nat → Double) (negative : Bool) (d : Decimal) : Double :=
  let top := (digitCount d.coefficient : Int) + d.exponent
  if d.coefficient = 0 then .zero negative
  else if 400 < top then .infinite negative
  else if top < -400 then .zero negative
  else round negative (d.coefficient * Nat.pow 10 d.exponent.toNat) (Nat.pow 10 (-d.exponent).toNat)

def toDouble (negative : Bool) (d : Decimal) : Double := roundWith .ofRatio negative d

def readInteger? : List Char → Option Int
  | '+' :: r => if !r.isEmpty && r.all Char.isDigit then some (digitsValue r) else none
  | '-' :: r => if !r.isEmpty && r.all Char.isDigit then some (-digitsValue r) else none
  | r => if !r.isEmpty && r.all Char.isDigit then some (digitsValue r) else none

/-- A numeral without sign: digits around an optional point, then an optional exponent. -/
def read? (cs : List Char) : Option Decimal :=
  let whole := cs.takeWhile Char.isDigit
  let rest := cs.dropWhile Char.isDigit
  let (fraction, rest) := match rest with
    | '.' :: r => (r.takeWhile Char.isDigit, r.dropWhile Char.isDigit)
    | r => ([], r)
  let exponent? := match rest with
    | [] => some 0
    | c :: r => if c = 'e' || c = 'E' then readInteger? r else none
  if whole.isEmpty && fraction.isEmpty then none
  else exponent?.map fun e => ⟨digitsValue (whole ++ fraction), e - fraction.length⟩

def readMagnitude? (round : Bool → Nat → Nat → Double) (negative : Bool) (cs : List Char) :
    Option Double :=
  let name := cs.map Char.toLower
  if name = "nan".toList then some .nan
  else if name = "inf".toList || name = "infinity".toList then some (.infinite negative)
  else (read? cs).map (roundWith round negative)

def readWith? (round : Bool → Nat → Nat → Double) : List Char → Option Double
  | '+' :: r => readMagnitude? round false r
  | '-' :: r => readMagnitude? round true r
  | r => readMagnitude? round false r

end Decimal

namespace Double

def ofText? (s : String) : Option Double := Decimal.readWith? ofRatio s.toList
def ofTextSingle? (s : String) : Option Double := Decimal.readWith? ofRatioSingle s.toList

end Double
end SearchCriteria
