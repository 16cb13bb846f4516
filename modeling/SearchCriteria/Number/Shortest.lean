import SearchCriteria.Number.Decimal

/-! The fewest decimal digits that read back as a given double, and their layout.
The grids of one, two, … seventeen digits are tried in turn: the first on which one of
the number's two neighbours reads back gives the digits. -/
namespace SearchCriteria

structure DecimalStyle where
  /-- Of two shortest decimals that are equally near, the larger is taken, else the even. -/
  tiesUp : Bool
  /-- The exponents of the leading digit that are written without an exponent; all if none. -/
  plain : Option (Int × Int)
  pointZero : Bool
  /-- What stands between the mark and the digits of an exponent that is not negative. -/
  plus : String

namespace Double

def quarters (x : Double) : Nat := 4 * x.units

/-- Half the gap to the next number above, in quarters of a unit. -/
def reachAbove (x : Double) : Nat := 2 <<< x.scale

/-- Half the gap to the next number below, which is narrow at a power of two. -/
def reachBelow (x : Double) : Nat :=
  if x.mantissa = 1 <<< 52 && 0 < x.scale then 1 <<< x.scale else 2 <<< x.scale

/-- Numerator and denominator of `10 ^ place` in quarters of a unit. -/
def gridStep (place : Int) : Nat × Nat :=
  (Nat.pow 10 place.toNat <<< 1076, Nat.pow 10 (-place).toNat)

/-- Whether `c * 10 ^ place` rounds to `x`; the ends round to the even neighbour. -/
def readsBack (x : Double) (c : Nat) (place : Int) : Bool :=
  let (num, den) := gridStep place
  let low := (x.quarters - x.reachBelow) * den
  let high := (x.quarters + x.reachAbove) * den
  if x.mantissa % 2 = 0 then low ≤ c * num && c * num ≤ high
  else low < c * num && c * num < high

/-- The neighbour of `x` on a grid that reads back, the nearer one if both do. -/
def gridDigits? (x : Double) (tiesUp : Bool) (place : Int) : Option (Nat × Int) :=
  let (num, den) := gridStep place
  let v := x.quarters * den
  let c := v / num
  match x.readsBack c place, x.readsBack (c + 1) place with
  | false, false => none
  | true, false => some (c, place)
  | false, true => some (c + 1, place)
  | true, true =>
    if 2 * v < (2 * c + 1) * num then some (c, place)
    else if (2 * c + 1) * num < 2 * v then some (c + 1, place)
    else if tiesUp || c % 2 = 1 then some (c + 1, place) else some (c, place)

def leadingPlace (x : Double) : Int :=
  (digitCount ((x.quarters * Nat.pow 10 400) >>> 1076) : Int) - 401

def shortest (x : Double) (tiesUp : Bool) : Nat × Int :=
  let e := x.leadingPlace
  let tried := (List.range 17).findSome? fun (n : Nat) => x.gridDigits? tiesUp (e - (n : Int))
  tried.getD (x.quarters * (gridStep (e - 16)).2 / (gridStep (e - 16)).1, e - 16)

end Double

namespace DecimalStyle

def dropTrailingZeros (ds : List Char) : List Char := (ds.reverse.dropWhile (· == '0')).reverse

def layout (style : DecimalStyle) (ds : List Char) (e : Int) : List Char :=
  let isPlain := match style.plain with
    | none => true
    | some (first, last) => first ≤ e && e ≤ last
  if !isPlain then
    let fraction := if ds.length ≤ 1 then [] else '.' :: ds.drop 1
    let sign := if e < 0 then ['-'] else style.plus.toList
    ds.take 1 ++ fraction ++ ['e'] ++ sign ++ Nat.toDigits 10 e.natAbs
  else if e < 0 then
    ['0', '.'] ++ List.replicate (e.natAbs - 1) '0' ++ ds
  else if ds.length ≤ e.toNat + 1 then
    ds ++ List.replicate (e.toNat + 1 - ds.length) '0' ++
      (if style.pointZero then ['.', '0'] else [])
  else ds.take (e.toNat + 1) ++ ['.'] ++ ds.drop (e.toNat + 1)

def renderMagnitude (style : DecimalStyle) (x : Double) : List Char :=
  if x.magnitude = 0 then '0' :: (if style.pointZero then ['.', '0'] else [])
  else
    let (c, place) := x.shortest style.tiesUp
    let ds := Nat.toDigits 10 c
    style.layout (dropTrailingZeros ds) (place + ds.length - 1)

/-- The text of a number; the sign of zero is kept, and what is not a number has none. -/
def render (style : DecimalStyle) (x : Double) : String :=
  if x.isNaN then "NaN"
  else
    let body := if x.isInfinite then "inf".toList else style.renderMagnitude x
    String.ofList (if x.isNegative then '-' :: body else body)

end DecimalStyle

/-- Query text writes numbers in full, without exponent and without a point for whole ones. -/
def Double.queryStyle : DecimalStyle where
  tiesUp := true
  plain := none
  pointZero := false
  plus := ""

/-- JSON text marks whole numbers by `.0` and uses an exponent far from one. -/
def Double.jsonStyle : DecimalStyle where
  tiesUp := false
  plain := some (-5, 15)
  pointZero := true
  plus := "+"

def Double.text (x : Double) : String := queryStyle.render x

example : (Double.ofText? "0.1").map Double.text = some "0.1" := by decide +kernel
example : (Double.ofText? "2.98023223876953125e-8").map Double.text =
    some "0.000000029802322387695313" := by decide +kernel
example : (Double.ofText? "-0.0").map Double.text = some "-0" := by decide +kernel
example : (Double.ofText? "1e23").map Double.text = some "100000000000000000000000" := by
  decide +kernel
example : (Double.ofTextSingle? "0.1").map Double.text = some "0.10000000149011612" := by
  decide +kernel
example : (Double.ofText? "100").map Double.jsonStyle.render = some "100.0" := by decide +kernel

end SearchCriteria
