import SearchCriteria.Number.Decimal
import SearchCriteria.Text.Hex

/-! Numerals of TOML.
Digits may be grouped by single underscores. A whole number has to fit 64 bits with sign, and
only below zero may a number be too large to be finite. -/
namespace SearchCriteria.Toml

/-- Digits after the first one, each alone or after an underscore. -/
def moreDigits? (isDigit : Char → Bool) : List Char → Option (List Char × List Char)
  | '_' :: d :: rest =>
    if isDigit d then (moreDigits? isDigit rest).map fun (ds, r) => (d :: ds, r) else none
  | ['_'] => none
  | d :: rest =>
    if isDigit d then (moreDigits? isDigit rest).map fun (ds, r) => (d :: ds, r)
    else some ([], d :: rest)
  | [] => some ([], [])

def digits? (isDigit : Char → Bool) : List Char → Option (List Char × List Char)
  | d :: rest =>
    if isDigit d then (moreDigits? isDigit rest).map fun (ds, r) => (d :: ds, r) else none
  | [] => none

/-- A number in the notation of a base that is a power of two. -/
def based? (base : Nat) (cs : List Char) : Option (Int × List Char) := do
  let isDigit (c : Char) : Bool :=
    match Text.hexDigit? c with
    | some d => d < base
    | none => false
  let (ds, rest) ← digits? isDigit cs
  let n := ds.foldl (fun v d => base * v + (Text.hexDigit? d).getD 0) 0
  if isInt64 n then some (n, rest) else none

/-- Whole part of a decimal number: no zero stands in front of other digits. -/
def whole? : List Char → Option (List Char × List Char)
  | '0' :: rest => some (['0'], rest)
  | cs => digits? Char.isDigit cs

def exponent? : List Char → Option (Option Int × List Char)
  | c :: rest =>
    if c = 'e' || c = 'E' then
      let (negative, rest) := match rest with
        | '-' :: r => (true, r)
        | '+' :: r => (false, r)
        | r => (false, r)
      (digits? Char.isDigit rest).map fun (ds, r) =>
        let n : Int := digitsValue ds
        (some (if negative then -n else n), r)
    else some (none, c :: rest)
  | [] => some (none, [])

/-- A number: whole, or with a fraction or an exponent. -/
inductive Numeral
  | int (n : Int)
  | float (x : Double)
  deriving DecidableEq, Inhabited

def finite? (negative : Bool) (d : Decimal) : Option Numeral :=
  let x := d.toDouble negative
  if x.isInfinite && !negative then none else some (.float x)

def decimal? (negative : Bool) (cs : List Char) : Option (Numeral × List Char) := do
  let (whole, rest) ← whole? cs
  match rest with
  | '.' :: rest =>
    let (fraction, rest) ← digits? Char.isDigit rest
    let (e, rest) ← exponent? rest
    let d : Decimal := ⟨digitsValue (whole ++ fraction), e.getD 0 - fraction.length⟩
    return (← finite? negative d, rest)
  | rest =>
    let (e, rest) ← exponent? rest
    match e with
    | some e => return (← finite? negative ⟨digitsValue whole, e⟩, rest)
    | none =>
      let n : Int := if negative then -digitsValue whole else digitsValue whole
      if isInt64 n then return (.int n, rest) else none

def signed? (negative : Bool) : List Char → Option (Numeral × List Char)
  | 'i' :: 'n' :: 'f' :: rest => some (.float (.infinite negative), rest)
  | 'n' :: 'a' :: 'n' :: rest => some (.float .nan, rest)
  | cs => decimal? negative cs

def numeral? : List Char → Option (Numeral × List Char)
  | '+' :: rest => signed? false rest
  | '-' :: rest => signed? true rest
  | '0' :: 'x' :: rest => (based? 16 rest).map fun (n, r) => (.int n, r)
  | '0' :: 'o' :: rest => (based? 8 rest).map fun (n, r) => (.int n, r)
  | '0' :: 'b' :: rest => (based? 2 rest).map fun (n, r) => (.int n, r)
  | cs => signed? false cs

example : numeral? "1_000 ".toList = some (.int 1000, [' ']) := by decide +kernel
example : numeral? "007".toList = some (.int 0, ['0', '7']) := by decide +kernel
example : numeral? "1__0".toList = none := by decide +kernel

end SearchCriteria.Toml
