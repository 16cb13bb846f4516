import SearchCriteria.Json.Basic
import SearchCriteria.Text.Hex

/-! Reading JSON text.
A number without point and exponent that fits 64 bits is a whole number, every other one
is a floating-point number; of two fields with one name the later stays. -/
namespace SearchCriteria.Json

/-- Digits read onto a significand as long as it fits 64 bits, their number, and the rest. -/
def takeDigits (significand : Nat) : List Char → Nat × Nat × List Char
  | [] => (significand, 0, [])
  | c :: rest =>
    let next := 10 * significand + (c.toNat - '0'.toNat)
    if c.isDigit && next < UInt64.size then
      let (s, taken, left) := takeDigits next rest
      (s, taken + 1, left)
    else (significand, 0, c :: rest)

def powerOfTen (k : Nat) : Double := .ofRatio false (Nat.pow 10 k) 1

/-- Divides by a power of ten, in steps no larger than the greatest such power. -/
def scaleDown : Nat → Double → Nat → Double
  | 0, x, _ => x
  | steps + 1, x, k =>
    if k ≤ 308 then x.divMagnitudes (powerOfTen k)
    else scaleDown steps (x.divMagnitudes (powerOfTen 308)) (k - 308)

/-- A significand of 64 bits scaled by a power of ten, each step rounded; none beyond range. -/
def scaled? (significand : Nat) (exponent : Int) : Option Double :=
  let x := Double.ofNat significand
  if significand = 0 then some x
  else if exponent < 0 then some (scaleDown 4 x exponent.natAbs)
  else if 308 < exponent then none
  else
    let y := x.mulMagnitudes (powerOfTen exponent.toNat)
    if y.isInfinite then none else some y

def exponentPart? (cs : List Char) : Option (Option Int × List Char) :=
  match cs with
  | c :: rest =>
    if c = 'e' || c = 'E' then
      let (negative, rest) := match rest with
        | '+' :: r => (false, r)
        | '-' :: r => (true, r)
        | r => (false, r)
      let digits := rest.takeWhile Char.isDigit
      if digits.isEmpty then none
      else
        let e : Int := digitsValue digits
        some (some (if negative then -e else e), rest.dropWhile Char.isDigit)
    else some (none, cs)
  | [] => some (none, [])

def unsigned? (negative : Bool) (cs : List Char) : Option (Json × List Char) :=
  match cs with
  | [] => none
  | first :: _ =>
    let (whole, taken, rest) := takeDigits 0 cs
    if !first.isDigit || (first = '0' && taken ≠ 1) then none
    else
      let dropped := (rest.takeWhile Char.isDigit).length
      let rest := rest.dropWhile Char.isDigit
      let fraction? : Option (Option (Nat × Nat) × List Char) := match rest with
        | '.' :: r =>
          let (significand, taken, r') := takeDigits whole r
          if (r.headD ' ').isDigit then some (some (significand, taken), r'.dropWhile Char.isDigit)
          else none
        | r => some (none, r)
      match fraction? with
      | none => none
      | some (fraction, rest) =>
        match exponentPart? rest with
        | none => none
        | some (exponent, rest) =>
          if fraction.isNone && exponent.isNone && dropped = 0 then
            if !negative then some (.int whole, rest)
            else if whole = 0 || -whole < Int64.minValue.toInt then
              some (.float (Double.ofNat whole).negate, rest)
            else some (.int (-whole), rest)
          else
            let (significand, places) := fraction.getD (whole, 0)
            let e : Int := exponent.getD 0 + dropped - places
            (scaled? significand e).map fun x =>
              (.float (if negative then x.negate else x), rest)

def number? : List Char → Option (Json × List Char)
  | '-' :: rest => unsigned? true rest
  | cs => unsigned? false cs

/-- The character named by the digits after `\u`; a high surrogate needs its low one. -/
def escapedUnit? (cs : List Char) : Option (Char × List Char) := do
  let (n, rest) ← Text.hexRun? 4 cs
  if 0xD800 ≤ n && n < 0xDC00 then
    match rest with
    | '\\' :: 'u' :: rest =>
      let (m, rest) ← Text.hexRun? 4 rest
      if 0xDC00 ≤ m && m < 0xE000 then
        return (Char.ofNat (0x10000 + (n - 0xD800) * 0x400 + (m - 0xDC00)), rest)
      else none
    | _ => none
  else return (← Text.scalar? n, rest)

def string? : Nat → List Char → Option (List Char × List Char)
  | 0, _ => none
  | _ + 1, [] => none
  | _ + 1, '"' :: rest => some ([], rest)
  | fuel + 1, '\\' :: 'u' :: rest => do
    let (c, rest) ← escapedUnit? rest
    let (cs, rest) ← string? fuel rest
    return (c :: cs, rest)
  | fuel + 1, '\\' :: e :: rest => do
    let c ← match e with
      | '"' => some '"'
      | '\\' => some '\\'
      | '/' => some '/'
      | 'b' => some (Char.ofNat 8)
      | 'f' => some (Char.ofNat 12)
      | 'n' => some '\n'
      | 'r' => some '\r'
      | 't' => some '\t'
      | _ => none
    let (cs, rest) ← string? fuel rest
    return (c :: cs, rest)
  | fuel + 1, c :: rest => do
    if c.toNat < 0x20 || c = '\\' then none
    else
      let (cs, rest) ← string? fuel rest
      return (c :: cs, rest)

def skipSpace (cs : List Char) : List Char :=
  cs.dropWhile fun c => c = ' ' || c = '\n' || c = '\r' || c = '\t'

mutual

def value? : Nat → List Char → Option (Json × List Char)
  | 0, _ => none
  | fuel + 1, cs =>
    match skipSpace cs with
    | [] => none
    | 'n' :: 'u' :: 'l' :: 'l' :: rest => some (.null, rest)
    | 't' :: 'r' :: 'u' :: 'e' :: rest => some (.bool true, rest)
    | 'f' :: 'a' :: 'l' :: 's' :: 'e' :: rest => some (.bool false, rest)
    | '"' :: rest => (string? (rest.length + 1) rest).map fun (s, r) => (.str (String.ofList s), r)
    | '[' :: rest =>
      match skipSpace rest with
      | ']' :: rest => some (.arr [], rest)
      | rest => (items? fuel rest).map fun (xs, r) => (.arr xs, r)
    | '\x7b' :: rest =>
      match skipSpace rest with
      | '\x7d' :: rest => some (.obj [], rest)
      | rest => (fields? fuel [] rest).map fun (fs, r) => (.obj fs, r)
    | rest => number? rest

def items? : Nat → List Char → Option (List Json × List Char)
  | 0, _ => none
  | fuel + 1, cs => do
    let (x, rest) ← value? fuel cs
    match skipSpace rest with
    | ',' :: rest =>
      let (xs, rest) ← items? fuel rest
      return (x :: xs, rest)
    | ']' :: rest => return ([x], rest)
    | _ => none

def fields? : Nat → NameTable Json → List Char → Option (NameTable Json × List Char)
  | 0, _, _ => none
  | fuel + 1, fields, cs =>
    match skipSpace cs with
    | '"' :: rest => do
      let (name, rest) ← string? (rest.length + 1) rest
      match skipSpace rest with
      | ':' :: rest =>
        let (x, rest) ← value? fuel rest
        let fields := NameTable.set (String.ofList name) x fields
        match skipSpace rest with
        | ',' :: rest => fields? fuel fields rest
        | '\x7d' :: rest => return (fields, rest)
        | _ => none
      | _ => none
    | _ => none

end

def read? (s : String) : Option Json :=
  match value? (2 * s.length + 2) s.toList with
  | some (j, rest) => if (skipSpace rest).isEmpty then some j else none
  | none => none

example : (read? "\x7b\"b\":[1,-0,1e2],\"a\":\"\\u00e9\"\x7d").map text =
    some "\x7b\"a\":\"é\",\"b\":[1,-0.0,100.0]\x7d" := by decide +kernel

end SearchCriteria.Json
