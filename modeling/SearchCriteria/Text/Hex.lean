/-! Hexadecimal digits and the characters that they name. -/
namespace SearchCriteria.Text

def hexDigit? (c : Char) : Option Nat :=
  if c.isDigit then some (c.toNat - '0'.toNat)
  else if 'a' ≤ c && c ≤ 'f' then some (c.toNat - 'a'.toNat + 10)
  else if 'A' ≤ c && c ≤ 'F' then some (c.toNat - 'A'.toNat + 10)
  else none

/-- The value of exactly `n` digits, and what follows them. -/
def hexRun? (n : Nat) (cs : List Char) : Option (Nat × List Char) :=
  let ds := (cs.take n).filterMap hexDigit?
  if ds.length = n then some (ds.foldl (fun v d => 16 * v + d) 0, cs.drop n) else none

def scalar? (n : Nat) : Option Char :=
  if n < 0xD800 || (0xDFFF < n && n < 0x110000) then some (Char.ofNat n) else none

example : hexRun? 4 "00e9x".toList = some (0xE9, ['x']) := by decide +kernel
example : hexRun? 4 "00g9".toList = none := by decide +kernel

end SearchCriteria.Text
