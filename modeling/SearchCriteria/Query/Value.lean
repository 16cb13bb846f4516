import SearchCriteria.Number.Shortest

/-! Values on the right-hand side of a restriction.
Scalars stand in query text as they are; a range has two bounds. -/
namespace SearchCriteria

inductive Value where
  | text (s : String)
  | int (n : Int64)
  | float (x : Double)
  | bool (b : Bool)
  | wildcard
  /-- Stands for no upper bound where a number has to stand. -/
  | max
  | min
  | range (low high : Value)
  deriving DecidableEq, Inhabited

namespace Value

def unboundedMax : String := "100000000000000000000"

def unboundedMin : String := "-100000000000000000000"

def render : Value → String
  | text s => s
  | int n => toString n.toInt
  | float x => x.text
  | bool b => if b then "true" else "false"
  | wildcard => "*"
  | max => unboundedMax
  | min => unboundedMin
  | range low high => low.render ++ " TO " ++ high.render

def isRange : Value → Bool
  | range _ _ => true
  | _ => false

def bounds? : Value → Option (Value × Value)
  | range low high => some (low, high)
  | _ => none

/-- Counts beyond the signed numbers are kept as their digits. -/
def ofUInt64 (n : UInt64) : Value :=
  if n.toNat ≤ Int64.maxValue.toInt then int (Int64.ofInt n.toNat) else text (toString n.toNat)

def ofNat (n : Nat) : Value := ofUInt64 (UInt64.ofNat n)

/-- Replaces the lower bound; a scalar becomes the upper one. -/
def withLower (low : Value) : Value → Value
  | range _ high => range low high
  | scalar => range low scalar

/-- Replaces the upper bound; a scalar becomes the lower one. -/
def withUpper (high : Value) : Value → Value
  | range low _ => range low high
  | scalar => range scalar high

/-- Equality, with numeric equality on floating-point numbers. -/
def equals : Value → Value → Bool
  | float x, float y => x.equals y
  | range a b, range c d => a.equals c && b.equals d
  | float _, _ => false
  | range _ _, _ => false
  | v, w => v == w

@[simp] theorem render_range (low high : Value) :
    (range low high).render = low.render ++ " TO " ++ high.render := rfl

@[simp] theorem isRange_withLower (low v : Value) : (withLower low v).isRange = true := by
  cases v <;> rfl

@[simp] theorem isRange_withUpper (high v : Value) : (withUpper high v).isRange = true := by
  cases v <;> rfl

end Value
end SearchCriteria
