import SearchCriteria.Config.Setting
import SearchCriteria.Number.Decimal

/-! Paths to settings, as text: names with dots between them, and positions in brackets.
A text that is no path is the name of one setting. -/
namespace SearchCriteria.Setting

def isNameChar (c : Char) : Bool := c.isAlphanum || c = '_' || c = '-' || c = ' '

def takeName? (cs : List Char) : Option (String × List Char) :=
  let name := cs.takeWhile isNameChar
  if name.isEmpty then none else some (String.ofList name, cs.dropWhile isNameChar)

def takeIndex? (cs : List Char) : Option (Int × List Char) :=
  let isSpace (c : Char) : Bool := c = ' ' || c = '\t'
  let cs := cs.dropWhile isSpace
  let (negative, cs) := match cs with
    | '-' :: rest => (true, rest)
    | cs => (false, cs)
  let digits := cs.takeWhile Char.isDigit
  let n : Int := if negative then -digitsValue digits else digitsValue digits
  if digits.isEmpty || !isInt64 n then none
  else some (n, (cs.dropWhile Char.isDigit).dropWhile isSpace)

def laterSteps? : Nat → List Char → Option (List PathStep)
  | _, [] => some []
  | 0, _ => none
  | fuel + 1, '.' :: rest => do
    let (name, rest) ← takeName? rest
    return .name name :: (← laterSteps? fuel rest)
  | fuel + 1, '[' :: rest => do
    let (n, rest) ← takeIndex? rest
    match rest with
    | ']' :: rest => return .index n :: (← laterSteps? fuel rest)
    | _ => none
  | _, _ => none

def steps? (cs : List Char) : Option (List PathStep) := do
  let (name, rest) ← takeName? cs
  return .name name :: (← laterSteps? rest.length rest)

def stepsOf (s : String) : List PathStep := (steps? s.toList).getD [.name s]

def overlayPath (path : String) (value onto : Setting) : Setting :=
  overlayAt value (stepsOf path) onto

example : stepsOf "search.default_rows" = [.name "search", .name "default_rows"] := by
  decide +kernel
example : stepsOf "a[-1].b" = [.name "a", .index (-1), .name "b"] := by decide +kernel
example : stepsOf "a..b" = [.name "a..b"] := by decide +kernel

end SearchCriteria.Setting
