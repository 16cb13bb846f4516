import SearchCriteria.Text.Blank
import SearchCriteria.Text.CaseTable

/-! Small letters of a whole text.
Each character has its own small form, but for the capital sigma, whose form depends on
whether it ends a word, and for the dotted capital I, whose form is two characters. -/
namespace SearchCriteria.Text

def isCased (c : Char) : Bool := inRanges casedRanges c.toNat
def isCaseIgnorable (c : Char) : Bool := inRanges caseIgnorableRanges c.toNat

def CaseRun.small? (r : CaseRun) (n : Nat) : Option Nat :=
  if r.first ≤ n && n ≤ r.last && (n - r.first) % r.step = 0 then some (r.small + (n - r.first))
  else none

/-- The small form of a character by itself. -/
def smallForm (c : Char) : List Char :=
  if c.toNat < 0x80 then [c.toLower]
  else if c = '\u0130' then ['i', '\u0307']
  else match caseRuns.findSome? fun r => r.small? c.toNat with
    | some n => [Char.ofNat n]
    | none => [c]

/-- Whether the nearest character that is not ignorable is cased. -/
def meetsCased (cs : List Char) : Bool :=
  match cs.dropWhile isCaseIgnorable with
  | [] => false
  | c :: _ => isCased c

/-- A sigma ends a word when a letter comes before it and none after. -/
def smallSigma (before after : List Char) : Char :=
  if meetsCased before && !meetsCased after then 'ς' else 'σ'

/-- Small forms of `cs`, where `before` is the text in front, nearest character first. -/
def lowerFrom (before : List Char) : List Char → List Char
  | [] => []
  | c :: rest =>
    (if c = 'Σ' then [smallSigma before rest] else smallForm c) ++ lowerFrom (c :: before) rest

def lowercase (s : String) : String := String.ofList (lowerFrom [] s.toList)

example : lowercase "ΟΔΟΣ ΣΑΣ Σ" = "οδος σας σ" := by decide +kernel
example : lowercase "DESC İ ÀΩ" = "desc i\u0307 àω" := by decide +kernel

end SearchCriteria.Text
