import SearchCriteria.Number.Decimal

/-! Positions at the end of a report, such as ` at line 3 column 14`.
A position is written without leading zeros, and not at all if its line is zero. -/
namespace SearchCriteria.Text

def dropWord? : List Char → List Char → Option (List Char)
  | [], cs => some cs
  | c :: word, d :: cs => if c = d then dropWord? word cs else none
  | _ :: _, [] => none

/-- A number of 64 bits with which a text read backwards begins, and what follows it. -/
def lastNumber? (back : List Char) : Option (Nat × List Char) :=
  let ds := back.takeWhile Char.isDigit
  let n := digitsValue ds.reverse
  if !ds.isEmpty && n < UInt64.size then some (n, back.dropWhile Char.isDigit) else none

/-- A report without the position at its end, and the line and column of the position. -/
def splitPosition? (report : List Char) : Option (List Char × Nat × Nat) := do
  let (column, back) ← lastNumber? report.reverse
  let (line, back) ← lastNumber? (← dropWord? " column ".toList.reverse back)
  return ((← dropWord? " at line ".toList.reverse back).reverse, line, column)

def tidyPosition (report : String) : String :=
  match splitPosition? report.toList with
  | none => report
  | some (words, line, column) =>
    if line = 0 then String.ofList words
    else String.ofList words ++ " at line " ++ toString line ++ " column " ++ toString column

theorem dropWord?_append (word rest : List Char) : dropWord? word (word ++ rest) = some rest := by
  induction word with
  | nil => rfl
  | cons c word ih => simp [dropWord?, ih]

example : tidyPosition "no key at line 03 column 004" = "no key at line 3 column 4" := by
  decide +kernel
example : tidyPosition "no key at line 00 column 5" = "no key" := by decide +kernel
example : tidyPosition "no key at line  column 5" = "no key at line  column 5" := by
  decide +kernel

end SearchCriteria.Text
