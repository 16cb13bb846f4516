import SearchCriteria.Number.Decimal

/-! Dates and times of TOML, kept as text.
The text has a capital `T` between date and time, no zeros at the end of a second's fraction,
and an offset in hours and minutes. -/
namespace SearchCriteria.Toml

/-- Exactly `n` digits with a value in the given bounds. -/
def field? (n low high : Nat) (cs : List Char) : Option (Nat × List Char) :=
  let ds := cs.take n
  let v := digitsValue ds
  if ds.length = n && ds.all Char.isDigit && low ≤ v && v ≤ high then some (v, cs.drop n)
  else none

def expect? (c : Char) : List Char → Option (List Char)
  | d :: rest => if c = d then some rest else none
  | [] => none

def padded (width n : Nat) : List Char :=
  let ds := Nat.toDigits 10 n
  List.replicate (width - ds.length) '0' ++ ds

def monthLength (year month : Nat) : Nat :=
  if month = 2 then
    if year % 4 = 0 && (year % 100 ≠ 0 || year % 400 = 0) then 29 else 28
  else if month = 4 || month = 6 || month = 9 || month = 11 then 30
  else 31

def date? (cs : List Char) : Option (List Char × List Char) := do
  let (year, rest) ← field? 4 0 9999 cs
  let (month, rest) ← field? 2 1 12 (← expect? '-' rest)
  let (day, rest) ← field? 2 1 (monthLength year month) (← expect? '-' rest)
  return (padded 4 year ++ '-' :: padded 2 month ++ '-' :: padded 2 day, rest)

/-- Nine digits of a second, without zeros at the end. -/
def secondFraction (ds : List Char) : List Char :=
  match ((ds.take 9).reverse.dropWhile (· == '0')).reverse with
  | [] => []
  | ds => '.' :: ds

def time? (cs : List Char) : Option (List Char × List Char) := do
  let (hour, rest) ← field? 2 0 23 cs
  let (minute, rest) ← field? 2 0 59 (← expect? ':' rest)
  let (second, rest) ← field? 2 0 60 (← expect? ':' rest)
  let text := padded 2 hour ++ ':' :: padded 2 minute ++ ':' :: padded 2 second
  match rest with
  | '.' :: d :: more =>
    if d.isDigit then
      let ds := (d :: more).takeWhile Char.isDigit
      return (text ++ secondFraction ds, (d :: more).dropWhile Char.isDigit)
    else return (text, rest)
  | _ => return (text, rest)

def offset? : List Char → Option (List Char × List Char)
  | 'Z' :: rest => some (['Z'], rest)
  | 'z' :: rest => some (['Z'], rest)
  | c :: rest =>
    if c = '+' || c = '-' then do
      let (hour, rest) ← field? 2 0 23 rest
      let (minute, rest) ← field? 2 0 59 (← expect? ':' rest)
      let sign := if hour = 0 && minute = 0 then '+' else c
      return (sign :: padded 2 hour ++ ':' :: padded 2 minute, rest)
    else some ([], c :: rest)
  | [] => some ([], [])

def startsTime (cs : List Char) : Bool :=
  match field? 2 0 23 cs with
  | some (_, ':' :: _) => true
  | _ => false

def startsDate (cs : List Char) : Bool :=
  match field? 4 0 9999 cs with
  | some (_, '-' :: _) => true
  | _ => false

/-- A date with a time and an offset behind it, where they are given. -/
def dated? (cs : List Char) : Option (List Char × List Char) := do
  let (date, rest) ← date? cs
  match rest with
  | c :: more =>
    if (c = 'T' || c = 't' || c = ' ') && startsTime more then
      let (time, rest) ← time? more
      let (offset, rest) ← offset? rest
      return (date ++ 'T' :: time ++ offset, rest)
    else return (date, rest)
  | [] => return (date, rest)

def startsMoment (cs : List Char) : Bool := startsDate cs || startsTime cs

def moment? (cs : List Char) : Option (List Char × List Char) :=
  if startsDate cs then dated? cs else time? cs

def wholeMoment? (s : String) : Option String :=
  match moment? s.toList with
  | some (cs, []) => some (String.ofList cs)
  | _ => none

example : moment? "2024-02-29 07:32:00.500z".toList =
    some ("2024-02-29T07:32:00.5Z".toList, []) := by decide +kernel
example : wholeMoment? "07:32:00.10" = some "07:32:00.1" := by decide +kernel
example : wholeMoment? "2023-02-29" = none := by decide +kernel
example : wholeMoment? "07:32:00Z" = none := by decide +kernel

end SearchCriteria.Toml
