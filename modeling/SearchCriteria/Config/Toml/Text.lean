import SearchCriteria.Text.Hex

/-! The parts of a TOML text that hold characters: blanks, comments, quoted text and keys.
Every reader gives what it read and the rest, or nothing where the text is no TOML. -/
namespace SearchCriteria.Toml

/-- A tab, or anything that is no control character. -/
def isTextChar (c : Char) : Bool := c = '\t' || (0x20 ≤ c.toNat && c.toNat ≠ 0x7F)

def isSpace (c : Char) : Bool := c = ' ' || c = '\t'

def skipSpace (cs : List Char) : List Char := cs.dropWhile isSpace

def newline? : List Char → Option (List Char)
  | '\n' :: rest => some rest
  | '\r' :: '\n' :: rest => some rest
  | _ => none

def skipComment : List Char → List Char
  | '#' :: rest => rest.dropWhile isTextChar
  | cs => cs

/-- The rest after what may end a line: blanks, a comment, and the break or the end. -/
def lineEnd? (cs : List Char) : Option (List Char) :=
  match skipComment (skipSpace cs) with
  | [] => some []
  | cs => newline? cs

def skipLines : Nat → List Char → List Char
  | 0, cs => cs
  | fuel + 1, cs =>
    let cs := skipSpace cs
    match newline? (skipComment cs) with
    | some rest => skipLines fuel rest
    | none => cs

/-- The character that stands after a backslash for another one. -/
def escape? : List Char → Option (Char × List Char)
  | 'b' :: rest => some ('\x08', rest)
  | 't' :: rest => some ('\t', rest)
  | 'n' :: rest => some ('\n', rest)
  | 'f' :: rest => some ('\x0c', rest)
  | 'r' :: rest => some ('\r', rest)
  | '"' :: rest => some ('"', rest)
  | '\\' :: rest => some ('\\', rest)
  | 'u' :: rest => do
    let (n, rest) ← Text.hexRun? 4 rest
    return (← Text.scalar? n, rest)
  | 'U' :: rest => do
    let (n, rest) ← Text.hexRun? 8 rest
    return (← Text.scalar? n, rest)
  | _ => none

/-- The rest of a text on one line, after its opening quote. -/
def basicText? : Nat → List Char → Option (List Char × List Char)
  | 0, _ => none
  | fuel + 1, cs =>
    match cs with
    | [] => none
    | '"' :: rest => some ([], rest)
    | '\\' :: rest => do
      let (c, rest) ← escape? rest
      let (text, rest) ← basicText? fuel rest
      return (c :: text, rest)
    | c :: rest =>
      if isTextChar c then (basicText? fuel rest).map fun (text, rest) => (c :: text, rest)
      else none

def literalText? (cs : List Char) : Option (List Char × List Char) :=
  let isInside (c : Char) : Bool := isTextChar c && c ≠ '\''
  match cs.dropWhile isInside with
  | '\'' :: rest => some (cs.takeWhile isInside, rest)
  | _ => none

/-- What a run of quotes in a text of several lines is: up to two of them belong to the text,
and three close it. -/
def closingQuotes? (quote : Char) (cs : List Char) : Option (List Char × List Char) :=
  let n := (cs.takeWhile (· == quote)).length
  if n < 3 then none
  else some (List.replicate (min (n - 3) 2) quote, cs.drop (3 + min (n - 3) 2))

def skipBreaks : List Char → List Char
  | '\r' :: '\n' :: rest => skipBreaks rest
  | c :: rest => if isSpace c || c = '\n' then skipBreaks rest else c :: rest
  | [] => []

/-- The rest after a backslash that ends a line: blanks and line breaks are left out. -/
def skipFolded? (cs : List Char) : Option (List Char) :=
  (newline? (skipSpace cs)).map skipBreaks

def longText? (quote : Char) : Nat → List Char → Option (List Char × List Char)
  | 0, _ => none
  | fuel + 1, cs =>
    match closingQuotes? quote cs, newline? cs with
    | some closed, _ => some closed
    | none, some rest =>
      (longText? quote fuel rest).map fun (text, rest) => ('\n' :: text, rest)
    | none, none =>
      match cs with
      | [] => none
      | c :: rest =>
        if c = '\\' && quote = '"' then
          match skipFolded? rest with
          | some rest => longText? quote fuel rest
          | none => do
            let (c, rest) ← escape? rest
            let (text, rest) ← longText? quote fuel rest
            return (c :: text, rest)
        else if isTextChar c then
          (longText? quote fuel rest).map fun (text, rest) => (c :: text, rest)
        else none

/-- A line break right after the opening quotes is left out. -/
def openLong (cs : List Char) : List Char := (newline? cs).getD cs

def quoted? : List Char → Option (String × List Char)
  | '"' :: rest => (basicText? (rest.length + 1) rest).map fun (s, r) => (String.ofList s, r)
  | '\'' :: rest => (literalText? rest).map fun (s, r) => (String.ofList s, r)
  | _ => none

def text? : List Char → Option (String × List Char)
  | '"' :: '"' :: '"' :: rest =>
    (longText? '"' (rest.length + 1) (openLong rest)).map fun (s, r) => (String.ofList s, r)
  | '\'' :: '\'' :: '\'' :: rest =>
    (longText? '\'' (rest.length + 1) (openLong rest)).map fun (s, r) => (String.ofList s, r)
  | cs => quoted? cs

def isKeyChar (c : Char) : Bool := c.isAlphanum || c = '_' || c = '-'

def simpleKey? (cs : List Char) : Option (String × List Char) :=
  match cs with
  | '"' :: _ => quoted? cs
  | '\'' :: _ => quoted? cs
  | _ =>
    let name := cs.takeWhile isKeyChar
    if name.isEmpty then none else some (String.ofList name, cs.dropWhile isKeyChar)

def names? : Nat → List Char → Option (List String × List Char)
  | 0, _ => none
  | fuel + 1, cs => do
    let (name, rest) ← simpleKey? (skipSpace cs)
    match skipSpace rest with
    | '.' :: more =>
      let (names, rest) ← names? fuel more
      return (name :: names, rest)
    | rest => return ([name], rest)

def nestingLimit : Nat := 80

def key? (cs : List Char) : Option (List String × List Char) :=
  match names? (cs.length + 1) cs with
  | some (names, rest) => if names.length < nestingLimit then some (names, rest) else none
  | none => none

example : text? "'''\na''''".toList = some ("a'", []) := by decide +kernel
example : text? "\"\"\"a\\\n  b\"\"\"".toList = some ("ab", []) := by decide +kernel
example : key? " a . \"b.c\" =".toList = some (["a", "b.c"], ['=']) := by decide +kernel

end SearchCriteria.Toml
