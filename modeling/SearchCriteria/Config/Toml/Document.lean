import SearchCriteria.Config.Toml.Numeral
import SearchCriteria.Config.Toml.Text
import SearchCriteria.Config.Toml.Value

/-! TOML documents.
A document is read as a list of lines, which then fill the tables: nothing may be given
twice, a table that was closed is not opened again, and what a dotted key made is not
reopened by a header. -/
namespace SearchCriteria.Toml

/-- What stands under a name while a document is put together. -/
inductive Item where
  | value (v : Value)
  /-- A table; `implied` if only longer names have named it, `dotted` if by a dotted key. -/
  | table (implied dotted : Bool) (fields : List (String × Item))
  | tables (elements : List (List (String × Item)))
  deriving Inhabited

abbrev Fields := List (String × Item)

namespace Fields

def alter (name : String) (f : Option Item → Option Item) : Fields → Option Fields
  | [] => (f none).map fun item => [(name, item)]
  | (key, item) :: rest =>
    if key = name then (f (some item)).map fun item => (key, item) :: rest
    else (alter name f rest).map fun rest => (key, item) :: rest

def put (name : String) (v : Value) : Fields → Option Fields :=
  alter name fun
    | none => some (.value v)
    | some _ => none

def changeLast (f : Fields → Option Fields) (elements : List Fields) : Option Item :=
  match elements.getLast? with
  | none => none
  | some last => (f last).map fun last => .tables (elements.dropLast ++ [last])

/-- Gives a value to a dotted key, in tables that only dotted keys have named. -/
def putUnder (name : String) (v : Value) : List String → Bool → Fields → Option Fields
  | [], dotted => if dotted then put name v else fun _ => none
  | step :: rest, _ => alter step fun
    | none => (putUnder name v rest true []).map (.table true true)
    | some (.table true dotted fields) =>
      (putUnder name v rest dotted fields).map (.table true dotted)
    | some (.tables elements) => changeLast (putUnder name v rest false) elements
    | some _ => none

def insert (path : List String) (v : Value) (fields : Fields) : Option Fields :=
  match path.getLast? with
  | none => none
  | some name =>
    if path.length = 1 then put name v fields else putUnder name v path.dropLast false fields

def insertAll : List (List String × Value) → Fields → Option Fields
  | [], fields => some fields
  | (path, v) :: rest, fields => (insert path v fields).bind (insertAll rest)

/-- Changes the table that names lead to; missing ones are made on the way. -/
def descend (f : Fields → Option Fields) : List String → Fields → Option Fields
  | [] => f
  | step :: rest => alter step fun
    | none => (descend f rest []).map (.table true false)
    | some (.table implied dotted fields) => (descend f rest fields).map (.table implied dotted)
    | some (.tables elements) => changeLast (descend f rest) elements
    | some (.value _) => none

mutual

def finishedItem : Item → Value
  | .value v => v
  | .table _ _ fields => .table (finished fields)
  | .tables elements => .array (finishedAll elements)

def finished : List (String × Item) → List (String × Value)
  | [] => []
  | (name, item) :: rest => (name, finishedItem item) :: finished rest

def finishedAll : List (List (String × Item)) → List Value
  | [] => []
  | fields :: rest => .table (finished fields) :: finishedAll rest

end

end Fields

/-- Items with commas between them, up to the closing character. -/
def separated? {α : Type} (item? : List Char → Option (α × List Char))
    (skip : List Char → List Char) (close : Char) (mayTrail : Bool) :
    Nat → List Char → Option (List α × List Char)
  | 0, _ => none
  | fuel + 1, cs => do
    let (a, rest) ← item? (skip cs)
    match skip rest with
    | ',' :: more =>
      match skip more with
      | c :: rest =>
        if c = close && mayTrail then return ([a], rest)
        else
          let (as, rest) ← separated? item? skip close mayTrail fuel more
          return (a :: as, rest)
      | [] => none
    | c :: rest => if c = close then return ([a], rest) else none
    | [] => none

def pair? (value? : List Char → Option (Value × List Char)) (cs : List Char) :
    Option ((List String × Value) × List Char) := do
  let (path, rest) ← key? cs
  let (v, rest) ← value? (skipSpace (← expect? '=' rest))
  return ((path, v), rest)

def scalar? (cs : List Char) : Option (Value × List Char) :=
  match cs with
  | 't' :: 'r' :: 'u' :: 'e' :: rest => some (.bool true, rest)
  | 'f' :: 'a' :: 'l' :: 's' :: 'e' :: rest => some (.bool false, rest)
  | '"' :: _ => (text? cs).map fun (s, r) => (.text s, r)
  | '\'' :: _ => (text? cs).map fun (s, r) => (.text s, r)
  | _ =>
    if startsMoment cs then (moment? cs).map fun (s, r) => (.moment (String.ofList s), r)
    else (numeral? cs).map fun
      | (.int n, r) => (.int n, r)
      | (.float x, r) => (.float x, r)

def value? : Nat → List Char → Option (Value × List Char)
  | 0, cs => scalar? cs
  | depth + 1, cs =>
    match cs with
    | '[' :: rest =>
      let skip (cs : List Char) : List Char := skipLines cs.length cs
      match skip rest with
      | ']' :: rest => some (.array [], rest)
      | _ => (separated? (value? depth) skip ']' true rest.length rest).map fun (vs, r) =>
        (.array vs, r)
    | '\x7b' :: rest =>
      match skipSpace rest with
      | '\x7d' :: rest => some (.table [], rest)
      | _ => do
        let (pairs, rest) ←
          separated? (pair? (value? depth)) skipSpace '\x7d' false rest.length rest
        let fields ← Fields.insertAll pairs []
        return (.table (Fields.finished fields), rest)
    | _ => scalar? cs

inductive Line
  | pair (path : List String) (v : Value)
  | table (path : List String)
  | element (path : List String)

def line? (cs : List Char) : Option (Line × List Char) :=
  match cs with
  | '[' :: '[' :: rest => do
    let (path, rest) ← key? rest
    return (.element path, ← lineEnd? (← expect? ']' (← expect? ']' rest)))
  | '[' :: rest => do
    let (path, rest) ← key? rest
    return (.table path, ← lineEnd? (← expect? ']' rest))
  | _ => do
    let ((path, v), rest) ← pair? (value? (nestingLimit - 1)) cs
    return (.pair path v, ← lineEnd? rest)

def lines? : Nat → List Char → Option (List Line)
  | 0, cs => if cs.isEmpty then some [] else none
  | fuel + 1, cs =>
    match skipSpace cs with
    | [] => some []
    | cs =>
      match lineEnd? cs with
      | some rest => lines? fuel rest
      | none => do
        let (line, rest) ← line? cs
        return line :: (← lines? fuel rest)

structure Section where
  path : List String
  isElement : Bool
  pairs : List (List String × Value)

/-- The pairs in front of the first header, and the sections. -/
def sections : List Line → List (List String × Value) × List Section
  | [] => ([], [])
  | .pair path v :: rest => ((path, v) :: (sections rest).1, (sections rest).2)
  | .table path :: rest => ([], ⟨path, false, (sections rest).1⟩ :: (sections rest).2)
  | .element path :: rest => ([], ⟨path, true, (sections rest).1⟩ :: (sections rest).2)

def Section.fill (s : Section) : Option Item → Option Item
  | none => do
    let fields ← Fields.insertAll s.pairs []
    return if s.isElement then .tables [fields] else .table false false fields
  | some (.table true false fields) =>
    if s.isElement then none
    else (Fields.insertAll s.pairs fields).map (.table false false)
  | some (.tables elements) =>
    if s.isElement then (Fields.insertAll s.pairs []).map fun fields =>
      .tables (elements ++ [fields])
    else none
  | some _ => none

/-- Puts the section under its name; a table that is opened again moves to the end. -/
def Section.place (s : Section) (name : String) (fields : Fields) : Option Fields :=
  if s.isElement then Fields.alter name s.fill fields
  else (s.fill (fields.lookup name)).map fun item =>
    fields.filter (fun e => e.1 ≠ name) ++ [(name, item)]

def Section.addTo (s : Section) (fields : Fields) : Option Fields :=
  match s.path.getLast? with
  | none => none
  | some name => Fields.descend (s.place name) s.path.dropLast fields

def addSections : List Section → Fields → Option Fields
  | [], fields => some fields
  | s :: rest, fields => (s.addTo fields).bind (addSections rest)

/-- The table that a document describes; none where the text is no TOML or stands for a date. -/
def read? (text : String) : Option (List (String × Setting)) := do
  let cs := match text.toList with
    | '\ufeff' :: rest => rest
    | cs => cs
  let (pairs, rest) := sections (← lines? (cs.length + 1) cs)
  let fields ← addSections rest (← Fields.insertAll pairs [])
  match ← Value.setting? (.table (Fields.finished fields)) with
  | .table entries => return entries
  | _ => none

end SearchCriteria.Toml
