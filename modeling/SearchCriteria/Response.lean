import SearchCriteria.Backend.Basic

/-! The fixed shape of a backend's answer.
An answer holds a response, a response the number of matches and the matching documents; each
of the two is an object, or a list of exactly its fields. Every document is an object whose
identifier is a text. -/
namespace SearchCriteria

/-- An answer that was understood; `ids` are the identifiers of `docs`. -/
structure ParsedResponse where
  total : UInt64
  docs : List Document
  ids : List String
  deriving Inhabited

def Json.kindText : Json → String
  | .null => "null"
  | .bool b => "boolean `" ++ (Json.bool b).text ++ "`"
  | .int n => "integer `" ++ (Json.int n).text ++ "`"
  | .float x => "floating point `" ++ (Json.float x).text ++ "`"
  | .str s => "string " ++ Text.quoted s
  | .arr _ => "sequence"
  | .obj _ => "map"

inductive ShapeFault
  | kind (found : Json) (expected : String)
  | range (found : Json) (expected : String)
  | missing (name : String)
  | length (count : Nat) (expected : String)
  deriving Inhabited

def ShapeFault.message : ShapeFault → String
  | kind found expected => "invalid type: " ++ found.kindText ++ ", expected " ++ expected
  | range found expected => "invalid value: " ++ found.kindText ++ ", expected " ++ expected
  | missing name => "missing field `" ++ name ++ "`"
  | length count expected => "invalid length " ++ toString count ++ ", expected " ++ expected

/-- Why an answer was not understood. -/
inductive ResponseFault
  | malformed (fault : ShapeFault)
  | missingId (position : Nat)
  | foreignId (position : Nat) (id : Json)
  deriving Inhabited

namespace ResponseFault

def message : ResponseFault → String
  | malformed fault => "malformed response: " ++ fault.message
  | missingId position => "document " ++ toString position ++ " has no id"
  | foreignId position id =>
    "document " ++ toString position ++ " has non-string id " ++ id.text

end ResponseFault

namespace ParsedResponse

def readTotal (j : Json) : Except ShapeFault UInt64 :=
  match j.count?, j with
  | some n, _ => .ok n
  | none, .int _ => .error (.range j "u64")
  | none, _ => .error (.kind j "u64")

def readDocument : Json → Except ShapeFault Document
  | .obj fields => .ok fields
  | j => .error (.kind j "a map")

def readDocuments : Json → Except ShapeFault (List Document)
  | .arr items => items.mapM readDocument
  | j => .error (.kind j "a sequence")

/-- What was read of a list, unless items are left. -/
def unlessLeft {α : Type} (a : α) (read : Nat) : List Json → Except ShapeFault α
  | [] => .ok a
  | left => .error (.length (read + left.length) "fewer elements in array")

/-- The number of matches and the documents in a response. The fields of an object are read in the
order of their names, and only then it is told which one is missing. -/
def readBody : Json → Except ShapeFault (UInt64 × List Document)
  | .obj fields => do
    let docs ← (NameTable.get? "docs" fields).mapM readDocuments
    let total ← (NameTable.get? "numFound" fields).mapM readTotal
    match total, docs with
    | none, _ => .error (.missing "numFound")
    | some _, none => .error (.missing "docs")
    | some total, some docs => .ok (total, docs)
  | .arr [] => .error (.length 0 "struct Body with 2 elements")
  | .arr [total] => do
    let _ ← readTotal total
    .error (.length 1 "struct Body with 2 elements")
  | .arr (total :: docs :: left) => do
    let total ← readTotal total
    let docs ← readDocuments docs
    unlessLeft (total, docs) 2 left
  | j => .error (.kind j "struct Body")

def readAnswer : Json → Except ShapeFault (UInt64 × List Document)
  | .obj fields =>
    match NameTable.get? "response" fields with
    | some body => readBody body
    | none => .error (.missing "response")
  | .arr [] => .error (.length 0 "struct Envelope with 1 element")
  | .arr (body :: left) => do
    let parts ← readBody body
    unlessLeft parts 1 left
  | j => .error (.kind j "struct Envelope")

def idAt (position : Nat) (doc : Document) : Except ResponseFault String :=
  match doc.get? "id" with
  | some (.str id) => .ok id
  | some id => .error (.foreignId position id)
  | none => .error (.missingId position)

/-- The identifiers of documents, the first of which stands at `position`. -/
def idsFrom (position : Nat) : List Document → Except ResponseFault (List String)
  | [] => .ok []
  | doc :: rest =>
    match idAt position doc with
    | .error fault => .error fault
    | .ok id =>
      match idsFrom (position + 1) rest with
      | .error fault => .error fault
      | .ok ids => .ok (id :: ids)

/-- The whole shape is looked at before any identifier is. -/
def parse (answer : Json) : Except ResponseFault ParsedResponse :=
  match readAnswer answer with
  | .error fault => .error (.malformed fault)
  | .ok (total, docs) => (idsFrom 0 docs).map fun ids => { total, docs, ids }

end ParsedResponse
end SearchCriteria
