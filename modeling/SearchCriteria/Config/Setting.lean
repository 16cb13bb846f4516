import SearchCriteria.NameTable
import SearchCriteria.Number.Double
import SearchCriteria.Text.Lowercase

/-! Settings: values in tables, where the names of tables are kept in small letters.
Laying one setting over another merges tables entry by entry; everything else is replaced. -/
namespace SearchCriteria

inductive Setting where
  | absent
  | text (s : String)
  | bool (b : Bool)
  | int (n : Int)
  | float (x : Double)
  | array (items : List Setting)
  | table (fields : List (String × Setting))
  deriving Inhabited

namespace Setting

def fields : Setting → NameTable Setting
  | table fields => fields
  | _ => []

def items : Setting → List Setting
  | array items => items
  | _ => []

def get? (name : String) (s : Setting) : Option Setting := s.fields.get? name

mutual

/-- Lays a value over the entry `name`; what is no table becomes one. -/
def overlay (name : String) : Setting → Setting → Setting
  | table incoming, onto =>
    let key := Text.lowercase name
    let target := ((onto.fields).get? key).getD (table [])
    table (onto.fields.set key (overlayAll incoming target))
  | value, onto => table (onto.fields.set (Text.lowercase name) value)

def overlayAll : List (String × Setting) → Setting → Setting
  | [], onto => onto
  | (name, value) :: rest, onto => overlayAll rest (overlay name value onto)

end

inductive PathStep
  | name (s : String)
  /-- A position in an array, from its end if negative. -/
  | index (n : Int)
  deriving DecidableEq, Inhabited

/-- Changes the item at a position of an array, which grows on either side as needed. -/
def changeItem (n : Int) (f : Setting → Setting) (items : List Setting) : List Setting :=
  if 0 ≤ n then
    (items ++ List.replicate (n.toNat + 1 - items.length) absent).modify n.toNat f
  else if n.natAbs ≤ items.length then items.modify (items.length - n.natAbs) f
  else
    (List.replicate (n.natAbs - items.length) absent ++ items).modify 0 f

def overlayAt (value : Setting) : List PathStep → Setting → Setting
  | [], _ => value
  | [.name s], onto => overlay s value onto
  | .name s :: rest, onto =>
    let key := Text.lowercase s
    table (onto.fields.set key (overlayAt value rest ((onto.fields.get? key).getD absent)))
  | .index n :: rest, onto => array (changeItem n (overlayAt value rest) onto.items)

end Setting
end SearchCriteria
