import SearchCriteria.NameTable
import SearchCriteria.Number.Shortest

/-! JSON values and their compact text.
Numbers are whole ones of 64 bits or floating-point ones, and objects hold their fields in
the order of the names. -/
namespace SearchCriteria

inductive Json where
  | null
  | bool (b : Bool)
  | int (n : Int)
  | float (x : Double)
  | str (s : String)
  | arr (items : List Json)
  | obj (fields : List (String × Json))
  deriving Inhabited

namespace Json

def isNull : Json → Bool
  | null => true
  | _ => false

@[simp] theorem isNull_iff (j : Json) : j.isNull = true ↔ j = null := by
  cases j <;> simp [isNull]

def count? : Json → Option UInt64
  | int n => if 0 ≤ n && n < UInt64.size then some (UInt64.ofNat n.toNat) else none
  | _ => none

def str? : Json → Option String
  | str s => some s
  | _ => none

def count (n : UInt64) : Json := int n.toNat

@[simp] theorem count?_count (n : UInt64) : (count n).count? = some n := by
  have := n.toNat_lt
  simp [count, count?]
  omega

def escapeChar (c : Char) : List Char :=
  if c = '"' then ['\\', '"']
  else if c = '\\' then ['\\', '\\']
  else if c = '\n' then ['\\', 'n']
  else if c = '\r' then ['\\', 'r']
  else if c = '\t' then ['\\', 't']
  else if c.toNat = 8 then ['\\', 'b']
  else if c.toNat = 12 then ['\\', 'f']
  else if c.toNat < 0x20 then
    ['\\', 'u', '0', '0', if c.toNat < 16 then '0' else '1', Nat.digitChar (c.toNat % 16)]
  else [c]

def quote (s : String) : String := String.ofList ('"' :: s.toList.flatMap escapeChar ++ ['"'])

mutual

def text : Json → String
  | null => "null"
  | bool b => if b then "true" else "false"
  | int n => toString n
  | float x => if x.isNaN || x.isInfinite then "null" else Double.jsonStyle.render x
  | str s => quote s
  | arr items => "[" ++ itemsText items ++ "]"
  | obj fields => "\x7b" ++ fieldsText fields ++ "\x7d"

def itemsText : List Json → String
  | [] => ""
  | [j] => text j
  | j :: rest => text j ++ "," ++ itemsText rest

def fieldsText : List (String × Json) → String
  | [] => ""
  | [(name, j)] => quote name ++ ":" ++ text j
  | (name, j) :: rest => quote name ++ ":" ++ text j ++ "," ++ fieldsText rest

end

example : (obj [("a\"", arr [int (-1), null, bool true]), ("b", str "\n\x01é")]).text =
    "\x7b\"a\\\"\":[-1,null,true],\"b\":\"\\n\\u0001é\"\x7d" := by decide +kernel

end Json
end SearchCriteria
