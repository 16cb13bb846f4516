import SearchCriteria.Config.Setting
import SearchCriteria.Config.Toml.Moment

/-! Values of TOML, and the settings that they stand for.
Dates and times become text. A table whose first name is the date marker stands for the date
that its text gives, whatever else it holds, and for nothing if that is no date. -/
namespace SearchCriteria.Toml

inductive Value where
  | text (s : String)
  | moment (s : String)
  | bool (b : Bool)
  | int (n : Int)
  | float (x : Double)
  | array (items : List Value)
  | table (fields : List (String × Value))
  deriving Inhabited

namespace Value

/-- The name that marks a table as a date. -/
def dateMarker : String := "$__toml_private_datetime"

def markedDate? : Value → Option Setting
  | text s => (wholeMoment? s).map .text
  | _ => none

mutual

def setting? : Value → Option Setting
  | text s => some (.text s)
  | moment s => some (.text s)
  | bool b => some (.bool b)
  | int n => some (.int n)
  | float x => some (.float x)
  | array items => (itemSettings? items).map .array
  | table fields => tableSetting? fields

def itemSettings? : List Value → Option (List Setting)
  | [] => some []
  | v :: rest => do return (← v.setting?) :: (← itemSettings? rest)

/-- The setting of a table, which is a date if its first name says so. -/
def tableSetting? : List (String × Value) → Option Setting
  | [] => some (.table [])
  | (name, v) :: rest =>
    if name = dateMarker then v.markedDate?
    else do return .table ((name, ← v.setting?) :: (← fieldSettings? rest))

def fieldSettings? : List (String × Value) → Option (List (String × Setting))
  | [] => some []
  | (name, v) :: rest => do return (name, ← v.setting?) :: (← fieldSettings? rest)

end

end Value
end SearchCriteria.Toml
