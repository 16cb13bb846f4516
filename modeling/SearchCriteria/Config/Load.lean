import SearchCriteria.Config.Basic
import SearchCriteria.Config.SettingPath
import SearchCriteria.Config.Toml.Document
import SearchCriteria.Number.Shortest

/-! Loading the configuration of a search. Settings come from a file and from variables of the
environment, which lie over it; the section `search` holds the two settings of a search. A file
that is no TOML is left out, with a warning. -/
namespace SearchCriteria

inductive ConfigError
  | fileParse (file : Option String) (text : String)
  /-- The section or one of its settings has the wrong kind. -/
  | unusable (part : Setting)
  /-- There are no settings, with the file or without it. -/
  | unbuilt (withFile withoutFile : ConfigError)
  deriving Inhabited

/-- How the reader of TOML and the conversion of settings tell what is wrong. -/
structure CauseTexts where
  noToml : Option String → String → String
  noConfig : Setting → String

def ConfigError.message (causes : CauseTexts) : ConfigError → String
  | fileParse file text => causes.noToml file text
  | unusable part =>
    "Search configuration could not be loaded from file or environment: " ++ causes.noConfig part
  | unbuilt withFile withoutFile =>
    "Failed to load configuration from file and env: " ++ withFile.message causes ++
      ", then env-only error: " ++ withoutFile.message causes

namespace Setting

def boolText (b : Bool) : String := if b then "true" else "false"

/-- A setting as text; only what is absent, an array or a table has none. -/
def asText? : Setting → Option String
  | text s => some s
  | bool b => some (boolText b)
  | int n => some (toString n)
  | float x => some x.text
  | _ => none

/-- The count that a text stands for: a switch, or digits with an optional plus. -/
def countOfText? (s : String) : Option UInt64 :=
  let word := Text.lowercase s
  if word = "true" || word = "on" || word = "yes" then some 1
  else if word = "false" || word = "off" || word = "no" then some 0
  else
    match s.toList with
    | '-' :: _ => none
    | cs =>
      match Decimal.readInteger? cs with
      | some n => if n < UInt64.size then some (UInt64.ofNat n.toNat) else none
      | none => none

/-- A setting as a count; a fraction goes to the nearest one. -/
def asCount? : Setting → Option UInt64
  | text s => countOfText? s
  | bool b => some (if b then 1 else 0)
  | int n => if 0 ≤ n && n < UInt64.size then some (UInt64.ofNat n.toNat) else none
  | float x => some x.toCount
  | _ => none

def ofVariable (s : String) : Setting :=
  let word := Text.lowercase s
  if word = "true" then bool true
  else if word = "false" then bool false
  else
    match Decimal.readInteger? s.toList, Double.ofText? s with
    | some n, x =>
      if isInt64 n then int n
      else match x with
        | some x => float x
        | none => text s
    | none, some x => float x
    | none, none => text s

end Setting

def variablePrefix : List Char := "lifeguard__".toList

def dotted : List Char → List Char
  | '_' :: '_' :: rest => '.' :: dotted rest
  | c :: rest => c :: dotted rest
  | [] => []

def variablePath? (name : String) : Option String :=
  let key := (Text.lowercase name).toList
  if variablePrefix.isPrefixOf key then
    some (String.ofList (dotted (key.drop variablePrefix.length)))
  else none

def setVariable (name value : String) : List (String × String) → List (String × String)
  | [] => [(name, value)]
  | (key, old) :: rest =>
    if key = name then (key, value) :: rest else (key, old) :: setVariable name value rest

/-- The environment after variables are set one after the other. -/
def environment (assignments : List (String × String)) : List (String × String) :=
  assignments.foldl (fun env e => setVariable e.1 e.2 env) []

/-- All variables that count, by their paths; of two with one path the later one stays. -/
def variableSettings (env : List (String × String)) : NameTable Setting :=
  .ofList (env.filterMap fun e => (variablePath? e.1).map fun p => (p, Setting.ofVariable e.2))

/-- Lays entries over a setting, each where the path in its name leads. -/
def overlayPaths (entries : List (String × Setting)) (onto : Setting) : Setting :=
  entries.foldl (fun s e => Setting.overlayPath e.1 e.2 s) onto

def configPath : String := "config/config.toml"

/-- What loading a configuration gives, and the failure it warns of. -/
structure Loaded where
  warning : Option ConfigError := none
  result : Except ConfigError SearchConfig

def Loaded.warningText (causes : CauseTexts) (l : Loaded) : Option String :=
  l.warning.map fun e =>
    "Failed to load " ++ configPath ++ ", falling back to env. Error: " ++ e.message causes

namespace SearchConfig

def ofParts (part : Setting) (namePart rowsPart : Option Setting) :
    Except ConfigError SearchConfig :=
  let collectionPrefix? := match namePart with
    | none => some ""
    | some s => s.asText?
  let defaultRows? := match rowsPart with
    | none => some none
    | some .absent => some none
    | some s => s.asCount?.map some
  match collectionPrefix?, defaultRows? with
  | some collectionPrefix, some defaultRows => .ok { collectionPrefix, defaultRows }
  | _, _ => .error (.unusable part)

/-- The section `search`: a table, or a list of the two settings; none gives the defaults. -/
def ofSettings (settings : Setting) : Except ConfigError SearchConfig :=
  match settings.get? "search" with
  | none => .ok {}
  | some (.table fields) =>
    ofParts (.table fields) (NameTable.get? "collection_prefix" fields)
      (NameTable.get? "default_rows" fields)
  | some (.array items) => ofParts (.array items) items[0]? items[1]?
  | some part => .error (.unusable part)

def ofToml (text : String) : Except ConfigError SearchConfig :=
  match Toml.read? text with
  | none => .error (.fileParse none text)
  | some entries => ofSettings (overlayPaths entries (.table []))

/-- The variables that were set, over the entries of a file. -/
def layers (entries : List (String × Setting)) (assignments : List (String × String)) : Setting :=
  overlayPaths (variableSettings (environment assignments)) (overlayPaths entries (.table []))

/-- The settings of the file, if there is one, and of the variables. -/
def build (file : Option String) (assignments : List (String × String)) :
    Except ConfigError Setting :=
  match file with
  | none => .ok (layers [] assignments)
  | some text =>
    match Toml.read? text with
    | none => .error (.fileParse (some configPath) text)
    | some entries => .ok (layers entries assignments)

/-- Loads the configuration from the file and the variables, else from the variables alone. -/
def load (file : Option String) (assignments : List (String × String)) : Loaded :=
  match build file assignments with
  | .ok settings => { result := ofSettings settings }
  | .error e =>
    { warning := if file.isSome then some e else none
      result := match build none assignments with
        | .ok settings => ofSettings settings
        | .error withoutFile => .error (.unbuilt e withoutFile) }

example : (ofToml "[search]\ndefault_rows = 50\n").toOption = some { defaultRows := some 50 } := by
  decide +kernel
example : (load (some "[sea") [("LIFEGUARD__SEARCH__COLLECTION_PREFIX", "007")]).result.toOption =
    some { collectionPrefix := "7" } := by decide +kernel
example : environment [("A", "1"), ("a", "2"), ("A", "3")] = [("A", "3"), ("a", "2")] := by
  decide +kernel

end SearchConfig
end SearchCriteria
