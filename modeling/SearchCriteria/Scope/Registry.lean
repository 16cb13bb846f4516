import SearchCriteria.Scope.Builder
import SearchCriteria.Scope.Program

/-! What a model has registered: named scopes, finders and the parts of its default scope.
A name is a scope or a finder, whichever was registered last. -/
namespace SearchCriteria

structure ScopeDefinition where
  builder : ScopeBuilder
  extension : Extension := []
  deriving Inhabited

structure Registry where
  scopes : NameTable ScopeDefinition := []
  finders : NameTable Finder := []
  defaults : List ScopeBuilder := []
  deriving Inhabited

def builtinOperations : List String :=
  ["filter", "or", "any_of", "between", "lte", "gte", "lt", "gt", "sort", "order_by", "order",
   "limit", "rows", "skip", "start", "merge", "execute", "total", "document_ids", "documents",
   "criteria", "search"]

namespace Registry

def scope? (r : Registry) (name : String) : Option ScopeDefinition := r.scopes.get? name
def finder? (r : Registry) (name : String) : Option Finder := r.finders.get? name

def respondsTo (r : Registry) (name : String) : Bool :=
  r.scopes.contains name || r.finders.contains name

def isTaken (r : Registry) (name : String) : Bool :=
  builtinOperations.contains name || r.respondsTo name

def insertScope (r : Registry) (name : String) (d : ScopeDefinition) : Bool × Registry :=
  (r.isTaken name, { r with finders := r.finders.remove name, scopes := r.scopes.set name d })

def insertFinder (r : Registry) (name : String) (f : Finder) : Bool × Registry :=
  (r.isTaken name, { r with scopes := r.scopes.remove name, finders := r.finders.set name f })

def scopeNames (r : Registry) : List String := r.scopes.names
def hasDefaultScope (r : Registry) : Bool := !r.defaults.isEmpty

def defaultQuery (r : Registry) (catalog : Catalog) : Option SearchQuery :=
  ScopeBuilder.compose catalog r.defaults

def pushDefault (r : Registry) (part : ScopeBuilder) : Registry :=
  { r with defaults := r.defaults ++ [part] }

/-- Adds a part to the default scope unless the scope is that part already, and says
whether it did. -/
def composeDefault (r : Registry) (catalog : Catalog) (part : ScopeBuilder) : Bool × Registry :=
  if ScopeBuilder.isSameDefault catalog r.defaults part then (false, r)
  else (true, r.pushDefault part)

def facts (r : Registry) : ModelFacts := ⟨r.hasDefaultScope, r.scopeNames, r.finders.names⟩

theorem scope?_insertScope (r : Registry) (name other : String) (d : ScopeDefinition) :
    (r.insertScope name d).2.scope? other = if other = name then some d else r.scope? other :=
  NameTable.get?_set ..

theorem finder?_insertScope (r : Registry) (name other : String) (d : ScopeDefinition) :
    (r.insertScope name d).2.finder? other = if other = name then none else r.finder? other :=
  NameTable.get?_remove ..

theorem scope?_insertFinder (r : Registry) (name other : String) (f : Finder) :
    (r.insertFinder name f).2.scope? other = if other = name then none else r.scope? other :=
  NameTable.get?_remove ..

theorem finder?_insertFinder (r : Registry) (name other : String) (f : Finder) :
    (r.insertFinder name f).2.finder? other = if other = name then some f else r.finder? other :=
  NameTable.get?_set ..

end Registry

abbrev Registries := Nat → Registry

def Registries.catalog (rs : Registries) : Catalog := fun id => (rs id).facts

end SearchCriteria
