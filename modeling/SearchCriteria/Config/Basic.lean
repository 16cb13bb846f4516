/-! The two settings of a search. -/
namespace SearchCriteria

structure SearchConfig where
  collectionPrefix : String := ""
  defaultRows : Option UInt64 := none
  deriving DecidableEq, Inhabited

def SearchConfig.collectionName (c : SearchConfig) (name : String) : String :=
  c.collectionPrefix ++ name

end SearchCriteria
