/-! Conflicts: two case names with one localization key. -/
namespace CaseKeys

/-- A key with the case name that claimed it first and a later one that produces it again. -/
structure Conflict where
  key : String
  first : String
  second : String
  deriving DecidableEq, Repr

namespace Conflict

def format (c : Conflict) : String :=
  "  Conflict: '" ++ c.first ++ "' vs '" ++ c.second ++ "' → " ++ c.key

/-- The keys of the conflicts, each once, in dictionary order. -/
def keys (conflicts : List Conflict) : List String :=
  (conflicts.map (·.key)).eraseDups.mergeSort fun a b => a ≤ b

end Conflict
end CaseKeys
