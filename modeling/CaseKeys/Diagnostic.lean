import CaseKeys.Conflict

/-! Diagnostics: the problems that are reported while keys are generated. -/
namespace CaseKeys

inductive Severity where
  | warning
  | error
  deriving DecidableEq, Repr

def Severity.text : Severity → String
  | warning => "warning"
  | error => "error"

/-- A problem, with the case name that it is about if there is one. -/
structure Diagnostic where
  severity : Severity
  name : String
  message : String
  subject : Option String := none
  deriving DecidableEq, Repr

namespace Diagnostic

/-- The stable identifier of the kind of problem. -/
def id (d : Diagnostic) : String :=
  "Localized." ++ d.name

/-- Whether the problem makes a run fail. -/
def isError (d : Diagnostic) : Bool :=
  d.severity = .error

def withSeverity (d : Diagnostic) (s : Severity) : Diagnostic :=
  ⟨s, d.name, d.message, d.subject⟩

def format (d : Diagnostic) : String :=
  d.severity.text ++ ": " ++ d.message

/-- Two case names share a key. The problem is about the later one. -/
def keyConflict (c : Conflict) : Diagnostic :=
  ⟨.error, "keyConflict",
    "Cases '" ++ c.first ++ "' and '" ++ c.second ++ "' produce the same localization key '" ++
      c.key ++ "'",
    some c.second⟩

def emptyKey (name : String) : Diagnostic :=
  ⟨.warning, "emptyKey", "Case '" ++ name ++ "' produces an empty localization key", some name⟩

def invalidName (name : String) : Diagnostic :=
  ⟨.warning, "invalidIdentifier", "'" ++ name ++ "' is not a valid case name", some name⟩

end Diagnostic
end CaseKeys
