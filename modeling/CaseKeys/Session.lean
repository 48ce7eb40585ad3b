import CaseKeys.CaseName
import CaseKeys.Diagnostic
import CaseKeys.KeyTable
import CaseKeys.Log

/-! Sessions: the keys of one enum are generated, recorded and checked together. -/
namespace CaseKeys

structure Options where
  format : KeyFormat := .standard
  allowConflicts : Bool := false
  outputFormat : String := "text"
  verbose : Bool := false
  deriving DecidableEq, Repr

/-- The state of a run. The table holds its own format, which is the one of the options at the
start. -/
structure Session where
  options : Options
  table : KeyTable
  log : Log
  diagnostics : List Diagnostic
  deriving DecidableEq, Repr

namespace Session

def start (options : Options) : Session :=
  ⟨options, ⟨options.format, [], [], []⟩, { verbose := options.verbose }, []⟩

def problems (options : Options) (name key : String) (conflict : Option Conflict) :
    List Diagnostic :=
  (if CaseName.isValid name then [] else [.invalidName name]) ++
  (if key = "" then [.emptyKey name] else []) ++
  match conflict with
  | none => []
  | some c =>
    [if options.allowConflicts then (Diagnostic.keyConflict c).withSeverity .warning
      else .keyConflict c]

/-- The log after one case name, given its key and the conflict that it caused. -/
def logged (options : Options) (log : Log) (name key : String) (conflict : Option Conflict) :
    Log :=
  let log :=
    if key = "" then log.skip ⟨name, "empty localization key"⟩
    else log.convert ⟨name, key, options.format⟩
  match conflict with
  | none => log
  | some c => log.conflict c

/-- The key of a case name under the options in force. -/
def keyOf (s : Session) (name : String) : String :=
  Key.ofName name s.options.format

/-- Records a case name and returns its key. The table makes its own key; the log, the check for
emptiness and the answer use the key under the options. -/
def add (s : Session) (name : String) : Session × String :=
  let key := s.keyOf name
  let (table, conflict) := s.table.add name
  ({ s with
      table := table
      log := logged s.options s.log name key conflict
      diagnostics := s.diagnostics ++ problems s.options name key conflict }, key)

def addAll (s : Session) (names : List String) : Session :=
  names.foldl (fun s name => (s.add name).1) s

def hasErrors (s : Session) : Bool :=
  s.diagnostics.any Diagnostic.isError

def generate (names : List String) (options : Options) : Session :=
  (start options).addAll names

end Session
end CaseKeys
