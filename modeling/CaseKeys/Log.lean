import CaseKeys.Conflict
import CaseKeys.KeyFormat

/-! The log of a run and the summary that is drawn from it. -/
namespace CaseKeys

structure Conversion where
  name : String
  key : String
  format : KeyFormat
  deriving DecidableEq, Repr

/-- A case name without a key, and why. -/
structure Skip where
  name : String
  reason : String
  deriving DecidableEq, Repr

/-- What happened so far, each kind in order. Skips and conflicts also leave a warning. A verbose
log lists its conversions when it is printed. -/
structure Log where
  verbose : Bool := false
  conversions : List Conversion := []
  skipped : List Skip := []
  conflicts : List Conflict := []
  warnings : List String := []
  deriving DecidableEq, Repr

namespace Log

def convert (l : Log) (c : Conversion) : Log :=
  { l with conversions := l.conversions ++ [c] }

def skipWarning (s : Skip) : String :=
  "Skipped '" ++ s.name ++ "': " ++ s.reason

def skip (l : Log) (s : Skip) : Log :=
  { l with skipped := l.skipped ++ [s], warnings := l.warnings ++ [skipWarning s] }

def conflictWarning (c : Conflict) : String :=
  "Key conflict for '" ++ c.key ++ "': '" ++ c.first ++ "' vs '" ++ c.second ++ "'"

def conflict (l : Log) (c : Conflict) : Log :=
  { l with conflicts := l.conflicts ++ [c], warnings := l.warnings ++ [conflictWarning c] }

def warn (l : Log) (message : String) : Log :=
  { l with warnings := l.warnings ++ [message] }

def clear (l : Log) : Log :=
  { verbose := l.verbose }

/-- One more use of a format; a format that is new goes to the end. -/
def countUse (f : KeyFormat) : List (KeyFormat × Nat) → List (KeyFormat × Nat)
  | [] => [(f, 1)]
  | (g, n) :: rest => if g = f then (g, n + 1) :: rest else (g, n) :: countUse f rest

/-- The number of conversions in each format, in the order of first use. -/
def byFormat (l : Log) : List (KeyFormat × Nat) :=
  l.conversions.foldl (fun counts c => countUse c.format counts) []

def distinctKeys (l : Log) : Nat :=
  (l.conversions.map (·.key)).eraseDups.length

end Log

structure Summary where
  conversions : Nat
  byFormat : List (KeyFormat × Nat)
  distinctKeys : Nat
  skipped : Nat
  conflicts : Nat
  warnings : Nat
  deriving DecidableEq, Repr

def Log.summary (l : Log) : Summary :=
  ⟨l.conversions.length, l.byFormat, l.distinctKeys, l.skipped.length, l.conflicts.length,
    l.warnings.length⟩

namespace Log

/-- A section of the printed summary, with an empty line after it. Without lines it is left out
altogether. -/
def listing (title : List String) (lines : List String) : List String :=
  if lines.isEmpty then [] else title ++ lines ++ [""]

def summaryLines (l : Log) : List String :=
  let s := l.summary
  ["=== Localization Key Summary ===",
    "Total conversions: " ++ toString s.conversions,
    "Distinct keys: " ++ toString s.distinctKeys,
    ""] ++
  listing ["Conversions by format:"]
    (s.byFormat.map fun (f, n) => "  " ++ f.value ++ ": " ++ toString n) ++
  (if l.verbose then
    listing ["Conversions:"] (l.conversions.map fun c => "  " ++ c.name ++ " → " ++ c.key)
  else []) ++
  ["Skipped: " ++ toString s.skipped,
    "Conflicts: " ++ toString s.conflicts] ++
  listing [] (l.conflicts.map Conflict.format) ++
  ["Warnings: " ++ toString s.warnings] ++
  (if l.warnings.isEmpty then [] else "Warning details:" :: l.warnings.map ("  " ++ ·))

/-- The printed summary, without a newline at its end. -/
def printed (l : Log) : String :=
  "\n".intercalate l.summaryLines

end Log
end CaseKeys
