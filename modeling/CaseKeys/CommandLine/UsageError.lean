import CaseKeys.CommandLine.Switch
import CaseKeys.KeyFormat
import CaseKeys.Text.Quoted

/-! The ways in which a command line can be wrong. -/
namespace CaseKeys.CommandLine

inductive UsageError where
  /-- An abbreviation begins several spellings. -/
  | ambiguous (text : String) (candidates : List String)
  /-- A value is attached to a switch that takes none. -/
  | valueNotTaken (s : Switch) (value : String)
  /-- No value follows a switch that takes one. -/
  | valueMissing (s : Switch)
  /-- The value of the key format is not the value of a format. -/
  | noSuchFormat (value : String)
  /-- Arguments are left over. -/
  | leftOver (texts : List String)
  deriving DecidableEq, Repr

namespace UsageError

def about (s : Switch) (problem : String) : String :=
  "argument " ++ s.label ++ ": " ++ problem

def message : UsageError → String
  | ambiguous text candidates =>
    "ambiguous option: " ++ text ++ " could match " ++ ", ".intercalate candidates
  | valueNotTaken s value => about s ("ignored explicit argument " ++ Text.quoted value)
  | valueMissing s => about s "expected one argument"
  | noSuchFormat value =>
    about .keyFormat ("invalid choice: " ++ Text.quoted value ++ " (choose from " ++
      ", ".intercalate (KeyFormat.all.map fun f => Text.quoted f.value) ++ ")")
  | leftOver texts => "unrecognized arguments: " ++ " ".intercalate texts

end UsageError
end CaseKeys.CommandLine
