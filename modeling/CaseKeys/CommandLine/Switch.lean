/-! The switches of the command line and their spellings. -/
namespace CaseKeys.CommandLine

/-- A switch. Only `keyFormat` takes a value. -/
inductive Switch where
  | help
  | keyFormat
  | json
  | allowConflicts
  | verbose
  deriving DecidableEq, Repr

namespace Switch

def takesValue (s : Switch) : Bool :=
  s = .keyFormat

/-- Every spelling with its switch, in the order in which alternatives are listed. -/
def spellings : List (List Char × Switch) :=
  [("-h".toList, .help), ("--help".toList, .help), ("--key-format".toList, .keyFormat),
   ("-f".toList, .keyFormat), ("--json".toList, .json),
   ("--allow-conflicts".toList, .allowConflicts), ("--verbose".toList, .verbose),
   ("-v".toList, .verbose)]

def ofSpelling? (text : List Char) : Option Switch :=
  spellings.lookup text

def completions (text : List Char) : List (List Char × Switch) :=
  spellings.filter fun (spelling, _) => text.isPrefixOf spelling

def label (s : Switch) : String :=
  String.ofList ("/".toList.intercalate ((spellings.filter (·.2 = s)).map (·.1)))

end Switch
end CaseKeys.CommandLine
