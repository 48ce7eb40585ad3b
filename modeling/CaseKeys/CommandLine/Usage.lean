import CaseKeys.CommandLine.UsageError

/-! The usage and help texts. -/
namespace CaseKeys.CommandLine.Usage

def program : String := "localized-keys"

def choices : String :=
  "\x7b" ++ ",".intercalate (KeyFormat.all.map KeyFormat.value) ++ "\x7d"

/-- The usage of the program, each line terminated. -/
def usage : String :=
  "usage: " ++ program ++ " [-h]\n" ++
  "                      [--key-format " ++ choices ++ "]\n" ++
  "                      [--json] [--allow-conflicts] [--verbose]\n" ++
  "                      [input]\n"

def help : String :=
  usage ++
  "\n" ++
  "Generate localization keys from enum case names\n" ++
  "\n" ++
  "positional arguments:\n" ++
  "  input                 File with one case name per line (default: stdin)\n" ++
  "\n" ++
  "options:\n" ++
  "  -h, --help            show this help message and exit\n" ++
  "  --key-format " ++ choices ++ ", -f " ++ choices ++ "\n" ++
  "                        Localization key format (default: upperSnakeCase)\n" ++
  "  --json                Print keys and conflicts as JSON\n" ++
  "  --allow-conflicts     Report key conflicts as warnings instead of errors\n" ++
  "  --verbose, -v         Print a conversion summary to stderr\n" ++
  "\n" ++
  "Examples:\n" ++
  "  # Upper snake case keys (default)\n" ++
  "  localized-keys cases.txt\n" ++
  "\n" ++
  "  # Camel case keys as JSON\n" ++
  "  localized-keys cases.txt --key-format camelCase --json\n" ++
  "\n" ++
  "  # Read case names from stdin, report conflicts as warnings\n" ++
  "  printf 'a\\nA\\n' | localized-keys - --allow-conflicts\n" ++
  "        \n"

def complaint (e : UsageError) : String :=
  usage ++ program ++ ": error: " ++ e.message ++ "\n"

end CaseKeys.CommandLine.Usage
