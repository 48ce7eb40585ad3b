import CaseKeys.Json
import CaseKeys.Session

/-! The two reports of a session: plain lines and JSON. -/
namespace CaseKeys.Report

def line (entry : String × String) : String :=
  entry.1 ++ " = " ++ entry.2

/-- The plain report: a line for every entry, the last one unterminated. -/
def text (s : Session) : String :=
  "\n".intercalate (s.table.entries.map line)

/-- Sets the value of a name. A name that is there keeps its place, a new one goes to the end. -/
def put (members : List (String × String)) (name value : String) : List (String × String) :=
  match members with
  | [] => [(name, value)]
  | (n, v) :: rest => if n = name then (n, value) :: rest else (n, v) :: put rest name value

/-- The entries as members of an object, where no name stands twice. -/
def members (entries : List (String × String)) : List (String × String) :=
  entries.foldl (fun ms entry => put ms entry.1 entry.2) []

def conflict (c : Conflict) : Json :=
  .object [("key", .text c.key), ("first", .text c.first), ("second", .text c.second)]

/-- The content of the JSON report: the format, the key of every case name, and the conflicts. -/
def content (s : Session) : Json :=
  .object [
    ("keyFormat", .text s.options.format.value),
    ("keys", .object ((members s.table.entries).map fun m => (m.1, .text m.2))),
    ("conflicts", .array (s.table.conflicts.map conflict))]

def json (s : Session) : String :=
  (content s).print

end CaseKeys.Report
