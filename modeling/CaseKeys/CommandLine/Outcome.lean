import CaseKeys.CommandLine.Invocation
import CaseKeys.CommandLine.Usage
import CaseKeys.Report
import CaseKeys.Source.CaseList

/-! Outcomes: what a run of the command prints and the status with which it ends. -/
namespace CaseKeys.CommandLine

/-- The status of a run and the texts on its two streams. -/
@[ext]
structure Outcome where
  status : Nat
  output : String
  errors : String
  deriving DecidableEq, Repr

namespace Outcome

def line (text : String) : String :=
  text ++ "\n"

def ofStop : Stop → Outcome
  | .help => ⟨0, Usage.help, ""⟩
  | .usage e => ⟨2, "", Usage.complaint e⟩

def inputName : Option Source.Path → String
  | none => "None"
  | some path => path.shown

def loadComplaint (input : Option Source.Path) (e : Source.LoadError) : String :=
  match e with
  | .missing _ => "Error: " ++ e.message
  | _ => "Error: Cannot read " ++ inputName input ++ ": " ++ e.message

def report (i : Invocation) (s : Session) : String :=
  if i.json then Report.json s else Report.text s

/-- What a session prints on the error stream: its diagnostics and, on demand, its summary. -/
def commentary (i : Invocation) (s : Session) : String :=
  String.join (s.diagnostics.map fun d => line d.format) ++
    if i.verbose then line s.log.printed else ""

/-- The outcome of a finished session. An empty report prints no line. -/
def ofSession (i : Invocation) (s : Session) : Outcome :=
  ⟨if s.hasErrors then 1 else 0, if report i s = "" then "" else line (report i s),
    commentary i s⟩

def ofNames (i : Invocation) : Except Source.LoadError (List String) → Outcome
  | .error e => ⟨1, "", line (loadComplaint i.input e)⟩
  | .ok names => ofSession i (Session.generate names i.options)

/-- The outcome of a command line where there are some inputs. -/
def ofArguments (rules : Rules) (texts : List String) (inputs : Source.Inputs) : Outcome :=
  match Invocation.ofArguments rules texts with
  | .error stop => ofStop stop
  | .ok i => ofNames i (Source.loadNames inputs i.input)

end Outcome
end CaseKeys.CommandLine
