import CaseKeys.CommandLine.Argument
import CaseKeys.Session
import CaseKeys.Source.Path

/-! Invocations: what a command line asks for. -/
namespace CaseKeys.CommandLine

structure Invocation where
  input : Option Source.Path := none
  format : KeyFormat := .standard
  json : Bool := false
  allowConflicts : Bool := false
  verbose : Bool := false
  deriving DecidableEq, Repr

/-- Why a command line is no request to generate keys. -/
inductive Stop where
  | help
  | usage (e : UsageError)
  deriving DecidableEq, Repr

/-- The rules for what is attached to a switch. They have changed once. -/
inductive Rules where
  /-- Behind a short flag every letter is a switch, also behind an equals sign, and a letter that is
  none is an error. A divider that is attached as a value is dropped. -/
  | former
  /-- An equals sign begins a value, in front of which no flag may stand. A letter that is no switch
  is left over together with what is behind it. -/
  | current
  deriving DecidableEq, Repr

namespace Invocation

def options (i : Invocation) : Options :=
  ⟨i.format, i.allowConflicts, if i.json then "json" else "text", i.verbose⟩

/-- What is found behind the last switch of an argument. -/
inductive Value where
  | none
  | attached (value : String)
  | following
  /-- Letters that are no switches, with a dash in front. -/
  | leftOver (text : String)
  deriving DecidableEq, Repr

/-- A switch with a value behind an equals sign. -/
def valued (s : Switch) (value : List Char) : Except UsageError (List Switch × Value) :=
  if s.takesValue then .ok ([s], .attached (String.ofList value))
  else .error (.valueNotTaken s (String.ofList value))

/-- The switches that one argument stands for, in order, and what is found behind the last of them.
Directly behind a short switch that takes no value further short switches may stand. -/
def cluster (rules : Rules) (s : Switch) : List Char → Except UsageError (List Switch × Value)
  | [] => .ok ([s], if s.takesValue then .following else .none)
  | c :: rest =>
    if rules = .current && c = '=' then valued s rest
    else if s.takesValue then .ok ([s], .attached (String.ofList (c :: rest)))
    else
      match Switch.ofSpelling? ['-', c] with
      | some t => do
        let (switches, value) ← cluster rules t rest
        return (s :: switches, value)
      | none =>
        if rules = .current && c ≠ '-' then .ok ([s], .leftOver (String.ofList ('-' :: c :: rest)))
        else .error (.valueNotTaken s (String.ofList (c :: rest)))

/-- The switches that an argument stands for. -/
def switches (rules : Rules) (s : Switch) (short : Bool) :
    Option Attachment → Except UsageError (List Switch × Value)
  | none => cluster rules s []
  | some (.tail text) => cluster rules s text
  | some (.value text) =>
    if rules = .former && short && !text.isEmpty then cluster rules s text else valued s text

/-- Chooses a key format. -/
def chooseFormat (rules : Rules) (i : Invocation) (value : String) : Except Stop Invocation :=
  if rules = .former && value = "--" then .ok { i with format := .standard }
  else
    match KeyFormat.ofValue? value with
    | some f => .ok { i with format := f }
    | none => .error (.usage (.noSuchFormat value))

def obey (rules : Rules) (i : Invocation) (value : String) : Switch → Except Stop Invocation
  | .help => .error .help
  | .keyFormat => i.chooseFormat rules value
  | .json => .ok { i with json := true }
  | .allowConflicts => .ok { i with allowConflicts := true }
  | .verbose => .ok { i with verbose := true }

def obeyAll (rules : Rules) (i : Invocation) (value : String) (switches : List Switch) :
    Except Stop Invocation :=
  switches.foldlM (fun i s => i.obey rules value s) i

end Invocation

/-- A command line read in part: whether the place of the input has been filled, perhaps by
nothing, and the arguments that are left over so far. -/
structure Progress where
  invocation : Invocation := {}
  filled : Bool := false
  leftOver : List String := []

namespace Progress

def fill (p : Progress) (text : String) : Progress :=
  { p with invocation := { p.invocation with input := some (.ofString text) }, filled := true }

def leave (p : Progress) (text : String) : Progress :=
  { p with leftOver := p.leftOver ++ [text] }

/-- Leaves the operands behind the divider over. -/
def leaveAll (p : Progress) (arguments : List Argument) : Progress :=
  arguments.foldl
    (fun p a => match a with
      | .operand text => p.leave text
      | _ => p) p

/-- Reads the divider and what is behind it. It fills the place of the input with the first
operand, or with nothing; when the place is filled it is left over itself. -/
def divide (p : Progress) (rest : List Argument) : Progress :=
  if p.filled then (p.leave "--").leaveAll rest
  else
    match rest with
    | .operand text :: others => (p.fill text).leaveAll others
    | others => { p with filled := true }.leaveAll others

/-- Obeys the switches of one argument. -/
def obey (rules : Rules) (p : Progress) (value : String) (switches : List Switch) :
    Except Stop Progress := do
  let invocation ← p.invocation.obeyAll rules value switches
  return { p with invocation := invocation }

/-- Reads arguments in order. The first operand is the input and takes a divider directly behind
it along. A switch is obeyed when it is reached, with its value known. -/
def read (rules : Rules) (p : Progress) : List Argument → Except Stop Progress
  | [] => .ok p
  | .operand text :: .divider :: rest =>
    if p.filled then .ok ((p.leave text).divide rest) else .ok ((p.fill text).leaveAll rest)
  | .operand text :: rest => (if p.filled then p.leave text else p.fill text).read rules rest
  | .divider :: rest => .ok (p.divide rest)
  | .unknown text :: rest => (p.leave text).read rules rest
  | .switch s short attached :: rest =>
    match Invocation.switches rules s short attached with
    | .error e => .error (.usage e)
    | .ok (switches, .none) => do (← p.obey rules "" switches).read rules rest
    | .ok (switches, .attached value) => do (← p.obey rules value switches).read rules rest
    | .ok (switches, .leftOver text) => do
      (← (p.leave text).obey rules "" switches).read rules rest
    | .ok (switches, .following) =>
      match rest with
      | .operand value :: others => do (← p.obey rules value switches).read rules others
      | _ => .error (.usage (.valueMissing .keyFormat))

end Progress

namespace Invocation

/-- What a command line asks for. -/
def ofArguments (rules : Rules) (texts : List String) : Except Stop Invocation :=
  match Argument.classifyAll texts with
  | .error e => .error (.usage e)
  | .ok arguments => do
    let p ← Progress.read rules {} arguments
    if p.leftOver.isEmpty then return p.invocation
    else throw (.usage (.leftOver p.leftOver))

end Invocation
end CaseKeys.CommandLine
