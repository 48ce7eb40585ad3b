import CaseKeys.CommandLine.Outcome

/-! The command: its arguments, files and standard streams. -/
namespace CaseKeys.CommandLine

def systemError? : IO.Error → Option (UInt32 × String)
  | .noFileOrDirectory _ code text | .interrupted _ code text => some (code, text)
  | .alreadyExists _ code text | .invalidArgument _ code text | .permissionDenied _ code text
  | .resourceExhausted _ code text | .inappropriateType _ code text
  | .noSuchThing _ code text => some (code, text)
  | .otherError code text | .resourceBusy code text | .resourceVanished code text
  | .unsupportedOperation code text | .hardwareFault code text
  | .unsatisfiedConstraints code text | .illegalOperation code text | .protocolError code text
  | .timeExpired code text => some (code, text)
  | .unexpectedEof | .userError _ => none

/-- The number of an error. Some calls report it negated. -/
def errorNumber (code : UInt32) : Nat :=
  if code.toNat < 0x80000000 then code.toNat else 0x100000000 - code.toNat

def readFault (e : IO.Error) : Source.ReadFault :=
  match systemError? e with
  | none => .refused 5 (toString e)
  | some (code, text) =>
    match errorNumber code with
    -- no such entry, a bad descriptor, no directory on the way, and links in a circle
    | 2 | 9 | 20 | 40 => .missing
    | 21 => .directory
    | 36 => .nameTooLong
    | number => .refused number text.capitalize

/-- The content of a file, or why there is none. -/
def readFile (path : Source.Path) : IO (Except Source.ReadFault (List UInt8)) := do
  try
    return .ok (← IO.FS.readBinFile path.shown).toList
  catch e => return .error (readFault e)

def readNames (input : Option Source.Path) : IO (Except Source.LoadError (List String)) := do
  match Source.filePath? input with
  | none => return Source.decodeNames .lineFeed (← (← IO.getStdin).readBinToEnd).toList
  | some path => return Source.fileNames path (← readFile path)

def outcome (texts : List String) : IO Outcome := do
  match Invocation.ofArguments .current texts with
  | .error stop => return .ofStop stop
  | .ok i => return .ofNames i (← readNames i.input)

end CaseKeys.CommandLine

/-- Runs the command and ends with its status. -/
def main (arguments : List String) : IO UInt32 := do
  let outcome ← CaseKeys.CommandLine.outcome arguments
  (← IO.getStdout).putStr outcome.output
  (← IO.getStderr).putStr outcome.errors
  return outcome.status.toUInt32
