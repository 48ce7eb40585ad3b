import CaseKeys.Source.Path
import CaseKeys.Text.Blank
import CaseKeys.Text.Lines
import CaseKeys.Text.Quoted
import CaseKeys.Text.Utf8

/-! Lists of case names, one name to a line, as they are read from a file or standard input. -/
namespace CaseKeys.Source

/-- The case name on a line: the line without white space at its ends, unless it is then empty or
begins with a number sign. -/
def nameOnLine? (line : List Char) : Option String :=
  match Text.trimBlank line with
  | [] => none
  | c :: rest => if c = '#' then none else some (String.ofList (c :: rest))

def namesOnLines (lines : List (List Char)) : List String :=
  lines.filterMap nameOnLine?

def namesOf (newlines : Text.Newlines) (text : List Char) : List String :=
  namesOnLines (Text.lines newlines text)

/-- Why the system gives no content for a path. -/
inductive ReadFault where
  /-- Nothing is there, or the path goes on below a file. -/
  | missing
  /-- The path leads to a directory. -/
  | directory
  /-- The path or one of its components is longer than the system allows. -/
  | nameTooLong
  /-- The system refuses for another reason, given by its number and its words. -/
  | refused (code : Nat) (reason : String)
  deriving DecidableEq, Repr

inductive LoadError where
  | missing (path : Path)
  | unreadable (code : Nat) (reason : String) (path : Path)
  | undecodable (fault : Text.Utf8.Fault)
  deriving DecidableEq, Repr

def LoadError.message : LoadError → String
  | missing path => "Input file not found: " ++ path.shown
  | unreadable code reason path =>
    "[Errno " ++ toString code ++ "] " ++ reason ++ ": " ++ Text.quoted path.shown
  | undecodable fault => fault.message

def LoadError.ofFault (path : Path) : ReadFault → LoadError
  | .missing => .missing path
  | .directory => .unreadable 21 "Is a directory" path
  | .nameTooLong => .unreadable 36 "File name too long" path
  | .refused code reason => .unreadable code reason path

def decodeNames (newlines : Text.Newlines) (bytes : List UInt8) : Except LoadError (List String) :=
  match Text.Utf8.decode bytes with
  | .ok text => .ok (namesOf newlines text)
  | .error fault => .error (.undecodable fault)

/-- The case names of the file at a path, given its content or why there is none. The lines of a
file end in every way. -/
def fileNames (path : Path) : Except ReadFault (List UInt8) → Except LoadError (List String)
  | .ok content => decodeNames .universal content
  | .error fault => .error (.ofFault path fault)

/-- What case names can be read from: the files, as the system answers when a path is read, and the
standard input, whose lines end where the system has them end. -/
structure Inputs where
  file : Path → Except ReadFault (List UInt8)
  standard : List UInt8
  newlines : Text.Newlines

/-- The file that was chosen as input. No path at all and a single dash choose the standard
input. -/
def filePath? (input : Option Path) : Option Path :=
  input.filter fun path => !path.isDash

/-- The case names of the chosen input. -/
def loadNames (inputs : Inputs) (input : Option Path) : Except LoadError (List String) :=
  match filePath? input with
  | none => decodeNames inputs.newlines inputs.standard
  | some path => fileNames path (inputs.file path)

end CaseKeys.Source
