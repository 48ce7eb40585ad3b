/-! Paths of input files in their shortest lexical form. -/
namespace CaseKeys.Source

/-- A path without empty and single-dot components. Two slashes at the start are a root of their
own kind; one slash or more than two are the ordinary root. Double dots are kept. -/
structure Path where
  root : List Char
  components : List (List Char)
  deriving DecidableEq, Repr

namespace Path

/-- The root that the slashes at the start of a text denote. -/
def rootOf (text : List Char) : List Char :=
  match (text.takeWhile (· = '/')).length with
  | 0 => []
  | 2 => ['/', '/']
  | _ => ['/']

def ofChars (text : List Char) : Path :=
  ⟨rootOf text, (text.splitOn '/').filter fun part => part ≠ [] && part ≠ ['.']⟩

/-- The characters of a path. A path with no root and no component is the current directory. -/
def toChars (p : Path) : List Char :=
  match p.root, p.components with
  | [], [] => ['.']
  | root, components => root ++ ['/'].intercalate components

def ofString (text : String) : Path :=
  ofChars text.toList

def shown (p : Path) : String :=
  String.ofList p.toChars

/-- A single dash denotes the standard input. -/
def isDash (p : Path) : Bool :=
  p.toChars = ['-']

end Path
end CaseKeys.Source
