import CaseKeys.Text.Hex

/-! JSON values and their indented text. -/
namespace CaseKeys

/-- The values that a report is made of. The members of an object keep their order. -/
inductive Json where
  | text (s : String)
  | array (items : List Json)
  | object (members : List (String × Json))

namespace Json

/-- One character of a string. Quotes, backslashes and controls below the space are escaped and
everything else stands for itself. -/
def escapeChar (c : Char) : List Char :=
  if c = '"' || c = '\\' then ['\\', c]
  else if c = '\n' then ['\\', 'n']
  else if c = '\r' then ['\\', 'r']
  else if c = '\t' then ['\\', 't']
  else if c = '\x08' then ['\\', 'b']
  else if c = '\x0c' then ['\\', 'f']
  else if c.toNat < 0x20 then '\\' :: 'u' :: Text.hex 4 c.toNat
  else [c]

def quote (s : String) : List Char :=
  '"' :: s.toList.flatMap escapeChar ++ ['"']

def newline (level : Nat) : List Char :=
  '\n' :: List.replicate (2 * level) ' '

mutual

/-- The text of a value that stands at a level. An empty array or object takes no line. -/
def render (level : Nat) : Json → List Char
  | .text s => quote s
  | .array [] => ['[', ']']
  | .array (item :: items) =>
    '[' :: newline (level + 1) ++ render (level + 1) item ++ renderItems (level + 1) items ++
      newline level ++ [']']
  | .object [] => ['\x7b', '\x7d']
  | .object ((name, value) :: members) =>
    '\x7b' :: newline (level + 1) ++ quote name ++ [':', ' '] ++ render (level + 1) value ++
      renderMembers (level + 1) members ++ newline level ++ ['\x7d']

def renderItems (level : Nat) : List Json → List Char
  | [] => []
  | item :: items => ',' :: newline level ++ render level item ++ renderItems level items

def renderMembers (level : Nat) : List (String × Json) → List Char
  | [] => []
  | (name, value) :: members =>
    ',' :: newline level ++ quote name ++ [':', ' '] ++ render level value ++
      renderMembers level members

end

def print (v : Json) : String :=
  String.ofList (v.render 0)

end Json
end CaseKeys
