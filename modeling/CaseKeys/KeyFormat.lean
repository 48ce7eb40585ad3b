import CaseKeys.Text.Blank

/-! The four formats of a localization key and the spellings under which they are chosen. -/
namespace CaseKeys

/-- How the words of a case name are cased and joined into a key. -/
inductive KeyFormat where
  | lowerSnake
  | upperSnake
  | camel
  | pascal
  deriving DecidableEq, Repr

namespace KeyFormat

def all : List KeyFormat :=
  [.lowerSnake, .upperSnake, .camel, .pascal]

/-- The format that applies when none is chosen. -/
def standard : KeyFormat :=
  .upperSnake

/-- The spelling of a format on the command line and in reports. -/
def value : KeyFormat → String
  | lowerSnake => "lowerSnakeCase"
  | upperSnake => "upperSnakeCase"
  | camel => "camelCase"
  | pascal => "pascalCase"

def constant : KeyFormat → String
  | lowerSnake => "LOWER_SNAKE_CASE"
  | upperSnake => "UPPER_SNAKE_CASE"
  | camel => "CAMEL_CASE"
  | pascal => "PASCAL_CASE"

def isSnake : KeyFormat → Bool
  | lowerSnake | upperSnake => true
  | camel | pascal => false

structure Unknown where
  name : String
  deriving DecidableEq, Repr

def Unknown.message (u : Unknown) : String :=
  "Unknown key format '" ++ u.name ++ "' (expected one of: " ++
    ", ".intercalate (all.map value) ++ ")"

/-- A spelling without white space at its ends and then without leading dots. -/
def bareName (name : String) : String :=
  String.ofList ((Text.trimBlank name.toList).dropWhile (· = '.'))

/-- The format of a spelling. Its value and its constant are accepted in their exact case; the
empty spelling chooses the standard format. -/
def ofName (name : String) : Except Unknown KeyFormat :=
  if name = "" then .ok standard
  else
    match all.find? fun f => bareName name = f.value || bareName name = f.constant with
    | some f => .ok f
    | none => .error ⟨name⟩

def ofName? : Option String → Except Unknown KeyFormat
  | none => .ok standard
  | some name => ofName name

/-- No spelling at all is read as the empty one. -/
theorem ofName?_eq_ofName (name : Option String) : ofName? name = ofName (name.getD "") := by
  cases name with
  | none => rfl
  | some name => rfl

def ofValue? (value : String) : Option KeyFormat :=
  all.find? (·.value = value)

end KeyFormat
end CaseKeys
