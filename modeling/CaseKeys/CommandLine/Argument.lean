import CaseKeys.CommandLine.UsageError
import CaseKeys.Text.Digit

/-! The arguments of a command line, each sorted by its form alone. -/
namespace CaseKeys.CommandLine

/-- What is attached to a switch in one text with it. -/
inductive Attachment where
  /-- The text behind an equals sign. -/
  | value (text : List Char)
  /-- The text directly behind a short spelling. -/
  | tail (text : List Char)
  deriving DecidableEq, Repr

inductive Argument where
  /-- A text that is no switch. -/
  | operand (text : String)
  /-- The two dashes after which every argument is an operand. -/
  | divider
  /-- A switch, whether a short spelling was used, and what is attached to it. -/
  | switch (s : Switch) (short : Bool) (attached : Option Attachment)
  /-- A text with the form of a switch that is none. -/
  | unknown (text : String)
  deriving DecidableEq, Repr

namespace Argument

/-- The part of a text before its first equals sign, and the part after it if there is one. -/
def splitValue : List Char → List Char × Option (List Char)
  | [] => ([], none)
  | '=' :: rest => ([], some rest)
  | c :: rest => (c :: (splitValue rest).1, (splitValue rest).2)

/-- Whether a text is a number below zero: a dash, then digits, with an optional point before the
last run of them. One newline may follow. -/
def isNegativeNumber (text : List Char) : Bool :=
  match text with
  | '-' :: digits =>
    let digits := if digits.getLast? = some '\n' then digits.dropLast else digits
    let fraction := digits.dropWhile Text.isDecimal
    (fraction.isEmpty && !digits.isEmpty) ||
      match fraction with
      | '.' :: places => !places.isEmpty && places.all Text.isDecimal
      | _ => false
  | _ => false

def isShort (spelling : List Char) : Bool :=
  match spelling with
  | '-' :: '-' :: _ => false
  | _ => true

/-- The switches that a text with a dash in front may stand for by abbreviation, or by a short
spelling with something directly behind it. -/
def candidates (text : List Char) : List (List Char × Switch × Option Attachment) :=
  if isShort text then
    match Switch.ofSpelling? (text.take 2) with
    | some s => [(text.take 2, s, some (.tail (text.drop 2)))]
    | none => []
  else
    let (name, value) := splitValue text
    (Switch.completions name).map fun (spelling, s) => (spelling, s, value.map .value)

/-- Sorts a text that is not the divider. -/
def classify (text : String) : Except UsageError Argument :=
  let chars := text.toList
  let (name, value) := splitValue chars
  if chars.head? ≠ some '-' then .ok (.operand text)
  else
    match Switch.ofSpelling? chars with
    | some s => .ok (.switch s (isShort chars) none)
    | none =>
      if chars = ['-'] then .ok (.operand text)
      else
        match value, Switch.ofSpelling? name with
        | some value, some s => .ok (.switch s (isShort name) (some (.value value)))
        | _, _ =>
          match candidates chars with
          | [] =>
            if isNegativeNumber chars || chars.contains ' ' then .ok (.operand text)
            else .ok (.unknown text)
          | [(spelling, s, attached)] => .ok (.switch s (isShort spelling) attached)
          | many => .error (.ambiguous text (many.map fun c => String.ofList c.1))

/-- Sorts the arguments in order. Behind the first divider there are only operands. -/
def classifyAll : List String → Except UsageError (List Argument)
  | [] => .ok []
  | text :: rest =>
    if text = "--" then .ok (.divider :: rest.map .operand)
    else do
      let argument ← classify text
      let others ← classifyAll rest
      return argument :: others

end Argument
end CaseKeys.CommandLine
