import CaseKeys.KeyFormat
import CaseKeys.Text.Quoted
import CaseKeys.Text.Upper
import CaseKeys.Words

/-! Localization keys: the words of a case name, cased and joined by a format. -/
namespace CaseKeys

namespace Key

/-- The word with its first character in upper case and the rest as it is. -/
def capitalizeFirst : List Char → List Char
  | [] => []
  | c :: rest => Text.upperChar c ++ rest

/-- The characters of the key that a format makes of the words. Underscores stand between the words
of the snake formats and nowhere else. -/
def joinChars : KeyFormat → List (List Char) → List Char
  | .lowerSnake, words => ['_'].intercalate words
  | .upperSnake, words => ['_'].intercalate (words.map Text.upper)
  | .camel, [] => []
  | .camel, word :: rest => word ++ rest.flatMap capitalizeFirst
  | .pascal, words => words.flatMap capitalizeFirst

def capitalized (word : String) : String :=
  String.ofList (capitalizeFirst word.toList)

/-- The key that a format makes of the words; no words make the empty key. -/
def join (words : List String) (f : KeyFormat) : String :=
  String.ofList (joinChars f (words.map String.toList))

def ofName (name : String) (f : KeyFormat := .standard) : String :=
  join (Words.ofName name) f

/-- A value offered as a format. Only the first kind is one. -/
inductive Choice where
  | format (f : KeyFormat)
  | nothing
  | flag (b : Bool)
  | number (n : Int)
  | text (s : String)
  deriving DecidableEq, Repr

def Choice.shown : Choice → String
  | format f => f.value
  | nothing => "None"
  | flag true => "True"
  | flag false => "False"
  | number n => toString n
  | text s => Text.quoted s

structure UnsupportedFormat where
  offered : Choice
  deriving DecidableEq, Repr

def UnsupportedFormat.message (e : UnsupportedFormat) : String :=
  "Unsupported key format: " ++ e.offered.shown

/-- The key of the words under an unchecked choice. No words make the empty key whatever is
offered. -/
def joinChoice (words : List String) : Choice → Except UnsupportedFormat String
  | .format f => .ok (join words f)
  | offered => if words.isEmpty then .ok "" else .error ⟨offered⟩

theorem joinChoice_nil (offered : Choice) : joinChoice [] offered = .ok "" := by
  cases offered with
  | format f => cases f <;> rfl
  | nothing | flag _ | number _ | text _ => rfl

/-- A key of some words is that of a format, and it is refused under everything else. -/
theorem joinChoice_eq_ok_iff {words : List String} (hw : words ≠ []) {offered : Choice}
    {key : String} :
    joinChoice words offered = .ok key ↔ ∃ f, offered = .format f ∧ key = join words f := by
  cases offered with
  | format f => simp [joinChoice, eq_comm]
  | nothing | flag _ | number _ | text _ => simp [joinChoice, hw]

end Key
end CaseKeys
