import CaseKeys.Text.Digit
import CaseKeys.Words

/-! The names that enum cases may have. -/
namespace CaseKeys.CaseName

def unescaped (name : String) : String :=
  String.ofList (Words.unescape name.toList)

/-- A valid name, once unescaped, is a nonempty run of letters, digits and underscores that does
not begin with a digit. -/
def isValid (name : String) : Bool :=
  match Words.unescape name.toList with
  | [] => false
  | c :: rest => !Text.isDigit c && (c :: rest).all Words.isWordChar

end CaseKeys.CaseName
