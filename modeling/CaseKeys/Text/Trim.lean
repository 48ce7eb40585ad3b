/-! Removing unwanted characters from the ends of a text. -/
namespace CaseKeys.Text

/-- Drops the longest run of unwanted characters at the end. -/
def trimEnd (unwanted : Char → Bool) (text : List Char) : List Char :=
  (text.reverse.dropWhile unwanted).reverse

/-- Drops the longest runs of unwanted characters at both ends, and nothing between them. -/
def trim (unwanted : Char → Bool) (text : List Char) : List Char :=
  trimEnd unwanted (text.dropWhile unwanted)

end CaseKeys.Text
