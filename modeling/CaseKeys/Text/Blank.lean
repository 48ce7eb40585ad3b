import CaseKeys.Text.Span
import CaseKeys.Text.Trim

/-! White space, and texts without it at their ends. -/
namespace CaseKeys.Text

/-- The white space characters: controls that move the position, separators of information and
the space separators. Zero-width characters are none. -/
def blankSpans : List Span :=
  [⟨0x9, 0xD⟩, ⟨0x1C, 0x20⟩, ⟨0x85, 0x85⟩, ⟨0xA0, 0xA0⟩, ⟨0x1680, 0x1680⟩, ⟨0x2000, 0x200A⟩,
   ⟨0x2028, 0x2029⟩, ⟨0x202F, 0x202F⟩, ⟨0x205F, 0x205F⟩, ⟨0x3000, 0x3000⟩]

def isBlank (c : Char) : Bool :=
  covers blankSpans c

def trimBlank (text : List Char) : List Char :=
  trim isBlank text

end CaseKeys.Text
