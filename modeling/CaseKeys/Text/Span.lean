/-! Sets of characters given by spans of code points. -/
namespace CaseKeys.Text

/-- The code points from `first` to `last`, both included. -/
structure Span where
  first : Nat
  last : Nat
  deriving DecidableEq, Repr

def Span.holds (s : Span) (n : Nat) : Bool :=
  s.first.ble n && n.ble s.last

def covers (spans : List Span) (c : Char) : Bool :=
  spans.any (·.holds c.toNat)

end CaseKeys.Text
