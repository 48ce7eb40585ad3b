/-! One-to-one maps of characters given by shifts of evenly spaced code points. -/
namespace CaseKeys.Text

/-- Every `step`-th code point from `first` to `last` moves by the distance from `first` to
`image`. -/
structure Shift where
  first : Nat
  last : Nat
  step : Nat
  image : Nat
  deriving DecidableEq, Repr

def Shift.target? (s : Shift) (n : Nat) : Option Nat :=
  if s.first.ble n && n.ble s.last && ((n - s.first) % s.step).beq 0 then
    some (s.image + (n - s.first))
  else none

/-- Moves a character by the first shift that moves it; every other character stays. -/
def shift (shifts : List Shift) (c : Char) : Char :=
  match shifts.findSome? (·.target? c.toNat) with
  | some n => Char.ofNat n
  | none => c

end CaseKeys.Text
