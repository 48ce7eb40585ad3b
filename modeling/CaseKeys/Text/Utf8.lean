import CaseKeys.Text.Hex

/-! Reading UTF-8: every shortest encoding of a scalar value is accepted and nothing else. -/
namespace CaseKeys.Text.Utf8

/-- Why a sequence of bytes encodes no character. -/
inductive Reason where
  /-- No sequence begins with the first byte. -/
  | invalidStart
  /-- The next byte cannot follow the bytes before it. -/
  | invalidContinuation
  /-- The data ends inside the sequence. -/
  | unexpectedEnd
  deriving DecidableEq, Repr

def Reason.text : Reason → String
  | .invalidStart => "invalid start byte"
  | .invalidContinuation => "invalid continuation byte"
  | .unexpectedEnd => "unexpected end of data"

/-- The first sequence that encodes no character: its longest acceptable part, or the single byte
that begins nothing. -/
structure Fault where
  /-- The number of bytes in front of the sequence, counted as `Place` says. -/
  position : Nat
  first : UInt8
  /-- The number of further bytes in the faulty sequence. -/
  more : Nat
  reason : Reason
  deriving DecidableEq, Repr

def Fault.message (f : Fault) : String :=
  let place :=
    if f.more = 0 then
      "byte 0x" ++ String.ofList (hex 2 f.first.toNat) ++ " in position " ++ toString f.position
    else
      "bytes in position " ++ toString f.position ++ "-" ++ toString (f.position + f.more)
  "'utf-8' codec can't decode " ++ place ++ ": " ++ f.reason.text

/-- The number of bytes in a sequence that begins with `b`, if one does. -/
def sequenceLength? (b : UInt8) : Option Nat :=
  if b < 0x80 then some 1
  else if b < 0xC2 then none
  else if b < 0xE0 then some 2
  else if b < 0xF0 then some 3
  else if b < 0xF5 then some 4
  else none

def isContinuation (b : UInt8) : Bool :=
  0x80 ≤ b && b < 0xC0

/-- Whether `b` may come second after `first`. Longer forms of short encodings, surrogates and
values beyond the last plane are refused here. -/
def isSecond (first b : UInt8) : Bool :=
  if first = 0xE0 then 0xA0 ≤ b && b < 0xC0
  else if first = 0xED then 0x80 ≤ b && b < 0xA0
  else if first = 0xF0 then 0x90 ≤ b && b < 0xC0
  else if first = 0xF4 then 0x80 ≤ b && b < 0x90
  else isContinuation b

/-- Whether two bytes begin an encoded surrogate. They are refused, but where the data or a piece of
it ends with them they count as unfinished. -/
def isSurrogateStart (first second : UInt8) : Bool :=
  first = 0xED && isContinuation second

/-- The six bits that a continuation byte carries. -/
def payload (b : UInt8) : Nat :=
  b.toNat % 0x40

/-- The greatest number of bytes that are read at once. -/
def pieceSize : Nat := 8192

/-- A place in data that is read piece by piece. What a piece leaves unfinished is put in front of
the next one, and `position` counts from the start of that; `room` bytes of the piece are left. -/
structure Place where
  position : Nat
  room : Nat

namespace Place

def start : Place :=
  ⟨0, pieceSize⟩

/-- The place behind a sequence of `n` bytes. -/
def advance (p : Place) (n : Nat) : Place :=
  if n < p.room then ⟨p.position + n, p.room - n⟩
  else ⟨if n = p.room then 0 else n, pieceSize - (n - p.room)⟩

/-- Where a sequence is reported to stand of which `n` bytes have been seen. It has moved to the
front of a piece when they do not fit into the one in which it begins. -/
def reported (p : Place) (n : Nat) : Nat :=
  if n ≤ p.room then p.position else 0

end Place

/-- The characters that `bytes` encode, the first of them at the place `p`. -/
def decodeAt (p : Place) : List UInt8 → Except Fault (List Char)
  | [] => .ok []
  | b :: r =>
    match sequenceLength? b with
    | none => .error ⟨p.reported 1, b, 0, .invalidStart⟩
    | some 1 => (Char.ofNat b.toNat :: ·) <$> decodeAt (p.advance 1) r
    | some length =>
      match r with
      | [] => .error ⟨0, b, 0, .unexpectedEnd⟩
      | b₁ :: r₁ =>
        if !isSecond b b₁ then
          let unfinished := isSurrogateStart b b₁ && (r₁.isEmpty || p.room = 2)
          .error ⟨if unfinished then 0 else p.reported 2, b, 0, .invalidContinuation⟩
        else if length = 2 then
          (Char.ofNat (b.toNat % 0x20 * 0x40 + payload b₁) :: ·) <$> decodeAt (p.advance 2) r₁
        else
          match r₁ with
          | [] => .error ⟨0, b, 1, .unexpectedEnd⟩
          | b₂ :: r₂ =>
            if !isContinuation b₂ then .error ⟨p.reported 3, b, 1, .invalidContinuation⟩
            else if length = 3 then
              (Char.ofNat ((b.toNat % 0x10 * 0x40 + payload b₁) * 0x40 + payload b₂) :: ·) <$>
                decodeAt (p.advance 3) r₂
            else
              match r₂ with
              | [] => .error ⟨0, b, 2, .unexpectedEnd⟩
              | b₃ :: r₃ =>
                if !isContinuation b₃ then .error ⟨p.reported 4, b, 2, .invalidContinuation⟩
                else
                  (Char.ofNat (((b.toNat % 0x8 * 0x40 + payload b₁) * 0x40 + payload b₂) * 0x40 +
                    payload b₃) :: ·) <$> decodeAt (p.advance 4) r₃

def decode (bytes : List UInt8) : Except Fault (List Char) :=
  decodeAt .start bytes

end CaseKeys.Text.Utf8
