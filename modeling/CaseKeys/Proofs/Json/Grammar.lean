import CaseKeys.Json
import CaseKeys.Proofs.Text.Pattern

/-! The grammar of JSON texts and the value that each of them denotes. One value has many texts:
white space may stand around every token and characters may be escaped without need. -/
namespace CaseKeys.Json
open Text Text.Pattern

/-- The values of JSON. A number is kept as it is written, and the members of an object keep their
order and their repetitions. -/
inductive Value where
  | null
  | boolean (b : Bool)
  | number (written : List Char)
  | text (s : String)
  | array (items : List Value)
  | object (members : List (String × Value))

def isSpace (c : Char) : Bool :=
  c = ' ' || c = '\t' || c = '\n' || c = '\r'

def IsSpace (text : List Char) : Prop :=
  ∀ c ∈ text, isSpace c

instance (text : List Char) : Decidable (IsSpace text) :=
  List.decidableBAll (fun c => isSpace c = true) text

/-- A sign, a whole part without leading zeros, a fraction and an exponent. All but the whole part
may be missing. -/
def numeral : Pattern :=
  maybe (.char '-') *
    (.char '0' + ascii (fun c => c.isDigit && c ≠ '0') * (ascii Char.isDigit).star) *
    maybe (.char '.' * many (ascii Char.isDigit)) *
    maybe (oneOf ['e', 'E'] * maybe (oneOf ['+', '-']) * many (ascii Char.isDigit))

def hexValue? (c : Char) : Option Nat :=
  if '0' ≤ c ∧ c ≤ '9' then some (c.toNat - 0x30)
  else if 'a' ≤ c ∧ c ≤ 'f' then some (c.toNat - 0x57)
  else if 'A' ≤ c ∧ c ≤ 'F' then some (c.toNat - 0x37)
  else none

/-- The character that is written as a backslash and another character. -/
def escaped? : Char → Option Char
  | '"' => some '"'
  | '\\' => some '\\'
  | '/' => some '/'
  | 'b' => some '\x08'
  | 'f' => some '\x0c'
  | 'n' => some '\n'
  | 'r' => some '\r'
  | 't' => some '\t'
  | _ => none

/-- Four hexadecimal digits and their number. -/
inductive IsUnit : List Char → Nat → Prop where
  | digits {a b c d : Char} {i j k l : Nat} : hexValue? a = some i → hexValue? b = some j →
    hexValue? c = some k → hexValue? d = some l →
    IsUnit [a, b, c, d] (((i * 16 + j) * 16 + k) * 16 + l)

/-- The character beyond the first plane that two surrogates stand for. -/
def pairChar (high low : Nat) : Char :=
  Char.ofNat (0x10000 + (high - 0xD800) * 0x400 + (low - 0xDC00))

/-- The ways to write one character of a string. A character beyond the first plane is escaped as a
pair of surrogates; a surrogate alone is no character. -/
inductive IsChar : List Char → Char → Prop where
  | plain {c : Char} : 0x20 ≤ c.toNat → c ≠ '"' → c ≠ '\\' → IsChar [c] c
  | escape {c d : Char} : escaped? c = some d → IsChar ['\\', c] d
  | unit {digits : List Char} {n : Nat} : IsUnit digits n → n.isValidChar →
    IsChar ('\\' :: 'u' :: digits) (Char.ofNat n)
  | pair {digits more : List Char} {high low : Nat} : IsUnit digits high → IsUnit more low →
    0xD800 ≤ high → high < 0xDC00 → 0xDC00 ≤ low → low < 0xE000 →
    IsChar ('\\' :: 'u' :: (digits ++ '\\' :: 'u' :: more)) (pairChar high low)

/-- No character is written with a quote at its front. -/
theorem IsChar.exists_cons {front : List Char} {c : Char} (h : IsChar front c) :
    ∃ d tail, front = d :: tail ∧ d ≠ '"' := by
  cases h with
  | plain _ hq _ => exact ⟨_, _, rfl, hq⟩
  | escape | unit | pair => exact ⟨_, _, rfl, by decide⟩

inductive IsChars : List Char → List Char → Prop where
  | nil : IsChars [] []
  | cons {front rest cs : List Char} {c : Char} : IsChar front c → IsChars rest cs →
    IsChars (front ++ rest) (c :: cs)

inductive IsString : List Char → String → Prop where
  | quoted {body cs : List Char} : IsChars body cs →
    IsString ('"' :: (body ++ ['"'])) (String.ofList cs)

section
variable {α : Type} (Item : List Char → α → Prop)

/-- Items with commas between them, at least one. -/
inductive Separated : List Char → List α → Prop where
  | last {item after : List Char} {v : α} : Item item v → IsSpace after →
    Separated (item ++ after) [v]
  | cons {item after before others : List Char} {v : α} {vs : List α} : Item item v →
    IsSpace after → IsSpace before → Separated others vs →
    Separated (item ++ (after ++ ',' :: (before ++ others))) (v :: vs)

/-- What stands between brackets. -/
inductive Listed : List Char → List α → Prop where
  | none {space : List Char} : IsSpace space → Listed space []
  | some {before items : List Char} {vs : List α} : IsSpace before → Separated Item items vs →
    Listed (before ++ items) vs

inductive IsMember : List Char → String × α → Prop where
  | named {name before after item : List Char} {s : String} {v : α} : IsString name s →
    IsSpace before → IsSpace after → Item item v →
    IsMember (name ++ (before ++ ':' :: (after ++ item))) (s, v)

end

/-- A text without white space around it and its value. -/
inductive Denotes : List Char → Value → Prop where
  | null : Denotes ['n', 'u', 'l', 'l'] .null
  | yes : Denotes ['t', 'r', 'u', 'e'] (.boolean true)
  | no : Denotes ['f', 'a', 'l', 's', 'e'] (.boolean false)
  | number {written : List Char} : written ∈ numeral.matches' → Denotes written (.number written)
  | text {written : List Char} {s : String} : IsString written s → Denotes written (.text s)
  | array {body : List Char} {items : List Value} : Listed Denotes body items →
    Denotes ('[' :: (body ++ [']'])) (.array items)
  | object {body : List Char} {members : List (String × Value)} :
    Listed (IsMember Denotes) body members →
    Denotes ('\x7b' :: (body ++ ['\x7d'])) (.object members)

/-- What no value begins with: white space and what closes a bracket. -/
def Starts (text : List Char) : Prop :=
  ∃ c rest, text = c :: rest ∧ isSpace c = false ∧ c ≠ ']' ∧ c ≠ '\x7d'

theorem Starts.append {text : List Char} (h : Starts text) (rest : List Char) :
    Starts (text ++ rest) := by
  obtain ⟨c, tail, rfl, hc⟩ := h
  exact ⟨c, tail ++ rest, rfl, hc⟩

theorem IsString.starts {written : List Char} {s : String} (h : IsString written s) :
    Starts written := by
  cases h
  exact ⟨_, _, rfl, by decide⟩

theorem IsMember.starts {α : Type} {Item : List Char → α → Prop} {written : List Char}
    {m : String × α} (h : IsMember Item written m) : Starts written := by
  cases h with
  | named hs => exact hs.starts.append _

theorem Separated.starts {α : Type} {Item : List Char → α → Prop}
    (hitem : ∀ {written v}, Item written v → Starts written) {text : List Char} {vs : List α}
    (h : Separated Item text vs) : Starts text := by
  cases h with
  | last hv => exact (hitem hv).append _
  | cons hv => exact (hitem hv).append _

/-- The characters of names and numbers. -/
def isScalar (c : Char) : Bool :=
  c.isAlphanum || c = '+' || c = '-' || c = '.'

theorem isScalar_of_isSpace {c : Char} (h : isSpace c) : isScalar c = false := by
  simp only [isSpace, Bool.or_eq_true, decide_eq_true_eq] at h
  rcases h with ((rfl | rfl) | rfl) | rfl <;> decide

theorem isScalar_of_mem_numeral {written : List Char} (h : written ∈ numeral.matches') :
    ∀ c ∈ written, isScalar c := by
  have hl : numeral.letters.all isScalar := by decide
  exact fun c hc => List.all_eq_true.mp hl c (mem_letters h c hc)

theorem ne_nil_of_mem_numeral {written : List Char} (h : written ∈ numeral.matches') :
    written ≠ [] := by
  rintro rfl
  have hr := (RegularExpression.rmatch_iff_matches' numeral []).mpr h
  exact absurd hr (by decide)

theorem Denotes.starts {written : List Char} {v : Value} (h : Denotes written v) :
    Starts written := by
  cases h with
  | number hw =>
    obtain ⟨c, rest, rfl⟩ := List.exists_cons_of_ne_nil (ne_nil_of_mem_numeral hw)
    have hc := isScalar_of_mem_numeral hw c List.mem_cons_self
    refine ⟨c, rest, rfl, Bool.eq_false_iff.mpr fun hs => ?_, ?_, ?_⟩
    · rw [isScalar_of_isSpace hs] at hc
      cases hc
    · rintro rfl
      cases hc
    · rintro rfl
      cases hc
  | text hs => exact hs.starts
  | null | yes | no | array | object => exact ⟨_, _, rfl, by decide⟩

/-- A whole text and its value. -/
inductive IsText : List Char → Value → Prop where
  | whole {before written after : List Char} {v : Value} : IsSpace before → Denotes written v →
    IsSpace after → IsText (before ++ (written ++ after)) v

end CaseKeys.Json
