import CaseKeys.Proofs.Json.Reader

/-! Printed JSON is read back as the value that was printed. -/
namespace CaseKeys.Json

mutual

/-- The value of the printer as a value of the grammar. -/
def toValue : Json → Value
  | .text s => .text s
  | .array items => .array (toValues items)
  | .object members => .object (toMembers members)

def toValues : List Json → List Value
  | [] => []
  | item :: items => toValue item :: toValues items

def toMembers : List (String × Json) → List (String × Value)
  | [] => []
  | (name, value) :: members => (name, toValue value) :: toMembers members

end

@[simp] theorem toValue_text (s : String) : (text s).toValue = .text s := by
  rw [toValue]

@[simp] theorem toValue_array (items : List Json) :
    (array items).toValue = .array (items.map toValue) := by
  have h : toValues items = items.map toValue := by
    induction items with
    | nil => rfl
    | cons item items ih => rw [toValues, ih, List.map_cons]
  rw [toValue, h]

@[simp] theorem toValue_object (members : List (String × Json)) :
    (object members).toValue = .object (members.map fun m => (m.1, m.2.toValue)) := by
  have h : toMembers members = members.map fun m => (m.1, m.2.toValue) := by
    induction members with
    | nil => rfl
    | cons m members ih => rw [toMembers, ih, List.map_cons]
  rw [toValue, h]

private theorem hexValue?_hexDigit {n : Nat} (h : n < 16) :
    hexValue? (Text.hexDigit n) = some n := by
  have hd : ∀ n < 16, hexValue? (Text.hexDigit n) = some n := by decide
  exact hd n h

private theorem isUnit_hex {n : Nat} (h : n < 0x10000) : IsUnit (Text.hex 4 n) n := by
  have hu : IsUnit (Text.hex 4 n)
      (((n / 16 / 16 / 16 % 16 * 16 + n / 16 / 16 % 16) * 16 + n / 16 % 16) * 16 + n % 16) :=
    .digits (hexValue?_hexDigit (by omega)) (hexValue?_hexDigit (by omega))
      (hexValue?_hexDigit (by omega)) (hexValue?_hexDigit (by omega))
  have hn : ((n / 16 / 16 / 16 % 16 * 16 + n / 16 / 16 % 16) * 16 + n / 16 % 16) * 16 + n % 16 = n := by
    omega
  rwa [hn] at hu

private theorem isChar_escapeChar (c : Char) : IsChar (escapeChar c) c := by
  unfold escapeChar
  split_ifs with hq hn hr ht hb hf hu
  · rcases of_decide_eq_true (by simpa using hq : decide (c = '"' ∨ c = '\\')) with rfl | rfl
    · exact .escape rfl
    · exact .escape rfl
  · exact hn ▸ .escape rfl
  · exact hr ▸ .escape rfl
  · exact ht ▸ .escape rfl
  · exact hb ▸ .escape rfl
  · exact hf ▸ .escape rfl
  · have h : IsChar ('\\' :: 'u' :: Text.hex 4 c.toNat) (Char.ofNat c.toNat) :=
      .unit (isUnit_hex (by omega)) c.valid
    rwa [Char.ofNat_toNat] at h
  · simp only [Bool.or_eq_true, decide_eq_true_eq, not_or] at hq
    exact .plain (Nat.not_lt.mp hu) hq.1 hq.2

theorem isString_quote (s : String) : IsString (quote s) s := by
  have hchars : ∀ cs : List Char, IsChars (cs.flatMap escapeChar) cs := by
    intro cs
    induction cs with
    | nil => exact .nil
    | cons c cs ih => exact .cons (isChar_escapeChar c) ih
  have h := IsString.quoted (hchars s.toList)
  rwa [String.ofList_toList] at h

private theorem isSpace_newline (level : Nat) : IsSpace (newline level) := by
  intro c hc
  rcases List.mem_cons.mp hc with rfl | hc
  · rfl
  · obtain rfl := List.eq_of_mem_replicate hc
    rfl

private theorem isMember_render {written : List Char} {v : Value} (h : Denotes written v)
    (name : String) :
    IsMember Denotes (quote name ++ ':' :: ' ' :: written) (name, v) :=
  have before : IsSpace [] := by decide
  have after : IsSpace [' '] := by decide
  .named (isString_quote name) before after h

mutual

theorem denotes_render (level : Nat) : ∀ v : Json, Denotes (render level v) v.toValue
  | .text s => .text (isString_quote s)
  | .array [] =>
    have hspace : IsSpace [] := by decide
    .array (.none hspace)
  | .array (item :: items) => by
    have h := separated_renderItems (level + 1) items (denotes_render (level + 1) item)
      (isSpace_newline level)
    have ha := Denotes.array (.some (isSpace_newline (level + 1)) h)
    rw [render, toValue, toValues]
    simpa using ha
  | .object [] =>
    have hspace : IsSpace [] := by decide
    .object (.none hspace)
  | .object ((name, v) :: members) => by
    have h := separated_renderMembers (level + 1) members
      (isMember_render (denotes_render (level + 1) v) name) (isSpace_newline level)
    have ho := Denotes.object (.some (isSpace_newline (level + 1)) h)
    rw [render, toValue, toMembers]
    simpa using ho

/-- Items that are printed behind an item. -/
private theorem separated_renderItems (level : Nat) :
    ∀ (items : List Json) {item after : List Char} {v : Value},
    Denotes item v → IsSpace after →
      Separated Denotes (item ++ (renderItems level items ++ after)) (v :: toValues items)
  | [], _, _, _, hv, ha => .last hv ha
  | next :: items, _, _, _, hv, ha => by
    have h := separated_renderItems level items (denotes_render level next) ha
    have hspace : IsSpace [] := by decide
    have hs := Separated.cons hv hspace (isSpace_newline level) h
    rw [renderItems, toValues]
    simpa using hs

private theorem separated_renderMembers (level : Nat) : ∀ (members : List (String × Json))
    {item after : List Char} {m : String × Value}, IsMember Denotes item m → IsSpace after →
      Separated (IsMember Denotes) (item ++ (renderMembers level members ++ after)) (m :: toMembers members)
  | [], _, _, _, hv, ha => .last hv ha
  | (name, v) :: members, _, _, _, hm, ha => by
    have h := separated_renderMembers level members (isMember_render (denotes_render level v) name) ha
    have hspace : IsSpace [] := by decide
    have hs := Separated.cons hm hspace (isSpace_newline level) h
    rw [renderMembers, toMembers]
    simpa using hs

end

/-- A printed value is one JSON text, and denotes the value that was printed. -/
theorem isText_print (v : Json) : IsText v.print.toList v.toValue := by
  have hspace : IsSpace [] := by decide
  have h := IsText.whole hspace (denotes_render 0 v) hspace
  rw [print, String.toList_ofList]
  simpa using h

end CaseKeys.Json
