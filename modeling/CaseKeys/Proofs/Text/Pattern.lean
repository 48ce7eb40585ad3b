import Mathlib.Computability.RegularExpressions

/-! Patterns over classes of ASCII characters and the texts that they match. -/
namespace CaseKeys.Text

abbrev Pattern := RegularExpression Char

namespace Pattern

/-- One of some characters. -/
def oneOf (cs : List Char) : Pattern :=
  (cs.map RegularExpression.char).sum

/-- One ASCII character of a class. -/
def ascii (p : Char → Bool) : Pattern :=
  oneOf (((List.range 0x80).map Char.ofNat).filter p)

/-- One or more times the same pattern. -/
def many (P : Pattern) : Pattern :=
  P * P.star

def maybe (P : Pattern) : Pattern :=
  1 + P

/-- The characters that occur in a pattern. -/
def letters : Pattern → List Char
  | .zero | .epsilon => []
  | .char c => [c]
  | .plus P Q | .comp P Q => letters P ++ letters Q
  | .star P => letters P

variable {p : Char → Bool} {text : List Char}

/-- A matched text is made of the characters of the pattern. -/
theorem mem_letters {P : Pattern} (h : text ∈ P.matches') : ∀ c ∈ text, c ∈ P.letters := by
  induction P generalizing text with
  | zero => cases h
  | epsilon =>
    cases h
    simp
  | char a =>
    cases h
    simp [letters]
  | plus P Q ihP ihQ =>
    intro c hc
    rcases h with h | h
    · exact List.mem_append_left _ (ihP h c hc)
    · exact List.mem_append_right _ (ihQ h c hc)
  | comp P Q ihP ihQ =>
    obtain ⟨u, hu, v, hv, rfl⟩ := Language.mem_mul.mp h
    intro c hc
    rcases List.mem_append.mp hc with hc | hc
    · exact List.mem_append_left _ (ihP hu c hc)
    · exact List.mem_append_right _ (ihQ hv c hc)
  | star P ih =>
    obtain ⟨parts, rfl, hparts⟩ := Language.mem_kstar.mp h
    intro c hc
    obtain ⟨part, hm, hc⟩ := List.mem_flatten.mp hc
    exact ih (hparts part hm) c hc

private theorem mem_oneOf {cs : List Char} : text ∈ (oneOf cs).matches' ↔ ∃ c ∈ cs, text = [c] := by
  induction cs with
  | nil => simp [oneOf]
  | cons c cs ih =>
    have h : oneOf (c :: cs) = .char c + oneOf cs := rfl
    rw [h, RegularExpression.matches'_add, Language.mem_add, ih]
    exact (List.exists_mem_cons_iff (text = [·]) c cs).symm

theorem mem_ascii : text ∈ (ascii p).matches' ↔ ∃ c, (c.toNat < 0x80 ∧ p c) ∧ text = [c] := by
  rw [ascii, mem_oneOf]
  refine exists_congr fun c => and_congr_left fun _ => ?_
  rw [List.mem_filter, List.mem_map]
  refine and_congr_left fun _ => ⟨?_, fun hc => ⟨c.toNat, List.mem_range.mpr hc, Char.ofNat_toNat c⟩⟩
  rintro ⟨n, hn, rfl⟩
  have hlt := List.mem_range.mp hn
  have hv : n.isValidChar := .inl (by omega)
  rwa [Char.ofNat, dif_pos hv]

theorem mem_star_ascii :
    text ∈ (ascii p).star.matches' ↔ ∀ c ∈ text, c.toNat < 0x80 ∧ p c := by
  rw [RegularExpression.matches'_star, Language.mem_kstar]
  constructor
  · rintro ⟨parts, rfl, hparts⟩ c hc
    obtain ⟨part, hm, hc⟩ := List.mem_flatten.mp hc
    obtain ⟨d, hd, rfl⟩ := mem_ascii.mp (hparts part hm)
    rwa [List.mem_singleton.mp hc]
  · intro h
    refine ⟨text.map fun c => [c], (List.flatMap_singleton' text).symm, fun part hm => ?_⟩
    obtain ⟨c, hc, rfl⟩ := List.mem_map.mp hm
    exact mem_ascii.mpr ⟨c, h c hc, rfl⟩

theorem mem_many_ascii :
    text ∈ (many (ascii p)).matches' ↔ text ≠ [] ∧ ∀ c ∈ text, c.toNat < 0x80 ∧ p c := by
  rw [many, RegularExpression.matches'_mul, Language.mem_mul]
  constructor
  · rintro ⟨u, hu, v, hv, rfl⟩
    obtain ⟨c, hc, rfl⟩ := mem_ascii.mp hu
    exact ⟨List.cons_ne_nil c v, List.forall_mem_cons.mpr ⟨hc, mem_star_ascii.mp hv⟩⟩
  · rintro ⟨hn, h⟩
    obtain ⟨c, rest, rfl⟩ := List.exists_cons_of_ne_nil hn
    obtain ⟨hc, hrest⟩ := List.forall_mem_cons.mp h
    exact ⟨[c], mem_ascii.mpr ⟨c, hc, rfl⟩, rest, mem_star_ascii.mpr hrest, rfl⟩

end Pattern
end CaseKeys.Text
