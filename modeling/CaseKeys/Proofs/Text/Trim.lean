import CaseKeys.Text.Trim
import Mathlib.Data.List.DropRight

/-! What trimming leaves and what it takes away. -/
namespace CaseKeys.Text
variable {unwanted : Char → Bool}

theorem head?_trim (unwanted : Char → Bool) (text : List Char) :
    ∀ c ∈ (trim unwanted text).head?, unwanted c = false := by
  intro c hc
  obtain ⟨after, ha⟩ := List.rdropWhile_prefix unwanted (text.dropWhile unwanted)
  have hd : (text.dropWhile unwanted).head? = some c := by
    rw [← ha, List.head?_append]
    exact Option.or_eq_some_iff.mpr (.inl hc)
  simpa [hd] using List.head?_dropWhile_not unwanted text

theorem getLast?_trim (unwanted : Char → Bool) (text : List Char) :
    ∀ c ∈ (trim unwanted text).getLast?, unwanted c = false := by
  intro c hc
  obtain ⟨hl, rfl⟩ := List.mem_getLast?_eq_getLast hc
  exact Bool.eq_false_iff.mpr (List.rdropWhile_last_not unwanted (text.dropWhile unwanted) hl)

/-- A text with nothing unwanted at its ends is left as it is. -/
theorem trim_eq_self {text : List Char} (hhead : ∀ c ∈ text.head?, unwanted c = false)
    (hlast : ∀ c ∈ text.getLast?, unwanted c = false) : trim unwanted text = text := by
  have hd : text.dropWhile unwanted = text := by
    cases text with
    | nil => rfl
    | cons c rest => exact List.dropWhile_cons_of_neg (Bool.eq_false_iff.mp (hhead c rfl))
  rw [trim, hd]
  exact List.rdropWhile_eq_self_iff.mpr fun hn =>
    Bool.eq_false_iff.mp (hlast _ (List.getLast_mem_getLast? hn))

@[simp] theorem trim_trim (unwanted : Char → Bool) (text : List Char) :
    trim unwanted (trim unwanted text) = trim unwanted text :=
  trim_eq_self (head?_trim unwanted text) (getLast?_trim unwanted text)

/-- Only unwanted characters are trimmed, and only at the ends. -/
theorem exists_eq_append_trim (unwanted : Char → Bool) (text : List Char) :
    ∃ before after, text = before ++ trim unwanted text ++ after ∧
      (∀ c ∈ before, unwanted c) ∧ ∀ c ∈ after, unwanted c := by
  refine ⟨text.takeWhile unwanted, (text.dropWhile unwanted).rtakeWhile unwanted, ?_,
    fun c hc => List.mem_takeWhile_imp hc, fun c hc => List.mem_rtakeWhile_imp hc⟩
  have h : trim unwanted text ++ (text.dropWhile unwanted).rtakeWhile unwanted =
      text.dropWhile unwanted := List.rdropWhile_append_rtakeWhile
  rw [List.append_assoc, h, List.takeWhile_append_dropWhile]

/-- Unwanted characters put around a text are trimmed with those that it has. -/
theorem trim_pad {before after : List Char} (hb : ∀ c ∈ before, unwanted c)
    (ha : ∀ c ∈ after, unwanted c) (text : List Char) :
    trim unwanted (before ++ text ++ after) = trim unwanted text := by
  rw [trim, List.append_assoc, List.dropWhile_append_of_pos hb, List.dropWhile_append]
  split
  · -- nothing of the text is left, and what stands behind it goes from the front too
    rename_i hn
    rw [trim, List.isEmpty_iff.mp hn, List.dropWhile_eq_nil_iff.mpr ha]
  · rw [trim, trimEnd, List.reverse_append,
      List.dropWhile_append_of_pos fun c hc => ha c (List.mem_reverse.mp hc), ← trimEnd]

section Ends
variable {u v : List Char} (hu : ∀ c ∈ u.getLast?, unwanted c = false)
  (hv : ∀ c ∈ v.head?, unwanted c = false)
include hu in
/-- A text whose last character stays is trimmed at its front only. -/
private theorem exists_eq_append_of_getLast? :
    ∃ before, (∀ c ∈ before, unwanted c) ∧ u = before ++ trim unwanted u := by
  obtain ⟨before, after, h, hb, ha⟩ := exists_eq_append_trim unwanted u
  rcases List.eq_nil_or_concat' after with rfl | ⟨after, c, rfl⟩
  · exact ⟨before, hb, by rwa [List.append_nil] at h⟩
  · have hc : unwanted c = false := hu c (by rw [h]; simp)
    exact absurd (ha c (by simp)) (Bool.eq_false_iff.mp hc)

include hv in
/-- A text whose first character stays is trimmed at its end only. -/
private theorem exists_eq_append_of_head? :
    ∃ after, (∀ c ∈ after, unwanted c) ∧ v = trim unwanted v ++ after := by
  obtain ⟨before, after, h, hb, ha⟩ := exists_eq_append_trim unwanted v
  cases before with
  | nil => exact ⟨after, ha, by rwa [List.nil_append] at h⟩
  | cons c before =>
    have hc : unwanted c = false := hv c (by rw [h]; rfl)
    exact absurd (hb c List.mem_cons_self) (Bool.eq_false_iff.mp hc)

include hu in
theorem mem_getLast?_of_mem_trim : ∀ c ∈ (trim unwanted u).getLast?, c ∈ u.getLast? := by
  obtain ⟨before, -, h⟩ := exists_eq_append_of_getLast? hu
  intro c hc
  rw [h, List.getLast?_append]
  exact Option.or_eq_some_iff.mpr (.inl hc)

include hv in
theorem mem_head?_of_mem_trim : ∀ c ∈ (trim unwanted v).head?, c ∈ v.head? := by
  obtain ⟨after, -, h⟩ := exists_eq_append_of_head? hv
  intro c hc
  rw [h, List.head?_append]
  exact Option.or_eq_some_iff.mpr (.inl hc)

include hu hv in
/-- Texts that meet in characters that stay are trimmed each for itself. -/
theorem trim_append : trim unwanted (u ++ v) = trim unwanted u ++ trim unwanted v := by
  obtain ⟨before, hb, hu'⟩ := exists_eq_append_of_getLast? hu
  obtain ⟨after, ha, hv'⟩ := exists_eq_append_of_head? hv
  have hsplit : u ++ v = before ++ (trim unwanted u ++ trim unwanted v) ++ after := by
    conv_lhs => rw [hu', hv']
    simp only [List.append_assoc]
  rw [hsplit, trim_pad hb ha]
  apply trim_eq_self
  · intro c hc
    rw [List.head?_append] at hc
    rcases Option.or_eq_some_iff.mp hc with hc | ⟨-, hc⟩
    · exact head?_trim unwanted u c hc
    · exact head?_trim unwanted v c hc
  · intro c hc
    rw [List.getLast?_append] at hc
    rcases Option.or_eq_some_iff.mp hc with hc | ⟨-, hc⟩
    · exact getLast?_trim unwanted v c hc
    · exact getLast?_trim unwanted u c hc

end Ends

private theorem rdropWhile_prefix_append (text behind : List Char) :
    text.rdropWhile unwanted <+: (text ++ behind).rdropWhile unwanted := by
  induction behind using List.reverseRecOn with
  | nil => simp
  | append_singleton behind c ih =>
    rw [← List.append_assoc, List.rdropWhile_concat]
    split
    · exact ih
    · have hkept : text.rdropWhile unwanted <+: text := List.rdropWhile_prefix unwanted text
      rw [List.append_assoc]
      exact hkept.trans (List.prefix_append _ _)

/-- What trimming leaves of a text, it leaves of every longer text. -/
theorem trim_prefix_append (unwanted : Char → Bool) (text behind : List Char) :
    trim unwanted text <+: trim unwanted (text ++ behind) := by
  by_cases hn : text.dropWhile unwanted = []
  · rw [trim, hn]
    exact List.nil_prefix
  · rw [trim, trim, List.dropWhile_append, if_neg (mt List.isEmpty_iff.mp hn)]
    exact rdropWhile_prefix_append _ behind

/-- A character that is not unwanted keeps its place at the front. -/
theorem head?_trim_cons {c : Char} (h : unwanted c = false) (rest : List Char) :
    (trim unwanted (c :: rest)).head? = some c := by
  have hhead : ∀ d ∈ (c :: rest).head?, unwanted d = false := fun d hd => Option.mem_some.mp hd ▸ h
  obtain ⟨after, ha, ht⟩ := exists_eq_append_of_head? hhead
  cases hl : trim unwanted (c :: rest) with
  | nil =>
    rw [hl, List.nil_append] at ht
    exact absurd (ha c (ht ▸ List.mem_cons_self)) (Bool.eq_false_iff.mp h)
  | cons d kept =>
    rw [hl] at ht
    obtain ⟨rfl, -⟩ := List.cons.inj ht
    rfl

/-- Trimming one character takes runs of it away, and leaves a text that neither begins nor ends
with it. -/
theorem trim_eq (c : Char) (text : List Char) :
    (∃ m n, text = List.replicate m c ++ trim (· = c) text ++ List.replicate n c) ∧
      (trim (· = c) text).head? ≠ some c ∧ (trim (· = c) text).getLast? ≠ some c := by
  obtain ⟨before, after, h, hb, ha⟩ := exists_eq_append_trim (· = c) text
  refine ⟨⟨before.length, after.length, ?_⟩, fun hc => ?_, fun hc => ?_⟩
  · rw [← List.eq_replicate_of_mem fun b hm => of_decide_eq_true (hb b hm),
      ← List.eq_replicate_of_mem fun b hm => of_decide_eq_true (ha b hm)]
    exact h
  · simpa using head?_trim (· = c) text c hc
  · simpa using getLast?_trim (· = c) text c hc

end CaseKeys.Text
