import CaseKeys.Proofs.Text.Shift
import CaseKeys.Text.Lower
import CaseKeys.Text.Upper
import CaseKeys.Words

/-! What casing keeps of a text: no character is lost, no underscore appears, and on ASCII the two
casings undo each other. -/
namespace CaseKeys.Text

theorem map_eq_self {α : Type} {f : α → α} {l : List α} (h : ∀ a ∈ l, f a = a) : l.map f = l :=
  (List.map_congr_left h).trans l.map_id

theorem forall_ascii {P : Char → Prop} (h : ∀ n < 0x80, P (Char.ofNat n)) (c : Char)
    (hc : c.toNat < 0x80) : P c := by
  have hn := h c.toNat hc
  rwa [Char.ofNat_toNat] at hn

/-- An ASCII character that is no capital. -/
def IsPlain (c : Char) : Prop :=
  c.toNat < 0x80 ∧ Words.isCapital c = false

private theorem lowerShifts_images : ∀ s ∈ lowerShifts, 0x60 < s.image := by decide +kernel

/-- The lower-case form of a character above ASCII stays clear of the ASCII capitals and the
underscore. -/
theorem mem_lowerChar_wide {c d : Char} (hc : 0x80 ≤ c.toNat) (hd : d ∈ lowerChar c) :
    d.toNat = 0 ∨ 0x60 < d.toNat := by
  rw [lowerChar, if_neg (Nat.not_lt.mpr hc)] at hd
  split at hd
  · -- the dotted capital, the one character with two characters for its lower-case form
    rcases List.mem_cons.mp hd with rfl | hd
    · decide
    · obtain rfl := List.mem_singleton.mp hd
      decide
  · obtain rfl := List.mem_singleton.mp hd
    rcases shift_eq_or lowerShifts c with h | ⟨s, hs, n, hn, h⟩
    · rw [h]
      omega
    · have hi := lowerShifts_images s hs
      obtain ⟨-, -, rfl⟩ := Shift.target?_eq_some_iff.mp hn
      rw [h]
      rcases toNat_ofNat_eq_or (s.image + (c.toNat - s.first)) with hn | hn <;> omega

/-- Every character of a lower-case text comes from one of the text: a sigma from a capital sigma,
everything else by the map of single characters. -/
theorem mem_lowerAfter {cased : Bool} {t : List Char} {d : Char} (h : d ∈ lowerAfter cased t) :
    ∃ c ∈ t, c = '\u03A3' ∧ (d = '\u03C2' ∨ d = '\u03C3') ∨ d ∈ lowerChar c := by
  induction t generalizing cased with
  | nil => cases h
  | cons c rest ih =>
    rw [lowerAfter] at h
    rcases List.mem_append.mp h with hd | hd
    · refine ⟨c, List.mem_cons_self, ?_⟩
      split at hd
      · have hs := List.mem_singleton.mp hd
        split at hs
        · exact .inl ⟨‹_›, .inl hs⟩
        · exact .inl ⟨‹_›, .inr hs⟩
      · exact .inr hd
    · obtain ⟨b, hb, hm⟩ := ih hd
      exact ⟨b, List.mem_cons_of_mem c hb, hm⟩

theorem toLower_eq_underscore_iff {c : Char} (hc : c.toNat < 0x80) : c.toLower = '_' ↔ c = '_' :=
  forall_ascii (P := fun c => c.toLower = '_' ↔ c = '_') (by decide) c hc

/-- Below the small letters a character is in lower case only where it was before. -/
theorem mem_of_mem_lower {t : List Char} {d : Char} (hn : d.toNat ≠ 0) (hd : d.toNat ≤ 0x60)
    (h : d ∈ lower t) : d ∈ t := by
  obtain ⟨c, hc, ⟨-, hs | hs⟩ | hm⟩ := mem_lowerAfter h
  · rw [hs] at hd
    exact absurd hd (by decide)
  · rw [hs] at hd
    exact absurd hd (by decide)
  · by_cases ha : c.toNat < 0x80
    · have hself : c.toLower.toNat ≤ 0x60 → c.toLower = c :=
        forall_ascii (P := fun c => c.toLower.toNat ≤ 0x60 → c.toLower = c) (by decide) c ha
      rw [lowerChar, if_pos ha, List.mem_singleton] at hm
      rwa [hm, hself (hm ▸ hd)]
    · have hwide := mem_lowerChar_wide (Nat.not_lt.mp ha) hm
      omega

theorem lower_ne_nil {t : List Char} (h : t ≠ []) : lower t ≠ [] := by
  obtain ⟨c, rest, rfl⟩ := List.exists_cons_of_ne_nil h
  rw [lower, lowerAfter]
  apply List.append_ne_nil_of_left_ne_nil
  split
  · exact List.cons_ne_nil _ _
  · rw [lowerChar]
    split
    · exact List.cons_ne_nil _ _
    · split <;> exact List.cons_ne_nil _ _

private theorem upperExpansions_forms : ∀ e ∈ upperExpansions, e.2 ≠ [] := by decide +kernel

theorem upperChar_ne_nil (c : Char) : upperChar c ≠ [] := by
  rw [upperChar]
  split
  · exact List.cons_ne_nil _ _
  · split
    · rename_i form h
      obtain ⟨l₁, l₂, he, -⟩ := List.lookup_eq_some_iff.mp h
      exact upperExpansions_forms (c, form) (by rw [he]; simp)
    · exact List.cons_ne_nil _ _

private theorem upperExpansions_wide : (upperExpansions.all fun e =>
    e.2.all fun d => Nat.ble 0x80 d.toNat || Words.isCapital d) = true := by
  decide +kernel

private theorem upperShifts_wide : ∀ s ∈ upperShifts,
    0x80 ≤ s.image ∨ s.first = s.last ∧ Words.isCapital (Char.ofNat s.image) := by
  decide +kernel

/-- The upper-case form of a character above ASCII has no ASCII characters but capitals. -/
private theorem mem_upperChar_wide {c d : Char} (hc : 0x80 ≤ c.toNat) (hd : d ∈ upperChar c) :
    d.toNat = 0 ∨ 0x80 ≤ d.toNat ∨ Words.isCapital d := by
  rw [upperChar, if_neg (Nat.not_lt.mpr hc)] at hd
  split at hd
  · rename_i form h
    obtain ⟨l₁, l₂, he, -⟩ := List.lookup_eq_some_iff.mp h
    have hform := List.all_eq_true.mp upperExpansions_wide (c, form) (by rw [he]; simp)
    have hwide := List.all_eq_true.mp hform d hd
    rw [Bool.or_eq_true, Nat.ble_eq] at hwide
    exact .inr hwide
  · obtain rfl := List.mem_singleton.mp hd
    rcases shift_eq_or upperShifts c with h | ⟨s, hs, n, hn, h⟩
    · rw [h]
      exact .inr (.inl hc)
    · rw [h]
      obtain ⟨⟨hf, hl⟩, -, rfl⟩ := Shift.target?_eq_some_iff.mp hn
      rcases upperShifts_wide s hs with hi | ⟨hone, hcap⟩
      · rcases toNat_ofNat_eq_or (s.image + (c.toNat - s.first)) with hn | hn <;> omega
      · have hk : s.image + (c.toNat - s.first) = s.image := by omega
        rw [hk]
        exact .inr (.inr hcap)

/-- An ASCII character that is no capital comes into upper case from itself only. -/
theorem eq_of_mem_upperChar {c d : Char} (hd : d ∈ upperChar c) (hp : IsPlain d) (hn : d.toNat ≠ 0) :
    d = c := by
  by_cases hc : c.toNat < 0x80
  · rw [upperChar, if_pos hc, List.mem_singleton] at hd
    have hup : Words.isCapital c.toUpper = false → c.toUpper = c := forall_ascii
      (P := fun c => Words.isCapital c.toUpper = false → c.toUpper = c) (by decide) c hc
    rw [hd]
    exact hup (hd ▸ hp.2)
  · rcases mem_upperChar_wide (Nat.not_lt.mp hc) hd with h | h | h
    · exact absurd h hn
    · exact absurd hp.1 (Nat.not_lt.mpr h)
    · exact absurd h (Bool.eq_false_iff.mp hp.2)

/-- The character, the final form of a sigma being taken for the other one. -/
def mergeSigma (c : Char) : Char :=
  if c = '\u03C2' then '\u03C3' else c

/-- But for the form of a sigma, lower case does not depend on the context of a character. -/
theorem map_mergeSigma_lower (t : List Char) :
    (lower t).map mergeSigma = (t.flatMap lowerChar).map mergeSigma := by
  have h : ∀ cased, (lowerAfter cased t).map mergeSigma =
      (t.flatMap lowerChar).map mergeSigma := by
    induction t with
    | nil => exact fun _ => rfl
    | cons c rest ih =>
      intro cased
      rw [lowerAfter, List.map_append, ih, List.flatMap_cons, List.map_append]
      congr 1
      split
      · rename_i hc
        rw [hc]
        split <;> decide
      · rfl
  exact h false

@[simp] private theorem upperChar_mergeSigma (c : Char) : upperChar (mergeSigma c) = upperChar c := by
  by_cases h : c = '\u03C2'
  · rw [h]
    decide
  · rw [mergeSigma, if_neg h]

theorem upper_map_mergeSigma (t : List Char) : upper (t.map mergeSigma) = upper t := by
  simp only [upper, List.flatMap_map, upperChar_mergeSigma]

theorem upper_ne_nil {t : List Char} (h : t ≠ []) : upper t ≠ [] := by
  obtain ⟨c, rest, rfl⟩ := List.exists_cons_of_ne_nil h
  rw [upper, List.flatMap_cons]
  exact List.append_ne_nil_of_left_ne_nil (upperChar_ne_nil c) _

theorem isPlain_of_mem_lower {t : List Char} (ht : ∀ c ∈ t, c.toNat < 0x80) {d : Char}
    (hd : d ∈ lower t) : IsPlain d := by
  obtain ⟨c, hc, ⟨hs, -⟩ | hm⟩ := mem_lowerAfter hd
  · have ha := ht c hc
    rw [hs] at ha
    exact absurd ha (by decide)
  · rw [lowerChar, if_pos (ht c hc), List.mem_singleton] at hm
    rw [hm]
    exact forall_ascii (P := fun c => c.toLower.toNat < 0x80 ∧ Words.isCapital c.toLower = false)
      (by decide) c (ht c hc)

theorem lower_ascii {t : List Char} (ht : ∀ c ∈ t, c.toNat < 0x80) : lower t = t.map Char.toLower := by
  have h : ∀ cased, lowerAfter cased t = t.map Char.toLower := by
    induction t with
    | nil => exact fun _ => rfl
    | cons c rest ih =>
      intro cased
      have hc := ht c List.mem_cons_self
      have hs : c ≠ '\u03A3' := by
        rintro rfl
        exact absurd hc (by decide)
      rw [lowerAfter, if_neg hs, lowerChar, if_pos hc, ih fun d hd => ht d (List.mem_cons_of_mem c hd)]
      rfl
  exact h false

theorem upperChar_ascii {c : Char} (hc : c.toNat < 0x80) : upperChar c = [c.toUpper] :=
  if_pos hc

theorem upper_ascii {t : List Char} (ht : ∀ c ∈ t, c.toNat < 0x80) : upper t = t.map Char.toUpper := by
  induction t with
  | nil => rfl
  | cons c rest ih =>
    rw [upper, List.flatMap_cons, upperChar_ascii (ht c List.mem_cons_self), ← upper,
      ih fun d hd => ht d (List.mem_cons_of_mem c hd)]
    rfl

theorem toNat_toUpper_lt {c : Char} (hc : c.toNat < 0x80) : c.toUpper.toNat < 0x80 :=
  forall_ascii (P := fun c => c.toUpper.toNat < 0x80) (by decide) c hc

theorem toLower_of_isPlain {c : Char} (hc : IsPlain c) : c.toLower = c :=
  forall_ascii (P := fun c => Words.isCapital c = false → c.toLower = c) (by decide) c hc.1 hc.2

theorem toLower_toUpper {c : Char} (hc : IsPlain c) : c.toUpper.toLower = c :=
  forall_ascii (P := fun c => Words.isCapital c = false → c.toUpper.toLower = c) (by decide) c hc.1 hc.2

end CaseKeys.Text
