import CaseKeys.Proofs.Text.Casing

/-! Lower case is final: the characters of a text in lower case stay as they are when it is put
into lower case again. -/
namespace CaseKeys.Text

private theorem lowerShifts_clear : (lowerShifts.all fun s => lowerShifts.all s.clears) = true := by
  decide +kernel

private theorem lowerShifts_bounds : ∀ s ∈ lowerShifts,
    0x80 ≤ s.first ∧ (s.image + (s.last - s.first) < 0x130 ∨ 0x130 < s.image) := by
  decide +kernel

private theorem shift_of_lt {c : Char} (hc : c.toNat < 0x80) : shift lowerShifts c = c :=
  shift_eq_self fun s hs => Option.eq_none_iff_forall_ne_some.mpr fun _ hm => by
    have hb := (lowerShifts_bounds s hs).1
    have ht := (Shift.target?_eq_some_iff.mp hm).1
    omega

/-- A moved character lies beyond all shifts, and is not the dotted capital. -/
private theorem shift_cases (c : Char) :
    shift lowerShifts c = c ∨
      shift lowerShifts (shift lowerShifts c) = shift lowerShifts c ∧
        shift lowerShifts c ≠ '\u0130' := by
  refine (shift_eq_or lowerShifts c).imp_right ?_
  rintro ⟨s, hs, n, hn, hc⟩
  rw [hc]
  rcases toNat_ofNat_eq_or n with h | h
  · refine ⟨shift_eq_self fun u hu => ?_, fun hI => ?_⟩
    · rw [h]
      exact Shift.target?_of_clears
        (List.all_eq_true.mp (List.all_eq_true.mp lowerShifts_clear s hs) u hu) hn
    · have hb := (lowerShifts_bounds s hs).2
      obtain ⟨hspan, -, hk⟩ := Shift.target?_eq_some_iff.mp hn
      have hI' : (Char.ofNat n).toNat = 0x130 := congrArg Char.toNat hI
      omega
  · refine ⟨shift_of_lt (by omega), fun hI => ?_⟩
    rw [hI] at h
    exact absurd h (by decide)

/-- A character that lower case leaves as it is: one in lower case already, or one without case. -/
def IsLowered (c : Char) : Prop :=
  lowerChar c = [c]

instance (c : Char) : Decidable (IsLowered c) :=
  inferInstanceAs (Decidable (lowerChar c = [c]))

theorem isLowered_iff_of_lt {c : Char} (hc : c.toNat < 0x80) :
    IsLowered c ↔ Words.isCapital c = false :=
  forall_ascii (P := fun c => IsLowered c ↔ Words.isCapital c = false) (by decide) c hc

theorem toNat_lt_of_isCapital {c : Char} (h : Words.isCapital c) : c.toNat < 0x80 :=
  Nat.lt_of_le_of_lt
    (UInt32.le_iff_toNat_le.mp (of_decide_eq_true (Bool.and_eq_true_iff.mp h).2)) (by decide)

theorem isCapital_eq_false_of_isLowered {c : Char} (h : IsLowered c) : Words.isCapital c = false :=
  Bool.eq_false_iff.mpr fun hc =>
    absurd hc (Bool.eq_false_iff.mp ((isLowered_iff_of_lt (toNat_lt_of_isCapital hc)).mp h))

private theorem isLowered_of_mem_lowerChar {c d : Char} (h : d ∈ lowerChar c) : IsLowered d := by
  by_cases hc : c.toNat < 0x80
  · rw [lowerChar, if_pos hc, List.mem_singleton] at h
    rw [h]
    exact forall_ascii (P := fun c => IsLowered c.toLower) (by decide) c hc
  · have hwide := mem_lowerChar_wide (Nat.not_lt.mp hc) h
    by_cases hd : d.toNat < 0x80
    · exact (isLowered_iff_of_lt hd).mpr <| forall_ascii
        (P := fun d => d.toNat = 0 ∨ 0x60 < d.toNat → Words.isCapital d = false) (by decide) d hd hwide
    · rw [lowerChar, if_neg hc] at h
      split at h
      · rcases List.mem_cons.mp h with rfl | h
        · decide
        · obtain rfl := List.mem_singleton.mp h
          decide
      · rename_i hI
        obtain rfl := List.mem_singleton.mp h
        rw [IsLowered, lowerChar, if_neg hd]
        rcases shift_cases c with hs | ⟨hs, hne⟩
        · rw [hs, if_neg hI, hs]
        · rw [if_neg hne, hs]

theorem isLowered_of_mem_lowerAfter {cased : Bool} {t : List Char} {d : Char}
    (h : d ∈ lowerAfter cased t) : IsLowered d := by
  obtain ⟨c, -, ⟨-, hs | hs⟩ | hd⟩ := mem_lowerAfter h
  · rw [hs]
    decide
  · rw [hs]
    decide
  · exact isLowered_of_mem_lowerChar hd

theorem isLowered_of_mem_lower {t : List Char} {d : Char} (h : d ∈ lower t) : IsLowered d :=
  isLowered_of_mem_lowerAfter h

theorem lowerAfter_eq_self {t : List Char} (h : ∀ c ∈ t, IsLowered c) (cased : Bool) :
    lowerAfter cased t = t := by
  induction t generalizing cased with
  | nil => rfl
  | cons c rest ih =>
    obtain ⟨hc, hrest⟩ := List.forall_mem_cons.mp h
    have hs : c ≠ '\u03A3' := by
      rintro rfl
      exact absurd hc (by decide)
    rw [lowerAfter, if_neg hs, hc, ih hrest]
    rfl

/-- A text is in lower case when each of its characters is, wherever they stand. -/
theorem lower_eq_self_iff {t : List Char} : lower t = t ↔ ∀ c ∈ t, IsLowered c :=
  ⟨fun h _ hc => isLowered_of_mem_lower (h.symm ▸ hc), fun h => lowerAfter_eq_self h false⟩

@[simp] theorem lower_lower (t : List Char) : lower (lower t) = lower t :=
  lower_eq_self_iff.mpr fun _ => isLowered_of_mem_lower

end CaseKeys.Text
