import CaseKeys.Text.Shift
import Mathlib.Data.List.Basic

/-! Where shifts move a character, and when one shift leaves alone what another has moved. -/
namespace CaseKeys.Text

theorem Shift.target?_eq_some_iff {s : Shift} {n m : Nat} :
    s.target? n = some m ↔
      (s.first ≤ n ∧ n ≤ s.last) ∧ (n - s.first) % s.step = 0 ∧ m = s.image + (n - s.first) := by
  rw [target?]
  split <;> rename_i h <;> simp only [Bool.and_eq_true, Nat.ble_eq, Nat.beq_eq] at h
  · simp [h, eq_comm]
  · simpa using fun hf hl hs => absurd ⟨⟨hf, hl⟩, hs⟩ h

/-- A shifted character is the character itself or the target of a shift. -/
theorem shift_eq_or (shifts : List Shift) (c : Char) :
    shift shifts c = c ∨
      ∃ s ∈ shifts, ∃ n, s.target? c.toNat = some n ∧ shift shifts c = Char.ofNat n := by
  rw [shift]
  cases h : shifts.findSome? (·.target? c.toNat) with
  | none => exact .inl rfl
  | some n =>
    obtain ⟨s, hs, ht⟩ := List.exists_of_findSome?_eq_some h
    exact .inr ⟨s, hs, n, ht, rfl⟩

theorem shift_eq_self {shifts : List Shift} {c : Char}
    (h : ∀ s ∈ shifts, s.target? c.toNat = none) : shift shifts c = c := by
  rw [shift, List.findSome?_eq_none_iff.mpr h]

theorem toNat_ofNat_eq_or (n : Nat) : (Char.ofNat n).toNat = n ∨ (Char.ofNat n).toNat = 0 := by
  by_cases h : n.isValidChar
  · rw [Char.ofNat, dif_pos h]
    exact .inl rfl
  · rw [Char.ofNat, dif_neg h]
    exact .inr rfl

/-- Whether no image under `s` is moved by `u`: the images lie beside its span, or between its
members where both have every second code point. -/
def Shift.clears (s u : Shift) : Bool :=
  (s.image + (s.last - s.first)).blt u.first || u.last.blt s.image ||
    ((s.step.beq 2 || s.first.beq s.last) && u.step.beq 2 && ((s.image + u.first) % 2).beq 1)

theorem Shift.target?_of_clears {s u : Shift} (h : s.clears u) {n m : Nat}
    (hm : s.target? n = some m) : u.target? m = none := by
  obtain ⟨⟨hf, hl⟩, hs, rfl⟩ := target?_eq_some_iff.mp hm
  refine Option.eq_none_iff_forall_ne_some.mpr fun k hk => ?_
  obtain ⟨⟨hf', hl'⟩, hs', -⟩ := target?_eq_some_iff.mp hk
  simp only [clears, Bool.or_eq_true, Bool.and_eq_true, Nat.blt_eq, Nat.beq_eq] at h
  rcases h with (h | h) | ⟨⟨h, hu⟩, hodd⟩
  · omega
  · omega
  · rw [hu] at hs'
    have heven : (n - s.first) % 2 = 0 := by
      rcases h with h | h
      · rwa [h] at hs
      · omega
    omega

end CaseKeys.Text
