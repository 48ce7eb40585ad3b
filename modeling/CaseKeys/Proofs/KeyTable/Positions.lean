import CaseKeys.Proofs.KeyTable.Detection
import Mathlib.Data.List.FinRange

/-! The pairwise reading of conflicts: every position against the positions before it, without a
table. -/
namespace CaseKeys.KeyTable

section
variable (names : List String) (f : KeyFormat)

/-- The key at a position of a list of names. -/
def keyAt (i : Fin names.length) : String :=
  Key.ofName names[i] f

/-- The least position before `j` that has the key of `j`. -/
def earliest? (j : Fin names.length) : Option (Fin names.length) :=
  Fin.find? fun i => i < j ∧ keyAt names f i = keyAt names f j

/-- In the order of the positions, one conflict for each that shares its key with an earlier one.
It names the earliest. -/
def pairwiseConflicts : List Conflict :=
  (List.finRange names.length).filterMap fun j =>
    (earliest? names f j).map fun i => ⟨keyAt names f j, names[i], names[j]⟩

/-- Two different positions of the names have one key. -/
def SharesKey : Prop :=
  ∃ i j, i ≠ j ∧ keyAt names f i = keyAt names f j

end

variable {names : List String} {f : KeyFormat}

theorem earliest?_eq_some_iff {i j : Fin names.length} :
    earliest? names f j = some i ↔
      i < j ∧ keyAt names f i = keyAt names f j ∧ ∀ k < i, keyAt names f k ≠ keyAt names f j := by
  simp only [earliest?, Fin.find?_eq_some_iff, decide_eq_true_eq, decide_eq_false_iff_not, not_and,
    and_assoc]
  refine and_congr_right fun hij => and_congr_right fun _ => forall₂_congr fun k hk => ?_
  exact ⟨fun h => h (hk.trans hij), fun h _ => h⟩

private theorem earliest?_eq_none_iff {j : Fin names.length} :
    earliest? names f j = none ↔ ∀ i < j, keyAt names f i ≠ keyAt names f j := by
  simp only [earliest?, Fin.find?_eq_none_iff, decide_eq_false_iff_not, not_and, ne_eq]

/-- Looking for the first earlier name with the key is looking for its position. -/
private theorem find?_take_eq (j : Fin names.length) :
    (names.take j).find? (fun earlier => Key.ofName earlier f = keyAt names f j) =
      (earliest? names f j).map fun i => names[i] := by
  cases h : earliest? names f j with
  | none =>
    rw [earliest?_eq_none_iff] at h
    apply List.find?_eq_none.mpr
    intro name hn hk
    obtain ⟨i, hi, rfl⟩ := List.mem_take_iff_getElem.mp hn
    have hij : i < j.val := lt_of_lt_of_le hi (Nat.min_le_left _ _)
    exact h ⟨i, hij.trans j.isLt⟩ hij (of_decide_eq_true hk)
  | some i =>
    obtain ⟨hij, hk, hfirst⟩ := earliest?_eq_some_iff.mp h
    have hlen : i.val < (names.take j).length := by
      rw [List.length_take]
      exact lt_min hij i.isLt
    refine List.find?_eq_some_iff_getElem.mpr ⟨decide_eq_true hk, i, hlen, List.getElem_take, ?_⟩
    intro k hki
    have hne : Key.ofName names[k] f ≠ keyAt names f j := hfirst ⟨k, hki.trans i.isLt⟩ hki
    rw [List.getElem_take]
    simpa using hne

theorem conflictAt_eq_earliest? (j : Fin names.length) :
    conflictAt names f j =
      (earliest? names f j).map fun i => ⟨keyAt names f j, names[i], names[j]⟩ := by
  rw [conflictAt_eq, List.getElem?_eq_getElem j.isLt, Option.bind_some]
  change ((names.take j).find? fun earlier => Key.ofName earlier f = keyAt names f j).map
    (fun first => (⟨keyAt names f j, first, names[j]⟩ : Conflict)) = _
  rw [find?_take_eq, Option.map_map]
  rfl

theorem detectConflicts_eq_pairwise (names : List String) (f : KeyFormat) :
    detectConflicts names f = pairwiseConflicts names f := by
  rw [detectConflicts_eq_filterMap, ← List.map_coe_finRange_eq_range, List.filterMap_map]
  exact List.filterMap_congr fun j _ => conflictAt_eq_earliest? j

/-- No conflict is left exactly when the keys at all positions are distinct. -/
theorem pairwiseConflicts_eq_nil_iff (names : List String) (f : KeyFormat) :
    pairwiseConflicts names f = [] ↔ Function.Injective (keyAt names f) := by
  simp only [pairwiseConflicts, List.filterMap_eq_nil_iff, List.mem_finRange, forall_const,
    Option.map_eq_none_iff, earliest?_eq_none_iff]
  constructor
  · intro h i j hk
    rcases lt_trichotomy i j with hlt | heq | hgt
    · exact absurd hk (h j i hlt)
    · exact heq
    · exact absurd hk.symm (h i j hgt)
  · intro h j i hij hk
    exact hij.ne (h hk)

theorem sharesKey_iff (names : List String) (f : KeyFormat) :
    SharesKey names f ↔ detectConflicts names f ≠ [] := by
  rw [detectConflicts_eq_pairwise, ne_eq, pairwiseConflicts_eq_nil_iff,
    Function.not_injective_iff]
  exact exists₂_congr fun _ _ => and_comm

end CaseKeys.KeyTable
