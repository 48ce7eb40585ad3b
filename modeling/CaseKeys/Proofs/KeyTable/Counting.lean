import CaseKeys.Proofs.KeyTable.Detection
import Mathlib.Data.List.Nodup
import Mathlib.Data.List.Sort

/-! How often each key is in conflict. The scan depends on the order of the names, the numbers do
not: a key is in conflict once less than it is used. -/
namespace CaseKeys.KeyTable

/-- The number of positions whose name has the key. -/
def uses (names : List String) (f : KeyFormat) (key : String) : Nat :=
  names.countP fun name => Key.ofName name f = key

/-- The number of conflicts about the key. -/
def clashes (names : List String) (f : KeyFormat) (key : String) : Nat :=
  (detectConflicts names f).countP fun c => c.key = key

private theorem map_key_collision? (before : List (String × String)) (pair : String × String) :
    (collision? before pair).toList.map (·.key) =
      if pair.2 ∈ before.map (·.2) then [pair.2] else [] := by
  by_cases h : pair.2 ∈ before.map (·.2)
  · obtain ⟨owner, ho⟩ := Option.isSome_iff_exists.mp (isSome_firstName?_iff.mpr h)
    rw [if_pos h, collision?, ho]
    rfl
  · rw [if_neg h, collision?_eq_none_iff.mpr h]
    rfl

/-- Of the pairs with one key all but the first are in conflict. -/
private theorem count_key_collisions (pairs : List (String × String)) (key : String) :
    ((collisions pairs).map (·.key)).count key = (pairs.map (·.2)).count key - 1 := by
  induction pairs using List.reverseRecOn with
  | nil => rfl
  | append_singleton pairs pair ih =>
    rw [collisions_concat, List.map_append, List.map_append, List.map_singleton, List.count_append,
      List.count_append, ih, map_key_collision?]
    by_cases hk : pair.2 = key
    · subst hk
      by_cases hm : pair.2 ∈ pairs.map (·.2)
      · have hpos := List.count_pos_iff.mpr hm
        rw [if_pos hm, List.count_singleton_self]
        omega
      · have hzero := List.count_eq_zero.mpr hm
        rw [if_neg hm, List.count_nil, List.count_singleton_self]
        omega
    · have hold : ([pair.2] : List String).count key = 0 := by simp [hk]
      have hnew : (if pair.2 ∈ pairs.map (·.2) then [pair.2] else []).count key = 0 := by
        split
        · exact hold
        · rfl
      rw [hold, hnew]
      rfl

theorem detectConflicts_eq_collisions (names : List String) (f : KeyFormat) :
    detectConflicts names f = collisions (names.map (pair f)) :=
  (holds_ofNames names f).conflicts

theorem clashes_eq (names : List String) (f : KeyFormat) (key : String) :
    clashes names f key = uses names f key - 1 := by
  have h := count_key_collisions (names.map (pair f)) key
  rw [← detectConflicts_eq_collisions, List.map_map, List.count_eq_countP, List.count_eq_countP,
    List.countP_map, List.countP_map] at h
  exact h

private theorem mem_keys_iff {conflicts : List Conflict} {key : String} :
    key ∈ Conflict.keys conflicts ↔ 0 < conflicts.countP fun c => c.key = key := by
  rw [Conflict.keys, List.mem_mergeSort, List.mem_eraseDups, List.mem_map, List.countP_pos_iff]
  simp only [decide_eq_true_eq]

/-- Conflicts about the same keys list them alike. -/
private theorem keys_congr {cs ds : List Conflict}
    (h : ∀ key, key ∈ Conflict.keys cs ↔ key ∈ Conflict.keys ds) :
    Conflict.keys cs = Conflict.keys ds := by
  have hn : ∀ es : List Conflict, (Conflict.keys es).Nodup := fun es =>
    (List.mergeSort_perm _ _).nodup_iff.mpr (nodup_eraseDups _)
  have hp := (List.perm_ext_iff_of_nodup (hn cs) (hn ds)).mpr h
  exact hp.eq_of_pairwise' (List.pairwise_mergeSort' (· ≤ ·) _) (List.pairwise_mergeSort' (· ≤ ·) _)

section Order
variable {names others : List String} (h : names.Perm others) (f : KeyFormat)
include h

theorem uses_perm (key : String) : uses names f key = uses others f key :=
  h.countP_eq _

theorem clashes_perm (key : String) : clashes names f key = clashes others f key := by
  rw [clashes_eq, clashes_eq, uses_perm h]

/-- The conflicts of a reordered list are about the same keys, each as often as before. -/
private theorem map_key_detectConflicts_perm :
    ((detectConflicts names f).map (·.key)).Perm ((detectConflicts others f).map (·.key)) := by
  apply List.perm_iff_count.mpr
  intro key
  rw [List.count_eq_countP, List.count_eq_countP, List.countP_map, List.countP_map]
  exact clashes_perm h f key

theorem mem_keys_ofNames_perm (key : String) :
    key ∈ (ofNames names f).keys ↔ key ∈ (ofNames others f).keys := by
  rw [(holds_ofNames names f).keys, (holds_ofNames others f).keys, List.mem_eraseDups,
    List.mem_eraseDups]
  exact ((h.map (pair f)).map (·.2)).mem_iff

end Order

/-- A key used `n` times is in `n - 1` conflicts, so the colliding keys are those used twice or
more. The colliding keys, the number of conflicts about each key and altogether, and the keys of
the table are the same for every order of the names. -/
theorem collisions_order_independent (names : List String) (f : KeyFormat) :
    (∀ key, clashes names f key = uses names f key - 1) ∧
    (∀ key, key ∈ Conflict.keys (detectConflicts names f) ↔ 2 ≤ uses names f key) ∧
    ∀ others : List String, names.Perm others →
      Conflict.keys (detectConflicts names f) = Conflict.keys (detectConflicts others f) ∧
      (∀ key, clashes names f key = clashes others f key) ∧
      (detectConflicts names f).length = (detectConflicts others f).length ∧
      ∀ key, key ∈ (ofNames names f).keys ↔ key ∈ (ofNames others f).keys := by
  have hkeys : ∀ names : List String, ∀ key,
      key ∈ Conflict.keys (detectConflicts names f) ↔ 2 ≤ uses names f key := by
    intro names key
    have h := clashes_eq names f key
    rw [mem_keys_iff, ← clashes, h]
    omega
  refine ⟨clashes_eq names f, hkeys names, fun others h => ⟨?_, clashes_perm h f, ?_,
    mem_keys_ofNames_perm h f⟩⟩
  · apply keys_congr
    intro key
    rw [hkeys, hkeys, uses_perm h]
  · simpa using (map_key_detectConflicts_perm h f).length_eq

/-- A name given twice, two other spellings of it and a name without words. -/
theorem collisions_order_independent_of_reversed :
    let names := ["a", "A", "b", "a", "_"]
    names.Perm names.reverse ∧ uses names .upperSnake "A" = 3 ∧
    clashes names.reverse .upperSnake "A" = 2 ∧ (detectConflicts names.reverse .upperSnake).length = 2 ∧
    Conflict.keys (detectConflicts names .upperSnake) = ["A"] ∧
    Conflict.keys (detectConflicts names.reverse .upperSnake) = ["A"] := by
  intro names
  have h : names.Perm names.reverse := names.reverse_perm.symm
  obtain ⟨hcount, -, horder⟩ := collisions_order_independent names .upperSnake
  obtain ⟨hkeys, hclashes, hlength, -⟩ := horder names.reverse h
  have huses : uses names .upperSnake "A" = 3 := by decide
  have hfirst : Conflict.keys (detectConflicts names .upperSnake) = ["A"] := by decide +kernel
  refine ⟨h, huses, ?_, ?_, hfirst, hkeys.symm.trans hfirst⟩
  · rw [← hclashes, hcount, huses]
  · rw [← hlength]
    decide +kernel

end CaseKeys.KeyTable
