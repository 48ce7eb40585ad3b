import CaseKeys.Proofs.KeyTable.Counting
import CaseKeys.Proofs.Log.Counts
import CaseKeys.Proofs.Session.Generation

/-! The totals of a summary against the table of the session. Every store keeps its own count, and
names without a key are counted by the log on one side and by the table on the other. -/
namespace CaseKeys.Session
open Log (distinctKeys_le)

private theorem length_eraseDups_filter_ne (keys : List String) (key : String) :
    (keys.filter (· ≠ key)).eraseDups.length + (if key ∈ keys then 1 else 0) =
      keys.eraseDups.length := by
  induction keys using List.reverseRecOn with
  | nil => rfl
  | append_singleton keys k ih =>
    rw [List.filter_append, eraseDups_concat, List.length_append, ← ih]
    by_cases hk : k = key
    · subst hk
      by_cases hm : k ∈ keys <;> simp [hm]
    · have hsingle : [k].filter (· ≠ key) = [k] := by simp [hk]
      have hold : k ∈ keys.filter (· ≠ key) ↔ k ∈ keys := by simp [hk]
      have hnew : key ∈ keys ++ [k] ↔ key ∈ keys := by simp [Ne.symm hk]
      rw [hsingle, eraseDups_concat, if_congr hold rfl rfl, if_congr hnew rfl rfl,
        List.length_append]
      omega

section Step
variable (options : Options) (log : Log) (name key : String) (conflict : Option Conflict)

private theorem length_warnings_logged : (logged options log name key conflict).warnings.length =
    log.warnings.length + (if key = "" then 1 else 0) + conflict.toList.length := by
  by_cases h : key = "" <;> cases conflict <;> simp [logged, h, Log.skip, Log.convert, Log.conflict]

private theorem length_problems : (problems options name key conflict).length =
    (if key = "" then 1 else 0) + conflict.toList.length +
      if CaseName.isValid name then 0 else 1 := by
  rw [problems_eq, notices, List.length_append, List.length_append, List.length_map]
  split_ifs <;> simp only [List.length_nil, List.length_singleton] <;> omega

end Step

section Generate
variable (names : List String) (options : Options)

theorem length_warnings_generate :
    let log := (generate names options).log
    log.warnings.length = log.skipped.length + log.conflicts.length := by
  induction names using List.reverseRecOn with
  | nil => rfl
  | append_singleton names name ih =>
    simp only [generate_concat, Session.add, length_warnings_logged, skipped_logged,
      conflicts_logged, List.length_append] at ih ⊢
    split_ifs <;> simp only [List.length_nil, List.length_singleton] <;> omega

theorem length_diagnostics_generate :
    (generate names options).diagnostics.length =
      (generate names options).log.warnings.length +
        names.countP fun name => !CaseName.isValid name := by
  induction names using List.reverseRecOn with
  | nil => rfl
  | append_singleton names name ih =>
    simp only [generate_concat, Session.add, List.length_append, length_problems,
      length_warnings_logged, List.countP_append, List.countP_singleton] at ih ⊢
    rw [ih]
    cases CaseName.isValid name <;> simp only [Bool.not_false, Bool.not_true, Bool.false_eq_true,
      if_true, if_false] <;> omega

theorem skipped_generate : (generate names options).log.skipped =
    (names.filter fun name => Key.ofName name options.format = "").map
      fun name => ⟨name, "empty localization key"⟩ := by
  have h := ((agrees_start options).addAll names).skipped
  rw [List.nil_append, List.filter_map, List.map_map] at h
  exact h

theorem conversions_generate : (generate names options).log.conversions =
    (names.filter fun name => Key.ofName name options.format ≠ "").map
      fun name => ⟨name, Key.ofName name options.format, options.format⟩ := by
  have h := ((agrees_start options).addAll names).conversions
  rw [List.nil_append, List.filter_map, List.map_map] at h
  exact h

/-- A key of the table is one of the converted keys or the empty one. -/
theorem length_keys_generate :
    (generate names options).table.keys.length = (generate names options).log.distinctKeys +
      if 0 < (generate names options).log.skipped.length then 1 else 0 := by
  have hkeys : (generate names options).log.conversions.map (·.key) =
      (names.map fun name => Key.ofName name options.format).filter (· ≠ "") := by
    rw [conversions_generate, List.map_map, List.filter_map]
    rfl
  have hskipped : 0 < (generate names options).log.skipped.length ↔
      "" ∈ names.map fun name => Key.ofName name options.format := by
    rw [skipped_generate, List.length_map, List.length_filter_pos_iff, List.mem_map]
    simp only [decide_eq_true_eq]
  rw [Log.distinctKeys, hkeys, if_congr hskipped rfl rfl, length_eraseDups_filter_ne, table_generate,
    (KeyTable.holds_ofNames names options.format).keys, List.map_map]
  rfl

theorem length_conversions_add_skipped :
    (generate names options).log.conversions.length + (generate names options).log.skipped.length =
      (generate names options).table.size := by
  have hsplit := List.length_eq_length_filter_add (l := names) fun name =>
    Key.ofName name options.format ≠ ""
  simp only [ne_eq, decide_not, Bool.not_not] at hsplit
  rw [conversions_generate, skipped_generate, List.length_map, List.length_map, table_generate,
    KeyTable.size, (KeyTable.holds_ofNames names options.format).entries, List.length_map, hsplit]
  simp only [ne_eq, decide_not]

/-- The entries of the table are its keys and its conflicts. -/
theorem length_keys_add_conflicts :
    (generate names options).table.keys.length + (generate names options).log.conflicts.length =
      (generate names options).table.size := by
  have h := KeyTable.holds_ofNames names options.format
  rw [log_conflicts_generate, KeyTable.detectConflicts_eq_collisions, table_generate, KeyTable.size,
    h.entries, h.keys, ← KeyTable.length_eq_keys_add_collisions]

end Generate

/-- The totals that are printed after a run. Every name is converted or skipped. There is a conflict
for each conversion to a key that was converted before and for each skip but the first; the keys of
the table are the distinct converted ones and, where names were skipped, the empty one. Skips and
conflicts are the warnings, and together with the invalid names the diagnostics. The run fails exactly
when a key is made twice, the empty one included, and conflicts are not allowed. -/
theorem totals_of_generate (names : List String) (options : Options) :
    let s := generate names options
    let m := s.log.summary
    m.conversions + m.skipped = s.table.size ∧
    m.distinctKeys ≤ m.conversions ∧
    m.conflicts = (m.conversions - m.distinctKeys) + (m.skipped - 1) ∧
    s.table.keys.length = m.distinctKeys + (if 0 < m.skipped then 1 else 0) ∧
    m.warnings = m.skipped + m.conflicts ∧
    s.diagnostics.length = m.warnings + (names.countP fun name => !CaseName.isValid name) ∧
    (s.hasErrors ↔ options.allowConflicts = false ∧
      (m.distinctKeys < m.conversions ∨ 2 ≤ m.skipped)) := by
  intro s m
  have hsize : m.conversions + m.skipped = s.table.size := length_conversions_add_skipped names options
  have hdistinct : m.distinctKeys ≤ m.conversions := distinctKeys_le s.log
  have hkeys : s.table.keys.length = m.distinctKeys + if 0 < m.skipped then 1 else 0 :=
    length_keys_generate names options
  have hentries : s.table.keys.length + m.conflicts = s.table.size :=
    length_keys_add_conflicts names options
  have hconflicts : m.conflicts = (m.conversions - m.distinctKeys) + (m.skipped - 1) := by
    split_ifs at hkeys <;> omega
  refine ⟨hsize, hdistinct, hconflicts, hkeys, length_warnings_generate names options,
    length_diagnostics_generate names options, ?_⟩
  have hfound : detectConflicts names options.format ≠ [] ↔ 0 < m.conflicts := by
    rw [← log_conflicts_generate]
    exact List.length_pos_iff.symm
  have hpos : 0 < m.conflicts ↔ m.distinctKeys < m.conversions ∨ 2 ≤ m.skipped := by omega
  rw [hasErrors_generate, Bool.and_eq_true, Bool.not_eq_true', Bool.not_eq_true',
    List.isEmpty_eq_false_iff, hfound, hpos]

end CaseKeys.Session
