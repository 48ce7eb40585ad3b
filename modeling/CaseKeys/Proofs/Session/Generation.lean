import CaseKeys.Proofs.Json.Printing
import CaseKeys.Proofs.KeyTable.Positions
import CaseKeys.Proofs.Session.Policy
import CaseKeys.Proofs.Session.Stores
import CaseKeys.Report

/-! Sessions that are generated from a list of names. They find the conflicts of the list, whatever
their other options are, and fail exactly when there are some and conflicts are not allowed. -/
namespace CaseKeys

theorem Report.toValue_conflict (c : Conflict) : (conflict c).toValue =
    .object [("key", .text c.key), ("first", .text c.first), ("second", .text c.second)] := by
  simp [conflict]

namespace Session

private theorem table_addAll (s : Session) (names : List String) :
    (s.addAll names).table = s.table.addAll names := by
  induction names generalizing s with
  | nil => rfl
  | cons name rest ih => exact ih (s.add name).1

theorem table_generate (names : List String) (options : Options) :
    (generate names options).table = KeyTable.ofNames names options.format :=
  table_addAll (start options) names

@[simp] theorem options_generate (names : List String) (options : Options) :
    (generate names options).options = options :=
  options_addAll (start options) names

theorem generate_concat (names : List String) (name : String) (options : Options) :
    generate (names ++ [name]) options = ((generate names options).add name).1 :=
  List.foldl_concat _ _ _ _

theorem log_conflicts_generate (names : List String) (options : Options) :
    (generate names options).log.conflicts = detectConflicts names options.format := by
  have h : (generate names options).log.conflicts = (generate names options).table.conflicts :=
    ((agrees_start options).addAll names).conflicts
  rw [h, table_generate]
  rfl

/-- The JSON report read back is an object that ends with the conflicts of the names. -/
theorem read_json_generate (names : List String) (options : Options) :
    ∃ keys, Json.read (Report.json (generate names options)).toList = some (.object [
      ("keyFormat", .text options.format.value),
      ("keys", .object keys),
      ("conflicts", .array ((detectConflicts names options.format).map fun c =>
        .object [("key", .text c.key), ("first", .text c.first), ("second", .text c.second)]))]) := by
  have hread : ∀ s, Json.read (Report.json s).toList = some (Report.content s).toValue := fun s =>
    Json.read_eq_some_iff.mpr (Json.isText_print (Report.content s))
  rw [hread, Report.content, options_generate, table_generate]
  simp only [Json.toValue_object, Json.toValue_array, Json.toValue_text, List.map_cons, List.map_nil,
    List.map_map, Function.comp_def, Report.toValue_conflict]
  exact ⟨_, rfl⟩

private theorem hasErrors_add (s : Session) (name : String) :
    (s.add name).1.hasErrors =
      (s.hasErrors || !s.options.allowConflicts && (s.table.add name).2.isSome) := by
  rw [hasErrors, Session.add, List.any_append, any_isError_problems]
  rfl

/-- A generated session fails exactly when a conflict is found that is not allowed. -/
theorem hasErrors_generate (names : List String) (options : Options) :
    (generate names options).hasErrors =
      (!options.allowConflicts && !(detectConflicts names options.format).isEmpty) := by
  induction names using List.reverseRecOn with
  | nil => cases options.allowConflicts <;> rfl
  | append_singleton names name ih =>
    rw [generate_concat, hasErrors_add, ih, options_generate, table_generate,
      KeyTable.detectConflicts_concat]
    cases ((KeyTable.ofNames names options.format).add name).2 <;>
      cases options.allowConflicts <;> simp

/-- The table of the names, a session with any options, its log and its JSON report, read back, show
the same conflicts: each position that shares its key with an earlier one, paired with the earliest. There
are none exactly when the keys at all positions are distinct. -/
theorem conflicts_agree_with_pairwise (names : List String) (options : Options) :
    let f := options.format
    let s := generate names options
    let conflicts := KeyTable.pairwiseConflicts names f
    (∀ i j, KeyTable.earliest? names f j = some i ↔
      i < j ∧ KeyTable.keyAt names f i = KeyTable.keyAt names f j ∧
        ∀ k < i, KeyTable.keyAt names f k ≠ KeyTable.keyAt names f j) ∧
    detectConflicts names f = conflicts ∧
    (KeyTable.ofNames names f).conflicts = conflicts ∧
    s.table.conflicts = conflicts ∧
    s.log.conflicts = conflicts ∧
    (∃ keys, Json.read (Report.json s).toList = some (.object [
      ("keyFormat", .text f.value),
      ("keys", .object keys),
      ("conflicts", .array (conflicts.map fun c =>
        .object [("key", .text c.key), ("first", .text c.first), ("second", .text c.second)]))])) ∧
    (conflicts = [] ↔ Function.Injective (KeyTable.keyAt names f)) := by
  intro f s conflicts
  have h : detectConflicts names f = conflicts := KeyTable.detectConflicts_eq_pairwise names f
  refine ⟨fun _ _ => KeyTable.earliest?_eq_some_iff, h, h, ?_, ?_, ?_,
    KeyTable.pairwiseConflicts_eq_nil_iff names f⟩
  · rw [table_generate]
    exact h
  · rw [log_conflicts_generate]
    exact h
  · obtain ⟨keys, hj⟩ := read_json_generate names options
    exact ⟨keys, h ▸ hj⟩

end Session
end CaseKeys
