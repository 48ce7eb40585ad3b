import CaseKeys.Proofs.Json.Printing
import CaseKeys.Proofs.KeyTable.Lookups
import CaseKeys.Proofs.Session.Generation

/-! The JSON report of a session loses nothing: read back, it holds the format, the key of every name
and the conflicts. -/
namespace CaseKeys.Report
open KeyTable

private theorem members_concat (entries : List (String × String)) (entry : String × String) :
    members (entries ++ [entry]) = put (members entries) entry.1 entry.2 :=
  List.foldl_concat _ _ _ _

/-- A name that is put again keeps its place and its key. -/
private theorem put_pair (f : KeyFormat) (names : List String) (name : String) :
    put (names.map (pair f)) name (Key.ofName name f) =
      names.map (pair f) ++ if name ∈ names then [] else [pair f name] := by
  induction names with
  | nil => rfl
  | cons first rest ih =>
    by_cases h : first = name
    · simp [put, pair, h]
    · simp only [List.map_cons, pair, put, if_neg h, List.mem_cons, Ne.symm h, false_or,
        List.cons_append] at ih ⊢
      rw [ih]

/-- Every name is a member once, where it stands first. -/
theorem members_map_pair (f : KeyFormat) (names : List String) :
    members (names.map (pair f)) = names.eraseDups.map (pair f) := by
  induction names using List.reverseRecOn with
  | nil => rfl
  | append_singleton names name ih =>
    rw [List.map_append, List.map_singleton, members_concat, ih, eraseDups_concat, List.map_append]
    have hput := put_pair f names.eraseDups name
    rw [if_congr List.mem_eraseDups rfl rfl] at hput
    rw [pair, hput]
    split <;> rfl

private theorem eraseDups_map_eraseDups (g : String → String) (names : List String) :
    (names.eraseDups.map g).eraseDups = (names.map g).eraseDups := by
  induction names using List.reverseRecOn with
  | nil => rfl
  | append_singleton names name ih =>
    rw [eraseDups_concat, List.map_append, List.map_append, List.map_singleton, eraseDups_concat,
      ← ih]
    by_cases h : name ∈ names
    · have hm : g name ∈ names.map g := List.mem_map_of_mem h
      rw [if_pos h, if_pos hm, List.map_nil, List.append_nil, List.append_nil]
    · have hm : g name ∈ names.eraseDups.map g ↔ g name ∈ names.map g := by
        rw [← List.mem_eraseDups, ih, List.mem_eraseDups]
      rw [if_neg h, List.map_singleton, eraseDups_concat, if_congr hm rfl rfl]

/-- The values under the distinct names and the conflicts are as many as the names. -/
private theorem values_add_conflicts (names : List String) (f : KeyFormat) :
    (names.eraseDups.map fun name => Key.ofName name f).eraseDups.length +
      (ofNames names f).conflicts.length = names.length := by
  have h := length_eq_keys_add_collisions (names.map (pair f))
  rw [List.length_map, List.map_map] at h
  rw [eraseDups_map_eraseDups, (holds_ofNames names f).conflicts, h]
  rfl

theorem toValue_content (names : List String) (options : Options) :
    (content (Session.generate names options)).toValue =
      .object [
        ("keyFormat", .text options.format.value),
        ("keys", .object (names.eraseDups.map fun name =>
          (name, .text (Key.ofName name options.format)))),
        ("conflicts", .array ((ofNames names options.format).conflicts.map fun c =>
          .object [("key", .text c.key), ("first", .text c.first), ("second", .text c.second)]))] := by
  have hentries := (holds_ofNames names options.format).entries
  simp [content, Session.table_generate, hentries, members_map_pair, pair, Function.comp_def,
    toValue_conflict]

/-- The JSON report is one JSON text with one value: the format, the keys of the distinct names in
the order in which they stand first, and the conflicts. The keys are those of the table, and the
distinct ones are as many as the names without the conflicts. -/
theorem json_lossless (names : List String) (options : Options) :
    let f := options.format
    let s := Session.generate names options
    let content : Json.Value := .object [
      ("keyFormat", .text f.value),
      ("keys", .object (names.eraseDups.map fun name => (name, .text (Key.ofName name f)))),
      ("conflicts", .array (s.table.conflicts.map fun c =>
        .object [("key", .text c.key), ("first", .text c.first), ("second", .text c.second)]))]
    Json.read (json s).toList = some content ∧
    (∀ v, Json.IsText (json s).toList v ↔ v = content) ∧
    names.eraseDups.Nodup ∧
    (∀ name, s.table.key? name = if name ∈ names then some (Key.ofName name f) else none) ∧
    (names.eraseDups.map fun name => Key.ofName name f).eraseDups.length +
      s.table.conflicts.length = names.length := by
  intro f s content
  have htable : s.table = ofNames names f := Session.table_generate names options
  have hvalue : (Report.content s).toValue = content := by
    rw [toValue_content, ← htable]
  have htext : Json.IsText (json s).toList content := hvalue ▸ Json.isText_print (Report.content s)
  have hread := Json.read_eq_some_iff.mpr htext
  refine ⟨hread, fun v => ⟨fun hv => ?_, fun hv => hv ▸ htext⟩, nodup_eraseDups names, ?_, ?_⟩
  · rw [← Json.read_eq_some_iff, hread] at hv
    exact (Option.some.inj hv).symm
  · rw [htable]
    exact key?_ofNames names f
  · rw [htable]
    exact values_add_conflicts names f

end CaseKeys.Report
