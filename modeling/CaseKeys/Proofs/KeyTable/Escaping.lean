import CaseKeys.CaseName
import CaseKeys.Proofs.KeyTable.History
import CaseKeys.Proofs.Words.Joints

/-! Backticks around a name are never seen: not in its words, its keys or its validity, and so a table
takes every escaped spelling of a name that it holds for that name once more. -/
namespace CaseKeys.KeyTable

/-- A name with `m` backticks before it and `n` behind it. -/
def escaped (m n : Nat) (name : String) : String :=
  String.ofList (Words.escape m n name.toList)

section Name
variable (m n : Nat) (name : String)

theorem unescape_escaped :
    Words.unescape (escaped m n name).toList = Words.unescape name.toList := by
  rw [escaped, String.toList_ofList, Words.unescape_escape]

theorem words_escaped : Words.ofName (escaped m n name) = Words.ofName name := by
  rw [Words.ofName, Words.ofName, Words.segments, Words.segments, unescape_escaped]

theorem key_escaped (f : KeyFormat) : Key.ofName (escaped m n name) f = Key.ofName name f := by
  rw [Key.ofName, Key.ofName, words_escaped]

theorem isValid_escaped : CaseName.isValid (escaped m n name) = CaseName.isValid name := by
  rw [CaseName.isValid, CaseName.isValid, unescape_escaped]

end Name

/-- An addition that finds its key owned changes neither the keys nor the owners. -/
theorem add_of_owner? {t : KeyTable} {name owner : String}
    (h : t.owner? (Key.ofName name t.format) = some owner) :
    (t.add name).2 = some ⟨Key.ofName name t.format, owner, name⟩ ∧
      (t.add name).1.owners = t.owners := by
  rcases add_cases t name with ⟨hnew, -⟩ | ⟨first, ho, ha⟩
  · rw [h] at hnew
    cases hnew
  · obtain rfl : owner = first := Option.some.inj (h.symm.trans ho)
    rw [ha]
    exact ⟨rfl, rfl⟩

private theorem formatAfter_append_of_unassigned (f : KeyFormat) (before : List Change)
    {after : List Change}
    (h : ∀ c ∈ after, c.format? = none) : formatAfter f (before ++ after) = formatAfter f before := by
  rw [formatAfter, List.filterMap_append, List.filterMap_eq_nil_iff.mpr h, List.append_nil,
    ← formatAfter]

/-- The pair of an addition stays in the history until the table is cleared. -/
private theorem mem_history (f : KeyFormat) (before : List Change) (name : String)
    {after : List Change} (h : .clear ∉ after) :
    (name, Key.ofName name (formatAfter f before)) ∈ history f (before ++ .add name :: after) := by
  induction after using List.reverseRecOn with
  | nil =>
    rw [history_concat]
    exact List.mem_append_right _ (by simp [pairAt?])
  | append_singleton after c ih =>
    have hc : c ≠ .clear := fun hc => h (by simp [hc])
    have hafter : .clear ∉ after := fun hm => h (List.mem_append_left _ hm)
    rw [← List.cons_append, ← List.append_assoc, history_concat, if_neg hc]
    exact List.mem_append_left _ (ih hafter)

/-- Backticks around a name change nothing that is made of it. So when a name was added to a table that
has not been cleared since, and the format of that time is in force, every escaped spelling of it
is in conflict with the first owner of its key, and no key and no owner changes. The format is in force when
none was assigned since, and also when it was assigned again. -/
theorem escaping_never_matters :
    (∀ m n name, Words.ofName (escaped m n name) = Words.ofName name ∧
      (∀ f, Key.ofName (escaped m n name) f = Key.ofName name f) ∧
      CaseName.isValid (escaped m n name) = CaseName.isValid name) ∧
    ∀ f before name after m n, .clear ∉ after →
      formatAfter f (before ++ .add name :: after) = formatAfter f before →
      let t := run f (before ++ .add name :: after)
      let key := Key.ofName name (formatAfter f before)
      let again := t.add (escaped m n name)
      (∃ owner, firstName? (history f (before ++ .add name :: after)) key = some owner ∧
        t.owner? key = some owner ∧ again.2 = some ⟨key, owner, escaped m n name⟩) ∧
      again.1.keys = t.keys ∧ ∀ k, again.1.owner? k = t.owner? k := by
  refine ⟨fun m n name => ⟨words_escaped m n name, key_escaped m n name, isValid_escaped m n name⟩, ?_⟩
  intro f before name after m n hclear hformat t key again
  have ht : t.Holds (history f (before ++ .add name :: after)) := run_holds f _
  have hf : t.format = formatAfter f before := (format_run f _).trans hformat
  have hmem : key ∈ (history f (before ++ .add name :: after)).map (·.2) :=
    List.mem_map.mpr ⟨_, mem_history f before name hclear, rfl⟩
  obtain ⟨owner, ho⟩ := Option.isSome_iff_exists.mp (isSome_firstName?_iff.mpr hmem)
  have hkey : Key.ofName (escaped m n name) t.format = key := by rw [key_escaped, hf]
  have howner : t.owner? key = some owner := (ht.owner key).trans ho
  obtain ⟨hconflict, howners⟩ := add_of_owner? (hkey ▸ howner)
  rw [hkey] at hconflict
  refine ⟨⟨owner, ho, howner, hconflict⟩, ?_, fun k => ?_⟩
  · rw [KeyTable.keys, howners, KeyTable.keys]
  · rw [owner?, howners, owner?]

/-- The first owner of the key is another spelling, which was added before the name under a format that
was assigned to the table. -/
theorem escaping_never_matters_of_case :
    let before : List Change := [.add "x", .clear, .setFormat .camel, .add "Case", .add "_"]
    let after : List Change := [.add "y", .add "\x60y\x60"]
    let t := run .upperSnake (before ++ .add "case" :: after)
    .clear ∉ after ∧ formatAfter .upperSnake (before ++ .add "case" :: after) = .camel ∧
    (t.add "\x60\x60case\x60").2 = some ⟨"case", "Case", "\x60\x60case\x60"⟩ ∧
    (t.add "\x60\x60case\x60").1.keys = t.keys := by
  intro before after t
  have hclear : .clear ∉ after := by decide
  have hadds : ∀ c ∈ .add "case" :: after, c.format? = none := by decide
  have hcamel : formatAfter .upperSnake before = .camel := by decide
  have hformat := formatAfter_append_of_unassigned .upperSnake before hadds
  obtain ⟨-, htable⟩ := escaping_never_matters
  obtain ⟨⟨owner, ho, -, hconflict⟩, hkeys, -⟩ :=
    htable .upperSnake before "case" after 2 1 hclear hformat
  have hkey : Key.ofName "case" (formatAfter .upperSnake before) = "case" := by decide
  have hfirst : firstName? (history .upperSnake (before ++ .add "case" :: after)) "case" =
      some "Case" := by decide
  have hescaped : escaped 2 1 "case" = "\x60\x60case\x60" := by decide
  rw [hkey, hfirst] at ho
  obtain rfl := Option.some.inj ho
  rw [hkey, hescaped] at hconflict
  rw [hescaped] at hkeys
  exact ⟨hclear, hformat.trans hcamel, hconflict, hkeys⟩

end CaseKeys.KeyTable
