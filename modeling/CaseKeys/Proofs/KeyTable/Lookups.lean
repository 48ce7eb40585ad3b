import CaseKeys.Proofs.KeyTable.Counting
import CaseKeys.Proofs.KeyTable.History
import Mathlib.Data.List.DropRight

/-! What the lookups of a table say about each other while its format stays. Such a table is that of
the names added since it was last cleared, and its owners alone make it again without conflicts. -/
namespace CaseKeys.KeyTable

def Change.name? : Change → Option String
  | .add name => some name
  | .clear | .setFormat _ => none

/-- The names that are added behind the last clearing, in order. -/
def added (changes : List Change) : List String :=
  (changes.rtakeWhile (· ≠ .clear)).filterMap Change.name?

private theorem added_concat (changes : List Change) (c : Change) :
    added (changes ++ [c]) = if c = .clear then [] else added changes ++ c.name?.toList := by
  rw [added, List.rtakeWhile_concat]
  by_cases h : c = .clear
  · simp [h]
  · cases hn : c.name? <;> simp [h, hn, added]

theorem run_eq_ofNames {f : KeyFormat} {changes : List Change}
    (h : ∀ c ∈ changes, c.format? = none) : run f changes = ofNames (added changes) f := by
  induction changes using List.reverseRecOn with
  | nil => rfl
  | append_singleton changes c ih =>
    have hrun := ih fun d hd => h d (List.mem_append_left [c] hd)
    rw [run, List.foldl_concat, ← run, hrun, added_concat]
    cases c with
    | add name =>
      rw [if_neg (by simp)]
      exact (ofNames_concat (added changes) name f).symm
    | clear =>
      rw [if_pos rfl, change, clear, format_ofNames]
      rfl
    | setFormat g => exact absurd (h (.setFormat g) (by simp)) (by simp [Change.format?])

section
variable (names : List String) (f : KeyFormat)

theorem key?_ofNames (name : String) :
    (ofNames names f).key? name = if name ∈ names then some (Key.ofName name f) else none := by
  rw [key?, (holds_ofNames names f).entries]
  induction names with
  | nil => rfl
  | cons first rest ih =>
    by_cases h : name = first
    · simp [pair, h]
    · have hb : (name == first) = false := beq_false_of_ne h
      rw [List.map_cons, pair, List.lookup_cons, ih]
      simp only [hb, List.mem_cons, h, false_or]

theorem owner?_ofNames (key : String) :
    (ofNames names f).owner? key = names.find? fun name => Key.ofName name f = key := by
  rw [(holds_ofNames names f).owner, firstName?, List.find?_map, Option.map_map]
  exact Option.map_id_apply

/-- A key in the table is owned by the first name that has it. -/
theorem exists_owner?_of_mem_keys {key : String} (h : key ∈ (ofNames names f).keys) :
    ∃ before name after, (ofNames names f).owner? key = some name ∧
      names = before ++ name :: after ∧ Key.ofName name f = key ∧
        ∀ earlier ∈ before, Key.ofName earlier f ≠ key := by
  have hsome : ((ofNames names f).owner? key).isSome := by
    rw [(holds_ofNames names f).owner, isSome_firstName?_iff, ← List.mem_eraseDups,
      ← (holds_ofNames names f).keys]
    exact h
  obtain ⟨name, ho⟩ := Option.isSome_iff_exists.mp hsome
  have hfind := ho
  rw [owner?_ofNames, List.find?_eq_some_iff_append] at hfind
  obtain ⟨hkey, before, after, hnames, hbefore⟩ := hfind
  exact ⟨before, name, after, ho, hnames, of_decide_eq_true hkey,
    fun earlier he => by simpa using hbefore earlier he⟩

/-- The first name of a conflict owns its key, whatever is added later. -/
theorem owner?_key_of_mem_conflicts {c : Conflict} (h : c ∈ (ofNames names f).conflicts) :
    (ofNames names f).owner? c.key = some c.first := by
  induction names using List.reverseRecOn with
  | nil => cases h
  | append_singleton names name ih =>
    rw [ofNames_concat, conflicts_add, List.mem_append] at h
    rw [ofNames_concat, owner?_add]
    rcases h with h | h
    · rw [ih h, Option.some_or]
    · rw [snd_add, Option.mem_toList, Option.map_eq_some_iff] at h
      obtain ⟨owner, ho, rfl⟩ := h
      rw [ho, Option.some_or]

private theorem lookup_eq_some_of_mem {l : List (String × String)} (h : (l.map (·.1)).Nodup)
    {p : String × String} (hp : p ∈ l) : l.lookup p.1 = some p.2 := by
  obtain ⟨before, after, rfl⟩ := List.append_of_mem hp
  refine List.lookup_eq_some_iff.mpr ⟨before, after, rfl, fun q hq => ?_⟩
  rw [List.map_append, List.map_cons, List.nodup_append] at h
  have hne : q.1 ≠ p.1 := h.2.2 q.1 (List.mem_map_of_mem hq) p.1 List.mem_cons_self
  exact bne_iff_ne.mpr hne.symm

/-- The owners are the answers to the keys, in their order. -/
private theorem map_owner?_keys :
    (ofNames names f).keys.map (ofNames names f).owner? =
      ((ofNames names f).owners.map (·.2)).map some := by
  have hnodup : (ofNames names f).keys.Nodup := by
    rw [(holds_ofNames names f).keys]
    exact nodup_eraseDups _
  rw [KeyTable.keys, List.map_map, List.map_map]
  exact List.map_congr_left fun _ hp => lookup_eq_some_of_mem hnodup hp

/-- A table of the owners alone has the same owners and no conflict. -/
theorem ofNames_owners :
    (ofNames ((ofNames names f).owners.map (·.2)) f).owners = (ofNames names f).owners ∧
      (ofNames ((ofNames names f).owners.map (·.2)) f).conflicts = [] := by
  induction names using List.reverseRecOn with
  | nil => exact ⟨rfl, rfl⟩
  | append_singleton names name ih =>
    obtain ⟨howners, hconflicts⟩ := ih
    rw [ofNames_concat]
    rcases add_cases (ofNames names f) name with ⟨hnew, ha⟩ | ⟨owner, -, ha⟩
    · -- the key is new to both tables, which have the same owners so far
      have hnew' : (ofNames ((ofNames names f).owners.map (·.2)) f).owner?
          (Key.ofName name f) = none := by
        rw [format_ofNames] at hnew
        rw [owner?, howners]
        exact hnew
      simp only [ha, List.map_append, List.map_cons, List.map_nil, ofNames_concat]
      simp [add, hnew', howners, hconflicts]
    · rw [ha]
      exact ⟨howners, hconflicts⟩

end

/-- The lookups of a table whose format `f` stays, after any additions and clearings. The key of an
added name is its key under `f`, and no other name has one. The owner of a key is the earliest added
name with that key. Both names of a conflict have its key, and the first of them owns it. The owners,
put into a new table in the order of their keys, give its keys and owners again without a conflict. -/
theorem lookups_agree {f : KeyFormat} {changes : List Change}
    (h : ∀ c ∈ changes, c.format? = none) :
    let t := run f changes
    let names := added changes
    let owners := t.keys.filterMap t.owner?
    (∀ name, t.key? name = if name ∈ names then some (Key.ofName name f) else none) ∧
    (∀ key ∈ t.keys, ∃ before name after, t.owner? key = some name ∧
      names = before ++ name :: after ∧ t.key? name = some key ∧
        ∀ earlier ∈ before, t.key? earlier ≠ some key) ∧
    (∀ c ∈ t.conflicts, Key.ofName c.first f = c.key ∧ Key.ofName c.second f = c.key ∧
      t.owner? c.key = some c.first) ∧
    t.keys.map t.owner? = owners.map some ∧
    (ofNames owners f).keys = t.keys ∧
    (∀ key, (ofNames owners f).owner? key = t.owner? key) ∧
    (ofNames owners f).conflicts = [] := by
  intro t names owners
  have ht : t = ofNames names f := run_eq_ofNames h
  have hkey : ∀ name, t.key? name = if name ∈ names then some (Key.ofName name f) else none := by
    rw [ht]
    exact key?_ofNames names f
  have hanswers : t.keys.map t.owner? = (t.owners.map (·.2)).map some := by
    rw [ht]
    exact map_owner?_keys names f
  have howners : owners = t.owners.map (·.2) := by
    have hid := congrArg (List.filterMap id) hanswers
    rw [List.filterMap_map, List.filterMap_map] at hid
    exact hid.trans List.filterMap_some
  obtain ⟨hrebuilt, hnone⟩ := ofNames_owners names f
  rw [← ht, ← howners] at hrebuilt hnone
  refine ⟨hkey, fun key hk => ?_, fun c hc => ?_, howners ▸ hanswers, ?_, fun key => ?_, hnone⟩
  · rw [ht] at hk
    obtain ⟨before, name, after, ho, hnames, hn, hbefore⟩ := exists_owner?_of_mem_keys names f hk
    refine ⟨before, name, after, ht ▸ ho, hnames, ?_, fun earlier he hke => ?_⟩
    · rw [hkey, if_pos (by rw [hnames]; simp), hn]
    · rw [hkey, if_pos (by rw [hnames]; exact List.mem_append_left _ he), Option.some_inj] at hke
      exact hbefore earlier he hke
  · rw [ht] at hc ⊢
    obtain ⟨hfirst, hsecond⟩ := key_of_mem_detectConflicts hc
    exact ⟨hfirst, hsecond, owner?_key_of_mem_conflicts names f hc⟩
  · rw [KeyTable.keys, hrebuilt, KeyTable.keys]
  · rw [owner?, hrebuilt, owner?]

/-- A name that a clearing forgets, a name added twice and two names without words. -/
theorem lookups_agree_of_cleared :
    let changes : List Change := [.add "x", .clear, .add "a", .add "_", .add "A", .add "a", .add ""]
    let t := run .upperSnake changes
    (∀ c ∈ changes, c.format? = none) ∧ t.key? "x" = none ∧ t.key? "A" = some "A" ∧
    ⟨"", "_", ""⟩ ∈ t.conflicts ∧ t.owner? "" = some "_" ∧
    (ofNames (t.keys.filterMap t.owner?) .upperSnake).conflicts = [] := by
  intro changes t
  have h : ∀ c ∈ changes, c.format? = none := by decide
  have hforgotten : "x" ∉ added changes := by decide
  have hadded : "A" ∈ added changes := by decide
  have hA : Key.ofName "A" .upperSnake = "A" := by decide
  have hc : ⟨"", "_", ""⟩ ∈ t.conflicts := by decide +kernel
  obtain ⟨hkey, -, hconflict, -, -, -, hnone⟩ := lookups_agree (f := .upperSnake) h
  refine ⟨h, (hkey "x").trans (if_neg hforgotten), ?_, hc, (hconflict _ hc).2.2, hnone⟩
  rw [hkey "A", if_pos hadded, hA]

end CaseKeys.KeyTable
