import CaseKeys.KeyTable
import CaseKeys.Proofs.EachAfter

/-! The stores of a table as functions of the pairs that were added to it. One addition keeps them
so, whatever the format, the name and its key. -/
namespace CaseKeys.KeyTable

/-- The first name that was added with a key. -/
def firstName? (pairs : List (String × String)) (key : String) : Option String :=
  (pairs.find? (·.2 = key)).map (·.1)

/-- The conflict that a pair causes after the pairs before it: none when its key is new. -/
def collision? (before : List (String × String)) (pair : String × String) : Option Conflict :=
  (firstName? before pair.2).map fun owner => ⟨pair.2, owner, pair.1⟩

/-- One conflict, in order, for every pair that is not the first with its key. It names the first
pair with that key. -/
def collisions (pairs : List (String × String)) : List Conflict :=
  eachAfter (fun before pair => (collision? before pair).toList) pairs

theorem collisions_concat (pairs : List (String × String)) (pair : String × String) :
    collisions (pairs ++ [pair]) = collisions pairs ++ (collision? pairs pair).toList :=
  eachAfter_concat _ pairs pair

private theorem firstName?_concat (pairs : List (String × String)) (pair : String × String)
    (key : String) :
    firstName? (pairs ++ [pair]) key =
      (firstName? pairs key).or (if pair.2 = key then some pair.1 else none) := by
  rw [firstName?, List.find?_append, Option.map_or, ← firstName?]
  by_cases h : pair.2 = key <;> simp [h]

theorem firstName?_eq_none_iff {pairs : List (String × String)} {key : String} :
    firstName? pairs key = none ↔ key ∉ pairs.map (·.2) := by
  simp only [firstName?, Option.map_eq_none_iff, List.find?_eq_none, decide_eq_true_eq,
    List.mem_map, not_exists, not_and]

theorem isSome_firstName?_iff {pairs : List (String × String)} {key : String} :
    (firstName? pairs key).isSome ↔ key ∈ pairs.map (·.2) := by
  rw [← not_iff_not, Option.not_isSome_iff_eq_none, firstName?_eq_none_iff]

theorem collision?_eq_none_iff {before : List (String × String)} {pair : String × String} :
    collision? before pair = none ↔ pair.2 ∉ before.map (·.2) := by
  rw [collision?, Option.map_eq_none_iff, firstName?_eq_none_iff]

/-- The pairs are as many as their distinct keys and their conflicts together. -/
theorem length_eq_keys_add_collisions (pairs : List (String × String)) :
    pairs.length = (pairs.map (·.2)).eraseDups.length + (collisions pairs).length := by
  induction pairs using List.reverseRecOn with
  | nil => rfl
  | append_singleton pairs pair ih =>
    rw [List.map_append, List.map_singleton, eraseDups_concat, collisions_concat]
    by_cases h : pair.2 ∈ pairs.map (·.2)
    · obtain ⟨c, hc⟩ := Option.ne_none_iff_exists'.mp
        (mt collision?_eq_none_iff.mp (not_not_intro h))
      simp only [List.length_append, List.length_singleton, if_pos h, hc, Option.toList_some,
        List.length_nil]
      omega
    · have hc := collision?_eq_none_iff.mpr h
      simp only [List.length_append, List.length_singleton, if_neg h, hc, Option.toList_none,
        List.length_nil]
      omega

/-- The three stores of a table hold what the pairs of its additions say. -/
structure Holds (t : KeyTable) (pairs : List (String × String)) : Prop where
  entries : t.entries = pairs
  owner : ∀ key, t.owner? key = firstName? pairs key
  keys : t.keys = (pairs.map (·.2)).eraseDups
  conflicts : t.conflicts = collisions pairs

theorem holds_empty (f : KeyFormat) : Holds ⟨f, [], [], []⟩ [] :=
  ⟨rfl, fun _ => rfl, rfl, rfl⟩

/-- The pair of a case name under a format. -/
def pair (f : KeyFormat) (name : String) : String × String :=
  (name, Key.ofName name f)

theorem collision?_map_pair {α : Type} (f : KeyFormat) (name : α → String) (before : List α)
    (later : String) : collision? (before.map fun a => pair f (name a)) (pair f later) =
      (before.find? fun a => Key.ofName (name a) f = Key.ofName later f).map
        fun a => ⟨Key.ofName later f, name a, later⟩ := by
  rw [collision?, firstName?, List.find?_map, Option.map_map, Option.map_map]
  rfl

/-- What an addition does: the pair goes to the entries, and either its key is new and gets the
name as its owner, or the conflict with the owner is kept and returned. -/
theorem add_cases (t : KeyTable) (name : String) :
    (t.owner? (Key.ofName name t.format) = none ∧ t.add name =
      ({ t with
          entries := t.entries ++ [pair t.format name]
          owners := t.owners ++ [(Key.ofName name t.format, name)] }, none)) ∨
    ∃ owner, t.owner? (Key.ofName name t.format) = some owner ∧ t.add name =
      ({ t with
          entries := t.entries ++ [pair t.format name]
          conflicts := t.conflicts ++ [⟨Key.ofName name t.format, owner, name⟩] },
        some ⟨Key.ofName name t.format, owner, name⟩) := by
  cases h : t.owner? (Key.ofName name t.format) with
  | none => exact .inl ⟨rfl, by simp only [add, h, pair]⟩
  | some owner => exact .inr ⟨owner, rfl, by simp only [add, h, pair]⟩

section Add
variable (t : KeyTable) (name : String)

@[simp] theorem format_add : (t.add name).1.format = t.format := by
  rcases add_cases t name with ⟨-, h⟩ | ⟨owner, -, h⟩ <;> rw [h]

theorem entries_add : (t.add name).1.entries = t.entries ++ [pair t.format name] := by
  rcases add_cases t name with ⟨-, h⟩ | ⟨owner, -, h⟩ <;> rw [h]

theorem owner?_add (key : String) : (t.add name).1.owner? key =
    (t.owner? key).or (if Key.ofName name t.format = key then some name else none) := by
  rcases add_cases t name with ⟨-, ha⟩ | ⟨owner, ho, ha⟩
  · rw [ha]
    by_cases hk : Key.ofName name t.format = key
    · simp [owner?, List.lookup_append, hk]
    · simp [owner?, List.lookup_append, hk, Ne.symm hk]
  · rw [ha]
    change t.owner? key = (t.owner? key).or _
    by_cases hk : Key.ofName name t.format = key
    · rw [← hk, ho, Option.some_or]
    · rw [if_neg hk, Option.or_none]

theorem keys_add : (t.add name).1.keys = t.keys ++
    if (t.owner? (Key.ofName name t.format)).isSome then [] else [Key.ofName name t.format] := by
  rcases add_cases t name with ⟨ho, ha⟩ | ⟨owner, ho, ha⟩ <;> simp [ha, ho, KeyTable.keys]

theorem conflicts_add : (t.add name).1.conflicts = t.conflicts ++ (t.add name).2.toList := by
  rcases add_cases t name with ⟨-, h⟩ | ⟨owner, -, h⟩ <;> simp [h]

theorem snd_add : (t.add name).2 = (t.owner? (Key.ofName name t.format)).map
    fun owner => ⟨Key.ofName name t.format, owner, name⟩ := by
  rcases add_cases t name with ⟨ho, ha⟩ | ⟨owner, ho, ha⟩ <;> rw [ha, ho] <;> rfl

end Add

variable {t : KeyTable} {pairs : List (String × String)}

theorem Holds.add_snd (h : t.Holds pairs) (name : String) :
    (t.add name).2 = collision? pairs (pair t.format name) := by
  rw [snd_add, h.owner]
  rfl

/-- An addition puts its pair behind the pairs before it. -/
theorem Holds.add (h : t.Holds pairs) (name : String) :
    (t.add name).1.Holds (pairs ++ [pair t.format name]) where
  entries := by rw [entries_add, h.entries]
  owner key := by
    rw [owner?_add, h.owner, firstName?_concat]
    rfl
  keys := by
    rw [keys_add, h.owner, h.keys, if_congr isSome_firstName?_iff rfl rfl, List.map_append,
      List.map_singleton, eraseDups_concat]
    rfl
  conflicts := by rw [conflicts_add, h.add_snd, h.conflicts, collisions_concat]

end CaseKeys.KeyTable
