import CaseKeys.Proofs.KeyTable.Pairs

/-! A table refines the history of its changes: after every run of additions, clearings and changes
of format, what it shows is a function of the pairs added since the last clearing. -/
namespace CaseKeys.KeyTable

/-- What can be done to a table. -/
inductive Change where
  | add (name : String)
  | clear
  | setFormat (f : KeyFormat)
  deriving DecidableEq, Repr

def Change.format? : Change → Option KeyFormat
  | .setFormat f => some f
  | .add _ | .clear => none

def change (t : KeyTable) : Change → KeyTable
  | .add name => (t.add name).1
  | .clear => t.clear
  | .setFormat f => { t with format := f }

/-- A new table after a run of changes. -/
def run (f : KeyFormat) (changes : List Change) : KeyTable :=
  changes.foldl change ⟨f, [], [], []⟩

/-- The format in force after some changes: the one that was assigned last. -/
def formatAfter (f : KeyFormat) (changes : List Change) : KeyFormat :=
  (changes.filterMap Change.format?).getLast?.getD f

/-- The pair of a change, given the changes before it: an addition has one, with the key under the
format in force. -/
def pairAt? (f : KeyFormat) (before : List Change) : Change → Option (String × String)
  | .add name => some (name, Key.ofName name (formatAfter f before))
  | .clear | .setFormat _ => none

/-- The pairs of the additions that no clearing follows, in order. -/
def history (f : KeyFormat) (changes : List Change) : List (String × String) :=
  changes.zipIdx.filterMap fun (c, i) =>
    if .clear ∈ changes.drop (i + 1) then none else pairAt? f (changes.take i) c

private theorem history_concat_old (f : KeyFormat) (changes : List Change) (c : Change) :
    changes.zipIdx.filterMap (fun p => if .clear ∈ (changes ++ [c]).drop (p.2 + 1) then none
      else pairAt? f ((changes ++ [c]).take p.2) p.1) =
        if c = .clear then [] else history f changes := by
  -- an old position keeps what it sees before it; after it, only a clearing matters
  by_cases h : c = .clear
  · rw [if_pos h]
    apply List.filterMap_eq_nil_iff.mpr
    intro p hp
    have hi : p.2 < changes.length := by simpa using List.snd_lt_of_mem_zipIdx hp
    rw [List.drop_append_of_le_length hi, if_pos (by simp [h])]
  · rw [if_neg h]
    apply List.filterMap_congr
    intro p hp
    have hi : p.2 < changes.length := by simpa using List.snd_lt_of_mem_zipIdx hp
    have hm : .clear ∈ changes.drop (p.2 + 1) ++ [c] ↔ .clear ∈ changes.drop (p.2 + 1) := by
      simp [Ne.symm h]
    rw [List.drop_append_of_le_length hi, List.take_append_of_le_length (Nat.le_of_lt hi)]
    simp only [hm]

/-- A clearing starts the history anew, an addition extends it, a change of format leaves it. -/
theorem history_concat (f : KeyFormat) (changes : List Change) (c : Change) :
    history f (changes ++ [c]) =
      (if c = .clear then [] else history f changes) ++ (pairAt? f changes c).toList := by
  rw [history, List.zipIdx_append, List.filterMap_append, history_concat_old]
  cases h : pairAt? f changes c <;> simp [h]

theorem format_run (f : KeyFormat) (changes : List Change) :
    (run f changes).format = formatAfter f changes := by
  induction changes using List.reverseRecOn with
  | nil => rfl
  | append_singleton changes c ih =>
    rw [run, List.foldl_concat, ← run]
    cases c with
    | add name => simpa [change, formatAfter, Change.format?] using ih
    | clear => simpa [change, clear, formatAfter, Change.format?] using ih
    | setFormat g => simp [change, formatAfter, Change.format?]

theorem run_holds (f : KeyFormat) (changes : List Change) :
    (run f changes).Holds (history f changes) := by
  induction changes using List.reverseRecOn with
  | nil => exact holds_empty f
  | append_singleton changes c ih =>
    rw [run, List.foldl_concat, ← run, history_concat]
    cases c with
    | add name =>
      have h := ih.add name
      rw [format_run] at h
      simpa [change, pairAt?, pair] using h
    | clear => exact holds_empty _
    | setFormat g =>
      have h : (change (run f changes) (.setFormat g)).Holds (history f changes) :=
        ⟨ih.entries, ih.owner, ih.keys, ih.conflicts⟩
      simpa [pairAt?] using h

private theorem lookup_eq_map_find? (pairs : List (String × String)) (name : String) :
    pairs.lookup name = (pairs.find? (·.1 = name)).map (·.2) := by
  induction pairs with
  | nil => rfl
  | cons p rest ih =>
    obtain ⟨n, key⟩ := p
    rw [List.lookup_cons, ih]
    by_cases h : n = name
    · simp [h]
    · have hb : (name == n) = false := beq_false_of_ne (Ne.symm h)
      simp [h, hb]

/-- Everything a table shows after a run is read off the history of its additions, and one more
addition returns exactly the conflict that it appends, none when its key is new. -/
theorem run_refines_history (f : KeyFormat) (changes : List Change) :
    let t := run f changes
    let h := history f changes
    t.entries = h ∧ t.size = h.length ∧
    t.keys = (h.map (·.2)).eraseDups ∧
    (∀ key, t.owner? key = (h.find? (·.2 = key)).map (·.1)) ∧
    (∀ key, t.contains key ↔ ∃ p ∈ h, p.2 = key) ∧
    (∀ name, t.key? name = (h.find? (·.1 = name)).map (·.2)) ∧
    t.conflicts = collisions h ∧
    (∀ name, (t.add name).1.conflicts = t.conflicts ++ (t.add name).2.toList ∧
      ((t.add name).2 = none ↔ Key.ofName name (formatAfter f changes) ∉ t.keys)) ∧
    t.size = t.keys.length + t.conflicts.length := by
  intro t h
  have hh : t.Holds h := run_holds f changes
  have hf : t.format = formatAfter f changes := format_run f changes
  refine ⟨hh.entries, congrArg List.length hh.entries, hh.keys, hh.owner, fun key => ?_,
    fun name => ?_, hh.conflicts,
    fun name => ⟨conflicts_add t name, ?_⟩, ?_⟩
  · rw [contains, hh.owner, isSome_firstName?_iff, List.mem_map]
  · rw [key?, hh.entries]
    exact lookup_eq_map_find? h name
  · rw [hh.add_snd, collision?_eq_none_iff, hh.keys, List.mem_eraseDups, ← hf]
    rfl
  · rw [size, hh.entries, hh.keys, hh.conflicts]
    exact length_eq_keys_add_collisions h

end CaseKeys.KeyTable
