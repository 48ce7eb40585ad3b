import CaseKeys.Proofs.Key.Collision
import CaseKeys.Proofs.KeyTable.Pairs
import Mathlib.Data.List.Find

/-! Conflicts among a list of names, position by position, and what the conflicts under one format
say about those under another. -/
namespace CaseKeys.KeyTable
open Words

/-- The conflict that the name at a position causes when it is added after the names before it. -/
def conflictAt (names : List String) (f : KeyFormat) (j : Nat) : Option Conflict :=
  names[j]?.bind fun name => ((ofNames (names.take j) f).add name).2

/-- The two names of every conflict, in order. -/
def conflictingNames (names : List String) (f : KeyFormat) : List (String × String) :=
  (detectConflicts names f).map fun c => (c.first, c.second)

@[simp] theorem ofNames_concat (names : List String) (name : String) (f : KeyFormat) :
    ofNames (names ++ [name]) f = ((ofNames names f).add name).1 :=
  List.foldl_concat _ _ _ _

@[simp] theorem format_ofNames (names : List String) (f : KeyFormat) : (ofNames names f).format = f := by
  induction names using List.reverseRecOn with
  | nil => rfl
  | append_singleton names name ih => rw [ofNames_concat, format_add, ih]

theorem holds_ofNames (names : List String) (f : KeyFormat) :
    (ofNames names f).Holds (names.map (pair f)) := by
  induction names using List.reverseRecOn with
  | nil => exact holds_empty f
  | append_singleton names name ih =>
    have h := ih.add name
    rwa [format_ofNames, ← ofNames_concat, ← List.map_singleton, ← List.map_append] at h

theorem detectConflicts_concat (names : List String) (name : String) (f : KeyFormat) :
    detectConflicts (names ++ [name]) f =
      detectConflicts names f ++ ((ofNames names f).add name).2.toList := by
  rw [detectConflicts, ofNames_concat, conflicts_add, ← detectConflicts]

private theorem conflictAt_concat {names : List String} (name : String) (f : KeyFormat) {j : Nat}
    (hj : j < names.length) : conflictAt (names ++ [name]) f j = conflictAt names f j := by
  rw [conflictAt, List.getElem?_append_left hj, List.take_append_of_le_length (Nat.le_of_lt hj),
    conflictAt]

private theorem conflictAt_last (names : List String) (name : String) (f : KeyFormat) :
    conflictAt (names ++ [name]) f names.length = ((ofNames names f).add name).2 := by
  rw [conflictAt, List.getElem?_concat_length, Option.bind_some, List.take_left]

theorem detectConflicts_eq_filterMap (names : List String) (f : KeyFormat) :
    detectConflicts names f = (List.range names.length).filterMap (conflictAt names f) := by
  induction names using List.reverseRecOn with
  | nil => rfl
  | append_singleton names name ih =>
    have hold : (List.range names.length).filterMap (conflictAt (names ++ [name]) f) =
        (List.range names.length).filterMap (conflictAt names f) :=
      List.filterMap_congr fun j hj => conflictAt_concat name f (List.mem_range.mp hj)
    rw [detectConflicts_concat, ih, List.length_append, List.length_singleton, List.range_succ,
      List.filterMap_append, hold]
    cases h : ((ofNames names f).add name).2 <;> simp [conflictAt_last, h]

/-- The conflict at a position is with the first of the names before it that has the same key. -/
theorem conflictAt_eq (names : List String) (f : KeyFormat) (j : Nat) :
    conflictAt names f j = names[j]?.bind fun name =>
      ((names.take j).find? fun earlier => Key.ofName earlier f = Key.ofName name f).map
        fun first => ⟨Key.ofName name f, first, name⟩ := by
  rw [conflictAt]
  congr 1
  funext name
  rw [(holds_ofNames (names.take j) f).add_snd, format_ofNames]
  exact collision?_map_pair f id (names.take j) name

theorem second_of_conflictAt {names : List String} {f : KeyFormat} {j : Nat} {c : Conflict}
    (h : conflictAt names f j = some c) : names[j]? = some c.second := by
  rw [conflictAt_eq] at h
  obtain ⟨name, hn, hc⟩ := Option.bind_eq_some_iff.mp h
  obtain ⟨first, -, rfl⟩ := Option.map_eq_some_iff.mp hc
  exact hn

/-- Both names of a conflict have its key. -/
theorem key_of_mem_detectConflicts {names : List String} {f : KeyFormat} {c : Conflict}
    (h : c ∈ detectConflicts names f) :
    Key.ofName c.first f = c.key ∧ Key.ofName c.second f = c.key := by
  rw [detectConflicts_eq_filterMap] at h
  obtain ⟨j, -, hj⟩ := List.mem_filterMap.mp h
  rw [conflictAt_eq] at hj
  obtain ⟨name, -, hc⟩ := Option.bind_eq_some_iff.mp hj
  obtain ⟨first, hf, rfl⟩ := Option.map_eq_some_iff.mp hc
  have hfirst := List.find?_some hf
  exact ⟨of_decide_eq_true hfirst, rfl⟩

theorem isSome_conflictAt_iff {names : List String} {f : KeyFormat} {j : Nat} :
    (conflictAt names f j).isSome ↔ ∃ name, names[j]? = some name ∧
      ∃ earlier ∈ names.take j, Key.ofName earlier f = Key.ofName name f := by
  rw [conflictAt_eq]
  cases names[j]? with
  | none => simp
  | some name => simp [List.find?_isSome]

/-- Formats under which the same names have one key show the same names in conflict. -/
private theorem conflictingNames_congr {names : List String} {f g : KeyFormat}
    (h : ∀ s ∈ names, ∀ t ∈ names,
      (Key.ofName s f = Key.ofName t f ↔ Key.ofName s g = Key.ofName t g)) :
    conflictingNames names f = conflictingNames names g := by
  rw [conflictingNames, conflictingNames, detectConflicts_eq_filterMap,
    detectConflicts_eq_filterMap, List.map_filterMap, List.map_filterMap]
  apply List.filterMap_congr
  intro j _
  rw [conflictAt_eq, conflictAt_eq]
  cases hn : names[j]? with
  | none => rfl
  | some name =>
    have hfirst : (names.take j).find? (fun earlier => Key.ofName earlier f = Key.ofName name f) =
        (names.take j).find? (fun earlier => Key.ofName earlier g = Key.ofName name g) :=
      List.find?_congr fun earlier he => decide_eq_decide.mpr
        (h earlier (List.mem_of_mem_take he) name (List.mem_of_getElem? hn))
    simp only [Option.bind_some, hfirst, Option.map_map]
    rfl

/-- A format that tells fewer names apart loses no position in conflict. -/
theorem isSome_conflictAt_mono {names : List String} {f g : KeyFormat}
    (h : ∀ s ∈ names, ∀ t ∈ names, Key.ofName s f = Key.ofName t f → Key.ofName s g = Key.ofName t g)
    {j : Nat} (hj : (conflictAt names f j).isSome) : (conflictAt names g j).isSome := by
  obtain ⟨name, hn, earlier, he, hk⟩ := isSome_conflictAt_iff.mp hj
  apply isSome_conflictAt_iff.mpr
  exact ⟨name, hn, earlier, he,
    h earlier (List.mem_of_mem_take he) name (List.mem_of_getElem? hn) hk⟩

theorem isSome_conflictAt_of_isSnake {names : List String} (ha : ∀ name ∈ names, IsAscii name)
    {f : KeyFormat} (hf : f.isSnake) {j : Nat} (h : (conflictAt names f j).isSome) (g : KeyFormat) :
    (conflictAt names g j).isSome :=
  isSome_conflictAt_mono
    (fun s hs t ht hk => Key.ofName_eq_of_isSnake (ha s hs) (ha t ht) hf hk g) h

/-- Which names collide under which format. Names have one lower snake key when they have the same
words, and then they collide under all formats. Among ASCII names both snake formats show the same
names in conflict, so do camel and pascal, and these two lose no position of a snake format. -/
theorem collisions_across_formats :
    (∀ s t : String,
      (Key.ofName s .lowerSnake = Key.ofName t .lowerSnake ↔ Words.ofName s = Words.ofName t) ∧
      (Words.ofName s = Words.ofName t → ∀ f, Key.ofName s f = Key.ofName t f)) ∧
    (∀ s t : String, IsAscii s → IsAscii t →
      (Key.ofName s .upperSnake = Key.ofName t .upperSnake ↔
        Key.ofName s .lowerSnake = Key.ofName t .lowerSnake) ∧
      (Key.ofName s .pascal = Key.ofName t .pascal ↔
        Key.ofName s .camel = Key.ofName t .camel)) ∧
    (∀ names f, detectConflicts names f = (List.range names.length).filterMap (conflictAt names f) ∧
      ∀ j c, conflictAt names f j = some c → names[j]? = some c.second) ∧
    ∀ names : List String, (∀ name ∈ names, IsAscii name) →
      conflictingNames names .lowerSnake = conflictingNames names .upperSnake ∧
      conflictingNames names .camel = conflictingNames names .pascal ∧
      ∀ f, f.isSnake → ∀ j, (conflictAt names f j).isSome →
        (conflictAt names .camel j).isSome ∧ (conflictAt names .pascal j).isSome := by
  refine ⟨fun s t => ⟨Key.ofName_lowerSnake_eq_iff s t, Key.ofName_congr⟩,
    fun s t hs ht => ⟨Key.ofName_upperSnake_eq_iff hs ht, Key.ofName_pascal_eq_iff hs ht⟩,
    fun names f => ⟨detectConflicts_eq_filterMap names f, fun _ _ => second_of_conflictAt⟩,
    fun names ha => ⟨?_, ?_, fun f hf j hj => ⟨?_, ?_⟩⟩⟩
  · exact conflictingNames_congr fun s hs t ht =>
      (Key.ofName_upperSnake_eq_iff (ha s hs) (ha t ht)).symm
  · exact conflictingNames_congr fun s hs t ht =>
      (Key.ofName_pascal_eq_iff (ha s hs) (ha t ht)).symm
  · exact isSome_conflictAt_of_isSnake ha hf hj .camel
  · exact isSome_conflictAt_of_isSnake ha hf hj .pascal

/-- Two spellings of the same words: one conflict, at the second position, under every format. -/
theorem collisions_across_formats_of_two_spellings :
    let names := ["noIRegretted", "no_i_regretted"]
    (∀ name ∈ names, IsAscii name) ∧
    Words.ofName "noIRegretted" = ["no", "i", "regretted"] ∧
    Key.ofName "no_i_regretted" .camel = "noIRegretted" ∧
    Key.ofName "noIRegretted" .camel = "noIRegretted" ∧
    Key.ofName "noIRegretted" .upperSnake = Key.ofName "no_i_regretted" .upperSnake ∧
    conflictingNames names .upperSnake = [("noIRegretted", "no_i_regretted")] ∧
    (conflictAt names .camel 1).isSome ∧ (conflictAt names .pascal 1).isSome ∧
    conflictAt names .camel 1 = some ⟨"noIRegretted", "noIRegretted", "no_i_regretted"⟩ := by
  intro names
  obtain ⟨hwords, hkeys, -, hlists⟩ := collisions_across_formats
  have ha : ∀ name ∈ names, IsAscii name := by decide
  have hfirst : Words.ofName "noIRegretted" = ["no", "i", "regretted"] := by decide
  have hsame : Words.ofName "noIRegretted" = Words.ofName "no_i_regretted" := by decide
  have hpair := hkeys "noIRegretted" "no_i_regretted" (by decide) (by decide)
  have hlower := (hwords "noIRegretted" "no_i_regretted").1.mpr hsame
  have hcamel : Key.ofName "no_i_regretted" .camel = "noIRegretted" := by decide
  have hspelled := (hwords "noIRegretted" "no_i_regretted").2 hsame .camel
  obtain ⟨hsnake, -, hsecond⟩ := hlists names ha
  obtain ⟨hc, hp⟩ := hsecond .lowerSnake rfl 1 (by decide +kernel)
  refine ⟨ha, hfirst, hcamel, hspelled.trans hcamel, hpair.1.mpr hlower, ?_, hc, hp,
    by decide +kernel⟩
  rw [← hsnake]
  decide +kernel

end CaseKeys.KeyTable
