import CaseKeys.Log
import CaseKeys.Proofs.EachAfter
import Mathlib.Algebra.BigOperators.Group.List.Lemmas
import Mathlib.Algebra.GroupWithZero.Nat
import Mathlib.Data.Finset.Card
import Mathlib.Data.List.DropRight

/-! What the totals of a summary count, after any sequence of records and clearings: the records of each
kind behind the last clearing, the formats in use, and the keys that differ. -/
namespace CaseKeys.Log

/-- What can be done to a log. -/
inductive Change where
  | convert (c : Conversion)
  | skip (s : Skip)
  | conflict (c : Conflict)
  | warn (message : String)
  | clear
  deriving DecidableEq, Repr

namespace Change

def conversion? : Change → Option Conversion
  | convert c => some c
  | skip _ | conflict _ | warn _ | clear => none

def skip? : Change → Option Skip
  | skip s => some s
  | convert _ | conflict _ | warn _ | clear => none

def conflict? : Change → Option Conflict
  | conflict c => some c
  | convert _ | skip _ | warn _ | clear => none

/-- A warning that is given for itself. -/
def message? : Change → Option String
  | warn message => some message
  | convert _ | skip _ | conflict _ | clear => none

/-- The warning that a change leaves, its own or that of the skip or conflict. -/
def warning? : Change → Option String
  | skip s => some (skipWarning s)
  | conflict c => some (conflictWarning c)
  | warn message => some message
  | convert _ | clear => none

end Change

def change (l : Log) : Change → Log
  | .convert c => l.convert c
  | .skip s => l.skip s
  | .conflict c => l.conflict c
  | .warn message => l.warn message
  | .clear => l.clear

/-- A new log after a run of changes. -/
def run (verbose : Bool) (changes : List Change) : Log :=
  changes.foldl change { verbose := verbose }

/-- The changes behind the last clearing. -/
def recent (changes : List Change) : List Change :=
  changes.rtakeWhile (· ≠ .clear)

private theorem recent_concat (changes : List Change) (c : Change) :
    recent (changes ++ [c]) = if c = .clear then [] else recent changes ++ [c] := by
  rw [recent, List.rtakeWhile_concat]
  by_cases h : c = .clear
  · simp [h]
  · simp [h, recent]

/-- The lists of a log hold what the changes say, each kind in order. -/
structure Records (l : Log) (changes : List Change) : Prop where
  conversions : l.conversions = changes.filterMap Change.conversion?
  skipped : l.skipped = changes.filterMap Change.skip?
  conflicts : l.conflicts = changes.filterMap Change.conflict?
  warnings : l.warnings = changes.filterMap Change.warning?

private theorem records_new (verbose : Bool) : Records { verbose := verbose } [] :=
  ⟨rfl, rfl, rfl, rfl⟩

/-- A change that clears nothing adds its own record to what is recorded. -/
theorem Records.change {l : Log} {changes : List Change} (h : Records l changes) {c : Change}
    (hc : c ≠ .clear) : Records (l.change c) (changes ++ [c]) := by
  obtain ⟨hconversions, hskipped, hconflicts, hwarnings⟩ := h
  cases c with
  | clear => exact absurd rfl hc
  | convert r | skip r | conflict r | warn r =>
    constructor <;> simp [Log.change, Log.convert, Log.skip, Log.conflict, Log.warn, Change.conversion?,
      Change.skip?, Change.conflict?, Change.warning?, hconversions, hskipped, hconflicts, hwarnings]

theorem run_records (verbose : Bool) (changes : List Change) :
    Records (run verbose changes) (recent changes) := by
  induction changes using List.reverseRecOn with
  | nil => exact records_new verbose
  | append_singleton changes c ih =>
    rw [run, List.foldl_concat, ← run, recent_concat]
    by_cases hc : c = .clear
    · rw [if_pos hc, hc]
      exact records_new _
    · rw [if_neg hc]
      exact ih.change hc

/-- Skips and conflicts warn once each. -/
theorem length_warnings (changes : List Change) :
    (changes.filterMap Change.warning?).length = (changes.filterMap Change.skip?).length +
      (changes.filterMap Change.conflict?).length + (changes.filterMap Change.message?).length := by
  induction changes with
  | nil => rfl
  | cons c rest ih =>
    cases c with
    | convert r | clear => exact ih
    | skip r | conflict r | warn r =>
      simp only [List.filterMap_cons, Change.warning?, Change.skip?, Change.conflict?,
        Change.message?, List.length_cons, ih]
      omega

/-- One more use of `f` in a table of formats that are listed once. -/
private theorem countUse_map {formats : List KeyFormat} (h : formats.Nodup) (n : KeyFormat → Nat)
    (f : KeyFormat) : countUse f (formats.map fun g => (g, n g)) =
      (formats.map fun g => (g, if g = f then n g + 1 else n g)) ++
        if f ∈ formats then [] else [(f, 1)] := by
  induction formats with
  | nil => simp [countUse]
  | cons g rest ih =>
    obtain ⟨hg, hrest⟩ := List.nodup_cons.mp h
    by_cases hf : g = f
    · subst hf
      have hkept : rest.map (fun k => (k, if k = g then n k + 1 else n k)) =
          rest.map fun k => (k, n k) := by
        apply List.map_congr_left
        intro k hk
        have hkg : k ≠ g := ne_of_mem_of_not_mem hk hg
        rw [if_neg hkg]
      simp [countUse, hkept]
    · simp [countUse, hf, Ne.symm hf, ih hrest]

private theorem foldl_countUse (formats : List KeyFormat) :
    formats.foldl (fun counts f => countUse f counts) [] =
      formats.eraseDups.map fun f => (f, formats.count f) := by
  induction formats using List.reverseRecOn with
  | nil => rfl
  | append_singleton formats f ih =>
    rw [List.foldl_concat, ih, countUse_map (nodup_eraseDups formats), eraseDups_concat,
      List.map_append]
    congr 1
    · apply List.map_congr_left
      intro g _
      by_cases hg : g = f
      · simp [hg]
      · simp [hg, Ne.symm hg]
    · by_cases hf : f ∈ formats
      · simp [hf]
      · simp [hf, List.count_eq_zero.mpr hf]

section Totals
variable (l : Log)

private theorem byFormat_eq : l.byFormat = (l.conversions.map (·.format)).eraseDups.map
    fun f => (f, (l.conversions.map (·.format)).count f) := by
  rw [byFormat, ← foldl_countUse, List.foldl_map]

theorem map_fst_byFormat :
    l.byFormat.map (·.1) = (l.conversions.map (·.format)).eraseDups := by
  rw [byFormat_eq, List.map_map]
  exact List.map_id _

/-- A format is listed when it is in use, with the number of its conversions. -/
theorem mem_byFormat_iff {f : KeyFormat} {n : Nat} :
    (f, n) ∈ l.byFormat ↔ 0 < n ∧ n = (l.conversions.map (·.format)).count f := by
  rw [byFormat_eq, List.mem_map]
  constructor
  · rintro ⟨g, hg, hp⟩
    obtain ⟨rfl, rfl⟩ := Prod.mk.inj hp
    exact ⟨List.count_pos_iff.mpr (List.mem_eraseDups.mp hg), rfl⟩
  · rintro ⟨hpos, rfl⟩
    exact ⟨f, List.mem_eraseDups.mpr (List.count_pos_iff.mp hpos), rfl⟩

/-- Every conversion is counted under one format. -/
theorem sum_byFormat : (l.byFormat.map (·.2)).sum = l.conversions.length := by
  rw [byFormat_eq, List.map_map, ← List.length_map (·.format)]
  generalize l.conversions.map (·.format) = formats
  exact ((eraseDups_perm_dedup formats).map _).sum_eq.trans
    (List.sum_map_count_dedup_eq_length formats)

theorem distinctKeys_eq_card : l.distinctKeys = (l.conversions.map (·.key)).toFinset.card := by
  rw [distinctKeys, List.card_toFinset, (eraseDups_perm_dedup _).length_eq]

theorem distinctKeys_le : l.distinctKeys ≤ l.conversions.length := by
  rw [distinctKeys_eq_card, ← List.length_map (·.key)]
  exact List.toFinset_card_le _

theorem distinctKeys_eq_zero_iff : l.distinctKeys = 0 ↔ l.conversions.length = 0 := by
  rw [distinctKeys_eq_card, Finset.card_eq_zero, List.toFinset_eq_empty_iff, List.map_eq_nil_iff,
    List.length_eq_zero_iff]

end Totals

/-- The summary of a log after any run of records and clearings counts the records since the last
clearing. Skips and conflicts are warnings too. Every format in use is listed once, in the order of first
use, with the number of its conversions, and a key that is logged again is no further key. -/
theorem summary_of_run (verbose : Bool) (changes : List Change) :
    let m := (run verbose changes).summary
    let conversions := (recent changes).filterMap Change.conversion?
    let formats := conversions.map (·.format)
    m.conversions = (recent changes).countP (·.conversion?.isSome) ∧
    m.skipped = (recent changes).countP (·.skip?.isSome) ∧
    m.conflicts = (recent changes).countP (·.conflict?.isSome) ∧
    m.warnings = m.skipped + m.conflicts + (recent changes).countP (·.message?.isSome) ∧
    m.byFormat = formats.eraseDups.map (fun f => (f, formats.count f)) ∧
    (m.byFormat.map (·.1)).Nodup ∧
    (∀ f n, (f, n) ∈ m.byFormat ↔ 0 < n ∧ n = formats.count f) ∧
    (m.byFormat.map (·.2)).sum = m.conversions ∧
    m.distinctKeys = (conversions.map (·.key)).toFinset.card ∧
    m.distinctKeys ≤ m.conversions ∧
    (m.distinctKeys = 0 ↔ m.conversions = 0) := by
  intro m conversions formats
  have h := run_records verbose changes
  have hlog : (run verbose changes).conversions = conversions := h.conversions
  have hskipped : m.skipped = ((recent changes).filterMap Change.skip?).length :=
    congrArg List.length h.skipped
  have hconflicts : m.conflicts = ((recent changes).filterMap Change.conflict?).length :=
    congrArg List.length h.conflicts
  have hwarnings : m.warnings = ((recent changes).filterMap Change.warning?).length :=
    congrArg List.length h.warnings
  have hformats : (run verbose changes).conversions.map (·.format) = formats := by
    rw [hlog]
  refine ⟨?_, ?_, ?_, ?_, ?_, ?_, ?_, sum_byFormat _, ?_, distinctKeys_le _,
    distinctKeys_eq_zero_iff _⟩
  · rw [← List.length_filterMap_eq_countP]
    exact congrArg List.length hlog
  · rw [hskipped, List.length_filterMap_eq_countP]
  · rw [hconflicts, List.length_filterMap_eq_countP]
  · rw [hwarnings, hskipped, hconflicts, length_warnings,
      List.length_filterMap_eq_countP (f := Change.message?)]
  · rw [← hformats]
    exact byFormat_eq _
  · have hlisted : m.byFormat.map (·.1) = formats.eraseDups := by
      rw [← hformats]
      exact map_fst_byFormat _
    rw [hlisted]
    exact nodup_eraseDups formats
  · intro f n
    rw [← hformats]
    exact mem_byFormat_iff _
  · rw [← hlog]
    exact distinctKeys_eq_card _

/-- A clearing, two formats, a key that is logged under both, and a warning besides the conflict. -/
example : (run false [.warn "x", .clear, .convert ⟨"ab", "ab", .camel⟩, .convert ⟨"Ab", "ab", .lowerSnake⟩,
    .conflict ⟨"ab", "ab", "Ab"⟩, .convert ⟨"c", "c", .camel⟩, .warn "y"]).summary =
      ⟨3, [(.camel, 2), (.lowerSnake, 1)], 2, 0, 1, 2⟩ := by decide

end CaseKeys.Log
