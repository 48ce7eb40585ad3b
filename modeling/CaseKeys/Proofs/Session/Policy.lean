import CaseKeys.Session
import Mathlib.Data.List.Basic

/-! What the options of a session change apart from its format: the severity of its conflicts and
whether its log lists conversions. The table and the records of the log are the same. -/
namespace CaseKeys

/-- A problem under a policy on conflicts: a conflict is a warning where conflicts are allowed and
an error elsewhere, and other problems stay what they are. -/
def Diagnostic.graded (allow : Bool) (d : Diagnostic) : Diagnostic :=
  if d.name = "keyConflict" then d.withSeverity (if allow then .warning else .error) else d

private theorem Diagnostic.graded_of_ne {allow : Bool} {d : Diagnostic}
    (h : d.name ≠ "keyConflict") :
    d.graded allow = d :=
  if_neg h

@[simp] theorem Diagnostic.graded_graded (allow before : Bool) (d : Diagnostic) :
    (d.graded before).graded allow = d.graded allow := by
  by_cases h : d.name = "keyConflict" <;> simp [graded, h, withSeverity]

namespace Session

/-- A session as it is under other options with the same format. -/
def under (options : Options) (s : Session) : Session :=
  ⟨options, s.table, { s.log with verbose := options.verbose },
    s.diagnostics.map (Diagnostic.graded options.allowConflicts)⟩

/-- The problems of a name and its key by themselves. -/
def notices (name key : String) : List Diagnostic :=
  (if CaseName.isValid name then [] else [.invalidName name]) ++
  if key = "" then [.emptyKey name] else []

private theorem mem_notices {name key : String} {d : Diagnostic} (h : d ∈ notices name key) :
    d.severity = .warning ∧ d.name ≠ "keyConflict" := by
  rw [notices, List.mem_append] at h
  rcases h with h | h
  · split at h
    · cases h
    · rw [List.mem_singleton.mp h]
      exact ⟨rfl, by simp [Diagnostic.invalidName]⟩
  · split at h
    · rw [List.mem_singleton.mp h]
      exact ⟨rfl, by simp [Diagnostic.emptyKey]⟩
    · cases h

theorem problems_eq (options : Options) (name key : String) (conflict : Option Conflict) :
    problems options name key conflict = notices name key ++
      conflict.toList.map fun c => (Diagnostic.keyConflict c).graded options.allowConflicts := by
  cases conflict with
  | none => rfl
  | some c => cases h : options.allowConflicts <;> simp only [problems, notices, h] <;> rfl

private theorem problems_under (before options : Options) (name key : String)
    (conflict : Option Conflict) :
    (problems before name key conflict).map (Diagnostic.graded options.allowConflicts) =
      problems options name key conflict := by
  have hn : (notices name key).map (Diagnostic.graded options.allowConflicts) = notices name key := by
    conv_rhs => rw [← List.map_id (notices name key)]
    exact List.map_congr_left fun d hd => Diagnostic.graded_of_ne (mem_notices hd).2
  rw [problems_eq, problems_eq, List.map_append, hn, List.map_map]
  simp only [Function.comp_def, Diagnostic.graded_graded]

/-- Only a conflict that is not allowed makes an addition fail. -/
theorem any_isError_problems (options : Options) (name key : String) (conflict : Option Conflict) :
    (problems options name key conflict).any Diagnostic.isError =
      (!options.allowConflicts && conflict.isSome) := by
  have hn : (notices name key).any Diagnostic.isError = false := by
    apply List.any_eq_false.mpr
    intro d hd
    rw [Diagnostic.isError, (mem_notices hd).1]
    decide
  rw [problems_eq, List.any_append, hn]
  cases conflict with
  | none => cases options.allowConflicts <;> rfl
  | some c => cases options.allowConflicts <;> rfl

private theorem logged_under {before options : Options} (h : before.format = options.format)
    (log : Log) (name key : String) (conflict : Option Conflict) :
    { logged before log name key conflict with verbose := options.verbose } =
      logged options { log with verbose := options.verbose } name key conflict := by
  by_cases hk : key = "" <;> cases conflict <;>
    simp [logged, hk, h, Log.skip, Log.convert, Log.conflict]

theorem add_under {s : Session} {options : Options} (h : s.options.format = options.format)
    (name : String) : (s.add name).1.under options = ((s.under options).add name).1 := by
  have hk : (s.under options).keyOf name = s.keyOf name := by rw [keyOf, keyOf, h]; rfl
  simp only [under, Session.add, List.map_append, problems_under, logged_under h] at hk ⊢
  rw [hk]

theorem addAll_under {s : Session} {options : Options} (h : s.options.format = options.format)
    (names : List String) : (s.addAll names).under options = (s.under options).addAll names := by
  induction names generalizing s with
  | nil => rfl
  | cons name rest ih =>
    have hr : ((s.add name).1.addAll rest).under options =
        ((s.add name).1.under options).addAll rest := ih h
    rwa [add_under h] at hr

/-- Sessions of the same names under options with one format are one session under both. -/
theorem generate_under {before options : Options} (h : before.format = options.format)
    (names : List String) : (generate names before).under options = generate names options := by
  have hs : (start before).under options = start options := by rw [start, start, h]; rfl
  rw [generate, addAll_under h, hs, generate]

end Session
end CaseKeys
