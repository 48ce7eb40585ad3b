import CaseKeys.Session
import CaseKeys.Proofs.Key.Joining
import CaseKeys.Proofs.KeyTable.Pairs

/-! The table, the log and the diagnostics of a session stay in step over whole runs, also when the
options change between additions and the table keeps the format of the start. -/
namespace CaseKeys.Session

/-- What can happen to a session: case names are added and options are assigned. -/
inductive Event where
  | add (name : String)
  | addAll (names : List String)
  | setFormat (f : KeyFormat)
  | setAllowConflicts (allow : Bool)
  deriving DecidableEq, Repr

def handle (s : Session) : Event → Session
  | .add name => (s.add name).1
  | .addAll names => s.addAll names
  | .setFormat f => { s with options := { s.options with format := f } }
  | .setAllowConflicts allow => { s with options := { s.options with allowConflicts := allow } }

/-- A new session after a run of events. -/
def run (options : Options) (events : List Event) : Session :=
  events.foldl handle (start options)

def Event.names : Event → List String
  | .add name => [name]
  | .addAll names => names
  | .setFormat _ | .setAllowConflicts _ => []

def Event.assign (options : Options) : Event → Options
  | .setFormat f => { options with format := f }
  | .setAllowConflicts allow => { options with allowConflicts := allow }
  | .add _ | .addAll _ => options

/-- A case name that was added, with the options in force at that time. -/
structure Addition where
  name : String
  options : Options
  deriving DecidableEq, Repr

/-- The additions of a run in their order. -/
def additions (options : Options) : List Event → List Addition
  | [] => []
  | e :: rest => e.names.map (⟨·, options⟩) ++ additions (e.assign options) rest

/-- What is reported about an addition, given the additions before it and the format of the table:
a warning about an invalid name, a warning about an empty key, and the conflict with the first of
the earlier names that has the key, an error unless conflicts are allowed at that time. -/
def reports (f : KeyFormat) (before : List Addition) (a : Addition) : List Diagnostic :=
  let key := Key.ofName a.name f
  (if CaseName.isValid a.name then []
    else [⟨.warning, "invalidIdentifier", "'" ++ a.name ++ "' is not a valid case name", some a.name⟩]) ++
  (if key = "" then
    [⟨.warning, "emptyKey", "Case '" ++ a.name ++ "' produces an empty localization key",
      some a.name⟩] else []) ++
  match before.find? fun b => Key.ofName b.name f = key with
  | none => []
  | some first =>
    [⟨if a.options.allowConflicts then .warning else .error, "keyConflict",
      "Cases '" ++ first.name ++ "' and '" ++ a.name ++ "' produce the same localization key '" ++
        key ++ "'", some a.name⟩]

section Logged
variable (options : Options) (log : Log) (name key : String) (conflict : Option Conflict)

theorem skipped_logged : (logged options log name key conflict).skipped =
    log.skipped ++ if key = "" then [⟨name, "empty localization key"⟩] else [] := by
  by_cases h : key = "" <;> cases conflict <;> simp [logged, h, Log.skip, Log.convert, Log.conflict]

private theorem conversions_logged : (logged options log name key conflict).conversions =
    log.conversions ++ if key = "" then [] else [⟨name, key, options.format⟩] := by
  by_cases h : key = "" <;> cases conflict <;> simp [logged, h, Log.skip, Log.convert, Log.conflict]

theorem conflicts_logged : (logged options log name key conflict).conflicts =
    log.conflicts ++ conflict.toList := by
  by_cases h : key = "" <;> cases conflict <;> simp [logged, h, Log.skip, Log.convert, Log.conflict]

end Logged

/-- The stores of a session hold what its additions say, `f` being the format of the table. -/
structure Agrees (f : KeyFormat) (as : List Addition) (s : Session) : Prop where
  format : s.table.format = f
  table : s.table.Holds (as.map fun a => KeyTable.pair f a.name)
  skipped : s.log.skipped = (as.filter fun a => Key.ofName a.name f = "").map
    fun a => ⟨a.name, "empty localization key"⟩
  conversions : s.log.conversions = (as.filter fun a => Key.ofName a.name f ≠ "").map
    fun a => ⟨a.name, Key.ofName a.name a.options.format, a.options.format⟩
  conflicts : s.log.conflicts = s.table.conflicts
  diagnostics : s.diagnostics = eachAfter (reports f) as

theorem agrees_start (options : Options) : Agrees options.format [] (start options) :=
  ⟨rfl, KeyTable.holds_empty _, rfl, rfl, rfl, rfl⟩

variable {f : KeyFormat} {as : List Addition} {s : Session}

private theorem keyOf_eq_empty_iff (s : Session) (name : String) (f : KeyFormat) :
    s.keyOf name = "" ↔ Key.ofName name f = "" := by
  rw [keyOf, Key.ofName_eq_empty_iff, Key.ofName_eq_empty_iff]

private theorem problems_eq_reports (as : List Addition) (options : Options) (name key : String)
    (f : KeyFormat) (hk : key = "" ↔ Key.ofName name f = "") :
    problems options name key
      (KeyTable.collision? (as.map fun a => KeyTable.pair f a.name) (KeyTable.pair f name)) =
        reports f as ⟨name, options⟩ := by
  rw [KeyTable.collision?_map_pair]
  simp only [problems, reports, hk]
  cases as.find? fun b => Key.ofName b.name f = Key.ofName name f with
  | none => rfl
  | some first => cases options.allowConflicts <;> rfl

/-- One addition keeps the stores in step. -/
theorem Agrees.add (h : Agrees f as s) (name : String) :
    Agrees f (as ++ [⟨name, s.options⟩]) (s.add name).1 := by
  -- the log and the problems test the key of the options for emptiness, the stores that of `f`
  have hk := keyOf_eq_empty_iff s name f
  have hc := h.table.add_snd name
  have ht := h.table.add name
  rw [h.format] at hc ht
  refine ⟨(KeyTable.format_add s.table name).trans h.format, by simpa [Session.add] using ht,
    ?_, ?_, ?_, ?_⟩
  · simp only [Session.add, skipped_logged, h.skipped, hk]
    by_cases he : Key.ofName name f = "" <;> simp [he]
  · simp only [Session.add, conversions_logged, h.conversions, hk]
    by_cases he : Key.ofName name f = "" <;> simp [he, keyOf]
  · simp only [Session.add, conflicts_logged, h.conflicts, h.table.conflicts, ht.conflicts,
      KeyTable.collisions_concat, hc]
  · simp only [Session.add, h.diagnostics, eachAfter_concat, hc]
    rw [problems_eq_reports as s.options name (s.keyOf name) f hk]

theorem log_add (s : Session) (name : String) : (s.add name).1.log =
    logged s.options s.log name (s.keyOf name) (s.table.add name).2 := rfl

@[simp] theorem options_add (s : Session) (name : String) : (s.add name).1.options = s.options := rfl

@[simp] theorem options_addAll (s : Session) (names : List String) :
    (s.addAll names).options = s.options := by
  induction names generalizing s with
  | nil => rfl
  | cons name rest ih => exact ih (s.add name).1

theorem Agrees.addAll (h : Agrees f as s) (names : List String) :
    Agrees f (as ++ names.map (⟨·, s.options⟩)) (s.addAll names) := by
  induction names generalizing as s with
  | nil => simpa [Session.addAll] using h
  | cons name rest ih =>
    have hr := ih (h.add name)
    rwa [options_add, List.append_assoc] at hr

private theorem Agrees.handle (h : Agrees f as s) (e : Event) :
    Agrees f (as ++ e.names.map (⟨·, s.options⟩)) (s.handle e) := by
  cases e with
  | add name => exact h.add name
  | addAll names => exact h.addAll names
  | setFormat g =>
    rw [Event.names, List.map_nil, List.append_nil]
    exact ⟨h.format, h.table, h.skipped, h.conversions, h.conflicts, h.diagnostics⟩
  | setAllowConflicts allow =>
    rw [Event.names, List.map_nil, List.append_nil]
    exact ⟨h.format, h.table, h.skipped, h.conversions, h.conflicts, h.diagnostics⟩

private theorem options_handle (s : Session) (e : Event) :
    (s.handle e).options = e.assign s.options := by
  cases e with
  | addAll names => exact options_addAll s names
  | add _ | setFormat _ | setAllowConflicts _ => rfl

theorem options_run (options : Options) (events : List Event) :
    (run options events).options = events.foldl Event.assign options := by
  induction events using List.reverseRecOn with
  | nil => rfl
  | append_singleton events e ih =>
    rw [run, List.foldl_concat, List.foldl_concat, ← run, options_handle, ih]

theorem Agrees.run (h : Agrees f as s) (events : List Event) :
    Agrees f (as ++ additions s.options events) (events.foldl Session.handle s) := by
  induction events generalizing as s with
  | nil => simpa [additions] using h
  | cons e rest ih =>
    have hr := ih (h.handle e)
    rwa [options_handle, List.append_assoc] at hr

/-- After every run of additions and assignments of options: the entries are the added names with
their keys under the first format; a name is skipped exactly when that key is empty, and converted
under the format in force otherwise; both lists of conflicts are the same; and the diagnostics are,
name after name, what each addition gives rise to. The next addition returns the key under the format
in force, and that key is what is converted. -/
theorem run_stores_agree (options : Options) (events : List Event) :
    let s := run options events
    let as := additions options events
    let f := options.format
    s.table.entries = as.map (fun a => (a.name, Key.ofName a.name f)) ∧
    s.log.skipped = (as.filter fun a => Key.ofName a.name f = "").map
      (fun a => ⟨a.name, "empty localization key"⟩) ∧
    s.log.conversions = (as.filter fun a => Key.ofName a.name f ≠ "").map
      (fun a => ⟨a.name, Key.ofName a.name a.options.format, a.options.format⟩) ∧
    (∀ name g, Key.ofName name f = "" ↔ Key.ofName name g = "") ∧
    s.log.conflicts = s.table.conflicts ∧
    s.diagnostics = eachAfter (reports f) as ∧
    s.options = events.foldl Event.assign options ∧
    ∀ name, let (s', key) := s.add name
      s' = run options (events ++ [.add name]) ∧
      key = Key.ofName name s.options.format ∧
      s'.log.skipped = s.log.skipped ++
        (if key = "" then [⟨name, "empty localization key"⟩] else []) ∧
      s'.log.conversions = s.log.conversions ++
        if key = "" then [] else [⟨name, key, s.options.format⟩] := by
  intro s as f
  have h : Agrees f as s := (agrees_start options).run events
  refine ⟨h.table.entries, h.skipped, h.conversions, fun name g => ?_, h.conflicts, h.diagnostics,
    options_run options events, fun name => ⟨?_, rfl, skipped_logged .., conversions_logged ..⟩⟩
  · rw [Key.ofName_eq_empty_iff, Key.ofName_eq_empty_iff]
  · rw [run, List.foldl_concat]
    rfl

end CaseKeys.Session
