import CaseKeys.Proofs.CommandLine.Status

/-! The reporting flags of the command. Two command lines with one input and one format generate
the same keys, and each flag changes the part of the outcome that it is about and nothing else. -/
namespace CaseKeys.CommandLine.Outcome

/-- A printed diagnostic, where `start` stands in front of every key conflict. -/
def announced (start : String) (d : Diagnostic) : String :=
  line (if d.name = "keyConflict" then start ++ d.message else d.format)

/-- The printed diagnostics of a list, in order. -/
def announcements (start : String) (diagnostics : List Diagnostic) : String :=
  String.join (diagnostics.map (announced start))

def conflictStart (allow : Bool) : String :=
  if allow then "warning: " else "error: "

private theorem line_format_graded (allow : Bool) (d : Diagnostic) :
    line (d.graded allow).format = announced (conflictStart allow) d := by
  by_cases h : d.name = "keyConflict"
  · rw [Diagnostic.graded, announced, if_pos h, if_pos h]
    cases allow <;> rfl
  · rw [Diagnostic.graded, announced, if_neg h, if_neg h]

/-- What follows the diagnostics on the error stream: the summary where it is asked for. -/
def closing (i : Invocation) (s : Session) : String :=
  if i.verbose then line s.log.printed else ""

section
variable {i j : Invocation} (h : i.format = j.format) (names : List String)
include h

/-- The session of a command line, seen from another one with the same format. -/
private theorem generate_eq_under : Session.generate names j.options =
    (Session.generate names i.options).under j.options :=
  have ho : i.options.format = j.options.format := h
  (Session.generate_under ho names).symm

private theorem report_congr (hj : i.json = j.json) :
    report i (Session.generate names i.options) = report j (Session.generate names j.options) := by
  have ho : i.options.format = j.options.format := h
  rw [generate_eq_under h names, report, report, hj, Report.json, Report.json, Report.content,
    Report.content, Session.options_generate, ho]
  rfl

private theorem table_congr :
    (Session.generate names j.options).table = (Session.generate names i.options).table := by
  rw [generate_eq_under h names]
  rfl

private theorem log_generate : (Session.generate names j.options).log =
    { (Session.generate names i.options).log with verbose := j.verbose } := by
  rw [generate_eq_under h names]
  rfl

private theorem log_congr (hv : i.verbose = j.verbose) :
    (Session.generate names i.options).log = (Session.generate names j.options).log :=
  calc (Session.generate names i.options).log
      = { (Session.generate names i.options).log with verbose := i.verbose } := log_generate rfl names
    _ = { (Session.generate names i.options).log with verbose := j.verbose } := by rw [hv]
    _ = (Session.generate names j.options).log := (log_generate h names).symm

private theorem closing_congr (hv : i.verbose = j.verbose) :
    closing i (Session.generate names i.options) = closing j (Session.generate names j.options) := by
  rw [closing, closing, hv, log_congr h names hv]

theorem errors_ofNames_ok : (ofNames j (.ok names)).errors =
    announcements (conflictStart j.allowConflicts) (Session.generate names i.options).diagnostics ++
      closing j (Session.generate names j.options) := by
  have hd : (Session.generate names j.options).diagnostics.map (fun d => line d.format) =
      (Session.generate names i.options).diagnostics.map (announced (conflictStart j.allowConflicts)) := by
    rw [generate_eq_under h names, Session.under, List.map_map]
    exact List.map_congr_left fun d _ => line_format_graded j.allowConflicts d
  rw [ofNames, ofSession, commentary, hd]
  rfl

theorem output_ofNames (hj : i.json = j.json)
    (loaded : Except Source.LoadError (List String)) :
    (ofNames i loaded).output = (ofNames j loaded).output := by
  cases loaded with
  | error e => rfl
  | ok names => rw [ofNames, ofNames, ofSession, ofSession, report_congr h names hj]

private theorem status_ofNames_congr (ha : i.allowConflicts = j.allowConflicts)
    (loaded : Except Source.LoadError (List String)) :
    (ofNames i loaded).status = (ofNames j loaded).status := by
  cases loaded with
  | error e => rfl
  | ok names =>
    have hi := hasErrors_generate_iff i names
    rw [ha, h, ← hasErrors_generate_iff j names] at hi
    rw [ofNames, ofNames, status_ofSession, status_ofSession]
    exact if_congr hi rfl rfl

private theorem errors_ofNames_congr (hinput : i.input = j.input)
    (ha : i.allowConflicts = j.allowConflicts)
    (hv : i.verbose = j.verbose) (loaded : Except Source.LoadError (List String)) :
    (ofNames i loaded).errors = (ofNames j loaded).errors := by
  cases loaded with
  | error e => rw [ofNames, ofNames, hinput]
  | ok names =>
    rw [errors_ofNames_ok (rfl : i.format = i.format), errors_ofNames_ok h, ha,
      closing_congr h names hv]

/-- Asking for the summary puts it behind what is printed without it. -/
theorem ofNames_verbose (hj : i.json = j.json) (ha : i.allowConflicts = j.allowConflicts)
    (hi : i.verbose = false) (hv : j.verbose = true) :
    ofNames j (.ok names) =
      ⟨(ofNames i (.ok names)).status, (ofNames i (.ok names)).output,
        (ofNames i (.ok names)).errors ++ line (Session.generate names j.options).log.printed⟩ := by
  have hci : closing i (Session.generate names i.options) = "" := by
    rw [closing, hi, if_neg Bool.false_ne_true]
  have hcj : closing j (Session.generate names j.options) =
      line (Session.generate names j.options).log.printed := by rw [closing, if_pos hv]
  have he : (ofNames j (.ok names)).errors =
      (ofNames i (.ok names)).errors ++ line (Session.generate names j.options).log.printed := by
    rw [errors_ofNames_ok h, errors_ofNames_ok (rfl : i.format = i.format), ha, hci, hcj,
      String.append_empty]
  rw [status_ofNames_congr h ha, output_ofNames h hj, ← he]

/-- Allowing conflicts announces the same ones in another way. -/
theorem errors_ofNames_allowed (hv : i.verbose = j.verbose) (hi : i.allowConflicts = false)
    (hj : j.allowConflicts = true) :
    let s := Session.generate names i.options
    (ofNames i (.ok names)).errors = announcements "error: " s.diagnostics ++ closing i s ∧
      (ofNames j (.ok names)).errors = announcements "warning: " s.diagnostics ++ closing i s := by
  intro s
  constructor
  · rw [errors_ofNames_ok (rfl : i.format = i.format), hi]
    rfl
  · rw [errors_ofNames_ok h, hj, ← closing_congr h names hv]
    rfl

end

theorem status_ofNames_allowed {i : Invocation} (ha : i.allowConflicts = true)
    (names : List String) : (ofNames i (.ok names)).status = 0 := by
  have hn : ¬ (Session.generate names i.options).hasErrors := by
    intro he
    have hf := ((hasErrors_generate_iff i names).mp he).1
    rw [ha] at hf
    cases hf
  rw [ofNames, status_ofSession, if_neg hn]

/-- Two command lines with one input and one format that are accepted under one set of rules, whatever
the system answers when the input is read. What is printed as the result depends on `--json` alone, and nothing else depends on
`--json`. The summary is added behind everything else. Where conflicts are allowed the same ones are
announced, as warnings, and the run does not fail. -/
theorem flags_do_not_interfere {rules : Rules} {texts texts' : List String} {i i' : Invocation}
    (h : Invocation.ofArguments rules texts = .ok i)
    (h' : Invocation.ofArguments rules texts' = .ok i')
    (hinput : i.input = i'.input) (hformat : i.format = i'.format) :
    let given := Argument.Given texts
    let given' := Argument.Given texts'
    (∀ texts inputs, ofArguments rules texts inputs =
      ofLoading rules (Source.loadNames inputs) texts) ∧
    ∀ load : Option Source.Path → Except Source.LoadError (List String),
      let o := ofLoading rules load texts
      let o' := ofLoading rules load texts'
      ((given .json ↔ given' .json) → o.output = o'.output) ∧
      ((given .allowConflicts ↔ given' .allowConflicts) → (given .verbose ↔ given' .verbose) →
        o.errors = o'.errors ∧ o.status = o'.status) ∧
      ((given .json ↔ given' .json) → (given .allowConflicts ↔ given' .allowConflicts) →
        ¬ given .verbose → given' .verbose → ∀ names, load i.input = .ok names →
          o' = ⟨o.status, o.output,
            o.errors ++ ((Session.generate names i'.options).log.printed ++ "\n")⟩) ∧
      ((given .json ↔ given' .json) → (given .verbose ↔ given' .verbose) →
        ¬ given .allowConflicts → given' .allowConflicts →
          (∀ e, load i.input = .error e → o' = o) ∧
          ∀ names, load i.input = .ok names →
            let s := Session.generate names i.options
            let s' := Session.generate names i'.options
            s'.table = s.table ∧ s'.log = s.log ∧
            o.errors = announcements "error: " s.diagnostics ++ closing i s ∧
            o'.errors = announcements "warning: " s.diagnostics ++ closing i s ∧
            o'.output = o.output ∧ o'.status = 0) := by
  intro given given'
  refine ⟨ofArguments_eq_ofLoading rules, fun load => ?_⟩
  intro o o'
  have ho : o = ofNames i (load i.input) := ofLoading_of_accepted h load
  have ho' : o' = ofNames i' (load i.input) := by
    rw [hinput]
    exact ofLoading_of_accepted h' load
  -- what the texts give is what the two invocations hold
  have json : (given .json ↔ given' .json) → i.json = i'.json :=
    (Invocation.isSet_eq_iff_given h h' .json rfl).mpr
  have allow : (given .allowConflicts ↔ given' .allowConflicts) →
      i.allowConflicts = i'.allowConflicts :=
    (Invocation.isSet_eq_iff_given h h' .allowConflicts rfl).mpr
  have verbose : (given .verbose ↔ given' .verbose) → i.verbose = i'.verbose :=
    (Invocation.isSet_eq_iff_given h h' .verbose rfl).mpr
  have unset : ∀ s, s.isFlag → ¬ given s → i.isSet s = false := fun s hs hn =>
    Bool.eq_false_iff.mpr (mt (Invocation.isSet_iff_given h hs).mp hn)
  have set : ∀ s, s.isFlag → given' s → i'.isSet s = true := fun s hs hg =>
    (Invocation.isSet_iff_given h' hs).mpr hg
  have hout : (given .json ↔ given' .json) → o.output = o'.output := fun hj => by
    rw [ho, ho']
    exact output_ofNames hformat (json hj) _
  refine ⟨hout, fun ha hv => ?_, fun hj ha hi hi' names hl => ?_, fun hj hv hi hi' => ⟨fun e hl => ?_,
    fun names hl => ?_⟩⟩
  · rw [ho, ho']
    exact ⟨errors_ofNames_congr hformat hinput (allow ha) (verbose hv) _,
      status_ofNames_congr hformat (allow ha) _⟩
  · rw [ho, ho', hl]
    exact ofNames_verbose hformat names (json hj) (allow ha) (unset .verbose rfl hi)
      (set .verbose rfl hi')
  · rw [ho, ho', hl, ofNames, ofNames, hinput]
  · have ha' := set .allowConflicts rfl hi'
    obtain ⟨he, he'⟩ := errors_ofNames_allowed hformat names (verbose hv)
      (unset .allowConflicts rfl hi) ha'
    refine ⟨table_congr hformat names, (log_congr hformat names (verbose hv)).symm, ?_, ?_,
      (hout hj).symm, ?_⟩
    · rw [ho, hl]
      exact he
    · rw [ho', hl]
      exact he'
    · rw [ho', hl]
      exact status_ofNames_allowed ha' names

/-- One list with a conflict, without flags and with each of them. -/
theorem flags_do_not_interfere_of_each :
    let plain : Invocation := { format := .camel }
    let names := ["a", "A", "b_c"]
    let run := ofLoading .current fun _ => .ok names
    let keys := "a = a\nA = a\nb_c = bC\n"
    let conflict := "Cases 'a' and 'A' produce the same localization key 'a'\n"
    let summary := "=== Localization Key Summary ===\nTotal conversions: 3\nDistinct keys: 2\n\n" ++
      "Conversions by format:\n  camelCase: 3\n\nConversions:\n  a → a\n  A → a\n  b_c → bC\n\n" ++
      "Skipped: 0\nConflicts: 1\n  Conflict: 'a' vs 'A' → a\n\nWarnings: 1\nWarning details:\n" ++
      "  Key conflict for 'a': 'a' vs 'A'"
    Invocation.ofArguments .current ["-fcamelCase"] = .ok plain ∧
    Invocation.ofArguments .current ["--json", "-f", "camelCase"] = .ok { plain with json := true } ∧
    Invocation.ofArguments .current ["-vf=camelCase"] = .ok { plain with verbose := true } ∧
    Invocation.ofArguments .current ["--allow-c", "-f=camelCase"] =
      .ok { plain with allowConflicts := true } ∧
    run ["-fcamelCase"] = ⟨1, keys, "error: " ++ conflict⟩ ∧
    (run ["--json", "-f", "camelCase"]).status = 1 ∧
    (run ["--json", "-f", "camelCase"]).errors = "error: " ++ conflict ∧
    run ["-vf=camelCase"] = ⟨1, keys, "error: " ++ conflict ++ (summary ++ "\n")⟩ ∧
    run ["--allow-c", "-f=camelCase"] = ⟨0, keys, "warning: " ++ conflict⟩ := by
  intro plain names run keys conflict summary
  have h : Invocation.ofArguments .current ["-fcamelCase"] = .ok plain := by decide +kernel
  have hjson : Invocation.ofArguments .current ["--json", "-f", "camelCase"] =
      .ok { plain with json := true } := by decide +kernel
  have hverbose : Invocation.ofArguments .current ["-vf=camelCase"] =
      .ok { plain with verbose := true } := by decide +kernel
  have hallow : Invocation.ofArguments .current ["--allow-c", "-f=camelCase"] =
      .ok { plain with allowConflicts := true } := by decide +kernel
  have ho : run ["-fcamelCase"] = ⟨1, keys, "error: " ++ conflict⟩ := by decide +kernel
  obtain ⟨-, hj⟩ := flags_do_not_interfere h hjson rfl rfl
  obtain ⟨-, hv⟩ := flags_do_not_interfere h hverbose rfl rfl
  obtain ⟨-, ha⟩ := flags_do_not_interfere h hallow rfl rfl
  obtain ⟨herrors, hstatus⟩ := (hj fun _ => .ok names).2.1
    ((Invocation.isSet_eq_iff_given h hjson .allowConflicts rfl).mp rfl)
    ((Invocation.isSet_eq_iff_given h hjson .verbose rfl).mp rfl)
  have hkeys : (run ["-fcamelCase"]).output = keys := congrArg Outcome.output ho
  refine ⟨h, hjson, hverbose, hallow, ho, ?_, ?_, ?_, ?_⟩
  · exact hstatus.symm.trans (congrArg Outcome.status ho)
  · exact herrors.symm.trans (congrArg Outcome.errors ho)
  · have hnot : ¬ Argument.Given ["-fcamelCase"] .verbose :=
      mt (Invocation.isSet_iff_given h rfl).mpr Bool.false_ne_true
    have hgiven : Argument.Given ["-vf=camelCase"] .verbose :=
      (Invocation.isSet_iff_given hverbose rfl).mp rfl
    have hadded := (hv fun _ => .ok names).2.2.1
      ((Invocation.isSet_eq_iff_given h hverbose .json rfl).mp rfl)
      ((Invocation.isSet_eq_iff_given h hverbose .allowConflicts rfl).mp rfl) hnot hgiven
      names rfl
    have hprinted : (Session.generate names
        ({ plain with verbose := true } : Invocation).options).log.printed = summary := by
      decide +kernel
    have hparts : Outcome.mk (run ["-fcamelCase"]).status (run ["-fcamelCase"]).output
        ((run ["-fcamelCase"]).errors ++ ((Session.generate names
          ({ plain with verbose := true } : Invocation).options).log.printed ++ "\n")) =
        ⟨1, keys, "error: " ++ conflict ++ (summary ++ "\n")⟩ := by rw [ho, hprinted]
    exact hadded.trans hparts
  · have hnot : ¬ Argument.Given ["-fcamelCase"] .allowConflicts :=
      mt (Invocation.isSet_iff_given h rfl).mpr Bool.false_ne_true
    have hgiven : Argument.Given ["--allow-c", "-f=camelCase"] .allowConflicts :=
      (Invocation.isSet_iff_given hallow rfl).mp rfl
    obtain ⟨-, hread⟩ := (ha fun _ => .ok names).2.2.2
      ((Invocation.isSet_eq_iff_given h hallow .json rfl).mp rfl)
      ((Invocation.isSet_eq_iff_given h hallow .verbose rfl).mp rfl) hnot hgiven
    obtain ⟨-, -, -, hwarn, hout, hzero⟩ := hread names rfl
    have hwarned : announcements "warning: " (Session.generate names plain.options).diagnostics ++
        closing plain (Session.generate names plain.options) = "warning: " ++ conflict := by
      decide +kernel
    apply Outcome.ext
    · exact hzero
    · exact hout.trans hkeys
    · exact hwarn.trans hwarned

end CaseKeys.CommandLine.Outcome
