import CaseKeys.CommandLine.Outcome
import CaseKeys.Proofs.CommandLine.Reading
import CaseKeys.Proofs.Session.Generation

/-! The status of the command. A run fails when its input cannot be read or when names share a key
and conflicts are not allowed, and for no other reason. -/
namespace CaseKeys.CommandLine.Outcome

/-- The outcome of a command line where reading the chosen input has the given results. They may be
those of any system, also of one that refuses to open a file. -/
def ofLoading (rules : Rules) (load : Option Source.Path → Except Source.LoadError (List String))
    (texts : List String) : Outcome :=
  match Invocation.ofArguments rules texts with
  | .error stop => ofStop stop
  | .ok i => ofNames i (load i.input)

theorem ofArguments_eq_ofLoading (rules : Rules) (texts : List String) (inputs : Source.Inputs) :
    ofArguments rules texts inputs = ofLoading rules (Source.loadNames inputs) texts :=
  rfl

theorem ofLoading_of_accepted {rules : Rules} {texts : List String} {i : Invocation}
    (h : Invocation.ofArguments rules texts = .ok i)
    (load : Option Source.Path → Except Source.LoadError (List String)) :
    ofLoading rules load texts = ofNames i (load i.input) := by
  rw [ofLoading, h]

/-- What is said about an input that cannot be read. Nothing but the input decides it. -/
def failure (input : Option Source.Path) : Source.LoadError → String
  | .missing path => "Input file not found: " ++ path.shown
  | e => "Cannot read " ++ inputName input ++ ": " ++ e.message

private theorem append_regroup (a b c d e : String) :
    a ++ b ++ c ++ d ++ e = a ++ (b ++ c ++ d ++ e) := by
  simp only [String.append_assoc]

theorem loadComplaint_eq (input : Option Source.Path) (e : Source.LoadError) :
    loadComplaint input e = "Error: " ++ failure input e := by
  cases e with
  | missing path => rfl
  | unreadable code reason path => exact append_regroup "Error: " "Cannot read " _ ": " _
  | undecodable fault => exact append_regroup "Error: " "Cannot read " _ ": " _

theorem hasErrors_generate_iff (i : Invocation) (names : List String) :
    (Session.generate names i.options).hasErrors ↔
      i.allowConflicts = false ∧ KeyTable.SharesKey names i.format := by
  rw [Session.hasErrors_generate, KeyTable.sharesKey_iff]
  simp [Invocation.options]

theorem status_ofSession (i : Invocation) (s : Session) :
    (ofSession i s).status = if s.hasErrors then 1 else 0 :=
  rfl

theorem status_ofNames (i : Invocation) (loaded : Except Source.LoadError (List String)) :
    ((ofNames i loaded).status = 1 ↔
      (∃ e, loaded = .error e) ∨
        i.allowConflicts = false ∧ ∃ names, loaded = .ok names ∧ KeyTable.SharesKey names i.format) ∧
      ((ofNames i loaded).status ≠ 1 → (ofNames i loaded).status = 0) := by
  cases loaded with
  | error e => simp [ofNames]
  | ok names =>
    have h := hasErrors_generate_iff i names
    rw [ofNames, status_ofSession]
    split
    · next he => simpa using h.mp he
    · next he =>
      refine ⟨⟨fun h01 => absurd h01 (by decide), ?_⟩, fun _ => rfl⟩
      rintro (⟨e, hl⟩ | ⟨ha, others, hl, hs⟩)
      · cases hl
      · cases hl
        exact absurd (h.mpr ⟨ha, hs⟩) he

/-- The status and the failures of every command line that is accepted under either rules, whatever
the system answers when its input is read. It fails exactly when the input cannot be read or when two
of the names share a key and conflicts are not allowed. -/
theorem status_of_accepted {rules : Rules} {texts : List String} {i : Invocation}
    (h : Invocation.ofArguments rules texts = .ok i) :
    (∀ inputs, ofArguments rules texts inputs =
      ofLoading rules (Source.loadNames inputs) texts) ∧
    ∀ load : Option Source.Path → Except Source.LoadError (List String),
      let o := ofLoading rules load texts
      (o.status = 1 ↔
        (∃ e, load i.input = .error e) ∨
          ¬ Argument.Given texts .allowConflicts ∧
            ∃ names, load i.input = .ok names ∧ KeyTable.SharesKey names i.format) ∧
      (o.status ≠ 1 → o.status = 0) ∧
      ∀ e, load i.input = .error e → o = ⟨1, "", "Error: " ++ failure i.input e ++ "\n"⟩ := by
  refine ⟨ofArguments_eq_ofLoading rules texts, fun load => ?_⟩
  intro o
  have ho : o = ofNames i (load i.input) := ofLoading_of_accepted h load
  obtain ⟨hone, hzero⟩ := status_ofNames i (load i.input)
  have hallow : i.allowConflicts = false ↔ ¬ Argument.Given texts .allowConflicts := by
    rw [← Invocation.isSet_iff_given h rfl, Bool.not_eq_true]
    rfl
  rw [hallow] at hone
  rw [ho]
  refine ⟨hone, hzero, fun e he => ?_⟩
  rw [he, ofNames, loadComplaint_eq, line]

/-- Two names on the standard input share a pascal key that is chosen behind a clustered flag, and a
file that is not there. -/
theorem status_of_accepted_shared_key_and_missing_file :
    let texts := ["-vf=pascalCase", "--json"]
    let names := "duplicate\nDuplicate\n".toList.map fun c => UInt8.ofNat c.toNat
    let inputs : Source.Inputs := ⟨fun _ => .error .missing, names, .lineFeed⟩
    Invocation.ofArguments .current texts =
      .ok { format := .pascal, json := true, verbose := true } ∧
    (ofArguments .current texts inputs).status = 1 ∧
    Invocation.ofArguments .current ["/gone.txt", "-v"] =
      .ok { input := some (.ofString "/gone.txt"), verbose := true } ∧
    ofArguments .current ["/gone.txt", "-v"] inputs =
      ⟨1, "", "Error: Input file not found: /gone.txt\n"⟩ := by
  intro texts names inputs
  have hshared : Invocation.ofArguments .current texts =
      .ok { format := .pascal, json := true, verbose := true } := by decide +kernel
  have hmissing : Invocation.ofArguments .current ["/gone.txt", "-v"] =
      .ok { input := some (.ofString "/gone.txt"), verbose := true } := by decide +kernel
  refine ⟨hshared, ?_, hmissing, ?_⟩
  · obtain ⟨hinputs, hload⟩ := status_of_accepted hshared
    have hallow : ¬ Argument.Given texts .allowConflicts := by
      rw [← Invocation.isSet_iff_given hshared rfl]
      exact Bool.false_ne_true
    rw [hinputs]
    refine (hload _).1.mpr (.inr ⟨hallow, ["duplicate", "Duplicate"], by decide +kernel, ?_⟩)
    exact ⟨⟨0, by decide⟩, ⟨1, by decide⟩, by decide, by decide +kernel⟩
  · obtain ⟨hinputs, hload⟩ := status_of_accepted hmissing
    rw [hinputs]
    exact (hload _).2.2 (.missing (.ofString "/gone.txt")) (by decide +kernel)

end CaseKeys.CommandLine.Outcome
