import CaseKeys.Proofs.CommandLine.Status

/-! Command lines without abbreviations and without the divider, put together from groups of texts.
They are accepted, and what they ask for does not depend on the order of the groups. -/
namespace CaseKeys.CommandLine

/-- The ways to write a switch and its value. -/
inductive Style where
  /-- The long spelling, and the value as a text of its own. -/
  | long
  /-- The short spelling, and the value as a text of its own. -/
  | short
  /-- The long spelling, an equals sign and the value in one text. -/
  | attached
  deriving DecidableEq

/-- Texts that belong together on a command line. -/
inductive Group where
  | input (path : String)
  | keyFormat (f : KeyFormat) (style : Style)
  | json
  | allowConflicts
  | verbose (short : Bool)
  deriving DecidableEq

namespace Group

def texts : Group → List String
  | input path => [path]
  | keyFormat f .long => ["--key-format", f.value]
  | keyFormat f .short => ["-f", f.value]
  | keyFormat f .attached => ["--key-format=" ++ f.value]
  | json => ["--json"]
  | allowConflicts => ["--allow-conflicts"]
  | verbose false => ["--verbose"]
  | verbose true => ["-v"]

def path? : Group → Option String
  | input path => some path
  | _ => none

def format? : Group → Option KeyFormat
  | keyFormat f _ => some f
  | _ => none

/-- What the texts of a group are sorted into. -/
def arguments : Group → List Argument
  | input path => [.operand path]
  | keyFormat f .long => [.switch .keyFormat false none, .operand f.value]
  | keyFormat f .short => [.switch .keyFormat true none, .operand f.value]
  | keyFormat f .attached => [.switch .keyFormat false (some (.value f.value.toList))]
  | json => [.switch .json false none]
  | allowConflicts => [.switch .allowConflicts false none]
  | verbose short => [.switch .verbose short none]

/-- What a group adds to an invocation. -/
def apply (i : Invocation) : Group → Invocation
  | input path => { i with input := some (.ofString path) }
  | keyFormat f _ => { i with format := f }
  | json => { i with json := true }
  | allowConflicts => { i with allowConflicts := true }
  | verbose _ => { i with verbose := true }

/-- Reading one group. It leaves nothing over. -/
def advance (p : Progress) (g : Group) : Progress :=
  ⟨g.apply p.invocation, p.filled || g.path?.isSome, p.leftOver⟩

private theorem advance_of_path?_eq_none {g : Group} (h : g.path? = none) (p : Progress) :
    g.advance p = { p with invocation := g.apply p.invocation } := by
  rw [advance, h, Option.isSome_none, Bool.or_false]

private theorem divider_notMem_arguments (g : Group) : .divider ∉ g.arguments := by
  cases g with
  | keyFormat f style => cases style <;> simp [arguments]
  | _ => simp [arguments]

end Group

namespace Argument

private theorem classifyAll_cons_of {text : String} {a : Argument} {rest : List String}
    {others : List Argument} (ht : text ≠ "--") (ha : classify text = .ok a)
    (hr : classifyAll rest = .ok others) : classifyAll (text :: rest) = .ok (a :: others) := by
  rw [classifyAll, if_neg ht, ha, hr]
  rfl

private theorem classify_of_no_dash {text : String} (h : text.toList.head? ≠ some '-') :
    classify text = .ok (.operand text) := by
  simp only [classify]
  rw [if_pos h]

private theorem classifyAll_operand {text : String} (h : text.toList.head? ≠ some '-')
    {rest : List String} {others : List Argument} (hr : classifyAll rest = .ok others) :
    classifyAll (text :: rest) = .ok (.operand text :: others) := by
  refine classifyAll_cons_of ?_ (classify_of_no_dash h) hr
  rintro rfl
  exact h rfl

private theorem head?_value (f : KeyFormat) : f.value.toList.head? ≠ some '-' := by
  cases f <;> decide

private theorem classify_attached (f : KeyFormat) :
    classify ("--key-format=" ++ f.value) =
      .ok (.switch .keyFormat false (some (.value f.value.toList))) := by
  cases f <;> decide

theorem classifyAll_texts {g : Group} (hg : ∀ path ∈ g.path?, path.toList.head? ≠ some '-')
    {rest : List String} {others : List Argument} (hr : classifyAll rest = .ok others) :
    classifyAll (g.texts ++ rest) = .ok (g.arguments ++ others) := by
  cases g with
  | input path => exact classifyAll_operand (hg path rfl) hr
  | keyFormat f style =>
    cases style with
    | long => exact classifyAll_cons_of (by decide) (by decide) (classifyAll_operand (head?_value f) hr)
    | short => exact classifyAll_cons_of (by decide) (by decide) (classifyAll_operand (head?_value f) hr)
    | attached => exact classifyAll_cons_of (by cases f <;> decide) (classify_attached f) hr
  | json => exact classifyAll_cons_of (by decide) (by decide) hr
  | allowConflicts => exact classifyAll_cons_of (by decide) (by decide) hr
  | verbose short =>
    cases short <;> exact classifyAll_cons_of (by decide) (by decide) hr

private theorem classifyAll_flatMap_texts {groups : List Group}
    (hp : ∀ g ∈ groups, ∀ path ∈ g.path?, path.toList.head? ≠ some '-') :
    classifyAll (groups.flatMap Group.texts) = .ok (groups.flatMap Group.arguments) := by
  induction groups with
  | nil => rfl
  | cons g rest ih =>
    obtain ⟨hg, hrest⟩ := List.forall_mem_cons.mp hp
    rw [List.flatMap_cons, List.flatMap_cons]
    exact classifyAll_texts hg (ih hrest)

end Argument

namespace Progress
variable {rules : Rules}

private theorem read_operand (p : Progress) (text : String) {rest : List Argument}
    (h : rest.head? ≠ some .divider) :
    p.read rules (.operand text :: rest) =
      (if p.filled then p.leave text else p.fill text).read rules rest := by
  rw [read]
  rintro tail rfl
  exact h rfl

/-- A format is chosen by its value. -/
private theorem obey_value (p : Progress) (f : KeyFormat) : p.obey rules f.value [.keyFormat] =
    .ok { p with invocation := { p.invocation with format := f } } := by
  cases rules <;> cases f <;> rfl

/-- A switch that takes no value is obeyed at once. -/
private theorem read_flag {p q : Progress} {s : Switch} (hs : s.takesValue = false) (short : Bool)
    (hq : p.obey rules "" [s] = .ok q) (rest : List Argument) :
    p.read rules (.switch s short none :: rest) = q.read rules rest := by
  have hsw : Invocation.switches rules s short none = .ok ([s], .none) := by
    rw [Invocation.switches, Invocation.cluster, hs]
    rfl
  rw [read, hsw]
  simp only [hq]
  rfl

private theorem read_format_following (p : Progress) (f : KeyFormat) (short : Bool)
    (rest : List Argument) :
    p.read rules (.switch .keyFormat short none :: .operand f.value :: rest) =
      { p with invocation := { p.invocation with format := f } }.read rules rest := by
  have hsw : Invocation.switches rules .keyFormat short none = .ok ([.keyFormat], .following) := rfl
  rw [read, hsw]
  simp only [obey_value]
  rfl

private theorem read_format_attached (p : Progress) (f : KeyFormat) (rest : List Argument) :
    p.read rules (.switch .keyFormat false (some (.value f.value.toList)) :: rest) =
      { p with invocation := { p.invocation with format := f } }.read rules rest := by
  have hsw : Invocation.switches rules .keyFormat false (some (.value f.value.toList)) =
      .ok ([.keyFormat], .attached f.value) := by
    rw [Invocation.switches, if_neg (by simp), Invocation.valued, if_pos (by rfl),
      String.ofList_toList]
  rw [read, hsw]
  simp only [obey_value]
  rfl

/-- One group is read without regard to what follows it, as long as that is not the divider. -/
theorem read_arguments {p : Progress} {g : Group} (hg : p.filled → g.path? = none)
    {rest : List Argument} (h : rest.head? ≠ some .divider) :
    p.read rules (g.arguments ++ rest) = (g.advance p).read rules rest := by
  cases g with
  | input path =>
    have hf : p.filled = false := Bool.eq_false_iff.mpr fun hp => by cases hg hp
    have hadv : (Group.input path).advance p = p.fill path := by
      rw [Group.advance, hf]
      rfl
    rw [hadv, Group.arguments, List.singleton_append, read_operand p path h, if_neg (by simp [hf])]
  | keyFormat f style =>
    rw [Group.advance_of_path?_eq_none rfl]
    cases style with
    | long => exact read_format_following p f false rest
    | short => exact read_format_following p f true rest
    | attached => exact read_format_attached p f rest
  | json =>
    rw [Group.advance_of_path?_eq_none rfl]
    exact read_flag rfl false rfl rest
  | allowConflicts =>
    rw [Group.advance_of_path?_eq_none rfl]
    exact read_flag rfl false rfl rest
  | verbose short =>
    rw [Group.advance_of_path?_eq_none rfl]
    exact read_flag rfl short rfl rest

/-- Whatever is read from groups begins with an argument of a group. -/
private theorem head?_flatMap_arguments (groups : List Group) :
    (groups.flatMap Group.arguments).head? ≠ some .divider := by
  intro h
  obtain ⟨g, -, hg⟩ := List.mem_flatMap.mp (List.mem_of_mem_head? h)
  exact g.divider_notMem_arguments hg

/-- Reading groups of which one at most is an input, and none when the input has been read. -/
private theorem read_flatMap_arguments {p : Progress} {groups : List Group}
    (hone : (groups.filterMap Group.path?).length ≤ 1)
    (hp : p.filled → groups.filterMap Group.path? = []) :
    ∃ q, p.read rules (groups.flatMap Group.arguments) = .ok q ∧
      q.invocation = groups.foldl Group.apply p.invocation ∧ q.leftOver = p.leftOver := by
  induction groups generalizing p with
  | nil => exact ⟨p, rfl, rfl, rfl⟩
  | cons g rest ih =>
    have hg : p.filled → g.path? = none := fun hf =>
      List.filterMap_eq_nil_iff.mp (hp hf) g List.mem_cons_self
    rw [List.flatMap_cons, read_arguments hg (head?_flatMap_arguments rest)]
    cases hpath : g.path? with
    | none =>
      rw [List.filterMap_cons_none hpath] at hone hp
      rw [Group.advance_of_path?_eq_none hpath]
      exact ih hone hp
    | some path =>
      rw [List.filterMap_cons_some hpath, List.length_cons] at hone
      have hnone : rest.filterMap Group.path? = [] := List.length_eq_zero_iff.mp (by omega)
      exact ih (by omega) fun _ => hnone

end Progress

/-- Two invocations that hold the same. -/
private theorem Invocation.eq_of {i j : Invocation} (hi : i.input = j.input)
    (hf : i.format = j.format) (hs : ∀ s, s.isFlag → (i.isSet s ↔ j.isSet s)) : i = j := by
  have hj : i.json = j.json := Bool.eq_iff_iff.mpr (hs .json rfl)
  have ha : i.allowConflicts = j.allowConflicts := Bool.eq_iff_iff.mpr (hs .allowConflicts rfl)
  have hv : i.verbose = j.verbose := Bool.eq_iff_iff.mpr (hs .verbose rfl)
  cases i
  cases j
  simp_all only

namespace Group

/-- What groups put together ask for: the last input and the last format, and every flag that occurs
among them. -/
private theorem foldl_apply (groups : List Group) :
    let i := groups.foldl apply {}
    i.input = (groups.filterMap path?).getLast?.map .ofString ∧
      i.format = (groups.filterMap format?).getLast?.getD .upperSnake ∧
      (i.json ↔ .json ∈ groups) ∧ (i.allowConflicts ↔ .allowConflicts ∈ groups) ∧
      (i.verbose ↔ ∃ short, .verbose short ∈ groups) := by
  induction groups using List.reverseRecOn with
  | nil => simp [KeyFormat.standard]
  | append_singleton rest g ih =>
    obtain ⟨hi, hf, hj, ha, hv⟩ := ih
    rw [List.foldl_append, List.filterMap_append, List.filterMap_append]
    cases g with
    | input path => simp [apply, path?, format?, hf, hj, ha, hv]
    | keyFormat f style => simp [apply, path?, format?, hi, hj, ha, hv]
    | json => simp [apply, path?, format?, hi, hf, ha, hv]
    | allowConflicts => simp [apply, path?, format?, hi, hf, hj, hv]
    | verbose short => simp [apply, path?, format?, hi, hf, hj, ha]

/-- The order does not matter, but for that of the inputs and that of the formats. -/
private theorem foldl_apply_perm {groups others : List Group} (h : groups.Perm others)
    (hpath : others.filterMap path? = groups.filterMap path?)
    (hformat : others.filterMap format? = groups.filterMap format?) :
    others.foldl apply {} = groups.foldl apply {} := by
  obtain ⟨hi, hf, hj, ha, hv⟩ := foldl_apply groups
  obtain ⟨hi', hf', hj', ha', hv'⟩ := foldl_apply others
  refine Invocation.eq_of (by rw [hi, hi', hpath]) (by rw [hf, hf', hformat]) fun s hs => ?_
  cases s with
  | json => exact hj'.trans (h.mem_iff.symm.trans hj.symm)
  | allowConflicts => exact ha'.trans (h.mem_iff.symm.trans ha.symm)
  | verbose =>
    have hmem : (∃ short, .verbose short ∈ others) ↔ ∃ short, .verbose short ∈ groups :=
      exists_congr fun _ => h.mem_iff.symm
    exact hv'.trans (hmem.trans hv.symm)
  | help => cases hs
  | keyFormat => cases hs

/-- One path or none stays the same in every order. -/
private theorem filterMap_path?_perm {groups others : List Group} (h : groups.Perm others)
    {path : Option String} (hpath : groups.filterMap path? = path.toList) :
    others.filterMap path? = path.toList := by
  have hperm := (h.filterMap path?).symm
  rw [hpath] at hperm
  cases path with
  | none => exact List.perm_nil.mp hperm
  | some text => exact List.perm_singleton.mp hperm

end Group

theorem Invocation.ofArguments_texts {groups : List Group} {path : Option String}
    (hpath : groups.filterMap Group.path? = path.toList)
    (hdash : ∀ text ∈ path, text.toList.head? ≠ some '-') (rules : Rules) :
    ofArguments rules (groups.flatMap Group.texts) = .ok (groups.foldl Group.apply {}) := by
  have hclass : Argument.classifyAll (groups.flatMap Group.texts) =
      .ok (groups.flatMap Group.arguments) := by
    refine Argument.classifyAll_flatMap_texts fun g hg text ht => hdash text ?_
    have hmem : text ∈ groups.filterMap Group.path? := List.mem_filterMap.mpr ⟨g, hg, ht⟩
    rw [hpath] at hmem
    exact Option.mem_toList.mp hmem
  have hone : (groups.filterMap Group.path?).length ≤ 1 := by
    rw [hpath]
    cases path <;> simp
  obtain ⟨q, hq, hi, hl⟩ := @Progress.read_flatMap_arguments rules {} groups hone nofun
  rw [ofArguments_of_read hclass hq, hl, hi]
  rfl

/-- Command lines of groups, with one input or none that begins with no dash, the formats in any
number and spelling and each flag any number of times, under either rules. -/
theorem accepted_in_any_order {groups : List Group} {path : Option String}
    (hpath : groups.filterMap Group.path? = path.toList)
    (hdash : ∀ text ∈ path, text.toList.head? ≠ some '-') (rules : Rules) :
    (∃ i, Invocation.ofArguments rules (groups.flatMap Group.texts) = .ok i ∧
      i.input = path.map .ofString ∧
      i.format = (groups.filterMap Group.format?).getLast?.getD .upperSnake ∧
      (i.json ↔ .json ∈ groups) ∧ (i.allowConflicts ↔ .allowConflicts ∈ groups) ∧
      (i.verbose ↔ ∃ short, .verbose short ∈ groups)) ∧
    ∀ others, groups.Perm others →
      others.filterMap Group.format? = groups.filterMap Group.format? →
      (∀ inputs, Outcome.ofArguments rules (others.flatMap Group.texts) inputs =
        Outcome.ofArguments rules (groups.flatMap Group.texts) inputs) ∧
      ∀ load, Outcome.ofLoading rules load (others.flatMap Group.texts) =
        Outcome.ofLoading rules load (groups.flatMap Group.texts) := by
  have hread := Invocation.ofArguments_texts hpath hdash rules
  constructor
  · obtain ⟨hi, rest⟩ := Group.foldl_apply groups
    rw [hpath] at hi
    have hlast : path.toList.getLast? = path := by cases path <;> rfl
    rw [hlast] at hi
    exact ⟨_, hread, hi, rest⟩
  · intro others hperm hformat
    have hothers := Group.filterMap_path?_perm hperm hpath
    have hsame : Invocation.ofArguments rules (others.flatMap Group.texts) =
        Invocation.ofArguments rules (groups.flatMap Group.texts) := by
      rw [Invocation.ofArguments_texts hothers hdash, hread,
        Group.foldl_apply_perm hperm (hothers.trans hpath.symm) hformat]
    constructor
    · intro inputs
      rw [Outcome.ofArguments, hsame]
      rfl
    · intro load
      rw [Outcome.ofLoading, hsame]
      rfl

/-- A path with a blank, two formats and a flag given twice, once with the input in front and once
with it behind all switches. -/
theorem accepted_in_any_order_of_input_last :
    let front := ["my cases", "-f", "camelCase", "--json", "-v", "--key-format=pascalCase", "--json"]
    let back := ["--json", "-v", "--json", "-f", "camelCase", "--key-format=pascalCase", "my cases"]
    (∃ i, Invocation.ofArguments .current front = .ok i ∧
      i.input = some (.ofString "my cases") ∧
      i.format = .pascal ∧ i.json = true ∧ i.allowConflicts = false ∧ i.verbose = true) ∧
    ∀ inputs,
      Outcome.ofArguments .current back inputs = Outcome.ofArguments .current front inputs := by
  intro front back
  let groups : List Group := [.input "my cases", .keyFormat .camel .short, .json, .verbose true,
    .keyFormat .pascal .attached, .json]
  let others : List Group := [.json, .verbose true, .json, .keyFormat .camel .short,
    .keyFormat .pascal .attached, .input "my cases"]
  have hfront : groups.flatMap Group.texts = front := by decide
  have hback : others.flatMap Group.texts = back := by decide
  obtain ⟨⟨i, hi, hinput, hformat, hj, ha, hv⟩, hany⟩ :=
    @accepted_in_any_order groups (some "my cases") (by decide) (by decide) .current
  have hperm := (hany others (by decide) (by decide)).1
  rw [hfront] at hi hperm
  rw [hback] at hperm
  refine ⟨⟨i, hi, hinput, hformat, ?_, ?_, ?_⟩, hperm⟩
  · exact hj.mpr (by decide)
  · exact Bool.eq_false_iff.mpr (mt ha.mp (by decide))
  · exact hv.mpr ⟨true, by decide⟩

end CaseKeys.CommandLine
