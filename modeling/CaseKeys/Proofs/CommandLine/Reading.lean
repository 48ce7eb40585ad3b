import CaseKeys.CommandLine.Invocation
import Mathlib.Data.List.Basic

/-! Which flags a command line sets: those that are given in front of the divider, however often,
in whatever spelling and together with whatever other switches. -/
namespace CaseKeys.CommandLine

namespace Switch

/-- The switches that are on or off. -/
def isFlag : Switch → Bool
  | .json | .allowConflicts | .verbose => true
  | .help | .keyFormat => false

/-- Whether a switch has a spelling of one letter. -/
def isShort : Switch → Bool
  | .help | .keyFormat | .verbose => true
  | .json | .allowConflicts => false

private theorem mem_spellings {text : List Char} {s : Switch} (h : ofSpelling? text = some s) :
    (text, s) ∈ spellings := by
  obtain ⟨before, after, hl, -⟩ := List.lookup_eq_some_iff.mp h
  rw [hl]
  simp

private theorem isShort_of_mem_spellings :
    ∀ p ∈ spellings, Argument.isShort p.1 → p.2.isShort := by decide

private theorem isShort_of_ofSpelling? {c : Char} {s : Switch}
    (hc : ofSpelling? ['-', c] = some s) :
    s.isShort := by
  apply isShort_of_mem_spellings _ (mem_spellings hc)
  unfold Argument.isShort
  split
  · next heq =>
    cases heq
    have hn : ofSpelling? ['-', '-'] = none := by decide
    rw [hn] at hc
    cases hc
  · rfl

end Switch

namespace Argument

/-- A switch behind a short spelling is one that has such a spelling, and so is a switch with something
directly behind it. -/
def Proper : Argument → Prop
  | .switch s short attached => short ∨ (∃ text, attached = some (.tail text)) → s.isShort
  | _ => True

private theorem isShort_take_two (text : List Char) : isShort (text.take 2) = isShort text := by
  match text with
  | [] => rfl
  | [_] => rfl
  | a :: b :: rest =>
    by_cases ha : a = '-' <;> by_cases hb : b = '-' <;> simp [isShort, ha, hb]

private theorem mem_candidates {text spelling : List Char} {s : Switch}
    {attached : Option Attachment}
    (h : (spelling, s, attached) ∈ candidates text) : (spelling, s) ∈ Switch.spellings ∧
      ((∃ tail, attached = some (.tail tail)) → isShort spelling) := by
  unfold candidates at h
  split at h
  · next hshort =>
    split at h
    · next t ht =>
      cases List.mem_singleton.mp h
      exact ⟨Switch.mem_spellings ht, fun _ => (isShort_take_two text).trans hshort⟩
    · cases h
  · obtain ⟨p, hp, he⟩ := List.mem_map.mp h
    cases he
    refine ⟨List.mem_of_mem_filter hp, ?_⟩
    rintro ⟨tail, ht⟩
    cases hv : (splitValue text).2 <;> simp [hv] at ht

theorem classify_cases {text : String} {a : Argument} (h : classify text = .ok a) :
    a = .operand text ∨ a = .unknown text ∨
      ∃ p ∈ Switch.spellings, ∃ attached, a = .switch p.2 (isShort p.1) attached ∧
        ((∃ tail, attached = some (.tail tail)) → isShort p.1) := by
  simp only [classify] at h
  split at h
  · cases h
    exact .inl rfl
  split at h
  · next s hs =>
    cases h
    exact .inr (.inr ⟨_, Switch.mem_spellings hs, none, rfl, by simp⟩)
  split at h
  · cases h
    exact .inl rfl
  split at h
  · next value s hv hs =>
    cases h
    exact .inr (.inr ⟨_, Switch.mem_spellings hs, some (.value value), rfl, by simp⟩)
  split at h
  · split at h
    · cases h
      exact .inl rfl
    · cases h
      exact .inr (.inl rfl)
  · next spelling s attached hc =>
    cases h
    obtain ⟨hm, hshort⟩ := mem_candidates (hc ▸ List.mem_cons_self)
    exact .inr (.inr ⟨_, hm, attached, rfl, hshort⟩)
  · cases h

private theorem proper_of_classify {text : String} {a : Argument} (h : classify text = .ok a) :
    a.Proper := by
  rcases classify_cases h with rfl | rfl | ⟨p, hp, attached, rfl, htail⟩
  · trivial
  · trivial
  · exact fun hs => Switch.isShort_of_mem_spellings p hp (hs.elim id htail)

private theorem ne_divider_of_classify {text : String} {a : Argument} (h : classify text = .ok a) :
    a ≠ .divider := by
  rcases classify_cases h with rfl | rfl | ⟨p, -, attached, rfl, -⟩ <;> simp

/-- Whether a switch is among the arguments in front of the divider. -/
def Has (arguments : List Argument) (s : Switch) : Prop :=
  ∃ short attached, .switch s short attached ∈ arguments.takeWhile (· ≠ .divider)

private theorem not_has_nil (s : Switch) : ¬ Has [] s := by
  rintro ⟨short, attached, h⟩
  cases h

private theorem not_has_divider (rest : List Argument) (s : Switch) :
    ¬ Has (.divider :: rest) s := by
  rintro ⟨short, attached, h⟩
  simp at h

private theorem has_cons {a : Argument} (ha : a ≠ .divider) (rest : List Argument) (s : Switch) :
    Has (a :: rest) s ↔ (∃ short attached, a = .switch s short attached) ∨ Has rest s := by
  simp only [Has, List.takeWhile_cons, ne_eq, ha, not_false_eq_true, decide_true, if_true,
    List.mem_cons, exists_or, eq_comm]

private theorem has_operand (text : String) (rest : List Argument) (s : Switch) :
    Has (.operand text :: rest) s ↔ Has rest s := by
  simp [has_cons]

private theorem has_unknown (text : String) (rest : List Argument) (s : Switch) :
    Has (.unknown text :: rest) s ↔ Has rest s := by
  simp [has_cons]

private theorem has_switch (t : Switch) (short : Bool) (attached : Option Attachment)
    (rest : List Argument) (s : Switch) :
    Has (.switch t short attached :: rest) s ↔ s = t ∨ Has rest s := by
  simp [has_cons, eq_comm]

private theorem classifyAll_cons {text : String} (ht : text ≠ "--") {rest : List String}
    {arguments : List Argument} (h : classifyAll (text :: rest) = .ok arguments) :
    ∃ a others, classify text = .ok a ∧ classifyAll rest = .ok others ∧ arguments = a :: others := by
  rw [classifyAll, if_neg ht] at h
  cases ha : classify text with
  | error e => rw [ha] at h; cases h
  | ok a =>
    cases hr : classifyAll rest with
    | error e => rw [ha, hr] at h; cases h
    | ok others =>
      rw [ha, hr] at h
      cases h
      exact ⟨a, others, rfl, rfl, rfl⟩

private theorem classifyAll_divider (rest : List String) :
    classifyAll ("--" :: rest) = .ok (.divider :: rest.map .operand) := by
  rw [classifyAll, if_pos rfl]

private theorem proper_of_classifyAll {texts : List String} {arguments : List Argument}
    (h : classifyAll texts = .ok arguments) : ∀ a ∈ arguments, a.Proper := by
  induction texts generalizing arguments with
  | nil =>
    cases h
    simp
  | cons text rest ih =>
    by_cases ht : text = "--"
    · rw [ht, classifyAll_divider] at h
      cases h
      intro a ha
      rcases List.mem_cons.mp ha with rfl | ha
      · trivial
      · obtain ⟨operand, -, rfl⟩ := List.mem_map.mp ha
        trivial
    · obtain ⟨a, others, ha, hr, rfl⟩ := classifyAll_cons ht h
      exact List.forall_mem_cons.mpr ⟨proper_of_classify ha, ih hr⟩

/-- The arguments in front of the divider are the texts in front of it, each sorted. -/
theorem mem_front_iff {texts : List String} {arguments : List Argument}
    (h : classifyAll texts = .ok arguments) (a : Argument) :
    a ∈ arguments.takeWhile (· ≠ .divider) ↔
      ∃ text ∈ texts.takeWhile (· ≠ "--"), classify text = .ok a := by
  induction texts generalizing arguments with
  | nil =>
    cases h
    simp
  | cons text rest ih =>
    by_cases ht : text = "--"
    · rw [ht, classifyAll_divider] at h
      cases h
      simp [ht]
    · obtain ⟨b, others, hb, hr, rfl⟩ := classifyAll_cons ht h
      have hd := ne_divider_of_classify hb
      rw [List.takeWhile_cons_of_pos (by simpa using hd),
        List.takeWhile_cons_of_pos (by simpa using ht), List.mem_cons, ih hr]
      simp only [List.mem_cons, exists_eq_or_imp, hb, Except.ok.injEq]
      rw [eq_comm]

/-- Whether a switch is given: a text in front of the divider is read as the switch. -/
def Given (texts : List String) (s : Switch) : Prop :=
  ∃ text ∈ texts.takeWhile (· ≠ "--"), ∃ short attached,
    classify text = .ok (.switch s short attached)

theorem has_iff_given {texts : List String} {arguments : List Argument}
    (h : classifyAll texts = .ok arguments) (s : Switch) : Has arguments s ↔ Given texts s := by
  simp only [Has, mem_front_iff h]
  constructor
  · rintro ⟨short, attached, text, hm, hc⟩
    exact ⟨text, hm, short, attached, hc⟩
  · rintro ⟨text, hm, short, attached, hc⟩
    exact ⟨short, attached, text, hm, hc⟩

end Argument

namespace Invocation

/-- Whether a flag is set. The other switches are no flags. -/
def isSet (i : Invocation) : Switch → Bool
  | .json => i.json
  | .allowConflicts => i.allowConflicts
  | .verbose => i.verbose
  | .help | .keyFormat => false

section
variable {rules : Rules} {i j : Invocation} {value : String}

private theorem isSet_chooseFormat (h : i.chooseFormat rules value = .ok j) (s : Switch) :
    j.isSet s = i.isSet s := by
  have hf : ∃ f, j = { i with format := f } := by
    rw [chooseFormat] at h
    split at h
    · cases h
      exact ⟨_, rfl⟩
    · split at h
      · cases h
        exact ⟨_, rfl⟩
      · cases h
  obtain ⟨f, rfl⟩ := hf
  cases s <;> rfl

theorem isSet_obey {t : Switch} (h : i.obey rules value t = .ok j) {s : Switch} (hs : s.isFlag) :
    j.isSet s ↔ i.isSet s ∨ s = t := by
  cases t with
  | help => cases h
  | keyFormat =>
    have hne : s ≠ .keyFormat := by rintro rfl; cases hs
    rw [isSet_chooseFormat h]
    simp only [hne, or_false]
  | json => cases h; cases s <;> simp [isSet]
  | allowConflicts => cases h; cases s <;> simp [isSet]
  | verbose => cases h; cases s <;> simp [isSet]

private theorem obeyAll_cons {t : Switch} {rest : List Switch}
    (h : i.obeyAll rules value (t :: rest) = .ok j) :
    ∃ k, i.obey rules value t = .ok k ∧ k.obeyAll rules value rest = .ok j := by
  rw [obeyAll, List.foldlM_cons] at h
  cases hk : i.obey rules value t with
  | error stop => rw [hk] at h; cases h
  | ok k => rw [hk] at h; exact ⟨k, rfl, h⟩

private theorem isSet_obeyAll {ts : List Switch} (h : i.obeyAll rules value ts = .ok j) {s : Switch}
    (hs : s.isFlag) : j.isSet s ↔ i.isSet s ∨ s ∈ ts := by
  induction ts generalizing i with
  | nil =>
    cases h
    simp
  | cons t rest ih =>
    obtain ⟨k, hk, hr⟩ := obeyAll_cons h
    rw [ih hr, isSet_obey hk hs, List.mem_cons, or_assoc]

/-- Asking for help ends the reading. -/
private theorem help_notMem {ts : List Switch} (h : i.obeyAll rules value ts = .ok j) :
    .help ∉ ts := by
  induction ts generalizing i with
  | nil => exact List.not_mem_nil
  | cons t rest ih =>
    obtain ⟨k, hk, hr⟩ := obeyAll_cons h
    rw [List.mem_cons, not_or]
    refine ⟨?_, ih hr⟩
    rintro rfl
    cases hk

end

section
variable {rules : Rules} {s : Switch} {ts : List Switch} {value : Value}

private theorem eq_singleton_of_valued {text : List Char} (h : valued s text = .ok (ts, value)) :
    ts = [s] := by
  rw [valued] at h
  split at h
  · cases h
    rfl
  · cases h

private theorem cluster_cases {cs : List Char} (h : cluster rules s cs = .ok (ts, value)) :
    ts = [s] ∨ s.takesValue = false ∧ ∃ c rest t others, cs = c :: rest ∧
      Switch.ofSpelling? ['-', c] = some t ∧ cluster rules t rest = .ok (others, value) ∧
        ts = s :: others := by
  cases cs with
  | nil =>
    cases h
    exact .inl rfl
  | cons c rest =>
    rw [cluster] at h
    split at h
    · exact .inl (eq_singleton_of_valued h)
    split at h
    · cases h
      exact .inl rfl
    next hv =>
    split at h
    · next t ht =>
      cases hc : cluster rules t rest with
      | error e => rw [hc] at h; cases h
      | ok p =>
        rw [hc] at h
        cases h
        exact .inr ⟨eq_false_of_ne_true hv, c, rest, t, p.1, rfl, ht, hc, rfl⟩
    · split at h
      · cases h
        exact .inl rfl
      · cases h

private theorem mem_cluster {cs : List Char} (h : cluster rules s cs = .ok (ts, value)) :
    s ∈ ts := by
  rcases cluster_cases h with rfl | ⟨-, c, rest, t, others, -, -, -, rfl⟩
  · exact List.mem_singleton_self s
  · exact List.mem_cons_self

/-- Behind a short flag stand only repetitions of it, apart from switches that are no flags. -/
private theorem mem_cluster_iff {cs : List Char} (h : cluster rules s cs = .ok (ts, value))
    (hs : cs ≠ [] → s.isShort) (hhelp : .help ∉ ts) {f : Switch} (hf : f.isFlag) :
    f ∈ ts ↔ f = s := by
  induction cs generalizing s ts with
  | nil =>
    cases h
    exact List.mem_singleton
  | cons c tail ih =>
    rcases cluster_cases h with rfl | ⟨hv, d, rest, t, others, hcs, ht, hc, rfl⟩
    · exact List.mem_singleton
    · cases hcs
      have hshort := Switch.isShort_of_ofSpelling? ht
      rw [List.mem_cons, not_or] at hhelp
      have hothers := ih hc (fun _ => hshort) hhelp.2
      have hne : t ≠ .help := fun he => hhelp.2 (he ▸ mem_cluster hc)
      have hsv : s = .verbose := by
        have hshort' := hs (List.cons_ne_nil _ _)
        cases s <;> simp_all [Switch.isShort, Switch.takesValue]
      have hft : f = t → f = s := by
        rintro rfl
        cases f <;> simp_all [Switch.isShort, Switch.isFlag]
      rw [List.mem_cons, hothers, or_iff_left_of_imp hft]

theorem mem_switches_iff {short : Bool} {attached : Option Attachment}
    (h : switches rules s short attached = .ok (ts, value))
    (hs : short ∨ (∃ text, attached = some (.tail text)) → s.isShort) (hhelp : .help ∉ ts)
    {f : Switch} (hf : f.isFlag) : f ∈ ts ↔ f = s := by
  match attached with
  | none => exact mem_cluster_iff h (fun hn => absurd rfl hn) hhelp hf
  | some (.tail text) => exact mem_cluster_iff h (fun _ => hs (.inr ⟨text, rfl⟩)) hhelp hf
  | some (.value text) =>
    rw [switches] at h
    split at h
    · next hc =>
      simp only [Bool.and_eq_true] at hc
      exact mem_cluster_iff h (fun _ => hs (.inl hc.1.2)) hhelp hf
    · rw [eq_singleton_of_valued h, List.mem_singleton]

end

end Invocation

namespace Progress

@[simp] private theorem isSet_fill (p : Progress) (text : String) (s : Switch) :
    (p.fill text).invocation.isSet s = p.invocation.isSet s := by
  cases s <;> rfl

@[simp] private theorem isSet_leave (p : Progress) (text : String) (s : Switch) :
    (p.leave text).invocation.isSet s = p.invocation.isSet s :=
  rfl

@[simp] private theorem isSet_leaveAll (p : Progress) (arguments : List Argument) (s : Switch) :
    (p.leaveAll arguments).invocation.isSet s = p.invocation.isSet s := by
  induction arguments generalizing p with
  | nil => rfl
  | cons a rest ih =>
    rw [leaveAll, List.foldl_cons, ← leaveAll, ih]
    cases a <;> rfl

@[simp] private theorem isSet_divide (p : Progress) (rest : List Argument) (s : Switch) :
    (p.divide rest).invocation.isSet s = p.invocation.isSet s := by
  unfold divide
  split
  · simp
  · split <;> simp

variable {rules : Rules}

private theorem obey_bind {p q : Progress} {value : String} {ts : List Switch}
    {rest : List Argument} (h : (do (← p.obey rules value ts).read rules rest) = .ok q) :
    ∃ r, p.obey rules value ts = .ok r ∧ r.read rules rest = .ok q := by
  cases hr : p.obey rules value ts with
  | error stop => rw [hr] at h; cases h
  | ok r => rw [hr] at h; exact ⟨r, rfl, h⟩

theorem isSet_obey {p r : Progress} {value : String} {ts : List Switch}
    (h : p.obey rules value ts = .ok r) {t : Switch} {short : Bool} {attached : Option Attachment}
    {v : Invocation.Value} (ht : Invocation.switches rules t short attached = .ok (ts, v))
    (hshort : short ∨ (∃ text, attached = some (.tail text)) → t.isShort) {s : Switch}
    (hs : s.isFlag) : r.invocation.isSet s ↔ p.invocation.isSet s ∨ s = t := by
  rw [obey] at h
  cases hi : p.invocation.obeyAll rules value ts with
  | error stop => rw [hi] at h; cases h
  | ok i =>
    rw [hi] at h
    cases h
    rw [Invocation.isSet_obeyAll hi hs,
      Invocation.mem_switches_iff ht hshort (Invocation.help_notMem hi) hs]

/-- Reading sets the flags that are among the arguments and clears none. -/
theorem isSet_read {p q : Progress} {arguments : List Argument}
    (h : p.read rules arguments = .ok q) (hp : ∀ a ∈ arguments, a.Proper) {s : Switch} (hs : s.isFlag) :
    q.invocation.isSet s ↔ p.invocation.isSet s ∨ Argument.Has arguments s := by
  fun_induction read rules p arguments with
  | case1 p =>
    cases h
    simp [Argument.not_has_nil]
  | case2 p text rest =>
    cases h
    simp [Argument.has_operand, Argument.not_has_divider]
  | case3 p text rest =>
    cases h
    simp [Argument.has_operand, Argument.not_has_divider]
  | case4 p text rest _ ih =>
    rw [ih h (List.forall_mem_cons.mp hp).2, Argument.has_operand]
    split <;> simp
  | case5 p rest =>
    cases h
    simp [Argument.not_has_divider]
  | case6 p text rest ih =>
    rw [ih h (List.forall_mem_cons.mp hp).2, Argument.has_unknown, isSet_leave]
  | case7 => cases h
  | case8 p t short attached rest ts ht ih =>
    obtain ⟨hshort, hrest⟩ := List.forall_mem_cons.mp hp
    obtain ⟨r, hr, hq⟩ := obey_bind h
    rw [ih r hq hrest, isSet_obey hr ht hshort hs, Argument.has_switch, or_assoc]
  | case9 p t short attached rest ts value ht ih =>
    obtain ⟨hshort, hrest⟩ := List.forall_mem_cons.mp hp
    obtain ⟨r, hr, hq⟩ := obey_bind h
    rw [ih r hq hrest, isSet_obey hr ht hshort hs, Argument.has_switch, or_assoc]
  | case10 p t short attached rest ts text ht ih =>
    obtain ⟨hshort, hrest⟩ := List.forall_mem_cons.mp hp
    obtain ⟨r, hr, hq⟩ := obey_bind h
    rw [ih r hq hrest, isSet_obey hr ht hshort hs, isSet_leave, Argument.has_switch, or_assoc]
  | case11 p t short attached ts ht text rest ih =>
    obtain ⟨hshort, hrest⟩ := List.forall_mem_cons.mp hp
    obtain ⟨r, hr, hq⟩ := obey_bind h
    rw [ih r hq (List.forall_mem_cons.mp hrest).2, isSet_obey hr ht hshort hs, Argument.has_switch,
      Argument.has_operand, or_assoc]
  | case12 => cases h

end Progress

namespace Invocation

variable {rules : Rules}

/-- A command line that has been read is accepted when nothing is left over. -/
theorem ofArguments_of_read {texts : List String} {arguments : List Argument} {q : Progress}
    (ha : Argument.classifyAll texts = .ok arguments)
    (hq : Progress.read rules {} arguments = .ok q) :
    ofArguments rules texts =
      if q.leftOver.isEmpty then .ok q.invocation else .error (.usage (.leftOver q.leftOver)) := by
  rw [ofArguments, ha]
  simp only [hq]
  rfl

/-- An accepted command line sets the flags that it gives, and no other. -/
theorem isSet_iff_given {texts : List String} {i : Invocation} (h : ofArguments rules texts = .ok i)
    {s : Switch} (hs : s.isFlag) : i.isSet s ↔ Argument.Given texts s := by
  cases ha : Argument.classifyAll texts with
  | error e => rw [ofArguments, ha] at h; cases h
  | ok arguments =>
    cases hq : Progress.read rules {} arguments with
    | error stop => rw [ofArguments, ha] at h; simp only [hq] at h; cases h
    | ok q =>
      have hread := Progress.isSet_read hq (Argument.proper_of_classifyAll ha) hs
      have hi : i = q.invocation := by
        rw [ofArguments_of_read ha hq] at h
        split at h
        · cases h
          rfl
        · cases h
      rw [hi, hread, Argument.has_iff_given ha]
      cases s <;> simp [isSet]

theorem isSet_eq_iff_given {texts texts' : List String} {i i' : Invocation}
    (h : ofArguments rules texts = .ok i) (h' : ofArguments rules texts' = .ok i') (s : Switch)
    (hs : s.isFlag) :
    i.isSet s = i'.isSet s ↔ (Argument.Given texts s ↔ Argument.Given texts' s) := by
  rw [Bool.eq_iff_iff, isSet_iff_given h hs, isSet_iff_given h' hs]

end Invocation

end CaseKeys.CommandLine
