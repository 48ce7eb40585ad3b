import CaseKeys.Proofs.CommandLine.Reading

/-! Where the former and the current rules for attached texts agree. They part only behind a short
spelling and over a divider that is attached as a value. -/
namespace CaseKeys.CommandLine

namespace Invocation

/-- A switch is read alike under both rules, and its value is no divider. -/
def ReadAlike (s : Switch) (short : Bool) (attached : Option Attachment) : Prop :=
  switches .former s short attached = switches .current s short attached ∧
    ∀ ts, switches .former s short attached ≠ .ok (ts, .attached "--")

section
variable {s : Switch} {text : List Char}

theorem readAlike_none (s : Switch) (short : Bool) : ReadAlike s short none := by
  refine ⟨rfl, fun ts h => ?_⟩
  cases s <;> cases h

private theorem ofList_ne_divider (hd : text ≠ ['-', '-']) : String.ofList text ≠ "--" := fun h =>
  hd (String.ofList_injective h)

private theorem valued_ne_divider (hd : text ≠ ['-', '-']) (ts : List Switch) :
    valued s text ≠ .ok (ts, .attached "--") := by
  rw [valued]
  split
  · intro h
    obtain ⟨-, hv⟩ := Prod.mk.inj (Except.ok.inj h)
    exact ofList_ne_divider hd (Value.attached.inj hv)
  · intro h
    cases h

/-- What stands behind an equals sign is read alike behind a long spelling. -/
theorem readAlike_value (hd : text ≠ ['-', '-']) : ReadAlike s false (some (.value text)) :=
  ⟨rfl, valued_ne_divider hd⟩

/-- What a short spelling takes as its value without an equals sign is read alike. -/
theorem readAlike_tail (hs : s.takesValue) (he : text.head? ≠ some '=') (hd : text ≠ ['-', '-']) :
    ReadAlike s true (some (.tail text)) := by
  cases text with
  | nil => exact readAlike_none s true
  | cons c rest =>
    have hc : c ≠ '=' := fun h => he (congrArg some h)
    have hread : ∀ rules, switches rules s true (some (.tail (c :: rest))) =
        .ok ([s], .attached (String.ofList (c :: rest))) := by
      intro rules
      simp [switches, cluster, hs, hc]
    refine ⟨(hread .former).trans (hread .current).symm, fun ts h => ?_⟩
    rw [hread] at h
    obtain ⟨-, hv⟩ := Prod.mk.inj (Except.ok.inj h)
    exact ofList_ne_divider hd (Value.attached.inj hv)

private theorem cluster_former_eq_current {v : Value} {ts : List Switch} (he : '=' ∉ text)
    (h : cluster .former s text = .ok (ts, v)) : cluster .current s text = .ok (ts, v) := by
  induction text generalizing s ts with
  | nil => exact h
  | cons c rest ih =>
    rw [List.mem_cons, not_or] at he
    have hc : c ≠ '=' := fun h => he.1 h.symm
    rw [cluster] at h ⊢
    rw [if_neg (by simp)] at h
    rw [if_neg (by simp [hc])]
    split at h
    · rwa [if_pos ‹_›]
    next hs =>
    rw [if_neg hs]
    cases ht : Switch.ofSpelling? ['-', c] with
    | none =>
      simp only [ht] at h
      cases h
    | some t =>
      simp only [ht] at h ⊢
      cases hr : cluster .former t rest with
      | error e => rw [hr] at h; cases h
      | ok p =>
        rw [hr] at h
        cases h
        rw [ih he.2 hr]
        rfl

/-- Letters that are all switches are read alike, together with a value behind the last. -/
theorem readAlike_cluster (short : Bool) {v : Value} {ts : List Switch} (he : '=' ∉ text)
    (h : cluster .former s text = .ok (ts, v)) (hd : v ≠ .attached "--") :
    ReadAlike s short (some (.tail text)) := by
  refine ⟨h.trans (cluster_former_eq_current he h).symm, fun us hu => ?_⟩
  obtain ⟨-, hv⟩ := Prod.mk.inj (Except.ok.inj (h.symm.trans hu))
  exact hd hv

end

variable {value : String}

private theorem obey_former_eq_current (hv : value ≠ "--") (i : Invocation) (s : Switch) :
    i.obey .former value s = i.obey .current value s := by
  cases s with
  | keyFormat =>
    rw [obey, obey, chooseFormat, chooseFormat, if_neg (by simp [hv]), if_neg (by simp)]
  | _ => rfl

private theorem obeyAll_former_eq_current (hv : value ≠ "--") (i : Invocation) (ts : List Switch) :
    i.obeyAll .former value ts = i.obeyAll .current value ts := by
  have hobey : (fun i s => obey .former i value s) = fun i s => obey .current i value s :=
    funext fun i => funext fun s => obey_former_eq_current hv i s
  rw [obeyAll, obeyAll, hobey]

end Invocation

/-- An argument that is read alike. A divider that would be taken as a value does not occur among them. -/
def Argument.ReadAlike : Argument → Prop
  | .operand text => text ≠ "--"
  | .switch s short attached => Invocation.ReadAlike s short attached
  | _ => True

namespace Progress

private theorem obey_former_eq_current {value : String} (hv : value ≠ "--") (p : Progress)
    (ts : List Switch) : p.obey .former value ts = p.obey .current value ts := by
  rw [obey, obey, Invocation.obeyAll_former_eq_current hv]

private theorem forall_front_cons {a : Argument} (ha : a ≠ .divider) {rest : List Argument} :
    (∀ b ∈ (a :: rest).takeWhile (· ≠ .divider), b.ReadAlike) ↔
      a.ReadAlike ∧ ∀ b ∈ rest.takeWhile (· ≠ .divider), b.ReadAlike := by
  rw [List.takeWhile_cons_of_pos (by simpa using ha), List.forall_mem_cons]

theorem read_former_eq_current {p : Progress} {arguments : List Argument}
    (h : ∀ a ∈ arguments.takeWhile (· ≠ .divider), a.ReadAlike) :
    p.read .former arguments = p.read .current arguments := by
  fun_induction read .former p arguments with
  | case1 p => rfl
  | case2 p text rest hf => rw [read, if_pos hf]
  | case3 p text rest hf => rw [read, if_neg hf]
  | case4 p text rest hd ih =>
    obtain ⟨-, hrest⟩ := (forall_front_cons (by simp)).mp h
    rw [read]
    · exact ih hrest
    · exact hd
  | case5 p rest => rfl
  | case6 p text rest ih =>
    obtain ⟨-, hrest⟩ := (forall_front_cons (by simp)).mp h
    rw [read]
    exact ih hrest
  | case7 p s short attached rest e he =>
    obtain ⟨hs, -⟩ := (forall_front_cons (by simp)).mp h
    rw [read, ← hs.1, he]
  | case8 p t short attached rest ts ht ih =>
    obtain ⟨hs, hrest⟩ := (forall_front_cons (by simp)).mp h
    rw [read, ← hs.1, ht, obey_former_eq_current (by decide)]
    exact bind_congr fun r => ih r hrest
  | case9 p t short attached rest ts value ht ih =>
    obtain ⟨hs, hrest⟩ := (forall_front_cons (by simp)).mp h
    have hv : value ≠ "--" := fun hv => hs.2 ts (hv ▸ ht)
    rw [read, ← hs.1, ht, obey_former_eq_current hv]
    exact bind_congr fun r => ih r hrest
  | case10 p t short attached rest ts text ht ih =>
    obtain ⟨hs, hrest⟩ := (forall_front_cons (by simp)).mp h
    rw [read, ← hs.1, ht, obey_former_eq_current (by decide)]
    exact bind_congr fun r => ih r hrest
  | case11 p t short attached ts ht text rest ih =>
    obtain ⟨hs, hrest⟩ := (forall_front_cons (by simp)).mp h
    obtain ⟨hv, hothers⟩ := (forall_front_cons (by simp)).mp hrest
    rw [read, ← hs.1, ht, obey_former_eq_current hv]
    exact bind_congr fun r => ih r hothers
  | case12 p t short attached ts ht rest hr =>
    obtain ⟨hs, -⟩ := (forall_front_cons (by simp)).mp h
    rw [read, ← hs.1, ht]
    cases rest with
    | nil => rfl
    | cons a others =>
      cases a with
      | operand text => exact (hr text others rfl).elim
      | _ => rfl

end Progress
namespace Invocation

/-- A command line asks for the same under both rules when its switches are read alike. -/
theorem ofArguments_former_eq_current {texts : List String}
    (h : ∀ text ∈ texts.takeWhile (· ≠ "--"), ∀ s short attached,
      Argument.classify text = .ok (.switch s short attached) → ReadAlike s short attached) :
    ofArguments .former texts = ofArguments .current texts := by
  cases ha : Argument.classifyAll texts with
  | error e => rw [ofArguments, ofArguments, ha]
  | ok arguments =>
    have hread : Progress.read .former {} arguments = Progress.read .current {} arguments := by
      apply Progress.read_former_eq_current
      intro a hm
      obtain ⟨text, ht, hc⟩ := (Argument.mem_front_iff ha a).mp hm
      rcases Argument.classify_cases hc with rfl | rfl | ⟨q, -, attached, rfl, -⟩
      · have hall := List.all_eq_true.mp List.all_takeWhile text ht
        have hne : text ≠ "--" := of_decide_eq_true hall
        exact hne
      · trivial
      · exact h text ht _ _ _ hc
    rw [ofArguments, ofArguments, ha]
    simp only [hread]

/-- Behind a clustered flag the equals sign was a part of the value. -/
example :
    ofArguments .former ["-vf=camelCase"] = .error (.usage (.noSuchFormat "=camelCase")) ∧
    ofArguments .current ["-vf=camelCase"] = .ok { format := .camel, verbose := true } := by
  decide +kernel

end Invocation
end CaseKeys.CommandLine
