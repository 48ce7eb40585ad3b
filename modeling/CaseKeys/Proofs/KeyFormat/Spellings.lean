import CaseKeys.KeyFormat
import CaseKeys.Proofs.Text.Trim

/-! The names that choose a key format. Such a name is one of the two spellings of the format, with dots
directly in front of it and white space around both; the empty name chooses the standard format. -/
namespace CaseKeys.KeyFormat
open Text (isBlank)

def spellings (f : KeyFormat) : List String :=
  [f.value, f.constant]

def AllBlank (text : List Char) : Prop :=
  ∀ c ∈ text, isBlank c

def AllDots (text : List Char) : Prop :=
  ∀ c ∈ text, c = '.'

/-- Neither white space nor a dot anywhere. -/
def AllPlain (text : List Char) : Prop :=
  ∀ c ∈ text, isBlank c = false ∧ c ≠ '.'

/-- A name with nothing around `core` but dots in front of it and white space around both. -/
def Frames (name core : List Char) : Prop :=
  ∃ before dots after, AllBlank before ∧ AllDots dots ∧ AllBlank after ∧
    name = before ++ dots ++ core ++ after

/-- The names of a format. -/
inductive Spells (name : String) (f : KeyFormat) : Prop
  | empty (hname : name = "") (hf : f = .upperSnake)
  | framed {spelling : String} (hs : spelling ∈ f.spellings)
      (h : Frames name.toList spelling.toList)

/-- Names that come close to one of a format: white space alone, dots alone, white space between the
dots and the spelling, dots behind the spelling, and a spelling in another case. -/
inductive NearMiss (name : String) : Prop
  | blank (hname : name ≠ "") (h : AllBlank name.toList)
  | dots (hname : name ≠ "") (h : AllDots name.toList)
  | gap {f : KeyFormat} {spelling : String} (hs : spelling ∈ f.spellings)
      {before dots gap after : List Char} (hb : AllBlank before) (hd : AllDots dots)
      (hg : AllBlank gap) (ha : AllBlank after) (hdots : dots ≠ []) (hgap : gap ≠ [])
      (h : name.toList = before ++ dots ++ (gap ++ spelling.toList) ++ after)
  | trailing {f : KeyFormat} {spelling : String} (hs : spelling ∈ f.spellings)
      {dots : List Char} (hd : AllDots dots) (hdots : dots ≠ [])
      (h : Frames name.toList (spelling.toList ++ dots))
  | recased {f : KeyFormat} {spelling : String} (hs : spelling ∈ f.spellings)
      {other : String} (hcase : other.toList.map Char.toLower = spelling.toList.map Char.toLower)
      (hother : ∀ g, other ∉ spellings g) (h : Frames name.toList other.toList)

private theorem mem_all (f : KeyFormat) : f ∈ all := by
  cases f <;> decide

private theorem spellings_apart : ∀ f ∈ all, ∀ g ∈ all,
    (f.spellings.any fun s => g.spellings.contains s) = true → f = g := by
  decide

/-- A spelling, in whatever case, has characters, and none is white space or a dot. -/
private theorem spellings_plain : ∀ f ∈ all, ∀ s ∈ f.spellings,
    s.toList.isEmpty = false ∧ (s.toList.all fun c => !isBlank c && c != '.') = true ∧
      (s.toList.all fun c => !isBlank c.toLower && c.toLower != '.') = true := by
  decide

variable {f g : KeyFormat} {name spelling : String}

private theorem eq_of_mem_spellings (hf : spelling ∈ f.spellings) (hg : spelling ∈ g.spellings) :
    f = g := by
  apply spellings_apart f (mem_all f) g (mem_all g)
  exact List.any_eq_true.mpr ⟨spelling, hf, List.contains_iff_mem.mpr hg⟩

private theorem toList_ne_nil (hs : spelling ∈ f.spellings) : spelling.toList ≠ [] :=
  List.isEmpty_eq_false_iff.mp (spellings_plain f (mem_all f) spelling hs).1

private theorem allPlain_of_mem (hs : spelling ∈ f.spellings) : AllPlain spelling.toList := by
  intro c hc
  have h := List.all_eq_true.mp (spellings_plain f (mem_all f) spelling hs).2.1 c hc
  simpa using h

/-- White space has no case. -/
private theorem toLower_eq_self_of_isBlank {c : Char} (h : isBlank c) : c.toLower = c := by
  have hcap : ¬ (c.val ≥ 'A'.val ∧ c.val ≤ 'Z'.val) := by
    rintro ⟨hA, hZ⟩
    have hA' : 65 ≤ c.toNat := UInt32.le_iff_toNat_le.mp hA
    have hZ' : c.toNat ≤ 90 := UInt32.le_iff_toNat_le.mp hZ
    simp only [isBlank, Text.covers, Text.blankSpans, Text.Span.holds, List.any_cons, List.any_nil,
      Bool.or_false, Bool.or_eq_true, Bool.and_eq_true, Nat.ble_eq] at h
    omega
  exact dif_neg hcap

/-- A text that is a spelling but for the case of its letters has no white space and no dots either. -/
private theorem allPlain_of_map_toLower (hs : spelling ∈ f.spellings) {other : List Char}
    (hcase : other.map Char.toLower = spelling.toList.map Char.toLower) : AllPlain other := by
  intro c hc
  have hm : c.toLower ∈ spelling.toList.map Char.toLower := hcase ▸ List.mem_map_of_mem hc
  obtain ⟨d, hd, hcd⟩ := List.mem_map.mp hm
  have hplain := List.all_eq_true.mp (spellings_plain f (mem_all f) spelling hs).2.2 d hd
  rw [hcd, Bool.and_eq_true, Bool.not_eq_true', bne_iff_ne] at hplain
  refine ⟨Bool.eq_false_iff.mpr fun hb => ?_, ?_⟩
  · rw [toLower_eq_self_of_isBlank hb, hb] at hplain
    exact absurd hplain.1 (by decide)
  · rintro rfl
    exact absurd rfl hplain.2

private theorem AllDots.isBlank_eq_false {dots : List Char} (h : AllDots dots) :
    ∀ c ∈ dots, isBlank c = false := by
  intro c hc
  rw [h c hc]
  decide

section Bare
variable {before dots core after : List Char} (hb : AllBlank before) (hd : AllDots dots)
  (ha : AllBlank after)

include hb hd ha in
/-- What is left of a name with known parts: the text behind the dots, if it begins with no further dot
and no white space stands at either end of the dots and the text. -/
private theorem toList_bareName_of_parts (h : name.toList = before ++ dots ++ core ++ after)
    (hhead : ∀ c ∈ (dots ++ core).head?, isBlank c = false) (hdot : core.head? ≠ some '.')
    (hlast : ∀ c ∈ core.getLast?, isBlank c = false) : (bareName name).toList = core := by
  have hend : ∀ c ∈ (dots ++ core).getLast?, isBlank c = false := by
    intro c hc
    rw [List.getLast?_append] at hc
    rcases Option.or_eq_some_iff.mp hc with hc | ⟨-, hc⟩
    · exact hlast c hc
    · exact hd.isBlank_eq_false c (List.mem_of_mem_getLast? hc)
  have htrim : Text.trimBlank name.toList = dots ++ core :=
    calc Text.trimBlank name.toList
      _ = Text.trim isBlank (before ++ (dots ++ core) ++ after) := by
        rw [h, Text.trimBlank, List.append_assoc before]
      _ = Text.trim isBlank (dots ++ core) := Text.trim_pad hb ha _
      _ = dots ++ core := Text.trim_eq_self hhead hend
  rw [bareName, String.toList_ofList, htrim,
    List.dropWhile_append_of_pos fun c hc => decide_eq_true (hd c hc)]
  cases core with
  | nil => rfl
  | cons c rest =>
    have hc : c ≠ '.' := fun hc => hdot (congrArg some hc)
    exact List.dropWhile_cons_of_neg fun h => hc (of_decide_eq_true h)

end Bare

/-- A text without white space at its ends, and without a dot at its front, is what is left. -/
private theorem Frames.toList_bareName {core : List Char} (h : Frames name.toList core)
    (hhead : ∀ c ∈ core.head?, isBlank c = false ∧ c ≠ '.')
    (hlast : ∀ c ∈ core.getLast?, isBlank c = false) : (bareName name).toList = core := by
  obtain ⟨before, dots, after, hb, hd, ha, hname⟩ := h
  refine toList_bareName_of_parts hb hd ha hname (fun c hc => ?_) (fun hc => ?_) hlast
  · rw [List.head?_append] at hc
    rcases Option.or_eq_some_iff.mp hc with hc | ⟨-, hc⟩
    · exact hd.isBlank_eq_false c (List.mem_of_mem_head? hc)
    · exact (hhead c hc).1
  · exact (hhead '.' hc).2 rfl

private theorem Frames.toList_bareName_of_allPlain {core : List Char} (h : Frames name.toList core)
    (hplain : AllPlain core) : (bareName name).toList = core :=
  h.toList_bareName (fun c hc => hplain c (List.mem_of_mem_head? hc))
    fun c hc => (hplain c (List.mem_of_mem_getLast? hc)).1

private theorem frames_bareName (name : String) : Frames name.toList (bareName name).toList := by
  obtain ⟨before, after, hname, hb, ha⟩ := Text.exists_eq_append_trim isBlank name.toList
  refine ⟨before, (Text.trimBlank name.toList).takeWhile (· = '.'), after, hb, fun c hc => ?_, ha, ?_⟩
  · have hdot := List.mem_takeWhile_imp hc
    exact of_decide_eq_true hdot
  · rw [bareName, String.toList_ofList, List.append_assoc before, List.takeWhile_append_dropWhile]
    exact hname

/-- A name that is not empty chooses by what is left of it. -/
theorem spells_iff_bareName (hname : name ≠ "") : Spells name f ↔ bareName name ∈ f.spellings := by
  constructor
  · rintro (⟨he, -⟩ | ⟨hs, h⟩)
    · exact absurd he hname
    · have hbare := h.toList_bareName_of_allPlain (allPlain_of_mem hs)
      rwa [String.toList_inj.mp hbare]
  · intro hs
    exact .framed hs (frames_bareName name)

private theorem ofName_eq_ok_iff_bareName (hname : name ≠ "") :
    ofName name = .ok f ↔ bareName name ∈ f.spellings := by
  have hfound : ∀ g : KeyFormat,
      (bareName name = g.value || bareName name = g.constant) = true ↔ bareName name ∈ g.spellings := by
    intro g
    simp [spellings]
  rw [ofName, if_neg hname]
  cases hfind : all.find? fun g => bareName name = g.value || bareName name = g.constant with
  | some g =>
    have hmatch := List.find?_some hfind
    have hg := (hfound g).mp hmatch
    constructor
    · intro h
      obtain rfl := Except.ok.inj h
      exact hg
    · intro hf
      rw [eq_of_mem_spellings hf hg]
  | none =>
    have hnone := List.find?_eq_none.mp hfind f (mem_all f)
    constructor
    · intro h
      cases h
    · intro hf
      exact absurd ((hfound f).mpr hf) hnone

theorem ofName_eq_ok_iff : ofName name = .ok f ↔ Spells name f := by
  by_cases hname : name = ""
  · rw [hname]
    constructor
    · intro h
      exact .empty rfl (Except.ok.inj h).symm
    · rintro (⟨-, rfl⟩ | @⟨spelling, hs, before, dots, after, -, -, -, h⟩)
      · rfl
      · -- an empty name has no room for a spelling
        have hnil : spelling.toList = [] := by simp_all
        exact absurd hnil (toList_ne_nil hs)
  · rw [ofName_eq_ok_iff_bareName hname, spells_iff_bareName hname]

private theorem ofName_cases (name : String) :
    (∃ f, ofName name = .ok f) ∨ ofName name = .error ⟨name⟩ := by
  rw [ofName]
  split
  · exact .inl ⟨_, rfl⟩
  · split
    · exact .inl ⟨_, rfl⟩
    · exact .inr rfl

/-- A name of no format is refused as it stands. -/
theorem ofName_eq_error_iff : ofName name = .error ⟨name⟩ ↔ ∀ f, ¬ Spells name f := by
  constructor
  · intro h f hf
    rw [ofName_eq_ok_iff.mpr hf] at h
    cases h
  · intro h
    rcases ofName_cases name with ⟨f, hf⟩ | herror
    · exact absurd (ofName_eq_ok_iff.mp hf) (h f)
    · exact herror

theorem Spells.unique (hf : Spells name f) (hg : Spells name g) : f = g :=
  Except.ok.inj ((ofName_eq_ok_iff.mpr hf).symm.trans (ofName_eq_ok_iff.mpr hg))

/-- A name of no format, told by what is left of it. -/
private theorem not_spells_of_bareName (hname : name ≠ "") {core : List Char}
    (hbare : (bareName name).toList = core)
    (hcore : ∀ {f : KeyFormat} {s : String}, s ∈ f.spellings → s.toList ≠ core) :
    ∀ f, ¬ Spells name f := by
  intro f h
  exact hcore ((spells_iff_bareName hname).mp h) hbare

private theorem Frames.ne_empty {core : List Char} (h : Frames name.toList core) (hn : core ≠ []) :
    name ≠ "" := by
  rintro rfl
  obtain ⟨before, dots, after, -, -, -, hname⟩ := h
  exact hn (by simp_all)

private theorem not_spells_of_gap (hs : spelling ∈ f.spellings) {before dots gap after : List Char}
    (hb : AllBlank before) (hd : AllDots dots) (hg : AllBlank gap) (ha : AllBlank after)
    (hdots : dots ≠ []) (hgap : gap ≠ [])
    (h : name.toList = before ++ dots ++ (gap ++ spelling.toList) ++ after) :
    ∀ g, ¬ Spells name g := by
  have hname : name ≠ "" := by
    rintro rfl
    simp_all
  obtain ⟨c, rest, rfl⟩ := List.exists_cons_of_ne_nil hgap
  have hc : isBlank c := hg c List.mem_cons_self
  have hbare := toList_bareName_of_parts hb hd ha h ?_ ?_ ?_
  · apply not_spells_of_bareName hname hbare
    intro g t ht heq
    have hplain := allPlain_of_mem ht c (by rw [heq]; exact List.mem_cons_self)
    exact Bool.eq_false_iff.mp hplain.1 hc
  · intro e he
    rw [List.head?_append_of_ne_nil _ hdots] at he
    exact hd.isBlank_eq_false e (List.mem_of_mem_head? he)
  · intro he
    obtain rfl : c = '.' := Option.some.inj he
    exact absurd hc (by decide)
  · intro e he
    rw [List.getLast?_append_of_ne_nil _ (toList_ne_nil hs)] at he
    exact (allPlain_of_mem hs e (List.mem_of_mem_getLast? he)).1

private theorem not_spells_of_trailing (hs : spelling ∈ f.spellings) {dots : List Char}
    (hd : AllDots dots) (hdots : dots ≠ []) (h : Frames name.toList (spelling.toList ++ dots)) :
    ∀ g, ¬ Spells name g := by
  have hbare := h.toList_bareName ?_ ?_
  · apply not_spells_of_bareName (h.ne_empty (by simp [hdots])) hbare
    intro g t ht heq
    obtain ⟨c, hc⟩ := List.exists_mem_of_ne_nil dots hdots
    have hplain := allPlain_of_mem ht c (by rw [heq]; exact List.mem_append_right _ hc)
    exact hplain.2 (hd c hc)
  · intro e he
    rw [List.head?_append_of_ne_nil _ (toList_ne_nil hs)] at he
    exact allPlain_of_mem hs e (List.mem_of_mem_head? he)
  · intro e he
    rw [List.getLast?_append_of_ne_nil _ hdots] at he
    exact hd.isBlank_eq_false e (List.mem_of_mem_getLast? he)

private theorem not_spells_of_recased (hs : spelling ∈ f.spellings) {other : String}
    (hcase : other.toList.map Char.toLower = spelling.toList.map Char.toLower)
    (hother : ∀ g, other ∉ spellings g) (h : Frames name.toList other.toList) :
    ∀ g, ¬ Spells name g := by
  have hn : other.toList ≠ [] := by
    intro hnil
    rw [hnil] at hcase
    exact toList_ne_nil hs (List.map_eq_nil_iff.mp hcase.symm)
  have hbare := h.toList_bareName_of_allPlain (allPlain_of_map_toLower hs hcase)
  apply not_spells_of_bareName (h.ne_empty hn) hbare
  intro g t ht heq
  exact hother g (String.toList_inj.mp heq ▸ ht)

theorem NearMiss.not_spells (h : NearMiss name) : ∀ f, ¬ Spells name f := by
  cases h with
  | blank hname h =>
    have hframe : Frames name.toList [] :=
      ⟨name.toList, [], [], h, List.forall_mem_nil _, List.forall_mem_nil _, by simp⟩
    have hbare := hframe.toList_bareName_of_allPlain (List.forall_mem_nil _)
    exact not_spells_of_bareName hname hbare toList_ne_nil
  | dots hname h =>
    have hframe : Frames name.toList [] :=
      ⟨[], name.toList, [], List.forall_mem_nil _, h, List.forall_mem_nil _, by simp⟩
    have hbare := hframe.toList_bareName_of_allPlain (List.forall_mem_nil _)
    exact not_spells_of_bareName hname hbare toList_ne_nil
  | gap hs hb hd hg ha hdots hgap h => exact not_spells_of_gap hs hb hd hg ha hdots hgap h
  | trailing hs hd hdots h => exact not_spells_of_trailing hs hd hdots h
  | recased hs hcase hother h => exact not_spells_of_recased hs hcase hother h

theorem message_unknown (name : String) : (Unknown.mk name).message = "Unknown key format '" ++ name ++
    "' (expected one of: lowerSnakeCase, upperSnakeCase, camelCase, pascalCase)" := by
  have hchoices : "' (expected one of: " ++ (", ".intercalate (all.map value) ++ ")") =
      "' (expected one of: lowerSnakeCase, upperSnakeCase, camelCase, pascalCase)" := by decide
  change "Unknown key format '" ++ name ++ "' (expected one of: " ++ ", ".intercalate (all.map value) ++
    ")" = _
  rw [String.append_assoc, String.append_assoc, hchoices]

/-- A name chooses a format exactly when it spells it, and no other format then. Every other name is
refused, with a message that quotes it as it was given; the near misses are among those. -/
theorem ofName_iff_spells (name : String) :
    (∀ f, ofName name = .ok f ↔ Spells name f) ∧
    (∀ f g, Spells name f → Spells name g → f = g) ∧
    (ofName name = .error ⟨name⟩ ↔ ∀ f, ¬ Spells name f) ∧
    (Unknown.mk name).message = "Unknown key format '" ++ name ++
      "' (expected one of: lowerSnakeCase, upperSnakeCase, camelCase, pascalCase)" ∧
    (NearMiss name → ∀ f, ¬ Spells name f) :=
  ⟨fun _ => ofName_eq_ok_iff, fun _ _ => Spells.unique, ofName_eq_error_iff, message_unknown name,
    NearMiss.not_spells⟩

/-- Two dots behind white space and before a value, and a dot that stands off. -/
theorem ofName_iff_spells_of_dotted :
    Spells "\t ..camelCase\n" .camel ∧ ofName "\t ..camelCase\n" = .ok .camel ∧
    NearMiss ". camelCase" ∧ ofName ". camelCase" = .error ⟨". camelCase"⟩ := by
  have hs : "camelCase" ∈ camel.spellings := by decide
  have hblank : ∀ {text : List Char}, text.all isBlank = true → AllBlank text := List.all_eq_true.mp
  have hnil : AllBlank [] := hblank rfl
  have hdots : ∀ n, AllDots (List.replicate n '.') := fun n c hc => List.eq_of_mem_replicate hc
  have hspells : Spells "\t ..camelCase\n" .camel :=
    .framed hs ⟨['\t', ' '], List.replicate 2 '.', ['\n'], hblank (by decide), hdots 2,
      hblank (by decide), by decide⟩
  have hgap : AllBlank [' '] := hblank (by decide)
  have hmiss : NearMiss ". camelCase" :=
    .gap hs hnil (hdots 1) hgap hnil (by decide) (by decide) (by decide)
  obtain ⟨haccepted, -⟩ := ofName_iff_spells "\t ..camelCase\n"
  obtain ⟨-, -, hrefused, -, hnone⟩ := ofName_iff_spells ". camelCase"
  exact ⟨hspells, (haccepted .camel).mpr hspells, hmiss, hrefused.mpr (hnone hmiss)⟩

end CaseKeys.KeyFormat
