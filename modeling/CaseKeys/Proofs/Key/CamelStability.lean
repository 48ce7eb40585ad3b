import CaseKeys.CaseName
import CaseKeys.Proofs.Key.Joining
import CaseKeys.Proofs.Words.Joints

/-! When a camel key is its own camel key. Lower case undoes what capitalizing has changed, and words
are capitalized again only where the key is cut: before ASCII capitals that follow a letter or digit. -/
namespace CaseKeys

private theorem CaseName.isWordChar_of_isValid {name : String} (h : isValid name) :
    ∀ c ∈ Words.unescape name.toList, Words.isWordChar c := by
  rw [isValid] at h
  split at h
  · cases h
  · rename_i c rest hname
    rw [hname]
    exact List.all_eq_true.mp (Bool.and_eq_true_iff.mp h).2

namespace Key
open Words Text

/-- The number of characters that lower case would change. -/
def unlowered (t : List Char) : Nat :=
  t.countP fun c => !decide (IsLowered c)

private theorem unlowered_cons_of_isCapital {c : Char} (hc : isCapital c) (t : List Char) :
    unlowered (c :: t) = unlowered t + 1 := by
  have h : ¬IsLowered c := fun h => absurd hc (by simp [isCapital_eq_false_of_isLowered h])
  simp [unlowered, h]

private theorem unlowered_append (u v : List Char) :
    unlowered (u ++ v) = unlowered u + unlowered v :=
  List.countP_append

private theorem unlowered_eq_zero_iff {t : List Char} : unlowered t = 0 ↔ ∀ c ∈ t, IsLowered c := by
  simp [unlowered]

/-- A segment that begins with an ASCII capital keeps it, and the rest is put into lower case. -/
private theorem capitalizeFirst_lower_capital {c : Char} (hc : isCapital c) (t : List Char) :
    ∃ cased, capitalizeFirst (lower (c :: t)) = c :: lowerAfter cased t := by
  have hlt : c.toNat < 0x80 := toNat_lt_of_isCapital hc
  have hup : c.toLower.toNat < 0x80 ∧ c.toLower.toUpper = c := forall_ascii
    (P := fun c => isCapital c → c.toLower.toNat < 0x80 ∧ c.toLower.toUpper = c) (by decide) c hlt hc
  have hs : c ≠ '\u03A3' := by
    rintro rfl
    exact absurd hlt (by decide)
  refine ⟨if isCaseIgnorable c then false else isCased c, ?_⟩
  rw [lower, lowerAfter, if_neg hs, lowerChar, if_pos hlt, List.singleton_append, capitalizeFirst,
    upperChar_ascii hup.1, hup.2, List.singleton_append]

private theorem unlowered_capitalized {segments : List (List Char)}
    (h : ∀ g ∈ segments, AfterCut g) :
    unlowered (segments.flatMap fun g => capitalizeFirst (lower g)) = segments.length := by
  induction segments with
  | nil => rfl
  | cons g gs ih =>
    obtain ⟨⟨c, t, rfl, hc⟩, hgs⟩ := List.forall_mem_cons.mp h
    obtain ⟨cased, hcap⟩ := capitalizeFirst_lower_capital hc t
    have hrest : unlowered (lowerAfter cased t) = 0 :=
      unlowered_eq_zero_iff.mpr fun _ => isLowered_of_mem_lowerAfter
    rw [List.flatMap_cons, unlowered_append, hcap, unlowered_cons_of_isCapital hc, hrest, ih hgs,
      List.length_cons]
    omega

/-- Segments behind a cut have one character each that lower case changes, or more. -/
private theorem length_le_unlowered {segments : List (List Char)} (h : ∀ g ∈ segments, AfterCut g) :
    segments.length ≤ unlowered segments.flatten ∧
      (unlowered segments.flatten ≤ segments.length → ∀ g ∈ segments, ∀ c ∈ g.tail, IsLowered c) := by
  induction segments with
  | nil => simp [unlowered]
  | cons g gs ih =>
    obtain ⟨⟨c, t, rfl, hc⟩, hgs⟩ := List.forall_mem_cons.mp h
    obtain ⟨hle, htails⟩ := ih hgs
    rw [List.flatten_cons, unlowered_append, unlowered_cons_of_isCapital hc, List.length_cons]
    refine ⟨by omega, fun hge => List.forall_mem_cons.mpr ⟨?_, htails (by omega)⟩⟩
    have hzero : unlowered t = 0 := by omega
    exact unlowered_eq_zero_iff.mp hzero

private theorem capitalizeFirst_lower_eq_self {g : List Char} (h : AfterCut g)
    (ht : ∀ c ∈ g.tail, IsLowered c) : capitalizeFirst (lower g) = g := by
  obtain ⟨c, t, rfl, hc⟩ := h
  obtain ⟨cased, hcap⟩ := capitalizeFirst_lower_capital hc t
  rw [List.tail_cons] at ht
  rw [hcap, lowerAfter_eq_self ht]

/-- Segments are put together to the text that they were cut from when nothing but their first
characters is changed by lower case. -/
private theorem joinChars_camel_lower_eq_iff {g : List Char} {segments : List (List Char)}
    (hg : ∀ c ∈ g.head?, IsLowered c) (h : ∀ s ∈ segments, AfterCut s) :
    joinChars .camel ((g :: segments).map lower) = (g :: segments).flatten ↔
      ∀ s ∈ g :: segments, ∀ c ∈ s.tail, IsLowered c := by
  rw [List.map_cons, joinChars, List.flatMap_map, List.flatten_cons, List.forall_mem_cons]
  constructor
  · intro heq
    have hcount := congrArg unlowered heq
    have hzero : unlowered (lower g) = 0 := unlowered_eq_zero_iff.mpr fun _ => isLowered_of_mem_lower
    obtain ⟨hle, htails⟩ := length_le_unlowered h
    rw [unlowered_append, unlowered_append, hzero, unlowered_capitalized h] at hcount
    refine ⟨fun c hc => ?_, htails (by omega)⟩
    exact unlowered_eq_zero_iff.mp (by omega) c (List.mem_of_mem_tail hc)
  · rintro ⟨hgt, htails⟩
    have hall : ∀ c ∈ g, IsLowered c := by
      cases g with
      | nil => simp
      | cons c t => exact List.forall_mem_cons.mpr ⟨hg c rfl, hgt⟩
    have hsegments : ∀ s ∈ segments, capitalizeFirst (lower s) = s := fun s hs =>
      capitalizeFirst_lower_eq_self (h s hs) (htails s hs)
    rw [lower_eq_self_iff.mpr hall, List.flatMap_congr hsegments]
    simp

section Pieces
variable {k : List Char}

/-- The tails of the pieces are in lower case when the text is cut before everything that is not. -/
private theorem forall_tail_pieces_iff :
    (∀ g ∈ pieces k, ∀ c ∈ g.tail, IsLowered c) ↔
      k.IsChain fun a b => IsLowered b ∨ cutBetween a b := by
  have hlink : (pieces k).IsChain fun g g' => ∀ a ∈ g.getLast?, ∀ b ∈ g'.head?,
      IsLowered b ∨ cutBetween a b := by
    refine (List.isChain_getLast_head_splitBy (fun a b => !cutBetween a b) k).imp ?_
    rintro g g' ⟨hn, hn', hcut⟩ a ha b hb
    rw [List.getLast?_eq_some_getLast hn, Option.mem_some] at ha
    rw [List.head?_eq_some_head hn', Option.mem_some] at hb
    rw [← ha, ← hb]
    exact .inr (by simpa using hcut)
  conv_rhs => rw [← List.flatten_splitBy (fun a b => !cutBetween a b) k]
  rw [List.isChain_flatten (List.nil_notMem_splitBy _ k)]
  refine ⟨fun h => ⟨fun g hg => (isChain_iff_forall_tail.mpr (h g hg)).imp fun _ _ => .inl, hlink⟩, ?_⟩
  rintro ⟨h, -⟩ g hg
  have huncut := List.isChain_of_mem_splitBy hg
  refine isChain_iff_forall_tail.mp ?_
  rw [List.isChain_iff_forall_rel_of_append_cons_cons] at huncut ⊢
  intro a b u v he
  have hcut : ¬cutBetween a b := by simpa using huncut he
  exact (List.isChain_iff_forall_rel_of_append_cons_cons.mp (h g hg) he).resolve_right hcut

private theorem joinChars_camel_pieces_eq_iff (hu : '_' ∉ k) (hhead : ∀ c ∈ k.head?, IsLowered c) :
    joinChars .camel ((pieces k).map lower) = k ↔
      k.IsChain fun a b => IsLowered b ∨ cutBetween a b := by
  have hafter := afterCut_of_mem_tail_pieces hu
  have hflat := List.flatten_splitBy (fun a b => !cutBetween a b) k
  rw [← forall_tail_pieces_iff]
  rw [← pieces] at hflat
  cases hp : pieces k with
  | nil =>
    rw [hp] at hflat
    simp [joinChars, ← hflat]
  | cons g gs =>
    rw [hp] at hafter hflat
    rw [← head?_of_pieces_eq_cons hp] at hhead
    conv_lhs => rw [← hflat]
    exact joinChars_camel_lower_eq_iff hhead hafter

end Pieces

/-- A text without underscores or backticks that begins in lower case is its own camel key when it is
cut before everything that lower case would change. -/
theorem ofName_camel_eq_self_iff {key : String} (hu : '_' ∉ key.toList)
    (htick : '\x60' ∉ key.toList) (hhead : ∀ c ∈ key.toList.head?, IsLowered c) :
    ofName key .camel = key ↔
      key.toList.IsChain fun a b => IsLowered b ∨ isCapital b ∧ isAlphanumeric a := by
  have hwords : (Words.ofName key).map String.toList = (pieces key.toList).map lower := by
    rw [map_toList_ofName, segments_eq_rawSegments, unescape_of_notMem htick,
      rawSegments_eq_pieces hu]
  rw [← String.toList_inj, toList_ofName, hwords, joinChars_camel_pieces_eq_iff hu hhead]
  refine List.IsChain.iff_of_mem_imp fun a b ha hb => or_congr_right ?_
  have ha' : a ≠ '_' := fun h => hu (h ▸ ha)
  have hb' : b ≠ '_' := fun h => hu (h ▸ hb)
  simp [cutBetween, ha', hb']

/-- The first word of a camel key stands as it is. -/
private theorem isLowered_of_mem_head?_camel {name : String} {c : Char}
    (h : c ∈ (joinChars .camel ((Words.ofName name).map String.toList)).head?) : IsLowered c := by
  have hwords : ∀ w ∈ (Words.ofName name).map String.toList, w ≠ [] ∧ ∀ d ∈ w, IsLowered d :=
    fun w hw => ⟨(isWord_of_mem hw).nonempty, isLowered_of_mem_word hw⟩
  generalize (Words.ofName name).map String.toList = ws at h hwords
  cases ws with
  | nil => cases h
  | cons w ws =>
    obtain ⟨hn, hlowered⟩ := hwords w List.mem_cons_self
    rw [joinChars, List.head?_append_of_ne_nil w hn] at h
    exact hlowered c (List.mem_of_mem_head? h)

/-- The words of a valid name without capitals are made of letters and digits of the name. -/
private theorem isAlphanumeric_of_mem_word {name : String} (hv : CaseName.isValid name)
    (hl : lower (unescape name.toList) = unescape name.toList) {word : List Char}
    (hw : word ∈ (Words.ofName name).map String.toList) : ∀ c ∈ word, isAlphanumeric c := by
  obtain ⟨segment, hs, rfl⟩ := mem_ofName hw
  have hchars := mem_unescape_of_mem_segments hs
  have hlower : lower segment = segment :=
    lower_eq_self_iff.mpr fun c hc => lower_eq_self_iff.mp hl c (hchars c hc).1
  rw [hlower]
  intro c hc
  obtain ⟨hmem, hu⟩ := hchars c hc
  have hword := CaseName.isWordChar_of_isValid hv c hmem
  simpa [isWordChar, hu] using hword

private theorem notMem_camel {name : String} (hv : CaseName.isValid name)
    (hl : lower (unescape name.toList) = unescape name.toList) {c : Char} (hc : IsPlain c)
    (hzero : c.toNat ≠ 0) (hna : isAlphanumeric c = false) : c ∉ (ofName name .camel).toList := by
  intro hm
  rw [toList_ofName] at hm
  obtain ⟨w, hw, d, hd, hcd⟩ := (mem_joinChars hm).resolve_left fun h => nomatch h.1
  have heq : c = d := hcd.elim id fun hcd => eq_of_mem_upperChar hcd hc hzero
  exact absurd (isAlphanumeric_of_mem_word hv hl hw d hd) (by simp [← heq, hna])

/-- A character whose upper-case form, if it has one of its own, is an ASCII character. -/
def CapitalizesInAscii (c : Char) : Prop :=
  c.toNat < 0x80 ∨ upperChar c = [c]

private theorem upperChar_of_capitalizesInAscii {c : Char} (hc : CapitalizesInAscii c)
    (hl : IsLowered c) (ha : isAlphanumeric c) :
    ∃ d, upperChar c = [d] ∧ isAlphanumeric d ∧ (IsLowered d ∨ isCapital d) := by
  rcases hc with hlt | hself
  · have hup : isAlphanumeric c →
        isAlphanumeric c.toUpper ∧ (IsLowered c.toUpper ∨ isCapital c.toUpper) :=
      forall_ascii (P := fun c => isAlphanumeric c →
        isAlphanumeric c.toUpper ∧ (IsLowered c.toUpper ∨ isCapital c.toUpper)) (by decide) c hlt
    exact ⟨c.toUpper, upperChar_ascii hlt, hup ha⟩
  · exact ⟨c, hself, ha, .inl hl⟩

/-- Words of letters and digits in lower case whose camel key is cut at every capital. -/
private theorem isChain_camel {ws : List (List Char)}
    (hws : ∀ w ∈ ws, ∀ c ∈ w, IsLowered c ∧ isAlphanumeric c)
    (hn : ∀ w ∈ ws, w ≠ []) (hinitial : ∀ w ∈ ws.tail, ∀ c ∈ w.head?, CapitalizesInAscii c) :
    (joinChars .camel ws).IsChain fun a b => IsLowered b ∨ isCapital b ∧ isAlphanumeric a := by
  cases ws with
  | nil => exact List.isChain_nil
  | cons w ws =>
    obtain ⟨hw, hrest⟩ := List.forall_mem_cons.mp hws
    obtain ⟨hwn, hrestn⟩ := List.forall_mem_cons.mp hn
    -- a capitalized word is one character, lowered or a capital, and the rest of the word
    have hcap : ∀ g ∈ ws.map capitalizeFirst, ∃ d v, g = d :: v ∧ isAlphanumeric d ∧
        (IsLowered d ∨ isCapital d) ∧ ∀ c ∈ v, IsLowered c ∧ isAlphanumeric c := by
      intro g hg
      obtain ⟨u, hu, rfl⟩ := List.mem_map.mp hg
      obtain ⟨c, v, rfl⟩ := List.exists_cons_of_ne_nil (hrestn u hu)
      obtain ⟨hc, hv⟩ := List.forall_mem_cons.mp (hrest _ hu)
      obtain ⟨d, hd, hda, hdl⟩ := upperChar_of_capitalizesInAscii (hinitial _ hu c rfl) hc.1 hc.2
      exact ⟨d, v, by rw [capitalizeFirst, hd]; rfl, hda, hdl, hv⟩
    have htail : ∀ g ∈ w :: ws.map capitalizeFirst, ∀ c ∈ g.tail, IsLowered c := by
      refine List.forall_mem_cons.mpr ⟨fun c hc => (hw c (List.mem_of_mem_tail hc)).1, fun g hg => ?_⟩
      obtain ⟨d, v, rfl, -, -, hv⟩ := hcap g hg
      exact fun c hc => (hv c hc).1
    have halpha : ∀ g ∈ w :: ws.map capitalizeFirst, ∀ c ∈ g, isAlphanumeric c := by
      refine List.forall_mem_cons.mpr ⟨fun c hc => (hw c hc).2, fun g hg => ?_⟩
      obtain ⟨d, v, rfl, hd, -, hv⟩ := hcap g hg
      exact List.forall_mem_cons.mpr ⟨hd, fun c hc => (hv c hc).2⟩
    have hnil : [] ∉ w :: ws.map capitalizeFirst := fun h => by
      rcases List.mem_cons.mp h with h | h
      · exact hwn h.symm
      · obtain ⟨d, v, h, -⟩ := hcap [] h
        cases h
    rw [joinChars, List.flatMap_def, ← List.flatten_cons, List.isChain_flatten hnil]
    refine ⟨fun g hg => (isChain_iff_forall_tail.mpr (htail g hg)).imp fun _ _ => .inl, ?_⟩
    refine (List.isChain_isInfix _).imp_of_mem_tail_imp fun g g' hg hg' _ a ha b hb => ?_
    obtain ⟨d, v, rfl, -, hdl, -⟩ := hcap g' hg'
    obtain rfl := Option.mem_some.mp hb
    exact hdl.imp_right fun hd => ⟨hd, halpha g hg a (List.mem_of_mem_getLast? ha)⟩

/-- A valid name that lower case leaves as it is has a stable camel key exactly when every character of
the key that lower case would change is an ASCII capital behind a letter or digit. That is so whenever
every word but the first begins with an ASCII character or with one that has no upper-case form. -/
theorem camel_stable_iff {name : String} (hv : CaseName.isValid name)
    (hl : lower (unescape name.toList) = unescape name.toList) :
    (ofName (ofName name .camel) .camel = ofName name .camel ↔
      (ofName name .camel).toList.IsChain fun a b =>
        IsLowered b ∨ isCapital b ∧ isAlphanumeric a) ∧
    ((∀ word ∈ (Words.ofName name).tail, ∀ c ∈ word.toList.head?, CapitalizesInAscii c) →
      ofName (ofName name .camel) .camel = ofName name .camel) := by
  have hu : '_' ∉ (ofName name .camel).toList :=
    notMem_camel hv hl ⟨by decide, by decide⟩ (by decide) (by decide)
  have htick : '\x60' ∉ (ofName name .camel).toList :=
    notMem_camel hv hl ⟨by decide, by decide⟩ (by decide) (by decide)
  have hhead : ∀ c ∈ (ofName name .camel).toList.head?, IsLowered c := fun c hc => by
    rw [toList_ofName] at hc
    exact isLowered_of_mem_head?_camel hc
  have hstable := ofName_camel_eq_self_iff hu htick hhead
  refine ⟨hstable, fun hinitial => hstable.mpr ?_⟩
  rw [toList_ofName]
  refine isChain_camel
    (fun w hw c hc => ⟨isLowered_of_mem_word hw c hc, isAlphanumeric_of_mem_word hv hl hw c hc⟩)
    (fun w hw => (isWord_of_mem hw).nonempty) fun w hw => ?_
  rw [← List.map_tail] at hw
  obtain ⟨word, hword, rfl⟩ := List.mem_map.mp hw
  exact hinitial word hword

/-- Two words that begin with a sharp s, which becomes two capitals, and with an ideograph. -/
theorem camel_stable_iff_of_sharp : CaseName.isValid "straße_ßx_日" ∧
    lower (unescape "straße_ßx_日".toList) = unescape "straße_ßx_日".toList ∧
    ofName "straße_ßx_日" .camel = "straßeSSx日" ∧
    ofName "straßeSSx日" .camel = "straßeSSx日" := by
  have hv : CaseName.isValid "straße_ßx_日" := by decide +kernel
  have hl : lower (unescape "straße_ßx_日".toList) = unescape "straße_ßx_日".toList := by
    decide
  have hkey : ofName "straße_ßx_日" .camel = "straßeSSx日" := by decide
  have hstable := (camel_stable_iff hv hl).1.mpr (by decide)
  exact ⟨hv, hl, hkey, hkey ▸ hstable⟩

/-- Without the condition on the key the names of lower-case words are not stable: the accented capital
that begins the second word of a key is not read as the begin of a word. -/
theorem camel_not_stable_of_accent : ¬∀ name : String, CaseName.isValid name →
    lower (unescape name.toList) = unescape name.toList →
    ofName (ofName name .camel) .camel = ofName name .camel := by
  intro h
  have hstable := h "a_é" (by decide) (by decide)
  exact absurd hstable (by decide)

end Key
end CaseKeys
