import CaseKeys.Proofs.Text.Lowered
import CaseKeys.Proofs.Words.Segmentation

/-! What every word of a case name is like, whatever the name. -/
namespace CaseKeys.Words

theorem mem_of_mem_unescape {name : List Char} {c : Char} (h : c ∈ unescape name) : c ∈ name := by
  obtain ⟨before, after, hname, -, -⟩ := Text.exists_eq_append_trim (· = '\x60') name
  rw [hname]
  exact List.mem_append_left _ (List.mem_append_right _ h)

/-- Only backticks are taken off a name. -/
theorem mem_unescape {name : List Char} {c : Char} (h : c ∈ name) (hc : c ≠ '\x60') :
    c ∈ unescape name := by
  obtain ⟨before, after, hname, hb, ha⟩ := Text.exists_eq_append_trim (· = '\x60') name
  rw [hname] at h
  rcases List.mem_append.mp h with h | h
  · rcases List.mem_append.mp h with h | h
    · exact absurd (of_decide_eq_true (hb c h)) hc
    · exact h
  · exact absurd (of_decide_eq_true (ha c h)) hc

/-- The characters of a segment stand between the outer backticks. -/
theorem mem_unescape_of_mem_segments {name segment : List Char} (h : segment ∈ segments name) :
    ∀ c ∈ segment, c ∈ unescape name ∧ c ≠ '_' := by
  rw [segments_eq_rawSegments] at h
  intro c hc
  have hf : c ∈ (rawSegments (unescape name)).flatten := List.mem_flatten.mpr ⟨segment, h, hc⟩
  rw [flatten_rawSegments, List.mem_filter] at hf
  exact ⟨hf.1, by simpa using hf.2⟩

theorem mem_segments {name segment : List Char} (h : segment ∈ segments name) :
    segment ≠ [] ∧ '_' ∉ segment ∧ ∀ c ∈ segment, c ∈ name := by
  have hchars := mem_unescape_of_mem_segments h
  rw [segments_eq_rawSegments] at h
  exact ⟨fun hn => nil_notMem_rawSegments _ (hn ▸ h), fun hu => (hchars '_' hu).2 rfl,
    fun c hc => mem_of_mem_unescape (hchars c hc).1⟩

/-- Every character but an underscore is kept in some segment. -/
theorem rawSegments_eq_nil_iff {t : List Char} : rawSegments t = [] ↔ ∀ c ∈ t, c = '_' := by
  have hfilter : t.filter (· ≠ '_') = [] ↔ ∀ c ∈ t, c = '_' := by
    simp only [List.filter_eq_nil_iff, decide_eq_true_eq, not_not]
  rw [← hfilter, ← flatten_rawSegments]
  constructor
  · intro h
    rw [h, List.flatten_nil]
  · intro h
    apply List.eq_nil_iff_forall_not_mem.mpr
    intro segment hs
    have hn : segment = [] := List.flatten_eq_nil_iff.mp h segment hs
    exact nil_notMem_rawSegments t (hn ▸ hs)

theorem ofName_eq_nil_iff (name : String) :
    ofName name = [] ↔ ∀ c ∈ unescape name.toList, c = '_' := by
  rw [ofName, List.map_eq_nil_iff, segments_eq_rawSegments, rawSegments_eq_nil_iff]

/-- The shape that joining relies on: a word has a character and holds no underscore. -/
structure IsWord (word : List Char) : Prop where
  nonempty : word ≠ []
  underscore : '_' ∉ word

theorem map_toList_ofName (name : String) :
    (ofName name).map String.toList = (segments name.toList).map Text.lower := by
  rw [ofName, List.map_map]
  exact List.map_congr_left fun _ _ => String.toList_ofList

theorem mem_ofName {name : String} {word : List Char}
    (h : word ∈ (ofName name).map String.toList) :
    ∃ segment ∈ segments name.toList, word = Text.lower segment := by
  rw [map_toList_ofName] at h
  obtain ⟨segment, hs, rfl⟩ := List.mem_map.mp h
  exact ⟨segment, hs, rfl⟩

theorem isWord_of_mem {name : String} {word : List Char}
    (h : word ∈ (ofName name).map String.toList) : IsWord word := by
  obtain ⟨segment, hs, rfl⟩ := mem_ofName h
  obtain ⟨hn, hu, -⟩ := mem_segments hs
  exact ⟨Text.lower_ne_nil hn, fun hm => hu (Text.mem_of_mem_lower (by decide) (by decide) hm)⟩

/-- The words of any name are in lower case. -/
theorem isLowered_of_mem_word {name : String} {word : List Char}
    (h : word ∈ (ofName name).map String.toList) : ∀ c ∈ word, Text.IsLowered c := by
  obtain ⟨segment, -, rfl⟩ := mem_ofName h
  exact fun _ => Text.isLowered_of_mem_lower

/-- A case name of ASCII characters only. -/
def IsAscii (name : String) : Prop :=
  ∀ c ∈ name.toList, c.toNat < 0x80

instance (name : String) : Decidable (IsAscii name) :=
  List.decidableBAll (fun c : Char => c.toNat < 0x80) name.toList

/-- The words of an ASCII name are ASCII without capitals. -/
theorem isPlain_of_mem {name : String} (ha : IsAscii name) {word : List Char}
    (h : word ∈ (ofName name).map String.toList) : ∀ c ∈ word, Text.IsPlain c := by
  obtain ⟨segment, hs, rfl⟩ := mem_ofName h
  intro c hc
  exact Text.isPlain_of_mem_lower (fun d hd => ha d ((mem_segments hs).2.2 d hd)) hc

end CaseKeys.Words
