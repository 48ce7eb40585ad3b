import CaseKeys.Proofs.Words.Joints

/-! The words that case names are made of, and no others: every list of such words is that of some name. -/
namespace CaseKeys.Words

/-- A word: a text with a character, without underscores and ASCII capitals, and left as it is by lower
case as a whole. -/
structure InVocabulary (word : String) : Prop where
  nonempty : word ≠ ""
  underscore : '_' ∉ word.toList
  capital : ∀ c ∈ word.toList, isCapital c = false
  lowered : Text.lower word.toList = word.toList

private theorem inVocabulary_of_mem {name word : String} (h : word ∈ ofName name) :
    InVocabulary word := by
  have hm : word.toList ∈ (ofName name).map String.toList := List.mem_map_of_mem h
  have hword := isWord_of_mem hm
  have hlowered := isLowered_of_mem_word hm
  refine ⟨?_, hword.underscore, fun c hc => ?_, Text.lower_eq_self_iff.mpr hlowered⟩
  · rintro rfl
    exact hword.nonempty rfl
  · exact Text.isCapital_eq_false_of_isLowered (hlowered c hc)

private theorem InVocabulary.rawSegments_eq {word : String} (h : InVocabulary word) :
    rawSegments word.toList = [word.toList] := by
  have hn : word.toList ≠ [] := by
    intro hn
    exact h.nonempty (String.toList_inj.mp hn)
  exact rawSegments_eq_singleton hn h.underscore fun c hc => h.capital c (List.mem_of_mem_tail hc)

/-- The words with underscores between them and around them, where no backtick is an escape. -/
def spelled (words : List String) : String :=
  String.ofList ('_' :: (['_'].intercalate (words.map String.toList) ++ ['_']))

theorem ofName_spelled {words : List String} (h : ∀ word ∈ words, InVocabulary word) :
    ofName (spelled words) = words := by
  have hbare : unescape (spelled words).toList = (spelled words).toList := by
    rw [spelled, String.toList_ofList]
    apply Text.trim_eq_self
    · intro c hc
      obtain rfl : '_' = c := Option.some.inj hc
      rfl
    · intro c hc
      rw [← List.cons_append, List.getLast?_concat] at hc
      obtain rfl : '_' = c := Option.some.inj hc
      rfl
  have hsegments : rawSegments (spelled words).toList = words.map String.toList :=
    calc rawSegments (spelled words).toList
      _ = rawSegments ([] ++ '_' :: (['_'].intercalate (words.map String.toList) ++ '_' :: [])) := by
        rw [spelled, String.toList_ofList, List.nil_append]
      _ = rawSegments (['_'].intercalate (words.map String.toList)) := by
        rw [rawSegments_append_underscore, rawSegments_append_underscore]
        exact List.append_nil _
      _ = words.map String.toList := by
        apply rawSegments_intercalate_of_uncut
        intro w hw
        obtain ⟨word, hword, rfl⟩ := List.mem_map.mp hw
        exact (h word hword).rawSegments_eq
  rw [ofName_of_unescape_eq hbare, hsegments, List.map_map]
  conv_rhs => rw [← List.map_id words]
  apply List.map_congr_left
  intro word hword
  rw [Function.comp_apply, (h word hword).lowered, String.ofList_toList, id]

/-- The words of every name are in the vocabulary, whatever the scan cut, and every list of words in the
vocabulary is the list of words of some name. Lower case changes a segment no second time. -/
theorem words_of_names :
    (∀ name : String, ∀ word ∈ ofName name, word ≠ "" ∧ '_' ∉ word.toList ∧
      (∀ c ∈ word.toList, isCapital c = false) ∧ Text.lower word.toList = word.toList) ∧
    (∀ name : String, ∀ segment ∈ segments name.toList,
      Text.lower (Text.lower segment) = Text.lower segment) ∧
    ∀ words : List String, (∃ name, ofName name = words) ↔ ∀ word ∈ words, InVocabulary word := by
  refine ⟨fun name word h => ?_, fun name segment _ => Text.lower_lower segment, fun words => ?_⟩
  · obtain ⟨hnonempty, hunderscore, hcapital, hlowered⟩ := inVocabulary_of_mem h
    exact ⟨hnonempty, hunderscore, hcapital, hlowered⟩
  · constructor
    · rintro ⟨name, rfl⟩ word hword
      exact inVocabulary_of_mem hword
    · intro h
      exact ⟨spelled words, ofName_spelled h⟩

/-- A sigma at the end of its segment, a capital whose lower case has two characters, and a word that
begins with a backtick. -/
theorem words_of_names_of_sigma :
    "ας" ∈ ofName "xİ_ΑΣ" ∧ Text.lower "ας".toList = "ας".toList ∧
    "xİ".toList ∈ segments "xİ_ΑΣ".toList ∧
    Text.lower (Text.lower "xİ".toList) = Text.lower "xİ".toList ∧
    ∃ name, ofName name = ["\x60a", "ας"] := by
  have hsigma : "ας" ∈ ofName "xİ_ΑΣ" := by decide +kernel
  have htick : "\x60a" ∈ ofName "_\x60a" := by decide
  have hsegment : "xİ".toList ∈ segments "xİ_ΑΣ".toList := by decide
  have hvocabulary : ∀ word ∈ ["\x60a", "ας"], InVocabulary word := by
    intro word h
    rcases List.mem_pair.mp h with rfl | rfl
    · exact inVocabulary_of_mem htick
    · exact inVocabulary_of_mem hsigma
  obtain ⟨hwords, hlower, hlists⟩ := words_of_names
  exact ⟨hsigma, (hwords _ _ hsigma).2.2.2, hsegment, hlower _ _ hsegment,
    (hlists _).mpr hvocabulary⟩

end CaseKeys.Words
