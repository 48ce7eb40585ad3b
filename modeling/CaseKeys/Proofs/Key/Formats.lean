import CaseKeys.Proofs.KeyTable.Detection
import CaseKeys.Proofs.Words.Joints

/-! What the keys of one name have in common. They are empty together, and the upper snake and the
pascal key are made of the lower snake and the camel key alone. -/
namespace CaseKeys.Key
open Words

/-- A name of underscores, with backticks around them that escape it. -/
def IsDegenerate (name : String) : Prop :=
  ∃ k m n, name.toList =
    List.replicate k '\x60' ++ List.replicate m '_' ++ List.replicate n '\x60'

theorem isDegenerate_iff (name : String) :
    IsDegenerate name ↔ ∀ c ∈ unescape name.toList, c = '_' := by
  constructor
  · rintro ⟨k, m, n, hname⟩
    have hm : '\x60' ∉ List.replicate m '_' := fun h =>
      absurd (List.eq_of_mem_replicate h) (by decide)
    have hbare : unescape name.toList = List.replicate m '_' :=
      calc unescape name.toList
        _ = unescape (List.replicate m '_') := by rw [hname]; exact unescape_escape k n _
        _ = List.replicate m '_' := unescape_of_notMem hm
    intro c hc
    exact List.eq_of_mem_replicate (hbare ▸ hc)
  · intro h
    obtain ⟨⟨k, n, hname⟩, -, -⟩ := Text.trim_eq '\x60' name.toList
    exact ⟨k, (unescape name.toList).length, n, by rwa [← List.eq_replicate_of_mem h]⟩

/-- The key of a name is empty, whatever the format, exactly when the name has no words, and that is
when only underscores are left of it without its outer backticks. So a name that keeps another character,
as it keeps every letter and digit, has a word and no empty key. -/
theorem ofName_empty_iff_degenerate (name : String) :
    (∀ f, ofName name f = "" ↔ Words.ofName name = []) ∧
    (Words.ofName name = [] ↔ ∀ c ∈ unescape name.toList, c = '_') ∧
    (Words.ofName name = [] ↔ IsDegenerate name) ∧
    (∀ f g, ofName name f = "" ↔ ofName name g = "") ∧
    (∀ c ∈ unescape name.toList, c ≠ '_' → Words.ofName name ≠ [] ∧ ∀ f, ofName name f ≠ "") ∧
    ∀ c ∈ name.toList, Text.isAlphanumeric c → c ∈ unescape name.toList ∧ c ≠ '_' := by
  have hempty := ofName_eq_empty_iff name
  have hwords := ofName_eq_nil_iff name
  refine ⟨hempty, hwords, hwords.trans (isDegenerate_iff name).symm,
    fun f g => (hempty f).trans (hempty g).symm, fun c hc hne => ?_, fun c hc ha => ⟨?_, ?_⟩⟩
  · have hkept : Words.ofName name ≠ [] := fun h => hne (hwords.mp h c hc)
    exact ⟨hkept, fun f => mt (hempty f).mp hkept⟩
  · apply mem_unescape hc
    rintro rfl
    exact absurd ha (by decide)
  · rintro rfl
    exact absurd ha (by decide)

/-- A backtick between underscores is no escape and is kept, as is a letter of another script. -/
theorem ofName_empty_iff_degenerate_of_tick : '\x60' ∈ unescape "\x60_\x60_\x60".toList ∧
    Words.ofName "\x60_\x60_\x60" ≠ [] ∧ ofName "\x60_\x60_\x60" .pascal ≠ "" ∧
    'é' ∈ "_é\x60".toList ∧ Text.isAlphanumeric 'é' ∧ 'é' ∈ unescape "_é\x60".toList := by
  have htick : '\x60' ∈ unescape "\x60_\x60_\x60".toList := by decide
  have hmem : 'é' ∈ "_é\x60".toList := by decide
  have halpha : Text.isAlphanumeric 'é' := by decide
  obtain ⟨-, -, -, -, hkept, -⟩ := ofName_empty_iff_degenerate "\x60_\x60_\x60"
  obtain ⟨hwords, hkeys⟩ := hkept '\x60' htick (by decide)
  obtain ⟨-, -, -, -, -, hletter⟩ := ofName_empty_iff_degenerate "_é\x60"
  exact ⟨htick, hwords, hkeys .pascal, hmem, halpha, (hletter 'é' hmem halpha).1⟩

theorem ofName_upperSnake (name : String) :
    ofName name .upperSnake = String.ofList (Text.upper (ofName name .lowerSnake).toList) := by
  rw [← String.toList_inj, String.toList_ofList, toList_ofName, toList_ofName, joinChars, joinChars,
    apply_intercalate (g := Text.upper) rfl fun _ _ => List.flatMap_append]
  rfl

theorem ofName_pascal (name : String) :
    ofName name .pascal = capitalized (ofName name .camel) := by
  rw [← String.toList_inj, capitalized, String.toList_ofList, toList_ofName, toList_ofName,
    joinChars_pascal fun _ => isWord_of_mem]

/-- The upper snake key is the lower snake key in upper case, and the pascal key the camel key with its
first character in upper case. So names with one camel key have one pascal key, names with one lower
snake key one upper snake key, and no position in conflict under the first is lost under the second. -/
theorem keys_recased :
    (∀ name,
      ofName name .upperSnake = String.ofList (Text.upper (ofName name .lowerSnake).toList) ∧
      ofName name .pascal = capitalized (ofName name .camel)) ∧
    (∀ s t, ofName s .camel = ofName t .camel → ofName s .pascal = ofName t .pascal) ∧
    (∀ s t, ofName s .lowerSnake = ofName t .lowerSnake →
      ofName s .upperSnake = ofName t .upperSnake) ∧
    ∀ names j,
      ((KeyTable.conflictAt names .camel j).isSome → (KeyTable.conflictAt names .pascal j).isSome) ∧
      ((KeyTable.conflictAt names .lowerSnake j).isSome →
        (KeyTable.conflictAt names .upperSnake j).isSome) := by
  have hpascal : ∀ s t, ofName s .camel = ofName t .camel → ofName s .pascal = ofName t .pascal := by
    intro s t h
    rw [ofName_pascal, ofName_pascal, h]
  have hsnake : ∀ s t, ofName s .lowerSnake = ofName t .lowerSnake →
      ofName s .upperSnake = ofName t .upperSnake := by
    intro s t h
    rw [ofName_upperSnake, ofName_upperSnake, h]
  exact ⟨fun name => ⟨ofName_upperSnake name, ofName_pascal name⟩, hpascal, hsnake, fun names j =>
    ⟨KeyTable.isSome_conflictAt_mono fun s _ t _ => hpascal s t,
      KeyTable.isSome_conflictAt_mono fun s _ t _ => hsnake s t⟩⟩

/-- Two names whose keys grow in upper case, in conflict under all formats. -/
theorem keys_recased_of_ligature :
    ofName "ﬁ_ßa" .camel = "ﬁSSa" ∧ ofName "ﬁ__ßa" .camel = "ﬁSSa" ∧
    ofName "ﬁ_ßa" .pascal = "FISSa" ∧ ofName "ﬁ__ßa" .pascal = "FISSa" ∧
    ofName "ﬁ_ßa" .lowerSnake = "ﬁ_ßa" ∧ ofName "ﬁ_ßa" .upperSnake = "FI_SSA" ∧
    (KeyTable.conflictAt ["ﬁ_ßa", "ﬁ__ßa"] .lowerSnake 1).isSome ∧
    (KeyTable.conflictAt ["ﬁ_ßa", "ﬁ__ßa"] .upperSnake 1).isSome := by
  have hcamel : ofName "ﬁ_ßa" .camel = "ﬁSSa" := by decide
  have hother : ofName "ﬁ__ßa" .camel = "ﬁSSa" := by decide
  have hlower : ofName "ﬁ_ßa" .lowerSnake = "ﬁ_ßa" := by decide
  have hsnake : (KeyTable.conflictAt ["ﬁ_ßa", "ﬁ__ßa"] .lowerSnake 1).isSome := by decide
  obtain ⟨hrecased, hpascal, -, hpositions⟩ := keys_recased
  obtain ⟨hupper, hcapital⟩ := hrecased "ﬁ_ßa"
  rw [hlower] at hupper
  rw [hcamel] at hcapital
  have hfirst : ofName "ﬁ_ßa" .pascal = "FISSa" := hcapital.trans (by decide)
  have hshared := hpascal "ﬁ_ßa" "ﬁ__ßa" (hcamel.trans hother.symm)
  exact ⟨hcamel, hother, hfirst, hshared.symm.trans hfirst, hlower, hupper.trans (by decide), hsnake,
    (hpositions _ 1).2 hsnake⟩

end CaseKeys.Key
