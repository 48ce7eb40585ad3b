import CaseKeys.Key
import CaseKeys.Proofs.Words.Shape

/-! Which words a key can be read back to, and how the keys of two formats are related. -/
namespace CaseKeys.Key
open Words

/-- What is made of a text character by character is made of joined parts one by one. -/
theorem apply_intercalate {α β : Type} {g : List α → List β} (hnil : g [] = [])
    (happend : ∀ u v, g (u ++ v) = g u ++ g v) (sep : List α) (ws : List (List α)) :
    g (sep.intercalate ws) = (g sep).intercalate (ws.map g) := by
  induction ws with
  | nil => exact hnil
  | cons w ws ih =>
    cases ws with
    | nil => simp
    | cons v vs =>
      rw [List.intercalate_cons_cons, happend, happend, ih]
      exact List.intercalate_cons_cons.symm

theorem intercalate_cons (w : List Char) (ws : List (List Char)) :
    ['_'].intercalate (w :: ws) = w ++ ws.flatMap ('_' :: ·) := by
  induction ws generalizing w with
  | nil => simp
  | cons v vs ih => rw [List.intercalate_cons_cons, ih, List.flatMap_cons]; simp

theorem nil_intercalate {α : Type} (ws : List (List α)) : [].intercalate ws = ws.flatten := by
  induction ws with
  | nil => rfl
  | cons w ws ih =>
    cases ws with
    | nil => simp
    | cons v vs =>
      rw [List.intercalate_cons_cons, ih, List.append_nil]
      rfl

private theorem mem_intercalate {α : Type} {sep : List α} {ws : List (List α)} {a : α}
    (h : a ∈ sep.intercalate ws) : a ∈ sep ∨ ∃ w ∈ ws, a ∈ w := by
  induction ws with
  | nil => cases h
  | cons w ws ih =>
    cases ws with
    | nil => exact .inr ⟨w, List.mem_cons_self, by simpa using h⟩
    | cons v vs =>
      rw [List.intercalate_cons_cons, List.append_assoc] at h
      rcases List.mem_append.mp h with hw | h
      · exact .inr ⟨w, List.mem_cons_self, hw⟩
      · rcases List.mem_append.mp h with hs | h
        · exact .inl hs
        · exact (ih h).imp_right fun ⟨u, hu, ha⟩ => ⟨u, List.mem_cons_of_mem w hu, ha⟩

/-- The characters of a key are those of the words, as they are or in upper case, and in a snake format
underscores. -/
theorem mem_joinChars {f : KeyFormat} {ws : List (List Char)} {d : Char} (h : d ∈ joinChars f ws) :
    (f.isSnake ∧ d = '_') ∨ ∃ w ∈ ws, ∃ c ∈ w, d = c ∨ d ∈ Text.upperChar c := by
  have hcap : ∀ w : List Char, d ∈ capitalizeFirst w → ∃ c ∈ w, d = c ∨ d ∈ Text.upperChar c := by
    intro w hd
    cases w with
    | nil => cases hd
    | cons c v =>
      rcases List.mem_append.mp hd with hd | hd
      · exact ⟨c, List.mem_cons_self, .inr hd⟩
      · exact ⟨d, List.mem_cons_of_mem c hd, .inl rfl⟩
  cases f with
  | lowerSnake =>
    rcases mem_intercalate h with hs | ⟨w, hw, hd⟩
    · exact .inl ⟨rfl, List.mem_singleton.mp hs⟩
    · exact .inr ⟨w, hw, d, hd, .inl rfl⟩
  | upperSnake =>
    rcases mem_intercalate h with hs | ⟨_, hm, hd⟩
    · exact .inl ⟨rfl, List.mem_singleton.mp hs⟩
    · obtain ⟨w, hw, rfl⟩ := List.mem_map.mp hm
      obtain ⟨c, hc, hd⟩ := List.mem_flatMap.mp hd
      exact .inr ⟨w, hw, c, hc, .inr hd⟩
  | camel =>
    cases ws with
    | nil => cases h
    | cons w ws =>
      rcases List.mem_append.mp h with hd | hd
      · exact .inr ⟨w, List.mem_cons_self, d, hd, .inl rfl⟩
      · obtain ⟨v, hv, hd⟩ := List.mem_flatMap.mp hd
        exact .inr ⟨v, List.mem_cons_of_mem w hv, hcap v hd⟩
  | pascal =>
    obtain ⟨w, hw, hd⟩ := List.mem_flatMap.mp h
    exact .inr ⟨w, hw, hcap w hd⟩

private theorem joinChars_cons_ne_nil (f : KeyFormat) {word : List Char} (h : word ≠ [])
    (rest : List (List Char)) : joinChars f (word :: rest) ≠ [] := by
  have hcap : capitalizeFirst word ≠ [] := by
    obtain ⟨c, tail, rfl⟩ := List.exists_cons_of_ne_nil h
    exact List.append_ne_nil_of_left_ne_nil (Text.upperChar_ne_nil c) tail
  have hjoin : ∀ w : List Char, w ≠ [] → ∀ ws, ['_'].intercalate (w :: ws) ≠ [] := by
    intro w hw ws
    cases ws with
    | nil => rwa [List.intercalate_singleton]
    | cons v vs =>
      rw [List.intercalate_cons_cons, List.append_assoc]
      exact List.append_ne_nil_of_left_ne_nil hw _
  cases f with
  | lowerSnake => exact hjoin word h rest
  | upperSnake => exact hjoin _ (Text.upper_ne_nil h) _
  | camel => exact List.append_ne_nil_of_left_ne_nil h _
  | pascal =>
    rw [joinChars, List.flatMap_cons]
    exact List.append_ne_nil_of_left_ne_nil hcap _

theorem joinChars_eq_nil_iff (f : KeyFormat) {ws : List (List Char)} (h : ∀ w ∈ ws, IsWord w) :
    joinChars f ws = [] ↔ ws = [] := by
  cases ws with
  | nil => cases f <;> simp [joinChars]
  | cons w rest => simpa using joinChars_cons_ne_nil f (h w List.mem_cons_self).nonempty rest

theorem toList_ofName (name : String) (f : KeyFormat) :
    (ofName name f).toList = joinChars f ((Words.ofName name).map String.toList) :=
  String.toList_ofList

theorem ofName_eq_iff (s t : String) (f : KeyFormat) :
    ofName s f = ofName t f ↔
      joinChars f ((Words.ofName s).map String.toList) =
        joinChars f ((Words.ofName t).map String.toList) := by
  rw [← String.toList_inj, toList_ofName, toList_ofName]

/-- Whether a key is empty does not depend on its format: it is when the name has no words. -/
theorem ofName_eq_empty_iff (name : String) (f : KeyFormat) :
    ofName name f = "" ↔ Words.ofName name = [] := by
  rw [← String.toList_inj, toList_ofName, String.toList_empty,
    joinChars_eq_nil_iff f fun _ => isWord_of_mem, List.map_eq_nil_iff]

/-- The words of a lower snake key are read back at its underscores. -/
theorem joinChars_lowerSnake_injective {ws vs : List (List Char)} (hw : ∀ w ∈ ws, IsWord w)
    (hv : ∀ v ∈ vs, IsWord v) (h : joinChars .lowerSnake ws = joinChars .lowerSnake vs) :
    ws = vs := by
  by_cases hn : ws = []
  · rw [(joinChars_eq_nil_iff .lowerSnake hw).mpr hn] at h
    rw [hn, (joinChars_eq_nil_iff .lowerSnake hv).mp h.symm]
  · have hm : vs ≠ [] := fun hm => hn <| by
      rw [(joinChars_eq_nil_iff .lowerSnake hv).mpr hm] at h
      exact (joinChars_eq_nil_iff .lowerSnake hw).mp h
    rw [← List.splitOn_intercalate '_' (fun w hmem => (hw w hmem).underscore) hn,
      ← List.splitOn_intercalate '_' (fun v hmem => (hv v hmem).underscore) hm]
    exact congrArg (List.splitOn '_') h

theorem ofName_lowerSnake_eq_iff (s t : String) :
    ofName s .lowerSnake = ofName t .lowerSnake ↔ Words.ofName s = Words.ofName t := by
  refine ⟨fun h => ?_, fun h => by rw [ofName, ofName, h]⟩
  have hw := joinChars_lowerSnake_injective (fun _ => isWord_of_mem) (fun _ => isWord_of_mem)
    ((ofName_eq_iff s t .lowerSnake).mp h)
  exact (List.map_inj_right fun _ _ => String.toList_inj.mp).mp hw

theorem ofName_congr {s t : String} (h : Words.ofName s = Words.ofName t) (f : KeyFormat) :
    ofName s f = ofName t f := by
  rw [ofName, ofName, h]

/-- The pascal key is the camel key with its first character in upper case. -/
theorem joinChars_pascal {ws : List (List Char)} (h : ∀ w ∈ ws, IsWord w) :
    joinChars .pascal ws = capitalizeFirst (joinChars .camel ws) := by
  cases ws with
  | nil => rfl
  | cons w rest =>
    obtain ⟨c, tail, rfl⟩ := List.exists_cons_of_ne_nil (h w List.mem_cons_self).nonempty
    simp [joinChars, capitalizeFirst]

end CaseKeys.Key
