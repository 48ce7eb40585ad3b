import CaseKeys.Proofs.KeyTable.Detection

/-! What a key keeps of an ASCII name. Casing and joining move none of its characters: but for case and
underscores, the key of every format is the name without its outer backticks. -/
namespace CaseKeys.Key
open Words Text

/-- A text in lower case and without underscores. -/
def bare (text : List Char) : List Char :=
  (lower text).filter (· ≠ '_')

section Words
variable {ws : List (List Char)} (h : ∀ w ∈ ws, ∀ c ∈ w, IsPlain c)
include h

private theorem toNat_lt_of_mem_joinChars {f : KeyFormat} :
    ∀ d ∈ joinChars f ws, d.toNat < 0x80 := by
  intro d hd
  rcases mem_joinChars hd with ⟨-, rfl⟩ | ⟨w, hw, c, hc, rfl | hd⟩
  · decide
  · exact (h w hw d hc).1
  · have hascii := (h w hw c hc).1
    rw [upperChar_ascii hascii, List.mem_singleton] at hd
    rw [hd]
    exact toNat_toUpper_lt hascii

/-- In lower case a key tells only whether its format joins the words with underscores. -/
private theorem lower_joinChars (f : KeyFormat) :
    lower (joinChars f ws) = if f.isSnake then ['_'].intercalate ws else ws.flatten := by
  have hself : ∀ w ∈ ws, w.map Char.toLower = w := fun w hw =>
    map_eq_self fun c hc => toLower_of_isPlain (h w hw c hc)
  have hcap : ∀ w ∈ ws, (capitalizeFirst w).map Char.toLower = w := fun w hw =>
    map_toLower_capitalizeFirst (h w hw)
  rw [lower_ascii (toNat_lt_of_mem_joinChars h)]
  cases f with
  | lowerSnake =>
    rw [joinChars, apply_intercalate List.map_nil fun _ _ => List.map_append, map_eq_self hself]
    rfl
  | upperSnake => exact map_toLower_upperSnake h
  | camel =>
    cases ws with
    | nil => rfl
    | cons w ws =>
      obtain ⟨hw, -⟩ := List.forall_mem_cons.mp hself
      obtain ⟨-, hws⟩ := List.forall_mem_cons.mp hcap
      rw [joinChars, List.map_append, hw, List.map_flatMap, List.flatMap_congr hws, List.flatMap_id']
      rfl
  | pascal =>
    rw [joinChars, List.map_flatMap, List.flatMap_congr hcap, List.flatMap_id']
    rfl

private theorem bare_joinChars (hw : ∀ w ∈ ws, '_' ∉ w) (f : KeyFormat) :
    bare (joinChars f ws) = ws.flatten := by
  have hself : ∀ w ∈ ws, w.filter (· ≠ '_') = w := fun w hmem =>
    List.filter_eq_self.mpr fun c hc => decide_eq_true fun hu => hw w hmem (hu ▸ hc)
  have hflat : ws.flatten.filter (· ≠ '_') = ws.flatten := by
    rw [List.filter_flatten, map_eq_self hself]
  rw [bare, lower_joinChars h]
  split
  · rw [apply_intercalate List.filter_nil List.filter_append, map_eq_self hself]
    exact nil_intercalate ws
  · exact hflat

end Words

/-- The words of an ASCII name hold its characters in lower case and in order. -/
private theorem flatten_words {name : String} (h : IsAscii name) :
    ((Words.ofName name).map String.toList).flatten = bare (unescape name.toList) := by
  have hname : ∀ c ∈ unescape name.toList, c.toNat < 0x80 := fun c hc => h c (mem_of_mem_unescape hc)
  have hsegments : ∀ segment ∈ segments name.toList, lower segment = segment.map Char.toLower :=
    fun segment hs => lower_ascii fun c hc => h c ((mem_segments hs).2.2 c hc)
  have hunderscore : ∀ c ∈ unescape name.toList, decide (c ≠ '_') = decide (c.toLower ≠ '_') :=
    fun c hc => decide_eq_decide.mpr (not_congr (toLower_eq_underscore_iff (hname c hc)).symm)
  calc ((Words.ofName name).map String.toList).flatten
    _ = ((segments name.toList).map (List.map Char.toLower)).flatten := by
      rw [map_toList_ofName, List.map_congr_left hsegments]
    _ = ((unescape name.toList).filter (· ≠ '_')).map Char.toLower := by
      rw [← List.map_flatten, segments_eq_rawSegments, flatten_rawSegments]
    _ = bare (unescape name.toList) := by
      rw [bare, lower_ascii hname, List.filter_map, List.filter_congr hunderscore]
      rfl

/-- In lower case and without underscores the key of an ASCII name is the name without its outer
backticks, whatever the format. So ASCII names in conflict differ in outer backticks, underscores and
case alone. -/
theorem bare_ofName_eq_bare_name :
    (∀ name f, IsAscii name → bare (ofName name f).toList = bare (unescape name.toList)) ∧
    ∀ names f, ∀ c ∈ detectConflicts names f, IsAscii c.first → IsAscii c.second →
      bare (unescape c.first.toList) = bare (unescape c.second.toList) := by
  have hkey : ∀ name f, IsAscii name → bare (ofName name f).toList = bare (unescape name.toList) := by
    intro name f h
    rw [toList_ofName, bare_joinChars (fun _ => isPlain_of_mem h)
      (fun _ hw => (isWord_of_mem hw).underscore), flatten_words h]
  refine ⟨hkey, fun names f c hc hfirst hsecond => ?_⟩
  obtain ⟨hf, hs⟩ := KeyTable.key_of_mem_detectConflicts hc
  rw [← hkey c.first f hfirst, hf, ← hs, hkey c.second f hsecond]

/-- Punctuation and a backtick inside the name are kept, and a third name is in conflict with the first. -/
theorem bare_ofName_eq_bare_name_of_punctuation : IsAscii "\x60_a\x60B-c_" ∧
    ofName "\x60_a\x60B-c_" .pascal = "A\x60b-c" ∧
    bare "A\x60b-c".toList = bare "_a\x60B-c_".toList ∧
    ⟨"AB1", "a_b1", "aB1\x60"⟩ ∈ detectConflicts ["a_b1", "ab_1", "aB1\x60"] .pascal ∧
    IsAscii "a_b1" ∧ IsAscii "aB1\x60" ∧
    bare "a_b1".toList = bare "aB1".toList := by
  have hs : IsAscii "\x60_a\x60B-c_" := by decide
  have hc : ⟨"AB1", "a_b1", "aB1\x60"⟩ ∈ detectConflicts ["a_b1", "ab_1", "aB1\x60"] .pascal := by
    decide +kernel
  have hfirst : IsAscii "a_b1" := by decide
  have hsecond : IsAscii "aB1\x60" := by decide
  obtain ⟨hkey, hconflict⟩ := bare_ofName_eq_bare_name
  have hsame := hconflict ["a_b1", "ab_1", "aB1\x60"] .pascal _ hc hfirst hsecond
  have hpascal : ofName "\x60_a\x60B-c_" .pascal = "A\x60b-c" := by decide
  have hbare := hkey "\x60_a\x60B-c_" .pascal hs
  rw [hpascal] at hbare
  exact ⟨hs, hpascal, hbare, hc, hfirst, hsecond, hsame⟩

end CaseKeys.Key
