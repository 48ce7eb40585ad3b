import CaseKeys.Proofs.Key.Collision
import CaseKeys.Proofs.Key.Language

/-! The words of a snake key that is taken for a case name. A lower snake key gives the words back
that it was made of, an upper snake key gives them cut up at their letters. -/
namespace CaseKeys.Key
open Words Text

/-- The parts of a key between its underscores. The empty key has none. -/
def cutAtUnderscores (key : String) : List String :=
  if key = "" then [] else (key.toList.splitOn '_').map String.ofList

theorem cutAtUnderscores_lowerSnake (name : String) :
    cutAtUnderscores (ofName name .lowerSnake) = Words.ofName name := by
  rw [cutAtUnderscores]
  split
  · rename_i h
    exact ((ofName_eq_empty_iff name .lowerSnake).mp h).symm
  · rename_i h
    have hn : (Words.ofName name).map String.toList ≠ [] :=
      mt List.map_eq_nil_iff.mp (mt (ofName_eq_empty_iff name .lowerSnake).mpr h)
    rw [toList_ofName, joinChars,
      List.splitOn_intercalate '_' (fun w hw => (isWord_of_mem hw).underscore) hn, List.map_map]
    exact map_eq_self fun w _ => String.ofList_toList

theorem rawSegments_lowerSnake (name : String) :
    rawSegments (ofName name .lowerSnake).toList = (Words.ofName name).map String.toList := by
  rw [toList_ofName]
  exact rawSegments_intercalate_of_uncut fun _ => rawSegments_of_mem_word

/-- The words of a name stand between the underscores of its lower snake key. Unless the key begins or
ends with a backtick, they are the words of the key, which then is its own lower snake key and has the
keys of the name in all formats. -/
theorem lowerSnake_read_back (name : String) :
    cutAtUnderscores (ofName name .lowerSnake) = Words.ofName name ∧
    ((ofName name .lowerSnake).toList.head? ≠ some '\x60' →
      (ofName name .lowerSnake).toList.getLast? ≠ some '\x60' →
      Words.ofName (ofName name .lowerSnake) = Words.ofName name ∧
      ofName (ofName name .lowerSnake) .lowerSnake = ofName name .lowerSnake ∧
      ∀ g, ofName (ofName name .lowerSnake) g = ofName name g) := by
  refine ⟨cutAtUnderscores_lowerSnake name, fun hhead hlast => ?_⟩
  have hbare : unescape (ofName name .lowerSnake).toList = (ofName name .lowerSnake).toList :=
    trim_eq_self (fun c hc => decide_eq_false fun h => hhead (h ▸ hc))
      fun c hc => decide_eq_false fun h => hlast (h ▸ hc)
  have hwords : Words.ofName (ofName name .lowerSnake) = Words.ofName name := by
    rw [ofName_of_unescape_eq hbare, rawSegments_lowerSnake, List.map_map]
    refine map_eq_self fun w hw => ?_
    have hl := lower_eq_self_iff.mpr (isLowered_of_mem_word (List.mem_map_of_mem hw))
    rw [Function.comp_apply, hl, String.ofList_toList]
  exact ⟨hwords, ofName_congr hwords .lowerSnake, ofName_congr hwords⟩

/-- A Greek word that ends in a capital sigma, and a dotted capital that becomes two characters. -/
theorem lowerSnake_read_back_of_greek :
    ofName "\x60ΟΔΟΣ_İxA\x60" .lowerSnake = "οδος_i̇x_a" ∧
    "οδος_i̇x_a".toList.head? ≠ some '\x60' ∧ "οδος_i̇x_a".toList.getLast? ≠ some '\x60' ∧
    Words.ofName "\x60ΟΔΟΣ_İxA\x60" = ["οδος", "i̇x", "a"] ∧
    Words.ofName "οδος_i̇x_a" = ["οδος", "i̇x", "a"] ∧
    ofName "οδος_i̇x_a" .lowerSnake = "οδος_i̇x_a" := by
  have hkey : ofName "\x60ΟΔΟΣ_İxA\x60" .lowerSnake = "οδος_i̇x_a" := by decide +kernel
  have hhead : "οδος_i̇x_a".toList.head? ≠ some '\x60' := by decide
  have hlast : "οδος_i̇x_a".toList.getLast? ≠ some '\x60' := by decide
  obtain ⟨hcut, hread⟩ := lowerSnake_read_back "\x60ΟΔΟΣ_İxA\x60"
  rw [hkey] at hcut hread
  obtain ⟨hwords, hself, -⟩ := hread hhead hlast
  have hname : Words.ofName "\x60ΟΔΟΣ_İxA\x60" = ["οδος", "i̇x", "a"] := by
    rw [← hcut]
    decide
  exact ⟨hkey, hhead, hlast, hname, hwords.trans hname, hself⟩

/-- The parts of a word that is cut before every letter but its first character. -/
def cutBeforeLetters (word : String) : List String :=
  (word.toList.splitBy fun _ c => !c.isAlpha).map String.ofList

private theorem lower_upper {t : List Char} (h : ∀ c ∈ t, IsPlain c) : lower (upper t) = t := by
  have hascii : ∀ d ∈ upper t, d.toNat < 0x80 := by
    rw [upper_ascii fun c hc => (h c hc).1]
    intro d hd
    obtain ⟨c, hc, rfl⟩ := List.mem_map.mp hd
    exact toNat_toUpper_lt (h c hc).1
  rw [lower_ascii hascii, map_toLower_upper h]

private theorem not_cutBetween_toUpper {a b : Char} (ha : isSmall a) (hb : isSmall b) :
    (!cutBetween a.toUpper b.toUpper) = !b.isAlpha := by
  have ha' := isAlphanum_of_isLarge (isLarge_toUpper ha)
  have hb' := isAlphanum_of_isLarge (isLarge_toUpper hb)
  simp [cutBetween, ne_underscore_of_isAlphanum ha', ne_underscore_of_isAlphanum hb',
    isAlphanumeric_of_isAlphanum ha', isCapital_toUpper hb]

/-- In upper case every letter is a capital, so that a word is cut before each of them. -/
private theorem rawSegments_upper {w : List Char} (h : IsWordOf isSmall w) :
    (rawSegments (upper w)).map (fun segment => String.ofList (lower segment)) =
      cutBeforeLetters (String.ofList w) := by
  have hplain : ∀ c ∈ w, IsPlain c := fun c hc => isPlain_of_isSmall (h.2 c hc).2
  have hu : '_' ∉ upper w := fun hu => by
    have hlarge := isAlphanum_of_isLarge ((isWordOf_isLarge_upper h).2 '_' hu).2
    exact ne_underscore_of_isAlphanum hlarge rfl
  have hcut : pieces (upper w) = (w.splitBy fun _ c => !c.isAlpha).map upper := by
    have hmap : ∀ g ∈ w.splitBy fun _ c => !c.isAlpha, upper g = g.map Char.toUpper :=
      fun g hg => upper_ascii fun c hc => (hplain c (mem_of_mem_splitBy hg hc)).1
    rw [List.map_congr_left hmap, pieces, upper_ascii fun c hc => (hplain c hc).1]
    exact splitBy_map fun a ha b hb => not_cutBetween_toUpper (h.2 a ha).2 (h.2 b hb).2
  rw [rawSegments_eq_pieces hu, hcut, List.map_map, cutBeforeLetters, String.toList_ofList]
  refine List.map_congr_left fun g hg => congrArg String.ofList ?_
  exact lower_upper fun c hc => hplain c (mem_of_mem_splitBy hg hc)

theorem ofName_upperSnake_words {name : String} (h : IsPlainName name) :
    Words.ofName (ofName name .upperSnake) = (Words.ofName name).flatMap cutBeforeLetters := by
  rw [ofName_of_unescape_eq (unescape_ofName h .upperSnake), toList_ofName, joinChars,
    rawSegments_intercalate, List.map_flatMap, List.flatMap_map, List.flatMap_map]
  refine List.flatMap_congr fun w hw => ?_
  rw [rawSegments_upper (isWordOf_isSmall h (List.mem_map_of_mem hw)), String.ofList_toList]

private theorem cutBeforeLetters_eq_singleton_iff {word : String} (hn : word ≠ "") :
    cutBeforeLetters word = [word] ↔ ∀ c ∈ word.toList.tail, ¬c.isAlpha := by
  have hn' : word.toList ≠ [] := mt String.toList_eq_nil_iff.mp hn
  rw [cutBeforeLetters, ← isChain_iff_forall_tail]
  constructor
  · intro h
    have hs : word.toList.splitBy (fun _ c => !c.isAlpha) = [word.toList] := by
      rw [← (List.map_inj_right fun _ _ => String.ofList_inj.mp), h, List.map_singleton,
        String.ofList_toList]
    have hmem : word.toList ∈ word.toList.splitBy fun _ c => !c.isAlpha := by simp [hs]
    simpa using List.isChain_of_mem_splitBy hmem
  · intro h
    rw [List.splitBy_of_isChain hn' (by simpa using h), List.map_singleton, String.ofList_toList]

/-- A first part that is the whole word is the only one. -/
private theorem cutBeforeLetters_eq_of_head {word : String} {parts : List String}
    (h : cutBeforeLetters word = word :: parts) : parts = [] := by
  obtain ⟨g, gs, hs, hg, rfl⟩ := List.map_eq_cons_iff.mp h
  have hflat := List.flatten_splitBy (fun _ c => !c.isAlpha) word.toList
  rw [hs, List.flatten_cons, ← hg, String.toList_ofList, List.append_right_eq_self] at hflat
  cases gs with
  | nil => rfl
  | cons g' gs =>
    have hn : [] ∈ word.toList.splitBy fun _ c => !c.isAlpha := by
      rw [hs, ← List.flatten_eq_nil_iff.mp hflat g' List.mem_cons_self]
      simp
    exact absurd hn (List.nil_notMem_splitBy _ _)

private theorem cutBeforeLetters_ne_nil {word : String} (hn : word ≠ "") :
    cutBeforeLetters word ≠ [] :=
  mt List.map_eq_nil_iff.mp (List.splitBy_ne_nil.mpr (mt String.toList_eq_nil_iff.mp hn))

private theorem flatMap_cutBeforeLetters_eq_self_iff {words : List String}
    (hn : ∀ w ∈ words, w ≠ "") :
    words.flatMap cutBeforeLetters = words ↔ ∀ w ∈ words, cutBeforeLetters w = [w] := by
  constructor
  · intro h
    induction words with
    | nil => simp
    | cons w words ih =>
      obtain ⟨hw, hwords⟩ := List.forall_mem_cons.mp hn
      obtain ⟨part, parts, hp⟩ := List.exists_cons_of_ne_nil (cutBeforeLetters_ne_nil hw)
      rw [List.flatMap_cons, hp, List.cons_append] at h
      obtain ⟨rfl, hrest⟩ := List.cons.inj h
      obtain rfl := cutBeforeLetters_eq_of_head hp
      exact List.forall_mem_cons.mpr ⟨hp, ih hwords hrest⟩
  · intro h
    exact (List.flatMap_congr h).trans (List.flatMap_singleton' words)

/-- The words of the upper snake key of a plain name are the words of the name, each cut before every
letter but its first character. So the key is its own upper snake key exactly when no word has a letter
behind its first character. -/
theorem upperSnake_read_back {name : String} (h : IsPlainName name) :
    Words.ofName (ofName name .upperSnake) = (Words.ofName name).flatMap cutBeforeLetters ∧
    (ofName (ofName name .upperSnake) .upperSnake = ofName name .upperSnake ↔
      ∀ word ∈ Words.ofName name, ∀ c ∈ word.toList.tail, ¬c.isAlpha) := by
  have hwords := ofName_upperSnake_words h
  have hkey : IsPlainName (ofName name .upperSnake) :=
    isPlainName_of_mem_pattern (ofName_mem_pattern h .upperSnake)
  have hn : ∀ w ∈ Words.ofName name, w ≠ "" := fun w hw =>
    mt String.toList_eq_nil_iff.mpr (isWord_of_mem (List.mem_map_of_mem hw)).nonempty
  refine ⟨hwords, ?_⟩
  calc ofName (ofName name .upperSnake) .upperSnake = ofName name .upperSnake
    _ ↔ Words.ofName (ofName name .upperSnake) = Words.ofName name := by
      rw [ofName_upperSnake_eq_iff (isAscii_of_isPlainName hkey) (isAscii_of_isPlainName h),
        ofName_lowerSnake_eq_iff]
    _ ↔ ∀ w ∈ Words.ofName name, cutBeforeLetters w = [w] := by
      rw [hwords, flatMap_cutBeforeLetters_eq_self_iff hn]
    _ ↔ ∀ w ∈ Words.ofName name, ∀ c ∈ w.toList.tail, ¬c.isAlpha :=
      forall₂_congr fun w hw => cutBeforeLetters_eq_singleton_iff (hn w hw)

/-- A name with a long word and with digits inside and between its words. -/
theorem upperSnake_read_back_of_love :
    IsPlainName "\x60love_c0cX9\x60" ∧
    Words.ofName "\x60love_c0cX9\x60" = ["love", "c0c", "x9"] ∧
    ofName "\x60love_c0cX9\x60" .upperSnake = "LOVE_C0C_X9" ∧
    Words.ofName "LOVE_C0C_X9" = ["l", "o", "v", "e", "c0", "c", "x9"] ∧
    ofName "LOVE_C0C_X9" .upperSnake ≠ "LOVE_C0C_X9" := by
  have h : IsPlainName "\x60love_c0cX9\x60" := by decide
  have hname : Words.ofName "\x60love_c0cX9\x60" = ["love", "c0c", "x9"] := by decide
  have hkey : ofName "\x60love_c0cX9\x60" .upperSnake = "LOVE_C0C_X9" := by decide
  obtain ⟨hwords, hstable⟩ := upperSnake_read_back h
  rw [hkey, hname] at hwords hstable
  refine ⟨h, hname, hkey, hwords.trans (by decide), fun hself => ?_⟩
  exact hstable.mp hself "love" (List.mem_cons_self ..) 'o' (by decide) (by decide)

example : cutBeforeLetters "love" = ["l", "o", "v", "e"] := by decide
example : cutBeforeLetters "c0c" = ["c0", "c"] := by decide

end CaseKeys.Key
