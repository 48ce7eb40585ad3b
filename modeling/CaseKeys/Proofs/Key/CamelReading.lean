import CaseKeys.Proofs.Key.Language

/-! The words of a camel or pascal key that is taken for a case name. Every capital of the key begins a
word; a word that began with a digit has no capital and is lost in the word before it. -/
namespace CaseKeys.Key
open Words Text

def beginsWithDigit (word : String) : Bool :=
  word.toList.head?.any Char.isDigit

/-- A word and those after it, where each that begins with a digit is appended to the one before. -/
def attachTo (word : String) : List String → List String
  | [] => [word]
  | next :: rest =>
    if beginsWithDigit next then attachTo (word ++ next) rest else word :: attachTo next rest

/-- The words with every word but the first that begins with a digit appended to the word before. -/
def attachDigits : List String → List String
  | [] => []
  | word :: rest => attachTo word rest

private theorem lower_append_of_ascii {u v : List Char} (hu : ∀ c ∈ u, c.toNat < 0x80)
    (hv : ∀ c ∈ v, c.toNat < 0x80) : lower (u ++ v) = lower u ++ lower v := by
  rw [lower_ascii hu, lower_ascii hv, ← List.map_append]
  exact lower_ascii fun c hc => (List.mem_append.mp hc).elim (hu c) (hv c)

section Reading
variable {first : Char} {reading : List Char} (hfirst : first.isAlphanum)
  (hreading : ∀ c ∈ reading, isSmall c)
include hfirst hreading

private theorem isAlphanum_of_mem_segment : ∀ c ∈ first :: reading, c.isAlphanum :=
  List.forall_mem_cons.mpr ⟨hfirst, fun c hc => isAlphanum_of_isSmall (hreading c hc)⟩

private theorem rawSegments_segment : rawSegments (first :: reading) = [first :: reading] :=
  rawSegments_eq_singleton (List.cons_ne_nil _ _)
    (underscore_notMem_run (isAlphanum_of_mem_segment hfirst hreading))
    fun c hc => isCapital_eq_false_of_isSmall (hreading c hc)

private theorem lower_segment_append {w : String} (hw : IsWordOf isSmall w.toList) :
    String.ofList (lower (first :: (reading ++ w.toList))) =
      String.ofList (lower (first :: reading)) ++ w := by
  have hascii : ∀ c ∈ first :: reading, c.toNat < 0x80 := fun c hc =>
    toNat_lt_of_isAlphanum (isAlphanum_of_mem_segment hfirst hreading c hc)
  rw [← List.cons_append, lower_append_of_ascii hascii fun c hc => (hw.2 c hc).1,
    lower_of_isSmall fun c hc => (hw.2 c hc).2, String.ofList_append, String.ofList_toList]

/-- A segment that is being read, and behind it the words that a camel key capitalizes. -/
private theorem rawSegments_append_capitalized {words : List String}
    (hwords : ∀ w ∈ words, IsWordOf isSmall w.toList) :
    (rawSegments (first :: reading ++ words.flatMap fun w => capitalizeFirst w.toList)).map
        (fun segment => String.ofList (lower segment)) =
      attachTo (String.ofList (lower (first :: reading))) words := by
  induction words generalizing first reading with
  | nil =>
    rw [List.flatMap_nil, List.append_nil, rawSegments_segment hfirst hreading]
    rfl
  | cons w words ih =>
    obtain ⟨hw, hrest⟩ := List.forall_mem_cons.mp hwords
    have hlower := lower_capitalizeFirst hw
    have halpha := isAlphanum_of_mem_segment hfirst hreading
    obtain ⟨c, v, hcv⟩ := List.exists_cons_of_ne_nil hw.1
    rw [hcv] at hw hlower
    obtain ⟨hc, hv⟩ := List.forall_mem_cons.mp hw.2
    rw [capitalizeFirst_cons_of_isSmall hc.2] at hlower
    rw [List.flatMap_cons, hcv, capitalizeFirst_cons_of_isSmall hc.2, attachTo]
    by_cases hd : c.isDigit = true
    · -- the word has no capital, and the segment goes on
      have hnext : ∀ d ∈ reading ++ c :: v, isSmall d := fun d hm =>
        (List.mem_append.mp hm).elim (hreading d) fun hm => (hw.2 d hm).2
      have hword := lower_segment_append hfirst hreading (hcv ▸ hw)
      rw [hcv] at hword
      rw [toUpper_of_isDigit hd, if_pos (by simp [beginsWithDigit, hcv, hd]), ← hword,
        ← ih hfirst hnext hrest]
      simp
    · -- the segment ends before the capital, which begins the next one
      have hcap := isCapital_toUpper_of_isDigit_eq_false hc.2 (Bool.eq_false_iff.mpr hd)
      have hlast : ∀ a ∈ (first :: reading).getLast?, isAlphanumeric a := fun a ha =>
        isAlphanumeric_of_isAlphanum (halpha a (List.mem_of_mem_getLast? ha))
      have hnext := ih (isAlphanum_of_isLarge (isLarge_toUpper hc.2)) (fun d hm => (hv d hm).2) hrest
      rw [hlower, ← hcv, String.ofList_toList, List.cons_append] at hnext
      rw [if_neg (by simp [beginsWithDigit, hcv, hd]), List.cons_append (a := c.toUpper),
        rawSegments_append_capital hlast hcap, rawSegments_segment hfirst hreading, List.map_append,
        hnext]
      rfl

end Reading

theorem ofName_camel_pascal_words {f : KeyFormat} (hf : f = .camel ∨ f = .pascal) {name : String}
    (h : IsPlainName name) : Words.ofName (ofName name f) = attachDigits (Words.ofName name) := by
  have hsmall : ∀ w ∈ Words.ofName name, IsWordOf isSmall w.toList := fun w hw =>
    isWordOf_isSmall h (List.mem_map_of_mem hw)
  rw [ofName_of_unescape_eq (unescape_ofName h f), toList_ofName]
  generalize Words.ofName name = words at hsmall
  cases words with
  | nil => rcases hf with rfl | rfl <;> rfl
  | cons w words =>
    obtain ⟨hw, hwords⟩ := List.forall_mem_cons.mp hsmall
    have hlower := lower_capitalizeFirst hw
    have hself := lower_of_isSmall fun c hc => (hw.2 c hc).2
    obtain ⟨c, v, hcv⟩ := List.exists_cons_of_ne_nil hw.1
    rw [hcv] at hw hlower hself
    obtain ⟨hc, hv⟩ := List.forall_mem_cons.mp hw.2
    have hv' : ∀ d ∈ v, isSmall d := fun d hd => (hv d hd).2
    rcases hf with rfl | rfl
    · rw [List.map_cons, joinChars, List.flatMap_map, hcv,
        rawSegments_append_capitalized (isAlphanum_of_isSmall hc.2) hv' hwords, hself, ← hcv,
        String.ofList_toList]
      rfl
    · rw [capitalizeFirst_cons_of_isSmall hc.2] at hlower
      rw [joinChars, List.flatMap_map, List.flatMap_cons, hcv, capitalizeFirst_cons_of_isSmall hc.2,
        rawSegments_append_capitalized (isAlphanum_of_isLarge (isLarge_toUpper hc.2)) hv' hwords,
        hlower, ← hcv, String.ofList_toList]
      rfl

/-- The words of the camel or pascal key of a plain name are the words of the name, with every word but
the first that begins with a digit appended to the word before. Nothing else is lost: the key is its own
key, and names share it exactly when their words agree after that. -/
theorem camel_pascal_read_back {f : KeyFormat} (hf : f = .camel ∨ f = .pascal) {name : String}
    (h : IsPlainName name) :
    Words.ofName (ofName name f) = attachDigits (Words.ofName name) ∧
    (∀ g, ofName (ofName name f) g = join (attachDigits (Words.ofName name)) g) ∧
    ofName (ofName name f) f = ofName name f ∧
    ∀ other, IsPlainName other →
      (ofName name f = ofName other f ↔
        attachDigits (Words.ofName name) = attachDigits (Words.ofName other)) := by
  have hne : f ≠ .upperSnake := by rcases hf with rfl | rfl <;> decide
  have hwords : ∀ {s}, IsPlainName s → Words.ofName (ofName s f) = attachDigits (Words.ofName s) :=
    ofName_camel_pascal_words hf
  have hself : ∀ {s}, IsPlainName s → ofName (ofName s f) f = ofName s f := fun hs =>
    ofName_self hne (ofName_mem_pattern hs f)
  refine ⟨hwords h, fun g => by rw [ofName, hwords h], hself h, fun other ho => ?_⟩
  refine ⟨fun hk => ?_, fun hk => ?_⟩
  · rw [← hwords h, hk, hwords ho]
  · calc ofName name f
      _ = join (attachDigits (Words.ofName name)) f := by rw [← hself h, ofName, hwords h]
      _ = join (attachDigits (Words.ofName other)) f := by rw [hk]
      _ = ofName other f := by rw [← hself ho, ofName, hwords ho]

/-- Two spellings that differ in where digits begin a word, with one camel key. -/
theorem camel_pascal_read_back_of_digits :
    (KeyFormat.camel = .camel ∨ KeyFormat.camel = .pascal) ∧ IsPlainName "\x60a_1_2b_URL\x60" ∧
    IsPlainName "a1_2b_u_r_L" ∧
    Words.ofName "\x60a_1_2b_URL\x60" = ["a", "1", "2b", "u", "r", "l"] ∧
    ofName "\x60a_1_2b_URL\x60" .camel = "a12bURL" ∧
    Words.ofName "a12bURL" = ["a12b", "u", "r", "l"] ∧
    ofName "a12bURL" .camel = "a12bURL" ∧
    ofName "a12bURL" .lowerSnake = "a12b_u_r_l" ∧
    Words.ofName "a1_2b_u_r_L" = ["a1", "2b", "u", "r", "l"] ∧
    ofName "a1_2b_u_r_L" .camel = "a12bURL" := by
  have hf : KeyFormat.camel = .camel ∨ KeyFormat.camel = .pascal := .inl rfl
  have hs : IsPlainName "\x60a_1_2b_URL\x60" := by decide
  have ht : IsPlainName "a1_2b_u_r_L" := by decide
  have hname : Words.ofName "\x60a_1_2b_URL\x60" = ["a", "1", "2b", "u", "r", "l"] := by decide
  have hother : Words.ofName "a1_2b_u_r_L" = ["a1", "2b", "u", "r", "l"] := by decide
  have hkey : ofName "\x60a_1_2b_URL\x60" .camel = "a12bURL" := by decide
  obtain ⟨hwords, hkeys, hself, hiff⟩ := camel_pascal_read_back hf hs
  have hshared := (hiff "a1_2b_u_r_L" ht).mpr (by rw [hname, hother]; decide)
  rw [hkey, hname] at hwords hkeys
  rw [hkey] at hself hshared
  exact ⟨hf, hs, ht, hname, hkey, hwords.trans (by decide), hself,
    (hkeys .lowerSnake).trans (by decide), hother, hshared.symm⟩

example : attachDigits ["a", "1", "2b", "c"] = ["a12b", "c"] := by decide

end CaseKeys.Key
