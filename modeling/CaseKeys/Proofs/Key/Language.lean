import CaseKeys.Proofs.Key.Pattern
import CaseKeys.Proofs.Words.Joints

/-! The keys of plain names are exactly the texts of the patterns: a text of a pattern is cut into
words that are joined back to it. -/
namespace CaseKeys.Key
open Words Text Text.Pattern

private theorem isAlphanum_or_of_mem_pattern {f : KeyFormat} {key : List Char}
    (h : key ∈ (pattern f).matches') : ∀ c ∈ key, c.isAlphanum ∨ c = '_' := by
  have hl : (pattern f).letters.all fun c => c.isAlphanum || c = '_' := by
    cases f <;> decide
  exact fun c hc => by simpa using List.all_eq_true.mp hl c (mem_letters h c hc)

private theorem unescape_eq_self {name : List Char} (h : ∀ c ∈ name, c.isAlphanum ∨ c = '_') :
    unescape name = name := by
  refine unescape_of_notMem fun hm => ?_
  rcases h '\x60' hm with ha | hu
  · exact ne_backtick_of_isAlphanum ha rfl
  · exact absurd hu (by decide)

theorem isPlainName_of_mem_pattern {f : KeyFormat} {name : String}
    (h : name.toList ∈ (pattern f).matches') : IsPlainName name := by
  have hc := isAlphanum_or_of_mem_pattern h
  rw [IsPlainName, unescape_eq_self hc]
  exact hc

theorem ofName_mem_pattern {name : String} (h : IsPlainName name) (f : KeyFormat) :
    (ofName name f).toList ∈ (pattern f).matches' := by
  rw [toList_ofName]
  exact joinChars_mem_pattern (fun _ => isWordOf_isSmall h) f

/-- The keys of plain names have nothing to unescape. -/
theorem unescape_ofName {name : String} (h : IsPlainName name) (f : KeyFormat) :
    unescape (ofName name f).toList = (ofName name f).toList :=
  unescape_eq_self (isAlphanum_or_of_mem_pattern (ofName_mem_pattern h f))

private theorem segments_intercalate {ws : List (List Char)} (h : ∀ w ∈ ws, IsWordOf isSmall w) :
    segments (['_'].intercalate ws) = ws := by
  have hkey : ['_'].intercalate ws ∈ (pattern .lowerSnake).matches' := mem_snake.mpr ⟨ws, h, rfl⟩
  rw [segments_eq_rawSegments, unescape_eq_self (isAlphanum_or_of_mem_pattern hkey)]
  refine rawSegments_intercalate_of_uncut fun w hw => ?_
  have hword := isWord_of_isWordOf (h w hw)
  exact rawSegments_eq_singleton hword.nonempty hword.underscore fun c hc =>
    isCapital_eq_false_of_isSmall ((h w hw).2 c (List.mem_of_mem_tail hc)).2

theorem lower_of_isSmall {word : List Char} (h : ∀ c ∈ word, isSmall c) : lower word = word := by
  rw [lower_ascii fun c hc => toNat_lt_of_isSmall (h c hc)]
  exact map_eq_self fun c hc => toLower_of_isSmall (h c hc)

/-- A part that begins with a capital or a digit is put back by lower case and capitalization. -/
private theorem capitalizeFirst_lower {c : Char} (hc : isLarge c) {rest : List Char}
    (h : ∀ d ∈ rest, isSmall d) : capitalizeFirst (lower (c :: rest)) = c :: rest := by
  have ha := isAlphanum_of_isLarge hc
  have hl : lower (c :: rest) = c.toLower :: rest := by
    rw [lower_ascii (List.forall_mem_cons.mpr
      ⟨toNat_lt_of_isAlphanum ha, fun d hd => toNat_lt_of_isSmall (h d hd)⟩), List.map_cons,
      ← lower_ascii fun d hd => toNat_lt_of_isSmall (h d hd), lower_of_isSmall h]
  rw [hl, capitalizeFirst_cons_of_isSmall (isSmall_toLower ha), toUpper_toLower hc]

section Runs
variable {run : List Char} (hrun : ∀ c ∈ run, c.isAlphanum)
include hrun

theorem underscore_notMem_run : '_' ∉ run :=
  fun hu => ne_underscore_of_isAlphanum (hrun '_' hu) rfl

private theorem segments_run : segments run = pieces run := by
  have hname : ∀ c ∈ run, c.isAlphanum ∨ c = '_' := fun c hc => .inl (hrun c hc)
  rw [segments_eq_rawSegments, unescape_eq_self hname,
    rawSegments_eq_pieces (underscore_notMem_run hrun)]

private theorem isSmall_of_mem_tail {g : List Char} (hg : g ∈ pieces run) :
    ∀ c ∈ g.tail, isSmall c :=
  fun c hc => isSmall_of_isCapital_eq_false
    (hrun c (mem_of_mem_splitBy hg (List.mem_of_mem_tail hc)))
    (isCapital_eq_false_of_mem_tail (fun d hd => isAlphanumeric_of_isAlphanum (hrun d hd)) hg c hc)

/-- Pieces that begin with a capital or a digit are put back by lower case and capitalization. -/
private theorem flatMap_capitalizeFirst_lower {gs : List (List Char)}
    (hgs : ∀ g ∈ gs, g ∈ pieces run) (hlarge : ∀ g ∈ gs, ∀ c ∈ g.head?, isLarge c) :
    (gs.map lower).flatMap capitalizeFirst = gs.flatten := by
  rw [List.flatMap_map, List.flatMap_def]
  refine congrArg List.flatten (map_eq_self fun g hg => ?_)
  have hn : g ≠ [] := fun hn => List.nil_notMem_splitBy _ run (hn ▸ hgs g hg)
  obtain ⟨c, rest, rfl⟩ := List.exists_cons_of_ne_nil hn
  exact capitalizeFirst_lower (hlarge _ hg c rfl) (isSmall_of_mem_tail hrun (hgs _ hg))

private theorem isLarge_of_mem_head? : ∀ g ∈ (pieces run).tail, ∀ c ∈ g.head?, isLarge c := by
  intro g hg c hc
  obtain ⟨d, rest, rfl, hd⟩ := afterCut_of_mem_tail_pieces (underscore_notMem_run hrun) g hg
  obtain rfl : d = c := Option.mem_some.mp hc
  have hmem := mem_of_mem_splitBy (List.mem_of_mem_tail hg) List.mem_cons_self
  exact isLarge_of_isCapital (hrun d hmem) hd

/-- A run that begins with a small character is joined back by camel case. -/
private theorem joinChars_camel_pieces (hfirst : ∀ c ∈ run.head?, isSmall c) :
    joinChars .camel ((pieces run).map lower) = run := by
  have hflat : (pieces run).flatten = run := List.flatten_splitBy _ run
  have hlarge := isLarge_of_mem_head? hrun
  cases hp : pieces run with
  | nil =>
    rw [hp] at hflat
    exact hflat
  | cons g gs =>
    rw [hp, List.tail_cons] at hlarge
    have hmem : ∀ s ∈ g :: gs, s ∈ pieces run := fun s hs => hp ▸ hs
    have hg : ∀ c ∈ g, isSmall c := by
      cases g with
      | nil => simp
      | cons c rest =>
        rw [← head?_of_pieces_eq_cons hp] at hfirst
        have hrest := isSmall_of_mem_tail hrun (hmem (c :: rest) List.mem_cons_self)
        exact List.forall_mem_cons.mpr ⟨hfirst c rfl, hrest⟩
    rw [List.map_cons, joinChars, lower_of_isSmall hg,
      flatMap_capitalizeFirst_lower hrun (List.forall_mem_cons.mp hmem).2 hlarge,
      ← List.flatten_cons, ← hp, hflat]

/-- A run that begins with a large character is joined back by pascal case. -/
private theorem joinChars_pascal_pieces (hfirst : ∀ c ∈ run.head?, isLarge c) :
    joinChars .pascal ((pieces run).map lower) = run := by
  have hall : ∀ g ∈ pieces run, ∀ c ∈ g.head?, isLarge c := by
    have hlarge := isLarge_of_mem_head? hrun
    cases hp : pieces run with
    | nil => simp
    | cons g gs =>
      rw [hp, List.tail_cons] at hlarge
      rw [← head?_of_pieces_eq_cons hp] at hfirst
      exact List.forall_mem_cons.mpr ⟨hfirst, hlarge⟩
  rw [joinChars, flatMap_capitalizeFirst_lower hrun (fun _ => id) hall]
  exact List.flatten_splitBy _ run

end Runs

/-- A text of every pattern but that of upper snake keys is its own key. -/
private theorem joinChars_segments {f : KeyFormat} (hf : f ≠ .upperSnake) {key : List Char}
    (h : key ∈ (pattern f).matches') : joinChars f ((segments key).map lower) = key := by
  cases f with
  | lowerSnake =>
    obtain ⟨ws, hws, rfl⟩ := mem_snake.mp h
    have hlower : ws.map lower = ws :=
      map_eq_self fun w hw => lower_of_isSmall fun c hc => ((hws w hw).2 c hc).2
    rw [segments_intercalate hws, hlower]
    rfl
  | upperSnake => exact absurd rfl hf
  | camel =>
    rcases mem_joined.mp h with rfl | ⟨c, rest, rfl, hc, hrest⟩
    · rfl
    · have hrun : ∀ d ∈ c :: rest, d.isAlphanum :=
        List.forall_mem_cons.mpr ⟨isAlphanum_of_isSmall hc.2, hrest⟩
      rw [segments_run hrun]
      exact joinChars_camel_pieces hrun fun d hd => Option.mem_some.mp hd ▸ hc.2
  | pascal =>
    rcases mem_joined.mp h with rfl | ⟨c, rest, rfl, hc, hrest⟩
    · rfl
    · have hrun : ∀ d ∈ c :: rest, d.isAlphanum :=
        List.forall_mem_cons.mpr ⟨isAlphanum_of_isLarge hc.2, hrest⟩
      rw [segments_run hrun]
      exact joinChars_pascal_pieces hrun fun d hd => Option.mem_some.mp hd ▸ hc.2

private theorem isWordOf_isSmall_lower {word : List Char} (h : IsWordOf isLarge word) :
    IsWordOf isSmall (lower word) := by
  rw [lower_ascii fun c hc => (h.2 c hc).1]
  refine ⟨mt List.map_eq_nil_iff.mp h.1, fun d hd => ?_⟩
  obtain ⟨c, hc, rfl⟩ := List.mem_map.mp hd
  have hsmall := isSmall_toLower (isAlphanum_of_isLarge (h.2 c hc).2)
  exact ⟨toNat_lt_of_isSmall hsmall, hsmall⟩

private theorem upper_lower {word : List Char} (h : IsWordOf isLarge word) :
    upper (lower word) = word := by
  rw [upper_ascii fun c hc => ((isWordOf_isSmall_lower h).2 c hc).1,
    lower_ascii fun c hc => (h.2 c hc).1, List.map_map]
  exact map_eq_self fun c hc => toUpper_toLower (h.2 c hc).2

/-- A text of the upper snake pattern is the key of its lower-case form. -/
private theorem exists_upperSnake {key : List Char} (h : key ∈ (pattern .upperSnake).matches') :
    ∃ name ∈ (pattern .lowerSnake).matches',
      joinChars .upperSnake ((segments name).map lower) = key := by
  obtain ⟨ws, hws, rfl⟩ := mem_snake.mp h
  have hsmall : ∀ v ∈ ws.map lower, IsWordOf isSmall v := by
    intro v hv
    obtain ⟨w, hw, rfl⟩ := List.mem_map.mp hv
    exact isWordOf_isSmall_lower (hws w hw)
  refine ⟨['_'].intercalate (ws.map lower), mem_snake.mpr ⟨_, hsmall, rfl⟩, ?_⟩
  have hlower : (ws.map lower).map lower = ws.map lower :=
    map_eq_self fun v hv => lower_of_isSmall fun c hc => ((hsmall v hv).2 c hc).2
  have hupper : (ws.map lower).map upper = ws := by
    rw [List.map_map]
    exact map_eq_self fun w hw => upper_lower (hws w hw)
  rw [segments_intercalate hsmall, hlower, joinChars, hupper]

theorem ofName_self {f : KeyFormat} (hf : f ≠ .upperSnake) {key : String}
    (h : key.toList ∈ (pattern f).matches') : ofName key f = key := by
  rw [← String.toList_inj, toList_ofName, map_toList_ofName]
  exact joinChars_segments hf h

/-- The keys of plain names under a format are the texts of its pattern, no more and no fewer. Under
all formats but upper snake each of them is its own key. -/
theorem keys_of_plain_names :
    (∀ f key, key ∈ (pattern f).matches' ↔
      ∃ name, IsPlainName name ∧ (ofName name f).toList = key) ∧
    ∀ f, f ≠ .upperSnake → ∀ key : String, key.toList ∈ (pattern f).matches' →
      IsPlainName key ∧ ofName key f = key := by
  have hself : ∀ f, f ≠ .upperSnake → ∀ key : String, key.toList ∈ (pattern f).matches' →
      IsPlainName key ∧ ofName key f = key :=
    fun _ hf _ h => ⟨isPlainName_of_mem_pattern h, ofName_self hf h⟩
  refine ⟨fun f key => ⟨fun h => ?_, ?_⟩, hself⟩
  · by_cases hf : f = .upperSnake
    · subst hf
      obtain ⟨name, hname, hkey⟩ := exists_upperSnake h
      refine ⟨String.ofList name, isPlainName_of_mem_pattern (f := .lowerSnake) ?_, ?_⟩
      · rwa [String.toList_ofList]
      · rw [toList_ofName, map_toList_ofName, String.toList_ofList, hkey]
    · have hlist : (String.ofList key).toList ∈ (pattern f).matches' := by
        rwa [String.toList_ofList]
      obtain ⟨hplain, hkey⟩ := hself f hf (String.ofList key) hlist
      exact ⟨String.ofList key, hplain, by rw [hkey, String.toList_ofList]⟩
  · rintro ⟨name, hplain, rfl⟩
    exact ofName_mem_pattern hplain f

/-- A key with a digit before a capital and two capitals in a row. -/
theorem keys_of_plain_names_of_capitals :
    KeyFormat.camel ≠ .upperSnake ∧ "a1BCd".toList ∈ (pattern .camel).matches' ∧
    IsPlainName "a1BCd" ∧ ofName "a1BCd" .camel = "a1BCd" := by
  have hf : KeyFormat.camel ≠ .upperSnake := by decide
  have hkey : "a1BCd".toList ∈ (pattern .camel).matches' :=
    (RegularExpression.rmatch_iff_matches' (pattern .camel) "a1BCd".toList).mp (by decide)
  exact ⟨hf, hkey, keys_of_plain_names.2 .camel hf "a1BCd" hkey⟩

end CaseKeys.Key
