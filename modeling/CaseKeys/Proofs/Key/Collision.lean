import CaseKeys.Proofs.Key.Joining

/-! Which ASCII names share a key. Upper case loses nothing of their words, so that an upper snake
key tells as much as the lower snake key, and a pascal key as much as the camel key. -/
namespace CaseKeys.Key
open Words Text

theorem map_toLower_upper {word : List Char} (h : ∀ c ∈ word, IsPlain c) :
    (upper word).map Char.toLower = word := by
  rw [upper_ascii fun c hc => (h c hc).1, List.map_map]
  exact map_eq_self fun c hc => toLower_toUpper (h c hc)

theorem map_toLower_upperSnake {ws : List (List Char)} (h : ∀ w ∈ ws, ∀ c ∈ w, IsPlain c) :
    (joinChars .upperSnake ws).map Char.toLower = joinChars .lowerSnake ws := by
  have hws : (ws.map upper).map (List.map Char.toLower) = ws := by
    rw [List.map_map]
    exact map_eq_self fun w hw => map_toLower_upper (h w hw)
  rw [joinChars, joinChars, apply_intercalate List.map_nil fun _ _ => List.map_append, hws]
  rfl

theorem map_toLower_capitalizeFirst {word : List Char} (h : ∀ c ∈ word, IsPlain c) :
    (capitalizeFirst word).map Char.toLower = word := by
  cases word with
  | nil => rfl
  | cons c rest =>
    obtain ⟨hc, hrest⟩ := List.forall_mem_cons.mp h
    have hsame : rest.map Char.toLower = rest := map_eq_self fun d hd => toLower_of_isPlain (hrest d hd)
    rw [capitalizeFirst, upperChar_ascii hc.1, List.singleton_append, List.map_cons,
      toLower_toUpper hc, hsame]

private theorem capitalizeFirst_inj {a b : List Char} (ha : ∀ c ∈ a.head?, IsPlain c)
    (hb : ∀ c ∈ b.head?, IsPlain c) (h : capitalizeFirst a = capitalizeFirst b) : a = b := by
  cases a with
  | nil =>
    cases b with
    | nil => rfl
    | cons d v => exact absurd h.symm (List.append_ne_nil_of_left_ne_nil (upperChar_ne_nil d) v)
  | cons c w =>
    cases b with
    | nil => exact absurd h (List.append_ne_nil_of_left_ne_nil (upperChar_ne_nil c) w)
    | cons d v =>
      have hc := ha c rfl
      have hd := hb d rfl
      rw [capitalizeFirst, capitalizeFirst, upperChar_ascii hc.1, upperChar_ascii hd.1,
        List.singleton_append, List.singleton_append] at h
      obtain ⟨hcd, hwv⟩ := List.cons.inj h
      rw [← toLower_toUpper hc, hcd, toLower_toUpper hd, hwv]

private theorem head?_camel {ws : List (List Char)} (hw : ∀ w ∈ ws, IsWord w)
    (h : ∀ w ∈ ws, ∀ c ∈ w, IsPlain c) : ∀ c ∈ (joinChars .camel ws).head?, IsPlain c := by
  intro c hc
  cases ws with
  | nil => cases hc
  | cons w rest =>
    have hn := (hw w List.mem_cons_self).nonempty
    rw [joinChars, List.head?_append_of_ne_nil w hn] at hc
    exact h w List.mem_cons_self c (List.mem_of_mem_head? hc)

variable {s t : String}

theorem ofName_upperSnake_eq_iff (hs : IsAscii s) (ht : IsAscii t) :
    ofName s .upperSnake = ofName t .upperSnake ↔ ofName s .lowerSnake = ofName t .lowerSnake := by
  constructor
  · intro h
    rw [ofName_eq_iff] at h ⊢
    rw [← map_toLower_upperSnake fun _ => isPlain_of_mem hs,
      ← map_toLower_upperSnake fun _ => isPlain_of_mem ht, h]
  · intro h
    exact ofName_congr ((ofName_lowerSnake_eq_iff s t).mp h) .upperSnake

theorem ofName_pascal_eq_iff (hs : IsAscii s) (ht : IsAscii t) :
    ofName s .pascal = ofName t .pascal ↔ ofName s .camel = ofName t .camel := by
  rw [ofName_eq_iff, ofName_eq_iff, joinChars_pascal fun _ => isWord_of_mem,
    joinChars_pascal fun _ => isWord_of_mem]
  constructor
  · intro h
    exact capitalizeFirst_inj (head?_camel (fun _ => isWord_of_mem) fun _ => isPlain_of_mem hs)
      (head?_camel (fun _ => isWord_of_mem) fun _ => isPlain_of_mem ht) h
  · intro h
    rw [h]

/-- Names with one snake key have one key in every format. -/
theorem ofName_eq_of_isSnake (hs : IsAscii s) (ht : IsAscii t) {f : KeyFormat} (hf : f.isSnake)
    (h : ofName s f = ofName t f) (g : KeyFormat) : ofName s g = ofName t g := by
  refine ofName_congr ((ofName_lowerSnake_eq_iff s t).mp ?_) g
  cases f with
  | lowerSnake => exact h
  | upperSnake => exact (ofName_upperSnake_eq_iff hs ht).mp h
  | camel | pascal => cases hf

end CaseKeys.Key
