import CaseKeys.Proofs.Key.Collision
import CaseKeys.Proofs.Text.Pattern

/-! The pattern of the keys of each format. The key of a name of ASCII letters, digits and underscores
matches the pattern. -/
namespace CaseKeys.Key
open Words Text Text.Pattern

def isSmall (c : Char) : Bool :=
  c.isLower || c.isDigit

def isLarge (c : Char) : Bool :=
  c.isUpper || c.isDigit

/-- Words of one class with single underscores between them, or nothing. -/
def snake (p : Char → Bool) : Pattern :=
  maybe (many (ascii p) * (.char '_' * many (ascii p)).star)

/-- A run of letters and digits that begins with one of a class, or nothing. -/
def joined (p : Char → Bool) : Pattern :=
  maybe (ascii p * (ascii Char.isAlphanum).star)

/-- The pattern of the keys of plain names. -/
def pattern : KeyFormat → Pattern
  | .lowerSnake => snake isSmall
  | .upperSnake => snake isLarge
  | .camel => joined isSmall
  | .pascal => joined isLarge

section Characters
variable {c : Char}

private theorem isAlphanum_iff : c.isAlphanum ↔ (c.isUpper ∨ c.isLower) ∨ c.isDigit := by
  rw [← Bool.or_eq_true, ← Bool.or_eq_true]
  rfl

theorem toNat_lt_of_isAlphanum (h : c.isAlphanum) : c.toNat < 0x80 := by
  have hbound : ∀ d : Char, c.val ≤ d.val → d.toNat < 0x80 → c.toNat < 0x80 := fun _ hc hd =>
    Nat.lt_of_le_of_lt (UInt32.le_iff_toNat_le.mp hc) hd
  rcases isAlphanum_iff.mp h with (h | h) | h
  · exact hbound 'Z' (of_decide_eq_true h).2 (by decide)
  · exact hbound 'z' (of_decide_eq_true (Bool.and_eq_true_iff.mp h).2) (by decide)
  · exact hbound '9' (of_decide_eq_true (Bool.and_eq_true_iff.mp h).2) (by decide)

private theorem of_isAlphanum {P : Char → Prop}
    (h : ∀ n < 0x80, (Char.ofNat n).isAlphanum → P (Char.ofNat n)) (hc : c.isAlphanum) : P c :=
  forall_ascii (P := fun c => c.isAlphanum → P c) h c (toNat_lt_of_isAlphanum hc) hc

theorem isAlphanum_of_isSmall (h : isSmall c) : c.isAlphanum :=
  isAlphanum_iff.mpr ((Bool.or_eq_true_iff.mp h).imp_left .inr)

theorem toNat_lt_of_isSmall (h : isSmall c) : c.toNat < 0x80 :=
  toNat_lt_of_isAlphanum (isAlphanum_of_isSmall h)

theorem isAlphanum_of_isLarge (h : isLarge c) : c.isAlphanum :=
  isAlphanum_iff.mpr ((Bool.or_eq_true_iff.mp h).imp_left .inl)

theorem isSmall_of_isCapital_eq_false (h : c.isAlphanum) (hc : isCapital c = false) : isSmall c :=
  of_isAlphanum (P := fun c => isCapital c = false → isSmall c) (by decide) h hc

theorem isLarge_of_isCapital (h : c.isAlphanum) (hc : isCapital c) : isLarge c :=
  of_isAlphanum (P := fun c => isCapital c → isLarge c) (by decide) h hc

theorem isAlphanumeric_of_isAlphanum (h : c.isAlphanum) : Text.isAlphanumeric c := by
  rwa [Text.isAlphanumeric, if_pos (toNat_lt_of_isAlphanum h)]

theorem ne_underscore_of_isAlphanum (h : c.isAlphanum) : c ≠ '_' :=
  of_isAlphanum (P := fun c => c ≠ '_') (by decide) h

theorem ne_backtick_of_isAlphanum (h : c.isAlphanum) : c ≠ '\x60' :=
  of_isAlphanum (P := fun c => c ≠ '\x60') (by decide) h

theorem isSmall_toLower (h : c.isAlphanum) : isSmall c.toLower :=
  of_isAlphanum (P := fun c => isSmall c.toLower) (by decide) h

theorem isCapital_eq_false_of_isSmall (h : isSmall c) : isCapital c = false :=
  of_isAlphanum (P := fun c => isSmall c → isCapital c = false) (by decide)
    (isAlphanum_of_isSmall h) h

theorem isPlain_of_isSmall (h : isSmall c) : IsPlain c :=
  ⟨toNat_lt_of_isSmall h, isCapital_eq_false_of_isSmall h⟩

theorem toLower_of_isSmall (h : isSmall c) : c.toLower = c :=
  toLower_of_isPlain (isPlain_of_isSmall h)

theorem isLarge_toUpper (h : isSmall c) : isLarge c.toUpper :=
  of_isAlphanum (P := fun c => isSmall c → isLarge c.toUpper) (by decide) (isAlphanum_of_isSmall h) h

theorem isCapital_toUpper (h : isSmall c) : isCapital c.toUpper = c.isAlpha :=
  of_isAlphanum (P := fun c => isSmall c → isCapital c.toUpper = c.isAlpha) (by decide)
    (isAlphanum_of_isSmall h) h

theorem toUpper_of_isDigit (h : c.isDigit) : c.toUpper = c :=
  of_isAlphanum (P := fun c => c.isDigit → c.toUpper = c) (by decide) (isAlphanum_iff.mpr (.inr h)) h

theorem isCapital_toUpper_of_isDigit_eq_false (h : isSmall c) (hd : c.isDigit = false) :
    isCapital c.toUpper :=
  of_isAlphanum (P := fun c => isSmall c → c.isDigit = false → isCapital c.toUpper) (by decide)
    (isAlphanum_of_isSmall h) h hd

theorem toUpper_toLower (h : isLarge c) : c.toLower.toUpper = c :=
  of_isAlphanum (P := fun c => isLarge c → c.toLower.toUpper = c) (by decide)
    (isAlphanum_of_isLarge h) h

end Characters

/-- A name that holds only ASCII letters, digits and underscores between its outer backticks. -/
def IsPlainName (name : String) : Prop :=
  ∀ c ∈ unescape name.toList, c.isAlphanum ∨ c = '_'

instance (name : String) : Decidable (IsPlainName name) :=
  List.decidableBAll (fun c : Char => c.isAlphanum ∨ c = '_') (unescape name.toList)

theorem isAscii_of_isPlainName {name : String} (h : IsPlainName name) : IsAscii name := by
  obtain ⟨before, after, hname, hb, ha⟩ := exists_eq_append_trim (· = '\x60') name.toList
  have htick : ∀ c : Char, decide (c = '\x60') = true → c.toNat < 0x80 := fun c hc => by
    rw [of_decide_eq_true hc]
    decide
  intro c hc
  rw [hname, List.append_assoc] at hc
  rcases List.mem_append.mp hc with hc | hc
  · exact htick c (hb c hc)
  rcases List.mem_append.mp hc with hc | hc
  · rcases h c hc with hc | rfl
    · exact toNat_lt_of_isAlphanum hc
    · decide
  · exact htick c (ha c hc)

section Patterns
variable {p : Char → Bool} {text : List Char}

/-- A word of a class. -/
def IsWordOf (p : Char → Bool) (word : List Char) : Prop :=
  word ≠ [] ∧ ∀ c ∈ word, c.toNat < 0x80 ∧ p c

private theorem mem_star_underscore :
    text ∈ (RegularExpression.char '_' * many (ascii p)).star.matches' ↔
      ∃ ws : List (List Char), (∀ w ∈ ws, IsWordOf p w) ∧ text = ws.flatMap ('_' :: ·) := by
  rw [RegularExpression.matches'_star, Language.mem_kstar]
  constructor
  · rintro ⟨parts, rfl, hparts⟩
    induction parts with
    | nil => exact ⟨[], by simp, rfl⟩
    | cons part parts ih =>
      obtain ⟨hpart, hrest⟩ := List.forall_mem_cons.mp hparts
      obtain ⟨ws, hws, ht⟩ := ih hrest
      obtain ⟨u, rfl, w, hw, rfl⟩ := Language.mem_mul.mp hpart
      exact ⟨w :: ws, List.forall_mem_cons.mpr ⟨mem_many_ascii.mp hw, hws⟩, by simp [ht]⟩
  · rintro ⟨ws, hws, rfl⟩
    refine ⟨ws.map ('_' :: ·), rfl, fun part hm => ?_⟩
    obtain ⟨w, hw, rfl⟩ := List.mem_map.mp hm
    exact Language.mem_mul.mpr ⟨['_'], rfl, w, mem_many_ascii.mpr (hws w hw), rfl⟩

theorem mem_snake : text ∈ (snake p).matches' ↔
    ∃ ws, (∀ w ∈ ws, IsWordOf p w) ∧ text = ['_'].intercalate ws := by
  rw [snake, maybe, RegularExpression.matches'_add, Language.mem_add, RegularExpression.matches'_mul,
    Language.mem_mul]
  constructor
  · rintro (hn | ⟨w, hw, v, hv, rfl⟩)
    · obtain rfl := (Language.mem_one text).mp hn
      exact ⟨[], by simp, rfl⟩
    · obtain ⟨ws, hws, rfl⟩ := mem_star_underscore.mp hv
      exact ⟨w :: ws, List.forall_mem_cons.mpr ⟨mem_many_ascii.mp hw, hws⟩,
        (intercalate_cons w ws).symm⟩
  · rintro ⟨ws, hws, rfl⟩
    cases ws with
    | nil => exact .inl rfl
    | cons w ws =>
      obtain ⟨hw, hrest⟩ := List.forall_mem_cons.mp hws
      exact .inr ⟨w, mem_many_ascii.mpr hw, _, mem_star_underscore.mpr ⟨ws, hrest, rfl⟩,
        (intercalate_cons w ws).symm⟩

theorem mem_joined : text ∈ (joined p).matches' ↔ text = [] ∨
    ∃ c rest, text = c :: rest ∧ (c.toNat < 0x80 ∧ p c) ∧ ∀ d ∈ rest, d.isAlphanum := by
  rw [joined, maybe, RegularExpression.matches'_add, Language.mem_add,
    RegularExpression.matches'_mul, Language.mem_mul]
  refine or_congr Iff.rfl ⟨?_, ?_⟩
  · rintro ⟨u, hu, rest, hrest, rfl⟩
    obtain ⟨c, hc, rfl⟩ := mem_ascii.mp hu
    exact ⟨c, rest, rfl, hc, fun d hd => (mem_star_ascii.mp hrest d hd).2⟩
  · rintro ⟨c, rest, rfl, hc, hrest⟩
    exact ⟨[c], mem_ascii.mpr ⟨c, hc, rfl⟩, rest,
      mem_star_ascii.mpr fun d hd => ⟨toNat_lt_of_isAlphanum (hrest d hd), hrest d hd⟩, rfl⟩

end Patterns

/-- The words of a plain name are made of small letters and digits. -/
theorem isWordOf_isSmall {name : String} (h : IsPlainName name) {word : List Char}
    (hw : word ∈ (Words.ofName name).map String.toList) : IsWordOf isSmall word := by
  obtain ⟨segment, hs, rfl⟩ := mem_ofName hw
  have halpha : ∀ c ∈ segment, c.isAlphanum := by
    intro c hc
    obtain ⟨hm, hu⟩ := mem_unescape_of_mem_segments hs c hc
    exact (h c hm).resolve_right hu
  rw [lower_ascii fun c hc => toNat_lt_of_isAlphanum (halpha c hc)]
  refine ⟨mt List.map_eq_nil_iff.mp (mem_segments hs).1, fun d hd => ?_⟩
  obtain ⟨c, hc, rfl⟩ := List.mem_map.mp hd
  have hsmall := isSmall_toLower (halpha c hc)
  exact ⟨toNat_lt_of_isSmall hsmall, hsmall⟩

theorem isWordOf_isLarge_upper {word : List Char} (h : IsWordOf isSmall word) :
    IsWordOf isLarge (upper word) := by
  rw [upper_ascii fun c hc => (h.2 c hc).1]
  refine ⟨mt List.map_eq_nil_iff.mp h.1, fun d hd => ?_⟩
  obtain ⟨c, hc, rfl⟩ := List.mem_map.mp hd
  have hlarge := isLarge_toUpper (h.2 c hc).2
  exact ⟨toNat_lt_of_isAlphanum (isAlphanum_of_isLarge hlarge), hlarge⟩

theorem capitalizeFirst_cons_of_isSmall {c : Char} (h : isSmall c) (rest : List Char) :
    capitalizeFirst (c :: rest) = c.toUpper :: rest := by
  rw [capitalizeFirst, upperChar_ascii (toNat_lt_of_isSmall h)]
  rfl

private theorem isAlphanum_of_mem_capitalizeFirst {word : List Char} (h : IsWordOf isSmall word) :
    ∀ d ∈ capitalizeFirst word, d.isAlphanum := by
  obtain ⟨c, rest, rfl⟩ := List.exists_cons_of_ne_nil h.1
  obtain ⟨hc, hrest⟩ := List.forall_mem_cons.mp h.2
  rw [capitalizeFirst_cons_of_isSmall hc.2]
  exact List.forall_mem_cons.mpr ⟨isAlphanum_of_isLarge (isLarge_toUpper hc.2),
    fun d hd => isAlphanum_of_isSmall (hrest d hd).2⟩

theorem lower_capitalizeFirst {word : List Char} (h : IsWordOf isSmall word) :
    lower (capitalizeFirst word) = word := by
  rw [lower_ascii fun d hd => toNat_lt_of_isAlphanum (isAlphanum_of_mem_capitalizeFirst h d hd)]
  exact map_toLower_capitalizeFirst fun c hc => isPlain_of_isSmall (h.2 c hc).2

/-- Small words joined under camel begin with a small character. -/
private theorem joinChars_camel_cases {ws : List (List Char)} (h : ∀ w ∈ ws, IsWordOf isSmall w) :
    joinChars .camel ws = [] ∨
      ∃ c rest, joinChars .camel ws = c :: rest ∧ isSmall c ∧ ∀ d ∈ rest, d.isAlphanum := by
  cases ws with
  | nil => exact .inl rfl
  | cons w ws =>
    obtain ⟨⟨hn, hw⟩, hws⟩ := List.forall_mem_cons.mp h
    obtain ⟨c, rest, rfl⟩ := List.exists_cons_of_ne_nil hn
    obtain ⟨hc, hrest⟩ := List.forall_mem_cons.mp hw
    refine .inr ⟨c, rest ++ ws.flatMap capitalizeFirst, rfl, hc.2, fun d hd => ?_⟩
    rcases List.mem_append.mp hd with hd | hd
    · exact isAlphanum_of_isSmall (hrest d hd).2
    · obtain ⟨v, hv, hd⟩ := List.mem_flatMap.mp hd
      exact isAlphanum_of_mem_capitalizeFirst (hws v hv) d hd

theorem isWord_of_isWordOf {word : List Char} (h : IsWordOf isSmall word) : IsWord word where
  nonempty := h.1
  underscore hu := absurd (h.2 '_' hu).2 (by decide)

theorem joinChars_mem_pattern {ws : List (List Char)} (h : ∀ w ∈ ws, IsWordOf isSmall w)
    (f : KeyFormat) : joinChars f ws ∈ (pattern f).matches' := by
  cases f with
  | lowerSnake => exact mem_snake.mpr ⟨ws, h, rfl⟩
  | upperSnake =>
    refine mem_snake.mpr ⟨ws.map upper, fun v hv => ?_, rfl⟩
    obtain ⟨w, hw, rfl⟩ := List.mem_map.mp hv
    exact isWordOf_isLarge_upper (h w hw)
  | camel =>
    refine mem_joined.mpr ((joinChars_camel_cases h).imp_right ?_)
    rintro ⟨c, rest, hj, hc, hrest⟩
    exact ⟨c, rest, hj, ⟨toNat_lt_of_isSmall hc, hc⟩, hrest⟩
  | pascal =>
    rw [joinChars_pascal fun w hw => isWord_of_isWordOf (h w hw)]
    refine mem_joined.mpr ?_
    rcases joinChars_camel_cases h with hj | ⟨c, rest, hj, hc, hrest⟩
    · exact .inl (by rw [hj]; rfl)
    · have hlarge := isLarge_toUpper hc
      rw [hj, capitalizeFirst_cons_of_isSmall hc]
      exact .inr ⟨_, rest, rfl, ⟨toNat_lt_of_isAlphanum (isAlphanum_of_isLarge hlarge), hlarge⟩, hrest⟩

end CaseKeys.Key
