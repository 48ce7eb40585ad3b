import CaseKeys.Proofs.Words.Shape

/-! Where a text put together from parts is cut: at every joint with an underscore or before a
capital, and inside the parts as if each stood alone. -/
namespace CaseKeys.Words

theorem rawSegments_append_underscore (u v : List Char) :
    rawSegments (u ++ '_' :: v) = rawSegments u ++ rawSegments v := by
  rw [rawSegments_append fun a _ b hb => by simp [cutBetween, ← Option.mem_some.mp hb],
    rawSegments_underscore]

theorem rawSegments_append_capital {u : List Char} (hu : ∀ a ∈ u.getLast?, Text.isAlphanumeric a)
    {c : Char} (hc : isCapital c) (v : List Char) :
    rawSegments (u ++ c :: v) = rawSegments u ++ rawSegments (c :: v) :=
  rawSegments_append fun a ha b hb => by
    obtain rfl : c = b := Option.mem_some.mp hb
    simp [cutBetween, hc, hu a ha]

/-- Parts joined by underscores are cut apart there. -/
theorem rawSegments_intercalate (ws : List (List Char)) :
    rawSegments (['_'].intercalate ws) = ws.flatMap rawSegments := by
  induction ws with
  | nil => rfl
  | cons w ws ih =>
    cases ws with
    | nil => simp
    | cons v vs =>
      rw [List.flatMap_cons, List.intercalate_cons_cons, List.append_assoc, List.singleton_append,
        rawSegments_append_underscore, ih]

/-- Parts that are not cut themselves are found again. -/
theorem rawSegments_intercalate_of_uncut {ws : List (List Char)}
    (h : ∀ w ∈ ws, rawSegments w = [w]) : rawSegments (['_'].intercalate ws) = ws := by
  rw [rawSegments_intercalate]
  exact (List.flatMap_congr h).trans (List.flatMap_singleton' ws)

theorem mem_of_mem_splitBy {α : Type} {q : α → α → Bool} {l g : List α} (hg : g ∈ l.splitBy q)
    {a : α} (ha : a ∈ g) : a ∈ l := by
  rw [← List.flatten_splitBy q l]
  exact List.mem_flatten.mpr ⟨g, hg, ha⟩

theorem rawSegments_eq_pieces {t : List Char} (h : '_' ∉ t) : rawSegments t = pieces t :=
  List.filter_eq_self.mpr fun _ hg => decide_eq_true fun hu =>
    h (mem_of_mem_splitBy hg (hu ▸ List.mem_singleton_self _))

/-- What all characters but the first have in common, read as a chain. -/
theorem isChain_iff_forall_tail {α : Type} {p : α → Prop} {l : List α} :
    (l.IsChain fun _ b => p b) ↔ ∀ b ∈ l.tail, p b := by
  induction l with
  | nil => simp
  | cons a l ih =>
    rw [List.isChain_cons, ih, List.tail_cons]
    cases l <;> simp

/-- The parts of a mapped text are the mapped parts, where both are cut at the same places. -/
theorem splitBy_map {α β : Type} {f : α → β} {r : β → β → Bool} {q : α → α → Bool} {l : List α}
    (h : ∀ a ∈ l, ∀ b ∈ l, r (f a) (f b) = q a b) :
    (l.map f).splitBy r = (l.splitBy q).map (List.map f) := by
  refine List.splitBy_eq_iff.mpr ⟨?_, ?_, ?_, ?_⟩
  · rw [← List.map_flatten, List.flatten_splitBy]
  · simp [List.nil_notMem_splitBy]
  · intro m hm
    obtain ⟨g, hg, rfl⟩ := List.mem_map.mp hm
    refine (List.isChain_map f).mpr <|
      (List.isChain_of_mem_splitBy hg).imp_of_mem_imp fun a b ha hb hq => ?_
    rwa [h a (mem_of_mem_splitBy hg ha) b (mem_of_mem_splitBy hg hb)]
  · refine (List.isChain_map (List.map f)).mpr <|
      (List.isChain_getLast_head_splitBy q l).imp_of_mem_imp fun g g' hg hg' hq => ?_
    obtain ⟨ha, hb, hq⟩ := hq
    refine ⟨mt List.map_eq_nil_iff.mp ha, mt List.map_eq_nil_iff.mp hb, ?_⟩
    rw [List.getLast_map, List.head_map,
      h _ (mem_of_mem_splitBy hg (List.getLast_mem ha)) _ (mem_of_mem_splitBy hg' (List.head_mem hb))]
    exact hq

theorem head?_of_pieces_eq_cons {t g : List Char} {gs : List (List Char)}
    (h : pieces t = g :: gs) : g.head? = t.head? := by
  have hn : g ≠ [] := fun hn => List.nil_notMem_splitBy (fun a b => !cutBetween a b) t <| by
    rw [← pieces, h, hn]
    exact List.mem_cons_self
  have hflat : (pieces t).flatten = t := List.flatten_splitBy _ t
  rw [← hflat, h, List.flatten_cons, List.head?_append_of_ne_nil g hn]

/-- The shape of every piece but the first: it begins with the capital before which it was cut off. -/
def AfterCut (piece : List Char) : Prop :=
  ∃ c rest, piece = c :: rest ∧ isCapital c

theorem afterCut_of_mem_tail_pieces {t : List Char} (hu : '_' ∉ t) :
    ∀ g ∈ (pieces t).tail, AfterCut g := by
  refine isChain_iff_forall_tail.mp <|
    (List.isChain_getLast_head_splitBy (fun a b => !cutBetween a b) t).imp_of_mem_imp
      fun g g' hg hg' hcut => ?_
  obtain ⟨hn, hn', hcut⟩ := hcut
  have ha : g.getLast hn ≠ '_' := fun h => hu (h ▸ mem_of_mem_splitBy hg (List.getLast_mem hn))
  have hb : g'.head hn' ≠ '_' := fun h => hu (h ▸ mem_of_mem_splitBy hg' (List.head_mem hn'))
  refine ⟨g'.head hn', g'.tail, (List.cons_head_tail hn').symm, ?_⟩
  simp [cutBetween, ha, hb] at hcut
  exact hcut.1

/-- Letters and digits are cut before every capital. -/
theorem isCapital_eq_false_of_mem_tail {t g : List Char} (h : ∀ c ∈ t, Text.isAlphanumeric c)
    (hg : g ∈ pieces t) : ∀ c ∈ g.tail, isCapital c = false := by
  refine isChain_iff_forall_tail.mp <|
    (List.isChain_of_mem_splitBy hg).imp_of_mem_imp fun a b ha _ huncut => ?_
  simp [cutBetween, h a (mem_of_mem_splitBy hg ha)] at huncut
  exact huncut.2

/-- A text without underscores whose capitals stand at its front only is not cut. -/
theorem rawSegments_eq_singleton {w : List Char} (hn : w ≠ []) (hu : '_' ∉ w)
    (hc : ∀ c ∈ w.tail, isCapital c = false) : rawSegments w = [w] := by
  rw [rawSegments_eq_pieces hu]
  refine List.splitBy_of_isChain hn <|
    (List.isChain_isInfix w).imp_of_mem_tail_imp fun a b ha hb _ => ?_
  have ha' : a ≠ '_' := fun h => hu (h ▸ ha)
  have hb' : b ≠ '_' := fun h => hu (h ▸ List.mem_of_mem_tail hb)
  simp [cutBetween, ha', hb', hc b hb]

/-- A word is not cut any more. -/
theorem rawSegments_of_mem_word {name : String} {word : List Char}
    (h : word ∈ (ofName name).map String.toList) : rawSegments word = [word] :=
  rawSegments_eq_singleton (isWord_of_mem h).nonempty (isWord_of_mem h).underscore fun c hc =>
    Text.isCapital_eq_false_of_isLowered (isLowered_of_mem_word h c (List.mem_of_mem_tail hc))

theorem unescape_of_notMem {name : List Char} (h : '\x60' ∉ name) : unescape name = name := by
  have hc : ∀ c ∈ name, decide (c = '\x60') = false := fun c hc =>
    decide_eq_false fun he => h (he ▸ hc)
  exact Text.trim_eq_self (fun c hm => hc c (List.mem_of_mem_head? hm))
    fun c hm => hc c (List.mem_of_mem_getLast? hm)

/-- A name with backticks put around it. -/
def escape (m n : Nat) (name : List Char) : List Char :=
  List.replicate m '\x60' ++ name ++ List.replicate n '\x60'

theorem unescape_escape (m n : Nat) (name : List Char) :
    unescape (escape m n name) = unescape name := by
  have hticks : ∀ k, ∀ c ∈ List.replicate k '\x60', decide (c = '\x60') = true := fun k c hc =>
    decide_eq_true (List.eq_of_mem_replicate hc)
  exact Text.trim_pad (hticks m) (hticks n) name

theorem unescape_append {u v : List Char} (hu : u.getLast? ≠ some '\x60')
    (hv : v.head? ≠ some '\x60') : unescape (u ++ v) = unescape u ++ unescape v :=
  Text.trim_append (fun _ hc => decide_eq_false fun h => hu (h ▸ hc))
    fun _ hc => decide_eq_false fun h => hv (h ▸ hc)

/-- A name with nothing to unescape is cut as it stands. -/
theorem ofName_of_unescape_eq {name : String} (h : unescape name.toList = name.toList) :
    ofName name =
      (rawSegments name.toList).map fun segment => String.ofList (Text.lower segment) := by
  rw [ofName, segments_eq_rawSegments, h]

section Append
variable {a b : String}

/-- The scan starts afresh behind an underscore, unless the joint hides a backtick to unescape. -/
theorem ofName_append_underscore (ha : a.toList.getLast? ≠ some '\x60')
    (hb : b.toList.head? ≠ some '\x60') : ofName (a ++ "_" ++ b) = ofName a ++ ofName b := by
  have hbare : unescape (a ++ "_" ++ b).toList =
      unescape a.toList ++ '_' :: unescape b.toList := by
    have hu : unescape ('_' :: b.toList) = '_' :: unescape b.toList :=
      unescape_append (u := ['_']) (by decide) hb
    rw [String.toList_append, String.toList_append, List.append_assoc,
      ← hu]
    exact unescape_append ha (by simp)
  simp only [ofName, segments_eq_rawSegments, hbare, rawSegments_append_underscore, List.map_append]

/-- The scan starts afresh at a capital behind a letter, a digit or an underscore. -/
theorem ofName_append_capital (ha : ∀ c ∈ a.toList.getLast?, isWordChar c)
    (hb : ∀ c ∈ b.toList.head?, isCapital c) : ofName (a ++ b) = ofName a ++ ofName b := by
  have hlast : ∀ c ∈ a.toList.getLast?, decide (c = '\x60') = false := fun c hc =>
    decide_eq_false fun h => absurd (ha c hc) (by rw [h]; decide)
  have hhead : ∀ c ∈ b.toList.head?, decide (c = '\x60') = false := fun c hc =>
    decide_eq_false fun h => absurd (hb c hc) (by rw [h]; decide)
  have hbare : unescape (a.toList ++ b.toList) = unescape a.toList ++ unescape b.toList :=
    Text.trim_append hlast hhead
  have hcut : ∀ c ∈ (unescape a.toList).getLast?, ∀ d ∈ (unescape b.toList).head?,
      cutBetween c d := by
    -- the two characters that meet in the whole name are those that meet without its backticks
    intro c hc d hd
    have hword := ha c (Text.mem_getLast?_of_mem_trim hlast c hc)
    have hcap := hb d (Text.mem_head?_of_mem_trim hhead d hd)
    rw [isWordChar, Bool.or_eq_true, decide_eq_true_eq] at hword
    rcases hword with hc | hc
    · simp [cutBetween, hc, hcap]
    · simp [cutBetween, hc]
  simp only [ofName, segments_eq_rawSegments, String.toList_append, hbare,
    rawSegments_append hcut, List.map_append]

end Append

end CaseKeys.Words
