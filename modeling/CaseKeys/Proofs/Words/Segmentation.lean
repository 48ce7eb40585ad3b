import CaseKeys.Words
import CaseKeys.Proofs.Text.Trim
import Mathlib.Data.List.SplitBy

/-! The scan of a case name finds exactly the segments that the places of its cuts describe. -/
namespace CaseKeys.Words

/-- Whether a text is cut between two neighbouring characters: on both sides of an underscore, and
before an ASCII capital that follows a letter or a digit. -/
def cutBetween (a b : Char) : Bool :=
  a = '_' || b = '_' || (isCapital b && Text.isAlphanumeric a)

/-- The parts of a text between its cuts. -/
def pieces (t : List Char) : List (List Char) :=
  t.splitBy fun a b => !cutBetween a b

/-- The parts that remain when the underscores, each a part of its own, are discarded. -/
def rawSegments (t : List Char) : List (List Char) :=
  (pieces t).filter (· ≠ ['_'])

private theorem pieces_append {u v : List Char}
    (h : ∀ a ∈ u.getLast?, ∀ b ∈ v.head?, cutBetween a b) : pieces (u ++ v) = pieces u ++ pieces v :=
  List.splitBy_append fun a ha b hb => by simp [h a ha b hb]

theorem rawSegments_append {u v : List Char}
    (h : ∀ a ∈ u.getLast?, ∀ b ∈ v.head?, cutBetween a b) :
    rawSegments (u ++ v) = rawSegments u ++ rawSegments v := by
  rw [rawSegments, pieces_append h, List.filter_append]
  rfl

theorem rawSegments_underscore (v : List Char) : rawSegments ('_' :: v) = rawSegments v := by
  have h : rawSegments (['_'] ++ v) = rawSegments ['_'] ++ rawSegments v :=
    rawSegments_append fun a ha b _ => by simp [cutBetween, ← Option.mem_some.mp ha]
  exact h

private theorem endsBefore_cons {p c : Char} (hp : p ≠ '_') (hc : c ≠ '_') (rest : List Char) :
    endsBefore (p :: rest) c = cutBetween p c := by
  simp [endsBefore, isWordChar, cutBetween, hp, hc]

/-- A segment that is being read holds no underscore and no cut. -/
structure Reading (reading : List Char) : Prop where
  underscore : '_' ∉ reading
  uncut : reading.reverse.IsChain fun a b => (!cutBetween a b) = true

theorem Reading.close {reading : List Char} (h : Reading reading) :
    close reading = rawSegments reading.reverse := by
  cases reading with
  | nil => rfl
  | cons c rest =>
    have hn : (c :: rest).reverse ≠ [] := by simp
    have hu : (c :: rest).reverse ≠ ['_'] := fun hu => h.underscore (by
      rw [← List.mem_reverse, hu]
      exact List.mem_singleton_self _)
    rw [rawSegments, pieces, List.splitBy_of_isChain hn h.uncut,
      List.filter_cons_of_pos (by simpa using hu)]
    rfl

theorem Reading.cons {reading : List Char} (h : Reading reading) {c : Char} (hc : c ≠ '_')
    (hb : endsBefore reading c = false) : Reading (c :: reading) := by
  refine ⟨fun hm => ?_, ?_⟩
  · rcases List.mem_cons.mp hm with hm | hm
    · exact hc hm.symm
    · exact h.underscore hm
  · -- a new cut could only stand between the last character read and `c`
    rw [List.reverse_cons, List.isChain_append]
    refine ⟨h.uncut, List.isChain_singleton _, fun a ha b hb' => ?_⟩
    obtain rfl : c = b := by simpa using hb'
    cases reading with
    | nil => simp at ha
    | cons p rest =>
      obtain rfl : p = a := by simpa using ha
      have hp : p ≠ '_' := fun hp => h.underscore (by simp [hp])
      rw [endsBefore_cons hp hc] at hb
      rw [hb]
      rfl

private theorem Reading.cut {reading : List Char} (h : Reading reading) {c : Char} (hc : c ≠ '_')
    (hb : endsBefore reading c = true) : ∀ a ∈ reading.reverse.getLast?, cutBetween a c := by
  intro a ha
  cases reading with
  | nil => simp at ha
  | cons p rest =>
    obtain rfl : p = a := by simpa using ha
    have hp : p ≠ '_' := fun hp => h.underscore (by simp [hp])
    rwa [endsBefore_cons hp hc] at hb

/-- The scan finds the segments of what it has read and of what is left. -/
theorem scan_eq_rawSegments {reading : List Char} (h : Reading reading) (rest : List Char) :
    scan reading rest = rawSegments (reading.reverse ++ rest) := by
  induction rest generalizing reading with
  | nil => rw [scan, h.close, List.append_nil]
  | cons c rest ih =>
    have hnil : Reading [] := ⟨by simp, List.isChain_nil⟩
    by_cases hc : c = '_'
    · -- the text is cut on both sides of `c`, and `c` itself is discarded
      have hs : rawSegments (reading.reverse ++ c :: rest) =
          rawSegments reading.reverse ++ rawSegments (c :: rest) :=
        rawSegments_append fun a _ b hb => by
          obtain rfl : c = b := by simpa using hb
          simp [cutBetween, hc]
      rw [scan, if_pos hc, ih hnil, h.close, hs, hc, rawSegments_underscore]
      rfl
    · rw [scan, if_neg hc]
      by_cases hb : endsBefore reading c = true
      · have hs : rawSegments (reading.reverse ++ c :: rest) =
            rawSegments reading.reverse ++ rawSegments (c :: rest) :=
          rawSegments_append fun a ha b hb' => by
            obtain rfl : c = b := by simpa using hb'
            exact h.cut hc hb a ha
        rw [if_pos hb, ih (hnil.cons hc rfl), h.close, hs]
        rfl
      · rw [if_neg hb, ih (h.cons hc (Bool.eq_false_iff.mpr hb)), List.reverse_cons,
          List.append_assoc]
        rfl

theorem segments_eq_rawSegments (name : List Char) :
    segments name = rawSegments (unescape name) :=
  scan_eq_rawSegments ⟨List.not_mem_nil, List.isChain_nil⟩ (unescape name)

private theorem eq_underscore_or_notMem {t g : List Char} (hg : g ∈ pieces t) :
    g = ['_'] ∨ '_' ∉ g := by
  have hc := List.isChain_iff_forall_rel_of_append_cons_cons.mp (List.isChain_of_mem_splitBy hg)
  by_cases hm : '_' ∈ g
  · left
    obtain ⟨u, v, rfl⟩ := List.append_of_mem hm
    have hv : v = [] := by
      cases v with
      | nil => rfl
      | cons b v => simpa [cutBetween] using hc rfl
    have hu : u = [] := by
      rcases List.eq_nil_or_concat' u with rfl | ⟨u, a, rfl⟩
      · rfl
      · have h := @hc a '_' u v (by simp)
        simp [cutBetween] at h
    rw [hu, hv]
    rfl
  · exact .inr hm

private theorem flatten_filter_ne_underscore {gs : List (List Char)}
    (h : ∀ g ∈ gs, g = ['_'] ∨ '_' ∉ g) :
    (gs.filter (· ≠ ['_'])).flatten = gs.flatten.filter (· ≠ '_') := by
  induction gs with
  | nil => rfl
  | cons g gs ih =>
    have hg := ih fun g' hg' => h g' (List.mem_cons_of_mem g hg')
    rw [List.flatten_cons, List.filter_append, ← hg]
    rcases h g List.mem_cons_self with rfl | hn
    · rfl
    · have hne : g ≠ ['_'] := fun he => hn (by simp [he])
      have hs : g.filter (· ≠ '_') = g := List.filter_eq_self.mpr fun c hc => by
        simpa using fun he : c = '_' => hn (he ▸ hc)
      rw [List.filter_cons_of_pos (by simpa using hne), List.flatten_cons, hs]

/-- Nothing but the underscores is lost, and nothing is doubled or reordered. -/
theorem flatten_rawSegments (t : List Char) : (rawSegments t).flatten = t.filter (· ≠ '_') := by
  rw [rawSegments, flatten_filter_ne_underscore fun g => eq_underscore_or_notMem, pieces,
    List.flatten_splitBy]

theorem nil_notMem_rawSegments (t : List Char) : [] ∉ rawSegments t :=
  fun h => List.nil_notMem_splitBy _ t (List.mem_filter.mp h).1

private theorem cut_of_meet {t : List Char} {us vs : List (List Char)} (h : pieces t = us ++ vs)
    (hu : us ≠ []) (hv : vs ≠ []) :
    ∃ p a b q, us.flatten = p ++ [a] ∧ vs.flatten = b :: q ∧ cutBetween a b := by
  obtain ⟨us, g, rfl⟩ := (List.eq_nil_or_concat' us).resolve_left hu
  obtain ⟨g', vs, rfl⟩ := List.exists_cons_of_ne_nil hv
  have hlink := List.isChain_getLast_head_splitBy (fun a b => !cutBetween a b) t
  rw [← pieces, h, List.isChain_append] at hlink
  obtain ⟨hg, hg', hcut⟩ := hlink.2.2 g (by simp) g' (by simp)
  obtain ⟨u, a, rfl⟩ := (List.eq_nil_or_concat' g).resolve_left hg
  obtain ⟨b, v, rfl⟩ := List.exists_cons_of_ne_nil hg'
  exact ⟨us.flatten ++ u, a, b, v ++ vs.flatten, by simp, by simp, by simpa using hcut⟩

private theorem pieces_split {t : List Char} {i : Nat} {a b : Char} (ha : t[i]? = some a)
    (hb : t[i + 1]? = some b) (hcut : cutBetween a b) :
    pieces t = pieces (t.take (i + 1)) ++ pieces (t.drop (i + 1)) := by
  rw [← pieces_append, List.take_append_drop]
  intro x hx y hy
  have hxa : a = x := by simpa [List.getLast?_take, ha] using hx
  have hyb : b = y := by simpa [List.head?_drop, hb] using hy
  rwa [← hxa, ← hyb]

/-- The pieces meet exactly at the cuts: some first pieces end between two characters if and only
if the text is cut there. -/
theorem pieces_meet_iff (t : List Char) (i : Nat) :
    (∃ k < (pieces t).length, ((pieces t).take k).flatten.length = i + 1) ↔
      ∃ a b, t[i]? = some a ∧ t[i + 1]? = some b ∧ cutBetween a b := by
  constructor
  · rintro ⟨k, hk, hi⟩
    have hu : (pieces t).take k ≠ [] := fun hu => by simp [hu] at hi
    obtain ⟨p, a, b, q, hp, hq, hcut⟩ := cut_of_meet (List.take_append_drop k (pieces t)).symm hu
      (by simpa using hk)
    have ht : t = p ++ a :: b :: q := by
      have h := congrArg List.flatten (List.take_append_drop k (pieces t))
      rw [List.flatten_append, hp, hq, pieces, List.flatten_splitBy] at h
      simpa using h.symm
    have hlen : p.length = i := by simpa [hp] using hi
    exact ⟨a, b, by simp [ht, ← hlen], by simp [ht, ← hlen], hcut⟩
  · rintro ⟨a, b, ha, hb, hcut⟩
    have hi : i + 1 < t.length := (List.getElem?_eq_some_iff.mp hb).1
    have hsplit := pieces_split ha hb hcut
    refine ⟨(pieces (t.take (i + 1))).length, ?_, ?_⟩
    · have hne : pieces (t.drop (i + 1)) ≠ [] := List.splitBy_ne_nil.mpr (by simpa using hi)
      rw [hsplit, List.length_append]
      exact Nat.lt_add_of_pos_right (List.length_pos_iff.mpr hne)
    · rw [hsplit, List.take_left, pieces, List.flatten_splitBy, List.length_take]
      omega

/-- The words of a case name are the lower-case forms of the raw segments of the unescaped name,
which is cut around every underscore and before every ASCII capital that follows a letter or a
digit, and nowhere else. -/
theorem ofName_eq_lower_rawSegments (name : String) :
    (∃ m n, name.toList =
      List.replicate m '\x60' ++ unescape name.toList ++ List.replicate n '\x60') ∧
    (unescape name.toList).head? ≠ some '\x60' ∧ (unescape name.toList).getLast? ≠ some '\x60' ∧
    ofName name = (rawSegments (unescape name.toList)).map
      (fun segment => String.ofList (Text.lower segment)) ∧
    ∀ t, (∀ i, (∃ k < (pieces t).length, ((pieces t).take k).flatten.length = i + 1) ↔
        ∃ a b, t[i]? = some a ∧ t[i + 1]? = some b ∧
          (a = '_' ∨ b = '_' ∨ ('A' ≤ b ∧ b ≤ 'Z') ∧ Text.isAlphanumeric a)) ∧
      (pieces t).flatten = t ∧ rawSegments t = (pieces t).filter (· ≠ ['_']) ∧
      (rawSegments t).flatten = t.filter (· ≠ '_') ∧ [] ∉ rawSegments t := by
  obtain ⟨hticks, hhead, hlast⟩ := Text.trim_eq '\x60' name.toList
  refine ⟨hticks, hhead, hlast, ?_, fun t => ⟨fun i => ?_, List.flatten_splitBy _ t, rfl,
    flatten_rawSegments t, nil_notMem_rawSegments t⟩⟩
  · rw [ofName, segments_eq_rawSegments]
  · rw [pieces_meet_iff]
    simp [cutBetween, isCapital, or_assoc]

end CaseKeys.Words
