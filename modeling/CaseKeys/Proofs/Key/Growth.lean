import CaseKeys.Proofs.Key.Joining
import Mathlib.Data.List.Infix

/-! A longer name has no shorter key. The segments of a name stay, but for the last one, which may grow,
when something is written behind the name, and no casing makes a longer segment shorter. -/
namespace CaseKeys.Key
open Words

/-- The beginnings of some lists, one for one: `ws` are not more than `vs` and stand in a relation to
the first of them. -/
inductive Within {α : Type} (R : α → α → Prop) : List α → List α → Prop where
  | nil (vs : List α) : Within R [] vs
  | cons {w v : α} {ws vs : List α} : R w v → Within R ws vs → Within R (w :: ws) (v :: vs)

namespace Within
variable {α β : Type} {R : α → α → Prop} {ws vs : List α}

theorem append (hR : ∀ a, R a a) (h : Within R ws vs) (before : List α) :
    Within R (before ++ ws) (before ++ vs) := by
  induction before with
  | nil => exact h
  | cons a before ih => exact .cons (hR a) ih

theorem map {S : β → β → Prop} {g : α → β} (hg : ∀ a b, R a b → S (g a) (g b))
    (h : Within R ws vs) : Within S (ws.map g) (vs.map g) := by
  induction h with
  | nil vs => exact .nil _
  | cons hR _ ih => exact .cons (hg _ _ hR) ih

private theorem length_flatMap_le {g : α → List β} (hg : ∀ a b, R a b → (g a).length ≤ (g b).length)
    (h : Within R ws vs) : (ws.flatMap g).length ≤ (vs.flatMap g).length := by
  induction h with
  | nil vs => exact Nat.zero_le _
  | cons hR _ ih =>
    rw [List.flatMap_cons, List.flatMap_cons, List.length_append, List.length_append]
    exact Nat.add_le_add (hg _ _ hR) ih

end Within

/-- A segment that has been read begins the next segment of every rest. -/
private theorem exists_scan_eq_cons {reading : List Char} (h : reading ≠ []) (rest : List Char) :
    ∃ g gs, scan reading rest = g :: gs ∧ reading.reverse <+: g := by
  have hclose : close reading = [reading.reverse] := if_neg (mt List.isEmpty_iff.mp h)
  induction rest generalizing reading with
  | nil => exact ⟨reading.reverse, [], by rw [scan, hclose], List.prefix_rfl⟩
  | cons c rest ih =>
    rw [scan]
    split_ifs
    · exact ⟨reading.reverse, _, by rw [hclose]; rfl, List.prefix_rfl⟩
    · exact ⟨reading.reverse, _, by rw [hclose]; rfl, List.prefix_rfl⟩
    · obtain ⟨g, gs, hs, hg⟩ := ih (List.cons_ne_nil c reading) rfl
      rw [List.reverse_cons] at hg
      exact ⟨g, gs, hs, (List.prefix_append _ _).trans hg⟩

/-- What is scanned behind a text changes its segments only by making the last one longer. -/
theorem within_scan_append (reading text behind : List Char) :
    Within (· <+: ·) (scan reading text) (scan reading (text ++ behind)) := by
  have hrefl : ∀ g : List Char, g <+: g := fun _ => List.prefix_rfl
  induction text generalizing reading with
  | nil =>
    by_cases h : reading = []
    · rw [h]
      exact .nil _
    · obtain ⟨g, gs, hs, hg⟩ := exists_scan_eq_cons h behind
      have hclose : close reading = [reading.reverse] := if_neg (mt List.isEmpty_iff.mp h)
      rw [scan, hclose, List.nil_append, hs]
      exact .cons hg (.nil gs)
  | cons c text ih =>
    rw [List.cons_append, scan, scan]
    split_ifs
    · exact (ih []).append hrefl _
    · exact (ih [c]).append hrefl _
    · exact ih (c :: reading)

theorem within_segments_append (name behind : List Char) :
    Within (· <+: ·) (segments name) (segments (name ++ behind)) := by
  obtain ⟨more, hm⟩ := Text.trim_prefix_append (· = '\x60') name behind
  have hbare : unescape (name ++ behind) = unescape name ++ more := hm.symm
  rw [segments, segments, hbare]
  exact within_scan_append [] (unescape name) more

/-- A word that is not longer than another, however the two are cased. -/
structure Narrower (w v : List Char) : Prop where
  plain : w.length ≤ v.length
  upper : (Text.upper w).length ≤ (Text.upper v).length
  capitalized : (capitalizeFirst w).length ≤ (capitalizeFirst v).length

private theorem length_capitalizeFirst_map_mergeSigma (w : List Char) :
    (capitalizeFirst (w.map Text.mergeSigma)).length = (capitalizeFirst w).length := by
  cases w with
  | nil => rfl
  | cons c w => simp [capitalizeFirst]

private theorem capitalizeFirst_mono {w v : List Char} (h : w <+: v) :
    capitalizeFirst w <+: capitalizeFirst v := by
  obtain ⟨more, rfl⟩ := h
  cases w with
  | nil => exact List.nil_prefix
  | cons c w =>
    rw [List.cons_append, capitalizeFirst, capitalizeFirst, ← List.append_assoc]
    exact List.prefix_append _ more

/-- Lower case depends on the context of a sigma, but its length does not, nor do those of the further
casings. -/
private theorem narrower_lower {u v : List Char} (h : u <+: v) :
    Narrower (Text.lower u) (Text.lower v) := by
  have hplain : u.flatMap Text.lowerChar <+: v.flatMap Text.lowerChar :=
    h.flatMap Text.lowerChar
  have hlength : ∀ t, (Text.lower t).length = (t.flatMap Text.lowerChar).length := fun t => by
    simpa using congrArg List.length (Text.map_mergeSigma_lower t)
  have hupper : ∀ t, Text.upper (Text.lower t) = Text.upper (t.flatMap Text.lowerChar) := fun t => by
    rw [← Text.upper_map_mergeSigma, Text.map_mergeSigma_lower, Text.upper_map_mergeSigma]
  have hcap : ∀ t, (capitalizeFirst (Text.lower t)).length =
      (capitalizeFirst (t.flatMap Text.lowerChar)).length := fun t => by
    rw [← length_capitalizeFirst_map_mergeSigma, Text.map_mergeSigma_lower,
      length_capitalizeFirst_map_mergeSigma]
  refine ⟨?_, ?_, ?_⟩
  · rw [hlength, hlength]
    exact hplain.length_le
  · rw [hupper, hupper]
    exact (hplain.flatMap Text.upperChar).length_le
  · rw [hcap, hcap]
    exact (capitalizeFirst_mono hplain).length_le

theorem length_joinChars_le {ws vs : List (List Char)} (h : Within Narrower ws vs) (f : KeyFormat) :
    (joinChars f ws).length ≤ (joinChars f vs).length := by
  cases h with
  | nil vs => cases f <;> exact Nat.zero_le _
  | @cons w v ws vs hw hrest =>
    have hcap : (ws.flatMap capitalizeFirst).length ≤ (vs.flatMap capitalizeFirst).length :=
      hrest.length_flatMap_le fun _ _ => Narrower.capitalized
    cases f with
    | lowerSnake =>
      have htail : (ws.flatMap ('_' :: ·)).length ≤ (vs.flatMap ('_' :: ·)).length :=
        hrest.length_flatMap_le fun _ _ h => Nat.succ_le_succ h.plain
      rw [joinChars, joinChars, intercalate_cons, intercalate_cons, List.length_append,
        List.length_append]
      exact Nat.add_le_add hw.plain htail
    | upperSnake =>
      have htail : (ws.flatMap fun w => '_' :: Text.upper w).length ≤
          (vs.flatMap fun v => '_' :: Text.upper v).length :=
        hrest.length_flatMap_le fun _ _ h => Nat.succ_le_succ h.upper
      rw [joinChars, joinChars, List.map_cons, List.map_cons, intercalate_cons, intercalate_cons,
        List.length_append, List.length_append, List.flatMap_map, List.flatMap_map]
      exact Nat.add_le_add hw.upper htail
    | camel =>
      rw [joinChars, joinChars, List.length_append, List.length_append]
      exact Nat.add_le_add hw.plain hcap
    | pascal =>
      rw [joinChars, joinChars, List.flatMap_cons, List.flatMap_cons, List.length_append,
        List.length_append]
      exact Nat.add_le_add hw.capitalized hcap

/-- No format gives a name a shorter key for being longer. -/
theorem length_ofName_le_append (name behind : String) (f : KeyFormat) :
    (ofName name f).toList.length ≤ (ofName (name ++ behind) f).toList.length := by
  rw [toList_ofName, toList_ofName, map_toList_ofName, map_toList_ofName, String.toList_append]
  have hsegments := within_segments_append name.toList behind.toList
  exact length_joinChars_le (hsegments.map fun _ _ h => narrower_lower h) f

end CaseKeys.Key
