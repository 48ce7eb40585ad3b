import CaseKeys.Proofs.Key.Joining
import CaseKeys.Proofs.Words.Joints

/-! Keys of names put together. Where the joint is a cut, the words of the whole are those of the
parts, and its pascal and snake keys are made of the keys of the parts. -/
namespace CaseKeys.Key
open Words

/-- Two keys with an underscore between them. An empty key leaves the other as it is. -/
def underscored (first second : String) : String :=
  if first = "" then second else if second = "" then first else first ++ "_" ++ second

private theorem exists_join_eq_intercalate {f : KeyFormat} (hf : f.isSnake) :
    ∃ cased : String → String, ∀ words, join words f = "_".intercalate (words.map cased) := by
  cases f with
  | lowerSnake =>
    refine ⟨id, fun words => ?_⟩
    rw [← String.toList_inj, join, String.toList_ofList, String.toList_intercalate, List.map_id]
    rfl
  | upperSnake =>
    refine ⟨fun word => String.ofList (Text.upper word.toList), fun words => ?_⟩
    rw [← String.toList_inj, join, String.toList_ofList, String.toList_intercalate, joinChars,
      List.map_map, List.map_map]
    congr 1
    apply List.map_congr_left
    intro word _
    exact String.toList_ofList.symm
  | camel | pascal => cases hf

section Append
variable {name a b : String} (h : Words.ofName name = Words.ofName a ++ Words.ofName b)
include h

theorem ofName_pascal_append : ofName name .pascal = ofName a .pascal ++ ofName b .pascal := by
  rw [← String.toList_inj, String.toList_append, toList_ofName, toList_ofName, toList_ofName, h,
    List.map_append]
  exact List.flatMap_append

theorem ofName_snake_append {f : KeyFormat} (hf : f.isSnake) :
    ofName name f = underscored (ofName a f) (ofName b f) := by
  rw [underscored]
  split_ifs with ha hb
  · rw [ofName_eq_empty_iff] at ha
    rw [ofName, h, ha, List.nil_append, ofName]
  · rw [ofName_eq_empty_iff] at hb
    rw [ofName, h, hb, List.append_nil, ofName]
  · rw [ofName_eq_empty_iff] at ha hb
    obtain ⟨cased, hjoin⟩ := exists_join_eq_intercalate hf
    have hn : ∀ {words : List String}, words ≠ [] → words.map cased ≠ [] := mt List.map_eq_nil_iff.mp
    rw [ofName, ofName, ofName, h, hjoin, hjoin, hjoin, List.map_append,
      String.intercalate_append_of_ne_nil (hn ha) (hn hb)]

end Append

/-- A name put together of two is read as the two names one after the other, if an underscore stands
between them and no backtick beside it, or if the second begins with a capital that follows a letter, a
digit or an underscore. With the underscore the pascal key of the whole is the two pascal keys one after
the other, and its snake keys are the two keys with an underscore between those that are not empty. -/
theorem keys_of_concatenation (a b : String) :
    (a.toList.getLast? ≠ some '\x60' → b.toList.head? ≠ some '\x60' →
      Words.ofName (a ++ "_" ++ b) = Words.ofName a ++ Words.ofName b ∧
      ofName (a ++ "_" ++ b) .pascal = ofName a .pascal ++ ofName b .pascal ∧
      ∀ f, f.isSnake → ofName (a ++ "_" ++ b) f = underscored (ofName a f) (ofName b f)) ∧
    ((∀ c ∈ a.toList.getLast?, isWordChar c) → (∀ c ∈ b.toList.head?, isCapital c) →
      Words.ofName (a ++ b) = Words.ofName a ++ Words.ofName b) := by
  refine ⟨fun ha hb => ?_, ofName_append_capital⟩
  have hwords := ofName_append_underscore ha hb
  exact ⟨hwords, ofName_pascal_append hwords, fun f => ofName_snake_append hwords⟩

/-- An escaped name of underscores and capitals cut at an underscore, and one cut behind a digit that is
not ASCII. -/
theorem keys_of_concatenation_of_escaped :
    "\x60noX_".toList.getLast? ≠ some '\x60' ∧ "_I9a\x60".toList.head? ≠ some '\x60' ∧
    Words.ofName "\x60noX_" = ["no", "x"] ∧ Words.ofName "_I9a\x60" = ["i9a"] ∧
    Words.ofName "\x60noX___I9a\x60" = ["no", "x", "i9a"] ∧
    ofName "\x60noX___I9a\x60" .pascal = "NoXI9a" ∧
    ofName "\x60noX___I9a\x60" .upperSnake = "NO_X_I9A" ∧
    (∀ c ∈ "\x60a٣".toList.getLast?, isWordChar c) ∧ (∀ c ∈ "URL\x60".toList.head?, isCapital c) ∧
    Words.ofName "\x60a٣URL\x60" = ["a٣", "u", "r", "l"] := by
  have ha : "\x60noX_".toList.getLast? ≠ some '\x60' := by decide
  have hb : "_I9a\x60".toList.head? ≠ some '\x60' := by decide
  have hdigit : ∀ c ∈ "\x60a٣".toList.getLast?, isWordChar c := by
    intro c hc
    obtain rfl : '٣' = c := Option.mem_some.mp hc
    decide
  have hcapital : ∀ c ∈ "URL\x60".toList.head?, isCapital c := by
    intro c hc
    obtain rfl : 'U' = c := Option.mem_some.mp hc
    decide
  have hleft : Words.ofName "\x60noX_" = ["no", "x"] := by decide
  have hright : Words.ofName "_I9a\x60" = ["i9a"] := by decide
  obtain ⟨hwords, hpascal, hsnake⟩ := (keys_of_concatenation "\x60noX_" "_I9a\x60").1 ha hb
  rw [hleft, hright] at hwords
  refine ⟨ha, hb, hleft, hright, hwords, hpascal.trans (by decide),
    (hsnake .upperSnake rfl).trans (by decide), hdigit, hcapital, ?_⟩
  exact ((keys_of_concatenation "\x60a٣" "URL\x60").2 hdigit hcapital).trans (by decide)

end CaseKeys.Key
