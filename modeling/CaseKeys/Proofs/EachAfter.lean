import Mathlib.Data.List.Basic
import Mathlib.Data.List.Dedup
import Mathlib.Data.List.Induction

/-! Lists that are read in order, each element in view of the elements before it. -/
namespace CaseKeys
variable {α β : Type}

/-- What every element gives, knowing the elements before it. -/
def eachAfter (give : List α → α → List β) (l : List α) : List β :=
  l.zipIdx.flatMap fun (a, i) => give (l.take i) a

theorem eachAfter_concat (give : List α → α → List β) (l : List α) (a : α) :
    eachAfter give (l ++ [a]) = eachAfter give l ++ give l a := by
  have hb : l.zipIdx.flatMap (fun p => give ((l ++ [a]).take p.2) p.1) = eachAfter give l := by
    apply List.flatMap_congr
    intro p hp
    have hi : p.2 < l.length := by simpa using List.snd_lt_of_mem_zipIdx hp
    rw [List.take_append_of_le_length (Nat.le_of_lt hi)]
  rw [eachAfter, List.zipIdx_append, List.flatMap_append]
  simp [hb]

section EraseDups
variable [BEq α] [LawfulBEq α]

/-- The last element is a duplicate of one before it, or kept. -/
theorem eraseDups_concat (l : List α) (a : α) :
    (l ++ [a]).eraseDups = l.eraseDups ++ (if a ∈ l then [] else [a]) := by
  rw [List.eraseDups_append]
  by_cases h : a ∈ l <;> simp [h, List.removeAll, List.eraseDups_cons]

theorem nodup_eraseDups (l : List α) : l.eraseDups.Nodup := by
  induction l using List.reverseRecOn with
  | nil => exact List.nodup_nil
  | append_singleton l a ih =>
    rw [eraseDups_concat]
    by_cases h : a ∈ l
    · rwa [if_pos h, List.append_nil]
    · rw [if_neg h, ← List.concat_eq_append]
      exact ih.concat (mt List.mem_eraseDups.mp h)

end EraseDups

theorem eraseDups_perm_dedup [DecidableEq α] (l : List α) : l.eraseDups.Perm l.dedup :=
  (List.perm_ext_iff_of_nodup (nodup_eraseDups l) l.nodup_dedup).mpr fun a => by
    rw [List.mem_eraseDups, List.mem_dedup]

end CaseKeys
