/-
# Sorting by a key

Sections list entities by name, and structures are ordered by depth. These laws
say what such a sort promises whatever it is applied to: keys ascend, elements that
share a key stay in the order of the input, and where no two elements share a key
that order is forgotten.
-/

import ApiHeader.Schema.Basic
import Mathlib.Data.List.Nodup

namespace ApiHeader.Schema

section Relation

variable {α : Type} {r : α → α → Prop} [DecidableRel r]
variable (trans : ∀ a b c, r a b → r b c → r a c) (total : ∀ a b, r a b ∨ r b a)

include trans total

theorem pairwise_mergeSort_rel (elements : List α) :
    (elements.mergeSort fun a b => r a b).Pairwise r := by
  have sorted := @List.pairwise_mergeSort α (fun a b => decide (r a b))
    (fun a b c ab bc => decide_eq_true (trans a b c (of_decide_eq_true ab) (of_decide_eq_true bc)))
    (fun a b => by simpa using total a b) elements
  exact sorted.imp of_decide_eq_true

/-- Lists of the same elements sort alike if only equal elements tie. -/
theorem mergeSort_rel_eq_of_perm {first second : List α} (perm : first.Perm second)
    (antisymm : ∀ a ∈ first, ∀ b ∈ first, r a b → r b a → a = b) :
    (first.mergeSort fun a b => r a b) = second.mergeSort fun a b => r a b := by
  have same : (first.mergeSort fun a b => decide (r a b)).Perm
      (second.mergeSort fun a b => decide (r a b)) :=
    (List.mergeSort_perm first _).trans (perm.trans (List.mergeSort_perm second _).symm)
  refine same.eq_of_pairwise ?_ (pairwise_mergeSort_rel trans total first)
    (pairwise_mergeSort_rel trans total second)
  intro a b inside inside' ab ba
  rw [List.mem_mergeSort] at inside inside'
  exact antisymm a inside b (perm.mem_iff.2 inside') ab ba

end Relation

variable {α κ : Type} [LE κ] [DecidableLE κ] [Std.IsLinearOrder κ] (key : α → κ)

/-- Keys ascend in a list sorted by them. -/
theorem pairwise_mergeSort_key (elements : List α) :
    (elements.mergeSort fun a b => key a ≤ key b).Pairwise fun a b => key a ≤ key b :=
  pairwise_mergeSort_rel (r := fun a b => key a ≤ key b)
    (fun _ _ _ ab bc => Std.le_trans ab bc) (fun _ _ => Std.le_total) elements

/-- Elements that share a key keep their order. -/
theorem filter_mergeSort_key [DecidableEq κ] (elements : List α) (value : κ) :
    (elements.mergeSort fun a b => key a ≤ key b).filter (fun a => key a = value) =
      elements.filter fun a => key a = value := by
  have tied : (elements.filter fun a => key a = value).Pairwise fun a b =>
      decide (key a ≤ key b) = true := by
    refine List.pairwise_of_forall_mem_list fun a inside b inside' => decide_eq_true ?_
    simp only [List.mem_filter, decide_eq_true_eq] at inside inside'
    rw [inside.2, inside'.2]
    exact Std.le_refl value
  have trans (a b c : α) (ab : decide (key a ≤ key b) = true) (bc : decide (key b ≤ key c) = true) :
      decide (key a ≤ key c) = true :=
    decide_eq_true (Std.le_trans (of_decide_eq_true ab) (of_decide_eq_true bc))
  have total (a b : α) : (decide (key a ≤ key b) || decide (key b ≤ key a)) = true := by
    simpa using Std.le_total
  have kept : (elements.filter fun a => key a = value).Sublist
      (elements.mergeSort fun a b => key a ≤ key b) :=
    List.sublist_mergeSort trans total tied List.filter_sublist
  have again := kept.filter fun a => key a = value
  rw [List.filter_filter] at again
  simp only [Bool.and_self] at again
  have perm :=
    (List.mergeSort_perm elements fun a b => key a ≤ key b).filter fun a => key a = value
  exact (again.eq_of_length perm.length_eq.symm).symm

/-- What holds along a list holds along the sorted list where keys are the same. -/
theorem pairwise_mergeSort_ties {r : α → α → Prop} {elements : List α}
    (ordered : elements.Pairwise r) :
    (elements.mergeSort fun a b => key a ≤ key b).Pairwise fun a b =>
      key a ≤ key b ∧ (key a = key b → r a b) := by
  classical
  refine (pairwise_mergeSort_key key elements).and ?_
  rw [List.pairwise_iff_forall_sublist]
  intro a b pair same
  have tied := pair.filter fun other => key other = key b
  rw [filter_mergeSort_key, List.filter_eq_self.2 (by simp [same])] at tied
  exact List.pairwise_iff_forall_sublist.1 (ordered.filter _) tied

/-- Elements with keys of their own sort alike in whatever order they come. -/
theorem mergeSort_key_eq_of_perm {first second : List α} (perm : first.Perm second)
    (distinct : (first.map key).Nodup) :
    (first.mergeSort fun a b => key a ≤ key b) = second.mergeSort fun a b => key a ≤ key b := by
  apply mergeSort_rel_eq_of_perm (r := fun a b => key a ≤ key b)
    (fun _ _ _ ab bc => Std.le_trans ab bc) (fun _ _ => Std.le_total) perm
  intro a ha b hb ab ba
  exact List.inj_on_of_nodup_map distinct ha hb (Std.le_antisymm ab ba)

/-- The same for sorting from the largest key to the smallest. -/
theorem mergeSort_key_flip_eq_of_perm {first second : List α} (perm : first.Perm second)
    (distinct : (first.map key).Nodup) :
    (first.mergeSort fun a b => key b ≤ key a) = second.mergeSort fun a b => key b ≤ key a := by
  apply mergeSort_rel_eq_of_perm (r := fun a b => key b ≤ key a)
    (fun _ _ _ ab bc => Std.le_trans bc ab) (fun _ _ => Std.le_total) perm
  intro a ha b hb ab ba
  exact List.inj_on_of_nodup_map distinct ha hb (Std.le_antisymm ba ab)

end ApiHeader.Schema
