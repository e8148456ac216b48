import Mathlib.Data.List.Sort

/-!
# Sorted lists and their pages

A query that sorts its rows gives the same list however the rows come, as long as no two of them are
equal in the order.  So what is filtered after the sort could have been filtered before it.  `flatMap_pages`
puts a list together from the pages that it is read in.
-/

namespace Sorted

variable {α : Type*} {r s : α → α → Prop} [DecidableRel r] [DecidableRel s]

/-- The rows of one group, sorted with those of all groups or by themselves. -/
theorem filter_insertionSort [Std.Total r] [IsTrans α r] [Std.Total s] [IsTrans α s] (p : α → Bool)
    (l : List α) (hle : ∀ a ∈ l, ∀ b ∈ l, p a = true → p b = true → r a b → s a b)
    (hanti : ∀ a ∈ l, ∀ b ∈ l, p a = true → p b = true → s a b → s b a → a = b) :
    (l.insertionSort r).filter p = (l.filter p).insertionSort s := by
  have hmem : ∀ a, a ∈ l.insertionSort r ↔ a ∈ l := fun a => List.mem_insertionSort r
  have heq : ∀ a b, a ∈ (l.insertionSort r).filter p → b ∈ (l.filter p).insertionSort s →
      s a b → s b a → a = b := by
    intro a b ha hb
    obtain ⟨ha, hpa⟩ := List.mem_filter.1 ha
    obtain ⟨hb, hpb⟩ := List.mem_filter.1 ((List.mem_insertionSort s).1 hb)
    exact hanti a ((hmem a).1 ha) b hb hpa hpb
  have hsorted : ((l.insertionSort r).filter p).Pairwise s := by
    refine ((List.pairwise_insertionSort r l).sublist List.filter_sublist).imp_of_mem ?_
    intro a b ha hb hab
    obtain ⟨ha, hpa⟩ := List.mem_filter.1 ha
    obtain ⟨hb, hpb⟩ := List.mem_filter.1 hb
    exact hle a ((hmem a).1 ha) b ((hmem b).1 hb) hpa hpb hab
  have hperm : ((l.insertionSort r).filter p).Perm ((l.filter p).insertionSort s) :=
    ((List.perm_insertionSort r l).filter p).trans (List.perm_insertionSort s _).symm
  exact hperm.eq_of_pairwise heq hsorted (List.pairwise_insertionSort s _)

/-- The first pages of a list. -/
theorem flatMap_pages (l : List α) (size n : ℕ) :
    (List.range n).flatMap (fun i => (l.drop (i * size)).take size) = l.take (n * size) := by
  induction n with
  | zero => simp
  | succ n ih =>
      rw [List.range_succ, List.flatMap_append, ih, Nat.succ_mul, List.take_add]
      simp

/-- An element is on the page that its position says. -/
theorem getElem?_page (l : List α) {size i : ℕ} (hsize : 0 < size) :
    ((l.drop (i / size * size)).take size)[i % size]? = l[i]? := by
  rw [List.getElem?_take_of_lt (Nat.mod_lt i hsize), List.getElem?_drop]
  congr 1
  rw [Nat.mul_comm]
  exact Nat.div_add_mod i size

end Sorted
