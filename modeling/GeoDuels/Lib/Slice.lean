import Mathlib.Data.List.Perm.Basic

/-!
# Slices that are changed in place

A loop that filters a slice into its own backing array reads at one index and writes at another one that is
not greater, so it reads what the slice had before.  An element is removed from an unordered slice by
moving the last one into its place.
-/

namespace Slice

open scoped List

variable {α : Type*}

/-! ## Filtering -/

/-- One round of `for _, x := range xs`: the backing array and the number of the elements kept, after the
element at `i` has been appended to `kept := xs[:0]` if it satisfies `p`. -/
def keepAt (p : α → Bool) (i : ℕ) (s : List α × ℕ) : List α × ℕ :=
  match s.1[i]? with
  | some x => if p x then (s.1.set s.2 x, s.2 + 1) else s
  | none => s

/-- The backing array after the rounds before `n`. -/
def keepBefore (p : α → Bool) (xs : List α) : ℕ → List α × ℕ
  | 0 => (xs, 0)
  | n + 1 => keepAt p n (keepBefore p xs n)

/-- What `kept` is after the loop. -/
def filterInPlace (p : α → Bool) (xs : List α) : List α :=
  let s := keepBefore p xs xs.length
  s.1.take s.2

/-- What is left to read has not been written, and before it stands what was kept. -/
structure Kept (p : α → Bool) (xs : List α) (n : ℕ) (s : List α × ℕ) : Prop where
  length : s.1.length = xs.length
  le : s.2 ≤ n
  unread : s.1.drop n = xs.drop n
  kept : s.1.take s.2 = (xs.take n).filter p

theorem Kept.next {p : α → Bool} {xs : List α} {n : ℕ} {s : List α × ℕ} (h : Kept p xs n s)
    (hn : n < xs.length) : Kept p xs (n + 1) (keepAt p n s) := by
  obtain ⟨arr, k⟩ := s
  obtain ⟨hlen, hle, hunread, hkept⟩ := h
  dsimp only at hlen hle hunread hkept
  have hread : arr[n]? = some xs[n] := by
    have hhead := congrArg List.head? hunread
    rwa [List.head?_drop, List.head?_drop, List.getElem?_eq_getElem hn] at hhead
  have hrest : arr.drop (n + 1) = xs.drop (n + 1) := by
    have htail := congrArg List.tail hunread
    rwa [List.tail_drop, List.tail_drop] at htail
  have htake : (xs.take (n + 1)).filter p = (xs.take n).filter p ++ [xs[n]].filter p := by
    rw [List.take_succ_eq_append_getElem hn, List.filter_append]
  unfold keepAt
  rw [hread]
  dsimp only
  by_cases hp : p xs[n] = true
  · rw [if_pos hp]
    refine ⟨by rw [List.length_set, hlen], Nat.succ_le_succ hle, ?_, ?_⟩
    · rw [List.drop_set_of_lt (Nat.lt_succ_of_le hle)]
      exact hrest
    · have hk : k < (arr.set k xs[n]).length := by
        rw [List.length_set, hlen]
        exact Nat.lt_of_le_of_lt hle hn
      rw [List.take_succ_eq_append_getElem hk, List.getElem_set_self, List.take_set_of_le (Nat.le_refl _), hkept,
        htake, List.filter_singleton, hp, cond_true]
  · rw [if_neg hp]
    refine ⟨hlen, Nat.le_succ_of_le hle, hrest, ?_⟩
    rw [htake, List.filter_singleton, eq_false_of_ne_true hp, cond_false, List.append_nil]
    exact hkept

theorem filterInPlace_eq_filter (p : α → Bool) (xs : List α) : filterInPlace p xs = xs.filter p := by
  have hkept : ∀ n ≤ xs.length, Kept p xs n (keepBefore p xs n) := by
    intro n
    induction n with
    | zero => exact fun _ => ⟨rfl, Nat.le_refl 0, rfl, rfl⟩
    | succ n ih => exact fun hn => (ih (Nat.le_of_succ_le hn)).next hn
  have hall := (hkept xs.length (Nat.le_refl _)).kept
  rwa [List.take_length] at hall

/-! ## Removing -/

/-- `xs[i] = xs[len(xs)-1]; xs = xs[:len(xs)-1]`. -/
def swapRemove (xs : List α) (i : ℕ) : List α :=
  match xs.getLast? with
  | some x => (xs.set i x).dropLast
  | none => []

theorem perm_swapRemove {xs : List α} {i : ℕ} (hi : i < xs.length) :
    xs[i] :: swapRemove xs i ~ xs := by
  obtain ⟨ys, y, rfl⟩ : ∃ ys y, xs = ys ++ [y] := by
    have hne : xs ≠ [] := List.ne_nil_of_length_pos (Nat.zero_lt_of_lt hi)
    exact ⟨xs.dropLast, xs.getLast hne, (List.dropLast_append_getLast hne).symm⟩
  unfold swapRemove
  rw [List.getLast?_concat]
  dsimp only
  by_cases hlast : i < ys.length
  · rw [List.set_append_left _ _ hlast, List.dropLast_concat, List.getElem_append_left hlast]
    calc ys[i] :: ys.set i y
        ~ ys[i] :: y :: ys.eraseIdx i := (List.set_perm_cons_eraseIdx hlast y).cons _
      _ ~ y :: ys[i] :: ys.eraseIdx i := .swap ..
      _ ~ y :: ys := (List.getElem_cons_eraseIdx_perm hlast).cons y
      _ ~ ys ++ [y] := (List.perm_append_singleton y ys).symm
  · obtain rfl : i = ys.length := by
      rw [List.length_append, List.length_singleton] at hi
      omega
    rw [List.getElem_concat_length rfl, List.set_append_right _ _ (Nat.le_refl _), Nat.sub_self,
      List.set_cons_zero, List.dropLast_concat]
    exact (List.perm_append_singleton y ys).symm

end Slice
