import Mathlib.Data.List.Nodup
import Mathlib.Data.Set.Insert

/-!
# Greedy matchings

A pass goes through a list of agents and pairs each one that is still free with a free agent related
to him, as long as there is one and the number of pairs that may be made is not used up.  The pairs
are disjoint, and unless the number is used up no agent of the list is left with a free agent related
to him.
-/

namespace Greedy

variable {α : Type*}

/-- The agents of a list of pairs. -/
def agents (ps : List (α × α)) : List α := ps.flatMap fun p => [p.1, p.2]

@[simp] theorem agents_nil : agents ([] : List (α × α)) = [] := rfl

@[simp] theorem agents_cons (p : α × α) (ps : List (α × α)) :
    agents (p :: ps) = p.1 :: p.2 :: agents ps := rfl

/-- A pass over a list of agents that may make `k` pairs of the free agents `S`: the pairs that it
makes, and who is free afterwards. -/
inductive Pass (R : α → α → Prop) : ℕ → List α → Set α → List (α × α) → Set α → Prop
  | done (k : ℕ) (S : Set α) : Pass R k [] S [] S
  | full (as : List α) (S : Set α) : Pass R 0 as S [] S
  | skip {k : ℕ} {a : α} {as : List α} {S S' : Set α} {ps : List (α × α)}
      (alone : a ∈ S → ∀ b ∈ S, ¬ R a b) (rest : Pass R k as S ps S') : Pass R k (a :: as) S ps S'
  | take {k : ℕ} {a b : α} {as : List α} {S S' : Set α} {ps : List (α × α)} (ha : a ∈ S) (hb : b ∈ S)
      (ne : a ≠ b) (rel : R a b) (rest : Pass R k as (S \ {a, b}) ps S') :
      Pass R (k + 1) (a :: as) S ((a, b) :: ps) S'

namespace Pass

variable {R : α → α → Prop} {k : ℕ} {as : List α} {S S' : Set α} {ps : List (α × α)}

theorem length_le (h : Pass R k as S ps S') : ps.length ≤ k := by
  induction h with
  | done | full => exact Nat.zero_le _
  | skip _ _ ih => exact ih
  | take _ _ _ _ _ ih => simpa using ih

/-- Who is paired was free before, and who is free afterwards was not paired. -/
theorem mem_iff (h : Pass R k as S ps S') (u : α) : u ∈ S' ↔ u ∈ S ∧ u ∉ agents ps := by
  induction h with
  | done | full => simp
  | skip _ _ ih => exact ih
  | take _ _ _ _ _ ih =>
      rw [ih]
      simp only [Set.mem_sdiff, Set.mem_insert_iff, Set.mem_singleton_iff, agents_cons, List.mem_cons,
        not_or]
      tauto

theorem mem_of_agent (h : Pass R k as S ps S') {u : α} (hu : u ∈ agents ps) : u ∈ S := by
  induction h with
  | done | full => cases hu
  | skip _ _ ih => exact ih hu
  | take ha hb _ _ _ ih =>
      simp only [agents_cons, List.mem_cons] at hu
      rcases hu with rfl | rfl | hu
      · exact ha
      · exact hb
      · exact (ih hu).1

theorem nodup (h : Pass R k as S ps S') : (agents ps).Nodup := by
  induction h with
  | done | full => exact List.nodup_nil
  | skip _ _ ih => exact ih
  | take _ _ ne _ rest ih =>
      have hfresh : ∀ u ∈ agents _, u ∉ ({_, _} : Set α) := fun u hu => (rest.mem_of_agent hu).2
      rw [agents_cons, List.nodup_cons, List.nodup_cons, List.mem_cons, not_or]
      refine ⟨⟨ne, fun hmem => ?_⟩, fun hmem => ?_, ih⟩
      · exact hfresh _ hmem (by simp)
      · exact hfresh _ hmem (by simp)

theorem related (h : Pass R k as S ps S') : ∀ p ∈ ps, R p.1 p.2 := by
  induction h with
  | done | full => simp
  | skip _ _ ih => exact ih
  | take _ _ _ rel _ ih => exact List.forall_mem_cons.2 ⟨rel, ih⟩

/-- Unless all the pairs that may be made are made, nobody of the list is left with somebody. -/
theorem maximal (h : Pass R k as S ps S') (hk : ps.length < k) :
    ∀ a ∈ as, a ∈ S' → ∀ b ∈ S', ¬ R a b := by
  induction h with
  | done => simp
  | full => exact absurd hk (Nat.not_lt_zero _)
  | skip alone rest ih =>
      refine List.forall_mem_cons.2 ⟨fun ha b hb => ?_, ih hk⟩
      exact alone ((rest.mem_iff _).1 ha).1 b ((rest.mem_iff b).1 hb).1
  | take _ _ _ _ rest ih =>
      refine List.forall_mem_cons.2 ⟨fun ha => ?_, ih (by simpa using hk)⟩
      exact absurd (by simp) ((rest.mem_iff _).1 ha).1.2

end Pass

end Greedy
