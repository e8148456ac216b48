import GeoDuels.Lib.ReadCommitted
import Mathlib.Logic.Relation

/-!
# Deadlocks

A process waits for another one when its next statement needs a row that the other one has locked.
Nobody waits in a circle when each process waits only for processes at a later stage.
-/

namespace ReadCommitted.World

variable {K : Type} {V : K → Type} [DecidableEq K] {M : Program V} {w : World M}

/-- The next statement of `i` writes or locks a row that `j` has locked. -/
def Waits (w : World M) (i j : ℕ) : Prop :=
  i ≠ j ∧ ∃ p q e, w.procs.lookup i = some p ∧ w.procs.lookup j = some q ∧
    ∃ k ∈ M.own q, k ∈ (M.run p w.db e).1 ∨ k ∈ locks (M.run p w.db e).2

/-- Processes wait for each other in a circle. -/
def Deadlock (w : World M) : Prop := ∃ i, Relation.TransGen w.Waits i i

omit [DecidableEq K] in
theorem exists_of_not_free {id : ℕ} {rows : AList V} (h : ¬ w.Free id rows) :
    ∃ j q, j ≠ id ∧ w.procs.lookup j = some q ∧ ∃ k ∈ M.own q, k ∈ rows := by
  unfold Free at h
  push Not at h
  obtain ⟨j, q, hq, hj, k, hk, hown⟩ := h
  exact ⟨j, q, hj, hq, k, hown, AList.mem_keys.2 hk⟩

/-- A process whose statement cannot run waits for another one. -/
theorem exists_waits {i : ℕ} {p : M.Proc} {e : M.Env} (hp : w.procs.lookup i = some p)
    (hs : w.step (.run i e) = none) : ∃ j ∈ w.procs, w.Waits i j := by
  have hblocked : ¬ (w.Free i (M.run p w.db e).1 ∧ w.Free i (locks (M.run p w.db e).2)) := by
    intro hfree
    have hsome : w.step (.run i e) = some (w.settle i (M.run p w.db e)) := by
      simp [step, hp, hfree]
    rw [hs] at hsome
    cases hsome
  rcases not_and_or.1 hblocked with h | h
  · obtain ⟨j, q, hj, hq, k, hown, hk⟩ := exists_of_not_free h
    exact ⟨j, AList.lookup_isSome.1 (by rw [hq]; rfl), hj.symm, p, q, e, hp, hq, k, hown, .inl hk⟩
  · obtain ⟨j, q, hj, hq, k, hown, hk⟩ := exists_of_not_free h
    exact ⟨j, AList.lookup_isSome.1 (by rw [hq]; rfl), hj.symm, p, q, e, hp, hq, k, hown, .inr hk⟩

/-- Two processes that are alone and cannot run wait for each other. -/
theorem deadlock_of_pair {i j : ℕ} {e e' : M.Env} (hprocs : ∀ l ∈ w.procs, l = i ∨ l = j)
    (hi : i ∈ w.procs) (hj : j ∈ w.procs) (hbi : w.step (.run i e) = none)
    (hbj : w.step (.run j e') = none) : w.Deadlock := by
  obtain ⟨p, hp⟩ := Option.isSome_iff_exists.1 (AList.lookup_isSome.2 hi)
  obtain ⟨q, hq⟩ := Option.isSome_iff_exists.1 (AList.lookup_isSome.2 hj)
  obtain ⟨l, hl, hil⟩ := exists_waits hp hbi
  obtain ⟨l', hl', hjl⟩ := exists_waits hq hbj
  obtain rfl := (hprocs l hl).resolve_left fun h => hil.1 h.symm
  obtain rfl := (hprocs l' hl').resolve_right fun h => hjl.1 h.symm
  exact ⟨_, .tail (.single hil) hjl⟩

omit [DecidableEq K] in
/-- Who waits is at an earlier stage. -/
theorem not_deadlock {α : Type} [Preorder α] (stage : ℕ → α)
    (h : ∀ i j, w.Waits i j → stage i < stage j) : ¬ w.Deadlock := by
  rintro ⟨i, hi⟩
  have hlt : ∀ j, Relation.TransGen w.Waits i j → stage i < stage j := by
    intro j hj
    induction hj with
    | single hw => exact h _ _ hw
    | tail _ hw ih => exact lt_trans ih (h _ _ hw)
  exact lt_irrefl _ (hlt i hi)

end ReadCommitted.World
