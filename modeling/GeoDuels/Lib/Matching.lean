import Mathlib.Data.Set.BooleanAlgebra
import Mathlib.Data.Set.Insert
import Mathlib.Order.CompletePartialOrder
import Mathlib.Order.Disjoint
import Mathlib.Data.Set.Disjoint

/-!
# A matching protocol in two phases

Users wait in a queue.  A worker takes a group of them, which is pending until the worker delivers a
match: every user of the group then holds the match, and keeps it until he collects it.  The queue is
only approximate: a user of a pending group may still be queued, and may join again.

`Step` lists the steps of the protocol, with the two conditions under which it is sound: nobody joins
while a match that somebody holds names him (`join`), and no group is taken with a user of another
pending group (`take`).  `Inv.step` is the invariant; it says that no user is in two matches and that
every user of a match that somebody still holds has it or has collected it.
-/

namespace Matching

variable {U M I : Type*}

inductive Event (U M : Type*) where
  | joined (u : U)
  | collected (u : U) (m : M)
  deriving DecidableEq

structure State (U M I : Type*) where
  queued : Set U
  pending : I → Set U
  held : U → Set M
  /-- The joins and collections so far, the last one first. -/
  log : List (Event U M)

/-- The matches that anybody has collected since the last join of `u`. -/
def collectedSince [DecidableEq U] (u : U) : List (Event U M) → List M
  | [] => []
  | .joined v :: es => if v = u then [] else collectedSince u es
  | .collected _ m :: es => m :: collectedSince u es

/-- The match counts for `u`: somebody holds it, or collected it after the last join of `u`. -/
def State.Counts [DecidableEq U] (s : State U M I) (u : U) (m : M) : Prop :=
  (∃ v, m ∈ s.held v) ∨ m ∈ collectedSince u s.log

variable (players : M → List U)

inductive Step (s s' : State U M I) : Prop
  | quiet (queued : s'.queued ⊆ s.queued) (pending : s'.pending = s.pending)
      (held : s'.held = s.held) (log : s'.log = s.log)
  | join (u : U) (free : ∀ v, ∀ m ∈ s.held v, u ∉ players m)
      (queued : s'.queued ⊆ insert u s.queued) (pending : s'.pending = s.pending)
      (held : s'.held = s.held) (log : s'.log = .joined u :: s.log)
  | take (i : I) (group : s'.pending i ⊆ s.queued) (free : ∀ j, Disjoint (s'.pending i) (s.pending j))
      (queued : s'.queued ⊆ s.queued) (pending : ∀ j, j ≠ i → s'.pending j = s.pending j)
      (held : s'.held = s.held) (log : s'.log = s.log)
  | deliver (i : I) (m : M) (group : ∀ u, u ∈ players m ↔ u ∈ s.pending i)
      (queued : s'.queued ⊆ s.queued \ s.pending i) (done : s'.pending i = ∅)
      (pending : ∀ j, j ≠ i → s'.pending j = s.pending j)
      (held_of_mem : ∀ v ∈ s.pending i, s'.held v = {m})
      (held_of_notMem : ∀ v, v ∉ s.pending i → s'.held v = s.held v) (log : s'.log = s.log)
  | collect (u : U) (m : M) (mem : m ∈ s.held u) (queued : s'.queued ⊆ s.queued)
      (pending : s'.pending = s.pending) (held : ∀ v, s'.held v ⊆ s.held v)
      (kept : ∀ v, ∀ m' ∈ s.held v, m' ∈ s'.held v ∨ v = u ∧ m' = m)
      (log : s'.log = .collected u m :: s.log)

/-- Everybody whom a held match names holds it too, or has collected it. -/
def Shared (s : State U M I) : Prop :=
  ∀ v, ∀ m ∈ s.held v, ∀ a ∈ players m, m ∈ s.held a ∨ .collected a m ∈ s.log

/-- No user is in two of the matches that count for him. -/
def Exclusive [DecidableEq U] (s : State U M I) : Prop :=
  ∀ u m m', s.Counts u m → u ∈ players m → s.Counts u m' → u ∈ players m' → m = m'

/-- A match that counts for a user and names him keeps him out of the queue and of the pending groups,
and the pending groups are disjoint. -/
structure Free [DecidableEq U] (s : State U M I) : Prop where
  queued : ∀ u ∈ s.queued, ∀ m, s.Counts u m → u ∉ players m
  pending : ∀ i, ∀ u ∈ s.pending i, ∀ m, s.Counts u m → u ∉ players m
  disjoint : ∀ i j u, u ∈ s.pending i → u ∈ s.pending j → i = j

structure Inv [DecidableEq U] (s : State U M I) : Prop where
  free : Free players s
  shared : Shared players s
  exclusive : Exclusive players s

variable {players} {s s' : State U M I}

theorem Shared.of_same (h : Shared players s) (hh : s'.held = s.held) (hl : s'.log = s.log) :
    Shared players s' := by
  unfold Shared
  rwa [hh, hl]

variable [DecidableEq U]

theorem mem_collectedSince_of_joined {u v : U} {m : M} {es : List (Event U M)}
    (h : m ∈ collectedSince u (.joined v :: es)) : m ∈ collectedSince u es := by
  rw [collectedSince] at h
  split_ifs at h
  · cases h
  · exact h

theorem collectedSince_joined_self (u : U) (es : List (Event U M)) :
    collectedSince u (.joined u :: es) = [] := if_pos rfl

theorem Exclusive.of_counts (h : Exclusive players s) (hc : ∀ u m, s'.Counts u m → s.Counts u m) :
    Exclusive players s' := by
  intro u m m' hm hu hm' hu'
  exact h u m m' (hc u m hm) hu (hc u m' hm') hu'

/-- When no new match counts, a smaller queue and the same groups stay free. -/
theorem Free.of_counts (h : Free players s) (hc : ∀ u m, s'.Counts u m → s.Counts u m)
    (hq : s'.queued ⊆ s.queued) (hp : s'.pending = s.pending) : Free players s' where
  queued u hu m hm := h.queued u (hq hu) m (hc u m hm)
  pending i u hu m hm := h.pending i u (by rwa [hp] at hu) m (hc u m hm)
  disjoint i j u hi hj := h.disjoint i j u (by rwa [hp] at hi) (by rwa [hp] at hj)

theorem counts_of_same (hh : s'.held = s.held) (hl : s'.log = s.log) (u : U) (m : M)
    (h : s'.Counts u m) : s.Counts u m := by
  unfold State.Counts at h
  rwa [hh, hl] at h

/-! ## The steps -/

theorem Inv.join (h : Inv players s) {u : U} (free : ∀ v, ∀ m ∈ s.held v, u ∉ players m)
    (queued : s'.queued ⊆ insert u s.queued) (pending : s'.pending = s.pending)
    (held : s'.held = s.held) (log : s'.log = .joined u :: s.log) : Inv players s' := by
  have hc : ∀ w m, s'.Counts w m → s.Counts w m := by
    rintro w m (⟨v, hv⟩ | hm)
    · exact .inl ⟨v, by rwa [held] at hv⟩
    · rw [log] at hm
      exact .inr (mem_collectedSince_of_joined hm)
  refine ⟨⟨fun w hw m hm => ?_, fun i w hw m hm => ?_, fun i j w hi hj => ?_⟩, ?_,
    h.exclusive.of_counts hc⟩
  · rcases queued hw with rfl | hw
    · -- nothing counts for the new user but what somebody holds
      rcases hm with ⟨v, hv⟩ | hm
      · rw [held] at hv
        exact free v m hv
      · rw [log, collectedSince_joined_self] at hm
        cases hm
    · exact h.free.queued w hw m (hc w m hm)
  · rw [pending] at hw
    exact h.free.pending i w hw m (hc w m hm)
  · rw [pending] at hi hj
    exact h.free.disjoint i j w hi hj
  · intro v m hm a ha
    rw [held] at hm ⊢
    rw [log]
    exact (h.shared v m hm a ha).imp_right (List.mem_cons_of_mem _)

theorem Inv.take (h : Inv players s) {i : I} (group : s'.pending i ⊆ s.queued)
    (free : ∀ j, Disjoint (s'.pending i) (s.pending j)) (queued : s'.queued ⊆ s.queued)
    (pending : ∀ j, j ≠ i → s'.pending j = s.pending j) (held : s'.held = s.held)
    (log : s'.log = s.log) : Inv players s' := by
  have hc := counts_of_same held log
  refine ⟨⟨fun u hu m hm => h.free.queued u (queued hu) m (hc u m hm), fun j u hu m hm => ?_,
    fun j k u hj hk => ?_⟩, h.shared.of_same held log, h.exclusive.of_counts hc⟩
  · by_cases hj : j = i
    · subst hj
      exact h.free.queued u (group hu) m (hc u m hm)
    · rw [pending j hj] at hu
      exact h.free.pending j u hu m (hc u m hm)
  · by_cases hji : j = i <;> by_cases hki : k = i
    · rw [hji, hki]
    · subst hji
      rw [pending k hki] at hk
      exact absurd hk (Set.disjoint_left.1 (free k) hj)
    · subst hki
      rw [pending j hji] at hj
      exact absurd hj (Set.disjoint_left.1 (free j) hk)
    · rw [pending j hji] at hj
      rw [pending k hki] at hk
      exact h.free.disjoint j k u hj hk

theorem Inv.deliver (h : Inv players s) {i : I} {m : M}
    (group : ∀ u, u ∈ players m ↔ u ∈ s.pending i) (queued : s'.queued ⊆ s.queued \ s.pending i)
    (done : s'.pending i = ∅) (pending : ∀ j, j ≠ i → s'.pending j = s.pending j)
    (held_of_mem : ∀ v ∈ s.pending i, s'.held v = {m})
    (held_of_notMem : ∀ v, v ∉ s.pending i → s'.held v = s.held v) (log : s'.log = s.log) :
    Inv players s' := by
  have hheld : ∀ v, ∀ m' ∈ s'.held v, m' = m ∧ v ∈ s.pending i ∨ m' ∈ s.held v ∧ v ∉ s.pending i := by
    intro v m' hm'
    by_cases hv : v ∈ s.pending i
    · rw [held_of_mem v hv] at hm'
      exact .inl ⟨hm', hv⟩
    · rw [held_of_notMem v hv] at hm'
      exact .inr ⟨hm', hv⟩
  have hc : ∀ u m', s'.Counts u m' → m' = m ∨ s.Counts u m' := by
    rintro u m' (⟨v, hv⟩ | hm)
    · exact (hheld v m' hv).imp And.left fun hold => .inl ⟨v, hold.1⟩
    · rw [log] at hm
      exact .inr (.inr hm)
  refine ⟨⟨fun u hu m' hm' => ?_, fun j u hu m' hm' => ?_, fun j k u hj hk => ?_⟩, ?_, ?_⟩
  · rcases hc u m' hm' with rfl | hold
    · exact fun hmem => (queued hu).2 ((group u).1 hmem)
    · exact h.free.queued u (queued hu).1 m' hold
  · by_cases hj : j = i
    · rw [hj, done] at hu
      cases hu
    · rw [pending j hj] at hu
      rcases hc u m' hm' with rfl | hold
      · exact fun hmem => hj (h.free.disjoint j i u hu ((group u).1 hmem))
      · exact h.free.pending j u hu m' hold
  · by_cases hji : j = i
    · rw [hji, done] at hj
      cases hj
    · by_cases hki : k = i
      · rw [hki, done] at hk
        cases hk
      · rw [pending j hji] at hj
        rw [pending k hki] at hk
        exact h.free.disjoint j k u hj hk
  · intro v m' hm' a ha
    rw [log]
    rcases hheld v m' hm' with ⟨rfl, -⟩ | ⟨hold, -⟩
    · exact .inl (by rw [held_of_mem a ((group a).1 ha)]; rfl)
    · refine (h.shared v m' hold a ha).imp_left fun hma => ?_
      have hfree : a ∉ s.pending i := fun hai => h.free.pending i a hai m' (.inl ⟨a, hma⟩) ha
      rwa [held_of_notMem a hfree]
  · intro u m₁ m₂ h₁ hu₁ h₂ hu₂
    rcases hc u m₁ h₁ with rfl | hold₁ <;> rcases hc u m₂ h₂ with rfl | hold₂
    · rfl
    · exact absurd hu₂ (h.free.pending i u ((group u).1 hu₁) m₂ hold₂)
    · exact absurd hu₁ (h.free.pending i u ((group u).1 hu₂) m₁ hold₁)
    · exact h.exclusive u m₁ m₂ hold₁ hu₁ hold₂ hu₂

theorem Inv.collect (h : Inv players s) {u : U} {m : M} (mem : m ∈ s.held u)
    (queued : s'.queued ⊆ s.queued) (pending : s'.pending = s.pending)
    (held : ∀ v, s'.held v ⊆ s.held v)
    (kept : ∀ v, ∀ m' ∈ s.held v, m' ∈ s'.held v ∨ v = u ∧ m' = m)
    (log : s'.log = .collected u m :: s.log) : Inv players s' := by
  have hc : ∀ w m', s'.Counts w m' → s.Counts w m' := by
    rintro w m' (⟨v, hv⟩ | hm)
    · exact .inl ⟨v, held v hv⟩
    · rw [log, collectedSince] at hm
      rcases List.mem_cons.1 hm with rfl | hm
      · exact .inl ⟨u, mem⟩
      · exact .inr hm
  refine ⟨h.free.of_counts hc queued pending, fun v m' hm' a ha => ?_, h.exclusive.of_counts hc⟩
  rw [log]
  rcases h.shared v m' (held v hm') a ha with hold | hlog
  · refine (kept a m' hold).imp_right ?_
    rintro ⟨rfl, rfl⟩
    exact List.mem_cons_self
  · exact .inr (List.mem_cons_of_mem _ hlog)

/-- Every step keeps the invariant. -/
theorem Inv.step (h : Inv players s) (hs : Step players s s') : Inv players s' := by
  cases hs with
  | quiet queued pending held log =>
      have hc := counts_of_same held log
      exact ⟨h.free.of_counts hc queued pending, h.shared.of_same held log,
        h.exclusive.of_counts hc⟩
  | join u free queued pending held log => exact h.join free queued pending held log
  | take i group free queued pending held log => exact h.take group free queued pending held log
  | deliver i m group queued done pending held_of_mem held_of_notMem log =>
      exact h.deliver group queued done pending held_of_mem held_of_notMem log
  | collect u m mem queued pending held kept log =>
      exact h.collect mem queued pending held kept log

/-- Nobody queued, nothing pending and nothing held. -/
theorem Inv.init (hp : ∀ i, s.pending i = ∅) (hh : ∀ v, s.held v = ∅) (hl : s.log = []) :
    Inv players s := by
  have hc : ∀ u m, ¬ s.Counts u m := by
    rintro u m (⟨v, hv⟩ | hm)
    · rw [hh v] at hv
      cases hv
    · rw [hl] at hm
      cases hm
  refine ⟨⟨fun u _ m hm => absurd hm (hc u m), fun i u hu => ?_, fun i j u hi => ?_⟩,
    fun v m hm => ?_, fun u m _ hm => absurd hm (hc u m)⟩
  · rw [hp i] at hu
    cases hu
  · rw [hp i] at hi
    cases hi
  · rw [hh v] at hm
    cases hm

end Matching
