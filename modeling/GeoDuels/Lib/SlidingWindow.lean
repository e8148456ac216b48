import Mathlib.Data.List.Induction
import Mathlib.Order.Lattice

/-!
# Sliding windows

A limiter answers requests that have a key and a time, and a log lists the requests with their answers.
It is `Exact` when each request is admitted exactly if fewer than `n` earlier ones with its key were
admitted in the window of width `w` that ends with it.  Then no window holds more than `n` of a key
(`Exact.admitted_le`), a log is determined by its requests (`Exact.unique`), and what is left of it is exact
again when a refused request, or those of other keys, are left out (`Exact.remove`, `Exact.filter`).
-/

namespace SlidingWindow

variable {γ κ T : Type*} [DecidableEq κ] (key : γ → κ) (time : γ → T)

/-- How many requests with the key `k` were admitted at a time with `p`. -/
def admitted (p : T → Prop) [DecidablePred p] (k : κ) (log : List (γ × Bool)) : ℕ :=
  log.countP fun e => e.2 = true ∧ key e.1 = k ∧ p (time e.1)

variable {key time} in
/-- What is admitted does not depend on the requests that `q` leaves out. -/
theorem admitted_filter {log : List (γ × Bool)} {q : γ × Bool → Bool} {p : T → Prop} [DecidablePred p] {k : κ}
    (hq : ∀ e ∈ log, e.2 = true → key e.1 = k → q e = true) :
    admitted key time p k (log.filter q) = admitted key time p k log := by
  unfold admitted
  rw [List.countP_filter]
  refine List.countP_congr fun e he => ?_
  rw [Bool.and_eq_true]
  refine and_iff_left_of_imp fun hp => ?_
  obtain ⟨hok, hk, -⟩ := of_decide_eq_true hp
  exact hq e he hok hk

section Exact

variable [LinearOrder T] [Sub T]

/-- The window of width `w` that ends with `t`. -/
def Within (w t s : T) : Prop := t - w < s ∧ s ≤ t

instance (w t : T) : DecidablePred (Within w t) := fun _ => inferInstanceAs (Decidable (_ ∧ _))

/-- A request is admitted exactly when fewer than `n` were in the window that ends with it. -/
def Answers (n : ℕ) (w : T) (log : List (γ × Bool)) (e : γ × Bool) : Prop :=
  e.2 = true ↔ admitted key time (Within w (time e.1)) (key e.1) log < n

def Exact (n : ℕ) (w : T) (log : List (γ × Bool)) : Prop :=
  ∀ pre e post, log = pre ++ e :: post → Answers key time n w pre e

variable {key time} {n : ℕ} {w : T} {log log' : List (γ × Bool)} {e : γ × Bool}

theorem exact_nil : Exact key time n w [] := by
  intro pre e post h
  cases pre <;> cases h

theorem exact_concat : Exact key time n w (log ++ [e]) ↔ Exact key time n w log ∧ Answers key time n w log e := by
  constructor
  · intro h
    refine ⟨fun pre e' post hlog => h pre e' (post ++ [e]) ?_, h log e [] rfl⟩
    rw [hlog, List.append_assoc, List.cons_append]
  · rintro ⟨h, he⟩ pre e' post hlog
    rcases List.eq_nil_or_concat post with rfl | ⟨post, e'', rfl⟩
    · obtain ⟨rfl, hlast⟩ := List.append_inj' hlog rfl
      obtain rfl := List.singleton_inj.1 hlast
      exact he
    · rw [List.concat_eq_append, ← List.cons_append, ← List.append_assoc] at hlog
      exact h pre e' post (List.append_inj' hlog rfl).1

theorem Exact.filter (h : Exact key time n w log) {q : γ × Bool → Bool}
    (hq : ∀ e ∈ log, q e = true → ∀ e' ∈ log, e'.2 = true → key e'.1 = key e.1 → q e' = true) :
    Exact key time n w (log.filter q) := by
  induction log using List.reverseRecOn with
  | nil => exact exact_nil
  | append_singleton log e ih =>
      obtain ⟨hlog, he⟩ := exact_concat.1 h
      have hrest := ih hlog fun e₁ h₁ hq₁ e₂ h₂ =>
        hq e₁ (List.mem_append_left _ h₁) hq₁ e₂ (List.mem_append_left _ h₂)
      rw [List.filter_append]
      cases hqe : q e with
      | false =>
          rw [List.filter_cons_of_neg (by rw [hqe]; exact Bool.false_ne_true), List.filter_nil,
            List.append_nil]
          exact hrest
      | true =>
          rw [List.filter_cons_of_pos hqe, List.filter_nil]
          refine exact_concat.2 ⟨hrest, ?_⟩
          unfold Answers
          rw [admitted_filter fun e' he' hok hk => ?_]
          · exact he
          · exact hq e List.mem_concat_self hqe e' (List.mem_append_left _ he') hok hk

/-- A refused request changes no other answer. -/
theorem Exact.remove {pre post : List (γ × Bool)} {c : γ}
    (h : Exact key time n w (pre ++ (c, false) :: post)) : Exact key time n w (pre ++ post) := by
  induction post using List.reverseRecOn with
  | nil =>
      rw [List.append_nil]
      exact (exact_concat.1 h).1
  | append_singleton post e ih =>
      rw [← List.cons_append, ← List.append_assoc] at h
      obtain ⟨hinit, he⟩ := exact_concat.1 h
      rw [← List.append_assoc]
      refine exact_concat.2 ⟨ih hinit, ?_⟩
      unfold Answers admitted at he ⊢
      rwa [List.countP_append, List.countP_cons_of_neg (by simp), ← List.countP_append] at he

/-- The answers follow from the requests. -/
theorem Exact.unique (h : Exact key time n w log) (h' : Exact key time n w log')
    (hreq : log.map Prod.fst = log'.map Prod.fst) : log = log' := by
  induction log using List.reverseRecOn generalizing log' with
  | nil => exact (List.map_eq_nil_iff.1 hreq.symm).symm
  | append_singleton log e ih =>
      rcases List.eq_nil_or_concat log' with rfl | ⟨log', e', rfl⟩
      · simp at hreq
      · rw [List.concat_eq_append] at h' hreq ⊢
        obtain ⟨hlog, he⟩ := exact_concat.1 h
        obtain ⟨hlog', he'⟩ := exact_concat.1 h'
        rw [List.map_append, List.map_append] at hreq
        obtain ⟨hinit, hlast⟩ := List.append_inj' hreq rfl
        obtain rfl := ih hlog hlog' hinit
        have hfst : e.1 = e'.1 := List.singleton_inj.1 hlast
        have hsnd : e.2 = e'.2 := by
          rw [Bool.eq_iff_iff]
          unfold Answers at he he'
          rw [he, he', hfst]
        rw [Prod.ext hfst hsnd]

/-- Keys that tell the same requests apart. -/
theorem Exact.congr_key {κ' : Type*} [DecidableEq κ'] {key' : γ → κ'} (h : Exact key time n w log)
    (hkey : ∀ e ∈ log, ∀ e' ∈ log, key e.1 = key e'.1 ↔ key' e.1 = key' e'.1) :
    Exact key' time n w log := by
  rintro pre e post rfl
  have he := h pre e post rfl
  have hsame : admitted key' time (Within w (time e.1)) (key' e.1) pre =
      admitted key time (Within w (time e.1)) (key e.1) pre := by
    refine List.countP_congr fun e' he' => ?_
    have hiff := hkey e' (List.mem_append_left _ he') e (List.mem_append_right _ List.mem_cons_self)
    simp only [decide_eq_true_eq, hiff]
  unfold Answers at he ⊢
  rwa [hsame]

/-- Times of which none is a window later than another one hold `n` requests at most. -/
theorem Exact.admitted_le (h : Exact key time n w log) (hlog : log.Pairwise (time ·.1 ≤ time ·.1))
    {p : T → Prop} [DecidablePred p] (hp : ∀ s t, p s → p t → t - w < s) (k : κ) :
    admitted key time p k log ≤ n := by
  induction log using List.reverseRecOn with
  | nil => exact Nat.zero_le n
  | append_singleton log e ih =>
      obtain ⟨hinit, he⟩ := exact_concat.1 h
      obtain ⟨hsorted, -, hlast⟩ := List.pairwise_append.1 hlog
      have hrest := ih hinit hsorted
      unfold admitted at hrest ⊢
      rw [List.countP_append, List.countP_singleton]
      by_cases hin : e.2 = true ∧ key e.1 = k ∧ p (time e.1)
      · -- The earlier requests at times with `p` are in the window of the last one.
        obtain ⟨hok, rfl, hpe⟩ := hin
        have hwindow : admitted key time p (key e.1) log ≤
            admitted key time (Within w (time e.1)) (key e.1) log := by
          refine List.countP_mono_left fun e' he' hin => ?_
          obtain ⟨hok', hkey, hpe'⟩ := of_decide_eq_true hin
          have hle : time e'.1 ≤ time e.1 := hlast e' he' e List.mem_cons_self
          exact decide_eq_true ⟨hok', hkey, hp _ _ hpe' hpe, hle⟩
        have hlt := Nat.lt_of_le_of_lt hwindow (he.1 hok)
        unfold admitted at hlt
        split_ifs
        · exact hlt
        · exact Nat.le_of_lt hlt
      · rw [if_neg (by simpa using hin)]
        exact hrest

end Exact

end SlidingWindow
