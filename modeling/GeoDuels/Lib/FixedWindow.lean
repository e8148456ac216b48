import Mathlib.Algebra.Order.Ring.Nat
import Mathlib.Tactic.Ring

/-!
# Fixed windows

A counter is made by a request that finds none, lasts for the width of a window and counts the requests
that it meets; a request is admitted while the counter is no more than `n`.  The windows do not slide, so
an interval may meet one that was opened before it: `potential` is what can still be admitted in the
interval, every admission pays for itself (`potential_hit`), and `potential_le` is the bound that is left.
-/

namespace FixedWindow

/-- A counter, and the last time at which it is there. -/
structure Counter where
  count : ℕ
  expiresAt : ℕ
  pos : 0 < count
  deriving DecidableEq

/-- The counter that a request makes. -/
def Counter.start (expiresAt : ℕ) : Counter := ⟨1, expiresAt, Nat.one_pos⟩

def Counter.incr (c : Counter) : Counter := ⟨c.count + 1, c.expiresAt, Nat.succ_pos _⟩

/-- The counter, if it is there at the time. -/
def live (t : ℕ) (c : Option Counter) : Option Counter := c.filter fun c => t ≤ c.expiresAt

/-- The counter after a request. -/
def hit (w t : ℕ) (c : Option Counter) : Counter :=
  match live t c with
  | some c => c.incr
  | none => .start (t + w)

theorem live_eq_some {t : ℕ} {c : Option Counter} {c' : Counter} :
    live t c = some c' ↔ c = some c' ∧ t ≤ c'.expiresAt := by
  unfold live
  rw [Option.filter_eq_some_iff, decide_eq_true_eq]

/-- A request meets a counter, or makes one. -/
theorem hit_cases (w t : ℕ) (c : Option Counter) :
    (∃ c', c = some c' ∧ t ≤ c'.expiresAt ∧ (hit w t c).count = c'.count + 1 ∧
        (hit w t c).expiresAt = c'.expiresAt) ∨
      (hit w t c).count = 1 ∧ (hit w t c).expiresAt = t + w := by
  unfold hit
  cases hc : live t c with
  | some c' =>
      obtain ⟨rfl, hle⟩ := live_eq_some.1 hc
      exact .inl ⟨c', rfl, hle, rfl, rfl⟩
  | none => exact .inr ⟨rfl, rfl⟩

theorem live_hit {w t : ℕ} {c : Option Counter} : live t (some (hit w t c)) = some (hit w t c) := by
  refine live_eq_some.2 ⟨rfl, ?_⟩
  rcases hit_cases w t c with ⟨c', -, hle, -, hexpires⟩ | ⟨-, hexpires⟩ <;> omega

/-! ## Windows in an interval -/

/-- The windows of width `w` that can be opened at `t` or later, and no later than `b`. -/
def openings (w b t : ℕ) : ℕ := if t ≤ b then (b - t) / (w + 1) + 1 else 0

theorem openings_anti {w b t t' : ℕ} (h : t ≤ t') : openings w b t' ≤ openings w b t := by
  unfold openings
  split_ifs with ht' ht
  · exact Nat.add_le_add_right (Nat.div_le_div_right (by omega)) 1
  · omega
  · exact Nat.zero_le _
  · exact le_rfl

/-- A window is opened, and the next one when it is over. -/
theorem openings_succ {w b t : ℕ} (h : t ≤ b) : openings w b (t + w + 1) + 1 = openings w b t := by
  unfold openings
  rw [if_pos h]
  split_ifs with hnext
  · have hsub : b - t = b - (t + w + 1) + (w + 1) := by omega
    rw [hsub, Nat.add_div_right _ (Nat.succ_pos w)]
  · rw [Nat.div_eq_of_lt (by omega)]

/-! ## What can still be admitted -/

section

variable (n w a b t : ℕ)

/-- The requests that can be admitted from `t` on at the times from `a` to `b`. -/
def potential (c : Option Counter) : ℕ :=
  if b < t then 0
  else
    match live t c with
    | some c =>
        if a ≤ c.expiresAt then n - c.count + n * openings w b (c.expiresAt + 1) else n + n * openings w b a
    | none => if t < a then n + n * openings w b a else n * openings w b t

/-- A request at `t` is admitted in the interval. -/
def admits (c : Option Counter) : Prop := (hit w t c).count ≤ n ∧ a ≤ t ∧ t ≤ b

instance (c : Option Counter) : Decidable (admits n w a b t c) := inferInstanceAs (Decidable (_ ∧ _ ∧ _))

end

variable {n w a b t t' : ℕ} {c : Option Counter}

theorem potential_le : potential n w a b t c ≤ n * ((b - a) / (w + 1) + 2) := by
  have hstart : n + n * openings w b a ≤ n * ((b - a) / (w + 1) + 2) := by
    have hle : openings w b a ≤ (b - a) / (w + 1) + 1 := by
      unfold openings
      split_ifs
      · exact le_rfl
      · exact Nat.zero_le _
    calc n + n * openings w b a = n * (openings w b a + 1) := by ring
      _ ≤ n * ((b - a) / (w + 1) + 2) := Nat.mul_le_mul_left n (by omega)
  have hmul : ∀ s, a ≤ s → n * openings w b s ≤ n * openings w b a :=
    fun s hs => Nat.mul_le_mul_left n (openings_anti hs)
  unfold potential
  by_cases hb : b < t
  · rw [if_pos hb]
    exact Nat.zero_le _
  · rw [if_neg hb]
    cases live t c with
    | some c =>
        dsimp only
        split_ifs with ha
        · have := hmul (c.expiresAt + 1) (by omega)
          omega
        · exact hstart
    | none =>
        dsimp only
        split_ifs with ha
        · exact hstart
        · have := hmul t (by omega)
          omega

/-- Time passes. -/
theorem potential_mono (ht : t ≤ t') : potential n w a b t' c ≤ potential n w a b t c := by
  have hmul : ∀ s s', s ≤ s' → n * openings w b s' ≤ n * openings w b s :=
    fun s s' hs => Nat.mul_le_mul_left n (openings_anti hs)
  unfold potential
  by_cases hb' : b < t'
  · rw [if_pos hb']
    exact Nat.zero_le _
  rw [if_neg hb', if_neg (show ¬ b < t by omega)]
  cases hc' : live t' c with
  | some c' =>
      -- the counter has been there all the time
      obtain ⟨rfl, hle⟩ := live_eq_some.1 hc'
      rw [live_eq_some.2 ⟨rfl, ht.trans hle⟩]
  | none =>
      have hend := hmul a t'
      cases hc : live t c with
      | some c =>
          obtain ⟨rfl, hle⟩ := live_eq_some.1 hc
          have hgone : c.expiresAt < t' := by
            by_contra hnot
            rw [live_eq_some.2 ⟨rfl, Nat.not_lt.1 hnot⟩] at hc'
            cases hc'
          dsimp only
          split_ifs with h₁ h₂
          · omega
          · omega
          · have := hmul (c.expiresAt + 1) t' (by omega)
            omega
          · have := hend (by omega)
            omega
      | none =>
          dsimp only
          split_ifs with h₁ h₂
          · omega
          · omega
          · have := hend (by omega)
            omega
          · exact hmul t t' ht

/-- A request that is admitted pays for itself. -/
theorem potential_hit : potential n w a b t (some (hit w t c)) + (if admits n w a b t c then 1 else 0) ≤
    potential n w a b t c := by
  have hadmits : (if admits n w a b t c then 1 else 0) ≤ 1 := by split_ifs <;> omega
  have hno : ∀ P : Prop, (admits n w a b t c → P) → ¬ P → (if admits n w a b t c then 1 else 0) = 0 :=
    fun P h hP => if_neg fun hadm => hP (h hadm)
  unfold potential
  by_cases hb : b < t
  · rw [if_pos hb, if_pos hb, hno (t ≤ b) (fun h => h.2.2) (by omega)]
  rw [if_neg hb, if_neg hb, live_hit]
  dsimp only
  have hcount := hno ((hit w t c).count ≤ n) fun h => h.1
  have hbefore := hno (a ≤ t) fun h => h.2.1
  clear hno
  generalize (if admits n w a b t c then 1 else 0) = paid at hadmits hcount hbefore ⊢
  unfold hit Counter.incr Counter.start at hcount ⊢
  cases hc : live t c with
  | some c' =>
      -- the counter goes on
      rw [hc] at hcount
      have hle := (live_eq_some.1 hc).2
      dsimp only at hcount ⊢
      split_ifs with ha
      · by_cases hn : c'.count + 1 ≤ n
        · omega
        · rw [hcount hn]
          omega
      · have := hbefore (by omega)
        omega
  | none =>
      -- a counter is made
      rw [hc] at hcount
      dsimp only at hcount ⊢
      by_cases hta : t < a
      · rw [if_pos hta, hbefore (by omega)]
        split_ifs with ha
        · have := Nat.mul_le_mul_left n (openings_anti (w := w) (b := b) (show a ≤ t + w + 1 by omega))
          omega
        · omega
      · rw [if_neg hta, if_pos (by omega), ← openings_succ (w := w) (Nat.not_lt.1 hb), Nat.mul_succ]
        by_cases hn : 1 ≤ n
        · omega
        · rw [hcount hn]
          omega

end FixedWindow
