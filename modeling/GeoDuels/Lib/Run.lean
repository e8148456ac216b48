import Mathlib.Data.List.Forall2
import Mathlib.Data.List.Induction

/-!
# Runs of a labelled transition function

A system is a partial step function `step : σ → α → Option σ`: the label `a` says which action is
taken (with every choice the environment makes for it) and `step s a = none` says that the action
is not enabled in `s`.  `exec` runs a list of labels, `Along R` says that every transition of such a
run satisfies `R`, and `Always P` that every state does.  The rules below turn what one step
preserves into what a whole run preserves, also under a condition on the steps (`Guarded`), and
give the converse for conditions whose violation shows in the next state.  `exec_rel` relates two
runs that are taken in step.  `trace` lists what can be observed of a run.
-/

namespace Run

variable {σ α : Type*} (step : σ → α → Option σ)

/-- The state after the actions of a list; `none` when one of them is not enabled. -/
def exec : σ → List α → Option σ
  | s, [] => some s
  | s, a :: as => (step s a).bind fun s' => exec s' as

/-- Every transition `s -a→ s'` of the run satisfies `R`. -/
def Along (R : σ → α → σ → Prop) : σ → List α → Prop
  | _, [] => True
  | s, a :: as => ∀ s', step s a = some s' → R s a s' ∧ Along R s' as

/-- Every step of the run is taken in a state that meets the condition `C`. -/
def Guarded (C : σ → α → Prop) : σ → List α → Prop := Along step fun s a _ => C s a

/-- Every state of the run satisfies `P`. -/
def Always (P : σ → Prop) (s : σ) (as : List α) : Prop := P s ∧ Along step (fun _ _ s' => P s') s as

variable {step}

instance Along.decidable {R : σ → α → σ → Prop} [∀ s a s', Decidable (R s a s')] :
    ∀ s as, Decidable (Along step R s as)
  | _, [] => .isTrue trivial
  | s, a :: as =>
      have (s' : σ) : Decidable (Along step R s' as) := Along.decidable s' as
      decidable_of_iff (∀ s' ∈ step s a, R s a s' ∧ Along step R s' as) Iff.rfl

instance Guarded.decidable {C : σ → α → Prop} [∀ s a, Decidable (C s a)] (s : σ) (as : List α) :
    Decidable (Guarded step C s as) :=
  inferInstanceAs (Decidable (Along step _ s as))

instance Always.decidable {P : σ → Prop} [DecidablePred P] (s : σ) (as : List α) :
    Decidable (Always step P s as) :=
  inferInstanceAs (Decidable (_ ∧ Along step _ s as))

theorem exec_append (s : σ) (as bs : List α) :
    exec step s (as ++ bs) = (exec step s as).bind fun s' => exec step s' bs := by
  induction as generalizing s with
  | nil => rfl
  | cons a as ih =>
      simp only [List.cons_append, exec, Option.bind_assoc]
      congr 1
      funext s'
      exact ih s'

theorem exec_concat (s : σ) (as : List α) (a : α) :
    exec step s (as ++ [a]) = (exec step s as).bind fun s' => step s' a := by
  rw [exec_append]
  congr 1
  funext s'
  simp [exec]

/-- A run satisfies `R` throughout exactly when every transition between two of its prefixes
does. -/
theorem along_iff_transitions {R : σ → α → σ → Prop} {s : σ} {as : List α} :
    Along step R s as ↔ ∀ pre a post s₁ s₂, as = pre ++ a :: post → exec step s pre = some s₁ →
      step s₁ a = some s₂ → R s₁ a s₂ := by
  induction as generalizing s with
  | nil => simp [Along]
  | cons b bs ih =>
      constructor
      · intro h pre a post s₁ s₂ has hs₁ hs₂
        cases pre with
        | nil =>
            simp only [List.nil_append, List.cons.injEq] at has
            obtain ⟨rfl, rfl⟩ := has
            obtain rfl : s = s₁ := by simpa [exec] using hs₁
            exact (h s₂ hs₂).1
        | cons c pre =>
            simp only [List.cons_append, List.cons.injEq] at has
            obtain ⟨rfl, hbs⟩ := has
            obtain ⟨s', hs', hpre⟩ := Option.bind_eq_some_iff.1 hs₁
            exact ih.1 (h s' hs').2 pre a post s₁ s₂ hbs hpre hs₂
      · intro h s' hs'
        refine ⟨h [] b bs s s' rfl rfl hs', ih.2 fun pre a post s₁ s₂ hbs hs₁ hs₂ => ?_⟩
        refine h (b :: pre) a post s₁ s₂ (by rw [hbs]; rfl) ?_ hs₂
        rw [exec, hs', Option.bind_some, hs₁]

theorem Along.mono {R R' : σ → α → σ → Prop} (h : ∀ s a s', R s a s' → R' s a s') {s : σ}
    {as : List α} (hr : Along step R s as) : Along step R' s as := by
  induction as generalizing s with
  | nil => trivial
  | cons a as ih => exact fun s' hs' => ⟨h _ _ _ (hr s' hs').1, ih (hr s' hs').2⟩

theorem Guarded.concat {C : σ → α → Prop} {s s' : σ} {as : List α} {a : α}
    (h : Guarded step C s (as ++ [a])) (hs : exec step s as = some s')
    (hen : (step s' a).isSome) : C s' a := by
  obtain ⟨s'', hs''⟩ := Option.isSome_iff_exists.1 hen
  exact along_iff_transitions.1 h as a [] s' s'' rfl hs hs''

theorem Along.left {R : σ → α → σ → Prop} {s : σ} {as bs : List α}
    (h : Along step R s (as ++ bs)) : Along step R s as := by
  rw [along_iff_transitions] at h ⊢
  intro pre a post s₁ s₂ has
  exact h pre a (post ++ bs) s₁ s₂ (by rw [has, List.append_assoc, List.cons_append])

/-- The history rule: an invariant of the actions taken so far and the state they lead to. -/
theorem exec_induction {Inv : List α → σ → Prop} {C : σ → α → Prop} {s : σ}
    (h₀ : Inv [] s)
    (hstep : ∀ as s₁ a s₂, exec step s as = some s₁ → Inv as s₁ → C s₁ a → step s₁ a = some s₂ →
      Inv (as ++ [a]) s₂) {as : List α} {s' : σ} (hC : Guarded step C s as)
    (hs : exec step s as = some s') : Inv as s' := by
  induction as using List.reverseRecOn generalizing s' with
  | nil =>
      obtain rfl : s = s' := by simpa [exec] using hs
      exact h₀
  | append_singleton as a ih =>
      rw [exec_concat] at hs
      obtain ⟨s₁, hs₁, hs'⟩ := Option.bind_eq_some_iff.1 hs
      exact hstep as s₁ a s' hs₁ (ih hC.left hs₁)
        (hC.concat hs₁ (by rw [hs']; rfl)) hs'

/-- `R` holds of every transition of the run, together with the actions before it. -/
def Throughout (step : σ → α → Option σ) (R : List α → σ → α → σ → Prop) (s : σ) (as : List α) :
    Prop :=
  ∀ pre a post s₁ s₂, as = pre ++ a :: post → exec step s pre = some s₁ → step s₁ a = some s₂ →
    R pre s₁ a s₂

/-- The step rule with history: an invariant of the actions and their state that implies `R` at each
permitted step. -/
theorem throughout_of_invariant (Inv : List α → σ → Prop) {C : σ → α → Prop}
    {R : List α → σ → α → σ → Prop} {s : σ} (h₀ : Inv [] s)
    (hstep : ∀ as s₁ a s₂, exec step s as = some s₁ → Inv as s₁ → C s₁ a → step s₁ a = some s₂ →
      Inv (as ++ [a]) s₂ ∧ R as s₁ a s₂) {as : List α} (hC : Guarded step C s as) :
    Throughout step R s as := by
  rintro pre a post s₁ s₂ rfl hs₁ hs₂
  have hpre : Guarded step C s (pre ++ [a]) := by
    rw [← List.singleton_append, ← List.append_assoc] at hC
    exact hC.left
  have hinv := exec_induction h₀
    (fun as s₁ a s₂ hs hi hc hs' => (hstep as s₁ a s₂ hs hi hc hs').1) hpre.left hs₁
  exact (hstep pre s₁ a s₂ hs₁ hinv (hpre.concat hs₁ (by rw [hs₂]; rfl)) hs₂).2

theorem Throughout.along {R : List α → σ → α → σ → Prop} {s : σ} {as : List α}
    (h : Throughout step R s as) {R' : σ → α → σ → Prop}
    (hR : ∀ pre s₁ a s₂, R pre s₁ a s₂ → R' s₁ a s₂) : Along step R' s as :=
  along_iff_transitions.2 fun pre a post s₁ s₂ has hs₁ hs₂ =>
    hR pre s₁ a s₂ (h pre a post s₁ s₂ has hs₁ hs₂)

/-- The step rule: an invariant that every permitted step preserves, and that implies `R` at each of
them, gives `R` along every run whose steps are permitted. -/
theorem along_of_invariant {Inv : σ → Prop} {C : σ → α → Prop} {R : σ → α → σ → Prop}
    (hstep : ∀ s a s', Inv s → C s a → step s a = some s' → Inv s' ∧ R s a s') {s : σ}
    {as : List α} (h₀ : Inv s) (hC : Guarded step C s as) : Along step R s as := by
  induction as generalizing s with
  | nil => trivial
  | cons a as ih =>
      intro s' hs'
      obtain ⟨hinv, hR⟩ := hstep s a s' h₀ (hC s' hs').1 hs'
      exact ⟨hR, ih hinv (hC s' hs').2⟩

theorem guarded_true (s : σ) (as : List α) : Guarded step (fun _ _ => True) s as := by
  induction as generalizing s with
  | nil => trivial
  | cons a as ih => exact fun s' _ => ⟨trivial, ih s'⟩

/-- A property of all actions of the run joins the condition on its steps. -/
theorem Guarded.and_forall {C : σ → α → Prop} {Q : α → Prop} {s : σ} {as : List α}
    (h : Guarded step C s as) (hQ : ∀ a ∈ as, Q a) :
    Guarded step (fun s a => Q a ∧ C s a) s as := by
  induction as generalizing s with
  | nil => trivial
  | cons a as ih =>
      intro s' hs'
      exact ⟨⟨hQ a List.mem_cons_self, (h s' hs').1⟩,
        ih (h s' hs').2 fun b hb => hQ b (List.mem_cons_of_mem _ hb)⟩

/-- The state rule: an invariant of the permitted steps holds in every state of a run whose steps
are permitted. -/
theorem always_of_invariant {Inv : σ → Prop} {C : σ → α → Prop}
    (hstep : ∀ s a s', Inv s → C s a → step s a = some s' → Inv s') {s : σ} {as : List α}
    (h₀ : Inv s) (hC : Guarded step C s as) : Always step Inv s as :=
  ⟨h₀, along_of_invariant (fun s a s' hi hc hs =>
    ⟨hstep s a s' hi hc hs, hstep s a s' hi hc hs⟩) h₀ hC⟩

theorem Always.mono {P Q : σ → Prop} (h : ∀ s, P s → Q s) {s : σ} {as : List α}
    (hP : Always step P s as) : Always step Q s as :=
  ⟨h _ hP.1, hP.2.mono fun _ _ s' => h s'⟩

/-- `P` holds throughout a run exactly when every step of it meets `C`, if `C` carries an invariant
that implies `P` and a step against `C` always leads to a state without `P`; all of this for runs whose
states satisfy `A`. -/
theorem always_iff_guarded_of (Inv : σ → Prop) {A P : σ → Prop} {C : σ → α → Prop}
    (hstep : ∀ s a s', Inv s → A s' → C s a → step s a = some s' → Inv s') (hP : ∀ s, Inv s → P s)
    (hbad : ∀ s a s', Inv s → A s' → ¬ C s a → step s a = some s' → ¬ P s') {s : σ} {as : List α}
    (h₀ : Inv s) (hA : Always step A s as) : Always step P s as ↔ Guarded step C s as := by
  obtain ⟨-, hA⟩ := hA
  constructor
  · rintro ⟨-, h⟩
    induction as generalizing s with
    | nil => trivial
    | cons a as ih =>
        intro s' hs'
        obtain ⟨hs'A, hrest⟩ := hA s' hs'
        have hC : C s a := by
          by_contra hC
          exact hbad s a s' h₀ hs'A hC hs' (h s' hs').1
        exact ⟨hC, ih (hstep s a s' h₀ hs'A hC hs') hrest (h s' hs').2⟩
  · intro hC
    refine ⟨hP s h₀, ?_⟩
    induction as generalizing s with
    | nil => trivial
    | cons a as ih =>
        intro s' hs'
        obtain ⟨hs'A, hrest⟩ := hA s' hs'
        have hinv := hstep s a s' h₀ hs'A (hC s' hs').1 hs'
        exact ⟨hP s' hinv, ih hinv hrest (hC s' hs').2⟩

theorem always_true (s : σ) (as : List α) : Always step (fun _ => True) s as := by
  refine ⟨trivial, ?_⟩
  induction as generalizing s with
  | nil => trivial
  | cons a as ih => exact fun s' _ => ⟨trivial, ih s'⟩

/-- The rule for all runs. -/
theorem always_iff_guarded (Inv : σ → Prop) {P : σ → Prop} {C : σ → α → Prop}
    (hstep : ∀ s a s', Inv s → C s a → step s a = some s' → Inv s') (hP : ∀ s, Inv s → P s)
    (hbad : ∀ s a s', Inv s → ¬ C s a → step s a = some s' → ¬ P s') {s : σ} {as : List α}
    (h₀ : Inv s) : Always step P s as ↔ Guarded step C s as :=
  always_iff_guarded_of Inv (fun s a s' h _ => hstep s a s' h) hP (fun s a s' h _ => hbad s a s' h) h₀
    (always_true s as)

/-- `R` holds along a run exactly when every step of it meets `C`, if the two agree on every step from
a state with the invariant. -/
theorem along_iff_guarded {Inv : σ → Prop} {C : σ → α → Prop} {R : σ → α → σ → Prop}
    (hinv : ∀ s a s', Inv s → step s a = some s' → Inv s')
    (hiff : ∀ s a s', Inv s → step s a = some s' → (R s a s' ↔ C s a)) {s : σ} {as : List α}
    (h₀ : Inv s) : Along step R s as ↔ Guarded step C s as := by
  induction as generalizing s with
  | nil => exact Iff.rfl
  | cons a as ih =>
      refine forall_congr' fun s' => imp_congr_right fun hs' => ?_
      exact and_congr (hiff s a s' h₀ hs') (ih (hinv s a s' h₀ hs'))

/-- The state at the end of a run with `Always P` satisfies `P`. -/
theorem Always.exec {P : σ → Prop} {s s' : σ} {as : List α} (h : Always step P s as)
    (hs : exec step s as = some s') : P s' := by
  rcases List.eq_nil_or_concat as with rfl | ⟨pre, a, rfl⟩
  · obtain rfl : s = s' := by simpa [Run.exec] using hs
    exact h.1
  · rw [List.concat_eq_append] at h hs
    rw [exec_concat] at hs
    obtain ⟨s₁, hs₁, hs₂⟩ := Option.bind_eq_some_iff.1 hs
    exact along_iff_transitions.1 h.2 pre a [] s₁ s' rfl hs₁ hs₂

/-- The rule of potentials: where every step keeps an invariant and pays for what it counts out of the
potential, a run counts no more than it starts with. -/
theorem countP_le_potential {Inv A : σ → Prop} (potential : σ → ℕ) (c : α → Bool)
    (hstep : ∀ s a s', Inv s → A s → A s' → step s a = some s' →
      Inv s' ∧ potential s' + (if c a then 1 else 0) ≤ potential s) {s s' : σ} {as : List α}
    (h₀ : Inv s) (hA : Always step A s as) (hs : exec step s as = some s') :
    Inv s' ∧ potential s' + as.countP c ≤ potential s := by
  induction as generalizing s with
  | nil =>
      obtain rfl : s = s' := by simpa [Run.exec] using hs
      exact ⟨h₀, Nat.le_refl _⟩
  | cons a as ih =>
      obtain ⟨s₁, hs₁, hrest⟩ := Option.bind_eq_some_iff.1 hs
      obtain ⟨hA₁, hlater⟩ := hA.2 s₁ hs₁
      obtain ⟨hinv, hpaid⟩ := hstep s a s₁ h₀ hA.1 hA₁ hs₁
      obtain ⟨hinv', hle⟩ := ih hinv ⟨hA₁, hlater⟩ hrest
      refine ⟨hinv', ?_⟩
      rw [List.countP_cons]
      omega

/-! ## Two runs in step -/

/-- The simulation rule: related actions in related states are enabled together and lead to related
states; then so do runs with related actions, and what `R` implies holds of the states they reach. -/
theorem exec_rel {τ β : Type*} {step' : τ → β → Option τ} {R P : σ → τ → Prop} {A : α → β → Prop}
    (hstep : ∀ s t a b, R s t → A a b → Option.Rel R (step s a) (step' t b))
    (hP : ∀ s t, R s t → P s t) {s : σ} {t : τ} (h₀ : R s t) {as : List α} {bs : List β}
    (h : List.Forall₂ A as bs) : Option.Rel P (exec step s as) (exec step' t bs) := by
  induction h generalizing s t with
  | nil => exact .some (hP s t h₀)
  | @cons a b as bs hab _ ih =>
      have hrel := hstep s t a b h₀ hab
      rw [exec, exec]
      cases hs : step s a with
      | none =>
          cases ht : step' t b with
          | none => exact .none
          | some t' => rw [hs, ht] at hrel; cases hrel
      | some s' =>
          cases ht : step' t b with
          | none => rw [hs, ht] at hrel; cases hrel
          | some t' =>
              rw [hs, ht, Option.rel_some_some] at hrel
              exact ih hrel

/-! ## Observations -/

/-- What is observed along a run, `obs s a` at each action `a` that is taken in `s`. -/
def trace (step : σ → α → Option σ) {ε : Type*} (obs : σ → α → List ε) : σ → List α → List ε
  | _, [] => []
  | s, a :: as => (step s a).elim [] fun s' => obs s a ++ trace step obs s' as

theorem trace_concat {ε : Type*} {obs : σ → α → List ε} {s s' : σ} {as : List α}
    (hs : exec step s as = some s') (a : α) :
    trace step obs s (as ++ [a]) =
      trace step obs s as ++ (step s' a).elim [] fun _ => obs s' a := by
  induction as generalizing s with
  | nil =>
      obtain rfl : s = s' := by simpa [exec] using hs
      cases h : step s a <;> simp [trace, h]
  | cons b bs ih =>
      obtain ⟨s₁, hb, hs₁⟩ := Option.bind_eq_some_iff.1 hs
      simp only [List.cons_append, trace, hb, Option.elim_some, ih hs₁, List.append_assoc]

/-- The history rule with what has been observed. -/
theorem trace_induction {ε : Type*} {obs : σ → α → List ε} {Inv : List α → List ε → σ → Prop} {s : σ}
    (h₀ : Inv [] [] s)
    (hstep : ∀ as tr s₁ a s₂, Inv as tr s₁ → step s₁ a = some s₂ →
      Inv (as ++ [a]) (tr ++ obs s₁ a) s₂) {as : List α} {s' : σ} (hs : exec step s as = some s') :
    Inv as (trace step obs s as) s' := by
  refine @exec_induction _ _ step (fun as s' => Inv as (trace step obs s as) s') _ s h₀
    (fun as s₁ a s₂ hs₁ hinv _ hs₂ => ?_) as s' (guarded_true s as) hs
  rw [trace_concat hs₁, hs₂, Option.elim_some]
  exact hstep as _ s₁ a s₂ hinv hs₂

end Run
