import Mathlib.Logic.Basic

/-!
# Programs that send commands

A `Prog C R α` has returned a value, or it sends a command `c : C` and goes on with the reply, of type
`R c`.  What a command does is said apart from the programs: `serve` gives the reply and the next state,
under a choice of the environment.  `exec` runs a program alone to its end; in a system of several
programs one sends its `next` command and is replaced by `resume`.
-/

inductive Prog (C : Type) (R : C → Type) (α : Type) where
  | ret (a : α)
  | send (c : C) (k : R c → Prog C R α)

namespace Prog

variable {C : Type} {R : C → Type} {α β σ E : Type}

def bind : Prog C R α → (α → Prog C R β) → Prog C R β
  | .ret a, f => f a
  | .send c k, f => .send c fun r => (k r).bind f

instance : Monad (Prog C R) where
  pure := .ret
  bind := bind

/-- The program that sends one command and returns the reply. -/
def cmd (c : C) : Prog C R (R c) := .send c .ret

/-- The command that the program sends next. -/
def next : Prog C R α → Option C
  | .ret _ => none
  | .send c _ => some c

@[simp] theorem pure_eq (a : α) : (pure a : Prog C R α) = .ret a := rfl

@[simp] theorem ret_bind (a : α) (f : α → Prog C R β) : (.ret a >>= f) = f a := rfl

@[simp] theorem send_bind (c : C) (k : R c → Prog C R α) (f : α → Prog C R β) :
    (.send c k >>= f) = .send c fun r => k r >>= f := rfl

@[simp] theorem cmd_bind (c : C) (f : R c → Prog C R β) : (cmd c >>= f) = .send c f := rfl

@[simp] theorem next_ret (a : α) : next (.ret a : Prog C R α) = none := rfl

@[simp] theorem next_send (c : C) (k : R c → Prog C R α) : next (.send c k) = some c := rfl

variable (serve : (c : C) → E → σ → R c × σ)

/-- The program after its next command, and the state that the command leaves. -/
def resume (x : E) (s : σ) : Prog C R α → Option (Prog C R α × σ)
  | .ret _ => none
  | .send c k => some (k (serve c x s).1, (serve c x s).2)

variable {serve} in
/-- What a program does to the state is what its next command does. -/
theorem resume_eq_some {x : E} {s s' : σ} {p p' : Prog C R α}
    (h : resume serve x s p = some (p', s')) :
    ∃ c k, p = .send c k ∧ p' = k (serve c x s).1 ∧ s' = (serve c x s).2 := by
  cases p with
  | ret a => cases h
  | send c k =>
      cases h
      exact ⟨c, k, rfl, rfl, rfl⟩

/-! ## The commands of a program -/

/-- Every command that the program may send satisfies `P`. -/
def All (P : C → Prop) : Prog C R α → Prop
  | .ret _ => True
  | .send c k => P c ∧ ∀ r, (k r).All P

section All

variable {P Q : C → Prop}

@[simp] theorem all_ret (a : α) : All P (.ret a : Prog C R α) := trivial

@[simp] theorem all_cmd {c : C} : All P (cmd c : Prog C R (R c)) ↔ P c :=
  ⟨fun h => h.1, fun h => ⟨h, fun _ => trivial⟩⟩

theorem All.bind {p : Prog C R α} {f : α → Prog C R β} (hp : All P p) (hf : ∀ a, All P (f a)) :
    All P (p >>= f) := by
  induction p with
  | ret a => exact hf a
  | send c k ih => exact ⟨hp.1, fun r => ih r (hp.2 r)⟩

theorem All.mono (h : ∀ c, P c → Q c) {p : Prog C R α} (hp : All P p) : All Q p := by
  induction p with
  | ret a => trivial
  | send c k ih => exact ⟨h c hp.1, fun r => ih r (hp.2 r)⟩

theorem All.next {p : Prog C R α} {c : C} (hp : All P p) (hc : p.next = some c) : P c := by
  cases p with
  | ret a => cases hc
  | send d k =>
      cases hc
      exact hp.1

variable {serve} in
theorem All.resume {x : E} {s s' : σ} {p p' : Prog C R α} (hp : All P p)
    (h : resume serve x s p = some (p', s')) : All P p' := by
  cases p with
  | ret a => cases h
  | send c k =>
      cases h
      exact hp.2 _

end All

/-! ## Alone -/

/-- The program is run to its end, with one choice of the environment for each command. -/
def exec : Prog C R α → List E → σ → Option (α × σ)
  | .ret a, [], s => some (a, s)
  | .ret _, _ :: _, _ => none
  | .send _ _, [], _ => none
  | .send c k, x :: xs, s => exec (k (serve c x s).1) xs (serve c x s).2

variable {serve}

/-- What a program returns that sends nothing. -/
theorem exec_ret {a : α} {xs : List E} {s : σ} {r : α × σ} (h : exec serve (.ret a) xs s = some r) :
    r = (a, s) := by
  cases xs with
  | nil => exact (Option.some.inj h).symm
  | cons x xs => cases h

theorem exec_send {c : C} {k : R c → Prog C R α} {xs : List E} {s : σ} {r : α × σ}
    (h : exec serve (.send c k) xs s = some r) :
    ∃ x ys, xs = x :: ys ∧ exec serve (k (serve c x s).1) ys (serve c x s).2 = some r := by
  cases xs with
  | nil => cases h
  | cons x xs => exact ⟨x, xs, rfl, h⟩

theorem exec_cmd {c : C} {xs : List E} {s : σ} {r : R c × σ} (h : exec serve (cmd c) xs s = some r) :
    ∃ x, r = serve c x s := by
  obtain ⟨x, ys, -, h⟩ := exec_send h
  exact ⟨x, exec_ret h⟩

theorem exec_cmd_bind {c : C} {f : R c → Prog C R β} {xs : List E} {s : σ} {r : β × σ}
    (h : exec serve (cmd c >>= f) xs s = some r) :
    ∃ x ys, xs = x :: ys ∧ exec serve (f (serve c x s).1) ys (serve c x s).2 = some r :=
  exec_send h

/-- A program that has ended is followed by the next one. -/
theorem exec_bind_append {p : Prog C R α} {f : α → Prog C R β} {ys : List E} {s s' : σ} {a : α}
    (h : exec serve p ys s = some (a, s')) (zs : List E) :
    exec serve (p >>= f) (ys ++ zs) s = exec serve (f a) zs s' := by
  induction p generalizing ys s with
  | ret b =>
      cases ys with
      | nil =>
          cases h
          rfl
      | cons y ys => cases h
  | send c k ih =>
      obtain ⟨x, us, rfl, hk⟩ := exec_send h
      exact ih _ hk

/-- A program and what follows it share the choices of the environment. -/
theorem exec_bind {p : Prog C R α} {f : α → Prog C R β} {xs : List E} {s : σ} {r : β × σ} :
    exec serve (p >>= f) xs s = some r ↔ ∃ ys zs a s', xs = ys ++ zs ∧
      exec serve p ys s = some (a, s') ∧ exec serve (f a) zs s' = some r := by
  constructor
  · intro h
    induction p generalizing xs s with
    | ret a => exact ⟨[], xs, a, s, rfl, rfl, h⟩
    | send c k ih =>
        obtain ⟨x, ys, rfl, hk⟩ := exec_send h
        obtain ⟨us, zs, a, s', rfl, ha, hf⟩ := ih _ hk
        exact ⟨x :: us, zs, a, s', rfl, ha, hf⟩
  · rintro ⟨ys, zs, a, s', rfl, ha, hf⟩
    rwa [exec_bind_append ha]

end Prog
