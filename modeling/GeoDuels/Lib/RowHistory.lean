import GeoDuels.Lib.ReadCommitted

/-!
# The history of a row

What transactions do to one row when they lock it before they read it: `observe` notes when a process
locks the row and when it commits it, and `Serial` says that the row has the value that the committed
transactions give it one after another, in the order in which they have locked it, each starting from
the value that the one before has left.
-/

namespace ReadCommitted.World

variable {K : Type} {V : K → Type} [DecidableEq K] {M : Program V}

/-- A process locks the row, or commits it with these changes. -/
inductive RowEvent (C : Type) where
  | locked (id : ℕ)
  | committed (id : ℕ) (changes : List C)
  deriving DecidableEq

variable {C α : Type} (apply : C → α → α)

/-- A transaction commits its changes of the value that it has locked. -/
inductive Serial (v : α) : List (RowEvent C) → α → Prop
  | nil : Serial v [] v
  | locked {evs : List (RowEvent C)} {v' : α} (id : ℕ) (h : Serial v evs v') :
      Serial v (evs ++ [.locked id]) v'
  | committed {evs : List (RowEvent C)} {v' : α} {id : ℕ} (changes : List C)
      (h : Serial v (evs ++ [.locked id]) v') :
      Serial v (evs ++ [.locked id, .committed id changes]) (changes.foldl (fun v c => apply c v) v')

section Observe

variable (k : K) (changes : M.Proc → List C)

/-- What an action does to the row `k`; `changes` are those that a process has made in its transaction. -/
def observe (w : World M) : Act M → List (RowEvent C)
  | .run id e =>
      (w.procs.lookup id).elim [] fun p =>
        let r := M.run p w.db e
        if k ∈ r.1 then [.committed id (changes p)]
        else if k ∈ locks r.2 ∧ k ∉ M.own p then [.locked id]
        else []
  | .start _ _ | .stop _ => []

end Observe

variable {G : AList V → Prop} {L : M.Proc → AList V → Prop} {k : K} {changes : M.Proc → List C}

/-- A process changes the row only when it has locked it, and gives it up when it commits it. -/
structure Disciplined (M : Program V) (G : AList V → Prop) (L : M.Proc → AList V → Prop) (k : K)
    (apply : C → Option (V k) → Option (V k)) (changes : M.Proc → List C) : Prop where
  derived : ∀ p db v, G db → L p db → (M.own p).lookup k = some v →
    some v = (changes p).foldl (fun v c => apply c v) (db.lookup k)
  commits : ∀ p db e, G db → L p db → k ∈ (M.run p db e).1 →
    (M.run p db e).1.lookup k = (M.own p).lookup k ∧ k ∉ locks (M.run p db e).2

/-- The history so far, and that a process which has locked the row is the last one in it. -/
structure RowInv (apply : C → Option (V k) → Option (V k)) (v : Option (V k)) (evs : List (RowEvent C))
    (w : World M) : Prop where
  serial : Serial apply v evs (w.db.lookup k)
  holder : ∀ i p, w.procs.lookup i = some p → k ∈ M.own p → ∃ before, evs = before ++ [.locked i]

variable {apply' : C → Option (V k) → Option (V k)} {v : Option (V k)} {evs : List (RowEvent C)}
  {w w' : World M} {a : Act M}

theorem RowInv.step (hD : Disciplined M G L k apply' changes) (hw : Shared G L w)
    (h : RowInv apply' v evs w) (hs : w.step a = some w') :
    RowInv apply' v (evs ++ observe k changes w a) w' := by
  cases steps_of_step hs with
  | @start id c new =>
      rw [observe, List.append_nil]
      refine ⟨h.serial, fun i p hp hk => ?_⟩
      rcases Assoc.of_lookup_insert hp with ⟨-, rfl⟩ | ⟨-, hp⟩
      · rw [M.own_begin] at hk
        exact absurd hk (AList.notMem_empty k)
      · exact h.holder i p hp hk
  | stop id =>
      rw [observe, List.append_nil]
      exact ⟨h.serial, fun i p hp => h.holder i p (Assoc.of_lookup_erase hp).2⟩
  | @run id p e mem free locked =>
      rw [observe, mem, Option.elim_some]
      have hother : ∀ i q, i ≠ id → w.procs.lookup i = some q → k ∈ locks (M.run p w.db e).2 →
          k ∉ M.own q := fun i q hi hq hk => locked i q hq hi k (AList.mem_keys.1 hk)
      by_cases hrows : k ∈ (M.run p w.db e).1
      · obtain ⟨hvalue, hgone⟩ := hD.commits p w.db e hw.shared (hw.each id p mem) hrows
        obtain ⟨row, hrow⟩ := Option.isSome_iff_exists.1 (AList.lookup_isSome.2 hrows)
        have hown : (M.own p).lookup k = some row := hvalue.symm.trans hrow
        obtain ⟨before, rfl⟩ := h.holder id p mem (by rw [← AList.lookup_isSome, hown]; rfl)
        rw [if_pos hrows, List.append_assoc]
        refine ⟨?_, fun i q hq hk => ?_⟩
        · have hcommitted := Serial.committed (changes p) h.serial
          rw [← hD.derived p w.db row hw.shared (hw.each id p mem) hown] at hcommitted
          show Serial apply' v _ ((view (M.run p w.db e).1 w.db).lookup k)
          rwa [lookup_view, hrow, Option.some_or]
        · exfalso
          rcases lookup_settle hq with ⟨-, hnext⟩ | ⟨hi, hq⟩
          · exact hgone (by rw [hnext]; exact hk)
          · exact free i q hq hi k (AList.mem_keys.1 hrows) hk
      · have hdb : (w.settle id (M.run p w.db e)).db.lookup k = w.db.lookup k :=
          lookup_view_of_notMem hrows
        rw [if_neg hrows]
        by_cases hlock : k ∈ locks (M.run p w.db e).2 ∧ k ∉ M.own p
        · rw [if_pos hlock]
          refine ⟨?_, fun i q hq hk => ?_⟩
          · rw [hdb]
            exact h.serial.locked id
          · rcases lookup_settle hq with ⟨rfl, -⟩ | ⟨hi, hq⟩
            · exact ⟨evs, rfl⟩
            · exact absurd hk (hother i q hi hq hlock.1)
        · rw [if_neg hlock, List.append_nil]
          refine ⟨by rw [hdb]; exact h.serial, fun i q hq hk => ?_⟩
          rcases lookup_settle hq with ⟨rfl, hnext⟩ | ⟨hi, hq⟩
          · refine h.holder i p mem ?_
            by_contra hnot
            exact hlock ⟨by rw [hnext]; exact hk, hnot⟩
          · exact h.holder i q hq hk

/-- In every run the row has the value that the committed transactions give it in the order of their
locks. -/
theorem serial_of_disciplined (hL : Cooperates M G L) (hD : Disciplined M G L k apply' changes)
    {db : AList V} (hdb : G db) {as : List (Act M)}
    (hs : Run.exec World.step (⟨db, ∅⟩ : World M) as = some w) :
    Serial apply' (db.lookup k) (Run.trace World.step (observe k changes) ⟨db, ∅⟩ as) (w.db.lookup k) := by
  have hinit : Shared G L (⟨db, ∅⟩ : World M) := ⟨Inv.init db, hdb⟩
  have hrow : RowInv apply' (db.lookup k) [] (⟨db, ∅⟩ : World M) :=
    ⟨.nil, fun i p hp => by cases hp⟩
  exact (@Run.trace_induction _ _ _ _ _
    (fun _ evs w => Shared G L w ∧ RowInv apply' (db.lookup k) evs w) _ ⟨hinit, hrow⟩
    (fun _ _ _ _ _ h hs => ⟨h.1.step hL hs, h.2.step hD h.1 hs⟩) as w hs).2.serial

end ReadCommitted.World
