import GeoDuels.Lib.Assoc
import GeoDuels.Lib.Run

/-!
# Transactions with row locks

A database maps the keys of its rows to their committed versions.  A process takes one statement after
the other, each of them seeing what is committed when it runs, and over it the rows that the process
has written in its own transaction (`view`).  These rows are locked until the transaction ends: the
statement of another process that writes one of them has to wait.  `Inv.step` turns facts about single
statements into an invariant of all interleavings, and `always_iff_guarded` characterizes the runs
in which every committed database has a property.
-/

namespace ReadCommitted

variable {K : Type} {V : K → Type}

/-- A program whose calls are processes over a database. -/
structure Program (V : K → Type) where
  Call : Type
  Proc : Type
  Env : Type
  begin : Call → Proc
  /-- The rows that the process has written and not committed. -/
  own : Proc → AList V
  own_begin : ∀ c, own (begin c) = ∅
  /-- The rows that the next statement commits, and the process after it. -/
  run : Proc → AList V → Env → AList V × Option Proc

variable [DecidableEq K]

/-- What a transaction with its own rows sees. -/
def view (own db : AList V) : AList V := own ∪ db

/-- The row that an `UPDATE` of the row `k` writes over the rows it sees; `f` is `none` for a row that
its condition excludes. -/
def update (seen : AList V) (k : K) (f : V k → Option (V k)) : AList V :=
  match (seen.lookup k).bind f with
  | some v => AList.insert k v ∅
  | none => ∅

/-- The rows that an `UPDATE` writes of all that it sees. -/
def updateAll (seen : AList V) (f : ∀ k, V k → Option (V k)) : AList V :=
  (seen.entries.filterMap fun e => (f e.1 e.2).map (Sigma.mk e.1)).toAList

def rowsAffected (rows : AList V) : ℕ := rows.keys.length

/-- Each row that a transaction has written exists, and its version is related to the committed one. -/
def Evolves (R : ∀ k, V k → V k → Prop) (own db : AList V) : Prop :=
  ∀ k v, own.lookup k = some v → ∃ old, db.lookup k = some old ∧ R k old v

/-- Each of the rows has the property. -/
def Each (P : ∀ k, V k → Prop) (rows : AList V) : Prop := ∀ k v, rows.lookup k = some v → P k v

section View

variable {R : ∀ k, V k → V k → Prop} {own db rows : AList V} {k : K}

theorem lookup_view (own db : AList V) (k : K) :
    (view own db).lookup k = (own.lookup k).or (db.lookup k) := by
  unfold view
  cases h : own.lookup k with
  | none => rw [AList.lookup_union_right (AList.lookup_eq_none.1 h), Option.none_or]
  | some v =>
      have hmem : k ∈ own := by rw [← AList.lookup_isSome, h]; rfl
      rw [AList.lookup_union_left hmem, h, Option.some_or]

theorem mem_of_lookup {v : V k} (h : rows.lookup k = some v) : k ∈ rows := by
  rw [← AList.lookup_isSome, h]
  rfl

theorem notMem_view (hrows : k ∉ rows) (hown : k ∉ own) : k ∉ view rows own :=
  fun h => (AList.mem_union.1 h).elim hrows hown

theorem notMem_insert {k' : K} {v : V k'} (h : k ≠ k') : k ∉ (AList.insert k' v ∅ : AList V) := by
  rw [AList.mem_insert]
  exact not_or.2 ⟨h, AList.notMem_empty k⟩

theorem lookup_view_of_notMem (h : k ∉ own) : (view own db).lookup k = db.lookup k :=
  AList.lookup_union_right h

theorem lookup_view_view (rows own db : AList V) (k : K) :
    (view (view rows own) db).lookup k = (view rows (view own db)).lookup k := by
  rw [lookup_view, lookup_view, lookup_view, lookup_view, Option.or_assoc]

theorem lookup_view_insert_self (k : K) (v : V k) (db : AList V) :
    (view (AList.insert k v ∅) db).lookup k = some v := by
  rw [lookup_view, AList.lookup_insert, Option.some_or]

@[simp] theorem view_empty (db : AList V) : view ∅ db = db := AList.empty_union

theorem lookup_update_self (seen : AList V) (k : K) (f : V k → Option (V k)) :
    (update seen k f).lookup k = (seen.lookup k).bind f := by
  unfold update
  cases (seen.lookup k).bind f with
  | none => exact AList.lookup_empty k
  | some v => exact AList.lookup_insert _

theorem mem_update {seen : AList V} {k k' : K} {f : V k → Option (V k)} (h : k' ∈ update seen k f) :
    k' = k := by
  unfold update at h
  cases hf : (seen.lookup k).bind f with
  | none =>
      rw [hf] at h
      exact absurd h (AList.notMem_empty k')
  | some v =>
      rw [hf] at h
      exact (AList.mem_insert ∅).1 h |>.resolve_right (AList.notMem_empty k')

theorem notMem_update {seen : AList V} {k' : K} {f : V k' → Option (V k')} (h : k ≠ k') :
    k ∉ update seen k' f := fun hmem => h (mem_update hmem)

theorem update_of_lookup {seen : AList V} {f : V k → Option (V k)} {v v' : V k}
    (h : seen.lookup k = some v) (hf : f v = some v') : update seen k f = AList.insert k v' ∅ := by
  simp [update, h, hf]

theorem update_of_none {seen : AList V} {f : V k → Option (V k)} (h : seen.lookup k = none) :
    update seen k f = ∅ := by
  simp [update, h]

theorem lookup_updateAll (seen : AList V) (f : ∀ k, V k → Option (V k)) (k : K) :
    (updateAll seen f).lookup k = (seen.lookup k).bind (f k) := by
  unfold updateAll
  rw [AList.lookup_to_alist, AList.lookup]
  have hes := seen.nodupKeys
  generalize seen.entries = es at hes
  induction es with
  | nil => rfl
  | cons e es ih =>
      obtain ⟨k', v⟩ := e
      obtain ⟨hnew, hrest⟩ := List.nodupKeys_cons.1 hes
      rw [List.filterMap_cons]
      by_cases hk : k = k'
      · subst hk
        rw [List.dlookup_cons_eq, Option.bind_some]
        cases hf : f k v with
        | some v' => exact List.dlookup_cons_eq _ _ _
        | none =>
            have hnone : es.dlookup k = none := List.dlookup_eq_none.2 hnew
            rw [Option.map_none]
            dsimp only
            rw [ih hrest, hnone, Option.bind_none]
      · rw [List.dlookup_cons_ne _ _ hk]
        cases hf : f k' v with
        | some v' => exact (List.dlookup_cons_ne _ _ hk).trans (ih hrest)
        | none => exact ih hrest

theorem lookup_view_updateAll (db : AList V) (f : ∀ k, V k → Option (V k)) (k : K) :
    (view (updateAll db f) db).lookup k = (db.lookup k).map fun v => (f k v).getD v := by
  rw [lookup_view, lookup_updateAll]
  cases db.lookup k with
  | none => rfl
  | some v => cases hf : f k v <;> simp [hf]

theorem rowsAffected_update (seen : AList V) (k : K) (f : V k → Option (V k)) :
    rowsAffected (update seen k f) = 0 ↔ (seen.lookup k).bind f = none := by
  unfold update
  cases (seen.lookup k).bind f with
  | none => exact iff_of_true rfl rfl
  | some v => exact iff_of_false (by simp [rowsAffected]) (by simp)

/-- The row that is updated. -/
theorem lookup_view_update_self (db : AList V) (k : K) (f : V k → Option (V k)) :
    (view (update db k f) db).lookup k = (db.lookup k).map fun v => (f v).getD v := by
  rw [lookup_view, lookup_update_self]
  cases db.lookup k with
  | none => rfl
  | some v => cases hf : f v <;> simp [hf]

/-- The other rows. -/
theorem lookup_view_update_ne (seen db : AList V) {k k' : K} (h : k' ≠ k) (f : V k → Option (V k)) :
    (view (update seen k f) db).lookup k' = db.lookup k' :=
  lookup_view_of_notMem fun hmem => h (mem_update hmem)

theorem Evolves.empty (R : ∀ k, V k → V k → Prop) (db : AList V) : Evolves R ∅ db := by
  intro k v h
  rw [AList.lookup_empty] at h
  cases h

/-- The rows that a transaction sees. -/
theorem Evolves.lookup_view (h : Evolves R own db) (hrefl : ∀ k v, R k v v) {v : V k}
    (hv : (view own db).lookup k = some v) : ∃ old, db.lookup k = some old ∧ R k old v := by
  rw [ReadCommitted.lookup_view] at hv
  cases ho : own.lookup k with
  | none =>
      rw [ho, Option.none_or] at hv
      exact ⟨v, hv, hrefl k v⟩
  | some v' =>
      rw [ho, Option.some_or] at hv
      exact h k v (ho.trans hv)

/-- A transaction writes rows that it sees. -/
theorem Evolves.write (h : Evolves R own db) (hrefl : ∀ k v, R k v v)
    (htrans : ∀ k a b c, R k a b → R k b c → R k a c) (hrows : Evolves R rows (view own db)) :
    Evolves R (view rows own) db := by
  intro k v hv
  rw [ReadCommitted.lookup_view] at hv
  cases hr : rows.lookup k with
  | none =>
      rw [hr, Option.none_or] at hv
      exact h k v hv
  | some w =>
      rw [hr, Option.some_or] at hv
      obtain ⟨seen, hseen, hR⟩ := hrows k v (hr.trans hv)
      obtain ⟨old, hold, hR'⟩ := h.lookup_view hrefl hseen
      exact ⟨old, hold, htrans k old seen v hR' hR⟩

theorem Evolves.of_update {f : V k → Option (V k)} (hf : ∀ v v', f v = some v' → R k v v') (seen : AList V) :
    Evolves R (update seen k f) seen := by
  intro k' v hv
  have hmem : k' ∈ update seen k f := by rw [← AList.lookup_isSome, hv]; rfl
  obtain rfl := mem_update hmem
  rw [lookup_update_self] at hv
  obtain ⟨old, hold, hv⟩ := Option.bind_eq_some_iff.1 hv
  exact ⟨old, hold, hf old v hv⟩

/-- What others commit leaves the rows alone that the transaction has locked. -/
theorem Evolves.frame (h : Evolves R own db) (hfree : ∀ k ∈ rows, k ∉ own) :
    Evolves R own (view rows db) := by
  intro k v hv
  have hmem : k ∈ own := by rw [← AList.lookup_isSome, hv]; rfl
  rw [lookup_view_of_notMem fun hk => hfree k hk hmem]
  exact h k v hv

variable {P Q : ∀ k, V k → Prop}

instance Each.decidable [∀ k v, Decidable (P k v)] (rows : AList V) : Decidable (Each P rows) :=
  decidable_of_iff (∀ e ∈ rows.entries, P e.1 e.2)
    ⟨fun h k v hv => h ⟨k, v⟩ (AList.mem_lookup_iff.1 hv), fun h e he => h e.1 e.2 (AList.mem_lookup_iff.2 he)⟩

theorem Each.empty : Each P (∅ : AList V) := by
  intro k v h
  rw [AList.lookup_empty] at h
  cases h

theorem Each.mono (h : ∀ k v, P k v → Q k v) (hrows : Each P rows) : Each Q rows :=
  fun k v hv => h k v (hrows k v hv)

theorem Each.insert (h : Each P rows) {v : V k} (hv : P k v) : Each P (AList.insert k v rows) := by
  intro k' v' hv'
  by_cases hk : k' = k
  · subst hk
    rw [AList.lookup_insert] at hv'
    rwa [← Option.some.inj hv']
  · rw [AList.lookup_insert_ne hk] at hv'
    exact h k' v' hv'

theorem Each.view (hown : Each P own) (hdb : Each P db) : Each P (view own db) := by
  intro k v hv
  rw [lookup_view] at hv
  rcases Option.or_eq_some_iff.1 hv with hv | ⟨-, hv⟩
  · exact hown k v hv
  · exact hdb k v hv

theorem Each.of_update {f : V k → Option (V k)}
    (hf : ∀ v v', db.lookup k = some v → f v = some v' → P k v') : Each P (update db k f) := by
  intro k' v hv
  obtain rfl := mem_update (mem_of_lookup hv)
  rw [lookup_update_self] at hv
  obtain ⟨old, hold, hv⟩ := Option.bind_eq_some_iff.1 hv
  exact hf old v hold hv

theorem Each.of_updateAll {f : ∀ k, V k → Option (V k)}
    (hf : ∀ k v v', db.lookup k = some v → f k v = some v' → P k v') : Each P (updateAll db f) := by
  intro k v hv
  rw [lookup_updateAll] at hv
  obtain ⟨old, hold, hv⟩ := Option.bind_eq_some_iff.1 hv
  exact hf k old v hold hv

theorem Each.toAList {rows : List (Sigma V)} (h : ∀ e ∈ rows, P e.1 e.2) : Each P rows.toAList := by
  intro k v hv
  rw [AList.lookup_to_alist] at hv
  exact h ⟨k, v⟩ (List.of_mem_dlookup hv)

end View

/-! ## Worlds -/

variable (M : Program V)

structure World where
  db : AList V
  procs : Assoc ℕ M.Proc

/-- A call starts, a process runs its next statement, or its connection is lost. -/
inductive Act where
  | start (id : ℕ) (c : M.Call)
  | run (id : ℕ) (e : M.Env)
  | stop (id : ℕ)

variable {M}

/-- Nobody but `id` has locked one of the rows. -/
def World.Free (w : World M) (id : ℕ) (rows : AList V) : Prop :=
  ∀ j q, w.procs.lookup j = some q → j ≠ id → ∀ k ∈ rows.keys, k ∉ M.own q

instance (w : World M) (id : ℕ) (rows : AList V) : Decidable (w.Free id rows) :=
  inferInstanceAs (Decidable (∀ j q, w.procs.lookup j = some q →
    j ≠ id → ∀ k ∈ rows.keys, k ∉ M.own q))

/-- The world after a statement of `id`. -/
def World.settle (w : World M) (id : ℕ) (r : AList V × Option M.Proc) : World M where
  db := view r.1 w.db
  procs :=
    match r.2 with
    | some p => w.procs.insert id p
    | none => w.procs.erase id

/-- The rows that the process has locked after a statement. -/
def locks (next : Option M.Proc) : AList V := (next.map M.own).getD ∅

def World.step (w : World M) : Act M → Option (World M)
  | .start id c =>
      if id ∈ w.procs then none else some { w with procs := w.procs.insert id (M.begin c) }
  | .run id e =>
      (w.procs.lookup id).bind fun p =>
        let r := M.run p w.db e
        if w.Free id r.1 ∧ w.Free id (locks r.2) then some (w.settle id r) else none
  | .stop id => if id ∈ w.procs then some { w with procs := w.procs.erase id } else none

namespace World

variable {w w' : World M} {a : Act M}

/-- What an action does to the world. -/
inductive Steps (w : World M) : Act M → World M → Prop
  | start {id : ℕ} (c : M.Call) (new : id ∉ w.procs) :
      Steps w (.start id c) { w with procs := w.procs.insert id (M.begin c) }
  | run {id : ℕ} {p : M.Proc} (e : M.Env) (mem : w.procs.lookup id = some p)
      (free : w.Free id (M.run p w.db e).1) (locked : w.Free id (locks (M.run p w.db e).2)) :
      Steps w (.run id e) (w.settle id (M.run p w.db e))
  | stop (id : ℕ) : Steps w (.stop id) { w with procs := w.procs.erase id }

theorem steps_of_step (h : w.step a = some w') : Steps w a w' := by
  cases a with
  | start id c =>
      unfold step at h
      dsimp only at h
      split_ifs at h with hid
      obtain rfl := Option.some.inj h
      exact .start c hid
  | run id e =>
      obtain ⟨p, hp, h⟩ := Option.bind_eq_some_iff.1 h
      dsimp only at h
      split_ifs at h with hfree
      obtain rfl := Option.some.inj h
      exact .run e hp hfree.1 hfree.2
  | stop id =>
      unfold step at h
      dsimp only at h
      split_ifs at h
      obtain rfl := Option.some.inj h
      exact .stop id

/-- The processes after a statement are what is left of the one that has run it, and the others. -/
theorem lookup_settle {id j : ℕ} {r : AList V × Option M.Proc} {q : M.Proc}
    (h : (w.settle id r).procs.lookup j = some q) :
    j = id ∧ r.2 = some q ∨ j ≠ id ∧ w.procs.lookup j = some q := by
  unfold settle at h
  cases hr : r.2 with
  | none =>
      rw [hr] at h
      obtain ⟨hj, hq⟩ := Assoc.of_lookup_erase h
      exact .inr ⟨hj, hq⟩
  | some p =>
      rw [hr] at h
      rcases Assoc.of_lookup_insert h with ⟨hj, hq⟩ | ⟨hj, hq⟩
      · exact .inl ⟨hj, congrArg some hq.symm⟩
      · exact .inr ⟨hj, hq⟩

/-- No row is locked by two processes. -/
def Exclusive (w : World M) : Prop :=
  ∀ i p j q, w.procs.lookup i = some p → w.procs.lookup j = some q → i ≠ j →
    ∀ k ∈ M.own p, k ∉ M.own q

/-- No row is locked by two processes, and every process satisfies `L` for the committed rows. -/
structure Inv (L : M.Proc → AList V → Prop) (w : World M) : Prop where
  exclusive : w.Exclusive
  each : ∀ i p, w.procs.lookup i = some p → L p w.db

variable {L : M.Proc → AList V → Prop}

/-- What a process relies on when it has no more than its own locks: every start and every statement
of the process establishes it, and statements that write none of its rows keep it. -/
structure Local (M : Program V) (L : M.Proc → AList V → Prop) : Prop where
  begin : ∀ c db, L (M.begin c) db
  run : ∀ p db e p', L p db → (M.run p db e).2 = some p' → L p' (view (M.run p db e).1 db)
  frame : ∀ q db rows, L q db → (∀ k ∈ rows, k ∉ M.own q) → L q (view rows db)

omit [DecidableEq K] in
theorem Inv.init (db : AList V) : Inv L (⟨db, ∅⟩ : World M) := by
  refine ⟨fun i p j q hp => ?_, fun i p hp => ?_⟩
  · cases hp
  · cases hp

/-- The committed rows satisfy `G`, no row is locked by two processes, and every process satisfies `L`. -/
structure Shared (G : AList V → Prop) (L : M.Proc → AList V → Prop) (w : World M) : Prop extends Inv L w where
  shared : G w.db

/-- What processes rely on that keep `G`: the statements of the others are those of processes that
satisfy `L` too. -/
structure Cooperates (M : Program V) (G : AList V → Prop) (L : M.Proc → AList V → Prop) : Prop where
  begin : ∀ c db, G db → L (M.begin c) db
  run : ∀ p db e p', G db → L p db → (M.run p db e).2 = some p' → L p' (view (M.run p db e).1 db)
  keeps : ∀ p db e, G db → L p db → G (view (M.run p db e).1 db)
  frame : ∀ p q db e, G db → L p db → L q db → (∀ k ∈ (M.run p db e).1, k ∉ M.own q) →
    L q (view (M.run p db e).1 db)

/-- The same for processes whose statements meet `C`. -/
structure CooperatesIf (M : Program V) (C : M.Proc → AList V → M.Env → Prop) (G : AList V → Prop)
    (L : M.Proc → AList V → Prop) : Prop where
  begin : ∀ c db, G db → L (M.begin c) db
  run : ∀ p db e p', C p db e → G db → L p db → (M.run p db e).2 = some p' →
    L p' (view (M.run p db e).1 db)
  keeps : ∀ p db e, C p db e → G db → L p db → G (view (M.run p db e).1 db)
  frame : ∀ p q db e, C p db e → G db → L p db → L q db → (∀ k ∈ (M.run p db e).1, k ∉ M.own q) →
    L q (view (M.run p db e).1 db)

variable {G : AList V → Prop} {C : M.Proc → AList V → M.Env → Prop}

theorem Shared.step_if (hL : CooperatesIf M C G L) (h : Shared G L w)
    (hC : ∀ id e p, a = .run id e → w.procs.lookup id = some p → C p w.db e) (hs : w.step a = some w') :
    Shared G L w' := by
  cases steps_of_step hs with
  | @start id c new =>
      have hlookup : ∀ j q, (w.procs.insert id (M.begin c)).lookup j = some q →
          j = id ∧ q = M.begin c ∨ j ≠ id ∧ w.procs.lookup j = some q :=
        fun j q hq => Assoc.of_lookup_insert hq
      refine ⟨⟨fun i p j q hp hq hij k hk => ?_, fun j q hq => ?_⟩, h.shared⟩
      · rcases hlookup i p hp with ⟨-, rfl⟩ | ⟨hi, hp⟩
        · rw [M.own_begin] at hk
          exact absurd hk (AList.notMem_empty k)
        · rcases hlookup j q hq with ⟨-, rfl⟩ | ⟨hj, hq⟩
          · rw [M.own_begin]
            exact AList.notMem_empty k
          · exact h.exclusive i p j q hp hq hij k hk
      · rcases hlookup j q hq with ⟨-, rfl⟩ | ⟨hj, hq⟩
        · exact hL.begin c w.db h.shared
        · exact h.each j q hq
  | @run id p e mem free locked =>
      -- the process has locked its rows, and the others still have their own
      have hother : ∀ j q, j ≠ id → w.procs.lookup j = some q → ∀ p', (M.run p w.db e).2 = some p' →
          ∀ k ∈ M.own p', k ∉ M.own q := by
        intro j q hj hq p' hp' k hk
        refine locked j q hq hj k ?_
        rw [hp']
        exact AList.mem_keys.1 hk
      refine ⟨⟨fun i p' j q hp' hq hij k hk hk' => ?_, fun j q hq => ?_⟩,
        hL.keeps p w.db e (hC id e p rfl mem) h.shared (h.each id p mem)⟩
      · rcases lookup_settle hp' with ⟨rfl, hnext⟩ | ⟨hi, hp₁⟩
        · rcases lookup_settle hq with ⟨rfl, -⟩ | ⟨hj, hq₁⟩
          · exact hij rfl
          · exact hother j q hj hq₁ p' hnext k hk hk'
        · rcases lookup_settle hq with ⟨rfl, hnext⟩ | ⟨-, hq₁⟩
          · exact hother i p' hi hp₁ q hnext k hk' hk
          · exact h.exclusive i p' j q hp₁ hq₁ hij k hk hk'
      · rcases lookup_settle hq with ⟨rfl, hnext⟩ | ⟨hj, hq⟩
        · exact hL.run p w.db e q (hC j e p rfl mem) h.shared (h.each j p mem) hnext
        · exact hL.frame p q w.db e (hC id e p rfl mem) h.shared (h.each id p mem) (h.each j q hq)
            fun k hk => free j q hq hj k (AList.mem_keys.1 hk)
  | stop id =>
      refine ⟨⟨fun i p j q hp hq => ?_, fun j q hq => ?_⟩, h.shared⟩
      · exact h.exclusive i p j q (Assoc.of_lookup_erase hp).2 (Assoc.of_lookup_erase hq).2
      · exact h.each j q (Assoc.of_lookup_erase hq).2

theorem Cooperates.toIf (hL : Cooperates M G L) : CooperatesIf M (fun _ _ _ => True) G L where
  begin := hL.begin
  run p db e p' _ := hL.run p db e p'
  keeps p db e _ := hL.keeps p db e
  frame p q db e _ := hL.frame p q db e

theorem Shared.step (hL : Cooperates M G L) (h : Shared G L w) (hs : w.step a = some w') :
    Shared G L w' :=
  Shared.step_if hL.toIf h (fun _ _ _ _ _ => trivial) hs

/-- A run of processes that keep `G`. -/
theorem Shared.exec (hL : Cooperates M G L) (h : Shared G L w) {as : List (Act M)}
    (hs : Run.exec World.step w as = some w') : Shared G L w' :=
  (Run.always_of_invariant (fun _ _ _ h _ hs => Shared.step hL h hs) h (Run.guarded_true w as)).exec hs

theorem Local.cooperates (hL : Local M L) : Cooperates M (fun _ => True) L where
  begin c db _ := hL.begin c db
  run p db e p' _ := hL.run p db e p'
  keeps _ _ _ _ _ := trivial
  frame _ q db _ _ _ := hL.frame q db _

theorem Inv.step (hL : Local M L) (h : Inv L w) (hs : w.step a = some w') : Inv L w' :=
  (Shared.step hL.cooperates ⟨h, trivial⟩ hs).toInv

/-- Every statement of the run meets `C`, which speaks of its process and of the committed rows. -/
def StatementsMeet (C : M.Proc → AList V → M.Env → Prop) : World M → List (Act M) → Prop :=
  Run.Guarded step fun w a =>
    match a with
    | .run id e => ∀ p, w.procs.lookup id = some p → C p w.db e
    | _ => True

instance StatementsMeet.decidable {C : M.Proc → AList V → M.Env → Prop} [∀ p db e, Decidable (C p db e)]
    (w : World M) (as : List (Act M)) : Decidable (StatementsMeet C w as) := by
  have (w : World M) (a : Act M) : Decidable (match a with
      | .run id e => ∀ p, w.procs.lookup id = some p → C p w.db e
      | _ => True) :=
    match a with
    | .run id e => decidable_of_iff (∀ p ∈ w.procs.lookup id, C p w.db e) Iff.rfl
    | .start _ _ | .stop _ => .isTrue trivial
  exact Run.Guarded.decidable w as

/-- A run whose statements meet `C`. -/
theorem Shared.always (hL : CooperatesIf M C G L) (h : Shared G L w) {as : List (Act M)}
    (hC : StatementsMeet C w as) : Run.Always World.step (Shared G L) w as := by
  refine Run.always_of_invariant (fun w a w' h hC hs => ?_) h hC
  refine Shared.step_if hL h ?_ hs
  rintro id e p rfl hp
  exact hC p hp

/-- All committed databases of a run have the property `G` exactly when all its statements meet `C`, if
those that meet it keep `G` and the others break it. -/
theorem always_iff_meet (hL : Local M L) {G : AList V → Prop} {C : M.Proc → AList V → M.Env → Prop}
    (hkeep : ∀ p db e, L p db → G db → C p db e → G (view (M.run p db e).1 db))
    (hbreak : ∀ p db e, L p db → G db → ¬ C p db e → ¬ G (view (M.run p db e).1 db))
    (hw : Inv L w) (hG : G w.db) (as : List (Act M)) :
    Run.Always step (fun w => G w.db) w as ↔ StatementsMeet C w as := by
  refine Run.always_iff_guarded (fun w => Inv L w ∧ G w.db) ?_ (fun _ h => h.2) ?_ ⟨hw, hG⟩
  · rintro w a w' ⟨hinv, hG⟩ hC hs
    refine ⟨hinv.step hL hs, ?_⟩
    cases steps_of_step hs with
    | start | stop => exact hG
    | @run id p e mem free locked => exact hkeep p w.db e (hinv.each id p mem) hG (hC p mem)
  · rintro w a w' ⟨hinv, hG⟩ hC hs
    cases steps_of_step hs with
    | start | stop => exact absurd trivial hC
    | @run id p e mem free locked =>
        refine hbreak p w.db e (hinv.each id p mem) hG fun h => hC fun q hq => ?_
        rwa [Option.some.inj (hq.symm.trans mem)]

end World

/-! ## A process on its own -/

/-- The statements of a process while no other one runs: the rows that are committed after its last
statement, and the process that has run it. -/
def Program.alone (M : Program V) : M.Proc → AList V → List M.Env → Option (AList V × M.Proc)
  | _, _, [] => none
  | p, db, e :: es =>
      match (M.run p db e).2 with
      | some p' => M.alone p' (view (M.run p db e).1 db) es
      | none => if es.isEmpty then some (view (M.run p db e).1 db, p) else none

section Alone

variable {p q : M.Proc} {db db' : AList V} {es : List M.Env}

/-- The rule for a process on its own: what each of its statements keeps holds when it runs the last one. -/
theorem alone_induction {I : M.Proc → AList V → Prop}
    (hstep : ∀ p db e p', I p db → (M.run p db e).2 = some p' → I p' (view (M.run p db e).1 db))
    (h₀ : I p db) (h : M.alone p db es = some (db', q)) :
    ∃ last e, I q last ∧ (M.run q last e).2 = none ∧ db' = view (M.run q last e).1 last := by
  induction es generalizing p db with
  | nil => cases h
  | cons e es ih =>
      rw [Program.alone] at h
      cases hnext : (M.run p db e).2 with
      | some p' =>
          rw [hnext] at h
          exact ih (hstep p db e p' h₀ hnext) h
      | none =>
          rw [hnext] at h
          dsimp only at h
          split_ifs at h
          obtain ⟨rfl, rfl⟩ := Prod.mk.inj (Option.some.inj h)
          exact ⟨db, e, h₀, hnext, rfl⟩

omit [DecidableEq K] in
theorem free_of_alone (db : AList V) (id : ℕ) (p : M.Proc) (rows : AList V) :
    (⟨db, AList.insert id p ∅⟩ : World M).Free id rows := by
  intro j q hj hne
  rw [AList.lookup_insert_ne hne, AList.lookup_empty] at hj
  cases hj

/-- A process on its own is a run of a world with no other one. -/
theorem exec_alone (id : ℕ) (h : M.alone p db es = some (db', q)) :
    Run.exec World.step (⟨db, AList.insert id p ∅⟩ : World M) (es.map (.run id)) = some ⟨db', ∅⟩ := by
  induction es generalizing p db with
  | nil => cases h
  | cons e es ih =>
      have hstep : World.step ⟨db, AList.insert id p ∅⟩ (.run id e) =
          some ((⟨db, AList.insert id p ∅⟩ : World M).settle id (M.run p db e)) := by
        unfold World.step
        dsimp only
        rw [AList.lookup_insert, Option.bind_some, if_pos ⟨free_of_alone db id p _, free_of_alone db id p _⟩]
      rw [List.map_cons, Run.exec, hstep, Option.bind_some]
      rw [Program.alone] at h
      unfold World.settle
      cases hnext : (M.run p db e).2 with
      | some p' =>
          rw [hnext] at h
          dsimp only
          rw [AList.insert_insert]
          exact ih h
      | none =>
          rw [hnext] at h
          dsimp only at h ⊢
          split_ifs at h with hes
          obtain rfl := List.isEmpty_iff.1 hes
          obtain ⟨rfl, rfl⟩ := Prod.mk.inj (Option.some.inj h)
          have herase : (AList.insert id p (∅ : Assoc ℕ M.Proc)).erase id = ∅ :=
            AList.ext (List.kerase_cons_eq rfl)
          rw [herase]
          rfl

end Alone

end ReadCommitted
