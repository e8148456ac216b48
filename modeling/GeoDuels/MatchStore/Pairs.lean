import GeoDuels.MatchStore.Spec

/-!
# Exclusive and mutual pairs

The queue refines the matching protocol of `Lib/Matching`: a match script takes a pair, the result
pipeline delivers it and `Poll` collects it (`World.step_refines`).  Two things in the code are not
what the protocol asks for.  The pair of a script is out of the queue of one ruleset only until the
result pipeline runs, so that a pass over the other ruleset can pair one of the two again; and `Join`
does not look at the match keys.
-/

namespace GeoDuels.MatchStore

open Matching

variable (pool : QueuePool)

/-! ## What is to be kept -/

/-- No pass is between its match script and its result pipeline. -/
def World.Settled (w : World) : Prop := ∀ id p, w.procs.lookup id = some p → p.pair = []

instance (w : World) : Decidable w.Settled :=
  inferInstanceAs (Decidable (∀ id p, w.procs.lookup id = some p → p.pair = []))

/-- The match is stored under a match key, or `Poll` has returned it since the last join of `u`. -/
def World.Counts (w : World) (u : UserID) (m : MatchFound) : Prop :=
  (∃ v, w.store.Holds pool v m) ∨ m ∈ collectedSince u w.history

/-- Both players of a stored match hold it or have polled it. -/
def World.Shared (w : World) : Prop :=
  ∀ v m, w.store.Holds pool v m → ∀ a ∈ m.players,
    w.store.Holds pool a m ∨ .collected a m ∈ w.history

instance (s : Store) (u : UserID) (m : MatchFound) : Decidable (s.Holds pool u m) :=
  inferInstanceAs (Decidable (∃ r ∈ allQueueRulesets, _))

instance (w : World) : Decidable (w.Shared pool) :=
  decidable_of_iff (∀ r ∈ allQueueRulesets, ∀ v m, (w.store.queue pool r).matched.lookup v = some m →
      ∀ a ∈ m.players, w.store.Holds pool a m ∨ .collected a m ∈ w.history)
    ⟨fun h v m ⟨r, hr, hm⟩ => h r hr v m hm, fun h r hr v m hm => h v m ⟨r, hr, hm⟩⟩

/-- Between the passes each user is in one match at most, and every match is with both its players. -/
structure PairsKept (w : World) : Prop where
  exclusive : w.Settled → ∀ u m m', w.Counts pool u m → u ∈ m.players →
    w.Counts pool u m' → u ∈ m'.players → m = m'
  shared : w.Settled → w.Shared pool

/-! ## The condition -/

/-- The pair that the next command of the call `id` takes out of the queue. -/
def World.taken (w : World) (id : ℕ) (now : ℤ) : List UserID :=
  match w.procs.lookup id with
  | some p => (p.run pool w.store now).1.pair
  | none => []

/-- Nobody joins whom a stored match names, and no match script takes a player of a pair that another
pass has still to record. -/
def Undisturbed (w : World) : Op → Prop
  | .join _ req _ => ∀ r ∈ allQueueRulesets, ∀ v m,
      (w.store.queue pool r).matched.lookup v = some m → req.userID ∉ m.players
  | .run id now => ∀ u ∈ w.taken pool id now, ∀ id' p, w.procs.lookup id' = some p → u ∉ p.pair
  | _ => True

instance (w : World) (op : Op) : Decidable (Undisturbed pool w op) :=
  match op with
  | .join _ req _ => inferInstanceAs (Decidable (∀ r ∈ allQueueRulesets, ∀ v m,
      (w.store.queue pool r).matched.lookup v = some m → req.userID ∉ m.players))
  | .run id now => inferInstanceAs (Decidable (∀ u ∈ w.taken pool id now, ∀ id' p,
      w.procs.lookup id' = some p → u ∉ p.pair))
  | .heartbeat .. | .poll .. | .runMatchmaking .. => .isTrue trivial

/-! ## The refinement -/

/-- The queue as a state of the matching protocol. -/
def World.abs (w : World) : State UserID MatchFound ℕ where
  queued := {u | w.store.Queued pool u}
  pending id := {u | ∃ p, w.procs.lookup id = some p ∧ u ∈ p.pair}
  held u := {m | w.store.Holds pool u m}
  log := w.history

/-- Tickets and calls carry the names they are stored under, and the stored matches are normalized,
so that `Poll` returns them as they are. -/
structure World.Wf (w : World) : Prop where
  named : w.store.Named pool
  procs : ∀ id p, w.procs.lookup id = some p → p.Named
  config : ∀ v m, w.store.Holds pool v m → normalizeMatchConfig m.config = m.config

variable {pool} {w w' : World}

theorem World.start_eq_some {id : ℕ} {p : Proc} (h : w.start id p = some w') :
    id ∉ w.procs ∧ w' = { w with procs := w.procs.insert id p } := by
  unfold World.start at h
  split_ifs at h with hid
  exact ⟨hid, (Option.some.inj h).symm⟩

theorem World.start_refines {id : ℕ} (p : Proc) (h : w.Wf pool) (hp : p.Named) (idle : p.pair = [])
    (hs : w.start id p = some w') :
    w'.Wf pool ∧ Step MatchFound.players (w.abs pool) (w'.abs pool) := by
  obtain ⟨hid, rfl⟩ := World.start_eq_some hs
  refine ⟨⟨h.named, fun id' p' hp' => ?_, h.config⟩, .quiet (fun _ hu => hu) ?_ rfl rfl⟩
  · dsimp only at hp'
    rw [Assoc.lookup_insert] at hp'
    split_ifs at hp'
    · rwa [← Option.some.inj hp']
    · exact h.procs id' p' hp'
  · funext id'
    ext u
    by_cases hid' : id' = id
    · subst hid'
      simp [World.abs, idle, AList.lookup_eq_none.2 hid]
    · simp [World.abs, Assoc.lookup_insert, hid']

theorem World.join_refines {r : GameRuleset} {req : QueueJoinRequest} {now : ℤ} (h : w.Wf pool)
    (hC : Undisturbed pool w (.join r req now)) (hs : w.step pool (.join r req now) = some w') :
    w'.Wf pool ∧ Step MatchFound.players (w.abs pool) (w'.abs pool) := by
  obtain rfl := Option.some.inj hs
  refine ⟨⟨Store.named_join h.named r req now, h.procs, fun v m hm => ?_⟩,
    .join req.userID (fun v m hm => ?_) (fun u hu => Store.queued_join hu) rfl ?_ rfl⟩
  · exact h.config v m ((Store.holds_join r req now v m).1 hm)
  · obtain ⟨r', hr', hm⟩ := hm
    exact hC r' hr' v m hm
  · funext u
    exact Set.ext fun m => Store.holds_join r req now u m

theorem World.lookup_settle (w : World) (id id' : ℕ) (s : Store) (o : Outcome) :
    (w.settle id s o).procs.lookup id' = if id' = id then o.getLeft? else w.procs.lookup id' := by
  unfold World.settle
  split
  · exact Assoc.lookup_insert ..
  · exact Assoc.lookup_erase ..
  · exact Assoc.lookup_erase ..

theorem World.settle_store (w : World) (id : ℕ) (s : Store) (o : Outcome) :
    (w.settle id s o).store = s := by
  unfold World.settle
  split <;> rfl

theorem World.settle_history (w : World) (id : ℕ) (s : Store) (o : Outcome) :
    (w.settle id s o).history =
      match o.found with
      | some (u, m) => .collected u m :: w.history
      | none => w.history := by
  cases o with
  | inl p => rfl
  | inr r =>
      cases r with
      | polled u m => cases m <;> rfl
      | presence _ | matched _ => rfl

theorem World.pending_settle (w : World) (id : ℕ) (s : Store) (o : Outcome) (u : UserID) :
    u ∈ ((w.settle id s o).abs pool).pending id ↔ u ∈ o.pair := by
  cases o <;> simp [World.abs, World.lookup_settle, Outcome.pair]

theorem World.pending_settle_ne (w : World) {id id' : ℕ} (h : id' ≠ id) (s : Store) (o : Outcome) :
    ((w.settle id s o).abs pool).pending id' = (w.abs pool).pending id' := by
  simp [World.abs, World.lookup_settle, h]

theorem World.pending_of_lookup {id : ℕ} {p : Proc} (h : w.procs.lookup id = some p) (u : UserID) :
    u ∈ (w.abs pool).pending id ↔ u ∈ p.pair := by
  simp [World.abs, h]

/-- What a command of a call in progress is for the protocol. -/
theorem World.run_refines {id : ℕ} {p : Proc} {s : Store} {o : Outcome} (h : w.Wf pool)
    (hp : w.procs.lookup id = some p) (hran : Ran pool w.store p o s) (ho : o.Named)
    (hfree : ∀ u ∈ o.pair, ∀ id' p, w.procs.lookup id' = some p → u ∉ p.pair) :
    (w.settle id s o).Wf pool ∧
      Step MatchFound.players (w.abs pool) ((w.settle id s o).abs pool) := by
  have hprocs : ∀ id' p', (w.settle id s o).procs.lookup id' = some p' → p'.Named := by
    intro id' p' hp'
    rw [World.lookup_settle] at hp'
    split_ifs at hp'
    · cases o with
      | inl q => rwa [← Option.some.inj hp']
      | inr _ => cases hp'
    · exact h.procs id' p' hp'
  have hstore := w.settle_store id s o
  have hlog := w.settle_history id s o
  cases hran with
  | take idle queued found shrinks =>
      rw [found] at hlog
      refine ⟨⟨?_, hprocs, fun v m hm => ?_⟩, .take id ?_ ?_ ?_ ?_ ?_ hlog⟩
      · rw [hstore]
        exact shrinks.named h.named
      · rw [hstore, shrinks.holds] at hm
        exact h.config v m hm
      · intro u hu
        exact queued u ((w.pending_settle id s o u).1 hu)
      · intro id'
        refine Set.disjoint_left.2 fun u hu hu' => ?_
        obtain ⟨p', hp', hmem⟩ := hu'
        exact hfree u ((w.pending_settle id s o u).1 hu) id' p' hp' hmem
      · intro u hu
        change (w.settle id s o).store.Queued pool u at hu
        rw [hstore] at hu
        exact shrinks.queued hu
      · exact fun id' hid' => w.pending_settle_ne hid' s o
      · funext u
        ext m
        show (w.settle id s o).store.Holds pool u m ↔ w.store.Holds pool u m
        rw [hstore]
        exact shrinks.holds u m
  | deliver m players config idle found queued holds named =>
      rw [found] at hlog
      have hpair : ∀ u, u ∈ (w.abs pool).pending id ↔ u ∈ p.pair := World.pending_of_lookup hp
      have hholds : ∀ v m', (w.settle id s o).store.Holds pool v m' ↔
          if v ∈ p.pair then m' = m else w.store.Holds pool v m' := by rwa [hstore]
      refine ⟨⟨by rwa [hstore], hprocs, fun v m' hm' => ?_⟩,
        .deliver id m (fun u => ?_) (fun u hu => ?_) ?_ ?_ ?_ ?_ hlog⟩
      · rw [hholds] at hm'
        split_ifs at hm'
        · rw [hm', config]
        · exact h.config v m' hm'
      · rw [hpair]
        exact players u
      · change (w.settle id s o).store.Queued pool u at hu
        rw [hstore] at hu
        exact ⟨(queued u hu).1, fun hmem => (queued u hu).2 ((hpair u).1 hmem)⟩
      · refine Set.eq_empty_iff_forall_notMem.2 fun u hu => ?_
        rw [w.pending_settle, idle] at hu
        cases hu
      · exact fun id' hid' => w.pending_settle_ne hid' s o
      · intro v hv
        ext m'
        have := hholds v m'
        rwa [if_pos ((hpair v).1 hv)] at this
      · intro v hv
        ext m'
        have := hholds v m'
        rwa [if_neg fun hmem => hv ((hpair v).2 hmem)] at this
  | collect u m idle idle' found mem queued holds kept named =>
      rw [found] at hlog
      have hnormal : ({ m with config := normalizeMatchConfig m.config } : MatchFound) = m := by
        rw [h.config u m mem]
      rw [hnormal] at hlog
      refine ⟨⟨by rwa [hstore], hprocs, fun v m' hm' => ?_⟩,
        .collect u m mem (fun v hv => ?_) ?_ (fun v m' hm' => ?_) (fun v m' hm' => ?_) hlog⟩
      · rw [hstore] at hm'
        exact h.config v m' (holds v m' hm')
      · change (w.settle id s o).store.Queued pool v at hv
        rw [hstore] at hv
        exact queued v hv
      · funext id'
        by_cases hid' : id' = id
        · subst hid'
          ext v
          rw [w.pending_settle, World.pending_of_lookup hp, idle, idle']
        · exact w.pending_settle_ne hid' s o
      · change (w.settle id s o).store.Holds pool v m' at hm'
        rw [hstore] at hm'
        exact holds v m' hm'
      · have := kept v m' hm'
        rw [← hstore] at this
        exact this

theorem World.step_refines {op : Op} (h : w.Wf pool) (hC : Undisturbed pool w op)
    (hs : w.step pool op = some w') :
    w'.Wf pool ∧ Step MatchFound.players (w.abs pool) (w'.abs pool) := by
  cases op with
  | join r req now => exact World.join_refines h hC hs
  | heartbeat id rulesets u => exact World.start_refines (startHeartbeat rulesets u) h trivial rfl hs
  | poll id rulesets u => exact World.start_refines (startPoll rulesets u) h trivial rfl hs
  | runMatchmaking id r limit now =>
      exact World.start_refines (startMatchmaking r limit now) h ⟨normalizeRuleset_mem r, trivial⟩
        rfl hs
  | run id now =>
      obtain ⟨p, hp, rfl⟩ := Option.map_eq_some_iff.1 hs
      obtain ⟨hran, hnamed⟩ := Proc.run_spec h.named (h.procs id p hp) now
      refine World.run_refines h hp hran hnamed fun u hu => hC u ?_
      unfold World.taken
      rw [hp]
      exact hu

/-! ## The run -/

theorem World.init_wf : World.init.Wf pool where
  named := fun r _ u t ht => by cases ht
  procs := fun id p hp => by cases hp
  config := fun v m ⟨r, _, hm⟩ => by cases hm

theorem World.init_abs : Inv MatchFound.players (World.init.abs pool) := by
  refine .init (fun id => ?_) (fun v => ?_) rfl
  · exact Set.eq_empty_iff_forall_notMem.2 fun u ⟨p, hp, _⟩ => by cases hp
  · exact Set.eq_empty_iff_forall_notMem.2 fun m ⟨r, _, hm⟩ => by cases hm

/-- The pairs are kept in every run in which nobody joins whom a stored match names and no match script
takes a player of a pair that another pass has still to record. -/
theorem pairsKept_of_undisturbed (pool : QueuePool) (ops : List Op)
    (h : Run.Guarded (World.step pool) (Undisturbed pool) World.init ops) :
    Run.Always (World.step pool) (PairsKept pool) World.init ops := by
  have hinv : Run.Always (World.step pool)
      (fun w => w.Wf pool ∧ Inv MatchFound.players (w.abs pool)) World.init ops := by
    refine Run.always_of_invariant (fun w op w' hw hC hs => ?_) ⟨World.init_wf, World.init_abs⟩ h
    obtain ⟨hwf, hstep⟩ := World.step_refines hw.1 hC hs
    exact ⟨hwf, hw.2.step hstep⟩
  refine hinv.mono fun w hw => ⟨fun _ => ?_, fun _ => ?_⟩
  · exact hw.2.exclusive
  · exact hw.2.shared

/-- `u1` waits in both rulesets, is matched in one of them, polls the match, as his opponent does, and
joins the other queue again. -/
def pairedRun : List Op :=
  [.join .moving { userID := "u1", mmr := 1000 } 1000,
    .join .nmpz { userID := "u1", mmr := 1000 } 1000,
    .join .moving { userID := "u2", mmr := 1010 } 1001,
    .join .nmpz { userID := "u3", mmr := 1020 } 1001,
    .runMatchmaking 1 .moving 50 5000,
    .run 1 5000, .run 1 5000, .run 1 5000, .run 1 5000, .run 1 5000,
    .poll 2 [.moving, .nmpz] "u1", .run 2 5500, .poll 3 [.moving] "u2", .run 3 5500,
    .join .nmpz { userID := "u1", mmr := 1000 } 6000,
    .runMatchmaking 4 .nmpz 50 9000,
    .run 4 9000, .run 4 9000, .run 4 9000, .run 4 9000, .run 4 9000]

theorem pairsKept_pairedRun :
    Run.Guarded (World.step .registered) (Undisturbed .registered) World.init pairedRun ∧
      Run.Always (World.step .registered) (PairsKept .registered) World.init pairedRun :=
  ⟨by decide +kernel, pairsKept_of_undisturbed .registered pairedRun (by decide +kernel)⟩

/-! ### Two runs that lose a partner -/

/-- `u1` waits in both rulesets with one opponent in each, and the passes over the two rulesets
overlap: both scripts run before the result pipelines. -/
def overlapRun : List Op :=
  [.join .moving { userID := "u1", mmr := 1000 } 1000,
    .join .nmpz { userID := "u1", mmr := 1000 } 1000,
    .join .moving { userID := "u2", mmr := 1010 } 1001,
    .join .nmpz { userID := "u3", mmr := 1020 } 1001,
    .runMatchmaking 1 .moving 50 5000, .runMatchmaking 2 .nmpz 50 5000,
    .run 1 5000, .run 1 5000, .run 1 5000, .run 1 5000,
    .run 2 5000, .run 2 5000, .run 2 5000, .run 2 5000,
    .run 1 5000, .run 2 5000]

/-- `u1` joins the queue of the other ruleset before he has polled his match. -/
def rejoinRun : List Op :=
  [.join .moving { userID := "u1", mmr := 1000 } 1000,
    .join .moving { userID := "u2", mmr := 1010 } 1001,
    .runMatchmaking 1 .moving 50 5000,
    .run 1 5000, .run 1 5000, .run 1 5000, .run 1 5000, .run 1 5000,
    .join .nmpz { userID := "u1", mmr := 1000 } 6000,
    .join .nmpz { userID := "u3", mmr := 1020 } 6001,
    .runMatchmaking 2 .nmpz 50 9000,
    .run 2 9000, .run 2 9000, .run 2 9000, .run 2 9000, .run 2 9000]

theorem not_pairsKept_overlapRun :
    ¬ Run.Always (World.step .registered) (PairsKept .registered) World.init overlapRun ∧
      ¬ Run.Always (World.step .registered) (PairsKept .registered) World.init rejoinRun :=
  ⟨fun h => absurd (h.mono fun _ hw => hw.shared) (by decide +kernel),
    fun h => absurd (h.mono fun _ hw => hw.shared) (by decide +kernel)⟩

end GeoDuels.MatchStore
