import GeoDuels.MatchCoordinator.Places
import GeoDuels.MatchStore.UserKeys

/-!
# The newest queue connection of a user

Each queue connection of a user writes the same keys when it joins, and removes them when it ends,
whoever has written them by then.  A `Watch` knows which of the connections has been the last to join.
While that one waits for a match, the user keeps its tickets or gets a match (`newestQueued_of_sparing`),
provided that the commands which others send for him find nothing of it to remove.
-/

namespace GeoDuels.MatchCoordinator

open Coordinator (isBlank trimSpace)
open MatchStore (QueuePool Proc PassAt HasMatch Waits Spares normalizedRulesets allQueueRulesets)

/-! ## Connections -/

/-- The connection joins the queues or polls for a match. -/
def QueueAt.waiting : QueueAt → Bool
  | .join _ | .poll _ => true
  | _ => false

/-- The connection has joined all its queues and polls for a match. -/
def QueueAt.queued : QueueAt → Bool
  | .join [] | .poll _ => true
  | _ => false

/-- The rulesets whose queues the connection has joined. -/
def QueueSession.joined (session : QueueSession) : List GameRuleset :=
  match session.at_ with
  | .join rest => session.rulesets.filter (· ∉ rest)
  | .poll _ => session.rulesets
  | _ => []

/-- A pass has taken the user, and its result pipeline is still to run. -/
def World.Taken (w : World) (pool : QueuePool) (u : UserID) : Prop :=
  ∃ e ∈ w.passes.entries, e.2.1 = pool ∧ u ∈ e.2.2.pair

instance (w : World) (pool : QueuePool) (u : UserID) : Decidable (w.Taken pool u) :=
  inferInstanceAs (Decidable (∃ e ∈ w.passes.entries, _))

/-! ## The newest connection -/

/-- The world with the connection of a user that has been the last to join, or to leave the queues
for that, and that has not polled a match since. -/
structure Watch where
  world : World
  newest : Option ℕ := none

def Watch.init (coord : Coordinator.Store) : Watch := 
  { world := { queue := .empty, coord := coord } }

def forget (id : ℕ) (newest : Option ℕ) : Option ℕ := if newest = some id then none else newest

/-- The newest connection of the user after the next command of his connection `id`. -/
def QueueSession.newest (session : QueueSession) (w : World) (id : ℕ) (newest : Option ℕ) : Option ℕ :=
  match session.at_ with
  | .leave | .join (_ :: _) => some id
  | .poll (r :: _) =>
      if session.req.userID ∈ (w.queue.queue session.pool r).matched then forget id newest else newest
  | .found _ | .drop _ => forget id newest
  | _ => newest

namespace Watch

variable (u : UserID) (singleTTL : ℤ)

def newestAfter (s : Watch) : Op → Option ℕ
  | .connect id _ _ => forget id s.newest
  | .session id _ =>
      match s.world.sessions.lookup id with
      | some session =>
          if session.req.userID = u then session.newest s.world id s.newest else s.newest
      | none => s.newest
  | _ => s.newest

def step (s : Watch) (op : Op) : Option Watch :=
  (s.world.step singleTTL op).map fun w => ⟨w, s.newestAfter u op⟩

/-- While the newest connection has finished its joins and has not polled a match, the user waits in all
its queues, or has a match. -/
def NewestQueued (s : Watch) : Prop :=
  ∀ id ∈ s.newest, ∀ session ∈ s.world.sessions.lookup id, session.at_.queued →
    (∀ r ∈ session.rulesets, Waits s.world.queue session.pool u r) ∨
      HasMatch s.world.queue session.pool u

/-! ## The condition -/

/-- The newest connection, while it joins or polls. -/
def current (s : Watch) : Option QueueSession :=
  (s.newest.bind fun id => s.world.sessions.lookup id).filter (·.at_.waiting)

/-- A command deletes the match keys of the players, but none of the user's. -/
def ClearsNone (s : Watch) (players : List UserID) : Prop :=
  (∃ v ∈ players, isBlank v = false ∧ String.ofList (trimSpace v) = u) →
    ∀ cur ∈ s.current, ∀ r ∈ allQueueRulesets, u ∉ (s.world.queue.queue cur.pool r).matched

/-- The next command of another connection of the user: its `Leave` finds neither a ticket nor a match
of his, it polls no match of his, and when it goes on joining it finds what it has joined. -/
def SparesOwn (s : Watch) (id : ℕ) (session : QueueSession) : QueueAt → Prop
  | .join (_ :: _) =>
      s.newest ≠ some id → ∀ r ∈ session.joined, Waits s.world.queue session.pool u r
  | .poll (r :: _) =>
      s.newest ≠ some id → ∀ cur ∈ s.current, cur.pool = session.pool →
        u ∉ (s.world.queue.queue session.pool r).matched
  | .close =>
      ∀ cur ∈ s.current, cur.pool = session.pool → ∀ r ∈ normalizedRulesets session.rulesets,
        u ∉ (s.world.queue.queue session.pool r).ticket ∧
          u ∉ (s.world.queue.queue session.pool r).matched
  | _ => True

def SparesClear (s : Watch) : QueueAt → Prop
  | .drop m => s.ClearsNone u m.players
  | _ => True

/-- The next command of a pass over the pool of the newest connection. -/
def SparesPass (s : Watch) (now : ℤ) (pool : QueuePool) : Proc → Prop
  | .pass r _ _ at_ =>
      ∀ cur ∈ s.current, cur.pool = pool → at_.Sparing (s.world.queue.queue pool r) u now
  | _ => True

/-- The step takes nothing from the newest connection of the user. -/
def Sparing (s : Watch) : Op → Prop
  | .session id _ => ∀ session ∈ s.world.sessions.lookup id,
      (session.req.userID = u → s.SparesOwn u id session session.at_) ∧ s.SparesClear u session.at_
  | .pass id now => ∀ p ∈ s.world.passes.lookup id, s.SparesPass u now p.1 p.2
  | .clearArtifacts players => s.ClearsNone u players
  | _ => True

section Decidable

instance (s : Watch) : Decidable (s.NewestQueued u) :=
  inferInstanceAs (Decidable (∀ id ∈ s.newest, _))

instance (s : Watch) (players : List UserID) : Decidable (s.ClearsNone u players) :=
  inferInstanceAs (Decidable (_ → _))

instance (s : Watch) (id : ℕ) (session : QueueSession) :
    ∀ at_ : QueueAt, Decidable (s.SparesOwn u id session at_)
  | .join (_ :: _) => inferInstanceAs (Decidable (_ → _))
  | .poll (_ :: _) => inferInstanceAs (Decidable (_ → _))
  | .close => inferInstanceAs (Decidable (∀ cur ∈ s.current, _))
  | .check | .validate _ | .clear _ _ | .leave | .join [] | .poll [] | .found _ | .drop _ | .launch _ =>
      .isTrue trivial

instance (s : Watch) : ∀ at_ : QueueAt, Decidable (s.SparesClear u at_)
  | .drop m => inferInstanceAs (Decidable (s.ClearsNone u m.players))
  | .check | .validate _ | .clear _ _ | .leave | .join _ | .poll _ | .found _ | .launch _ | .close =>
      .isTrue trivial

instance (s : Watch) (now : ℤ) (pool : QueuePool) : ∀ p : Proc, Decidable (s.SparesPass u now pool p)
  | .pass .. => inferInstanceAs (Decidable (∀ cur ∈ s.current, _))
  | .heartbeat .. | .poll .. => .isTrue trivial

instance (s : Watch) : ∀ op : Op, Decidable (s.Sparing u op)
  | .session .. => inferInstanceAs (Decidable (∀ session ∈ _, _))
  | .pass .. => inferInstanceAs (Decidable (∀ p ∈ _, _))
  | .clearArtifacts players => inferInstanceAs (Decidable (s.ClearsNone u players))
  | .register .. | .connect .. | .hangUp _ | .startLobby .. | .lobby .. | .giveUp _ | .matchmaking .. |
    .heartbeat .. | .endMatch _ | .terminalize _ => .isTrue trivial

end Decidable

end Watch

/-! ## What is left to the user -/

/-- The user waits in the queues of the rulesets, has a match, or has been taken. -/
def World.Served (w : World) (pool : QueuePool) (u : UserID) (rulesets : List GameRuleset) : Prop :=
  (∀ r ∈ rulesets, Waits w.queue pool u r) ∨ HasMatch w.queue pool u ∨ w.Taken pool u

/-- Who was served still is. -/
def Serves (pool : QueuePool) (u : UserID) (w w' : World) : Prop :=
  ∀ rulesets, w.Served pool u rulesets → w'.Served pool u rulesets

namespace World

variable {w w' : World} {pool : QueuePool} {u : UserID}

theorem taken_iff : w.Taken pool u ↔ ∃ id p, w.passes.lookup id = some (pool, p) ∧ u ∈ p.pair := by
  constructor
  · rintro ⟨⟨id, pool', p⟩, he, rfl, hu⟩
    exact ⟨id, p, Assoc.mem_entries_iff.1 he, hu⟩
  · rintro ⟨id, p, hid, hu⟩
    exact ⟨⟨id, pool, p⟩, Assoc.mem_entries_iff.2 hid, rfl, hu⟩

theorem serves_of_spares (h : Spares pool u w.queue w'.queue) (hpasses : w'.passes = w.passes) :
    Serves pool u w w' := by
  have htaken : w.Taken pool u → w'.Taken pool u := fun h => by
    unfold Taken
    rwa [hpasses]
  intro rulesets
  exact Or.imp (fun hw r hr => h.waits r (hw r hr)) (Or.imp h.matched htaken)

theorem serves_of_same (hqueue : w'.queue = w.queue) (hpasses : w'.passes = w.passes) :
    Serves pool u w w' :=
  serves_of_spares (hqueue ▸ .refl pool u w.queue) hpasses

end World

theorem spares_eraseMatched {s : MatchStore.Store} {pool pool' : QueuePool} {r : GameRuleset}
    {u v : UserID} (h : v = u → u ∉ (s.queue pool r).matched) :
    Spares pool u s (s.update pool' r fun q => { q with matched := q.matched.erase v }) := by
  refine MatchStore.spares_update (fun _ hw => hw) fun hpool => ?_
  subst hpool
  by_cases hv : v = u
  · subst hv
    exact congrArg (AList.lookup v)
      (Assoc.erase_of_lookup_none (AList.lookup_eq_none.2 (h rfl)))
  · exact MatchStore.Queue.lookup_erase_of_ne _ (Ne.symm hv)

/-- The match keys of players are deleted, but none of the user's. -/
theorem spares_clearQueuedMatch {s : MatchStore.Store} {players : List UserID} {pool : QueuePool}
    {u : UserID}
    (h : (∃ v ∈ players, isBlank v = false ∧ String.ofList (trimSpace v) = u) →
      ∀ r ∈ allQueueRulesets, u ∉ (s.queue pool r).matched) :
    Spares pool u s (clearQueuedMatch s players) := by
  unfold clearQueuedMatch
  have hcs : ∀ c ∈ (players.filter (!isBlank ·)) ×ˢ MatchStore.allQueuePools ×ˢ allQueueRulesets,
      String.ofList (trimSpace c.1) = u → u ∉ (s.queue pool c.2.2).matched := by
    rintro ⟨v, pool', r⟩ hc hv
    obtain ⟨hplayer, hkey⟩ := List.pair_mem_product.1 hc
    obtain ⟨hplayer, hblank⟩ := List.mem_filter.1 hplayer
    exact h ⟨v, hplayer, by simpa using hblank, hv⟩ r (List.pair_mem_product.1 hkey).2
  clear h
  generalize (players.filter (!isBlank ·)) ×ˢ MatchStore.allQueuePools ×ˢ allQueueRulesets = cs at hcs
  induction cs generalizing s with
  | nil => exact .refl pool u s
  | cons c cs ih =>
      have hstep := @spares_eraseMatched s pool c.2.1 c.2.2 u (String.ofList (trimSpace c.1))
        (hcs c List.mem_cons_self)
      refine hstep.trans (ih fun c' hc' hv => ?_)
      rw [MatchStore.Store.queue_update]
      split_ifs
      · exact fun hmem => hcs c' (List.mem_cons_of_mem c hc') hv (AList.mem_erase.1 hmem).2
      · exact hcs c' (List.mem_cons_of_mem c hc') hv

/-! ## Passes -/

/-- The call is a pass, and the tickets that it has read are those of the users it read them for. -/
def Pass (p : Proc) : Prop :=
  ∃ r limit owner at_, p = .pass r limit owner at_ ∧ r ∈ allQueueRulesets ∧ at_.Named

/-- The tickets in the queues and in the passes are stored under their users. -/
structure World.Named (w : World) : Prop where
  queue : ∀ pool, w.queue.Named pool
  passes : ∀ id pool p, w.passes.lookup id = some (pool, p) → Pass p

section Passes

variable {w : World} {pool : QueuePool} {u : UserID} {id : ℕ} {pool' : QueuePool} {p : Proc}

theorem World.Named.settlePass (hw : w.Named) (hid : w.passes.lookup id = some (pool', p)) (now : ℤ)
    (m : Option MatchFound) : (w.settlePass id pool' m (p.run pool' w.queue now)).Named := by
  obtain ⟨r, limit, owner, at_, rfl, hr, hat⟩ := hw.passes id pool' p hid
  obtain ⟨hran, hnext⟩ := MatchStore.runPass_spec hr (hw.queue pool') limit owner now hat
  constructor
  · intro pool
    by_cases hpool : pool = pool'
    · subst hpool
      exact hran.named (hw.queue pool)
    · intro r' hr' v t ht
      have hsame := @MatchStore.runPass_queue_ne pool w.queue pool' hpool r limit owner now at_ r'
      rw [show (w.settlePass id pool' m ((Proc.pass r limit owner at_).run pool' w.queue now)).queue.queue
        pool r' = w.queue.queue pool r' from hsame] at ht
      exact hw.queue pool r' hr' v t ht
  · intro id' pool'' q hq
    unfold World.settlePass at hq
    dsimp only at hq
    cases ho : ((Proc.pass r limit owner at_).run pool' w.queue now).1 with
    | inl q' =>
        rw [ho] at hq
        rcases Assoc.of_lookup_insert hq with ⟨-, heq⟩ | ⟨-, hold⟩
        · obtain ⟨at', rfl⟩ := MatchStore.runPass_goesOn ho
          rw [show (MatchStore.runPass pool' w.queue r limit owner now at_).1 = _ from ho] at hnext
          obtain ⟨-, rfl⟩ := Prod.mk.inj heq.symm
          exact ⟨r, limit, owner, at', rfl, hnext.1, hnext.2⟩
        · exact hw.passes id' pool'' q hold
    | inr o =>
        rw [ho] at hq
        exact hw.passes id' pool'' q (Assoc.of_lookup_erase hq).2

theorem lookup_settlePass_ne {id' : ℕ} (h : id' ≠ id) (m : Option MatchFound)
    (o : MatchStore.Outcome × MatchStore.Store) :
    (w.settlePass id pool' m o).passes.lookup id' = w.passes.lookup id' := by
  unfold World.settlePass
  dsimp only
  split
  · rw [Assoc.lookup_insert, if_neg h]
  · rw [Assoc.lookup_erase, if_neg h]

theorem lookup_settlePass_of_pair {o : MatchStore.Outcome × MatchStore.Store} (h : u ∈ o.1.pair)
    (m : Option MatchFound) : (w.settlePass id pool' m o).Taken pool' u := by
  obtain ⟨q | o, s⟩ := o
  · exact World.taken_iff.2 ⟨id, q, AList.lookup_insert _, h⟩
  · cases h

/-- A command of a pass serves the user if it spares him. -/
theorem serves_settlePass (hw : w.Named) (hid : w.passes.lookup id = some (pool', p)) (now : ℤ)
    (m : Option MatchFound)
    (hsparing : pool = pool' → ∀ r limit owner at_, p = .pass r limit owner at_ →
      at_.Sparing (w.queue.queue pool r) u now) :
    Serves pool u w (w.settlePass id pool' m (p.run pool' w.queue now)) := by
  obtain ⟨r, limit, owner, at_, rfl, hr, hat⟩ := hw.passes id pool' p hid
  have hother : ∀ id' q, id' ≠ id → w.passes.lookup id' = some (pool, q) → u ∈ q.pair →
      (w.settlePass id pool' m ((Proc.pass r limit owner at_).run pool' w.queue now)).Taken pool u :=
    fun id' q hne hq hu => World.taken_iff.2 ⟨id', q, (lookup_settlePass_ne hne m _).trans hq, hu⟩
  by_cases hpool : pool = pool'
  · subst hpool
    obtain ⟨hleaves, hrecords⟩ := MatchStore.runPass_leaves (hw.queue pool) hr limit owner now hat
      (hsparing rfl r limit owner at_ rfl)
    by_cases hpair : u ∈ (Proc.pass r limit owner at_).pair
    · exact fun _ _ => .inr (.inl (hrecords hpair))
    · have htaken : w.Taken pool u → (w.settlePass id pool m
          ((Proc.pass r limit owner at_).run pool w.queue now)).Taken pool u := by
        intro h
        obtain ⟨id', q, hq, hu⟩ := World.taken_iff.1 h
        refine hother id' q (fun heq => ?_) hq hu
        subst heq
        rw [hid] at hq
        obtain ⟨-, rfl⟩ := Prod.mk.inj (Option.some.inj hq)
        exact hpair hu
      rcases hleaves hpair with hspares | hnew
      · exact fun rulesets => Or.imp (fun h r hr => hspares.waits r (h r hr))
          (Or.imp hspares.matched htaken)
      · exact fun _ _ => .inr (.inr (lookup_settlePass_of_pair hnew m))
  · have hqueue := MatchStore.runPass_queue_ne hpool (s := w.queue) r limit owner now at_
    have hspares : Spares pool u w.queue (MatchStore.runPass pool' w.queue r limit owner now at_).2 :=
      MatchStore.spares_of_same fun r' => by rw [hqueue r']; exact ⟨rfl, rfl, rfl, rfl⟩
    refine fun rulesets => Or.imp (fun h r hr => hspares.waits r (h r hr))
      (Or.imp hspares.matched fun h => ?_)
    obtain ⟨id', q, hq, hu⟩ := World.taken_iff.1 h
    refine hother id' q (fun heq => ?_) hq hu
    subst heq
    rw [hid] at hq
    exact hpool (Prod.mk.inj (Option.some.inj hq)).1.symm

end Passes

/-! ## Handlers -/

section Handlers

variable {s : Watch} {u : UserID} {singleTTL : ℤ} {id : ℕ} {session : QueueSession} {x : Answer}

theorem named_clearQueuedMatch {s : MatchStore.Store} {pool : QueuePool} (hs : s.Named pool)
    (players : List UserID) : (clearQueuedMatch s players).Named pool := by
  unfold clearQueuedMatch
  generalize (players.filter (!isBlank ·)) ×ˢ MatchStore.allQueuePools ×ˢ allQueueRulesets = cs
  induction cs generalizing s with
  | nil => exact hs
  | cons c cs ih =>
      refine ih fun r hr v t ht => hs r hr v t ?_
      rw [MatchStore.Store.queue_update] at ht
      split_ifs at ht
      · exact ht
      · exact ht

theorem named_getDelMatch {s : MatchStore.Store} {pool : QueuePool} (hs : s.Named pool)
    (pool' : QueuePool) (r : GameRuleset) (v : UserID) :
    (s.update pool' r fun _ => ((s.queue pool' r).getDelMatch v).2).Named pool := by
  have htouches : s.Touches v (s.update pool' r fun _ => ((s.queue pool' r).getDelMatch v).2) :=
    MatchStore.Store.touches_update (MatchStore.Queue.touches_getDelMatch _ v)
  exact htouches.named hs

theorem named_leave {s : MatchStore.Store} {pool : QueuePool} (hs : s.Named pool)
    (pool' : QueuePool) (rulesets : List GameRuleset) (v : UserID) :
    (s.leave pool' rulesets v).Named pool :=
  MatchStore.Store.Touches.named (s.touches_leave pool' rulesets v) hs

/-- The next command of a connection writes only tickets of its user. -/
theorem World.Named.settleSession {w : World} (hw : w.Named) :
    (w.settleSession id session (session.run singleTTL w x)).Named := by
  refine ⟨fun pool => ?_, hw.passes⟩
  have hqueue := hw.queue pool
  unfold QueueSession.run World.settleSession
  cases session.at_ with
  | check => dsimp only; split <;> exact hqueue
  | validate assigned | clear assigned again | found m => exact hqueue
  | launch c => exact hqueue
  | leave | close => exact named_leave hqueue _ _ _
  | join rulesets =>
      cases rulesets with
      | nil => exact hqueue
      | cons r rulesets =>
          exact MatchStore.Store.Touches.named (w.queue.touches_join session.pool r session.req x.now) hqueue
  | poll rulesets =>
      cases rulesets with
      | nil => exact hqueue
      | cons r rulesets =>
          exact named_getDelMatch hqueue session.pool r session.req.userID
  | drop m => exact named_clearQueuedMatch hqueue m.players

/-- The command of another connection. -/
theorem spares_session (hown : session.req.userID = u → s.SparesOwn u id session session.at_)
    (hclear : s.SparesClear u session.at_) (hid : s.newest ≠ some id)
    (hjoins : session.req.userID = u → session.at_ ≠ .leave ∧ ∀ r rs, session.at_ ≠ .join (r :: rs))
    {cur : QueueSession} (hcur : cur ∈ s.current) :
    Spares cur.pool u s.world.queue (session.run singleTTL s.world x).queue := by
  unfold QueueSession.run
  cases hat : session.at_ with
  | check => dsimp only; split <;> exact .refl _ _ _
  | validate assigned | clear assigned again | found m => exact .refl _ _ _
  | launch c => exact .refl _ _ _
  | leave =>
      apply MatchStore.spares_leave_of_ne
      exact fun hu => (hjoins hu.symm).1 hat
  | join rulesets =>
      cases rulesets with
      | nil => exact .refl _ _ _
      | cons r rulesets =>
          apply MatchStore.spares_join_of_ne
          exact fun hu => (hjoins hu.symm).2 r rulesets hat
  | poll rulesets =>
      cases rulesets with
      | nil => exact .refl _ _ _
      | cons r rulesets =>
          rw [hat] at hown
          exact MatchStore.spares_getDelMatch fun hu hpool => hpool ▸ hown hu.symm hid cur hcur hpool
  | drop m =>
      rw [hat] at hclear
      exact spares_clearQueuedMatch fun hnamed => hclear hnamed cur hcur
  | close =>
      rw [hat] at hown
      by_cases hu : session.req.userID = u
      · subst hu
        exact MatchStore.spares_leave fun hpool r hr => hpool ▸ hown rfl cur hcur hpool r hr
      · exact MatchStore.spares_leave_of_ne _ _ _ (Ne.symm hu)

theorem queue_lobby (start : LobbyStart) (w : World) : (start.run singleTTL w x).queue = w.queue := by
  unfold LobbyStart.run
  cases start.at_ with
  | check done userID rest => dsimp only; split <;> rfl
  | validate | clear | launch => rfl

end Handlers

/-! ## The invariant -/

namespace Watch

/-- While the newest connection joins or polls, the user is served in all the queues that it has
joined. -/
structure Inv (u : UserID) (s : Watch) : Prop where
  named : s.world.Named
  newest : ∀ id ∈ s.newest, ∀ session ∈ s.world.sessions.lookup id, session.req.userID = u ∧
    (session.at_.waiting → s.world.Served session.pool u session.joined)

/-- The connection has joined no other queue, if it still joins or polls. -/
def Follows (new old : QueueSession) : Prop :=
  new.req = old.req ∧ (new.at_.waiting → old.at_.waiting ∧ new.joined = old.joined)

theorem Follows.refl (session : QueueSession) : Follows session session := ⟨rfl, fun h => ⟨h, rfl⟩⟩

theorem mem_forget {id id' : ℕ} {newest : Option ℕ} :
    id' ∈ forget id newest ↔ id' ∈ newest ∧ id' ≠ id := by
  unfold forget
  split_ifs with h
  · subst h
    simp only [Option.mem_def, Option.some.injEq, reduceCtorEq, ne_eq, false_iff, not_and, not_not]
    exact Eq.symm
  · refine ⟨fun hid => ⟨hid, ?_⟩, fun hid => hid.1⟩
    rintro rfl
    exact h hid

variable {u : UserID} {s : Watch} {w' : World} {newest' : Option ℕ}

theorem mem_current {cur : QueueSession} : cur ∈ s.current ↔
    ∃ id ∈ s.newest, cur ∈ s.world.sessions.lookup id ∧ cur.at_.waiting := by
  unfold current
  simp only [Option.mem_def, Option.filter_eq_some_iff, Option.bind_eq_some_iff]
  constructor
  · rintro ⟨⟨id, hid, hcur⟩, hw⟩
    exact ⟨id, hid, hcur, hw⟩
  · rintro ⟨id, hid, hcur, hw⟩
    exact ⟨⟨id, hid, hcur⟩, hw⟩

/-- No connection joins a queue with the step. -/
theorem Inv.quiet (h : s.Inv u) (hnamed : w'.Named) (hnewest : ∀ id ∈ newest', id ∈ s.newest)
    (hsessions : ∀ id ∈ newest', ∀ session ∈ w'.sessions.lookup id,
      ∃ old ∈ s.world.sessions.lookup id, Follows session old ∧
        (old.at_.waiting → Serves old.pool u s.world w')) : Inv u ⟨w', newest'⟩ := by
  refine ⟨hnamed, fun id hid session hsession => ?_⟩
  obtain ⟨old, hold, ⟨hreq, hfollows⟩, hserves⟩ := hsessions id hid session hsession
  obtain ⟨huser, hserved⟩ := h.newest id (hnewest id hid) old hold
  refine ⟨hreq ▸ huser, fun hw => ?_⟩
  obtain ⟨hwaiting, hjoined⟩ := hfollows hw
  have hpool : session.pool = old.pool := by
    rw [QueueSession.pool, hreq, QueueSession.pool]
  change w'.Served session.pool u session.joined
  rw [hpool, hjoined]
  exact hserves hwaiting _ (hserved hwaiting)

/-- The connections stay as they are. -/
theorem Inv.elsewhere (h : s.Inv u) (hnamed : w'.Named) (hsessions : w'.sessions = s.world.sessions)
    (hserves : ∀ cur ∈ s.current, Serves cur.pool u s.world w') : Inv u ⟨w', s.newest⟩ := by
  refine h.quiet hnamed (fun _ hid => hid) fun id hid session hsession => ?_
  rw [hsessions] at hsession
  exact ⟨session, hsession, .refl session, fun hw =>
    hserves session (mem_current.2 ⟨id, hid, hsession, hw⟩)⟩

/-- Nothing changes in the queues. -/
theorem Inv.same (h : s.Inv u) (hqueue : w'.queue = s.world.queue) (hpasses : w'.passes = s.world.passes)
    (hsessions : w'.sessions = s.world.sessions) : Inv u ⟨w', s.newest⟩ := by
  refine h.elsewhere ⟨fun pool => ?_, fun id pool p hp => ?_⟩ hsessions
    fun _ _ => World.serves_of_same hqueue hpasses
  · rw [hqueue]
    exact h.named.queue pool
  · rw [hpasses] at hp
    exact h.named.passes id pool p hp

/-! ## The commands of a connection -/

section Session

variable {singleTTL : ℤ} {id : ℕ} {session : QueueSession} {x : Answer}

/-- The connection begins to join, or joins a queue. -/
def Joins (at_ : QueueAt) : Prop := at_ = .leave ∨ ∃ r rs, at_ = .join (r :: rs)

/-- The world after the next command of the connection. -/
def after (s : Watch) (singleTTL : ℤ) (id : ℕ) (session : QueueSession) (x : Answer) : World :=
  s.world.settleSession id session (session.run singleTTL s.world x)

theorem lookup_after_ne {id' : ℕ} (h : id' ≠ id) :
    (s.after singleTTL id session x).sessions.lookup id' = s.world.sessions.lookup id' := by
  unfold after World.settleSession
  dsimp only
  split
  · rw [Assoc.lookup_insert, if_neg h]
  · rw [Assoc.lookup_erase, if_neg h]

theorem lookup_after {session' : QueueSession}
    (h : (s.after singleTTL id session x).sessions.lookup id = some session') :
    ∃ at_, (session.run singleTTL s.world x).next = some at_ ∧ session' = { session with at_ := at_ } := by
  unfold after World.settleSession at h
  dsimp only at h
  split at h
  next at_ hnext =>
    rw [Assoc.lookup_insert, if_pos rfl] at h
    exact ⟨at_, hnext, (Option.some.inj h).symm⟩
  next =>
    rw [Assoc.lookup_erase, if_pos rfl] at h
    cases h

/-- The connection is the newest one afterwards, and the user is served in what it has joined. -/
theorem Inv.joins (h : s.Inv u) (hid : s.world.sessions.lookup id = some session)
    (hu : session.req.userID = u) (hjoins : Joins session.at_)
    (hown : s.SparesOwn u id session session.at_) :
    Inv u ⟨s.after singleTTL id session x, session.newest s.world id s.newest⟩ := by
  refine ⟨h.named.settleSession, fun id' hid' session' hsession' => ?_⟩
  have hnew : session.newest s.world id s.newest = some id := by
    unfold QueueSession.newest
    rcases hjoins with hat | ⟨r, rs, hat⟩
    · rw [hat]
    · rw [hat]
  obtain rfl : id = id' := by
    rw [hnew] at hid'
    exact Option.some.inj hid'
  obtain ⟨at_, hnext, rfl⟩ := lookup_after hsession'
  refine ⟨hu, fun _ => ?_⟩
  subst hu
  rcases hjoins with hat | ⟨r, rs, hat⟩
  · obtain rfl : QueueAt.join session.rulesets = at_ := by
      unfold QueueSession.run at hnext
      rw [hat] at hnext
      exact Option.some.inj hnext
    refine .inl fun r' hr' => ?_
    simp [QueueSession.joined] at hr'
  · obtain rfl : QueueAt.join rs = at_ := by
      unfold QueueSession.run at hnext
      rw [hat] at hnext
      exact Option.some.inj hnext
    have hqueue : (s.after singleTTL id session x).queue =
        (s.world.queue.join session.pool r session.req x.now).2 := by
      unfold after World.settleSession QueueSession.run
      rw [hat]
    have hjoined : s.world.Served session.pool session.req.userID session.joined := by
      by_cases hnewest : s.newest = some id
      · exact (h.newest id hnewest session hid).2 (by rw [hat]; rfl)
      · rw [hat] at hown
        exact .inl (hown hnewest)
    unfold World.Served
    change (∀ r' ∈ session.rulesets.filter (· ∉ rs), Waits (s.after singleTTL id session x).queue
      session.pool session.req.userID r') ∨ _
    rw [hqueue]
    refine hjoined.imp (fun hw r' hr' => ?_) (Or.imp (MatchStore.hasMatch_join x.now) fun h => h)
    by_cases hr : normalizeRuleset r' = normalizeRuleset r
    · exact MatchStore.waits_join x.now (.inl hr)
    · refine MatchStore.waits_join x.now (.inr (hw r' ?_))
      simp only [List.mem_filter, decide_eq_true_eq] at hr'
      unfold QueueSession.joined
      rw [hat]
      simp only [List.mem_filter, List.mem_cons, decide_eq_true_eq, not_or]
      exact ⟨hr'.1, fun heq => hr (by rw [heq]), hr'.2⟩

/-- The newest connection goes on without joining a queue, and is the newest one still. -/
theorem follows_own (hu : session.req.userID = u) (hnewest : session.newest s.world id (some id) = some id)
    (hjoins : ¬ Joins session.at_) {at_ : QueueAt}
    (hnext : (session.run singleTTL s.world x).next = some at_) :
    Follows { session with at_ := at_ } session ∧
      (session.at_.waiting →
        Spares session.pool u s.world.queue (session.run singleTTL s.world x).queue) := by
  have hforget : forget id (some id) ≠ some id := by simp [forget]
  have hidle : at_.waiting = false → Follows { session with at_ := at_ } session := fun hw =>
    ⟨rfl, fun hw' => by rw [show at_.waiting = true from hw'] at hw; cases hw⟩
  unfold QueueSession.newest at hnewest
  unfold QueueSession.run at hnext ⊢
  cases hat : session.at_ with
  | check =>
      rw [hat] at hnext
      dsimp only at hnext
      refine ⟨hidle ?_, nofun⟩
      split at hnext
      · rw [← Option.some.inj hnext]
        rfl
      · rw [← Option.some.inj hnext]
        rfl
  | validate assigned =>
      rw [hat] at hnext
      obtain ⟨again, -, rfl⟩ := Option.map_eq_some_iff.1 hnext
      exact ⟨hidle rfl, nofun⟩
  | clear assigned again =>
      rw [hat] at hnext
      refine ⟨hidle ?_, nofun⟩
      rw [← Option.some.inj hnext]
      cases again with
      | true => rfl
      | false => rfl
  | leave => exact absurd (.inl hat) hjoins
  | join rulesets =>
      cases rulesets with
      | cons r rs => exact absurd (.inr ⟨r, rs, hat⟩) hjoins
      | nil =>
          rw [hat] at hnext
          obtain rfl := Option.some.inj hnext
          refine ⟨⟨rfl, fun _ => ⟨by rw [hat]; rfl, ?_⟩⟩, fun _ => .refl _ _ _⟩
          simp [QueueSession.joined, hat]
  | poll rulesets =>
      cases rulesets with
      | nil =>
          rw [hat] at hnext
          obtain rfl := Option.some.inj hnext
          refine ⟨⟨rfl, fun _ => ⟨by rw [hat]; rfl, ?_⟩⟩, fun _ => .refl _ _ _⟩
          simp [QueueSession.joined, hat]
      | cons r rs =>
          rw [hat] at hnext hnewest
          dsimp only at hnewest
          split_ifs at hnewest with hmatched
          · exact absurd hnewest hforget
          · subst hu
            have hnone : ((s.world.queue.queue session.pool r).getDelMatch session.req.userID).1 = none :=
              AList.lookup_eq_none.2 hmatched
            dsimp only at hnext
            rw [hnone] at hnext
            obtain rfl := Option.some.inj hnext
            refine ⟨⟨rfl, fun _ => ⟨by rw [hat]; rfl, ?_⟩⟩, fun _ => ?_⟩
            · simp [QueueSession.joined, hat]
            · exact MatchStore.spares_getDelMatch fun _ _ => hmatched
  | found m | drop m =>
      rw [hat] at hnewest
      exact absurd hnewest hforget
  | launch c =>
      rw [hat] at hnext
      refine ⟨hidle ?_, nofun⟩
      unfold World.launch at hnext
      dsimp only at hnext
      split at hnext
      · rw [← Option.some.inj hnext]
        rfl
      · split_ifs at hnext
        rw [← Option.some.inj hnext]
        rfl
      · rw [← Option.some.inj hnext]
        rfl
  | close =>
      rw [hat] at hnext
      cases hnext

theorem mem_of_mem_newest {id' : ℕ} {newest : Option ℕ} (hjoins : ¬ Joins session.at_)
    (h : id' ∈ session.newest s.world id newest) : id' ∈ newest := by
  unfold QueueSession.newest at h
  split at h
  next hat => exact absurd (.inl hat) hjoins
  next hat => exact absurd (.inr ⟨_, _, hat⟩) hjoins
  next =>
    split_ifs at h
    · exact (mem_forget.1 h).1
    · exact h
  next => exact (mem_forget.1 h).1
  next => exact (mem_forget.1 h).1
  next => exact h

/-- A command of a connection that joins no queue of the user. -/
theorem Inv.goes_on (h : s.Inv u) (hid : s.world.sessions.lookup id = some session)
    (hown : session.req.userID = u → s.SparesOwn u id session session.at_)
    (hclear : s.SparesClear u session.at_) (hjoins : session.req.userID = u → ¬ Joins session.at_)
    {newest' : Option ℕ} (hnewest : newest' =
      if session.req.userID = u then session.newest s.world id s.newest else s.newest) :
    Inv u ⟨s.after singleTTL id session x, newest'⟩ := by
  have hsub : ∀ id' ∈ newest', id' ∈ s.newest := fun id' hid' => by
    rw [hnewest] at hid'
    split_ifs at hid' with hu
    · exact mem_of_mem_newest (hjoins hu) hid'
    · exact hid'
  refine h.quiet h.named.settleSession hsub fun id' hid' session' hsession' => ?_
  by_cases heq : id' = id
  · subst heq
    obtain ⟨at_, hnext, rfl⟩ := lookup_after hsession'
    have hu := (h.newest id' (hsub id' hid') session hid).1
    have hsome : s.newest = some id' := hsub id' hid'
    rw [hnewest, if_pos hu, hsome] at hid'
    obtain ⟨hfollows, hspares⟩ := follows_own hu hid' (hjoins hu) hnext
    exact ⟨session, hid, hfollows, fun hw => World.serves_of_spares (hspares hw) rfl⟩
  · rw [lookup_after_ne heq] at hsession'
    refine ⟨session', hsession', .refl session', fun hw => World.serves_of_spares ?_ rfl⟩
    refine spares_session hown hclear (fun hsome => heq ?_) (fun hu => ⟨fun hat => ?_, fun r rs hat => ?_⟩)
      (mem_current.2 ⟨id', hsub id' hid', hsession', hw⟩)
    · have hsome' : s.newest = some id' := hsub id' hid'
      rw [hsome] at hsome'
      exact (Option.some.inj hsome').symm
    · exact hjoins hu (.inl hat)
    · exact hjoins hu (.inr ⟨r, rs, hat⟩)

theorem Inv.command (h : s.Inv u) (hid : s.world.sessions.lookup id = some session)
    (hsparing : (session.req.userID = u → s.SparesOwn u id session session.at_) ∧
      s.SparesClear u session.at_) :
    Inv u ⟨s.after singleTTL id session x,
      if session.req.userID = u then session.newest s.world id s.newest else s.newest⟩ := by
  by_cases hjoins : session.req.userID = u ∧ Joins session.at_
  · rw [if_pos hjoins.1]
    exact h.joins hid hjoins.1 hjoins.2 (hsparing.1 hjoins.1)
  · exact h.goes_on hid hsparing.1 hsparing.2 (fun hu hat => hjoins ⟨hu, hat⟩) rfl

theorem waiting_of_left {at_ at' : QueueAt} (h : at_.left = some (some at')) : at'.waiting = false := by
  unfold QueueAt.left at h
  split at h
  · cases h
  · rw [← Option.some.inj (Option.some.inj h)]
    rfl
  · rw [← Option.some.inj (Option.some.inj h)]
    rfl
  · cases h

/-- A connection that ends before its time. -/
theorem Inv.hangUp (h : s.Inv u) (hid : s.world.sessions.lookup id = some session)
    {next : Option QueueAt} (hnext : session.at_.left = some next) :
    Inv u ⟨s.world.settleSession id session (s.world.goto next), s.newest⟩ := by
  refine h.quiet ⟨h.named.queue, h.named.passes⟩ (fun _ hid => hid) fun id' _ session' hsession' => ?_
  cases next with
  | none =>
      obtain ⟨-, hold⟩ := Assoc.of_lookup_erase hsession'
      exact ⟨session', hold, .refl session', fun _ => World.serves_of_same rfl rfl⟩
  | some at' =>
      rcases Assoc.of_lookup_insert hsession' with ⟨rfl, rfl⟩ | ⟨-, hold⟩
      · refine ⟨session, hid, ⟨rfl, fun hw => ?_⟩, fun _ => World.serves_of_same rfl rfl⟩
        have hwaiting : at'.waiting = true := hw
        rw [waiting_of_left hnext] at hwaiting
        cases hwaiting
      · exact ⟨session', hold, .refl session', fun _ => World.serves_of_same rfl rfl⟩

end Session

/-! ## Runs -/

section Run

variable {singleTTL : ℤ}

theorem Inv.step {op : Op} {s' : Watch} (h : s.Inv u) (hsparing : s.Sparing u op)
    (hs : s.step u singleTTL op = some s') : s'.Inv u := by
  obtain ⟨w', hw', rfl⟩ := Option.map_eq_some_iff.1 hs
  cases op with
  | register rec now =>
      obtain ⟨-, hw'⟩ := Option.ite_none_left_eq_some.1 hw'
      obtain rfl := Option.some.inj hw'
      exact h.same rfl rfl rfl
  | connect id req rulesets =>
      obtain ⟨-, hw'⟩ := Option.ite_none_left_eq_some.1 hw'
      obtain rfl := Option.some.inj hw'
      refine h.quiet ⟨h.named.queue, h.named.passes⟩ (fun id' hid' => (mem_forget.1 hid').1)
        fun id' hid' session hsession => ?_
      rcases Assoc.of_lookup_insert hsession with ⟨heq, -⟩ | ⟨-, hold⟩
      · exact absurd heq (mem_forget.1 hid').2
      · exact ⟨session, hold, .refl session, fun _ => World.serves_of_same rfl rfl⟩
  | session id x =>
      obtain ⟨session, hid, hw'⟩ := Option.bind_eq_some_iff.1 hw'
      obtain ⟨-, hw'⟩ := Option.ite_none_right_eq_some.1 hw'
      obtain rfl := Option.some.inj hw'
      have hnewest : s.newestAfter u (.session id x) =
          if session.req.userID = u then session.newest s.world id s.newest else s.newest := by
        simp only [newestAfter, hid]
      rw [hnewest]
      exact h.command hid (hsparing session hid)
  | hangUp id =>
      obtain ⟨session, hid, hw'⟩ := Option.bind_eq_some_iff.1 hw'
      obtain ⟨next, hnext, rfl⟩ := Option.map_eq_some_iff.1 hw'
      exact h.hangUp hid hnext
  | startLobby id snap profiles now suffix =>
      obtain ⟨-, hw'⟩ := Option.ite_none_left_eq_some.1 hw'
      split at hw'
      · cases hw'
      · obtain rfl := Option.some.inj hw'
        exact h.same rfl rfl rfl
  | lobby id x =>
      obtain ⟨start, hid, hw'⟩ := Option.bind_eq_some_iff.1 hw'
      obtain ⟨-, hw'⟩ := Option.ite_none_right_eq_some.1 hw'
      obtain rfl := Option.some.inj hw'
      exact h.same (queue_lobby start s.world) rfl rfl
  | giveUp id =>
      dsimp only [World.step] at hw'
      split at hw'
      · obtain rfl := Option.some.inj hw'
        exact h.same rfl rfl rfl
      · cases hw'
  | matchmaking id pool ruleset limit now =>
      obtain ⟨hfresh, hw'⟩ := Option.ite_none_left_eq_some.1 hw'
      obtain rfl := Option.some.inj hw'
      refine h.elsewhere ⟨h.named.queue, fun id' pool' p hp => ?_⟩ rfl fun cur _ rulesets =>
        Or.imp_right (Or.imp_right fun htaken => ?_)
      · rcases Assoc.of_lookup_insert hp with ⟨-, heq⟩ | ⟨-, hold⟩
        · obtain ⟨-, rfl⟩ := Prod.mk.inj heq
          exact ⟨_, _, _, _, rfl, MatchStore.normalizeRuleset_mem ruleset, trivial⟩
        · exact h.named.passes id' pool' p hold
      · obtain ⟨id', p, hp, hu⟩ := World.taken_iff.1 htaken
        refine World.taken_iff.2 ⟨id', p, ?_, hu⟩
        rw [Assoc.lookup_insert, if_neg, hp]
        rintro rfl
        exact hfresh (Assoc.mem_iff_exists.2 ⟨_, hp⟩)
  | pass id now =>
      obtain ⟨⟨pool, p⟩, hid, rfl⟩ := Option.map_eq_some_iff.1 hw'
      refine h.elsewhere (h.named.settlePass hid now _) rfl fun cur hcur =>
        serves_settlePass h.named hid now _ fun hpool r limit owner at_ hp => ?_
      have hpass := hsparing (pool, p) hid
      subst hp
      rw [hpool]
      exact hpass cur hcur hpool
  | heartbeat pool ruleset userID =>
      obtain rfl := Option.some.inj hw'
      refine h.elsewhere ⟨fun pool' => ?_, h.named.passes⟩ rfl fun cur _ =>
        World.serves_of_spares (MatchStore.spares_heartbeat s.world.queue cur.pool pool ruleset u userID) rfl
      have htouches : s.world.queue.Touches userID (s.world.queue.update pool ruleset fun _ =>
          ((s.world.queue.queue pool ruleset).heartbeat userID).2) :=
        MatchStore.Store.touches_update (MatchStore.Queue.touches_heartbeat _ userID)
      exact htouches.named (h.named.queue pool')
  | endMatch matchID =>
      obtain rfl := Option.some.inj hw'
      exact h.same rfl rfl rfl
  | clearArtifacts players =>
      obtain rfl := Option.some.inj hw'
      refine h.elsewhere ⟨fun pool => named_clearQueuedMatch (h.named.queue pool) players, h.named.passes⟩
        rfl fun cur hcur => World.serves_of_spares ?_ rfl
      exact spares_clearQueuedMatch fun hnamed => hsparing hnamed cur hcur
  | terminalize assigned =>
      obtain ⟨-, hw'⟩ := Option.ite_none_left_eq_some.1 hw'
      obtain rfl := Option.some.inj hw'
      exact h.same rfl rfl rfl

theorem Inv.newestQueued (h : s.Inv u) (htaken : ∀ pool, ¬ s.world.Taken pool u) :
    s.NewestQueued u := by
  intro id hid session hsession hqueued
  have hjoined : session.at_.waiting ∧ session.joined = session.rulesets := by
    unfold QueueAt.queued at hqueued
    unfold QueueSession.joined
    split at hqueued
    next hat =>
      rw [hat]
      exact ⟨rfl, by simp⟩
    next hat =>
      rw [hat]
      exact ⟨rfl, rfl⟩
    next => cases hqueued
  obtain ⟨hwaiting, heq⟩ := hjoined
  rcases (h.newest id hid session hsession).2 hwaiting with hw | hm | ht
  · exact .inl fun r hr => hw r (heq ▸ hr)
  · exact .inr hm
  · exact absurd ht (htaken session.pool)

theorem inv_init (coord : Coordinator.Store) : (Watch.init coord).Inv u :=
  ⟨⟨fun _ _ _ _ _ ht => (nomatch ht), fun _ _ _ hp => nomatch hp⟩, fun _ hid => nomatch hid⟩

end Run

/-- The next `n` commands of the connection. -/
def commands (n id : ℕ) (now : ℤ) : List Op := List.replicate n (.session id { now := now })

/-- The connection joins the queue of the moving ruleset and is about to poll. -/
def opens (id : ℕ) (u : UserID) (now : ℤ) : List Op :=
  .connect id { userID := u, mmr := 1000 } [.moving] :: commands 4 id now

/-- A pass over the queue of the moving ruleset, up to its `n`-th command. -/
def pass (n : ℕ) (now : ℤ) : List Op :=
  .matchmaking 1 .registered .moving 50 now :: List.replicate n (.pass 1 now)

/-- The user reloads the page: his old connection ends before the new one joins, which is matched. -/
def reloaded : List Op :=
  opens 1 "u1" 1000 ++ .connect 2 { userID := "u1", mmr := 1000 } [.moving] :: commands 2 2 2000 ++
    .hangUp 1 :: commands 1 1 2000 ++ commands 2 2 2000 ++ opens 3 "u2" 2000 ++ pass 5 5000

/-- The old connection ends after the new one has joined. -/
def closedLate : List Op :=
  opens 1 "u1" 1000 ++ opens 2 "u1" 2000 ++ .hangUp 1 :: commands 1 1 2000

/-- The old connection polls the match of the new one. -/
def polledByOld : List Op :=
  opens 1 "u1" 1000 ++ opens 2 "u1" 2000 ++ opens 3 "u2" 2000 ++ pass 5 5000 ++ commands 1 1 5000

/-- The match script has taken the user, and his match is not recorded yet. -/
def unrecorded : List Op := opens 1 "u1" 1000 ++ opens 2 "u2" 1000 ++ pass 4 5000

end Watch

end GeoDuels.MatchCoordinator
