import GeoDuels.MatchStore.Matchmaking

/-!
# What the commands of the queue do

The queue of one pool is seen through three predicates: a user is `Queued`, `Holds` a match, and every
ticket names its user (`Named`).  `Proc.run_spec` says for each command of a call what it does to
them; later modules never look into the scripts again.
-/

namespace GeoDuels.MatchStore

open Matching (Event)

@[simp] theorem normalizeRuleset_normalizeRuleset (r : GameRuleset) :
    normalizeRuleset (normalizeRuleset r) = normalizeRuleset r := by
  cases r <;> rfl

theorem normalizeRuleset_mem (r : GameRuleset) : normalizeRuleset r ∈ allQueueRulesets := by
  cases r <;> simp [normalizeRuleset, allQueueRulesets]

theorem normalizeRuleset_of_mem {r : GameRuleset} (h : r ∈ allQueueRulesets) :
    normalizeRuleset r = r := by
  rcases List.mem_pair.1 h with rfl | rfl <;> rfl

/-! ## Commands on one queue -/

/-- The queue lost members of its pool and tickets at most. -/
structure Queue.Shrinks (q q' : Queue) : Prop where
  pool : ∀ u ∈ q'.pool, u ∈ q.pool
  ticket : ∀ u t, q'.ticket.lookup u = some t → q.ticket.lookup u = some t
  matched : q'.matched = q.matched

namespace Queue

theorem mem_of_mem_erase {V : Type} {z : Assoc UserID V} {u v : UserID} (h : u ∈ z.erase v) :
    u ∈ z := (AList.mem_erase.1 h).2

theorem lookup_of_lookup_erase {V : Type} {z : Assoc UserID V} {u v : UserID} {x : V}
    (h : (z.erase v).lookup u = some x) : z.lookup u = some x := by
  rw [Assoc.lookup_erase] at h
  split_ifs at h
  exact h

theorem Shrinks.refl (q : Queue) : Shrinks q q := ⟨fun _ h => h, fun _ _ h => h, rfl⟩

theorem heartbeat_shrinks (q : Queue) (user : UserID) : Shrinks q (q.heartbeat user).2 := by
  unfold heartbeat
  by_cases hm : user ∈ q.matched
  · rw [if_pos hm]
    exact .refl q
  · by_cases hp : user ∈ q.pool
    · by_cases ht : user ∈ q.ticket
      · rw [if_neg hm, if_neg (not_not.2 hp), if_neg (not_not.2 ht)]
        exact .refl q
      · rw [if_neg hm, if_neg (not_not.2 hp), if_pos ht]
        exact ⟨fun _ => mem_of_mem_erase, fun _ _ h => h, rfl⟩
    · rw [if_neg hm, if_pos hp]
      exact ⟨fun _ h => h, fun _ _ => lookup_of_lookup_erase, rfl⟩

/-- The loop of the match script keeps the tickets, and the ticket it has chosen is the stored one. -/
structure Considered (q : Queue) (qb : Queue × Best) : Prop where
  pool : ∀ u ∈ qb.1.pool, u ∈ q.pool
  ticket : qb.1.ticket = q.ticket
  joined : qb.1.joined = q.joined
  matched : qb.1.matched = q.matched
  best : ∀ t, qb.2.ticket = some t → q.ticket.lookup qb.2.user = some t

theorem Considered.step {q : Queue} {qb : Queue × Best} (h : Considered q qb) (self : UserID)
    (selfMMR selfJoined now : ℤ) (c : UserID) :
    Considered q (considerCandidate self selfMMR selfJoined now qb c) := by
  obtain ⟨q', best⟩ := qb
  unfold considerCandidate
  dsimp only
  by_cases hc : c = self
  · rw [if_pos hc]
    exact h
  · rw [if_neg hc]
    cases hp : q'.pool.lookup c with
    | none => exact h
    | some score =>
        cases ht : q'.ticket.lookup c with
        | none =>
            exact ⟨fun u hu => h.pool u (mem_of_mem_erase hu), h.ticket, h.joined, h.matched, h.best⟩
        | some t =>
            dsimp only
            split_ifs
            · refine ⟨h.pool, h.ticket, h.joined, h.matched, fun t' ht' => ?_⟩
              rw [← h.ticket, ← ht']
              exact ht
            · exact h

theorem Considered.foldl {q : Queue} {qb : Queue × Best} (h : Considered q qb) (self : UserID)
    (selfMMR selfJoined now : ℤ) (cs : List UserID) :
    Considered q (cs.foldl (considerCandidate self selfMMR selfJoined now) qb) := by
  induction cs generalizing qb with
  | nil => exact h
  | cons c cs ih => exact ih (h.step self selfMMR selfJoined now c)

/-- `ZREM` of two members removes both exactly when both are in the set and they differ. -/
theorem removed_eq_two (z : Assoc UserID ℤ) (u v : UserID) :
    (if u ∈ z then 1 else 0) + (if v ∈ z.erase u then 1 else 0) = 2 ↔ u ∈ z ∧ v ∈ z.erase u := by
  by_cases hu : u ∈ z <;> by_cases hv : v ∈ z.erase u <;> simp [hu, hv]

/-- The match script drops users only, and the ticket it returns belongs to a member of the pool, as
its caller does. -/
theorem atomicMatch_spec (q : Queue) (self : UserID) (selfMMR now : ℤ) :
    Shrinks q (q.atomicMatch self selfMMR now).2 ∧
      ∀ t, (q.atomicMatch self selfMMR now).1 = some t →
        self ∈ q.pool ∧ ∃ c ∈ q.pool, q.ticket.lookup c = some t := by
  unfold atomicMatch
  dsimp only
  generalize hqb : List.foldl _ _ _ = qb
  have h : Considered q qb := by
    have hstart : Considered q (q, {}) := ⟨fun _ h => h, rfl, rfl, rfl, fun t ht => by cases ht⟩
    rw [← hqb]
    exact hstart.foldl ..
  have hpool : ∀ u ∈ (qb.1.pool.erase self).erase qb.2.user, u ∈ q.pool := fun u hu =>
    h.pool u (mem_of_mem_erase (mem_of_mem_erase hu))
  by_cases hbest : qb.2.user = ""
  · rw [if_pos hbest]
    exact ⟨⟨h.pool, fun u t ht => by rwa [h.ticket] at ht, h.matched⟩, fun t ht => by cases ht⟩
  · rw [if_neg hbest]
    simp only [removed_eq_two]
    by_cases hremoved : self ∈ qb.1.pool ∧ qb.2.user ∈ qb.1.pool.erase self
    · rw [if_pos hremoved]
      refine ⟨⟨hpool, fun u t ht => ?_, h.matched⟩, fun t ht => ?_⟩
      · rw [← h.ticket]
        exact lookup_of_lookup_erase (lookup_of_lookup_erase ht)
      · exact ⟨h.pool _ hremoved.1, qb.2.user, h.pool _ (mem_of_mem_erase hremoved.2), h.best t ht⟩
    · rw [if_neg hremoved]
      exact ⟨⟨hpool, fun u t ht => by rwa [h.ticket] at ht, h.matched⟩, fun t ht => by cases ht⟩

end Queue

/-! ## Commands on the store -/

namespace Store

theorem queue_update (s : Store) (p p' : QueuePool) (r r' : GameRuleset) (f : Queue → Queue) :
    (s.update p r f).queue p' r' =
      if p' = p ∧ normalizeRuleset r' = normalizeRuleset r then f (s.queue p' r')
      else s.queue p' r' := rfl

variable (pool : QueuePool)

theorem queue_join (s : Store) (r r' : GameRuleset) (req : QueueJoinRequest) (now : ℤ) :
    (s.join pool r req now).2.queue pool r' =
      if normalizeRuleset r' = normalizeRuleset r then
        (s.queue pool r').join (joinTicket r req now)
      else s.queue pool r' := by
  cases pool <;> simp [join, allQueuePools, allQueueRulesets, SProd.sprod, List.product, queue_update]

/-- The user waits in the queue of some ruleset. -/
def Queued (s : Store) (u : UserID) : Prop := ∃ r ∈ allQueueRulesets, u ∈ (s.queue pool r).pool

/-- The user has the match under one of his match keys. -/
def Holds (s : Store) (u : UserID) (m : MatchFound) : Prop :=
  ∃ r ∈ allQueueRulesets, (s.queue pool r).matched.lookup u = some m

/-- Every ticket is stored under its user. -/
def Named (s : Store) : Prop :=
  ∀ r ∈ allQueueRulesets, ∀ u t, (s.queue pool r).ticket.lookup u = some t → t.userID = u

/-- The queues lost members and tickets at most. -/
def Shrinks (s s' : Store) : Prop :=
  ∀ r ∈ allQueueRulesets, (s.queue pool r).Shrinks (s'.queue pool r)

variable {pool} {s s' : Store}

theorem Shrinks.refl (s : Store) : Shrinks pool s s := fun _ _ => .refl _

theorem shrinks_update {r : GameRuleset} {f : Queue → Queue}
    (h : (s.queue pool r).Shrinks (f (s.queue pool r))) : Shrinks pool s (s.update pool r f) := by
  intro r' _
  rw [queue_update]
  by_cases hr : normalizeRuleset r' = normalizeRuleset r
  · have hq : s.queue pool r' = s.queue pool r := congrArg (s.queues pool) hr
    rw [if_pos ⟨rfl, hr⟩, hq]
    exact h
  · rw [if_neg fun h => hr h.2]
    exact .refl _

theorem Shrinks.queued (h : Shrinks pool s s') {u : UserID} (hu : s'.Queued pool u) :
    s.Queued pool u := by
  obtain ⟨r, hr, hu⟩ := hu
  exact ⟨r, hr, (h r hr).pool u hu⟩

theorem Shrinks.holds (h : Shrinks pool s s') (u : UserID) (m : MatchFound) :
    s'.Holds pool u m ↔ s.Holds pool u m := by
  unfold Holds
  refine exists_congr fun r => and_congr_right fun hr => ?_
  rw [(h r hr).matched]

theorem Shrinks.named (h : Shrinks pool s s') (hs : s.Named pool) : s'.Named pool :=
  fun r hr u t ht => hs r hr u t ((h r hr).ticket u t ht)

/-! ### Joining -/

theorem queued_join {r : GameRuleset} {req : QueueJoinRequest} {now : ℤ} {u : UserID}
    (h : (s.join pool r req now).2.Queued pool u) : u = req.userID ∨ s.Queued pool u := by
  obtain ⟨r', hr', hu⟩ := h
  rw [queue_join] at hu
  split_ifs at hu
  · exact (AList.mem_insert _).1 hu |>.imp_right fun hu => ⟨r', hr', hu⟩
  · exact .inr ⟨r', hr', hu⟩

theorem holds_join (r : GameRuleset) (req : QueueJoinRequest) (now : ℤ) (u : UserID)
    (m : MatchFound) : (s.join pool r req now).2.Holds pool u m ↔ s.Holds pool u m := by
  unfold Holds
  refine exists_congr fun r' => and_congr_right fun _ => ?_
  rw [queue_join]
  split_ifs <;> rfl

theorem named_join (hs : s.Named pool) (r : GameRuleset) (req : QueueJoinRequest) (now : ℤ) :
    (s.join pool r req now).2.Named pool := by
  intro r' hr' u t ht
  rw [queue_join] at ht
  split_ifs at ht
  · rw [Queue.join, Assoc.lookup_insert] at ht
    split_ifs at ht with hu
    · rw [hu, ← Option.some.inj ht]
    · exact hs r' hr' u t ht
  · exact hs r' hr' u t ht

/-! ### Collecting a match -/

/-- The queue of `r` after `GETDEL` of the user's match key. -/
theorem queue_getDelMatch (r r' : GameRuleset) (u : UserID) :
    (s.update pool r fun _ => ((s.queue pool r).getDelMatch u).2).queue pool r' =
      if normalizeRuleset r' = normalizeRuleset r then
        { s.queue pool r with matched := (s.queue pool r).matched.erase u }
      else s.queue pool r' := by
  simp [queue_update, Queue.getDelMatch]

/-! ### Recording a match -/

theorem queue_recordMatch {r : GameRuleset} (hr : r ∈ allQueueRulesets) {r' : GameRuleset}
    (hr' : r' ∈ allQueueRulesets) (u v : UserID) (m : MatchFound) :
    (s.recordMatch pool r u v m).queue pool r' =
      { s.queue pool r' with
        pool := ((s.queue pool r').pool.erase u).erase v
        joined := ((s.queue pool r').joined.erase u).erase v
        ticket := ((s.queue pool r').ticket.erase u).erase v
        matched :=
          if r' = r then ((s.queue pool r').matched.insert u m).insert v m
          else ((s.queue pool r').matched.erase u).erase v } := by
  rcases List.mem_pair.1 hr with rfl | rfl <;> rcases List.mem_pair.1 hr' with rfl | rfl <;>
    simp [recordMatch, allQueueRulesets, SProd.sprod, List.product, queue_update,
      normalizeRuleset, Queue.clearMatched]

theorem queued_recordMatch {r : GameRuleset} (hr : r ∈ allQueueRulesets) {u v w : UserID}
    {m : MatchFound} (h : (s.recordMatch pool r u v m).Queued pool w) :
    s.Queued pool w ∧ w ∉ [u, v] := by
  obtain ⟨r', hr', hw⟩ := h
  rw [queue_recordMatch hr hr'] at hw
  dsimp only at hw
  rw [AList.mem_erase, AList.mem_erase] at hw
  refine ⟨⟨r', hr', hw.2.2⟩, ?_⟩
  simp [hw.1, hw.2.1]

theorem holds_recordMatch {r : GameRuleset} (hr : r ∈ allQueueRulesets) (u v w : UserID)
    (m m' : MatchFound) : (s.recordMatch pool r u v m).Holds pool w m' ↔
      if w ∈ [u, v] then m' = m else s.Holds pool w m' := by
  have hlookup : ∀ r' ∈ allQueueRulesets,
      ((s.recordMatch pool r u v m).queue pool r').matched.lookup w =
        if w ∈ [u, v] then if r' = r then some m else none
        else (s.queue pool r').matched.lookup w := by
    intro r' hr'
    rw [queue_recordMatch hr hr']
    dsimp only
    by_cases hrr : r' = r <;> by_cases hv : w = v <;> by_cases hu : w = u <;>
      simp [hrr, hv, hu, Assoc.lookup_insert, Assoc.lookup_erase]
  unfold Holds
  by_cases hw : w ∈ [u, v]
  · rw [if_pos hw]
    constructor
    · rintro ⟨r', hr', hm⟩
      rw [hlookup r' hr', if_pos hw] at hm
      split_ifs at hm
      exact (Option.some.inj hm).symm
    · rintro rfl
      exact ⟨r, hr, by rw [hlookup r hr, if_pos hw, if_pos rfl]⟩
  · rw [if_neg hw]
    refine exists_congr fun r' => and_congr_right fun hr' => ?_
    rw [hlookup r' hr', if_neg hw]

theorem named_recordMatch (hs : s.Named pool) {r : GameRuleset} (hr : r ∈ allQueueRulesets)
    (u v : UserID) (m : MatchFound) : (s.recordMatch pool r u v m).Named pool := by
  intro r' hr' w t ht
  rw [queue_recordMatch hr hr'] at ht
  exact hs r' hr' w t (Queue.lookup_of_lookup_erase (Queue.lookup_of_lookup_erase ht))

end Store

/-! ## The commands of a call -/

/-- The two users whom the match script has taken and the result pipeline has still to record. -/
def Proc.pair : Proc → List UserID
  | .pass _ _ _ (.record userID _ opponent _ _) => [userID, opponent.userID]
  | _ => []

/-- The tickets that a pass has read are those of the users it read them for. -/
def PassAt.Named : PassAt → Prop
  | .script userID self _ _ | .record userID self _ _ _ => self.userID = userID
  | _ => True

def Proc.Named : Proc → Prop
  | .pass ruleset _ _ at_ => ruleset ∈ allQueueRulesets ∧ at_.Named
  | _ => True

namespace Outcome

def pair : Outcome → List UserID
  | .inl p => p.pair
  | .inr _ => []

def Named : Outcome → Prop
  | .inl p => p.Named
  | .inr _ => True

/-- The match that `Poll` returns with the outcome. -/
def found : Outcome → Option (UserID × MatchFound)
  | .inr (.polled userID (some m)) => some (userID, m)
  | _ => none

end Outcome

theorem loop_pair (r : GameRuleset) (limit : ℤ) (owner : String) (n : ℕ) (users : List UserID) :
    (Proc.pass r limit owner (.loop limit n users)).pair = [] := by
  unfold PassAt.loop
  cases users with
  | nil => rfl
  | cons u users =>
      dsimp only
      split_ifs <;> rfl

theorem loop_named (limit : ℤ) (n : ℕ) (users : List UserID) : (PassAt.loop limit n users).Named := by
  unfold PassAt.loop
  cases users with
  | nil => trivial
  | cons u users =>
      dsimp only
      split_ifs <;> trivial

variable {pool : QueuePool}

/-- What a command of the call `p` does to the store `s`, with the outcome `o`: it drops users and
takes a pair that was queued (`take`, mostly of nobody), it records the pair of the call, or it
collects a match. -/
inductive Ran (pool : QueuePool) (s : Store) (p : Proc) (o : Outcome) (s' : Store) : Prop
  | take (idle : p.pair = []) (queued : ∀ u ∈ o.pair, s.Queued pool u) (found : o.found = none)
      (shrinks : s.Shrinks pool s')
  | deliver (m : MatchFound) (players : ∀ u, u ∈ m.players ↔ u ∈ p.pair)
      (config : normalizeMatchConfig m.config = m.config) (idle : o.pair = [])
      (found : o.found = none) (queued : ∀ u, s'.Queued pool u → s.Queued pool u ∧ u ∉ p.pair)
      (holds : ∀ v m', s'.Holds pool v m' ↔ if v ∈ p.pair then m' = m else s.Holds pool v m')
      (named : s'.Named pool)
  | collect (u : UserID) (m : MatchFound) (idle : p.pair = []) (idle' : o.pair = [])
      (found : o.found = some (u, { m with config := normalizeMatchConfig m.config }))
      (mem : s.Holds pool u m) (queued : ∀ v, s'.Queued pool v → s.Queued pool v)
      (holds : ∀ v m', s'.Holds pool v m' → s.Holds pool v m')
      (kept : ∀ v m', s.Holds pool v m' → s'.Holds pool v m' ∨ v = u ∧ m' = m)
      (named : s'.Named pool)

/-- A command that drops users at most and leaves no pair to record. -/
theorem Ran.quiet {s s' : Store} {p : Proc} {o : Outcome} (idle : p.pair = []) (idle' : o.pair = [])
    (found : o.found = none) (shrinks : s.Shrinks pool s') : Ran pool s p o s' :=
  .take idle (by rw [idle']; exact fun u hu => absurd hu List.not_mem_nil) found shrinks

theorem config_matchFromTickets (opponent self : Ticket) (now : ℤ) :
    normalizeMatchConfig (matchFromTickets opponent self now).config =
      (matchFromTickets opponent self now).config := by
  show normalizeMatchConfig (normalizeMatchConfig ⟨normalizeRuleset self.ruleset, _, _, _, _⟩) =
    normalizeMatchConfig ⟨normalizeRuleset self.ruleset, _, _, _, _⟩
  rcases List.mem_pair.1 (normalizeRuleset_mem self.ruleset) with h | h <;> rw [h] <;> decide

/-- A pass that goes on is a pass. -/
theorem runPass_goesOn {s : Store} {r : GameRuleset} {limit : ℤ} {owner : String} {now : ℤ}
    {at_ : PassAt} {p : Proc} (h : (runPass pool s r limit owner now at_).1 = .inl p) :
    ∃ at', p = .pass r limit owner at' := by
  unfold runPass at h
  cases at_ with
  | lock =>
      dsimp only at h
      split at h
      · cases h
      · exact ⟨_, (Sum.inl.inj h).symm⟩
  | get v users n =>
      dsimp only at h
      split at h
      · exact ⟨_, (Sum.inl.inj h).symm⟩
      · exact ⟨_, (Sum.inl.inj h).symm⟩
  | list | dropPool v users n | dropJoined v users n | record v self opponent users n =>
      exact ⟨_, (Sum.inl.inj h).symm⟩
  | script v self users n =>
      dsimp only at h
      split at h
      · exact ⟨_, (Sum.inl.inj h).symm⟩
      · split_ifs at h
        · exact ⟨_, (Sum.inl.inj h).symm⟩
        · exact ⟨_, (Sum.inl.inj h).symm⟩
  | release n => cases h

theorem runPass_spec {s : Store} {r : GameRuleset} (hr : r ∈ allQueueRulesets)
    (hs : s.Named pool) (limit : ℤ) (owner : String) (now : ℤ) {at_ : PassAt} (hat : at_.Named) :
    Ran pool s (.pass r limit owner at_) (runPass pool s r limit owner now at_).1
        (runPass pool s r limit owner now at_).2 ∧
      (runPass pool s r limit owner now at_).1.Named := by
  cases at_ with
  | lock =>
      unfold runPass
      dsimp only
      cases (s.queue pool r).matcherLock with
      | none =>
          dsimp only
          refine ⟨.quiet rfl rfl rfl ?_, hr, trivial⟩
          apply Store.shrinks_update
          exact ⟨fun _ h => h, fun _ _ h => h, rfl⟩
      | some _ => exact ⟨.quiet rfl rfl rfl (.refl s), trivial⟩
  | list => exact ⟨.quiet rfl (loop_pair ..) rfl (.refl s), hr, loop_named ..⟩
  | get u users n =>
      unfold runPass
      dsimp only
      cases ht : (s.queue pool r).ticket.lookup u with
      | none => exact ⟨.quiet rfl rfl rfl (.refl s), hr, trivial⟩
      | some self => exact ⟨.quiet rfl rfl rfl (.refl s), hr, hs r hr u self ht⟩
  | dropPool u users n =>
      unfold runPass
      dsimp only
      refine ⟨.quiet rfl rfl rfl ?_, hr, trivial⟩
      apply Store.shrinks_update
      exact ⟨fun _ => Queue.mem_of_mem_erase, fun _ _ h => h, rfl⟩
  | dropJoined u users n =>
      unfold runPass
      dsimp only
      refine ⟨.quiet rfl (loop_pair ..) rfl ?_, hr, loop_named ..⟩
      apply Store.shrinks_update
      exact ⟨fun _ h => h, fun _ _ h => h, rfl⟩
  | script u self users n =>
      obtain ⟨hshrinks, hpair⟩ := Queue.atomicMatch_spec (s.queue pool r) u self.mmr now
      have hstore := Store.shrinks_update (s := s) (f := fun _ =>
        ((s.queue pool r).atomicMatch u self.mmr now).2) hshrinks
      unfold runPass
      dsimp only
      cases ht : ((s.queue pool r).atomicMatch u self.mmr now).1 with
      | none => exact ⟨.quiet rfl (loop_pair ..) rfl hstore, hr, loop_named ..⟩
      | some opponent =>
          dsimp only
          by_cases hempty : opponent.userID = ""
          · rw [if_pos hempty]
            exact ⟨.quiet rfl (loop_pair ..) rfl hstore, hr, loop_named ..⟩
          · rw [if_neg hempty]
            obtain ⟨hself, c, hc, hticket⟩ := hpair opponent ht
            have hname : opponent.userID = c := hs r hr c opponent hticket
            refine ⟨.take rfl (fun v hv => ?_) rfl hstore, hr, hat⟩
            rcases List.mem_pair.1 hv with rfl | rfl
            · exact ⟨r, hr, hself⟩
            · exact ⟨r, hr, by rwa [hname]⟩
  | record u self opponent users n =>
      have hself : self.userID = u := hat
      refine ⟨.deliver (matchFromTickets opponent self now) (fun v => ?_)
        (config_matchFromTickets ..) (loop_pair ..) rfl (fun v hv => Store.queued_recordMatch hr hv)
        (fun v m' => Store.holds_recordMatch hr u opponent.userID v _ m')
        (Store.named_recordMatch hs hr u _ _), hr, loop_named ..⟩
      show v ∈ [opponent.userID, self.userID] ↔ v ∈ [u, opponent.userID]
      rw [hself, List.mem_pair, List.mem_pair, or_comm]
  | release n =>
      unfold runPass
      dsimp only
      refine ⟨.quiet rfl rfl rfl ?_, trivial⟩
      apply Store.shrinks_update
      split_ifs
      · exact ⟨fun _ h => h, fun _ _ h => h, rfl⟩
      · exact .refl _

theorem collect_spec {s : Store} (hs : s.Named pool) (r : GameRuleset)
    (rulesets : List GameRuleset) (u : UserID) {m : MatchFound}
    (hm : (s.queue pool r).matched.lookup u = some m) :
    Ran pool s (.poll u (r :: rulesets))
      (.inr (.polled u (some { m with config := normalizeMatchConfig m.config })))
      (s.update pool r fun _ => ((s.queue pool r).getDelMatch u).2) := by
  have hqueue (r' : GameRuleset) := @Store.queue_getDelMatch pool s r r' u
  have hsame {r' : GameRuleset} (h : normalizeRuleset r' = normalizeRuleset r) :
      s.queue pool r' = s.queue pool r := congrArg (s.queues pool) h
  refine .collect u m rfl rfl rfl
    ⟨normalizeRuleset r, normalizeRuleset_mem r, by rwa [hsame (normalizeRuleset_normalizeRuleset r)]⟩
    ?_ ?_ ?_ ?_
  · rintro v ⟨r', hr', hv⟩
    rw [hqueue] at hv
    split_ifs at hv with h
    · exact ⟨r', hr', by rwa [hsame h]⟩
    · exact ⟨r', hr', hv⟩
  · rintro v m' ⟨r', hr', hv⟩
    rw [hqueue] at hv
    split_ifs at hv with h
    · exact ⟨r', hr', by rw [hsame h]; exact Queue.lookup_of_lookup_erase hv⟩
    · exact ⟨r', hr', hv⟩
  · rintro v m' ⟨r', hr', hv⟩
    by_cases h : normalizeRuleset r' = normalizeRuleset r
    · rw [hsame h] at hv
      by_cases hvu : v = u
      · subst hvu
        exact .inr ⟨rfl, Option.some.inj (hv.symm.trans hm)⟩
      · refine .inl ⟨r', hr', ?_⟩
        rw [hqueue, if_pos h]
        dsimp only
        rwa [Assoc.lookup_erase, if_neg hvu]
    · exact .inl ⟨r', hr', by rwa [hqueue, if_neg h]⟩
  · intro r' hr' v t ht
    rw [hqueue] at ht
    split_ifs at ht with h
    · exact hs r' hr' v t (by rwa [hsame h])
    · exact hs r' hr' v t ht

/-- What the next command of a call does. -/
theorem Proc.run_spec {s : Store} {p : Proc} (hs : s.Named pool) (hp : p.Named) (now : ℤ) :
    Ran pool s p (p.run pool s now).1 (p.run pool s now).2 ∧ (p.run pool s now).1.Named := by
  cases p with
  | heartbeat u rulesets any =>
      cases rulesets with
      | nil => exact ⟨.quiet rfl rfl rfl (.refl s), trivial⟩
      | cons r rulesets =>
          have hshrinks := Store.shrinks_update (s := s) (f := fun _ =>
            ((s.queue pool r).heartbeat u).2) ((s.queue pool r).heartbeat_shrinks u)
          unfold Proc.run
          dsimp only
          cases ((s.queue pool r).heartbeat u).1 with
          | missing | queueing | matched => exact ⟨.quiet rfl rfl rfl hshrinks, trivial⟩
  | poll u rulesets =>
      cases rulesets with
      | nil => exact ⟨.quiet rfl rfl rfl (.refl s), trivial⟩
      | cons r rulesets =>
          unfold Proc.run
          dsimp only
          cases hm : ((s.queue pool r).getDelMatch u).1 with
          | none =>
              dsimp only
              refine ⟨.quiet rfl rfl rfl ?_, trivial⟩
              apply Store.shrinks_update
              exact ⟨fun _ h => h, fun _ _ h => h, Assoc.erase_of_lookup_none hm⟩
          | some m => exact ⟨collect_spec hs r rulesets u hm, trivial⟩
  | pass r limit owner at_ => exact runPass_spec hp.1 hs limit owner now hp.2

end GeoDuels.MatchStore
