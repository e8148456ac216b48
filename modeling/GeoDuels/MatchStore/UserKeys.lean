import GeoDuels.MatchStore.Waiting

/-!
# The keys of one user

The commands that are sent for one user touch his keys only (`Touches`), and what a command leaves him
in one pool is seen through two predicates: he `Waits` in a queue, and he `HasMatch` under one of his
match keys (`Spares`).  The match script is the exception: it looks at all users, and takes two.
-/

namespace GeoDuels.MatchStore

/-- The keys of everybody but `v` are the same, and a new ticket of `v` is his. -/
structure Queue.Touches (v : UserID) (q q' : Queue) : Prop where
  ticket : ∀ u, u ≠ v → q'.ticket.lookup u = q.ticket.lookup u
  pool : ∀ u, u ≠ v → q'.pool.lookup u = q.pool.lookup u
  joined : ∀ u, u ≠ v → q'.joined.lookup u = q.joined.lookup u
  matched : ∀ u, u ≠ v → q'.matched.lookup u = q.matched.lookup u
  own : ∀ t, q'.ticket.lookup v = some t → q.ticket.lookup v = some t ∨ t.userID = v

namespace Queue

variable {q q' : Queue} {u v : UserID}

theorem Touches.refl (v : UserID) (q : Queue) : Touches v q q :=
  ⟨fun _ _ => rfl, fun _ _ => rfl, fun _ _ => rfl, fun _ _ => rfl, fun _ ht => .inl ht⟩

theorem Touches.trans {q'' : Queue} (h : Touches v q q') (h' : Touches v q' q'') :
    Touches v q q'' where
  ticket u hu := (h'.ticket u hu).trans (h.ticket u hu)
  pool u hu := (h'.pool u hu).trans (h.pool u hu)
  joined u hu := (h'.joined u hu).trans (h.joined u hu)
  matched u hu := (h'.matched u hu).trans (h.matched u hu)
  own t ht := (h'.own t ht).elim (h.own t) .inr

theorem lookup_erase_of_ne {V : Type} (z : Assoc UserID V) (h : u ≠ v) :
    (z.erase v).lookup u = z.lookup u := by
  rw [Assoc.lookup_erase, if_neg h]

theorem touches_leave (q : Queue) (v : UserID) : Touches v q (q.leave v) where
  ticket _ := lookup_erase_of_ne _
  pool _ := lookup_erase_of_ne _
  joined _ := lookup_erase_of_ne _
  matched _ := lookup_erase_of_ne _
  own _ ht := .inl (lookup_of_lookup_erase ht)

theorem touches_join (q : Queue) (t : Ticket) : Touches t.userID q (q.join t) where
  ticket u hu := by rw [Queue.join, Assoc.lookup_insert, if_neg hu]
  pool u hu := by rw [Queue.join, Assoc.lookup_insert, if_neg hu]
  joined u hu := by rw [Queue.join, Assoc.lookup_insert, if_neg hu]
  matched _ _ := rfl
  own t' ht := by
    rw [Queue.join, Assoc.lookup_insert, if_pos rfl] at ht
    rw [← Option.some.inj ht]
    exact .inr rfl

theorem touches_heartbeat (q : Queue) (v : UserID) : Touches v q (q.heartbeat v).2 := by
  unfold heartbeat
  by_cases hm : v ∈ q.matched
  · rw [if_pos hm]
    exact .refl v q
  · by_cases hp : v ∈ q.pool
    · by_cases ht : v ∈ q.ticket
      · rw [if_neg hm, if_neg (not_not.2 hp), if_neg (not_not.2 ht)]
        exact .refl v q
      · rw [if_neg hm, if_neg (not_not.2 hp), if_pos ht]
        exact ⟨fun _ _ => rfl, fun _ => lookup_erase_of_ne _, fun _ => lookup_erase_of_ne _,
          fun _ _ => rfl, fun t ht => .inl ht⟩
    · rw [if_neg hm, if_pos hp]
      exact ⟨fun _ => lookup_erase_of_ne _, fun _ _ => rfl, fun _ => lookup_erase_of_ne _,
        fun _ _ => rfl, fun _ ht => .inl (lookup_of_lookup_erase ht)⟩

theorem touches_getDelMatch (q : Queue) (v : UserID) : Touches v q (q.getDelMatch v).2 :=
  ⟨fun _ _ => rfl, fun _ _ => rfl, fun _ _ => rfl, fun _ => lookup_erase_of_ne _,
    fun _ ht => .inl ht⟩

end Queue

namespace Store

/-- Only the keys of `v` are touched. -/
def Touches (v : UserID) (s s' : Store) : Prop :=
  ∀ pool r, (s.queue pool r).Touches v (s'.queue pool r)

variable {s s' : Store} {u v : UserID}

theorem Touches.refl (v : UserID) (s : Store) : s.Touches v s := fun _ _ => .refl v _

theorem Touches.trans {s'' : Store} (h : s.Touches v s') (h' : s'.Touches v s'') : s.Touches v s'' :=
  fun pool r => (h pool r).trans (h' pool r)

theorem touches_update {pool : QueuePool} {r : GameRuleset} {f : Queue → Queue}
    (h : (s.queue pool r).Touches v (f (s.queue pool r))) : s.Touches v (s.update pool r f) := by
  intro pool' r'
  rw [queue_update]
  split_ifs with heq
  · obtain ⟨rfl, hr⟩ := heq
    have hq : s.queue pool' r' = s.queue pool' r := congrArg (s.queues pool') hr
    rwa [hq]
  · exact .refl v _

theorem touches_foldl {α : Type} {f : Store → α → Store} (h : ∀ s a, Touches v s (f s a))
    (as : List α) (s : Store) : s.Touches v (as.foldl f s) := by
  induction as generalizing s with
  | nil => exact .refl v s
  | cons a as ih => exact (h s a).trans (ih _)

theorem touches_leave (s : Store) (pool : QueuePool) (rulesets : List GameRuleset) (v : UserID) :
    s.Touches v (s.leave pool rulesets v) := by
  apply touches_foldl
  intro s r
  apply touches_update
  exact Queue.touches_leave _ v

theorem touches_join (s : Store) (pool : QueuePool) (r : GameRuleset) (req : QueueJoinRequest)
    (now : ℤ) : s.Touches req.userID (s.join pool r req now).2 := by
  have hleave : ∀ (s : Store) (c : QueuePool × GameRuleset),
      Touches req.userID s (s.update c.1 c.2 (·.leave req.userID)) := by
    intro s c
    apply touches_update
    exact Queue.touches_leave _ req.userID
  unfold join
  dsimp only
  refine (touches_foldl hleave ((allQueuePools.filter (· ≠ pool)) ×ˢ allQueueRulesets) s).trans ?_
  apply touches_update
  exact Queue.touches_join _ (joinTicket r req now)

theorem Touches.named (h : s.Touches v s') {pool : QueuePool} (hs : s.Named pool) :
    s'.Named pool := by
  intro r hr u t ht
  by_cases hu : u = v
  · subst hu
    exact ((h pool r).own t ht).elim (hs r hr u t) id
  · rw [(h pool r).ticket u hu] at ht
    exact hs r hr u t ht

end Store

/-! ## What is left to a user -/

/-- The user has a match that names him under one of his match keys of the pool. -/
def HasMatch (s : Store) (pool : QueuePool) (u : UserID) : Prop :=
  ∃ r ∈ allQueueRulesets, ∃ m ∈ (s.queue pool r).matched.lookup u, u ∈ m.players

instance (s : Store) (pool : QueuePool) (u : UserID) : Decidable (HasMatch s pool u) :=
  inferInstanceAs (Decidable (∃ r ∈ allQueueRulesets, _))

/-- The user has a ticket and both memberships in the queue of the ruleset. -/
def Waits (s : Store) (pool : QueuePool) (u : UserID) (r : GameRuleset) : Prop :=
  Waiting.InQueue (s.queue pool r) u

instance (s : Store) (pool : QueuePool) (u : UserID) (r : GameRuleset) :
    Decidable (Waits s pool u r) :=
  inferInstanceAs (Decidable (Waiting.InQueue _ u))

/-- The user waits where he has waited, and has a match if he had one. -/
structure Spares (pool : QueuePool) (u : UserID) (s s' : Store) : Prop where
  waits : ∀ r, Waits s pool u r → Waits s' pool u r
  matched : HasMatch s pool u → HasMatch s' pool u

variable {pool : QueuePool} {s s' : Store} {u v : UserID}

theorem mem_congr {V : Type} {z z' : Assoc UserID V} (h : z'.lookup u = z.lookup u) :
    u ∈ z' ↔ u ∈ z := by
  rw [← AList.lookup_isSome, h, AList.lookup_isSome]

theorem Spares.refl (pool : QueuePool) (u : UserID) (s : Store) : Spares pool u s s :=
  ⟨fun _ h => h, id⟩

theorem Spares.trans {s'' : Store} (h : Spares pool u s s') (h' : Spares pool u s' s'') :
    Spares pool u s s'' :=
  ⟨fun r hw => h'.waits r (h.waits r hw), h'.matched ∘ h.matched⟩

/-- The user's keys in the pool are the same. -/
theorem spares_of_same (h : ∀ r, (s'.queue pool r).ticket.lookup u = (s.queue pool r).ticket.lookup u ∧
      (s'.queue pool r).pool.lookup u = (s.queue pool r).pool.lookup u ∧
      (s'.queue pool r).joined.lookup u = (s.queue pool r).joined.lookup u ∧
      (s'.queue pool r).matched.lookup u = (s.queue pool r).matched.lookup u) :
    Spares pool u s s' where
  waits r hw := by
    obtain ⟨ht, hp, hj, -⟩ := h r
    exact ⟨(mem_congr ht).2 hw.1, (mem_congr hp).2 hw.2.1, (mem_congr hj).2 hw.2.2⟩
  matched hm := by
    obtain ⟨r, hr, m, hm, hu⟩ := hm
    exact ⟨r, hr, m, (h r).2.2.2.trans hm, hu⟩

/-- A command for somebody else. -/
theorem Store.Touches.spares (h : s.Touches v s') (hu : u ≠ v) : Spares pool u s s' :=
  spares_of_same fun r => ⟨(h pool r).ticket u hu, (h pool r).pool u hu, (h pool r).joined u hu,
    (h pool r).matched u hu⟩

theorem spares_leave_of_ne (s : Store) (pool' : QueuePool) (rulesets : List GameRuleset) (hu : u ≠ v) :
    Spares pool u s (s.leave pool' rulesets v) :=
  Store.Touches.spares (s.touches_leave pool' rulesets v) hu

theorem spares_join_of_ne (s : Store) (pool' : QueuePool) (r : GameRuleset) {req : QueueJoinRequest}
    (now : ℤ) (hu : u ≠ req.userID) : Spares pool u s (s.join pool' r req now).2 :=
  Store.Touches.spares (s.touches_join pool' r req now) hu

/-- A command on one queue. -/
theorem spares_update {pool' : QueuePool} {r : GameRuleset} {f : Queue → Queue}
    (hwaits : pool = pool' → Waits s pool' u r → Waiting.InQueue (f (s.queue pool' r)) u)
    (hmatched : pool = pool' →
      (f (s.queue pool' r)).matched.lookup u = (s.queue pool' r).matched.lookup u) :
    Spares pool u s (s.update pool' r f) := by
  have hqueue : ∀ r', pool = pool' → normalizeRuleset r' = normalizeRuleset r →
      s.queue pool r' = s.queue pool' r := fun r' hpool hr => by
    rw [hpool]
    exact congrArg (s.queues pool') hr
  constructor
  · intro r' hw
    unfold Waits at hw ⊢
    rw [Store.queue_update]
    split_ifs with heq
    · rw [hqueue r' heq.1 heq.2] at hw ⊢
      exact hwaits heq.1 hw
    · exact hw
  · rintro ⟨r', hr', m, hm, hu⟩
    refine ⟨r', hr', m, ?_, hu⟩
    rw [Store.queue_update]
    split_ifs with heq
    · rw [hqueue r' heq.1 heq.2] at hm ⊢
      exact (hmatched heq.1).trans hm
    · exact hm

/-! ### His own commands -/

/-- A clean-up of keys that are not there. -/
theorem spares_leave {pool' : QueuePool} {rulesets : List GameRuleset}
    (h : pool = pool' → ∀ r ∈ normalizedRulesets rulesets,
      u ∉ (s.queue pool r).ticket ∧ u ∉ (s.queue pool r).matched) :
    Spares pool u s (s.leave pool' rulesets u) := by
  unfold Store.leave
  generalize normalizedRulesets rulesets = rs at h
  induction rs generalizing s with
  | nil => exact .refl pool u s
  | cons r rs ih =>
      have hstep : Spares pool u s (s.update pool' r (·.leave u)) := by
        refine spares_update (fun hpool hw => ?_) fun hpool => ?_
        · subst hpool
          exact absurd hw.1 (h rfl r List.mem_cons_self).1
        · subst hpool
          exact congrArg (AList.lookup u)
            (Assoc.erase_of_lookup_none (AList.lookup_eq_none.2 (h rfl r List.mem_cons_self).2))
      refine hstep.trans (ih fun hpool r' hr' => ?_)
      subst hpool
      obtain ⟨ht, hm⟩ := h rfl r' (List.mem_cons_of_mem r hr')
      rw [Store.queue_update]
      split_ifs
      · exact ⟨fun hmem => ht (AList.mem_erase.1 hmem).2, fun hmem => hm (AList.mem_erase.1 hmem).2⟩
      · exact ⟨ht, hm⟩

/-- The user waits in the queue that he joins, and stays where he waits in its pool. -/
theorem waits_join {r r' : GameRuleset} {req : QueueJoinRequest} (now : ℤ)
    (h : normalizeRuleset r' = normalizeRuleset r ∨ Waits s pool req.userID r') :
    Waits (s.join pool r req now).2 pool req.userID r' := by
  unfold Waits
  rw [Store.queue_join]
  split_ifs with hr
  · exact ⟨(AList.mem_insert _).2 (.inl rfl), (AList.mem_insert _).2 (.inl rfl),
      (AList.mem_insert _).2 (.inl rfl)⟩
  · exact h.resolve_left hr

theorem hasMatch_join {r : GameRuleset} {req : QueueJoinRequest} (now : ℤ) (h : HasMatch s pool u) :
    HasMatch (s.join pool r req now).2 pool u := by
  obtain ⟨r', hr', m, hm, hu⟩ := h
  refine ⟨r', hr', m, ?_, hu⟩
  rw [Store.queue_join]
  split_ifs
  · exact hm
  · exact hm

/-- A heartbeat removes nothing of a user who is in the queue. -/
theorem spares_heartbeat (s : Store) (pool pool' : QueuePool) (r : GameRuleset) (u v : UserID) :
    Spares pool u s (s.update pool' r fun _ => ((s.queue pool' r).heartbeat v).2) := by
  by_cases hu : u = v
  · subst hu
    refine spares_update (fun _ hw => ?_) fun _ => by rw [((s.queue pool' r).heartbeat_shrinks u).matched]
    obtain ⟨ht, hp, hj⟩ := hw
    unfold Queue.heartbeat
    split_ifs
    · exact ⟨ht, hp, hj⟩
    · exact ⟨ht, hp, hj⟩
  · exact (Store.touches_update (Queue.touches_heartbeat _ v)).spares hu

/-- `GETDEL` of a match key that is not there, or of somebody else's. -/
theorem spares_getDelMatch {pool' : QueuePool} {r : GameRuleset}
    (h : u = v → pool = pool' → u ∉ (s.queue pool r).matched) :
    Spares pool u s (s.update pool' r fun _ => ((s.queue pool' r).getDelMatch v).2) := by
  by_cases hu : u = v
  · subst hu
    refine spares_update (fun _ hw => hw) fun hpool => ?_
    subst hpool
    exact congrArg (AList.lookup u)
      (Assoc.erase_of_lookup_none (AList.lookup_eq_none.2 (h rfl rfl)))
  · exact (Store.touches_update (Queue.touches_getDelMatch _ v)).spares hu

/-! ### Passes -/

/-- The next command of a pass leaves the user where he is: a clean-up is for somebody without a ticket,
and the match script finds the user only for somebody who is in the pool. -/
def PassAt.Sparing (q : Queue) (u : UserID) (now : ℤ) : PassAt → Prop
  | .dropPool v _ _ | .dropJoined v _ _ => v = u → u ∉ q.ticket
  | .script v self _ _ => q.partner v self.mmr now = some u → v ∈ q.pool
  | _ => True

instance (q : Queue) (u : UserID) (now : ℤ) : ∀ at_ : PassAt, Decidable (at_.Sparing q u now)
  | .dropPool .. | .dropJoined .. => inferInstanceAs (Decidable (_ → _))
  | .script .. => inferInstanceAs (Decidable (_ → _))
  | .lock | .list | .get .. | .record .. | .release .. => .isTrue trivial

/-- A pass works on the queues of its pool only. -/
theorem runPass_queue_ne {pool' : QueuePool} (h : pool ≠ pool') (r : GameRuleset) (limit : ℤ)
    (owner : String) (now : ℤ) (at_ : PassAt) (r' : GameRuleset) :
    (runPass pool' s r limit owner now at_).2.queue pool r' = s.queue pool r' := by
  have hupdate : ∀ (s : Store) (r : GameRuleset) (f : Queue → Queue),
      (s.update pool' r f).queue pool r' = s.queue pool r' := fun s r f => by
    rw [Store.queue_update, if_neg fun heq => h heq.1]
  cases at_ with
  | lock =>
      unfold runPass
      dsimp only
      cases (s.queue pool' r).matcherLock with
      | none => dsimp only; apply hupdate
      | some _ => rfl
  | list => rfl
  | get v users n =>
      unfold runPass
      dsimp only
      cases (s.queue pool' r).ticket.lookup v with
      | none => rfl
      | some self => rfl
  | dropPool v users n | dropJoined v users n | release n =>
      unfold runPass
      dsimp only
      apply hupdate
  | script v self users n =>
      unfold runPass
      dsimp only
      split
      · dsimp only
        apply hupdate
      · split_ifs
        · dsimp only
          apply hupdate
        · dsimp only
          apply hupdate
  | record v self opponent users n =>
      unfold runPass Store.recordMatch
      dsimp only
      generalize allQueueRulesets ×ˢ [v, opponent.userID] = cs
      induction cs using List.reverseRecOn with
      | nil => apply hupdate
      | append_singleton cs c ih =>
          rw [List.foldl_append, List.foldl_cons, List.foldl_nil, hupdate]
          exact ih

/-- The match script takes the user with his ticket, or leaves him where he waits. -/
theorem waits_atomicMatch {q : Queue} {self : UserID} {selfMMR now : ℤ}
    (hfound : q.partner self selfMMR now = some u → self ∈ q.pool) (hw : Waiting.InQueue q u) :
    Waiting.InQueue (q.atomicMatch self selfMMR now).2 u ∨
      ∃ c t, (q.atomicMatch self selfMMR now).1 = some t ∧ q.ticket.lookup c = some t ∧ c ≠ "" ∧
        u ∈ [self, c] := by
  obtain ⟨ht, hp, hj⟩ := hw
  have hswept : u ∈ q.swept self (q.candidates selfMMR) := by
    rw [← AList.lookup_isSome, Queue.lookup_swept_of_mem _ ht, AList.lookup_isSome]
    exact hp
  rw [Queue.atomicMatch_eq]
  cases hpartner : q.partner self selfMMR now with
  | none => exact .inl ⟨ht, hswept, hj⟩
  | some c =>
      obtain ⟨-, -, t, hc, -⟩ := Queue.eligible_of_partner hpartner
      dsimp only
      by_cases hempty : c = ""
      · rw [if_pos hempty]
        exact .inl ⟨ht, hswept, hj⟩
      · rw [if_neg hempty]
        by_cases hu : u ∈ [self, c]
        · have hself : self ∈ q.pool := by
            rcases List.mem_pair.1 hu with rfl | rfl
            · exact hp
            · exact hfound hpartner
          rw [if_pos hself, hc]
          exact .inr ⟨c, t, rfl, hc, hempty, hu⟩
        · have hne : u ≠ c ∧ u ≠ self := by
            rw [List.mem_pair, not_or] at hu
            exact ⟨hu.2, hu.1⟩
          refine .inl ?_
          split_ifs
          · exact ⟨by simp [hne, ht], by simp [hne, hswept], by simp [hne, hj]⟩
          · exact ⟨ht, by simp [hne, hswept], hj⟩

theorem hasMatch_iff : HasMatch s pool u ↔ ∃ m, s.Holds pool u m ∧ u ∈ m.players := by
  constructor
  · rintro ⟨r, hr, m, hm, hu⟩
    exact ⟨m, ⟨r, hr, hm⟩, hu⟩
  · rintro ⟨m, ⟨r, hr, hm⟩, hu⟩
    exact ⟨r, hr, m, hm, hu⟩

theorem spares_recordMatch {r : GameRuleset} (hr : r ∈ allQueueRulesets) {v w : UserID}
    (m : MatchFound) (hu : u ∉ [v, w]) : Spares pool u s (s.recordMatch pool r v w m) := by
  have hne : u ≠ v ∧ u ≠ w := by
    rwa [List.mem_pair, not_or] at hu
  constructor
  · intro r' hw
    have hqueue : ∀ s : Store, s.queue pool r' = s.queue pool (normalizeRuleset r') := fun s =>
      (congrArg (s.queues pool) (normalizeRuleset_normalizeRuleset r')).symm
    unfold Waits at hw ⊢
    rw [hqueue] at hw ⊢
    rw [Store.queue_recordMatch hr (normalizeRuleset_mem r')]
    exact ⟨by simp [hne, hw.1], by simp [hne, hw.2.1], by simp [hne, hw.2.2]⟩
  · intro hm
    obtain ⟨m', hm', hmem⟩ := hasMatch_iff.1 hm
    exact hasMatch_iff.2 ⟨m', (Store.holds_recordMatch hr v w u m m').2 (by rwa [if_neg hu]), hmem⟩

theorem hasMatch_recordMatch {r : GameRuleset} (hr : r ∈ allQueueRulesets) {v w : UserID}
    {m : MatchFound} (hu : u ∈ [v, w]) (hmem : u ∈ m.players) :
    HasMatch (s.recordMatch pool r v w m) pool u :=
  hasMatch_iff.2 ⟨m, (Store.holds_recordMatch hr v w u m m).2 (by rw [if_pos hu]), hmem⟩

/-- What a command of a call, with the outcome `o`, does to a user in its pool: it takes him, or it
leaves him where he is. -/
def Leaves (pool : QueuePool) (u : UserID) (s : Store) (o : Outcome × Store) : Prop :=
  Spares pool u s o.2 ∨ u ∈ o.1.pair

theorem script_leaves (hs : s.Named pool) {r : GameRuleset} (hr : r ∈ allQueueRulesets) (limit : ℤ)
    (owner : String) (now : ℤ) {v : UserID} {self : Ticket} (users : List UserID) (n : ℕ)
    (hsparing : (PassAt.script v self users n).Sparing (s.queue pool r) u now) :
    Leaves pool u s (runPass pool s r limit owner now (.script v self users n)) := by
  obtain ⟨hshrinks, -⟩ := Queue.atomicMatch_spec (s.queue pool r) v self.mmr now
  have hstays : (Waiting.InQueue (s.queue pool r) u →
        Waiting.InQueue ((s.queue pool r).atomicMatch v self.mmr now).2 u) →
      Spares pool u s (s.update pool r fun _ => ((s.queue pool r).atomicMatch v self.mmr now).2) :=
    fun hw => spares_update (fun _ => hw) fun _ => by rw [hshrinks.matched]
  have htaken : Waiting.InQueue (s.queue pool r) u →
      Waiting.InQueue ((s.queue pool r).atomicMatch v self.mmr now).2 u ∨
        ∃ t, ((s.queue pool r).atomicMatch v self.mmr now).1 = some t ∧ t.userID ≠ "" ∧
          u ∈ [v, t.userID] := by
    intro hw
    rcases waits_atomicMatch hsparing hw with hstay | ⟨c, t, ht, hc, hne, hu⟩
    · exact .inl hstay
    · have hname : t.userID = c := hs r hr c t hc
      exact .inr ⟨t, ht, by rwa [hname], by rwa [hname]⟩
  unfold runPass
  dsimp only
  cases ht : ((s.queue pool r).atomicMatch v self.mmr now).1 with
  | none =>
      refine .inl (hstays fun hw => (htaken hw).resolve_right ?_)
      rintro ⟨t, ht', -⟩
      rw [ht] at ht'
      cases ht'
  | some opponent =>
      dsimp only
      by_cases hempty : opponent.userID = ""
      · rw [if_pos hempty]
        refine .inl (hstays fun hw => (htaken hw).resolve_right ?_)
        rintro ⟨t, ht', hne, -⟩
        rw [ht] at ht'
        exact hne (Option.some.inj ht' ▸ hempty)
      · rw [if_neg hempty]
        by_cases hu : u ∈ [v, opponent.userID]
        · exact .inr hu
        · refine .inl (hstays fun hw => (htaken hw).resolve_right ?_)
          rintro ⟨t, ht', -, hu'⟩
          rw [ht] at ht'
          exact hu (Option.some.inj ht' ▸ hu')

/-- The next command of a pass leaves a user or takes him, and records the match of a user whom it has
taken. -/
theorem runPass_leaves (hs : s.Named pool) {r : GameRuleset} (hr : r ∈ allQueueRulesets) (limit : ℤ)
    (owner : String) (now : ℤ) {at_ : PassAt} (hat : at_.Named)
    (hsparing : at_.Sparing (s.queue pool r) u now) :
    (u ∉ (Proc.pass r limit owner at_).pair →
        Leaves pool u s (runPass pool s r limit owner now at_)) ∧
      (u ∈ (Proc.pass r limit owner at_).pair →
        HasMatch (runPass pool s r limit owner now at_).2 pool u) := by
  have hidle : (Proc.pass r limit owner at_).pair = [] →
      Leaves pool u s (runPass pool s r limit owner now at_) →
      (u ∉ (Proc.pass r limit owner at_).pair →
        Leaves pool u s (runPass pool s r limit owner now at_)) ∧
      (u ∈ (Proc.pass r limit owner at_).pair →
        HasMatch (runPass pool s r limit owner now at_).2 pool u) := by
    intro hpair hleaves
    rw [hpair]
    exact ⟨fun _ => hleaves, fun hu => absurd hu List.not_mem_nil⟩
  cases at_ with
  | lock =>
      refine hidle rfl (.inl ?_)
      unfold runPass
      dsimp only
      cases (s.queue pool r).matcherLock with
      | none =>
          dsimp only
          apply spares_update
          · exact fun _ hw => hw
          · exact fun _ => rfl
      | some _ => exact .refl pool u s
  | list => exact hidle rfl (.inl (.refl pool u s))
  | get v users n =>
      refine hidle rfl (.inl ?_)
      unfold runPass
      dsimp only
      cases (s.queue pool r).ticket.lookup v with
      | none => exact .refl pool u s
      | some self => exact .refl pool u s
  | dropPool v users n =>
      refine hidle rfl (.inl ?_)
      unfold runPass
      dsimp only
      apply spares_update
      · intro _ hw
        have hne : u ≠ v := fun h => hsparing h.symm hw.1
        exact ⟨hw.1, AList.mem_erase.2 ⟨hne, hw.2.1⟩, hw.2.2⟩
      · exact fun _ => rfl
  | dropJoined v users n =>
      refine hidle rfl (.inl ?_)
      unfold runPass
      dsimp only
      apply spares_update
      · intro _ hw
        have hne : u ≠ v := fun h => hsparing h.symm hw.1
        exact ⟨hw.1, hw.2.1, AList.mem_erase.2 ⟨hne, hw.2.2⟩⟩
      · exact fun _ => rfl
  | script v self users n => exact hidle rfl (script_leaves hs hr limit owner now users n hsparing)
  | record v self opponent users n =>
      have hself : self.userID = v := hat
      constructor
      · exact fun hu => .inl (spares_recordMatch hr _ hu)
      · intro hu
        refine hasMatch_recordMatch hr hu ?_
        show u ∈ [opponent.userID, self.userID]
        rw [hself]
        exact (List.Perm.swap _ _ []).mem_iff.1 hu
  | release n =>
      refine hidle rfl (.inl ?_)
      unfold runPass
      dsimp only
      apply spares_update
      · intro _ hw
        split_ifs
        · exact hw
        · exact hw
      · intro _
        split_ifs
        · rfl
        · rfl

theorem Ran.named {p : Proc} {o : Outcome} (h : Ran pool s p o s') (hs : s.Named pool) :
    s'.Named pool := by
  cases h with
  | take idle queued found shrinks => exact shrinks.named hs
  | deliver m players config idle found queued holds named => exact named
  | collect u m idle idle' found mem queued holds kept named => exact named

end GeoDuels.MatchStore
