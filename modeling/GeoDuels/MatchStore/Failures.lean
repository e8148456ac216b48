import GeoDuels.MatchStore.Pass
import GeoDuels.MatchStore.Spec

/-!
# Failed calls of a pass

A call of `tryMatch` whose Redis calls may fail.  The match script takes the tickets of a pair and the
result pipeline writes their match in another round trip; when only the second one fails, the two are
in no queue and have no match (`keeps_iff`).  Every other failure leaves the users as they were, and
so does a pass in which no call loses or drops anybody (`runMatchmaking_keeps`).
-/

namespace GeoDuels.MatchStore.Failures

variable (pool : QueuePool) (ruleset : GameRuleset)

/-- The user has a match that names him under one of his match keys. -/
def Provided (s : Store) (u : UserID) : Prop := ∃ m, s.Holds pool u m ∧ u ∈ m.players

/-- The user has his ticket still, and his places in the two sets. -/
structure Stays (q q' : Queue) (u : UserID) : Prop where
  ticket : q'.ticket.lookup u = q.ticket.lookup u
  pool : u ∈ q.pool → u ∈ q'.pool
  joined : u ∈ q.joined → u ∈ q'.joined

/-- Everybody who had a ticket is where he was, or has a match. -/
def Keeps (s s' : Store) : Prop :=
  ∀ r ∈ allQueueRulesets, ∀ u ∈ (s.queue pool r).ticket,
    Stays (s.queue pool r) (s'.queue pool r) u ∨ Provided pool s' u

/-- The result pipeline fails after the script has taken a pair, of whom not both have a match. -/
def Loses (env : Meets) (userID : UserID) (s : Store) : Prop :=
  env.fails .result ∧ userID ∈ (s.queue pool ruleset).pool ∧ ∃ self c t,
    Finds pool ruleset env userID s self c t ∧ t.userID ≠ "" ∧
      ¬ (Provided pool s userID ∧ Provided pool s c)

/-- The script finds somebody for a user who is not in the pool, and takes him out of it alone, or the
ticket of one of them names somebody else. -/
def Drops (env : Meets) (userID : UserID) (s : Store) : Prop :=
  ∃ self c t, Finds pool ruleset env userID s self c t ∧
    (userID ∉ (s.queue pool ruleset).pool ∨ self.userID ≠ userID ∨ t.userID ≠ c)

/-- No call that the loop of a pass comes to loses or drops anybody. -/
def Harmless (limit : ℤ) (env : UserID → Meets) : List UserID → ℕ → Store → Prop
  | [], _, _ => True
  | userID :: users, matched, s =>
      limit ≤ matched ∨ ¬ Loses pool ruleset (env userID) userID s ∧
        ¬ Drops pool ruleset (env userID) userID s ∧
        match tryMatch pool ruleset (env userID) userID s with
        | (.error _, _) => True
        | (.ok ok, s) => Harmless limit env users (if ok then matched + 1 else matched) s

/-- No call of `tryMatch` of the pass loses or drops anybody. -/
def PassHarmless (env : PassMeets) (limit : ℤ) (s : Store) : Prop :=
  let ruleset := normalizeRuleset ruleset
  let s := s.update pool ruleset fun q =>
    { q with matcherLock := some (ticketID "matcher" env.now) }
  Harmless pool ruleset (passLimit limit) env.tries
    (zrangeByScore (s.queue pool ruleset).joined none (env.now - mutualMatchWaitMS)) 0 s

variable {pool ruleset} {s s' s'' : Store}

theorem Stays.refl (q : Queue) (u : UserID) : Stays q q u := ⟨rfl, id, id⟩

theorem Stays.trans {q q' q'' : Queue} {u : UserID} (h : Stays q q' u) (h' : Stays q' q'' u) :
    Stays q q'' u :=
  ⟨h'.ticket.trans h.ticket, h'.pool ∘ h.pool, h'.joined ∘ h.joined⟩

theorem Stays.mem {q q' : Queue} {u : UserID} (h : Stays q q' u) (hu : u ∈ q.ticket) :
    u ∈ q'.ticket := by
  rwa [← AList.lookup_isSome, h.ticket, AList.lookup_isSome]

theorem Keeps.refl (s : Store) : Keeps pool s s := fun _ _ _ _ => .inl (.refl _ _)

theorem Keeps.trans (h : Keeps pool s s') (h' : Keeps pool s' s'')
    (hp : ∀ u, Provided pool s' u → Provided pool s'' u) : Keeps pool s s'' := by
  intro r hr u hu
  rcases h r hr u hu with hstays | hprov
  · exact (h' r hr u (hstays.mem hu)).imp_left hstays.trans
  · exact .inr (hp u hprov)

/-! ## Commands on the queue of the ruleset -/

theorem holds_update (f : Queue → Queue) (hf : ∀ q, (f q).matched = q.matched) (u : UserID)
    (m : MatchFound) : (s.update pool ruleset f).Holds pool u m ↔ s.Holds pool u m := by
  unfold Store.Holds
  refine exists_congr fun r => and_congr_right fun _ => ?_
  rw [Store.queue_update]
  split_ifs
  · rw [hf]
  · rfl

theorem provided_update (f : Queue → Queue) (hf : ∀ q, (f q).matched = q.matched) (u : UserID) :
    Provided pool (s.update pool ruleset f) u ↔ Provided pool s u :=
  exists_congr fun m => and_congr_left fun _ => holds_update f hf u m

/-- A user whom a command leaves where he was, in every queue. -/
theorem stays_update {f : Queue → Queue} {u : UserID}
    (h : u ∈ (s.queue pool ruleset).ticket →
      Stays (s.queue pool ruleset) (f (s.queue pool ruleset)) u) {r : GameRuleset}
    (hu : u ∈ (s.queue pool r).ticket) :
    Stays (s.queue pool r) ((s.update pool ruleset f).queue pool r) u := by
  rw [Store.queue_update]
  by_cases hr : normalizeRuleset r = normalizeRuleset ruleset
  · have hq : s.queue pool r = s.queue pool ruleset := congrArg (s.queues pool) hr
    rw [if_pos ⟨rfl, hr⟩, hq]
    exact h (by rwa [← hq])
  · rw [if_neg fun h => hr h.2]
    exact .refl _ _

/-- A command that takes nothing from a user with a ticket. -/
theorem keeps_update {f : Queue → Queue} (h : ∀ u ∈ (s.queue pool ruleset).ticket,
    Stays (s.queue pool ruleset) (f (s.queue pool ruleset)) u) :
    Keeps pool s (s.update pool ruleset f) :=
  fun _ _ u hu => .inl (stays_update (h u) hu)

/-! ## One call of tryMatch -/

theorem finds_unique {env : Meets} {u : UserID} {self self' : Ticket} {c c' : UserID} {t t' : Ticket}
    (h : Finds pool ruleset env u s self c t) (h' : Finds pool ruleset env u s self' c' t') :
    self = self' ∧ c = c' ∧ t = t' := by
  obtain rfl : self = self' := Option.some.inj (h.own.symm.trans h'.own)
  obtain rfl : c = c' := Option.some.inj (h.partner.symm.trans h'.partner)
  exact ⟨rfl, rfl, Option.some.inj (h.ticket.symm.trans h'.ticket)⟩

/-- A call whose script has found somebody and whose result pipeline fails. -/
theorem tryMatch_of_lost {env : Meets} {u : UserID} {self : Ticket} {c : UserID} {t : Ticket}
    (h : Finds pool ruleset env u s self c t) (hin : u ∈ (s.queue pool ruleset).pool)
    (hname : t.userID ≠ "") (hfails : env.fails .result) :
    tryMatch pool ruleset env u s =
      (.error .result, s.update pool ruleset (·.take u c self.mmr)) := by
  have htried := tried pool ruleset env u s
  have hmem : u ∈ (s.queue pool ruleset).ticket := Assoc.mem_iff_exists.2 ⟨self, h.own⟩
  generalize tryMatch pool ruleset env u s = x at htried
  cases htried with
  | failed err early =>
      rcases early with hget | ⟨hnot, -⟩ | hscript
      · exact absurd hget h.get
      · exact absurd hmem hnot
      · exact absurd hscript h.script
  | half stale => exact absurd hmem stale
  | stale stale => exact absurd hmem stale
  | alone self' found none =>
      obtain rfl : self = self' := Option.some.inj (h.own.symm.trans found)
      exact absurd (none c h.partner) h.ne
  | dropped self' c' t' finds out => exact absurd hin out
  | unnamed self' c' t' finds name =>
      obtain ⟨-, -, rfl⟩ := finds_unique h finds
      exact absurd name hname
  | lost self' c' t' finds mem name fails =>
      obtain ⟨rfl, rfl, -⟩ := finds_unique h finds
      rfl
  | paired self' c' t' finds mem name done => exact absurd hfails done

theorem stays_sweep {q : Queue} {v : UserID} (hv : v ∈ q.ticket) (u : UserID) (mmr : ℤ) :
    Stays q (q.sweep u mmr) v := by
  refine ⟨rfl, fun hin => ?_, id⟩
  show v ∈ q.swept u (q.candidates mmr)
  rwa [← AList.lookup_isSome, Queue.lookup_swept_of_mem _ hv, AList.lookup_isSome]

theorem stays_take {q : Queue} {u c v : UserID} (hu : v ≠ u) (hc : v ≠ c) (hv : v ∈ q.ticket)
    (mmr : ℤ) : Stays q (q.take u c mmr) v := by
  refine ⟨?_, fun hin => ?_, fun hin => ?_⟩
  · show ((q.ticket.erase u).erase c).lookup v = _
    rw [Assoc.lookup_erase, if_neg hc, Assoc.lookup_erase, if_neg hu]
  · exact AList.mem_erase.2 ⟨hc, AList.mem_erase.2 ⟨hu, (stays_sweep hv u mmr).pool hin⟩⟩
  · exact AList.mem_erase.2 ⟨hc, AList.mem_erase.2 ⟨hu, hin⟩⟩

theorem keeps_take {self : Ticket} {u c : UserID}
    (hprov : Provided pool s u ∧ Provided pool s c) :
    Keeps pool s (s.update pool ruleset (·.take u c self.mmr)) := by
  intro r _ v hv
  rw [provided_update (·.take u c self.mmr) fun _ => rfl]
  by_cases hu : v = u
  · rw [hu]
    exact .inr hprov.1
  · by_cases hc : v = c
    · rw [hc]
      exact .inr hprov.2
    · exact .inl (stays_update (fun hv => stays_take hu hc hv self.mmr) hv)

/-- A user without a ticket is taken out of the pool. -/
theorem keeps_half {u : UserID} (hu : u ∉ (s.queue pool ruleset).ticket) :
    Keeps pool s (s.update pool ruleset fun q => { q with pool := q.pool.erase u }) := by
  refine keeps_update fun v hv => ⟨rfl, fun hin => ?_, id⟩
  have hne : v ≠ u := by
    rintro rfl
    exact hu hv
  exact AList.mem_erase.2 ⟨hne, hin⟩

/-- A failed call of `tryMatch` keeps everybody exactly when it does not fail after its script has
taken a pair. -/
theorem tryMatch_keeps_iff (env : Meets) (u : UserID) :
    (∀ err s', tryMatch pool ruleset env u s = (.error err, s') → Keeps pool s s') ↔
      ¬ Loses pool ruleset env u s := by
  constructor
  · rintro h ⟨hfails, hin, self, c, t, hfinds, hname, hprov⟩
    have hkeeps := h _ _ (tryMatch_of_lost hfinds hin hname hfails)
    have hr := normalizeRuleset_mem ruleset
    have hq : ∀ s : Store, s.queue pool (normalizeRuleset ruleset) = s.queue pool ruleset := fun s =>
      congrArg (s.queues pool) (normalizeRuleset_normalizeRuleset ruleset)
    have hgone : ∀ v, v = u ∨ v = c → v ∈ (s.queue pool ruleset).ticket → Provided pool s v := by
      intro v hv hmem
      rcases hkeeps _ hr v (by rwa [hq]) with hstays | hp
      · have hnone : ((s.update pool ruleset (·.take u c self.mmr)).queue pool ruleset).ticket.lookup v =
            none := by
          rw [Store.queue_update, if_pos ⟨rfl, rfl⟩]
          show (((s.queue pool ruleset).ticket.erase u).erase c).lookup v = none
          rw [Assoc.lookup_erase, Assoc.lookup_erase]
          rcases hv with rfl | rfl <;> simp
        have ht := hstays.ticket
        rw [hq, hq, hnone] at ht
        exact absurd hmem (AList.lookup_eq_none.1 ht.symm)
      · exact (provided_update (·.take u c self.mmr) (fun _ => rfl) v).1 hp
    exact hprov ⟨hgone u (.inl rfl) (Assoc.mem_iff_exists.2 ⟨self, hfinds.own⟩),
      hgone c (.inr rfl) (Assoc.mem_iff_exists.2 ⟨t, hfinds.ticket⟩)⟩
  · intro h err s' hs
    have htried := tried pool ruleset env u s
    rw [hs] at htried
    cases htried with
    | failed => exact .refl s
    | half stale => exact keeps_half stale
    | lost self c t finds mem name fails =>
        refine keeps_take ?_
        by_contra hprov
        exact h ⟨fails, mem, self, c, t, finds, name, hprov⟩

/-! ## Passes -/

/-- Everybody is where he was or has a match, and who had a match has one. -/
structure Provides (pool : QueuePool) (s s' : Store) : Prop where
  keeps : Keeps pool s s'
  provided : ∀ u, Provided pool s u → Provided pool s' u

theorem Provides.refl (s : Store) : Provides pool s s := ⟨.refl s, fun _ h => h⟩

theorem Provides.trans (h : Provides pool s s') (h' : Provides pool s' s'') : Provides pool s s'' :=
  ⟨h.keeps.trans h'.keeps h'.provided, fun u hu => h'.provided u (h.provided u hu)⟩

/-- A command on the queue that leaves the matches and takes no ticket's places away. -/
theorem provides_update (f : Queue → Queue) (hm : ∀ q, (f q).matched = q.matched)
    (h : ∀ u ∈ (s.queue pool ruleset).ticket,
      Stays (s.queue pool ruleset) (f (s.queue pool ruleset)) u) :
    Provides pool s (s.update pool ruleset f) :=
  ⟨keeps_update h, fun u hu => (provided_update f hm u).2 hu⟩

/-- A user who has a ticket is where he was after the match of two others has been recorded. -/
theorem provides_paired (hr : ruleset ∈ allQueueRulesets) (env : Meets) {u : UserID}
    {self : Ticket} {c : UserID} {t : Ticket} (hself : self.userID = u) (hc : t.userID = c) :
    Provides pool s ((s.update pool ruleset (·.take u c self.mmr)).recordMatch pool ruleset u t.userID
      (matchFromTickets t self env.now)) := by
  rw [hc]
  have hprov : ∀ v, v ∈ [u, c] → Provided pool
      ((s.update pool ruleset (·.take u c self.mmr)).recordMatch pool ruleset u c
        (matchFromTickets t self env.now)) v := by
    intro v hv
    refine ⟨matchFromTickets t self env.now, ?_, ?_⟩
    · rw [Store.holds_recordMatch hr, if_pos hv]
    · show v ∈ [t.userID, self.userID]
      rw [hself, hc, List.mem_pair]
      exact (List.mem_pair.1 hv).symm
  refine ⟨fun r hrr v hv => ?_, fun v hv => ?_⟩
  · by_cases hmem : v ∈ [u, c]
    · exact .inr (hprov v hmem)
    · left
      rw [List.mem_pair, not_or] at hmem
      have htake : Stays (s.queue pool r)
          ((s.update pool ruleset (·.take u c self.mmr)).queue pool r) v :=
        stays_update (fun hv => stays_take hmem.1 hmem.2 hv self.mmr) hv
      refine htake.trans ?_
      rw [Store.queue_recordMatch hr hrr]
      refine ⟨?_, fun hin => ?_, fun hin => ?_⟩
      · dsimp only
        rw [Assoc.lookup_erase, if_neg hmem.2, Assoc.lookup_erase, if_neg hmem.1]
      · exact AList.mem_erase.2 ⟨hmem.2, AList.mem_erase.2 ⟨hmem.1, hin⟩⟩
      · exact AList.mem_erase.2 ⟨hmem.2, AList.mem_erase.2 ⟨hmem.1, hin⟩⟩
  · by_cases hmem : v ∈ [u, c]
    · exact hprov v hmem
    · obtain ⟨m, hm, hplayers⟩ := hv
      refine ⟨m, ?_, hplayers⟩
      rw [Store.holds_recordMatch hr, if_neg hmem]
      exact (holds_update (·.take u c self.mmr) (fun _ => rfl) v m).2 hm

/-- A call that loses and drops nobody. -/
theorem tryMatch_provides (hr : ruleset ∈ allQueueRulesets) (env : Meets)
    (u : UserID) (hloses : ¬ Loses pool ruleset env u s) (hdrops : ¬ Drops pool ruleset env u s) :
    Provides pool s (tryMatch pool ruleset env u s).2 := by
  have htried := tried pool ruleset env u s
  generalize tryMatch pool ruleset env u s = x at htried
  have hhalf : u ∉ (s.queue pool ruleset).ticket → Provides pool s
      (s.update pool ruleset fun q => { q with pool := q.pool.erase u }) := fun stale =>
    ⟨keeps_half stale, fun v hv => (provided_update
      (fun q => { q with pool := q.pool.erase u }) (fun _ => rfl) v).2 hv⟩
  cases htried with
  | failed => exact .refl s
  | half stale => exact hhalf stale
  | stale stale =>
      refine (hhalf stale).trans (provides_update (fun q => { q with joined := q.joined.erase u })
        (fun _ => rfl) fun v hv => ⟨rfl, id, fun hin => AList.mem_erase.2 ⟨?_, hin⟩⟩)
      rintro rfl
      rw [Store.queue_update, if_pos ⟨rfl, rfl⟩] at hv
      exact stale hv
  | alone self found none =>
      exact provides_update (·.sweep u self.mmr) (fun _ => rfl)
        fun v hv => stays_sweep hv u self.mmr
  | dropped self c t finds out => exact absurd ⟨self, c, t, finds, .inl out⟩ hdrops
  | unnamed self c t finds name =>
      exact absurd ⟨self, c, t, finds, .inr (.inr (by rw [name]; exact finds.ne.symm))⟩ hdrops
  | lost self c t finds mem name fails =>
      show Provides pool s (s.update pool ruleset (·.take u c self.mmr))
      refine ⟨keeps_take ?_, fun v hv => ?_⟩
      · by_contra hprov
        exact hloses ⟨fails, mem, self, c, t, finds, name, hprov⟩
      · exact (provided_update (·.take u c self.mmr) (fun _ => rfl) v).2 hv
  | paired self c t finds mem name done =>
      have hnames : self.userID = u ∧ t.userID = c := by
        by_contra hnot
        rw [not_and_or] at hnot
        exact hdrops ⟨self, c, t, finds, .inr hnot⟩
      exact provides_paired hr env hnames.1 hnames.2

theorem tryAll_provides (hr : ruleset ∈ allQueueRulesets) (limit : ℤ) (env : UserID → Meets)
    (users : List UserID) (n : ℕ) (h : Harmless pool ruleset limit env users n s) :
    Provides pool s (tryAll pool ruleset limit env users n s).2.2 := by
  induction users generalizing n s with
  | nil => exact .refl s
  | cons u users ih =>
      unfold tryAll
      unfold Harmless at h
      by_cases hlimit : limit ≤ n
      · rw [if_pos hlimit]
        exact .refl s
      · rw [if_neg hlimit]
        obtain ⟨hloses, hdrops, hrest⟩ := h.resolve_left hlimit
        have hfirst := tryMatch_provides hr (env u) u hloses hdrops
        generalize tryMatch pool ruleset (env u) u s = x at hfirst hrest
        obtain ⟨res, s₁⟩ := x
        cases res with
        | error err => exact hfirst
        | ok ok => exact hfirst.trans (ih _ hrest)

/-- A pass in which no call loses or drops anybody. -/
theorem runMatchmaking_keeps (env : PassMeets) (limit : ℤ)
    (h : PassHarmless pool ruleset env limit s) :
    Keeps pool s (runMatchmaking pool ruleset env limit s).store := by
  have hr := normalizeRuleset_mem ruleset
  have hlocked : Provides pool s (s.update pool (normalizeRuleset ruleset) fun q =>
      { q with matcherLock := some (ticketID "matcher" env.now) }) :=
    provides_update _ (fun _ => rfl) fun _ _ => ⟨rfl, id, id⟩
  have hrelease : ∀ s : Store, Provides pool s (releaseMatcherLock pool
      (normalizeRuleset ruleset) (ticketID "matcher" env.now) env.releaseFails s) := by
    intro s
    unfold releaseMatcherLock
    split_ifs
    · exact .refl s
    · refine provides_update _ (fun q => ?_) fun u _ => ?_
      · split_ifs <;> rfl
      · split_ifs
        · exact ⟨rfl, id, id⟩
        · exact .refl _ u
  unfold runMatchmaking
  dsimp only
  by_cases hlock : env.lockFails
  · rw [if_pos hlock]
    exact .refl s
  · rw [if_neg hlock]
    cases (s.queue pool (normalizeRuleset ruleset)).matcherLock with
    | some _ => exact .refl s
    | none =>
        dsimp only
        by_cases hlist : env.listFails
        · rw [if_pos hlist]
          exact (hlocked.trans (hrelease _)).keeps
        · rw [if_neg hlist]
          have hloop := tryAll_provides hr (passLimit limit) env.tries _ 0 h
          exact ((hlocked.trans hloop).trans (hrelease _)).keeps

/-- A failed call of `tryMatch` keeps everybody exactly when it does not fail at its result pipeline
with a pair taken, and so does every pass that comes to no such call and drops nobody. -/
theorem failures_keep (pool : QueuePool) (ruleset : GameRuleset) (s : Store) :
    (∀ env u, (∀ err s', tryMatch pool ruleset env u s = (.error err, s') → Keeps pool s s') ↔
      ¬ Loses pool ruleset env u s) ∧
    ∀ env limit, PassHarmless pool ruleset env limit s →
      Keeps pool s (runMatchmaking pool ruleset env limit s).store :=
  ⟨tryMatch_keeps_iff, runMatchmaking_keeps⟩

/-! ### Two users and a broken connection -/

/-- `u1` and `u2` wait in one queue. -/
def twoQueued : Store :=
  let s := (Store.empty.join .registered .moving { userID := "u1", mmr := 1000 } 1000).2
  (s.join .registered .moving { userID := "u2", mmr := 1010 } 1001).2

theorem harmless_of_get_fails {limit : ℤ} {env : UserID → Meets} (h : ∀ u, (env u).fails .get)
    (users : List UserID) (n : ℕ) : Harmless pool ruleset limit env users n s := by
  cases users with
  | nil => trivial
  | cons u users =>
      refine .inr ⟨?_, ?_, ?_⟩
      · rintro ⟨-, -, self, c, t, hfinds, -⟩
        exact hfinds.get (h u)
      · rintro ⟨self, c, t, hfinds, -⟩
        exact hfinds.get (h u)
      · unfold tryMatch
        rw [if_pos (h u)]
        trivial

/-- A pass that cannot read a ticket. -/
def noTicketRead : PassMeets :=
  { now := 5000, tries := fun _ => { now := 5000, fails := fun c => c = .get } }

theorem failures_keep_noTicketRead :
    (runMatchmaking .registered .moving noTicketRead 50 twoQueued).err = some (.tryMatch .get) ∧
      Keeps .registered twoQueued (runMatchmaking .registered .moving noTicketRead 50 twoQueued).store :=
  ⟨by decide +kernel, (failures_keep .registered .moving twoQueued).2 noTicketRead 50
    (harmless_of_get_fails (fun _ => rfl) _ _)⟩

/-- The script answers, the result pipeline does not. -/
def noResult : Meets := { now := 5000, fails := fun c => c = .result }

theorem not_keeps_noResult :
    ¬ ∀ err s', tryMatch .registered .moving noResult "u1" twoQueued = (.error err, s') →
      Keeps .registered twoQueued s' := by
  have hbefore : "u1" ∈ (twoQueued.queue .registered .moving).ticket := by decide +kernel
  have hafter : ∃ s', tryMatch .registered .moving noResult "u1" twoQueued = (.error .result, s') ∧
      "u1" ∉ (s'.queue .registered .moving).ticket ∧
      ∀ r ∈ allQueueRulesets, "u1" ∉ (s'.queue .registered r).matched :=
    ⟨_, rfl, by decide +kernel, by decide +kernel⟩
  obtain ⟨s', hs', hticket, hmatch⟩ := hafter
  intro h
  rcases h _ _ hs' .moving (by decide) "u1" hbefore with hstays | ⟨m, ⟨r, hr, hm⟩, -⟩
  · exact hticket (hstays.mem hbefore)
  · exact hmatch r hr (Assoc.mem_iff_exists.2 ⟨m, hm⟩)

end GeoDuels.MatchStore.Failures
