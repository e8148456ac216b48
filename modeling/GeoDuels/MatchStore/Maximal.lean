import GeoDuels.Lib.Greedy
import GeoDuels.MatchStore.Failures

/-!
# The pairs of a pass

A pass on its own, at one clock reading and without failures, goes through the users who have waited
long enough and pairs each of them who is still queued with somebody eligible.  Eligibility is
symmetric in a consistent queue (`mutual_iff_eligible`), so that the pass is a greedy matching
(`tryAll_pairs`): nobody is left with somebody he could be matched with, unless the limit is reached.
-/

namespace GeoDuels.MatchStore.Maximal

open Greedy

/-- The members of the two sets have tickets, and the scores of a user are those of his ticket. -/
structure Consistent (q : Queue) : Prop where
  pool : ∀ u ∈ q.pool, u ∈ q.ticket
  joined : ∀ u ∈ q.joined, u ∈ q.ticket
  ticket : ∀ u t, q.ticket.lookup u = some t → t.userID = u ∧ q.pool.lookup u = some t.mmr ∧
    q.joined.lookup u = some t.joinedAtUnixMS
  named : "" ∉ q.ticket

/-- Two queued users who have both waited for a second, and whose difference in MMR is allowed after
the longer one of their waits. -/
def Mutual (q : Queue) (now : ℤ) (a b : UserID) : Prop :=
  a ≠ b ∧ ∃ ta tb, q.ticket.lookup a = some ta ∧ q.ticket.lookup b = some tb ∧
    1000 ≤ now - ta.joinedAtUnixMS ∧ 1000 ≤ now - tb.joinedAtUnixMS ∧
    |ta.mmr - tb.mmr| ≤
      min 500 (150 + 75 * (max (now - ta.joinedAtUnixMS) (now - tb.joinedAtUnixMS) / 2000))

/-- The keys of the user are the same in both queues. -/
structure Same (q q' : Queue) (u : UserID) : Prop where
  ticket : q'.ticket.lookup u = q.ticket.lookup u
  pool : q'.pool.lookup u = q.pool.lookup u
  joined : q'.joined.lookup u = q.joined.lookup u
  matched : q'.matched.lookup u = q.matched.lookup u

/-- The users of each pair have left the queue with one match of the two, and nobody else's keys have
changed. -/
structure Paired (pool : QueuePool) (ruleset : GameRuleset) (s s' : Store)
    (pairs : List (UserID × UserID)) : Prop where
  matched : ∀ p ∈ pairs, ∃ m, m.players = [p.2, p.1] ∧
    (s'.queue pool ruleset).matched.lookup p.1 = some m ∧
    (s'.queue pool ruleset).matched.lookup p.2 = some m
  left : ∀ u ∈ agents pairs, u ∉ (s'.queue pool ruleset).ticket ∧
    u ∉ (s'.queue pool ruleset).pool ∧ u ∉ (s'.queue pool ruleset).joined
  others : ∀ r, ∀ u ∉ agents pairs, Same (s.queue pool r) (s'.queue pool r) u

variable {pool : QueuePool} {ruleset : GameRuleset} {q q' q'' : Queue} {s s' s'' : Store} {now : ℤ}
  {u c : UserID}

theorem Same.refl (q : Queue) (u : UserID) : Same q q u := ⟨rfl, rfl, rfl, rfl⟩

theorem Same.trans (h : Same q q' u) (h' : Same q' q'' u) : Same q q'' u :=
  ⟨h'.ticket.trans h.ticket, h'.pool.trans h.pool, h'.joined.trans h.joined,
    h'.matched.trans h.matched⟩

theorem Paired.nil (h : ∀ r v, Same (s.queue pool r) (s'.queue pool r) v) :
    Paired pool ruleset s s' [] :=
  ⟨by simp, by simp, fun r v _ => h r v⟩

/-! ## Eligibility in a consistent queue -/

theorem Mutual.congr {a b : UserID} (h : Mutual q now a b)
    (ha : q'.ticket.lookup a = q.ticket.lookup a) (hb : q'.ticket.lookup b = q.ticket.lookup b) :
    Mutual q' now a b := by
  obtain ⟨hne, ta, tb, hta, htb, hrest⟩ := h
  exact ⟨hne, ta, tb, ha.trans hta, hb.trans htb, hrest⟩

/-- What the script looks for in a consistent queue. -/
theorem mutual_iff_eligible (hq : Consistent q) {self : Ticket}
    (hself : q.ticket.lookup u = some self) :
    Mutual q now u c ↔ q.Eligible u self.mmr now c := by
  have hjoined : q.joinedAt u now = self.joinedAtUnixMS := by rw [Queue.joinedAt, hself]
  have hwaits : ∀ t : Ticket, q.ticket.lookup c = some t →
      (1000 ≤ now - self.joinedAtUnixMS ∧ 1000 ≤ now - t.joinedAtUnixMS ∧ |self.mmr - t.mmr| ≤
          min 500 (150 + 75 * (max (now - self.joinedAtUnixMS) (now - t.joinedAtUnixMS) / 2000)) ↔
        mutualMatchWaitMS ≤ max 0 (now - q.joinedAt u now) ∧
          mutualMatchWaitMS ≤ max 0 (now - t.joinedAtUnixMS) ∧ q.diff self.mmr c ≤
            Queue.allowedDiff (max (max 0 (now - q.joinedAt u now))
              (max 0 (now - t.joinedAtUnixMS)))) := by
    intro t ht
    have hdiff : q.diff self.mmr c = |self.mmr - t.mmr| := by
      rw [Queue.diff, (hq.ticket c t ht).2.1, Option.getD_some, abs_sub_comm]
    rw [hdiff, hjoined, Queue.allowedDiff_eq, mutualMatchWaitMS]
    omega
  constructor
  · rintro ⟨hne, ta, t, ha, ht, hrest⟩
    obtain rfl : self = ta := Option.some.inj (hself.symm.trans ha)
    have hpool : c ∈ q.pool := Assoc.mem_iff_exists.2 ⟨_, (hq.ticket c t ht).2.1⟩
    exact ⟨hne.symm, hpool, t, ht, (hwaits t ht).1 hrest⟩
  · rintro ⟨hne, -, t, ht, hrest⟩
    exact ⟨hne.symm, self, t, hself, ht, (hwaits t ht).2 hrest⟩

/-- A user who joins leaves the queue consistent. -/
theorem Consistent.join (hq : Consistent q) {t : Ticket} (ht : t.userID ≠ "") :
    Consistent (q.join t) := by
  refine ⟨fun u hu => ?_, fun u hu => ?_, fun u t' ht' => ?_, fun hempty => ?_⟩
  · rw [Queue.join, AList.mem_insert] at hu ⊢
    exact hu.imp_right (hq.pool u)
  · rw [Queue.join, AList.mem_insert] at hu ⊢
    exact hu.imp_right (hq.joined u)
  · simp only [Queue.join, Assoc.lookup_insert] at ht' ⊢
    split_ifs at ht' ⊢ with h
    · obtain rfl := Option.some.inj ht'
      exact ⟨h.symm, rfl, rfl⟩
    · exact hq.ticket u t' ht'
  · rw [Queue.join, AList.mem_insert] at hempty
    exact hempty.elim (fun h => ht h.symm) hq.named

/-! ## One call of tryMatch -/

theorem queue_normalizeRuleset (s : Store) (r : GameRuleset) :
    s.queue pool (normalizeRuleset r) = s.queue pool r :=
  congrArg (s.queues pool) (normalizeRuleset_normalizeRuleset r)

theorem swept_of_consistent (hq : Consistent q) (u v : UserID) (mmr : ℤ) :
    (q.swept u (q.candidates mmr)).lookup v = q.pool.lookup v := by
  rw [Queue.lookup_swept]
  split_ifs with h
  · exact (AList.lookup_eq_none.2 fun hin => h.2.2 (hq.pool v hin)).symm
  · rfl

/-- A command on the queue that changes nobody's keys. -/
theorem same_update (f : Queue → Queue) (hf : ∀ v, Same (s.queue pool ruleset)
    (f (s.queue pool ruleset)) v) (r : GameRuleset) (v : UserID) :
    Same (s.queue pool r) ((s.update pool ruleset f).queue pool r) v := by
  rw [Store.queue_update]
  split_ifs with h
  · have hq : s.queue pool r = s.queue pool ruleset := congrArg (s.queues pool) h.2
    rw [hq]
    exact hf v
  · exact .refl _ v

/-- Both of a pair have left the queues with their match. -/
theorem paired_take (hr : ruleset ∈ allQueueRulesets) (hq : Consistent (s.queue pool ruleset))
    {self t : Ticket} (hself : self.userID = u) (ht : t.userID = c) :
    Paired pool ruleset s ((s.update pool ruleset (·.take u c self.mmr)).recordMatch pool ruleset u c
      (matchFromTickets t self now)) [(u, c)] := by
  refine ⟨fun p hp => ?_, fun v hv => ?_, fun r v hv => ?_⟩
  · obtain rfl := List.mem_singleton.1 hp
    refine ⟨matchFromTickets t self now, ?_, ?_, ?_⟩
    · show [t.userID, self.userID] = [c, u]
      rw [hself, ht]
    · rw [Store.queue_recordMatch hr hr]
      simp [Assoc.lookup_insert]
    · rw [Store.queue_recordMatch hr hr]
      simp
  · have hmem : v = u ∨ v = c := by simpa using hv
    rw [Store.queue_recordMatch hr hr]
    simp only [AList.mem_erase]
    tauto
  · have hne : v ≠ u ∧ v ≠ c := by simpa using hv
    have hrr := normalizeRuleset_mem r
    have htake : Same (s.queue pool (normalizeRuleset r))
        ((s.update pool ruleset (·.take u c self.mmr)).queue pool (normalizeRuleset r)) v := by
      rw [Store.queue_update]
      split_ifs with h
      · have hqr : s.queue pool (normalizeRuleset r) = s.queue pool ruleset :=
          congrArg (s.queues pool) h.2
        rw [hqr]
        refine ⟨?_, ?_, ?_, rfl⟩
        · simp [Queue.take, hne.1, hne.2]
        · simp [Queue.take, Queue.unpool, hne.1, hne.2, swept_of_consistent hq]
        · simp [Queue.take, hne.1, hne.2]
      · exact .refl _ v
    have hrecord : Same ((s.update pool ruleset (·.take u c self.mmr)).queue pool (normalizeRuleset r))
        (((s.update pool ruleset (·.take u c self.mmr)).recordMatch pool ruleset u c
          (matchFromTickets t self now)).queue pool (normalizeRuleset r)) v := by
      rw [Store.queue_recordMatch hr hrr]
      refine ⟨?_, ?_, ?_, ?_⟩
      · simp [hne.1, hne.2]
      · simp [hne.1, hne.2]
      · simp [hne.1, hne.2]
      · split_ifs <;> simp [hne.1, hne.2]
    have hboth := htake.trans hrecord
    rwa [queue_normalizeRuleset, queue_normalizeRuleset] at hboth

/-- A call without failures leaves a consistent queue as it is, when nobody in it can be matched with
the user, and takes him and one other out of it else. -/
theorem tryMatch_pairs (hr : ruleset ∈ allQueueRulesets) (hq : Consistent (s.queue pool ruleset))
    (now : ℤ) (u : UserID) :
    (∃ s', tryMatch pool ruleset { now := now } u s = (.ok false, s') ∧ Paired pool ruleset s s' [] ∧
      ∀ c, ¬ Mutual (s.queue pool ruleset) now u c) ∨
    ∃ c s', tryMatch pool ruleset { now := now } u s = (.ok true, s') ∧
      Paired pool ruleset s s' [(u, c)] ∧ Mutual (s.queue pool ruleset) now u c := by
  have htried := tried pool ruleset { now := now } u s
  generalize tryMatch pool ruleset { now := now } u s = x at htried ⊢
  have halone : u ∉ (s.queue pool ruleset).ticket →
      ∀ c, ¬ Mutual (s.queue pool ruleset) now u c := by
    rintro hnot c ⟨-, ta, tb, ha, -⟩
    exact hnot (Assoc.mem_iff_exists.2 ⟨ta, ha⟩)
  have hpool : ∀ {self : Ticket}, (s.queue pool ruleset).ticket.lookup u = some self →
      u ∈ (s.queue pool ruleset).pool := fun h =>
    Assoc.mem_iff_exists.2 ⟨_, (hq.ticket u _ h).2.1⟩
  cases htried with
  | failed err early => simp at early
  | half stale fails => cases fails
  | lost self c t finds mem name fails => cases fails
  | stale stale =>
      refine .inl ⟨_, rfl, Paired.nil fun r v => ?_, halone stale⟩
      have hnot : u ∉ (s.queue pool ruleset).pool ∧ u ∉ (s.queue pool ruleset).joined :=
        ⟨fun h => stale (hq.pool u h), fun h => stale (hq.joined u h)⟩
      rw [← AList.lookup_eq_none, ← AList.lookup_eq_none] at hnot
      have hfirst := same_update (fun q => { q with pool := q.pool.erase u })
        (fun v => ⟨rfl, by rw [Assoc.erase_of_lookup_none hnot.1], rfl, rfl⟩) r v
      refine hfirst.trans (same_update (fun q => { q with joined := q.joined.erase u })
        (fun v => ⟨rfl, rfl, ?_, rfl⟩) r v)
      rw [Store.queue_update, if_pos ⟨rfl, rfl⟩]
      dsimp only
      rw [Assoc.erase_of_lookup_none hnot.2]
  | alone self found none =>
      have hpartner : (s.queue pool ruleset).partner u self.mmr now = Option.none := by
        cases hp : (s.queue pool ruleset).partner u self.mmr now with
        | none => rfl
        | some c =>
            obtain ⟨-, -, t, ht, -⟩ := Queue.eligible_of_partner hp
            rw [none c hp] at ht
            exact absurd (Assoc.mem_iff_exists.2 ⟨t, ht⟩) hq.named
      refine .inl ⟨_, rfl, Paired.nil (same_update (·.sweep u self.mmr) fun v => ?_),
        fun c hc => ?_⟩
      · exact ⟨rfl, swept_of_consistent hq u v self.mmr, rfl, rfl⟩
      · exact Queue.partner_eq_none_iff.1 hpartner c ((mutual_iff_eligible hq found).1 hc)
  | dropped self c t finds out => exact absurd (hpool finds.own) out
  | unnamed self c t finds name =>
      have hc := (hq.ticket c t finds.ticket).1
      exact absurd (hc.symm.trans name) finds.ne
  | paired self c t finds mem name done =>
      have hc := (hq.ticket c t finds.ticket).1
      rw [hc]
      exact .inr ⟨c, _, rfl, paired_take hr hq (hq.ticket u self finds.own).1 hc,
        (mutual_iff_eligible hq finds.own).2 (Queue.eligible_of_partner finds.partner)⟩

/-! ## The loop of a pass -/

theorem Paired.trans {ps ps' : List (UserID × UserID)} (h : Paired pool ruleset s s' ps)
    (h' : Paired pool ruleset s' s'' ps') (hdisjoint : ∀ u ∈ agents ps, u ∉ agents ps') :
    Paired pool ruleset s s'' (ps ++ ps') := by
  have hagents : agents (ps ++ ps') = agents ps ++ agents ps' := List.flatMap_append
  have hkept : ∀ u ∈ agents ps, Same (s'.queue pool ruleset) (s''.queue pool ruleset) u :=
    fun u hu => h'.others ruleset u (hdisjoint u hu)
  refine ⟨fun p hp => ?_, fun u hu => ?_, fun r u hu => ?_⟩
  · rcases List.mem_append.1 hp with hp | hp
    · obtain ⟨m, hplayers, h₁, h₂⟩ := h.matched p hp
      have hmem : p.1 ∈ agents ps ∧ p.2 ∈ agents ps :=
        ⟨List.mem_flatMap.2 ⟨p, hp, by simp⟩, List.mem_flatMap.2 ⟨p, hp, by simp⟩⟩
      exact ⟨m, hplayers, (hkept _ hmem.1).matched.trans h₁, (hkept _ hmem.2).matched.trans h₂⟩
    · exact h'.matched p hp
  · rw [hagents, List.mem_append] at hu
    rcases hu with hu | hu
    · have hsame := hkept u hu
      obtain ⟨hticket, hpool, hjoined⟩ := h.left u hu
      rw [← AList.lookup_eq_none] at hticket hpool hjoined
      rw [← AList.lookup_eq_none, ← AList.lookup_eq_none, ← AList.lookup_eq_none]
      exact ⟨hsame.ticket.trans hticket, hsame.pool.trans hpool, hsame.joined.trans hjoined⟩
    · exact h'.left u hu
  · rw [hagents, List.mem_append, not_or] at hu
    exact (h.others r u hu.1).trans (h'.others r u hu.2)

/-- The queue is `q` for the users in `S`, and nobody else is queued. -/
structure Restricts (q : Queue) (S : Set UserID) (q' : Queue) : Prop where
  same : ∀ u ∈ S, Same q q' u
  gone : ∀ u ∉ S, u ∉ q'.ticket ∧ u ∉ q'.pool ∧ u ∉ q'.joined

namespace Restricts

variable {S : Set UserID}

theorem mem_of_lookup (h : Restricts q S q') {t : Ticket} (ht : q'.ticket.lookup u = some t) :
    u ∈ S := by
  by_contra hu
  exact (h.gone u hu).1 (Assoc.mem_iff_exists.2 ⟨t, ht⟩)

theorem consistent (h : Restricts q S q') (hq : Consistent q) : Consistent q' := by
  have hkeep : ∀ u ∈ S, u ∈ q.ticket → u ∈ q'.ticket := by
    intro u hu hticket
    rwa [← AList.lookup_isSome, (h.same u hu).ticket, AList.lookup_isSome]
  refine ⟨fun u hu => ?_, fun u hu => ?_, fun u t ht => ?_, fun hempty => ?_⟩
  · have hS : u ∈ S := by
      by_contra hnot
      exact (h.gone u hnot).2.1 hu
    rw [← AList.lookup_isSome, (h.same u hS).pool, AList.lookup_isSome] at hu
    exact hkeep u hS (hq.pool u hu)
  · have hS : u ∈ S := by
      by_contra hnot
      exact (h.gone u hnot).2.2 hu
    rw [← AList.lookup_isSome, (h.same u hS).joined, AList.lookup_isSome] at hu
    exact hkeep u hS (hq.joined u hu)
  · have hsame := h.same u (h.mem_of_lookup ht)
    rw [hsame.pool, hsame.joined]
    exact hq.ticket u t (hsame.ticket.symm.trans ht)
  · obtain ⟨t, ht⟩ := Assoc.mem_iff_exists.1 hempty
    have hsame := h.same "" (h.mem_of_lookup ht)
    exact hq.named (Assoc.mem_iff_exists.2 ⟨t, hsame.ticket.symm.trans ht⟩)

theorem mutual_iff (h : Restricts q S q') {a b : UserID} :
    Mutual q' now a b ↔ a ∈ S ∧ b ∈ S ∧ Mutual q now a b := by
  constructor
  · intro hm
    obtain ⟨-, ta, tb, ha, hb, -⟩ := id hm
    have hS := And.intro (h.mem_of_lookup ha) (h.mem_of_lookup hb)
    exact ⟨hS.1, hS.2, hm.congr (h.same a hS.1).ticket.symm (h.same b hS.2).ticket.symm⟩
  · rintro ⟨ha, hb, hm⟩
    exact hm.congr (h.same a ha).ticket (h.same b hb).ticket

theorem step {ps : List (UserID × UserID)} (h : Restricts q S (s.queue pool ruleset))
    (hp : Paired pool ruleset s s' ps) :
    Restricts q (S \ {u | u ∈ agents ps}) (s'.queue pool ruleset) := by
  refine ⟨fun u hu => (h.same u hu.1).trans (hp.others ruleset u hu.2), fun u hu => ?_⟩
  by_cases hmem : u ∈ agents ps
  · exact hp.left u hmem
  · have hgone := h.gone u fun hS => hu ⟨hS, hmem⟩
    have hsame := hp.others ruleset u hmem
    rw [← AList.lookup_eq_none, ← AList.lookup_eq_none, ← AList.lookup_eq_none] at hgone ⊢
    rwa [hsame.ticket, hsame.pool, hsame.joined]

end Restricts

/-- The loop is a greedy matching of the users that are left in the queue. -/
theorem tryAll_pairs (hr : ruleset ∈ allQueueRulesets) (hq : Consistent q) (limit : ℤ)
    (users : List UserID) (n : ℕ) {S : Set UserID} (hS : Restricts q S (s.queue pool ruleset)) :
    ∃ ps S' s', tryAll pool ruleset limit (fun _ => { now := now }) users n s =
        (n + ps.length, none, s') ∧
      Pass (Mutual q now) (limit - n).toNat users S ps S' ∧ Paired pool ruleset s s' ps := by
  induction users generalizing n s S with
  | nil => exact ⟨[], S, s, rfl, .done _ S, .nil fun _ _ => .refl _ _⟩
  | cons u users ih =>
      unfold tryAll
      by_cases hlimit : limit ≤ n
      · have hzero : (limit - n).toNat = 0 := by omega
        rw [if_pos hlimit, hzero]
        exact ⟨[], S, s, rfl, .full _ S, .nil fun _ _ => .refl _ _⟩
      · rw [if_neg hlimit]
        rcases tryMatch_pairs hr (hS.consistent hq) now u with
          ⟨s₁, htry, hfirst, halone⟩ | ⟨c, s₁, htry, hfirst, hmutual⟩
        · have hall : S \ {u | u ∈ agents []} = S := by simp
          have hnext := hS.step hfirst
          rw [hall] at hnext
          obtain ⟨ps, S', s', hloop, hpass, hrest⟩ := ih n hnext
          rw [htry]
          refine ⟨ps, S', s', hloop, .skip (fun hu b hb hub => ?_) hpass, ?_⟩
          · exact halone b (hS.mutual_iff.2 ⟨hu, hb, hub⟩)
          · exact hfirst.trans hrest (by simp)
        · obtain ⟨hu, hc, hrel⟩ := hS.mutual_iff.1 hmutual
          have hpair : S \ {v | v ∈ agents [(u, c)]} = S \ {u, c} := by
            ext v
            simp
          have hnext := hS.step hfirst
          rw [hpair] at hnext
          obtain ⟨ps, S', s', hloop, hpass, hrest⟩ := ih (n + 1) hnext
          have hcount : (limit - n).toNat = (limit - (n + 1 : ℕ)).toNat + 1 := by omega
          rw [htry, hcount]
          refine ⟨(u, c) :: ps, S', s', ?_, .take hu hc hrel.1 hrel hpass, ?_⟩
          · show tryAll pool ruleset limit _ users (n + 1) s₁ = _
            rw [hloop, List.length_cons, Nat.add_right_comm, Nat.add_assoc]
          · refine hfirst.trans hrest fun v hv hv' => ?_
            have hfree := hpass.mem_of_agent hv'
            rw [← hpair] at hfree
            exact hfree.2 hv

theorem same_release (owner : String) (s : Store) (r : GameRuleset) (v : UserID) :
    Same (s.queue pool r) ((releaseMatcherLock pool ruleset owner false s).queue pool r) v := by
  refine same_update (fun q =>
    if q.matcherLock = some owner then { q with matcherLock := none } else q) (fun v => ?_) r v
  split_ifs
  · exact ⟨rfl, rfl, rfl, rfl⟩
  · exact .refl _ v

theorem runMatchmaking_pairs (hr : ruleset ∈ allQueueRulesets) (hq : Consistent (s.queue pool ruleset))
    (hfree : (s.queue pool ruleset).matcherLock = none) (limit : ℤ) :
    ∃ pairs s', runMatchmaking pool ruleset { now := now, tries := fun _ => { now := now } } limit s =
        ⟨pairs.length, none, s'⟩ ∧
      pairs.length ≤ passLimit limit ∧ (agents pairs).Nodup ∧
      (∀ p ∈ pairs, Mutual (s.queue pool ruleset) now p.1 p.2) ∧ Paired pool ruleset s s' pairs ∧
      (pairs.length < passLimit limit → ∀ a b, ¬ Mutual (s'.queue pool ruleset) now a b) := by
  have hlocked : ∀ r v, Same (s.queue pool r) ((s.update pool ruleset fun q =>
      { q with matcherLock := some (ticketID "matcher" now) }).queue pool r) v :=
    same_update _ fun v => ⟨rfl, rfl, rfl, rfl⟩
  have hlimit : 0 < passLimit limit := by
    unfold passLimit
    split_ifs <;> omega
  unfold runMatchmaking
  dsimp only
  rw [normalizeRuleset_of_mem hr, if_neg Bool.false_ne_true, hfree]
  dsimp only
  rw [if_neg Bool.false_ne_true]
  generalize s.update pool ruleset
    (fun q => { q with matcherLock := some (ticketID "matcher" now) }) = s₁ at hlocked ⊢
  have hall : Restricts (s.queue pool ruleset) Set.univ (s.queue pool ruleset) :=
    ⟨fun u _ => .refl _ u, fun u hu => absurd (Set.mem_univ u) hu⟩
  have hstart : Restricts (s.queue pool ruleset) Set.univ (s₁.queue pool ruleset) :=
    ⟨fun u _ => hlocked _ u, fun u hu => absurd (Set.mem_univ u) hu⟩
  obtain ⟨ps, S', s₂, hloop, hpass, hpaired⟩ := @tryAll_pairs pool _ _ s₁ now hr hq (passLimit limit)
    (zrangeByScore (s₁.queue pool ruleset).joined none (now - mutualMatchWaitMS)) 0 Set.univ hstart
  have hrelease := @same_release pool ruleset (ticketID "matcher" now) s₂
  have hwhole := ((Paired.nil hlocked).trans hpaired (by simp)).trans (Paired.nil hrelease) (by simp)
  rw [List.nil_append, List.append_nil] at hwhole
  have hlength := hpass.length_le
  refine ⟨ps, releaseMatcherLock pool ruleset (ticketID "matcher" now) false s₂, ?_, by omega,
    hpass.nodup, hpass.related, hwhole, fun hfew a b hab => ?_⟩
  · rw [hloop, Nat.zero_add]
    rfl
  · -- `a` has waited for a second, so that the loop has come to him
    obtain ⟨⟨-, ha⟩, ⟨-, hb⟩, hmutual⟩ := (hall.step hwhole).mutual_iff.1 hab
    obtain ⟨-, ta, -, hta, -, hwait, -⟩ := id hmutual
    have hjoined := (hq.ticket a ta hta).2.2
    rw [← (hlocked ruleset a).joined] at hjoined
    refine hpass.maximal (by omega) a (mem_zrangeByScore.2 ⟨_, hjoined, by simp, ?_⟩)
      ((hpass.mem_iff a).2 ⟨Set.mem_univ a, ha⟩) b ((hpass.mem_iff b).2 ⟨Set.mem_univ b, hb⟩) hmutual
    rw [mutualMatchWaitMS]
    omega

/-- A pass on its own over a consistent queue whose lock is free makes a maximal matching: at most as
many pairs as its limit allows, all of them disjoint and mutually eligible, and with fewer pairs than
that no two users of the queue are left that are mutually eligible. -/
theorem runMatchmaking_maximal (pool : QueuePool) (ruleset : GameRuleset) (now limit : ℤ) (s : Store)
    (hq : Consistent (s.queue pool ruleset)) (hfree : (s.queue pool ruleset).matcherLock = none) :
    ∃ pairs s', runMatchmaking pool ruleset { now := now, tries := fun _ => { now := now } } limit s =
        ⟨pairs.length, none, s'⟩ ∧
      pairs.length ≤ passLimit limit ∧ (agents pairs).Nodup ∧
      (∀ p ∈ pairs, Mutual (s.queue pool ruleset) now p.1 p.2) ∧ Paired pool ruleset s s' pairs ∧
      (pairs.length < passLimit limit → ∀ a b, ¬ Mutual (s'.queue pool ruleset) now a b) := by
  have hqueue : ∀ s : Store, s.queue pool (normalizeRuleset ruleset) = s.queue pool ruleset :=
    fun s => queue_normalizeRuleset s ruleset
  rw [← hqueue] at hq hfree
  obtain ⟨ps, s', hrun, hle, hnodup, hmutual, hpaired, hmaximal⟩ :=
    @runMatchmaking_pairs pool _ s now (normalizeRuleset_mem ruleset) hq hfree limit
  have hsame : ∀ env, runMatchmaking pool (normalizeRuleset ruleset) env limit s =
      runMatchmaking pool ruleset env limit s := by
    intro env
    unfold runMatchmaking
    rw [normalizeRuleset_normalizeRuleset]
  rw [hsame] at hrun
  refine ⟨ps, s', hrun, hle, hnodup, ?_, ?_, ?_⟩
  · simpa only [hqueue] using hmutual
  · obtain ⟨hmatched, hleft, hothers⟩ := hpaired
    simp only [hqueue] at hmatched hleft
    exact ⟨hmatched, hleft, hothers⟩
  · simpa only [hqueue] using hmaximal

open Failures (twoQueued)

theorem consistent_twoQueued : Consistent (twoQueued.queue .registered .moving) := by
  have hempty : Consistent {} := by
    refine ⟨fun u hu => absurd hu (AList.notMem_empty u), fun u hu => absurd hu (AList.notMem_empty u),
      fun u t ht => ?_, AList.notMem_empty ""⟩
    exact absurd (Assoc.mem_iff_exists.2 ⟨t, ht⟩) (AList.notMem_empty u)
  exact (hempty.join (t := Store.joinTicket .moving { userID := "u1", mmr := 1000 } 1000) (by decide)).join
    (t := Store.joinTicket .moving { userID := "u2", mmr := 1010 } 1001) (by decide)

theorem runMatchmaking_maximal_twoQueued :
    ∃ pairs s', runMatchmaking .registered .moving { now := 5000, tries := fun _ => { now := 5000 } } 50
        twoQueued = ⟨pairs.length, none, s'⟩ ∧ pairs.length = 1 ∧
      Paired .registered .moving twoQueued s' pairs := by
  obtain ⟨pairs, s', hrun, -, -, -, hpaired, -⟩ :=
    runMatchmaking_maximal .registered .moving 5000 50 twoQueued consistent_twoQueued (by decide)
  refine ⟨pairs, s', hrun, ?_, hpaired⟩
  have hmatched : (runMatchmaking .registered .moving
      { now := 5000, tries := fun _ => { now := 5000 } } 50 twoQueued).matched = 1 := by decide +kernel
  rwa [hrun] at hmatched

/-- A limit of zero does not keep a pass from making a pair. -/
theorem not_le_limit : ¬ ∀ (s : Store) (now limit : ℤ), Consistent (s.queue .registered .moving) →
    (s.queue .registered .moving).matcherLock = none → (runMatchmaking .registered .moving
      { now := now, tries := fun _ => { now := now } } limit s).matched ≤ limit := by
  intro h
  have hle := h twoQueued 5000 0 consistent_twoQueued (by decide)
  have hone : (runMatchmaking .registered .moving
      { now := 5000, tries := fun _ => { now := 5000 } } 0 twoQueued).matched = 1 := by decide +kernel
  rw [hone] at hle
  omega

end GeoDuels.MatchStore.Maximal
