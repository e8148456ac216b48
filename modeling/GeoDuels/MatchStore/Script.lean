import GeoDuels.MatchStore.Matchmaking
import Mathlib.Data.List.MinMax

/-!
# What the match script finds

`atomicMatchScript` chooses, among the members of the pool that are eligible for the caller, the one
whose MMR is closest, and the first one in the order of the pool when several are
(`foldl_considerCandidate`).  `atomicMatch_eq` says what the script then does to the queue.
-/

namespace GeoDuels.MatchStore

/-! ## Ranges of a sorted set -/

theorem mem_zrangeByScore {z : Assoc UserID ℤ} {min : Option ℤ} {max : ℤ} {u : UserID} :
    u ∈ zrangeByScore z min max ↔
      ∃ score, z.lookup u = some score ∧ (∀ a ∈ min, a ≤ score) ∧ score ≤ max := by
  simp only [zrangeByScore, List.mem_map, List.mem_insertionSort, List.mem_filter, Sigma.exists,
    exists_and_right, exists_eq_right, Bool.and_eq_true, decide_eq_true_eq, Assoc.mem_entries_iff]
  refine exists_congr fun score => and_congr_right fun _ => and_congr_left fun _ => ?_
  cases min <;> simp

theorem nodup_zrangeByScore (z : Assoc UserID ℤ) (min : Option ℤ) (max : ℤ) :
    (zrangeByScore z min max).Nodup := by
  have hkeys : (z.entries.map Sigma.fst).Nodup := z.nodupKeys
  have hfilter := (List.filter_sublist
    (p := fun e => min.all (· ≤ e.2) && e.2 ≤ max) (l := z.entries)).map Sigma.fst
  have hperm := (List.perm_insertionSort (fun a b : (_ : UserID) × ℤ =>
    a.2 < b.2 ∨ a.2 = b.2 ∧ a.1 ≤ b.1)
    (z.entries.filter fun e => min.all (· ≤ e.2) && e.2 ≤ max)).map Sigma.fst
  exact hperm.nodup_iff.2 (hkeys.sublist hfilter)

namespace Queue

/-! ## Windows -/

theorem allowedDiff_eq (waitMS : ℤ) : allowedDiff waitMS = min 500 (150 + waitMS / 2000 * 75) := by
  unfold allowedDiff matchExpandEveryMS baseMatchWindowMMR matchExpandStepMMR maxMatchWindowMMR
  dsimp only
  split_ifs <;> omega

theorem allowedDiff_le (waitMS : ℤ) : allowedDiff waitMS ≤ maxMatchWindowMMR := by
  rw [allowedDiff_eq]
  exact min_le_left _ _

/-! ## Candidates -/

/-- When the script takes the user to have joined. -/
def joinedAt (q : Queue) (self : UserID) (now : ℤ) : ℤ :=
  match q.ticket.lookup self with
  | some t => t.joinedAtUnixMS
  | none => now

/-- The difference between the score of `c` and the MMR. -/
def diff (q : Queue) (selfMMR : ℤ) (c : UserID) : ℤ := |(q.pool.lookup c).getD 0 - selfMMR|

/-- `c` waits in the pool with a ticket, both have waited long enough, and the difference in MMR is
allowed after the longer one of their waits. -/
def Eligible (q : Queue) (self : UserID) (selfMMR now : ℤ) (c : UserID) : Prop :=
  c ≠ self ∧ c ∈ q.pool ∧ ∃ t, q.ticket.lookup c = some t ∧
    let selfWait := max 0 (now - q.joinedAt self now)
    let wait := max 0 (now - t.joinedAtUnixMS)
    mutualMatchWaitMS ≤ selfWait ∧ mutualMatchWaitMS ≤ wait ∧
      q.diff selfMMR c ≤ allowedDiff (max selfWait wait)

instance (q : Queue) (self : UserID) (selfMMR now : ℤ) :
    DecidablePred (q.Eligible self selfMMR now) := fun c =>
  decidable_of_iff (c ≠ self ∧ c ∈ q.pool ∧ ∃ t ∈ q.ticket.lookup c,
    mutualMatchWaitMS ≤ max 0 (now - q.joinedAt self now) ∧
      mutualMatchWaitMS ≤ max 0 (now - t.joinedAtUnixMS) ∧ q.diff selfMMR c ≤
        allowedDiff (max (max 0 (now - q.joinedAt self now)) (max 0 (now - t.joinedAtUnixMS)))) Iff.rfl

/-- The members of the pool that the script looks at. -/
def candidates (q : Queue) (selfMMR : ℤ) : List UserID :=
  zrangeByScore q.pool (some (selfMMR - maxMatchWindowMMR)) (selfMMR + maxMatchWindowMMR)

/-- The order in which the differences are compared, by an instance that computes. -/
local instance : Preorder ℤ := Int.instLinearOrder.toPreorder

/-- The eligible candidate with the least difference in MMR, the first one of them in the pool. -/
def partner (q : Queue) (self : UserID) (selfMMR now : ℤ) : Option UserID :=
  ((q.candidates selfMMR).filter (q.Eligible self selfMMR now)).argmin (q.diff selfMMR)

/-- The pool without the candidates that have no ticket. -/
def swept (q : Queue) (self : UserID) (cs : List UserID) : Assoc UserID ℤ :=
  (cs.filter fun c => c ≠ self ∧ c ∉ q.ticket).foldl (fun z c => z.erase c) q.pool

/-- What the loop has found when its best candidate is `c`. -/
def best (q : Queue) (selfMMR : ℤ) : Option UserID → Best
  | none => {}
  | some c => { user := c, ticket := q.ticket.lookup c, diff := q.diff selfMMR c }

variable {q : Queue} {self : UserID} {selfMMR now : ℤ}

theorem Eligible.mem_candidates {c : UserID} (h : q.Eligible self selfMMR now c) :
    c ∈ q.candidates selfMMR := by
  obtain ⟨-, hc, t, -, -, -, hdiff⟩ := h
  obtain ⟨score, hscore⟩ := Assoc.mem_iff_exists.1 hc
  have hle := hdiff.trans (allowedDiff_le _)
  rw [diff, hscore, Option.getD_some, abs_le] at hle
  refine mem_zrangeByScore.2 ⟨score, hscore, fun a ha => ?_, by omega⟩
  rw [← Option.some.inj ha]
  omega

theorem partner_eq_none_iff : q.partner self selfMMR now = none ↔
    ∀ c, ¬ q.Eligible self selfMMR now c := by
  unfold partner
  rw [List.argmin_eq_none, List.filter_eq_nil_iff]
  constructor
  · intro h c hc
    exact h c hc.mem_candidates (decide_eq_true hc)
  · intro h c _ hc
    exact h c (of_decide_eq_true hc)

theorem eligible_of_partner {c : UserID} (h : q.partner self selfMMR now = some c) :
    q.Eligible self selfMMR now c :=
  of_decide_eq_true (List.mem_filter.1 (List.argmin_mem h)).2

theorem lookup_swept (cs : List UserID) (u : UserID) : (q.swept self cs).lookup u =
    if u ∈ cs ∧ u ≠ self ∧ u ∉ q.ticket then none else q.pool.lookup u := by
  unfold swept
  rw [Assoc.lookup_foldl_erase]
  simp [List.mem_filter]

/-- A user with a ticket stays in the pool. -/
theorem lookup_swept_of_mem (cs : List UserID) {u : UserID} (hu : u ∈ q.ticket) :
    (q.swept self cs).lookup u = q.pool.lookup u := by
  rw [lookup_swept, if_neg fun h => h.2.2 hu]

theorem swept_concat (cs : List UserID) (c : UserID) : q.swept self (cs ++ [c]) =
    if c ≠ self ∧ c ∉ q.ticket then (q.swept self cs).erase c else q.swept self cs := by
  unfold swept
  rw [List.filter_append, List.foldl_append, List.filter_singleton]
  by_cases hc : c ≠ self ∧ c ∉ q.ticket
  · simp [hc]
  · simp [hc]

/-- One candidate, when nothing has happened to it so far. -/
theorem considerCandidate_eq {z : Assoc UserID ℤ} {c : UserID} (hz : z.lookup c = q.pool.lookup c)
    (hc : c ∈ q.pool) (b : Best) :
    considerCandidate self selfMMR (q.joinedAt self now) now ({ q with pool := z }, b) c =
      ({ q with pool := if c ≠ self ∧ c ∉ q.ticket then z.erase c else z },
        if q.Eligible self selfMMR now c ∧ q.diff selfMMR c < b.diff then q.best selfMMR (some c)
        else b) := by
  obtain ⟨score, hscore⟩ := Assoc.mem_iff_exists.1 hc
  unfold considerCandidate
  dsimp only
  rw [hz, hscore]
  by_cases hself : c = self
  · have hnot : ¬ q.Eligible self selfMMR now c := fun h => h.1 hself
    rw [if_pos hself, if_neg fun h => h.1 hself, if_neg fun h => hnot h.1]
  · cases ht : q.ticket.lookup c with
    | none =>
        have hmem : c ∉ q.ticket := AList.lookup_eq_none.1 ht
        have hnot : ¬ q.Eligible self selfMMR now c := by
          rintro ⟨-, -, t, ht', -⟩
          rw [ht] at ht'
          cases ht'
        simp [hself, hmem, hnot]
    | some t =>
        have hmem : c ∈ q.ticket := Assoc.mem_iff_exists.2 ⟨t, ht⟩
        have hdiff : |score - selfMMR| = q.diff selfMMR c := by rw [diff, hscore, Option.getD_some]
        have heligible : q.Eligible self selfMMR now c ↔
            mutualMatchWaitMS ≤ max 0 (now - q.joinedAt self now) ∧
              mutualMatchWaitMS ≤ max 0 (now - t.joinedAtUnixMS) ∧ q.diff selfMMR c ≤
                allowedDiff (max (max 0 (now - q.joinedAt self now)) (max 0 (now - t.joinedAtUnixMS))) := by
          constructor
          · rintro ⟨-, -, t', ht', h⟩
            obtain rfl : t = t' := Option.some.inj (ht.symm.trans ht')
            exact h
          · exact fun h => ⟨hself, hc, t, ht, h⟩
        rw [if_neg hself, if_neg fun h => h.2 hmem]
        dsimp only
        rw [hdiff]
        by_cases h : q.Eligible self selfMMR now c ∧ q.diff selfMMR c < b.diff
        · obtain ⟨hself', hwait, hallowed⟩ := heligible.1 h.1
          rw [if_pos h, if_pos ⟨hself', hwait, hallowed, h.2⟩, best, ht]
        · rw [if_neg h, if_neg fun h' => h ⟨heligible.2 ⟨h'.1, h'.2.1, h'.2.2.1⟩, h'.2.2.2⟩]

theorem best_concat {c : UserID} (hc : q.Eligible self selfMMR now c) (cs : List UserID) :
    q.best selfMMR (List.argmin (q.diff selfMMR) (cs ++ [c])) =
      if q.diff selfMMR c < (q.best selfMMR (List.argmin (q.diff selfMMR) cs)).diff then
        q.best selfMMR (some c)
      else q.best selfMMR (List.argmin (q.diff selfMMR) cs) := by
  rw [List.argmin_concat]
  cases List.argmin (q.diff selfMMR) cs with
  | none =>
      obtain ⟨-, -, t, -, -, -, hdiff⟩ := hc
      have hle : q.diff selfMMR c < maxMatchWindowMMR + 1 := by
        have := hdiff.trans (allowedDiff_le _)
        omega
      simp [best, hle]
  | some d => by_cases hd : q.diff selfMMR c < q.diff selfMMR d <;> simp [hd, best]

/-- The loop of the script, over candidates that are in the pool. -/
theorem foldl_considerCandidate (cs : List UserID) (hnodup : cs.Nodup)
    (hpool : ∀ c ∈ cs, c ∈ q.pool) :
    cs.foldl (considerCandidate self selfMMR (q.joinedAt self now) now) (q, {}) =
      ({ q with pool := q.swept self cs }, q.best selfMMR
        ((cs.filter (q.Eligible self selfMMR now)).argmin (q.diff selfMMR))) := by
  induction cs using List.reverseRecOn with
  | nil => rfl
  | append_singleton cs c ih =>
      obtain ⟨hcs, -, hdisjoint⟩ := List.nodup_append.1 hnodup
      have hc : c ∉ cs := fun hmem => hdisjoint c hmem c (List.mem_singleton_self c) rfl
      have hsame : (q.swept self cs).lookup c = q.pool.lookup c := by
        rw [lookup_swept, if_neg fun h => hc h.1]
      rw [List.foldl_append, ih hcs fun d hd => hpool d (List.mem_append_left _ hd),
        List.foldl_cons, List.foldl_nil,
        considerCandidate_eq hsame (hpool c (List.mem_append_right _ (List.mem_singleton_self c))),
        swept_concat, List.filter_append, List.filter_singleton]
      by_cases heligible : q.Eligible self selfMMR now c
      · simp [heligible, best_concat heligible]
      · simp [heligible]

theorem atomicMatch_loop : (q.candidates selfMMR).foldl
    (considerCandidate self selfMMR (q.joinedAt self now) now) (q, {}) =
      ({ q with pool := q.swept self (q.candidates selfMMR) },
        q.best selfMMR (q.partner self selfMMR now)) := by
  refine foldl_considerCandidate _ (nodup_zrangeByScore ..) fun c hc => ?_
  obtain ⟨score, hscore, -⟩ := mem_zrangeByScore.1 hc
  exact Assoc.mem_iff_exists.2 ⟨score, hscore⟩

/-- What the script returns and does. -/
theorem atomicMatch_eq (q : Queue) (self : UserID) (selfMMR now : ℤ) :
    q.atomicMatch self selfMMR now =
      match q.partner self selfMMR now with
      | none => (none, { q with pool := q.swept self (q.candidates selfMMR) })
      | some c =>
          if c = "" then (none, { q with pool := q.swept self (q.candidates selfMMR) })
          else if self ∈ q.pool then
            (q.ticket.lookup c,
              { q with
                pool := ((q.swept self (q.candidates selfMMR)).erase self).erase c
                ticket := (q.ticket.erase self).erase c
                joined := (q.joined.erase self).erase c })
          else
            (none,
              { q with pool := ((q.swept self (q.candidates selfMMR)).erase self).erase c }) := by
  unfold atomicMatch
  dsimp only
  generalize hqb : List.foldl _ _ _ = qb
  obtain rfl : qb = _ := hqb.symm.trans (@atomicMatch_loop q self selfMMR now)
  cases hp : q.partner self selfMMR now with
  | none => rfl
  | some c =>
      have heligible := eligible_of_partner hp
      obtain ⟨hne, hpool, t, ht, -⟩ := heligible
      by_cases hc : c = ""
      · simp [best, hc]
      · have hself : self ∈ q.swept self (q.candidates selfMMR) ↔ self ∈ q.pool := by
          rw [← AList.lookup_isSome, ← AList.lookup_isSome, lookup_swept, if_neg fun h => h.2.1 rfl]
        have hremaining : c ∈ (q.swept self (q.candidates selfMMR)).erase self := by
          rw [AList.mem_erase, ← AList.lookup_isSome,
            lookup_swept_of_mem _ (Assoc.mem_iff_exists.2 ⟨t, ht⟩), AList.lookup_isSome]
          exact ⟨hne, hpool⟩
        by_cases hin : self ∈ q.pool
        · simp only [best, hc, hself, hremaining, hin, if_true, if_false]
        · simp only [best, hc, hself, hremaining, hin, if_true, if_false]
          rfl

end Queue

end GeoDuels.MatchStore
