import GeoDuels.MatchStore.Script
import Mathlib.Data.String.Basic

/-!
# The match script and its reference

The store in memory of `memory_store_test.go` looks for an opponent with `bestMatchIndex`, a plain
scan of a list of tickets.  Over the other tickets of a queue, by score and then by user, it finds
the ticket that `atomicMatchScript` returns (`atomicMatch_bestMatchIndex`): the eligible members of
the range of the script are the tickets that the scan accepts, in the same order
(`filter_eligible`).
-/

namespace GeoDuels.MatchStore

/-! ## The scan -/

def allowedMatchDiff (nowMS joinedA joinedB : ℤ) : ℤ :=
  let waitMS := nowMS - joinedA
  let waitMS := if waitMS < nowMS - joinedB then nowMS - joinedB else waitMS
  let waitMS := if waitMS < 0 then 0 else waitMS
  let allowed :=
    if 0 < matchExpandEveryMS then
      baseMatchWindowMMR + waitMS.tdiv matchExpandEveryMS * matchExpandStepMMR
    else baseMatchWindowMMR
  if maxMatchWindowMMR < allowed then maxMatchWindowMMR else allowed

def waitedLongEnough (nowMS joinedA joinedB : ℤ) : Bool :=
  mutualMatchWaitMS ≤ nowMS - joinedA && mutualMatchWaitMS ≤ nowMS - joinedB

/-- The body of the loop of `bestMatchIndex`, on the best index and the best difference. -/
def scanTicket (self : Ticket) (nowMS : ℤ) (best : ℤ × ℤ) (e : Ticket × ℕ) : ℤ × ℤ :=
  if e.1.userID = self.userID then best
  else
    let d := |e.1.mmr - self.mmr|
    if waitedLongEnough nowMS self.joinedAtUnixMS e.1.joinedAtUnixMS ∧
        d ≤ allowedMatchDiff nowMS self.joinedAtUnixMS e.1.joinedAtUnixMS ∧ d < best.2 then
      (e.2, d)
    else best

/-- The index of the best opponent of `self`, or `-1`; the difference starts at `math.MaxInt`. -/
def bestMatchIndex (queue : List Ticket) (self : Ticket) (nowMS : ℤ) : ℤ :=
  (queue.zipIdx.foldl (scanTicket self nowMS) (-1, 2 ^ 63 - 1)).1

/-- What the loop asks of a ticket, the difference found so far apart. -/
def Suits (self : Ticket) (nowMS : ℤ) (t : Ticket) : Prop :=
  t.userID ≠ self.userID ∧ waitedLongEnough nowMS self.joinedAtUnixMS t.joinedAtUnixMS ∧
    |t.mmr - self.mmr| ≤ allowedMatchDiff nowMS self.joinedAtUnixMS t.joinedAtUnixMS

instance (self : Ticket) (nowMS : ℤ) : DecidablePred (Suits self nowMS) := fun t => by
  unfold Suits
  infer_instance

/-- `t` suits, no ticket that suits is closer, and none before it is as close. -/
structure First (queue : List Ticket) (own : Ticket) (nowMS : ℤ) (n : ℕ) (t : Ticket) : Prop where
  get : queue[n]? = some t
  suits : Suits own nowMS t
  least : ∀ t' ∈ queue, Suits own nowMS t' → |t.mmr - own.mmr| ≤ |t'.mmr - own.mmr|
  first : ∀ m < n, ∀ t', queue[m]? = some t' → Suits own nowMS t' →
    |t.mmr - own.mmr| < |t'.mmr - own.mmr|

variable {self : Ticket} {nowMS : ℤ}

theorem allowedMatchDiff_eq (nowMS joinedA joinedB : ℤ) : allowedMatchDiff nowMS joinedA joinedB =
    Queue.allowedDiff (max (max 0 (nowMS - joinedA)) (max 0 (nowMS - joinedB))) := by
  have hwait : max (max 0 (nowMS - joinedA)) (max 0 (nowMS - joinedB)) =
      if (if nowMS - joinedA < nowMS - joinedB then nowMS - joinedB else nowMS - joinedA) < 0 then 0
      else if nowMS - joinedA < nowMS - joinedB then nowMS - joinedB else nowMS - joinedA := by
    omega
  rw [hwait]
  unfold allowedMatchDiff Queue.allowedDiff
  dsimp only
  rw [Int.tdiv_eq_ediv_of_nonneg (by omega)]

theorem allowedMatchDiff_le (nowMS joinedA joinedB : ℤ) :
    allowedMatchDiff nowMS joinedA joinedB ≤ 500 := by
  rw [allowedMatchDiff_eq]
  exact Queue.allowedDiff_le _

/-- One ticket of the scan. -/
theorem scanTicket_eq (best : ℤ × ℤ) (t : Ticket) (n : ℕ) : scanTicket self nowMS best (t, n) =
    if Suits self nowMS t ∧ |t.mmr - self.mmr| < best.2 then ((n : ℤ), |t.mmr - self.mmr|)
    else best := by
  unfold scanTicket Suits
  by_cases h : t.userID = self.userID
  · simp [h]
  · simp [h, and_assoc]

/-- What the scan of a list has found: nothing suits, or the first of the closest. -/
inductive Scanned (queue : List Ticket) (self : Ticket) (nowMS : ℤ) : ℤ × ℤ → Prop
  | nothing (none : ∀ t ∈ queue, ¬ Suits self nowMS t) :
      Scanned queue self nowMS (-1, 2 ^ 63 - 1)
  | found (n : ℕ) (t : Ticket) (first : First queue self nowMS n t) :
      Scanned queue self nowMS (n, |t.mmr - self.mmr|)

theorem First.append {queue : List Ticket} {n : ℕ} {t x : Ticket} (h : First queue self nowMS n t)
    (hx : Suits self nowMS x → |t.mmr - self.mmr| ≤ |x.mmr - self.mmr|) :
    First (queue ++ [x]) self nowMS n t := by
  obtain ⟨hn, -⟩ := List.getElem?_eq_some_iff.1 h.get
  refine ⟨?_, h.suits, fun t' ht' hs => ?_, fun m hm t' ht' hs => ?_⟩
  · rw [List.getElem?_append_left hn]
    exact h.get
  · rcases List.mem_append.1 ht' with ht' | ht'
    · exact h.least t' ht' hs
    · obtain rfl := List.mem_singleton.1 ht'
      exact hx hs
  · rw [List.getElem?_append_left (by omega)] at ht'
    exact h.first m hm t' ht' hs

/-- A ticket at the end that is closer than all others that suit. -/
theorem First.concat {queue : List Ticket} {x : Ticket} (hx : Suits self nowMS x)
    (h : ∀ t ∈ queue, Suits self nowMS t → |x.mmr - self.mmr| < |t.mmr - self.mmr|) :
    First (queue ++ [x]) self nowMS queue.length x := by
  refine ⟨List.getElem?_concat_length, hx, fun t' ht' hs => ?_, fun m hm t' ht' hs => ?_⟩
  · rcases List.mem_append.1 ht' with ht' | ht'
    · exact (h t' ht' hs).le
    · rw [List.mem_singleton.1 ht']
  · rw [List.getElem?_append_left hm] at ht'
    exact h t' (List.mem_of_getElem? ht') hs

/-- The loop, by induction on the tickets that it has seen. -/
theorem scanned_foldl (queue : List Ticket) :
    Scanned queue self nowMS (queue.zipIdx.foldl (scanTicket self nowMS) (-1, 2 ^ 63 - 1)) := by
  induction queue using List.reverseRecOn with
  | nil => exact .nothing fun t ht => absurd ht List.not_mem_nil
  | append_singleton queue x ih =>
      rw [List.zipIdx_append, List.foldl_append, List.zipIdx_singleton, List.foldl_cons,
        List.foldl_nil, scanTicket_eq, Nat.zero_add]
      generalize List.foldl _ _ _ = best at ih ⊢
      cases ih with
      | nothing hnone =>
          by_cases hx : Suits self nowMS x
          · have hlt : |x.mmr - self.mmr| < 2 ^ 63 - 1 := by
              have := hx.2.2.trans (allowedMatchDiff_le ..)
              omega
            rw [if_pos ⟨hx, hlt⟩]
            exact .found _ x (.concat hx fun t ht hs => absurd hs (hnone t ht))
          · rw [if_neg fun h => hx h.1]
            refine .nothing fun t ht => ?_
            rcases List.mem_append.1 ht with ht | ht
            · exact hnone t ht
            · rwa [List.mem_singleton.1 ht]
      | found n t hfirst =>
          by_cases hx : Suits self nowMS x ∧ |x.mmr - self.mmr| < |t.mmr - self.mmr|
          · rw [if_pos hx]
            exact .found _ x (.concat hx.1 fun t' ht' hs => hx.2.trans_le (hfirst.least t' ht' hs))
          · rw [if_neg hx]
            exact .found n t (hfirst.append fun hs => not_lt.1 fun hlt => hx ⟨hs, hlt⟩)

/-! ## The tickets of a queue -/

/-- A list has its first minimum where what comes before is larger and what comes after is not
smaller. -/
theorem argmin_append_cons {α β : Type*} [Preorder β] [DecidableLT β] {f : α → β} {a : α}
    {l₁ l₂ : List α} (h₁ : ∀ b ∈ l₁, f a < f b) (h₂ : ∀ b ∈ l₂, f a ≤ f b) :
    (l₁ ++ a :: l₂).argmin f = some a := by
  induction l₂ using List.reverseRecOn with
  | nil =>
      rw [List.argmin_concat]
      cases h : l₁.argmin f with
      | none => rfl
      | some b => simp [h₁ b (List.argmin_mem h)]
  | append_singleton l₂ b ih =>
      have hb : ¬ f b < f a := not_lt_of_ge (h₂ b (by simp))
      rw [← List.cons_append, ← List.append_assoc, List.argmin_concat,
        ih fun c hc => h₂ c (List.mem_append_left _ hc)]
      simp [hb]

namespace Queue

/-- The order of `ZRANGEBYSCORE`. -/
def Before (a b : UserID × ℤ) : Prop := a.2 < b.2 ∨ a.2 = b.2 ∧ a.1 ≤ b.1

instance : DecidableRel Before := fun a b => by
  unfold Before
  infer_instance

/-- The tickets of the users other than `self`, by score and then by user. -/
def others (q : Queue) (self : UserID) : List Ticket :=
  ((q.ticket.entries.map Sigma.snd).filter (·.userID ≠ self)).insertionSort
    fun a b => Before (a.userID, a.mmr) (b.userID, b.mmr)

/-- The tickets are kept under their users, who are in the pool at their MMR. -/
structure Ticketed (q : Queue) : Prop where
  ticket : ∀ u t, q.ticket.lookup u = some t → t.userID = u ∧ q.pool.lookup u = some t.mmr
  named : "" ∉ q.ticket

/-- The order of the pool. -/
def Ahead (q : Queue) (u v : UserID) : Prop :=
  Before (u, (q.pool.lookup u).getD 0) (v, (q.pool.lookup v).getD 0)

variable {q : Queue}

theorem before_total (a b : UserID × ℤ) : Before a b ∨ Before b a := by
  rcases lt_trichotomy a.2 b.2 with h | h | h
  · exact .inl (.inl h)
  · exact (le_total a.1 b.1).imp (fun hle => .inr ⟨h, hle⟩) fun hle => .inr ⟨h.symm, hle⟩
  · exact .inr (.inl h)

theorem before_trans {a b c : UserID × ℤ} (hab : Before a b) (hbc : Before b c) : Before a c := by
  unfold Before at *
  rcases hab with hab | ⟨hab, hab'⟩ <;> rcases hbc with hbc | ⟨hbc, hbc'⟩
  · exact .inl (hab.trans hbc)
  · exact .inl (hab.trans_eq hbc)
  · exact .inl (hab.trans_lt hbc)
  · exact .inr ⟨hab.trans hbc, hab'.trans hbc'⟩

theorem before_antisymm {a b : UserID × ℤ} (hab : Before a b) (hba : Before b a) : a.1 = b.1 := by
  unfold Before at *
  rcases hab with hab | ⟨hab, hab'⟩ <;> rcases hba with hba | ⟨hba, hba'⟩
  · omega
  · omega
  · omega
  · exact le_antisymm hab' hba'

/-- Sorting by keys sorts. -/
theorem pairwise_sortBy {α : Type*} (key : α → UserID × ℤ) (l : List α) :
    (l.insertionSort fun a b => Before (key a) (key b)).Pairwise
      fun a b => Before (key a) (key b) := by
  have : Std.Total fun a b => Before (key a) (key b) := ⟨fun a b => before_total ..⟩
  have : IsTrans α fun a b => Before (key a) (key b) := ⟨fun a b c => before_trans⟩
  exact List.pairwise_insertionSort _ l

theorem pairwise_zrangeByScore (q : Queue) (min : Option ℤ) (max : ℤ) :
    (zrangeByScore q.pool min max).Pairwise q.Ahead := by
  unfold zrangeByScore
  rw [List.pairwise_map]
  refine (pairwise_sortBy (fun e : (_ : UserID) × ℤ => (e.1, e.2)) _).imp_of_mem ?_
  intro a b ha hb hab
  rw [List.mem_insertionSort, List.mem_filter] at ha hb
  rw [Ahead, Assoc.mem_entries_iff.1 ha.1, Assoc.mem_entries_iff.1 hb.1]
  exact hab

theorem mem_others (hq : q.Ticketed) {self : UserID} {t : Ticket} :
    t ∈ q.others self ↔ t.userID ≠ self ∧ q.ticket.lookup t.userID = some t := by
  unfold others
  rw [List.mem_insertionSort, List.mem_filter, List.mem_map, decide_eq_true_eq]
  constructor
  · rintro ⟨⟨e, he, rfl⟩, hne⟩
    have ht := Assoc.mem_entries_iff.1 he
    rw [(hq.ticket _ _ ht).1]
    exact ⟨(hq.ticket _ _ ht).1 ▸ hne, ht⟩
  · rintro ⟨hne, ht⟩
    exact ⟨⟨⟨t.userID, t⟩, Assoc.mem_entries_iff.2 ht, rfl⟩, hne⟩

theorem pairwise_others (hq : q.Ticketed) (self : UserID) :
    ((q.others self).map Ticket.userID).Pairwise q.Ahead := by
  rw [List.pairwise_map]
  refine (pairwise_sortBy (fun t : Ticket => (t.userID, t.mmr)) _).imp_of_mem ?_
  intro a b ha hb hab
  have ha' := (hq.ticket _ _ ((mem_others hq).1 ha).2).2
  have hb' := (hq.ticket _ _ ((mem_others hq).1 hb).2).2
  rw [Ahead, ha', hb']
  exact hab

theorem nodup_others (hq : q.Ticketed) (self : UserID) :
    ((q.others self).map Ticket.userID).Nodup := by
  have hkeys : (q.ticket.entries.map Sigma.fst).Nodup := q.ticket.nodupKeys
  have hsame : (q.ticket.entries.map Sigma.snd).map Ticket.userID =
      q.ticket.entries.map Sigma.fst := by
    rw [List.map_map]
    refine List.map_congr_left fun e he => ?_
    exact (hq.ticket _ _ (Assoc.mem_entries_iff.1 he)).1
  rw [← hsame] at hkeys
  unfold others
  rw [((List.perm_insertionSort _ _).map Ticket.userID).nodup_iff]
  exact hkeys.sublist (List.filter_sublist.map _)

/-- The scan accepts the tickets that are eligible for the script. -/
theorem eligible_iff_suits (hq : q.Ticketed) {own t : Ticket}
    (hown : q.ticket.lookup own.userID = some own) (ht : q.ticket.lookup t.userID = some t) :
    q.Eligible own.userID own.mmr nowMS t.userID ↔ Suits own nowMS t := by
  have hpool := (hq.ticket _ _ ht).2
  have hjoined : q.joinedAt own.userID nowMS = own.joinedAtUnixMS := by rw [joinedAt, hown]
  have hdiff : q.diff own.mmr t.userID = |t.mmr - own.mmr| := by
    rw [diff, hpool, Option.getD_some]
  unfold Eligible Suits waitedLongEnough
  rw [hjoined, hdiff, allowedMatchDiff_eq, mutualMatchWaitMS]
  constructor
  · rintro ⟨hne, -, t', ht', hself, hwait, hle⟩
    obtain rfl : t = t' := Option.some.inj (ht.symm.trans ht')
    refine ⟨hne, ?_, hle⟩
    simp only [Bool.and_eq_true, decide_eq_true_eq]
    omega
  · rintro ⟨hne, hwait, hle⟩
    simp only [Bool.and_eq_true, decide_eq_true_eq] at hwait
    exact ⟨hne, Assoc.mem_iff_exists.2 ⟨_, hpool⟩, t, ht, by omega, by omega, hle⟩

/-- The members that the script takes into account are the tickets that the scan does, in the same
order. -/
theorem filter_eligible (hq : q.Ticketed) {own : Ticket}
    (hown : q.ticket.lookup own.userID = some own) :
    (q.candidates own.mmr).filter (q.Eligible own.userID own.mmr nowMS) =
      ((q.others own.userID).filter (Suits own nowMS)).map Ticket.userID := by
  have hperm : ((q.candidates own.mmr).filter (q.Eligible own.userID own.mmr nowMS)).Perm
      (((q.others own.userID).filter (Suits own nowMS)).map Ticket.userID) := by
    have hnodup := (nodup_others hq own.userID).sublist
      ((List.filter_sublist (p := Suits own nowMS) (l := q.others own.userID)).map Ticket.userID)
    refine (List.perm_ext_iff_of_nodup ((nodup_zrangeByScore ..).filter _) hnodup).2 fun c => ?_
    rw [List.mem_filter, List.mem_map, decide_eq_true_eq]
    constructor
    · rintro ⟨-, hc⟩
      obtain ⟨hne, -, t, ht, -⟩ := id hc
      obtain rfl := (hq.ticket c t ht).1
      exact ⟨t, List.mem_filter.2 ⟨(mem_others hq).2 ⟨hne, ht⟩,
        decide_eq_true ((eligible_iff_suits hq hown ht).1 hc)⟩, rfl⟩
    · rintro ⟨t, ht, rfl⟩
      obtain ⟨hmem, hs⟩ := List.mem_filter.1 ht
      have hc := (eligible_iff_suits hq hown ((mem_others hq).1 hmem).2).2 (of_decide_eq_true hs)
      exact ⟨hc.mem_candidates, hc⟩
  refine List.Perm.eq_of_pairwise (fun u v _ _ => before_antisymm)
    ((pairwise_zrangeByScore ..).sublist List.filter_sublist)
    ((pairwise_others hq own.userID).sublist (List.filter_sublist.map _)) hperm

/-! ## The script and the scan -/

/-- The keys of the users `gone` are gone, and so are the members of the pool in the range of the
script that have no ticket; nothing else has changed. -/
structure Takes (q q' : Queue) (mmr : ℤ) (gone : List UserID) : Prop where
  pool : ∀ u, q'.pool.lookup u =
    if u ∈ gone ∨ u ∉ q.ticket ∧ ∃ score, q.pool.lookup u = some score ∧ |score - mmr| ≤ 500 then none
    else q.pool.lookup u
  ticket : ∀ u, q'.ticket.lookup u = if u ∈ gone then none else q.ticket.lookup u
  joined : ∀ u, q'.joined.lookup u = if u ∈ gone then none else q.joined.lookup u
  matched : q'.matched = q.matched
  matcherLock : q'.matcherLock = q.matcherLock

/-- The script and the scan agree: neither finds anybody, or the script returns the ticket that the
scan finds and takes the two users out of the queue. -/
inductive Agree (q : Queue) (own : Ticket) (nowMS : ℤ) : ℤ → Option Ticket × Queue → Prop
  | nobody (q' : Queue) (none : ∀ t ∈ q.others own.userID, ¬ Suits own nowMS t)
      (takes : Takes q q' own.mmr []) : Agree q own nowMS (-1) (.none, q')
  | found (n : ℕ) (t : Ticket) (q' : Queue) (first : First (q.others own.userID) own nowMS n t)
      (takes : Takes q q' own.mmr [own.userID, t.userID]) : Agree q own nowMS n (some t, q')

/-- A user who joins is in the pool at his MMR. -/
theorem Ticketed.join (hq : q.Ticketed) {t : Ticket} (ht : t.userID ≠ "") : (q.join t).Ticketed := by
  refine ⟨fun u t' ht' => ?_, fun hempty => ?_⟩
  · simp only [Queue.join, Assoc.lookup_insert] at ht' ⊢
    split_ifs at ht' ⊢ with h
    · obtain rfl := Option.some.inj ht'
      exact ⟨h.symm, rfl⟩
    · exact hq.ticket u t' ht'
  · rw [Queue.join, AList.mem_insert] at hempty
    exact hempty.elim (fun h => ht h.symm) hq.named

/-- Whoever keeps his ticket keeps his place in the pool. -/
theorem Takes.ticketed {q' : Queue} {mmr : ℤ} {gone : List UserID} (h : Takes q q' mmr gone)
    (hq : q.Ticketed) : q'.Ticketed := by
  refine ⟨fun u t ht => ?_, fun hempty => ?_⟩
  · rw [h.ticket] at ht
    split_ifs at ht with hu
    have hmem : u ∈ q.ticket := Assoc.mem_iff_exists.2 ⟨t, ht⟩
    rw [h.pool, if_neg fun hdrop => hdrop.elim hu fun hdrop => hdrop.1 hmem]
    exact hq.ticket u t ht
  · obtain ⟨t, ht⟩ := Assoc.mem_iff_exists.1 hempty
    rw [h.ticket] at ht
    split_ifs at ht with hu
    exact hq.named (Assoc.mem_iff_exists.2 ⟨t, ht⟩)

theorem lookup_swept_candidates {own : Ticket} (hown : q.ticket.lookup own.userID = some own)
    (u : UserID) : (q.swept own.userID (q.candidates own.mmr)).lookup u =
      if u ∉ q.ticket ∧ ∃ score, q.pool.lookup u = some score ∧ |score - own.mmr| ≤ 500 then none
      else q.pool.lookup u := by
  have hmem : own.userID ∈ q.ticket := Assoc.mem_iff_exists.2 ⟨own, hown⟩
  have hrange : u ∈ q.candidates own.mmr ↔
      ∃ score, q.pool.lookup u = some score ∧ |score - own.mmr| ≤ 500 := by
    unfold candidates maxMatchWindowMMR
    rw [mem_zrangeByScore]
    refine exists_congr fun score => and_congr_right fun _ => ?_
    simp only [Option.mem_some_iff, forall_eq', abs_le]
    omega
  rw [lookup_swept]
  refine if_congr ⟨fun h => ⟨h.2.2, hrange.1 h.1⟩, fun h => ⟨hrange.2 h.2, ?_, h.1⟩⟩ rfl rfl
  rintro rfl
  exact h.1 hmem

theorem partner_of_first (hq : q.Ticketed) {own t : Ticket}
    (hown : q.ticket.lookup own.userID = some own) {n : ℕ}
    (h : First (q.others own.userID) own nowMS n t) :
    q.partner own.userID own.mmr nowMS = some t.userID := by
  have hdiff : ∀ t ∈ q.others own.userID, q.diff own.mmr t.userID = |t.mmr - own.mmr| := by
    intro t ht
    rw [diff, (hq.ticket _ _ ((mem_others hq).1 ht).2).2, Option.getD_some]
  obtain ⟨hn, hget⟩ := List.getElem?_eq_some_iff.1 h.get
  have hsplit : q.others own.userID =
      (q.others own.userID).take n ++ t :: (q.others own.userID).drop (n + 1) := by
    rw [← hget, List.getElem_cons_drop, List.take_append_drop]
  have hmem : t ∈ q.others own.userID := List.mem_of_getElem? h.get
  unfold partner
  rw [filter_eligible hq hown, hsplit, List.filter_append, List.filter_cons, decide_eq_true h.suits,
    if_pos rfl, List.map_append, List.map_cons]
  refine argmin_append_cons (fun u hu => ?_) fun u hu => ?_
  · obtain ⟨t', ht', rfl⟩ := List.mem_map.1 hu
    obtain ⟨htake, hs⟩ := List.mem_filter.1 ht'
    obtain ⟨m, hm, hget'⟩ := List.mem_take_iff_getElem.1 htake
    rw [hdiff t hmem, hdiff t' (List.mem_of_mem_take htake)]
    refine h.first m (by omega) t' ?_ (of_decide_eq_true hs)
    rw [← hget']
    exact List.getElem?_eq_getElem _
  · obtain ⟨t', ht', rfl⟩ := List.mem_map.1 hu
    obtain ⟨hdrop, hs⟩ := List.mem_filter.1 ht'
    have ht' := List.mem_of_mem_drop hdrop
    rw [hdiff t hmem, hdiff t' ht']
    exact h.least t' ht' (of_decide_eq_true hs)

theorem partner_of_nothing (hq : q.Ticketed) {own : Ticket}
    (hown : q.ticket.lookup own.userID = some own)
    (h : ∀ t ∈ q.others own.userID, ¬ Suits own nowMS t) :
    q.partner own.userID own.mmr nowMS = none := by
  unfold partner
  rw [filter_eligible hq hown, List.filter_eq_nil_iff.2 fun t ht hs => h t ht (of_decide_eq_true hs)]
  rfl

/-- Over a queue whose tickets are in the pool at their MMR, the script returns the ticket that
`bestMatchIndex` finds among the others, and drops only what it should. -/
theorem atomicMatch_bestMatchIndex (hq : q.Ticketed) {own : Ticket}
    (hown : q.ticket.lookup own.userID = some own) (nowMS : ℤ) :
    Agree q own nowMS (bestMatchIndex (q.others own.userID) own nowMS)
      (q.atomicMatch own.userID own.mmr nowMS) := by
  have hscan := @scanned_foldl own nowMS (q.others own.userID)
  rw [atomicMatch_eq]
  unfold bestMatchIndex
  generalize List.foldl _ _ _ = best at hscan ⊢
  cases hscan with
  | nothing hnone =>
      rw [partner_of_nothing hq hown hnone]
      refine .nobody _ hnone ⟨fun u => ?_, fun u => rfl, fun u => rfl, rfl, rfl⟩
      simpa using lookup_swept_candidates hown u
  | found n t hfirst =>
      obtain ⟨hne, ht⟩ := (mem_others hq).1 (List.mem_of_getElem? hfirst.get)
      have hnamed : t.userID ≠ "" := fun hempty =>
        hq.named (hempty ▸ Assoc.mem_iff_exists.2 ⟨t, ht⟩)
      have hself : own.userID ∈ q.pool := Assoc.mem_iff_exists.2 ⟨_, (hq.ticket _ _ hown).2⟩
      rw [partner_of_first hq hown hfirst]
      dsimp only
      rw [if_neg hnamed, if_pos hself, ht]
      refine .found n t _ hfirst ⟨fun u => ?_, fun u => ?_, fun u => ?_, rfl, rfl⟩
      · simp only [Assoc.lookup_erase, lookup_swept_candidates hown, List.mem_cons,
          List.not_mem_nil, or_false]
        by_cases hu : u = own.userID <;> by_cases hu' : u = t.userID <;> simp [hu, hu']
      · simp only [Assoc.lookup_erase, List.mem_cons, List.not_mem_nil, or_false]
        by_cases hu : u = own.userID <;> by_cases hu' : u = t.userID <;> simp [hu, hu']
      · simp only [Assoc.lookup_erase, List.mem_cons, List.not_mem_nil, or_false]
        by_cases hu : u = own.userID <;> by_cases hu' : u = t.userID <;> simp [hu, hu']

/-- Two users as close to `u1` as each other, and a member of the pool who has no ticket. -/
def threeQueued : Queue :=
  let q := (({} : Queue).join (Store.joinTicket .moving { userID := "u1", mmr := 1000 } 1000)).join
    (Store.joinTicket .moving { userID := "u2", mmr := 1010 } 1001)
  let q := q.join (Store.joinTicket .moving { userID := "u3", mmr := 990 } 1002)
  { q with pool := q.pool.insert "u4" 1005 }

theorem atomicMatch_threeQueued :
    (bestMatchIndex (threeQueued.others "u1")
      (Store.joinTicket .moving { userID := "u1", mmr := 1000 } 1000) 5000) = 0 ∧
    Agree threeQueued (Store.joinTicket .moving { userID := "u1", mmr := 1000 } 1000) 5000 0
      (threeQueued.atomicMatch "u1" 1000 5000) := by
  have hindex : bestMatchIndex (threeQueued.others "u1")
      (Store.joinTicket .moving { userID := "u1", mmr := 1000 } 1000) 5000 = 0 := by decide +kernel
  have hagree := @atomicMatch_bestMatchIndex threeQueued ⟨by decide +kernel, by decide +kernel⟩
    (Store.joinTicket .moving { userID := "u1", mmr := 1000 } 1000) (by decide +kernel) 5000
  refine ⟨hindex, ?_⟩
  rw [← hindex]
  exact hagree

end Queue

end GeoDuels.MatchStore
