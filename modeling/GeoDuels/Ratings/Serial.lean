import GeoDuels.Lib.RowHistory
import GeoDuels.Ratings.Store

/-!
# No rating is lost

Each transaction reads a row of `ranks` when it has locked it, computes from what it has read, and keeps
the lock until it ends.  So a rating is what the committed transactions make of it one after another, in
the order of their locks (`ranks_serial`), and it stays above the floor (`ranks_floor`).
-/

namespace GeoDuels.Ratings

open Rating (calculateDuelUpdates clampRankedMMR initialRatingRD minimumRankedMMR)
open ReadCommitted (view update lookup_view_of_notMem update_of_lookup notMem_insert notMem_update)
open ReadCommitted.World (Serial)

variable (F : FloatMath)

/-! ## Changes -/

/-- What a change makes of a row, computed from that row. -/
def Change.apply : Change → Option Rating.State → Option Rating.State
  | .insert now, v => v.or (some { mmr := initialMMR, rd := initialRatingRD, updatedAt := now })
  | .result side opponent winner now, v =>
      v.map fun r =>
        let u :=
          match side with
          | .p1 => (calculateDuelUpdates F r opponent winner now).1
          | .p2 => (calculateDuelUpdates F opponent r winner now).2
        ⟨u.mmr, u.rd, now⟩
  | .refund item now updatedAt, v =>
      v.map fun r =>
        { r with mmr := ((refundOf F r item now).map Prod.fst).getD r.mmr, updatedAt := updatedAt }

/-- The changes of one row. -/
def changesOf (changes : List ((UserID × SeasonID) × Change)) (u : UserID) (s : SeasonID) : List Change :=
  changes.filterMap fun c => if c.1 = (u, s) then some c.2 else none

def applyAll (cs : List Change) (v : Option Rating.State) : Option Rating.State :=
  cs.foldl (fun v c => c.apply F v) v

theorem changesOf_append (changes changes' : List ((UserID × SeasonID) × Change)) (u : UserID)
    (s : SeasonID) : changesOf (changes ++ changes') u s = changesOf changes u s ++ changesOf changes' u s :=
  List.filterMap_append

theorem changesOf_map (cs : List Change) (u u' : UserID) (s s' : SeasonID) :
    changesOf (cs.map fun c => ((u, s), c)) u' s' = if (u, s) = (u', s') then cs else [] := by
  unfold changesOf
  rw [List.filterMap_map]
  split_ifs with h <;> simp [h]

theorem applyAll_append (cs cs' : List Change) (v : Option Rating.State) :
    applyAll F (cs ++ cs') v = applyAll F cs' (applyAll F cs v) :=
  List.foldl_append

/-- The rating is not below the floor. -/
def Floored (v : Option Rating.State) : Prop := ∀ r ∈ v, minimumRankedMMR ≤ r.mmr

theorem clampRankedMMR_ge (mmr : ℤ) : minimumRankedMMR ≤ clampRankedMMR mmr := by
  unfold clampRankedMMR
  split_ifs <;> omega

theorem calculateDuelUpdates_ge (p1 p2 : Rating.State) (winner : Rating.Winner) (now : ℕ) :
    minimumRankedMMR ≤ (calculateDuelUpdates F p1 p2 winner now).1.mmr ∧
      minimumRankedMMR ≤ (calculateDuelUpdates F p1 p2 winner now).2.mmr :=
  ⟨clampRankedMMR_ge _, clampRankedMMR_ge _⟩

/-- What `refundOf` gives: a gain of at most the loss, unless the rating is below the floor. -/
theorem refundOf_eq_some {r : Rating.State} {item : RefundCandidate} {now : ℕ} {after refundDelta : ℤ}
    (h : refundOf F r item now = some (after, refundDelta)) :
    0 < refundDelta ∧ after = r.mmr + refundDelta ∧
      (minimumRankedMMR ≤ r.mmr → minimumRankedMMR ≤ after ∧ refundDelta ≤ -item.originalDelta) := by
  unfold refundOf at h
  dsimp only at h
  generalize (calculateDuelUpdates F r ⟨item.cheaterMMR, item.cheaterRD, now⟩ .p1 now).1.delta = d at h
  unfold clampRankedMMR at h
  split_ifs at h <;> obtain ⟨rfl, rfl⟩ := Prod.mk.inj (Option.some.inj h) <;>
    refine ⟨by omega, by omega, fun hfloor => ⟨by omega, by omega⟩⟩

theorem Floored.apply {v : Option Rating.State} (h : Floored v) (c : Change) : Floored (c.apply F v) := by
  intro r hr
  cases c with
  | insert now =>
      cases v with
      | none =>
          obtain rfl := Option.some.inj hr
          exact le_refl _
      | some r' => exact h r hr
  | result side opponent winner now =>
      obtain ⟨r', -, rfl⟩ := Option.map_eq_some_iff.1 hr
      cases side with
      | p1 => exact (calculateDuelUpdates_ge F r' opponent winner now).1
      | p2 => exact (calculateDuelUpdates_ge F opponent r' winner now).2
  | refund item now updatedAt =>
      obtain ⟨r', hr', rfl⟩ := Option.map_eq_some_iff.1 hr
      have hfloor := h r' hr'
      cases hrefund : refundOf F r' item now with
      | none => simpa [hrefund] using hfloor
      | some res => simpa [hrefund] using ((refundOf_eq_some F hrefund).2.2 hfloor).1

theorem Floored.applyAll {v : Option Rating.State} (h : Floored v) (cs : List Change) :
    Floored (applyAll F cs v) := by
  induction cs generalizing v with
  | nil => exact h
  | cons c cs ih => exact ih (h.apply F c)

/-! ## The rows of a transaction -/

variable {F}

/-- The rows of `ranks` that a transaction has written are what its changes make of the committed ones. -/
structure Derived (F : FloatMath) (changes : List ((UserID × SeasonID) × Change)) (own db : DB) : Prop where
  rows : ∀ u s row, own.lookup (.rank u s) = some row →
    some row = applyAll F (changesOf changes u s) (db.lookup (.rank u s))
  others : ∀ u s, RowKey.rank u s ∉ own → changesOf changes u s = []

variable {changes : List ((UserID × SeasonID) × Change)} {own db rows : DB} {u : UserID} {s : SeasonID}

theorem Derived.empty (F : FloatMath) (db : DB) : Derived F [] ∅ db where
  rows u s row h := by cases h
  others _ _ _ := rfl

/-- The row that the transaction sees. -/
theorem Derived.lookup_view (h : Derived F changes own db) (u : UserID) (s : SeasonID) :
    (view own db).lookup (.rank u s) = applyAll F (changesOf changes u s) (db.lookup (.rank u s)) := by
  rw [ReadCommitted.lookup_view]
  cases hrow : own.lookup (.rank u s) with
  | some row =>
      rw [Option.some_or]
      exact h.rows u s row hrow
  | none =>
      rw [Option.none_or, h.others u s (AList.lookup_eq_none.1 hrow)]
      rfl

/-- Rows of other tables. -/
theorem Derived.keep (h : Derived F changes own db) (hrows : ∀ u s, RowKey.rank u s ∉ rows) :
    Derived F changes (view rows own) db where
  rows u s row hrow := by
    rw [lookup_view_of_notMem (hrows u s)] at hrow
    exact h.rows u s row hrow
  others u s hk := h.others u s fun hmem => hk (AList.mem_union.2 (.inr hmem))

/-- A row of `ranks` is locked, or changed. -/
theorem Derived.write (h : Derived F changes own db) (cs : List Change) {row : Rating.State}
    (hrow : some row = applyAll F cs ((view own db).lookup (.rank u s))) :
    Derived F (changes ++ cs.map fun c => ((u, s), c))
      (view (AList.insert (.rank u s) row ∅) own) db where
  rows u' s' row' hrow' := by
    rw [ReadCommitted.lookup_view] at hrow'
    rw [changesOf_append, changesOf_map, applyAll_append]
    by_cases hk : RowKey.rank u' s' = .rank u s
    · obtain ⟨rfl, rfl⟩ := RowKey.rank.inj hk
      rw [AList.lookup_insert, Option.some_or] at hrow'
      rw [← hrow', if_pos rfl, ← h.lookup_view]
      exact hrow
    · rw [AList.lookup_insert_ne hk, AList.lookup_empty, Option.none_or] at hrow'
      rw [if_neg fun heq => hk (by rw [(Prod.mk.inj heq).1, (Prod.mk.inj heq).2])]
      exact h.rows u' s' row' hrow'
  others u' s' hk := by
    have hne : RowKey.rank u' s' ≠ .rank u s := by
      rintro heq
      exact hk (AList.mem_union.2 (.inl ((AList.mem_insert _).2 (.inl heq))))
    rw [changesOf_append, changesOf_map,
      if_neg fun heq => hne (by rw [(Prod.mk.inj heq).1, (Prod.mk.inj heq).2]), List.append_nil]
    exact h.others u' s' fun hmem => hk (AList.mem_union.2 (.inr hmem))

/-- A row of `ranks` is locked as it is. -/
theorem Derived.lock (h : Derived F changes own db) {row : Rating.State}
    (hrow : (view own db).lookup (.rank u s) = some row) :
    Derived F changes (view (AList.insert (.rank u s) row ∅) own) db := by
  have hwrite := h.write [] hrow.symm
  rwa [List.map_nil, List.append_nil] at hwrite

theorem Derived.frame (h : Derived F changes own db) (hfree : ∀ k ∈ rows, k ∉ own) :
    Derived F changes own (view rows db) where
  rows u s row hrow := by
    have hmem : RowKey.rank u s ∈ own := by rw [← AList.lookup_isSome, hrow]; rfl
    rw [lookup_view_of_notMem fun hk => hfree _ hk hmem]
    exact h.rows u s row hrow
  others := h.others

/-! ## Transactions -/

/-- The transaction has the player's rating as it has read it. -/
def ResultTx.Locked (t : ResultTx) (side : Side) : Prop :=
  t.own.lookup (.rank (t.player side) t.season) = some (t.rating side)

/-- What a result has read when it computes. -/
def ResultTx.Knows (t : ResultTx) : RecordAt → Prop
  | .lock .p2 => t.Locked .p1
  | .updateRank .p1 => t.Locked .p1 ∧ t.Locked .p2
  | .updateRank .p2 => t.Locked .p2
  | _ => True

/-- The refund that is about to be issued is computed from the rating that the transaction sees. -/
def RefundTx.Knows (F : FloatMath) (t : RefundTx) : RefundAt → List RefundCandidate → Prop
  | .insert before after refundDelta now, item :: _ =>
      ∃ current : Rating.State, t.own.lookup (.rank item.opponentID t.season) = some current ∧
        current.mmr = before ∧ refundOf F current item now = some (after, refundDelta)
  | .update after refundDelta now, item :: _ =>
      ∃ current : Rating.State, t.own.lookup (.rank item.opponentID t.season) = some current ∧
        refundOf F current item now = some (after, refundDelta)
  | _, _ => True

def Fine (F : FloatMath) : RatingProc → DB → Prop
  | .result t, db => t.p1 ≠ t.p2 ∧ Derived F t.changes t.own db ∧ t.Knows t.at_
  | .refund t, db => Derived F t.changes t.own db ∧ t.Knows F t.at_ t.rest
  | .nothing, _ => True

namespace ResultTx

variable {t t' : ResultTx} {db : DB} {m : Moment}

theorem locked_goOn {side : Side} (h : t.Locked side) (at_ : RecordAt) {rows : DB}
    (hrows : RowKey.rank (t.player side) t.season ∉ rows) : (t.goOn at_ rows).Locked side := by
  show (view rows t.own).lookup (.rank (t.player side) t.season) = some (t.rating side)
  rw [lookup_view_of_notMem hrows]
  exact h

theorem rank_ne (hne : t.p1 ≠ t.p2) {side side' : Side} (h : side ≠ side') :
    RowKey.rank (t.player side) t.season ≠ .rank (t.player side') t.season := by
  cases side <;> cases side' <;> simp_all [player, eq_comm]

/-- The row of `ranks` that `for update` reads. -/
theorem locked_setRating (row : Rating.State) (side : Side) (at_ : RecordAt) :
    ((t.setRating row side).goOn at_
      (AList.insert (.rank (t.player side) t.season) row ∅)).Locked side := by
  cases side with
  | p1 => exact ReadCommitted.lookup_view_insert_self (.rank t.p1 t.season) row t.own
  | p2 => exact ReadCommitted.lookup_view_insert_self (.rank t.p2 t.season) row t.own

/-- After the locks each update finds what it computes from. -/
theorem knows_afterLocks (h₁ : t.Locked .p1) (h₂ : t.Locked .p2) : t.Knows t.afterLocks := by
  unfold afterLocks
  split_ifs
  · exact ⟨h₁, h₂⟩
  · exact h₂
  · trivial

theorem fine_ensure (hne : t.p1 ≠ t.p2) (hd : Derived F t.changes t.own db) (side : Side) (row : Ensure)
    (h : t.step F (view t.own db) m (.ensure side row) = some t') : Fine F (.result t') db := by
  have hknows : ∀ (t₁ : ResultTx) rows, (t₁.goOn (.ensure side row) rows).Knows
      (t₁.goOn (.ensure side row) rows).at_ := by
    intro t₁ rows
    cases side <;> cases row <;> trivial
  simp only [step] at h
  split_ifs at h with hblank hmem hrank
  · obtain rfl := Option.some.inj h
    exact ⟨hne, hd.keep fun u s => AList.notMem_empty _, hknows _ _⟩
  · obtain rfl := Option.some.inj h
    subst hrank
    refine ⟨hne, hd.write [.insert m.now] ?_, hknows _ _⟩
    have hnone : (view t.own db).lookup (.rank (t.player side) t.season) = none :=
      AList.lookup_eq_none.2 hmem
    rw [hnone]
    rfl
  · obtain rfl := Option.some.inj h
    refine ⟨hne, hd.keep fun u s => notMem_insert ?_, hknows _ _⟩
    cases row with
    | rank => exact absurd rfl hrank
    | user | userStats | rankedStats => simp [key]

theorem fine_lock (hne : t.p1 ≠ t.p2) (hd : Derived F t.changes t.own db) (side : Side)
    (hknows : t.Knows (.lock side)) (h : t.step F (view t.own db) m (.lock side) = some t') :
    Fine F (.result t') db := by
  obtain ⟨row, hrow, rfl⟩ := Option.map_eq_some_iff.1 h
  have hderived := hd.lock hrow
  cases side with
  | p1 => exact ⟨hne, hderived, locked_setRating row .p1 _⟩
  | p2 =>
      have hlocked : (t.setRating row .p2).Locked .p1 := hknows
      have hkey : RowKey.rank (t.player .p1) t.season ≠ .rank (t.player .p2) t.season :=
        rank_ne hne (by simp)
      exact ⟨hne, hderived,
        knows_afterLocks (locked_goOn hlocked _ (notMem_insert hkey)) (locked_setRating row .p2 _)⟩

theorem fine_updateRank (hne : t.p1 ≠ t.p2) (hd : Derived F t.changes t.own db) (side : Side)
    (hknows : t.Knows (.updateRank side))
    (h : t.step F (view t.own db) m (.updateRank side) = some t') : Fine F (.result t') db := by
  have hlocked : t.Locked side := by
    cases side with
    | p1 => exact hknows.1
    | p2 => exact hknows
  obtain rfl := Option.some.inj h
  have hseen : (view t.own db).lookup (.rank (t.player side) t.season) = some (t.rating side) := by
    rw [ReadCommitted.lookup_view, hlocked, Option.some_or]
  have hchange : some (⟨(t.ratingUpdate F side).mmr, (t.ratingUpdate F side).rd, t.now⟩ : Rating.State) =
      Change.apply F (.result side (t.rating (other side)) t.matchWinner t.now)
        ((view t.own db).lookup (.rank (t.player side) t.season)) := by
    rw [hseen]
    cases side <;> rfl
  have hupdate : update (view t.own db) (.rank (t.player side) t.season) (fun _ : Rating.State =>
      some ⟨(t.ratingUpdate F side).mmr, (t.ratingUpdate F side).rd, t.now⟩) =
        AList.insert (.rank (t.player side) t.season)
          ⟨(t.ratingUpdate F side).mmr, (t.ratingUpdate F side).rd, t.now⟩ ∅ :=
    update_of_lookup hseen rfl
  rw [hupdate]
  refine ⟨hne, hd.write [.result side (t.rating (other side)) t.matchWinner t.now] hchange, ?_⟩
  cases side with
  | p1 =>
      show Knows _ (after _ (.updateRank .p1))
      simp only [after]
      split_ifs
      · trivial
      · have hkey : RowKey.rank (t.player .p2) t.season ≠ .rank (t.player .p1) t.season :=
          rank_ne hne (by simp)
        exact locked_goOn (t := { t with changes := _ }) hknows.2 (.updateRank .p1) (notMem_insert hkey)
  | p2 => trivial

theorem fine_step (hne : t.p1 ≠ t.p2) (hd : Derived F t.changes t.own db) (at_ : RecordAt)
    (hknows : t.Knows at_) (h : t.step F (view t.own db) m at_ = some t') : Fine F (.result t') db := by
  cases at_ with
  | ensure side row => exact fine_ensure hne hd side row h
  | guest side =>
      obtain ⟨guest, -, rfl⟩ := Option.map_eq_some_iff.1 h
      cases side <;> exact ⟨hne, hd.keep fun u s => AList.notMem_empty _, trivial⟩
  | lobby =>
      obtain rfl := Option.some.inj h
      refine ⟨hne, hd.keep fun u s => AList.notMem_empty _, ?_⟩
      show Knows _ (after _ .lobby)
      simp only [after, afterLocks]
      split_ifs <;> first | trivial | simp_all
  | lock side => exact fine_lock hne hd side hknows h
  | updateRank side => exact fine_updateRank hne hd side hknows h
  | userStats side =>
      obtain rfl := Option.some.inj h
      refine ⟨hne, hd.keep fun u s => notMem_update (by simp), ?_⟩
      show Knows _ (after _ (.userStats side))
      cases side with
      | p1 => trivial
      | p2 => simp only [after]; split_ifs <;> trivial
  | rankedStats side =>
      obtain rfl := Option.some.inj h
      refine ⟨hne, hd.keep fun u s => notMem_update (by simp), ?_⟩
      show Knows _ (after _ (.rankedStats side))
      cases side with
      | p1 => simp only [after]; split_ifs <;> trivial
      | p2 => trivial
  | commit => cases h

end ResultTx

namespace RefundTx

/-- What a statement of a refund does. -/
inductive Steps (F : FloatMath) (history : History) (t : RefundTx) (seen : DB) (m : Moment) :
    RefundAt → List RefundCandidate → RefundTx → Prop
  | candidates (items : List RefundCandidate) :
      Steps F history t seen m .candidates items
        { t with at_ := .lock, rest := refundCandidates history t.cheater t.since }
  | unrated (item : RefundCandidate) (rest : List RefundCandidate)
      (missing : seen.lookup (.rank item.opponentID t.season) = none) :
      Steps F history t seen m .lock (item :: rest) (t.skip rest ∅)
  | spared (item : RefundCandidate) (rest : List RefundCandidate) (current : Rating.State)
      (found : seen.lookup (.rank item.opponentID t.season) = some current) :
      Steps F history t seen m .lock (item :: rest)
        (t.skip rest (AList.insert (.rank item.opponentID t.season) current ∅))
  | computed (item : RefundCandidate) (rest : List RefundCandidate) (current : Rating.State)
      (after refundDelta : ℤ) (found : seen.lookup (.rank item.opponentID t.season) = some current)
      (refund : refundOf F current item m.now = some (after, refundDelta)) :
      Steps F history t seen m .lock (item :: rest)
        { t with
          at_ := .insert current.mmr after refundDelta m.now
          own := view (AList.insert (.rank item.opponentID t.season) current ∅) t.own }
  | refunded (item : RefundCandidate) (rest : List RefundCandidate) (before after refundDelta : ℤ) (now : ℕ) :
      Steps F history t seen m (.insert before after refundDelta now) (item :: rest) (t.skip rest ∅)
  | inserted (item : RefundCandidate) (rest : List RefundCandidate) (before after refundDelta : ℤ) (now : ℕ)
      (fresh : RowKey.refund item.opponentID item.matchID t.cheater ∉ seen) :
      Steps F history t seen m (.insert before after refundDelta now) (item :: rest)
        { t with
          at_ := .update after refundDelta now
          own := view (AList.insert (.refund item.opponentID item.matchID t.cheater)
            (⟨item.originalDelta, refundDelta, before, after⟩ : RefundRow) ∅) t.own }
  | updated (item : RefundCandidate) (rest : List RefundCandidate) (after refundDelta : ℤ) (now : ℕ) :
      Steps F history t seen m (.update after refundDelta now) (item :: rest)
        ({ t with
            summary := ⟨t.summary.refundsIssued + 1, t.summary.totalRefunded + refundDelta⟩
            changes := t.changes ++ [((item.opponentID, t.season), Change.refund item now m.now)] }.skip rest
          (update seen (.rank item.opponentID t.season) fun row : Rating.State =>
            some { row with mmr := after, updatedAt := m.now }))

variable {t t' : RefundTx} {history : History} {db : DB} {m : Moment}

theorem steps_of_step {seen : DB} {at_ : RefundAt} {items : List RefundCandidate}
    (h : t.step F history seen m at_ items = some t') : Steps F history t seen m at_ items t' := by
  cases at_ with
  | candidates =>
      obtain rfl := Option.some.inj h
      exact .candidates items
  | lock =>
      cases items with
      | nil => cases h
      | cons item rest =>
          simp only [step] at h
          split at h
          · next hmissing =>
            obtain rfl := Option.some.inj h
            exact .unrated item rest hmissing
          · rename_i current hcurrent
            split at h
            · obtain rfl := Option.some.inj h
              exact .spared item rest current hcurrent
            · rename_i after refundDelta hrefund
              obtain rfl := Option.some.inj h
              exact .computed item rest current after refundDelta hcurrent hrefund
  | insert before after refundDelta now =>
      cases items with
      | nil => cases h
      | cons item rest =>
          simp only [step] at h
          split_ifs at h with hkey
          · obtain rfl := Option.some.inj h
            exact .refunded item rest before after refundDelta now
          · obtain rfl := Option.some.inj h
            exact .inserted item rest before after refundDelta now hkey
  | update after refundDelta now =>
      cases items with
      | nil => cases h
      | cons item rest =>
          obtain rfl := Option.some.inj h
          exact .updated item rest after refundDelta now

theorem knows_lock (F : FloatMath) (t : RefundTx) (items : List RefundCandidate) : t.Knows F .lock items := by
  cases items <;> trivial

/-- The row that an update of the rating writes. -/
theorem update_rank {item : RefundCandidate} {current : Rating.State} (after : ℤ) (now : ℕ)
    (hcurrent : t.own.lookup (.rank item.opponentID t.season) = some current) (db : DB) :
    update (view t.own db) (.rank item.opponentID t.season) (fun row : Rating.State =>
        some { row with mmr := after, updatedAt := now }) =
      AList.insert (.rank item.opponentID t.season)
        ({ current with mmr := after, updatedAt := now } : Rating.State) ∅ := by
  refine update_of_lookup (v := current) ?_ rfl
  rw [ReadCommitted.lookup_view, hcurrent, Option.some_or]

/-- The statements of a refund. -/
theorem fine_step (hd : Derived F t.changes t.own db) (hknows : t.Knows F t.at_ t.rest)
    (h : t.step F history (view t.own db) m t.at_ t.rest = some t') : Fine F (.refund t') db := by
  have hs := steps_of_step h
  generalize hat : t.at_ = at_, hrest : t.rest = items at hknows hs
  cases hs with
  | candidates => exact ⟨hd, knows_lock F _ _⟩
  | unrated item rest => exact ⟨hd.keep fun u s => AList.notMem_empty _, knows_lock F _ _⟩
  | spared item rest current found => exact ⟨hd.lock found, knows_lock F _ _⟩
  | computed item rest current after refundDelta found refund =>
      refine ⟨hd.lock found, ?_⟩
      simp only [Knows, hrest]
      exact ⟨current, ReadCommitted.lookup_view_insert_self
        (.rank item.opponentID t.season) current t.own, rfl, refund⟩
  | refunded item rest before after refundDelta now =>
      exact ⟨hd.keep fun u s => AList.notMem_empty _, knows_lock F _ _⟩
  | inserted item rest before after refundDelta now fresh =>
      refine ⟨hd.keep fun u s => notMem_insert (by simp), ?_⟩
      obtain ⟨current, hcurrent, -, hrefund⟩ := hknows
      simp only [Knows, hrest]
      refine ⟨current, ?_, hrefund⟩
      rw [lookup_view_of_notMem (notMem_insert (by simp))]
      exact hcurrent
  | updated item rest after refundDelta now =>
      obtain ⟨current, hcurrent, hrefund⟩ := hknows
      rw [update_rank after m.now hcurrent db]
      refine ⟨hd.write [.refund item now m.now] ?_, knows_lock F _ _⟩
      rw [ReadCommitted.lookup_view, hcurrent, Option.some_or]
      simp [applyAll, Change.apply, hrefund]

end RefundTx

/-! ## The program -/

variable {active : SeasonID} {history : History} {p p' : RatingProc} {db : DB} {m : Moment}

/-- The two players of a result are different ones. -/
theorem fine_begin (c : RatingCall) (db : DB) : Fine F (c.begin active) db := by
  cases c with
  | issueRefunds cheater since => exact ⟨.empty F db, trivial⟩
  | recordMatchResult finished =>
      simp only [RatingCall.begin]
      split
      · rename_i id₁ p₁ id₂ p₂ hentries
        have hnodup := finished.snap.players.nodupKeys
        have hkeyed : ∀ id p, (⟨id, p⟩ : Σ _ : UserID, PlayerState) ∈ finished.snap.players.entries →
            p.userID = id := fun id p hp => finished.keyed id p (Assoc.mem_entries_iff.1 hp)
        rw [hentries] at hnodup hkeyed
        refine ⟨?_, .empty F db, trivial⟩
        show p₁.userID ≠ p₂.userID
        rw [hkeyed id₁ p₁ (by simp), hkeyed id₂ p₂ (by simp)]
        rintro rfl
        simp at hnodup
      · trivial

/-- A statement commits nothing, or all that its transaction has written when the process ends. -/
theorem run_cases (F : FloatMath) (history : History) (p : RatingProc) (db : DB) (m : Moment) :
    (p.run F history db m).1 = ∅ ∨
      (p.run F history db m).1 = p.own ∧ (p.run F history db m).2 = none := by
  cases p with
  | result t =>
      by_cases hat : t.at_ = .commit
      · exact .inr (by simp [RatingProc.run, hat, RatingProc.own])
      · exact .inl (by simp [RatingProc.run, hat])
  | refund t =>
      cases hstep : t.step F history (view t.own db) m t.at_ t.rest with
      | none => exact .inr (by simp [RatingProc.run, hstep, RatingProc.own])
      | some t' => exact .inl (by simp [RatingProc.run, hstep])
  | nothing => exact .inl rfl

theorem fine_run (h : Fine F p db) (hp' : (p.run F history db m).2 = some p') :
    Fine F p' (view (p.run F history db m).1 db) := by
  rcases run_cases F history p db m with hrows | ⟨-, hnone⟩
  · rw [hrows, ReadCommitted.view_empty]
    cases p with
    | result t =>
        simp only [RatingProc.run] at hp'
        split_ifs at hp'
        obtain ⟨t', ht', rfl⟩ := Option.map_eq_some_iff.1 hp'
        exact t.fine_step h.1 h.2.1 t.at_ h.2.2 ht'
    | refund t =>
        simp only [RatingProc.run] at hp'
        split at hp'
        · cases hp'
        · rename_i t' ht'
          obtain rfl := Option.some.inj hp'
          exact RefundTx.fine_step h.1 h.2 ht'
    | nothing => cases hp'
  · rw [hnone] at hp'
    cases hp'

theorem fine_frame {rows : DB} (h : Fine F p db) (hfree : ∀ k ∈ rows, k ∉ p.own) :
    Fine F p (view rows db) := by
  cases p with
  | result t => exact ⟨h.1, h.2.1.frame hfree, h.2.2⟩
  | refund t => exact ⟨h.1.frame hfree, h.2⟩
  | nothing => trivial

theorem rating_local : ReadCommitted.World.Local (ratingProgram active F history) (Fine F) where
  begin := fine_begin
  run _ _ _ _ h hp' := fine_run h hp'
  frame _ _ _ h hfree := fine_frame h hfree

theorem Fine.derived (h : Fine F p db) (u : UserID) (s : SeasonID) (row : Rating.State)
    (hrow : p.own.lookup (.rank u s) = some row) :
    some row = applyAll F (changesOf p.changes u s) (db.lookup (.rank u s)) := by
  cases p with
  | result t => exact h.2.1.rows u s row hrow
  | refund t => exact h.1.rows u s row hrow
  | nothing => cases hrow

/-- The ratings are not below the floor. -/
def RanksFloored (db : DB) : Prop := ∀ u s, Floored (db.lookup (.rank u s))

theorem ranksFloored_run (h : Fine F p db) (hfloor : RanksFloored db) :
    RanksFloored (view (p.run F history db m).1 db) := by
  rcases run_cases F history p db m with hrows | ⟨hrows, -⟩
  · rwa [hrows, ReadCommitted.view_empty]
  · intro u s
    rw [hrows, ReadCommitted.lookup_view]
    cases hrow : p.own.lookup (.rank u s) with
    | none =>
        rw [Option.none_or]
        exact hfloor u s
    | some row =>
        rw [Option.some_or, h.derived u s row hrow]
        exact (hfloor u s).applyAll F _

theorem rating_cooperates :
    ReadCommitted.World.Cooperates (ratingProgram active F history) RanksFloored (Fine F) where
  begin c db _ := fine_begin c db
  run _ _ _ _ _ h hp' := fine_run h hp'
  keeps _ _ _ hfloor h := ranksFloored_run h hfloor
  frame _ _ _ _ _ _ h hfree := fine_frame h hfree

theorem ranks_disciplined (u : UserID) (s : SeasonID) :
    ReadCommitted.World.Disciplined (ratingProgram active F history) (fun _ => True) (Fine F)
      (.rank u s) (Change.apply F) fun p => changesOf (RatingProc.changes p) u s where
  derived _ _ v _ h hv := h.derived u s v hv
  commits p db e _ h hk := by
    rcases run_cases F history p db e with hrows | ⟨hrows, hnone⟩
    · have hk' : RowKey.rank u s ∈ (RatingProc.run F history p db e).1 := hk
      rw [hrows] at hk'
      exact absurd hk' (AList.notMem_empty _)
    · refine ⟨congrArg (AList.lookup _) hrows, ?_⟩
      have hnone' : ((ratingProgram active F history).run p db e).2 = none := hnone
      rw [hnone']
      exact AList.notMem_empty _

/-- Whatever results and refunds run at the same time, each row of `ranks` has the value that the
committed transactions give it one after another in the order in which they have locked it, each
computing from the value before it; and no rating falls below the floor. -/
theorem ranks_serial (active : SeasonID) (F : FloatMath) (history : History) (db : DB)
    (as : List (RatingAct active F history)) (w : RatingWorld active F history)
    (hw : Run.exec ReadCommitted.World.step (⟨db, ∅⟩ : RatingWorld active F history) as = some w) :
    (∀ u s, Serial (Change.apply F) (db.lookup (.rank u s))
      (Run.trace ReadCommitted.World.step
        (ReadCommitted.World.observe (.rank u s) fun p => changesOf (RatingProc.changes p) u s) ⟨db, ∅⟩ as)
      (w.db.lookup (.rank u s))) ∧
    (RanksFloored db → RanksFloored w.db) := by
  refine ⟨fun u s => ?_, fun hfloor => ?_⟩
  · exact ReadCommitted.World.serial_of_disciplined rating_local.cooperates (ranks_disciplined u s)
      trivial hw
  · exact (ReadCommitted.World.Shared.exec rating_cooperates
      ⟨ReadCommitted.World.Inv.init db, hfloor⟩ hw).shared

/-! ### Two results at the same time -/

def samplePlayer (u : UserID) (hp : ℤ) : PlayerState where
  userID := u
  displayName := u
  mmr := 1000
  ratingRD := 110
  rankedGamesPlayed := 0
  avatarURL := ""
  isGuest := false
  isAdmin := false
  selectedBadge := none
  hp := hp

/-- `u` has won against `v`, and the map gives `u` first. -/
def wonMatch (matchID : MatchID) (u v : UserID) : FinishedMatch where
  snap :=
    { matchID := matchID, mode := .duel, seasonID := "s", state := .ended, phase := .ended
      roundPhase := .ended, phaseStartedAt := 0, phaseEndsAt := 0, currentRound := none
      lastRoundResult := none, roundResults := [], roundMSLeft := 0
      players := AList.insert u (samplePlayer u 6000) (AList.insert v (samplePlayer v 0) ∅)
      eventSequence := 0, serverUnixMS := 0, graceWindowSec := 0 }
  keyed id p hp := by
    rcases Assoc.of_lookup_insert hp with ⟨rfl, rfl⟩ | ⟨-, hp⟩
    · rfl
    · rcases Assoc.of_lookup_insert hp with ⟨rfl, rfl⟩ | ⟨-, hp⟩
      · rfl
      · cases hp

/-- The rows of registered players with 1000 points. -/
def ratedPlayers (users : List UserID) : DB :=
  (users.flatMap fun u =>
    [(⟨.user u, false⟩ : Sigma Row), ⟨.rank u "s", ({ mmr := 1000, rd := 110, updatedAt := 0 } : Rating.State)⟩,
      ⟨.userStats u, ({} : StatsRow)⟩, ⟨.rankedStats u "s", ({} : StatsRow)⟩]).toAList

/-- Two matches of `a` and `b` end; the second result waits for the first one at the first lock. -/
def twoResults : List (RatingAct "s" FloatMath.coarse ∅) :=
  [.start 0 (.recordMatchResult (wonMatch "m1" "a" "b")),
    .start 1 (.recordMatchResult (wonMatch "m2" "a" "b"))] ++
    (List.replicate 12 0 ++ List.replicate 11 1 ++ List.replicate 8 0 ++ List.replicate 9 1).map
      fun id => .run id {}

theorem ranks_serial_twoResults :
    ∃ w, Run.exec ReadCommitted.World.step
        (⟨ratedPlayers ["a", "b"], ∅⟩ : RatingWorld "s" FloatMath.coarse ∅) twoResults = some w ∧
      (∀ u s, Serial (Change.apply FloatMath.coarse) ((ratedPlayers ["a", "b"]).lookup (.rank u s))
        (Run.trace ReadCommitted.World.step
          (ReadCommitted.World.observe (.rank u s) fun p => changesOf (RatingProc.changes p) u s)
          ⟨ratedPlayers ["a", "b"], ∅⟩ twoResults)
        (w.db.lookup (.rank u s))) ∧
      (RanksFloored (ratedPlayers ["a", "b"]) → RanksFloored w.db) := by
  have hrun : (Run.exec ReadCommitted.World.step
      (⟨ratedPlayers ["a", "b"], ∅⟩ : RatingWorld "s" FloatMath.coarse ∅) twoResults).isSome := by
    decide +kernel
  obtain ⟨w, hw⟩ := Option.isSome_iff_exists.1 hrun
  exact ⟨w, hw, ranks_serial "s" FloatMath.coarse ∅ _ twoResults w hw⟩

end GeoDuels.Ratings
