import GeoDuels.Lib.Collect
import GeoDuels.Ratings.Serial
import Mathlib.Algebra.Order.BigOperators.Group.List

/-!
# What refunds add up to

A transaction that issues refunds writes a row of `elo_refunds` and then the rating of the victim, and it
holds the rating from the time it has read it.  So what it adds to a rating is the sum of the rows that it
inserts (`refunds_accounted`), each of them at most the loss that the match has cost, and a match is paid
back to a victim once.
-/

namespace GeoDuels.Ratings

open Rating (minimumRankedMMR)
open ReadCommitted (collect view update lookup_view_of_notMem notMem_view notMem_insert notMem_update)

/-! ## Refund rows -/

/-- A row of `elo_refunds` with its key. -/
structure IssuedRefund where
  victim : UserID
  matchID : MatchID
  cheater : UserID
  row : RefundRow

def IssuedRefund.key (r : IssuedRefund) : RowKey := .refund r.victim r.matchID r.cheater

def refundOfEntry : Sigma Row → Option IssuedRefund
  | ⟨.refund victim matchID cheater, row⟩ => some ⟨victim, matchID, cheater, row⟩
  | _ => none

def refundsIn (rows : DB) : List IssuedRefund := rows.entries.filterMap refundOfEntry

/-- The refunds that have come from one database to a later one. -/
def inserted (old new : DB) : List IssuedRefund := (refundsIn new).filter fun r => r.key ∉ old

/-- What the refunds give the victim. -/
def refunded (rs : List IssuedRefund) (victim : UserID) : ℤ :=
  ((rs.filter fun r => r.victim = victim).map fun r => r.row.refundDelta).sum

/-- The rating of a user, and 0 when there is none. -/
def mmrOf (db : DB) (u : UserID) (s : SeasonID) : ℤ :=
  ((db.lookup (.rank u s)).map fun r : Rating.State => r.mmr).getD 0

section Rows

variable {own db rows : DB}

theorem refundOfEntry_eq_some {e : Sigma Row} {r : IssuedRefund} :
    refundOfEntry e = some r ↔ e = ⟨r.key, r.row⟩ := by
  obtain ⟨k, row⟩ := e
  refine ⟨fun h => ?_, fun h => ?_⟩
  · cases k with
    | refund victim matchID cheater =>
        obtain rfl := Option.some.inj h
        rfl
    | user | rank | userStats | rankedStats => cases h
  · rw [h]
    rfl

theorem refundsIn_eq_collect (rows : DB) :
    refundsIn rows = collect (fun e => (refundOfEntry e).toList) rows :=
  List.filterMap_eq_flatMap_toList _ _

/-- Only a row of `elo_refunds` holds a refund. -/
theorem refundOfEntry_of_ne {k : RowKey} (h : ∀ u m c, k ≠ .refund u m c) (v : Row k) :
    (refundOfEntry ⟨k, v⟩).toList = [] := by
  cases k with
  | refund victim matchID cheater => exact absurd rfl (h victim matchID cheater)
  | user | rank | userStats | rankedStats => rfl

theorem mem_refundsIn {r : IssuedRefund} : r ∈ refundsIn rows ↔ rows.lookup r.key = some r.row := by
  rw [refundsIn_eq_collect, ReadCommitted.mem_collect]
  constructor
  · rintro ⟨k, v, hv, hr⟩
    rw [Option.mem_toList, refundOfEntry_eq_some] at hr
    cases hr
    exact hv
  · intro h
    exact ⟨r.key, r.row, h, Option.mem_toList.2 (refundOfEntry_eq_some.2 rfl)⟩

theorem mem_of_mem_refundsIn {r : IssuedRefund} (h : r ∈ refundsIn rows) : r.key ∈ rows := by
  rw [← AList.lookup_isSome, mem_refundsIn.1 h]
  rfl

theorem mem_inserted {old new : DB} {r : IssuedRefund} :
    r ∈ inserted old new ↔ r ∈ refundsIn new ∧ r.key ∉ old := by
  simp [inserted]

/-- A victim has one refund for a match and a cheater. -/
theorem nodup_refundsIn (rows : DB) : ((refundsIn rows).map IssuedRefund.key).Nodup := by
  rw [refundsIn_eq_collect]
  refine ReadCommitted.nodup_collect (fun e => ?_) rows
  cases hr : refundOfEntry e with
  | none => exact List.nil_sublist _
  | some r =>
      rw [refundOfEntry_eq_some] at hr
      subst hr
      exact .refl _

/-- Rows of other tables. -/
theorem refundsIn_keep (hrows : ∀ u m c, RowKey.refund u m c ∉ rows) (own : DB) :
    refundsIn (view rows own) = refundsIn own := by
  rw [refundsIn_eq_collect, refundsIn_eq_collect]
  refine ReadCommitted.collect_view_of_nil (fun k hk => refundOfEntry_of_ne fun u m c heq => ?_) own
  rw [heq] at hk
  exact hrows u m c hk

/-- A new refund. -/
theorem refundsIn_insert (r : IssuedRefund) (h : r.key ∉ own) :
    refundsIn (view (AList.insert r.key r.row ∅) own) = r :: refundsIn own := by
  rw [refundsIn_eq_collect, refundsIn_eq_collect, ReadCommitted.collect_view_insert r.row h,
    refundOfEntry_eq_some.2 rfl]
  rfl

/-- The refunds of a transaction when it commits. -/
theorem inserted_view (h : ∀ r ∈ refundsIn own, r.key ∉ db) : inserted db (view own db) = refundsIn own := by
  have hboth : ∀ k ∈ own, k ∈ db → ∀ v, (refundOfEntry ⟨k, v⟩).toList = [] := by
    intro k hown hdb
    refine refundOfEntry_of_ne fun u m c heq => ?_
    subst heq
    obtain ⟨row, hrow⟩ := Option.isSome_iff_exists.1 (AList.lookup_isSome.2 hown)
    exact h ⟨u, m, c, row⟩ (mem_refundsIn.2 hrow) hdb
  unfold inserted
  rw [refundsIn_eq_collect, ReadCommitted.collect_view hboth, ← refundsIn_eq_collect,
    ← refundsIn_eq_collect, List.filter_append]
  have hown : (refundsIn own).filter (fun r => r.key ∉ db) = refundsIn own :=
    List.filter_eq_self.2 fun r hr => by simpa using h r hr
  have hold : (refundsIn db).filter (fun r => r.key ∉ db) = [] :=
    List.filter_eq_nil_iff.2 fun r hr => by simpa using mem_of_mem_refundsIn hr
  rw [hown, hold, List.append_nil]

theorem mmrOf_keep {u : UserID} {s : SeasonID} (h : RowKey.rank u s ∉ rows) (db : DB) :
    mmrOf (view rows db) u s = mmrOf db u s := by
  unfold mmrOf
  rw [lookup_view_of_notMem h]

theorem mmrOf_of_lookup {u : UserID} {s : SeasonID} {r : Rating.State}
    (h : db.lookup (.rank u s) = some r) : mmrOf db u s = r.mmr := by
  simp [mmrOf, h]

@[simp] theorem refunded_nil (u : UserID) : refunded [] u = 0 := rfl

theorem refunded_cons (r : IssuedRefund) (rs : List IssuedRefund) (u : UserID) :
    refunded (r :: rs) u = (if r.victim = u then r.row.refundDelta else 0) + refunded rs u := by
  by_cases h : r.victim = u <;> simp [refunded, h]

theorem refunded_eq_zero {rs : List IssuedRefund} {u : UserID} (h : ∀ r ∈ rs, r.victim ≠ u) :
    refunded rs u = 0 := by
  induction rs with
  | nil => rfl
  | cons r rs ih =>
      obtain ⟨hr, hrs⟩ := List.forall_mem_cons.1 h
      rw [refunded_cons, if_neg hr, ih hrs, zero_add]

end Rows

/-! ## The books of a transaction -/

variable (history : History)

/-- The refund is a gain of at most the loss that the preview of the match has announced. -/
structure Backed (r : IssuedRefund) : Prop where
  positive : 0 < r.row.refundDelta
  bounded : r.row.refundDelta ≤ -r.row.originalDelta
  applied : r.row.victimMMRAfter - r.row.victimMMRBefore = r.row.refundDelta
  candidate : ∃ item ∈ refundCandidates history r.cheater none, item.matchID = r.matchID ∧
    item.opponentID = r.victim ∧ item.originalDelta = r.row.originalDelta
  preview : ∃ h preview, history.lookup r.matchID = some h ∧ h.winnerUserID = some r.cheater ∧
    h.snapshot.ratingPreview.lookup r.victim = some preview ∧ preview.lose = r.row.originalDelta

/-- The refunds of a transaction, which has locked the ratings of their victims. -/
structure OwnRefunds (cheater : UserID) (season : SeasonID) (own db : DB) : Prop where
  fresh : ∀ r ∈ refundsIn own, r.key ∉ db
  backed : ∀ r ∈ refundsIn own, r.cheater = cheater ∧ Backed history r
  locked : ∀ r ∈ refundsIn own, .rank r.victim season ∈ own

/-- The ratings that a transaction has locked and its summary, when it has applied the refunds `rs`. -/
structure Booked (season : SeasonID) (summary : RefundSummary) (own db : DB) (rs : List IssuedRefund) :
    Prop where
  raised : ∀ u row, own.lookup (.rank u season) = some (row : Rating.State) →
    row.mmr = mmrOf db u season + refunded rs u
  issued : summary.refundsIssued = rs.length
  total : summary.totalRefunded = (rs.map fun r => r.row.refundDelta).sum

/-- Between the insert and the update one refund is not applied yet. -/
def RefundTx.Accounts (t : RefundTx) (db : DB) : RefundAt → List RefundCandidate → Prop
  | .update after refundDelta _, item :: _ =>
      ∃ r rs, refundsIn t.own = r :: rs ∧ r.victim = item.opponentID ∧
        r.row.refundDelta = refundDelta ∧ Booked t.season t.summary t.own db rs ∧
        ∃ current : Rating.State, t.own.lookup (.rank item.opponentID t.season) = some current ∧
          after = current.mmr + refundDelta
  | _, _ => Booked t.season t.summary t.own db (refundsIn t.own)

structure Books (active : SeasonID) (t : RefundTx) (db : DB) : Prop
    extends OwnRefunds history t.cheater t.season t.own db where
  season : t.season = active
  items : ∀ item ∈ t.rest, item ∈ refundCandidates history t.cheater t.since
  accounts : t.Accounts db t.at_ t.rest

def Bookkeeping (active : SeasonID) : RatingProc → DB → Prop
  | .result t, _ => ∀ u m c, RowKey.refund u m c ∉ t.own
  | .refund t, db => Books history active t db
  | .nothing, _ => True

variable {history} {active : SeasonID}

theorem mem_matchCandidates {cheater : UserID} {since : Option ℕ} {matchID : MatchID} {h : HistoryMatch}
    {item : RefundCandidate} (hitem : item ∈ matchCandidates cheater since matchID h) :
    item ∈ matchCandidates cheater none matchID h ∧ item.matchID = matchID ∧
      h.winnerUserID = some cheater ∧ ∃ preview, h.snapshot.ratingPreview.lookup item.opponentID = some preview ∧
        preview.lose = item.originalDelta ∧ preview.lose < 0 := by
  unfold matchCandidates at hitem ⊢
  cases hc : h.players.lookup cheater with
  | none =>
      rw [hc] at hitem
      cases hitem
  | some c =>
      rw [hc] at hitem
      dsimp only at hitem ⊢
      split_ifs at hitem with hmatch
      · have hmatch' : h.mode = .duel ∧ h.winnerUserID = some cheater ∧ NotBefore none h.endedAt ∧
            h.snapshot.unranked = false ∧ h.lobby = false :=
          ⟨hmatch.1, hmatch.2.1, fun t ht => (by cases ht), hmatch.2.2.2⟩
        rw [if_pos hmatch']
        refine ⟨hitem, ?_⟩
        obtain ⟨opponent, -, hopponent⟩ := List.mem_filterMap.1 hitem
        split_ifs at hopponent
        obtain ⟨preview, hpreview, hlose⟩ := Option.bind_eq_some_iff.1 hopponent
        split_ifs at hlose with hneg
        obtain rfl := Option.some.inj hlose
        exact ⟨rfl, hmatch.2.1, preview, hpreview, rfl, hneg⟩
      · cases hitem

/-- A candidate is a match that the cheater has won. -/
theorem mem_refundCandidates {cheater : UserID} {since : Option ℕ} {item : RefundCandidate}
    (hitem : item ∈ refundCandidates history cheater since) :
    item ∈ refundCandidates history cheater none ∧ item.originalDelta < 0 ∧
      ∃ h preview, history.lookup item.matchID = some h ∧ h.winnerUserID = some cheater ∧
        h.snapshot.ratingPreview.lookup item.opponentID = some preview ∧
        preview.lose = item.originalDelta := by
  obtain ⟨m, hm, hitem⟩ := List.mem_flatMap.1 hitem
  obtain ⟨hnone, hid, hwinner, preview, hpreview, hlose, hneg⟩ := mem_matchCandidates hitem
  have hlookup : history.lookup m.1 = some m.2 :=
    Assoc.mem_entries_iff.1 ((List.mem_insertionSort byEnd).1 hm)
  refine ⟨List.mem_flatMap.2 ⟨m, hm, hnone⟩, hlose ▸ hneg, m.2, preview, ?_, hwinner, hpreview, hlose⟩
  rw [hid]
  exact hlookup

section Rules

variable {cheater u : UserID} {season : SeasonID} {summary : RefundSummary} {own db rows : DB}
  {rs : List IssuedRefund}

theorem OwnRefunds.empty (history : History) (cheater : UserID) (season : SeasonID) (db : DB) :
    OwnRefunds history cheater season ∅ db where
  fresh r hr := by cases hr
  backed r hr := by cases hr
  locked r hr := by cases hr

theorem OwnRefunds.keep (h : OwnRefunds history cheater season own db)
    (hrows : ∀ u m c, RowKey.refund u m c ∉ rows) :
    OwnRefunds history cheater season (view rows own) db := by
  have heq := refundsIn_keep hrows own
  refine ⟨fun r hr => h.fresh r (heq ▸ hr), fun r hr => h.backed r (heq ▸ hr), fun r hr => ?_⟩
  exact AList.mem_union.2 (.inr (h.locked r (heq ▸ hr)))

theorem OwnRefunds.insert (h : OwnRefunds history cheater season own db) {r : IssuedRefund}
    (hkey : r.key ∉ view own db) (hcheater : r.cheater = cheater) (hbacked : Backed history r)
    (hlocked : .rank r.victim season ∈ own) :
    OwnRefunds history cheater season (view (AList.insert r.key r.row ∅) own) db := by
  have heq : refundsIn (view (AList.insert r.key r.row ∅) own) = r :: refundsIn own :=
    refundsIn_insert r fun hmem => hkey (AList.mem_union.2 (.inl hmem))
  refine ⟨?_, ?_, ?_⟩ <;> rw [heq, List.forall_mem_cons]
  · exact ⟨fun hmem => hkey (AList.mem_union.2 (.inr hmem)), h.fresh⟩
  · exact ⟨⟨hcheater, hbacked⟩, h.backed⟩
  · exact ⟨AList.mem_union.2 (.inr hlocked), fun r' hr' => AList.mem_union.2 (.inr (h.locked r' hr'))⟩

theorem OwnRefunds.frame (h : OwnRefunds history cheater season own db) (hfree : ∀ k ∈ rows, k ∉ own) :
    OwnRefunds history cheater season own (view rows db) where
  fresh r hr := notMem_view (fun hk => hfree _ hk (mem_of_mem_refundsIn hr)) (h.fresh r hr)
  backed := h.backed
  locked := h.locked

/-- Rows of other tables. -/
theorem Booked.keep (h : Booked season summary own db rs) (hrows : ∀ u, RowKey.rank u season ∉ rows) :
    Booked season summary (view rows own) db rs where
  raised u row hrow := by
    rw [lookup_view_of_notMem (hrows u)] at hrow
    exact h.raised u row hrow
  issued := h.issued
  total := h.total

/-- A rating is locked as it is. -/
theorem Booked.lock (h : Booked season summary own db rs) (hlocked : ∀ r ∈ rs, .rank r.victim season ∈ own)
    {current : Rating.State} (hcurrent : (view own db).lookup (.rank u season) = some current) :
    Booked season summary (view (AList.insert (.rank u season) current ∅) own) db rs where
  raised u' row hrow := by
    rw [ReadCommitted.lookup_view] at hrow
    by_cases hu : u' = u
    · subst hu
      rw [AList.lookup_insert, Option.some_or] at hrow
      obtain rfl := Option.some.inj hrow
      rw [ReadCommitted.lookup_view] at hcurrent
      cases hown : own.lookup (.rank u' season) with
      | some row =>
          rw [hown, Option.some_or] at hcurrent
          exact h.raised u' current (hown.trans hcurrent)
      | none =>
          rw [hown, Option.none_or] at hcurrent
          have hnone : refunded rs u' = 0 := refunded_eq_zero fun r hr hvictim =>
            AList.lookup_eq_none.1 hown (hvictim ▸ hlocked r hr)
          rw [mmrOf_of_lookup hcurrent, hnone, add_zero]
    · have hne : RowKey.rank u' season ≠ .rank u season := fun heq => hu (RowKey.rank.inj heq).1
      rw [AList.lookup_insert_ne hne, AList.lookup_empty, Option.none_or] at hrow
      exact h.raised u' row hrow
  issued := h.issued
  total := h.total

/-- The refund `r` is applied. -/
theorem Booked.apply (h : Booked season summary own db rs) (r : IssuedRefund) {current row : Rating.State}
    (hcurrent : own.lookup (.rank r.victim season) = some current)
    (hrow : row.mmr = current.mmr + r.row.refundDelta) :
    Booked season ⟨summary.refundsIssued + 1, summary.totalRefunded + r.row.refundDelta⟩
      (view (AList.insert (.rank r.victim season) row ∅) own) db (r :: rs) where
  raised u' row' hrow' := by
    rw [ReadCommitted.lookup_view] at hrow'
    rw [refunded_cons]
    by_cases hu : r.victim = u'
    · subst hu
      rw [AList.lookup_insert, Option.some_or] at hrow'
      obtain rfl := Option.some.inj hrow'
      have hbefore := h.raised _ current hcurrent
      rw [if_pos rfl]
      omega
    · have hne : RowKey.rank u' season ≠ .rank r.victim season := fun heq => hu (RowKey.rank.inj heq).1.symm
      rw [AList.lookup_insert_ne hne, AList.lookup_empty, Option.none_or] at hrow'
      rw [if_neg hu, zero_add]
      exact h.raised u' row' hrow'
  issued := by simp [h.issued]
  total := by simp [h.total, add_comm]

theorem Booked.frame (h : Booked season summary own db rs) (hfree : ∀ k ∈ rows, k ∉ own) :
    Booked season summary own (view rows db) rs where
  raised u row hrow := by
    have hmem : RowKey.rank u season ∈ own := by rw [← AList.lookup_isSome, hrow]; rfl
    rw [mmrOf_keep fun hk => hfree _ hk hmem]
    exact h.raised u row hrow
  issued := h.issued
  total := h.total

end Rules

/-! ## Statements -/

variable {F : FloatMath} {db : DB} {m : Moment}

/-- The statements of a result write no refund. -/
theorem ResultTx.refunds_step {t t' : ResultTx} {seen : DB} {at_ : RecordAt}
    (h : t.step F seen m at_ = some t') (hown : ∀ u m c, RowKey.refund u m c ∉ t.own) :
    ∀ u m c, RowKey.refund u m c ∉ t'.own := by
  intro u mid c
  have hno := hown u mid c
  cases at_ with
  | ensure side row =>
      simp only [step] at h
      split_ifs at h
      · obtain rfl := Option.some.inj h
        exact notMem_view (AList.notMem_empty _) hno
      · obtain rfl := Option.some.inj h
        exact notMem_view (notMem_insert (by cases row <;> simp [key])) hno
      · obtain rfl := Option.some.inj h
        exact notMem_view (notMem_insert (by cases row <;> simp [key])) hno
  | guest side =>
      obtain ⟨guest, -, rfl⟩ := Option.map_eq_some_iff.1 h
      cases side <;> exact notMem_view (AList.notMem_empty _) hno
  | lobby =>
      obtain rfl := Option.some.inj h
      exact notMem_view (AList.notMem_empty _) hno
  | lock side =>
      obtain ⟨row, -, rfl⟩ := Option.map_eq_some_iff.1 h
      cases side <;> exact notMem_view (notMem_insert (by simp)) hno
  | updateRank side | userStats side | rankedStats side =>
      obtain rfl := Option.some.inj h
      exact notMem_view (notMem_update (by simp)) hno
  | commit => cases h

namespace RefundTx

variable {t t' : RefundTx}

theorem accounts_lock (t : RefundTx) (db : DB) (rest : List RefundCandidate) :
    t.Accounts db .lock rest = Booked t.season t.summary t.own db (refundsIn t.own) := by
  cases rest <;> rfl

/-- The transaction goes to the next candidate, and has locked a rating at most. -/
theorem books_skip (hb : Books history active t db) (hbooked : Booked t.season t.summary t.own db (refundsIn t.own))
    {rest : List RefundCandidate} (hrest : ∀ item ∈ rest, item ∈ t.rest) :
    Books history active (t.skip rest ∅) db := by
  have hown : (t.skip rest ∅).own = t.own := ReadCommitted.view_empty t.own
  refine ⟨hown ▸ hb.toOwnRefunds, hb.season, fun item hitem => hb.items item (hrest item hitem), ?_⟩
  show (t.skip rest ∅).Accounts db .lock rest
  rw [accounts_lock, hown]
  exact hbooked

/-- The transaction that has locked the rating of a victim. -/
theorem books_locked (hb : Books history active t db)
    (hbooked : Booked t.season t.summary t.own db (refundsIn t.own)) {u : UserID} {current : Rating.State}
    (hcurrent : (view t.own db).lookup (.rank u t.season) = some current) :
    OwnRefunds history t.cheater t.season (view (AList.insert (.rank u t.season) current ∅) t.own) db ∧
      Booked t.season t.summary (view (AList.insert (.rank u t.season) current ∅) t.own) db
        (refundsIn (view (AList.insert (.rank u t.season) current ∅) t.own)) := by
  have hrows : ∀ v m c, RowKey.refund v m c ∉ (AList.insert (.rank u t.season) current ∅ : DB) :=
    fun v m c => notMem_insert (by simp)
  refine ⟨hb.toOwnRefunds.keep hrows, ?_⟩
  rw [refundsIn_keep hrows]
  exact hbooked.lock hb.locked hcurrent

theorem books_insert {item : RefundCandidate} {rest : List RefundCandidate} {before after refundDelta : ℤ}
    {now : ℕ} (hb : Books history active t db) (hrest : t.rest = item :: rest)
    (hbooked : Booked t.season t.summary t.own db (refundsIn t.own))
    (hknows : t.Knows F (.insert before after refundDelta now) (item :: rest))
    (hd : Derived F t.changes t.own db) (hfloor : RanksFloored db)
    (hkey : RowKey.refund item.opponentID item.matchID t.cheater ∉ view t.own db) :
    Books history active
      { t with
        at_ := .update after refundDelta now
        own := view (AList.insert (.refund item.opponentID item.matchID t.cheater)
          (⟨item.originalDelta, refundDelta, before, after⟩ : RefundRow) ∅) t.own } db := by
  obtain ⟨current, hcurrent, rfl, hrefund⟩ := hknows
  have hfloored : minimumRankedMMR ≤ current.mmr := by
    have hrow := hd.rows _ _ current hcurrent
    exact (hfloor item.opponentID t.season).applyAll F _ current hrow.symm
  obtain ⟨hpos, rfl, hbound⟩ := refundOf_eq_some F hrefund
  obtain ⟨hnone, -, h', preview, hmatch, hwinner, hpreview, hlose⟩ :=
    mem_refundCandidates (hb.items item (hrest ▸ List.mem_cons_self))
  let r : IssuedRefund :=
    { victim := item.opponentID, matchID := item.matchID, cheater := t.cheater
      row := ⟨item.originalDelta, refundDelta, current.mmr, current.mmr + refundDelta⟩ }
  have hbacked : Backed history r :=
    { positive := hpos
      bounded := (hbound hfloored).2
      applied := add_sub_cancel_left _ _
      candidate := ⟨item, hnone, rfl, rfl, rfl⟩
      preview := ⟨h', preview, hmatch, hwinner, hpreview, hlose⟩ }
  have hlocked : RowKey.rank r.victim t.season ∈ t.own := by
    rw [← AList.lookup_isSome, hcurrent]
    rfl
  have hrows : ∀ u s, RowKey.rank u s ∉ (AList.insert r.key r.row ∅ : DB) :=
    fun u s => notMem_insert (by simp [IssuedRefund.key])
  refine ⟨hb.toOwnRefunds.insert (r := r) hkey rfl hbacked hlocked, hb.season, hb.items, ?_⟩
  simp only [Accounts, hrest]
  refine ⟨r, refundsIn t.own, ?_, rfl, rfl, hbooked.keep fun u => hrows u t.season, current, ?_, rfl⟩
  · exact refundsIn_insert r fun hown => hkey (AList.mem_union.2 (.inl hown))
  · exact (lookup_view_of_notMem (hrows _ _)).trans hcurrent

theorem books_update {item : RefundCandidate} {rest : List RefundCandidate} {after refundDelta : ℤ}
    {now : ℕ} (hb : Books history active t db) (hrest : t.rest = item :: rest)
    (hacc : t.Accounts db (.update after refundDelta now) (item :: rest)) (m : Moment) :
    Books history active
      ({ t with
          summary := ⟨t.summary.refundsIssued + 1, t.summary.totalRefunded + refundDelta⟩
          changes := t.changes ++ [((item.opponentID, t.season), Change.refund item now m.now)] }.skip rest
        (update (view t.own db) (.rank item.opponentID t.season) fun row : Rating.State =>
          some { row with mmr := after, updatedAt := m.now })) db := by
  obtain ⟨r, rs, hrefunds, hvictim, rfl, hbooked, current, hcurrent, rfl⟩ := hacc
  let row : Rating.State := { current with mmr := current.mmr + r.row.refundDelta, updatedAt := m.now }
  have hupdate : update (view t.own db) (.rank item.opponentID t.season) (fun row : Rating.State =>
      some { row with mmr := current.mmr + r.row.refundDelta, updatedAt := m.now }) =
        AList.insert (.rank r.victim t.season) row ∅ := by
    rw [hvictim]
    exact update_rank _ m.now hcurrent db
  rw [hupdate]
  rw [← hvictim] at hcurrent
  have hrows : ∀ u mid c, RowKey.refund u mid c ∉ (AList.insert (.rank r.victim t.season) row ∅ : DB) :=
    fun u mid c => notMem_insert (by simp)
  have hmmr : row.mmr = current.mmr + r.row.refundDelta := rfl
  have happly := hbooked.apply r hcurrent hmmr
  rw [← hrefunds, ← refundsIn_keep hrows t.own] at happly
  refine ⟨hb.toOwnRefunds.keep hrows, hb.season, fun item' h => hb.items item' ?_, ?_⟩
  · exact hrest ▸ List.mem_cons_of_mem _ h
  · show Accounts _ db .lock rest
    rw [accounts_lock]
    exact happly

theorem books_step (hb : Books history active t db) (hd : Derived F t.changes t.own db)
    (hknows : t.Knows F t.at_ t.rest) (hfloor : RanksFloored db)
    (h : t.step F history (view t.own db) m t.at_ t.rest = some t') : Books history active t' db := by
  have hs := steps_of_step h
  have hacc := hb.accounts
  have htail : ∀ {item rest}, t.rest = item :: rest → ∀ item' ∈ rest, item' ∈ t.rest :=
    fun hrest item' h => hrest ▸ List.mem_cons_of_mem _ h
  generalize hat : t.at_ = at_, hrest : t.rest = items at hknows hs hacc
  cases hs with
  | candidates =>
      refine ⟨hb.toOwnRefunds, hb.season, fun item hitem => hitem, ?_⟩
      show Accounts _ db .lock _
      rw [accounts_lock]
      cases items <;> exact hacc
  | unrated item rest => exact books_skip hb hacc (htail hrest)
  | spared item rest current found =>
      obtain ⟨hown, hbooked⟩ := books_locked hb hacc found
      refine ⟨hown, hb.season, fun item' h => hb.items item' (htail hrest item' h), ?_⟩
      show (t.skip rest _).Accounts db .lock rest
      rw [accounts_lock]
      exact hbooked
  | computed item rest current after refundDelta found refund =>
      obtain ⟨hown, hbooked⟩ := books_locked hb hacc found
      refine ⟨hown, hb.season, hb.items, ?_⟩
      simp only [Accounts]
      exact hbooked
  | refunded item rest before after refundDelta now => exact books_skip hb hacc (htail hrest)
  | inserted item rest before after refundDelta now fresh =>
      exact books_insert hb hrest hacc hknows hd hfloor fresh
  | updated item rest after refundDelta now => exact books_update hb hrest hacc m

/-- All refunds are applied when nothing is left to do. -/
theorem booked_of_done (hb : Books history active t db)
    (h : t.step F history (view t.own db) m t.at_ t.rest = none) :
    Booked t.season t.summary t.own db (refundsIn t.own) := by
  have hacc := hb.accounts
  generalize t.at_ = at_, t.rest = items at h hacc
  cases items with
  | nil => cases at_ <;> exact hacc
  | cons item rest =>
      cases at_ with
      | candidates | update => cases h
      | lock | insert => exact hacc

end RefundTx

/-! ## The program -/

variable {p p' : RatingProc}

theorem bookkeeping_begin (history : History) (c : RatingCall) (db : DB) :
    Bookkeeping history active (c.begin active) db := by
  cases c with
  | issueRefunds cheater since =>
      have hbooked : Booked active {} ∅ db [] := ⟨fun u row h => (by cases h), rfl, rfl⟩
      exact ⟨.empty history cheater active db, rfl, fun item h => (by cases h), hbooked⟩
  | recordMatchResult finished =>
      simp only [RatingCall.begin]
      split
      · exact fun u m c => AList.notMem_empty _
      · trivial

theorem bookkeeping_run (hfloor : RanksFloored db) (h : Fine F p db) (hb : Bookkeeping history active p db)
    (hp' : (p.run F history db m).2 = some p') :
    Bookkeeping history active p' (view (p.run F history db m).1 db) := by
  rcases run_cases F history p db m with hrows | ⟨-, hnone⟩
  · rw [hrows, ReadCommitted.view_empty]
    cases p with
    | result t =>
        simp only [RatingProc.run] at hp'
        split_ifs at hp'
        obtain ⟨t', ht', rfl⟩ := Option.map_eq_some_iff.1 hp'
        exact ResultTx.refunds_step ht' hb
    | refund t =>
        simp only [RatingProc.run] at hp'
        split at hp'
        · cases hp'
        · rename_i t' ht'
          obtain rfl := Option.some.inj hp'
          exact RefundTx.books_step hb h.1 h.2 hfloor ht'
    | nothing => cases hp'
  · rw [hnone] at hp'
    cases hp'

theorem bookkeeping_frame {rows : DB} (hb : Bookkeeping history active p db)
    (hfree : ∀ k ∈ rows, k ∉ p.own) : Bookkeeping history active p (view rows db) := by
  cases p with
  | result t => exact hb
  | refund t =>
      refine ⟨hb.toOwnRefunds.frame hfree, hb.season, hb.items, ?_⟩
      have hacc := hb.accounts
      generalize t.at_ = at_, t.rest = items at hacc ⊢
      cases items with
      | nil => cases at_ <;> exact Booked.frame hacc hfree
      | cons item rest =>
          cases at_ with
          | candidates | lock | insert => exact Booked.frame hacc hfree
          | update after refundDelta now =>
              obtain ⟨r, rs, hrefunds, hvictim, hdelta, hbooked, hcurrent⟩ := hacc
              exact ⟨r, rs, hrefunds, hvictim, hdelta, hbooked.frame hfree, hcurrent⟩
  | nothing => trivial

/-- What a transaction that issues refunds has done to the database when it has committed. -/
structure Accounted (history : History) (cheater : UserID) (season : SeasonID) (old new : DB)
    (summary : RefundSummary) : Prop where
  raised : ∀ u, mmrOf new u season = mmrOf old u season + refunded (inserted old new) u
  kept : ∀ r ∈ refundsIn old, r ∈ refundsIn new
  backed : ∀ r ∈ inserted old new, r.cheater = cheater ∧ Backed history r
  issued : summary.refundsIssued = (inserted old new).length
  total : summary.totalRefunded = ((inserted old new).map fun r => r.row.refundDelta).sum

/-- Refunds that are not among the committed ones leave these alone. -/
theorem refundsIn_kept {own : DB} (hfresh : ∀ r ∈ refundsIn own, r.key ∉ db) :
    ∀ r ∈ refundsIn db, r ∈ refundsIn (view own db) := by
  intro r hr
  have hown : r.key ∉ own := by
    intro hmem
    obtain ⟨row, hrow⟩ := Option.isSome_iff_exists.1 (AList.lookup_isSome.2 hmem)
    have hkey : r.key ∈ db := mem_of_mem_refundsIn hr
    exact hfresh { r with row := row } (mem_refundsIn.2 hrow) hkey
  rw [mem_refundsIn, lookup_view_of_notMem hown]
  exact mem_refundsIn.1 hr

theorem accounted_of_commit {t : RefundTx} (hb : Books history active t db)
    (h : t.step F history (view t.own db) m t.at_ t.rest = none) :
    Accounted history t.cheater active db (view t.own db) t.summary := by
  have hbooked := RefundTx.booked_of_done hb h
  have hinserted := inserted_view hb.fresh
  refine ⟨fun u => ?_, refundsIn_kept hb.fresh, ?_, ?_, ?_⟩
  · rw [hinserted, ← hb.season]
    cases hrow : t.own.lookup (.rank u t.season) with
    | some row =>
        have hview : (view t.own db).lookup (.rank u t.season) = some row := by
          rw [ReadCommitted.lookup_view, hrow, Option.some_or]
        rw [mmrOf_of_lookup hview]
        exact hbooked.raised u row hrow
    | none =>
        have hnot : RowKey.rank u t.season ∉ t.own := AList.lookup_eq_none.1 hrow
        have hnone : refunded (refundsIn t.own) u = 0 := refunded_eq_zero fun r hr hvictim =>
          hnot (hvictim ▸ hb.locked r hr)
        rw [mmrOf_keep hnot, hnone, add_zero]
  · rw [hinserted]
    exact hb.backed
  · rw [hinserted]
    exact hbooked.issued
  · rw [hinserted]
    exact hbooked.total

/-- The refunds since `start`. -/
structure RefundsKept (history : History) (start db : DB) : Prop where
  floored : RanksFloored db
  kept : ∀ r ∈ refundsIn start, r ∈ refundsIn db
  backed : ∀ r ∈ inserted start db, Backed history r

variable {start : DB}

theorem refundsKept_run (h : Fine F p db) (hb : Bookkeeping history active p db)
    (hk : RefundsKept history start db) : RefundsKept history start (view (p.run F history db m).1 db) := by
  have hfloor : RanksFloored (view (p.run F history db m).1 db) := ranksFloored_run h hk.floored
  rcases run_cases F history p db m with hrows | ⟨hrows, -⟩
  · rwa [hrows, ReadCommitted.view_empty]
  · rw [hrows] at hfloor ⊢
    cases p with
    | result t =>
        have heq : refundsIn (view t.own db) = refundsIn db := refundsIn_keep hb db
        refine ⟨hfloor, ?_, ?_⟩
        · rw [RatingProc.own, heq]
          exact hk.kept
        · rw [RatingProc.own, inserted, heq]
          exact hk.backed
    | refund t =>
        refine ⟨hfloor, fun r hr => refundsIn_kept hb.fresh r (hk.kept r hr), fun r hr => ?_⟩
        obtain ⟨hr, hnew⟩ := mem_inserted.1 hr
        rw [mem_refundsIn, RatingProc.own, ReadCommitted.lookup_view] at hr
        cases hrow : t.own.lookup r.key with
        | some row =>
            rw [hrow, Option.some_or] at hr
            exact (hb.backed r (mem_refundsIn.2 (hrow.trans hr))).2
        | none =>
            rw [hrow, Option.none_or] at hr
            exact hk.backed r (mem_inserted.2 ⟨mem_refundsIn.2 hr, hnew⟩)
    | nothing => rwa [RatingProc.own, ReadCommitted.view_empty]

theorem refunds_cooperate (active : SeasonID) (F : FloatMath) (history : History) (start : DB) :
    ReadCommitted.World.Cooperates (ratingProgram active F history) (RefundsKept history start)
      fun p db => Fine F p db ∧ Bookkeeping history active p db where
  begin c db _ := ⟨fine_begin c db, bookkeeping_begin history c db⟩
  run _ _ _ _ hk h hp' := ⟨fine_run h.1 hp', bookkeeping_run hk.floored h.1 h.2 hp'⟩
  keeps _ _ _ hk h := refundsKept_run h.1 h.2 hk
  frame _ _ _ _ _ _ h hfree := ⟨fine_frame h.1 hfree, bookkeeping_frame h.2 hfree⟩

/-! ## What can be paid back -/

/-- What the victim has lost in matches that the cheater has won. -/
def lost (history : History) (victim cheater : UserID) : ℤ :=
  (((refundCandidates history cheater none).filter fun item => item.opponentID = victim).map
    fun item => -item.originalDelta).sum

theorem sum_map_le_of_subperm {α : Type} {l l' : List α} (f : α → ℤ) (h : List.Subperm l l')
    (hpos : ∀ a ∈ l', 0 ≤ f a) : (l.map f).sum ≤ (l'.map f).sum := by
  obtain ⟨l₁, hperm, hsub⟩ := h
  rw [← (hperm.map f).sum_eq]
  exact (hsub.map f).sum_le_sum fun a ha => by
    obtain ⟨x, hx, rfl⟩ := List.mem_map.1 ha
    exact hpos x hx

/-- Backed refunds of different matches are not more than the losses. -/
theorem refunded_le_lost {rs : List IssuedRefund} (hkeys : (rs.map IssuedRefund.key).Nodup)
    (hbacked : ∀ r ∈ rs, Backed history r) (victim cheater : UserID) :
    refunded (rs.filter fun r => r.cheater = cheater) victim ≤ lost history victim cheater := by
  unfold refunded lost
  rw [List.filter_filter]
  set rs' := rs.filter fun r => (r.victim = victim : Bool) && (r.cheater = cheater : Bool) with hrs'
  have hmem : ∀ r ∈ rs', Backed history r ∧ r.victim = victim ∧ r.cheater = cheater := by
    intro r hr
    obtain ⟨hr, hof⟩ := List.mem_filter.1 hr
    exact ⟨hbacked r hr, by simpa using hof⟩
  let pair : IssuedRefund → MatchID × ℤ := fun r => (r.matchID, -r.row.originalDelta)
  let paid : RefundCandidate → MatchID × ℤ := fun item => (item.matchID, -item.originalDelta)
  have hnodup : (rs'.map pair).Nodup := by
    have hkeys' : (rs'.map IssuedRefund.key).Nodup := (List.filter_sublist.map _).nodup hkeys
    refine (List.nodup_map_iff_inj_on ?_).2 ?_
    · exact hkeys'.of_map
    · intro r hr r' hr' heq
      refine List.inj_on_of_nodup_map hkeys' hr hr' ?_
      have hid : r.matchID = r'.matchID := congrArg Prod.fst heq
      simp only [IssuedRefund.key, hid, (hmem r hr).2, (hmem r' hr').2]
  have hsub : rs'.map pair ⊆
      ((refundCandidates history cheater none).filter fun item => item.opponentID = victim).map paid := by
    intro x hx
    obtain ⟨r, hr, rfl⟩ := List.mem_map.1 hx
    obtain ⟨hback, rfl, rfl⟩ := hmem r hr
    obtain ⟨item, hitem, hid, hopponent, hdelta⟩ := hback.candidate
    refine List.mem_map.2 ⟨item, List.mem_filter.2 ⟨hitem, by simpa using hopponent⟩, ?_⟩
    simp only [pair, paid, hid, hdelta]
  have hle : (rs'.map fun r => r.row.refundDelta).sum ≤ (rs'.map fun r => -r.row.originalDelta).sum :=
    List.sum_le_sum fun r hr => (hmem r hr).1.bounded
  refine hle.trans ?_
  have hsum := sum_map_le_of_subperm Prod.snd (List.subperm_of_subset hnodup hsub) ?_
  · simpa [pair, paid, Function.comp_def] using hsum
  · intro a ha
    obtain ⟨item, hitem, rfl⟩ := List.mem_map.1 ha
    have hneg := (mem_refundCandidates (List.mem_filter.1 hitem).1).2.1
    simp only [paid]
    omega

/-- The refunds in a state: a transaction that issues refunds changes nothing before it commits, or when
it fails, and its summary counts what it has inserted; the refunds since the start stay as they are, one for
a victim, a match and a cheater, and give a victim back not more than he has lost to the cheater. -/
structure RefundLaws (start : DB) (w : RatingWorld active F history) : Prop where
  quiet : ∀ id t m w', w.procs.lookup id = some (.refund t) → w.step (.run id m) = some w' →
    id ∈ w'.procs → w'.db = w.db
  committed : ∀ id t m w', w.procs.lookup id = some (.refund t) → w.step (.run id m) = some w' →
    id ∉ w'.procs → Accounted history t.cheater active w.db w'.db t.summary
  failed : ∀ id w', w.step (.stop id) = some w' → w'.db = w.db
  kept : ∀ r ∈ refundsIn start, r ∈ refundsIn w.db
  once : ((refundsIn w.db).map IssuedRefund.key).Nodup
  limited : ∀ victim cheater,
    refunded ((inserted start w.db).filter fun r => r.cheater = cheater) victim ≤ lost history victim cheater

theorem quiet_or_accounted {w w' : RatingWorld active F history} {id : ℕ} {t : RefundTx}
    (hbooks : Books history active t w.db) (ht : w.procs.lookup id = some (.refund t))
    (hs : w.step (.run id m) = some w') :
    id ∈ w'.procs ∧ w'.db = w.db ∨
      id ∉ w'.procs ∧ Accounted history t.cheater active w.db w'.db t.summary := by
  cases ReadCommitted.World.steps_of_step hs with
  | run e mem free locked =>
      obtain rfl := Option.some.inj (ht.symm.trans mem)
      show id ∈ (w.settle id (RatingProc.run F history (.refund t) w.db m)).procs ∧
          view (RatingProc.run F history (.refund t) w.db m).1 w.db = w.db ∨
        id ∉ (w.settle id (RatingProc.run F history (.refund t) w.db m)).procs ∧
          Accounted history t.cheater active w.db
            (view (RatingProc.run F history (.refund t) w.db m).1 w.db) t.summary
      cases hstep : t.step F history (view t.own w.db) m t.at_ t.rest with
      | some t' =>
          have hrun : RatingProc.run F history (.refund t) w.db m = (∅, some (.refund t')) := by
            simp [RatingProc.run, hstep]
          rw [hrun]
          exact .inl ⟨(AList.mem_insert _).2 (.inl rfl), ReadCommitted.view_empty w.db⟩
      | none =>
          have hrun : RatingProc.run F history (.refund t) w.db m = (t.own, none) := by
            simp [RatingProc.run, hstep]
          rw [hrun]
          exact .inr ⟨fun hmem => (AList.mem_erase.1 hmem).1 rfl, accounted_of_commit hbooks hstep⟩

/-- Whatever results and refunds run at the same time, and however often refunds are issued for the same
cheater, the books are right in every state. -/
theorem refunds_accounted (active : SeasonID) (F : FloatMath) (history : History) (db : DB)
    (as : List (RatingAct active F history)) (w : RatingWorld active F history) (hfloor : RanksFloored db)
    (hw : Run.exec ReadCommitted.World.step (⟨db, ∅⟩ : RatingWorld active F history) as = some w) :
    RefundLaws db w := by
  have hstart : RefundsKept history db db := by
    refine ⟨hfloor, fun r hr => hr, fun r hr => ?_⟩
    obtain ⟨hr, hnew⟩ := mem_inserted.1 hr
    exact absurd (mem_of_mem_refundsIn hr) hnew
  have hshared := ReadCommitted.World.Shared.exec (refunds_cooperate active F history db)
    ⟨ReadCommitted.World.Inv.init db, hstart⟩ hw
  have hsteps : ∀ id t m w', w.procs.lookup id = some (.refund t) → w.step (.run id m) = some w' →
      id ∈ w'.procs ∧ w'.db = w.db ∨
        id ∉ w'.procs ∧ Accounted history t.cheater active w.db w'.db t.summary :=
    fun id t m w' ht hs => quiet_or_accounted (hshared.each id _ ht).2 ht hs
  refine ⟨fun id t m w' ht hs hmem => ?_, fun id t m w' ht hs hgone => ?_, fun id w' hs => ?_,
    hshared.shared.kept, nodup_refundsIn w.db, fun victim cheater => ?_⟩
  · rcases hsteps id t m w' ht hs with ⟨-, hdb⟩ | ⟨hgone, -⟩
    · exact hdb
    · exact absurd hmem hgone
  · rcases hsteps id t m w' ht hs with ⟨hmem, -⟩ | ⟨-, haccounted⟩
    · exact absurd hmem hgone
    · exact haccounted
  · cases ReadCommitted.World.steps_of_step hs with
    | stop => rfl
  · exact refunded_le_lost ((List.filter_sublist.map _).nodup (nodup_refundsIn w.db))
      hshared.shared.backed victim cheater

/-! ### Two bans of the same cheater at the same time -/

/-- `u` has won against `v`, who has lost 20 points by the preview. -/
def lostMatch (matchID : MatchID) (u v : UserID) : HistoryMatch where
  mode := .duel
  endedAt := 0
  winnerUserID := some u
  snapshot :=
    { (wonMatch matchID u v).snap with
      ratingPreview := AList.insert v { win := 20, lose := -20, draw := 0 } ∅ }
  players := AList.insert u ⟨1000, none⟩ (AList.insert v ⟨1000, none⟩ ∅)
  lobby := false

def lostMatches : History :=
  AList.insert "m1" (lostMatch "m1" "c" "v") (AList.insert "m2" (lostMatch "m2" "c" "v") ∅)

/-- The second ban waits for the first one at the rating of the victim. -/
def overlappingBans : List (RatingAct "s" FloatMath.coarse lostMatches) :=
  [.start 0 (.issueRefunds "c" none), .start 1 (.issueRefunds "c" none)] ++
    (0 :: 1 :: List.replicate 7 0 ++ List.replicate 5 1).map fun id => .run id {}

theorem ratedPlayers_floored (users : List UserID) : RanksFloored (ratedPlayers users) := by
  intro u s r hr
  rw [Option.mem_def, ratedPlayers, AList.lookup_to_alist] at hr
  obtain ⟨v, -, hv⟩ := List.mem_flatMap.1 (List.of_mem_dlookup hr)
  simp only [List.mem_cons, Sigma.mk.injEq, reduceCtorEq, false_and, false_or, or_false, List.not_mem_nil,
    RowKey.rank.injEq] at hv
  obtain ⟨⟨rfl, rfl⟩, hrow⟩ := hv
  rw [eq_of_heq hrow]
  decide

theorem refunds_accounted_overlappingBans :
    ∃ w, Run.exec ReadCommitted.World.step
        (⟨ratedPlayers ["v", "c"], ∅⟩ : RatingWorld "s" FloatMath.coarse lostMatches) overlappingBans = some w ∧
      mmrOf w.db "v" "s" = 1040 ∧ RefundLaws (ratedPlayers ["v", "c"]) w := by
  have hrun : (Run.exec ReadCommitted.World.step
      (⟨ratedPlayers ["v", "c"], ∅⟩ : RatingWorld "s" FloatMath.coarse lostMatches) overlappingBans).any
        (fun w => mmrOf w.db "v" "s" = 1040) := by
    decide +kernel
  obtain ⟨w, hw, hmmr⟩ := (Option.any_eq_true _ _).1 hrun
  exact ⟨w, hw, by simpa using hmmr, refunds_accounted "s" FloatMath.coarse lostMatches _ overlappingBans w
    (ratedPlayers_floored _) hw⟩

end GeoDuels.Ratings
