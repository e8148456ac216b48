import GeoDuels.Lib.Deadlock
import GeoDuels.Ratings.Refunds
import Mathlib.Data.Prod.Lex

/-!
# Who waits for whom

A result takes its rows player by player: first those that `ensure` inserts, then the ratings, then the
two kinds of statistics.  A refund takes the ratings of the victims in the order in which their matches
have ended.  The order of the two players is that of the map of the snapshot, so two transactions can take
the same ratings in opposite orders and wait for each other (`deadlock_resultAndRefund`).  When the calls
in progress always go through their users in one common order, nobody waits in a circle
(`not_deadlock_of_commonOrder`).  A victim whose rating a refund has locked does not count again.
-/

namespace GeoDuels.Ratings

open ReadCommitted (view update)

/-! ## Stages -/

/-- Phases, in a phase the users, and for a user the rows. -/
abbrev Stage := ℕ ×ₗ ℕ ×ₗ ℕ

def stageAt (phase pos row : ℕ) : Stage := toLex (phase, toLex (pos, row))

theorem stageAt_lt {a b c a' b' c' : ℕ} :
    stageAt a b c < stageAt a' b' c' ↔ a < a' ∨ a = a' ∧ (b < b' ∨ b = b' ∧ c < c') := by
  simp [stageAt, Prod.Lex.toLex_lt_toLex]

/-- The stage at which a row is inserted that nobody has committed. -/
def newLevel (pos : UserID → ℕ) : RowKey → Stage
  | .user u => stageAt 0 (pos u) 0
  | .rank u _ => stageAt 0 (pos u) 1
  | .userStats u => stageAt 0 (pos u) 2
  | .rankedStats u _ => stageAt 0 (pos u) 3
  | .refund _ _ _ => stageAt 0 0 0

/-- The stage at which a committed row is locked. -/
def oldLevel (pos : UserID → ℕ) : RowKey → Stage
  | .rank u _ => stageAt 2 (pos u) 0
  | .userStats u => stageAt 4 (pos u) 0
  | .rankedStats u _ => stageAt 5 (pos u) 0
  | .user _ | .refund _ _ _ => stageAt 0 0 0

def level (pos : UserID → ℕ) (db : DB) (k : RowKey) : Stage :=
  if k ∈ db then oldLevel pos k else newLevel pos k

def ResultTx.stage (pos : UserID → ℕ) (t : ResultTx) : RecordAt → Stage
  | .ensure side row => newLevel pos (t.key side row)
  | .guest .p1 => stageAt 1 0 0
  | .guest .p2 => stageAt 1 1 0
  | .lobby => stageAt 1 2 0
  | .lock side => stageAt 2 (pos (t.player side)) 0
  | .updateRank .p1 => stageAt 3 0 0
  | .updateRank .p2 => stageAt 3 1 0
  | .userStats side => stageAt 4 (pos (t.player side)) 0
  | .rankedStats side => stageAt 5 (pos (t.player side)) 0
  | .commit => stageAt 6 0 0

/-- A refund waits for the rating of its next victim, and only when it has not locked it. -/
def RefundTx.stage (pos : UserID → ℕ) (t : RefundTx) : RefundAt → List RefundCandidate → Stage
  | .lock, item :: _ =>
      if .rank item.opponentID t.season ∈ t.own then stageAt 6 0 0 else stageAt 2 (pos item.opponentID) 0
  | _, _ => stageAt 6 0 0

def RatingProc.stage (pos : UserID → ℕ) : RatingProc → Stage
  | .result t => t.stage pos t.at_
  | .refund t => t.stage pos t.at_ t.rest
  | .nothing => stageAt 6 0 0

/-- The victims that a refund has still to come to. -/
def RefundTx.toCome (history : History) (t : RefundTx) : List UserID :=
  (match t.at_ with
    | .candidates => refundCandidates history t.cheater t.since
    | _ => t.rest).map RefundCandidate.opponentID

/-- The transaction goes through its users in the order of `pos`.  A refund has locked the rating of a victim
that it comes to again, when the victim has one; the other victims come after those that it has locked or
passed. -/
def InOrder (history : History) (pos : UserID → ℕ) (db : DB) : RatingProc → Prop
  | .result t => pos t.p1 < pos t.p2
  | .refund t => ∀ before u later, t.toCome history = before ++ u :: later →
      .rank u t.season ∈ t.own ∨ (u ∈ before ∧ .rank u t.season ∈ db) ∨
        ∀ v, .rank v t.season ∈ t.own ∨ v ∈ before → v = u ∨ pos v < pos u
  | .nothing => True

/-! ## Results -/

/-- The row that the statement at a place locks. -/
def ResultTx.rowAt (t : ResultTx) : RecordAt → Option RowKey
  | .ensure side row => some (t.key side row)
  | .lock side | .updateRank side => some (.rank (t.player side) t.season)
  | .userStats side => some (.userStats (t.player side))
  | .rankedStats side => some (.rankedStats (t.player side) t.season)
  | .guest _ | .lobby | .commit => none

/-- What `ensure` inserts is not there before; the other statements lock what is there. -/
def RecordAt.Finds (k : RowKey) (seen : DB) : RecordAt → Prop
  | .ensure _ _ => k ∉ seen
  | _ => k ∈ seen

variable {F : FloatMath} {history : History} {active : SeasonID} {pos : UserID → ℕ} {db : DB} {m : Moment}

namespace ResultTx

variable {t t' : ResultTx} {seen : DB} {at_ : RecordAt}

/-- What a statement does apart from the values. -/
theorem step_rows (h : t.step F seen m at_ = some t') :
    ∃ (t₁ : ResultTx) (rows : DB), t' = t₁.goOn at_ rows ∧ t₁.p1 = t.p1 ∧ t₁.p2 = t.p2 ∧ t₁.season = t.season ∧
      t₁.own = t.own ∧ ∀ k ∈ rows, t.rowAt at_ = some k ∧ at_.Finds k seen := by
  have hempty : ∀ k ∈ (∅ : DB), t.rowAt at_ = some k ∧ at_.Finds k seen :=
    fun k hk => absurd hk (AList.notMem_empty k)
  have hupdate : ∀ {k} {f : Row k → Option (Row k)}, ∀ k' ∈ update seen k f, k' = k ∧ k' ∈ seen := by
    intro k f k' hk'
    obtain rfl := ReadCommitted.mem_update hk'
    refine ⟨rfl, ?_⟩
    obtain ⟨v, hv⟩ := Option.isSome_iff_exists.1 (AList.lookup_isSome.2 hk')
    rw [ReadCommitted.lookup_update_self] at hv
    obtain ⟨old, hold, -⟩ := Option.bind_eq_some_iff.1 hv
    rw [← AList.lookup_isSome, hold]
    rfl
  cases at_ with
  | ensure side row =>
      simp only [step] at h
      split_ifs at h with hblank hmem hrank
      · obtain rfl := Option.some.inj h
        exact ⟨t, ∅, rfl, rfl, rfl, rfl, rfl, hempty⟩
      all_goals
        obtain rfl := Option.some.inj h
        refine ⟨_, _, rfl, rfl, rfl, rfl, rfl, fun k hk => ?_⟩
        obtain rfl := ((AList.mem_insert _).1 hk).resolve_right (AList.notMem_empty k)
        exact ⟨rfl, hmem⟩
  | guest side =>
      obtain ⟨guest, -, rfl⟩ := Option.map_eq_some_iff.1 h
      cases side <;> exact ⟨_, ∅, rfl, rfl, rfl, rfl, rfl, hempty⟩
  | lobby =>
      obtain rfl := Option.some.inj h
      exact ⟨_, ∅, rfl, rfl, rfl, rfl, rfl, hempty⟩
  | lock side =>
      obtain ⟨row, hrow, rfl⟩ := Option.map_eq_some_iff.1 h
      have hmem : RowKey.rank (t.player side) t.season ∈ seen := by
        rw [← AList.lookup_isSome, hrow]
        rfl
      have hrows : ∀ k ∈ (AList.insert (.rank (t.player side) t.season) row ∅ : DB),
          t.rowAt (.lock side) = some k ∧ RecordAt.Finds k seen (.lock side) := by
        intro k hk
        obtain rfl := ((AList.mem_insert _).1 hk).resolve_right (AList.notMem_empty k)
        exact ⟨rfl, hmem⟩
      cases side <;> exact ⟨_, _, rfl, rfl, rfl, rfl, rfl, hrows⟩
  | updateRank side | userStats side | rankedStats side =>
      obtain rfl := Option.some.inj h
      refine ⟨_, _, rfl, rfl, rfl, rfl, rfl, fun k hk => ?_⟩
      obtain ⟨rfl, hmem⟩ := hupdate k hk
      exact ⟨rfl, hmem⟩
  | commit => cases h

/-- The next place is at a later stage. -/
theorem stage_lt_after (h : pos t.p1 < pos t.p2) (hat : at_ ≠ .commit) :
    t.stage pos at_ < t.stage pos (t.after at_) := by
  cases at_ with
  | commit => exact absurd rfl hat
  | ensure side row => cases side <;> cases row <;> simp [after, stage, key, player, newLevel, stageAt_lt, h]
  | guest side => cases side <;> simp [after, stage, stageAt_lt]
  | lobby =>
      simp only [after, afterLocks]
      split_ifs <;> simp [stage, stageAt_lt]
  | lock side =>
      cases side <;> simp only [after, afterLocks]
      · simp [stage, stageAt_lt, player, h]
      · split_ifs <;> simp [stage, stageAt_lt]
  | updateRank side =>
      cases side <;> simp only [after]
      · split_ifs <;> simp [stage, stageAt_lt]
      · simp [stage, stageAt_lt]
  | userStats side =>
      cases side <;> simp only [after]
      · simp [stage, stageAt_lt, player, h]
      · split_ifs <;> simp [stage, stageAt_lt]
  | rankedStats side =>
      cases side <;> simp only [after]
      · split_ifs <;> simp [stage, stageAt_lt, player, h]
      · simp [stage, stageAt_lt]

end ResultTx

/-! ## Refunds -/

namespace RefundTx

variable {t t' : RefundTx} {seen : DB} {at_ : RefundAt} {items : List RefundCandidate}

/-- The row that a statement locks: the rating of the victim, or his refund when the rating is locked. -/
inductive Locks (t : RefundTx) (seen : DB) : RefundAt → List RefundCandidate → RowKey → Prop
  | held (at_ : RefundAt) (items : List RefundCandidate) (k : RowKey) (held : k ∈ t.own) :
      Locks t seen at_ items k
  | rank (item : RefundCandidate) (rest : List RefundCandidate)
      (found : RowKey.rank item.opponentID t.season ∈ seen) :
      Locks t seen .lock (item :: rest) (.rank item.opponentID t.season)
  | refund (at_ : RefundAt) (item : RefundCandidate) (rest : List RefundCandidate)
      (held : RowKey.rank item.opponentID t.season ∈ t.own) :
      Locks t seen at_ (item :: rest) (.refund item.opponentID item.matchID t.cheater)

theorem step_rows (hknows : t.Knows F at_ items) (h : t.step F history seen m at_ items = some t') :
    t'.season = t.season ∧ (∀ k ∈ t.own, k ∈ t'.own) ∧ ∀ k ∈ t'.own, t.Locks seen at_ items k := by
  have hsub : ∀ (rows : DB), ∀ k ∈ t.own, k ∈ view rows t.own := fun rows k hk => AList.mem_union.2 (.inr hk)
  have hempty : ∀ k ∈ view ∅ t.own, t.Locks seen at_ items k := fun k hk =>
    .held at_ items k (by rwa [ReadCommitted.view_empty] at hk)
  have hinsert : ∀ {k} {row : Row k}, t.Locks seen at_ items k →
      ∀ k' ∈ view (AList.insert k row ∅) t.own, t.Locks seen at_ items k' := by
    intro k row hk k' hk'
    rcases AList.mem_union.1 hk' with hk' | hk'
    · obtain rfl := ((AList.mem_insert _).1 hk').resolve_right (AList.notMem_empty k')
      exact hk
    · exact .held at_ items k' hk'
  have hmem : ∀ {rows : DB} {k} {row : Row k}, rows.lookup k = some row → k ∈ rows := by
    intro rows k row hrow
    rw [← AList.lookup_isSome, hrow]
    rfl
  cases steps_of_step h with
  | candidates => exact ⟨rfl, fun k hk => hk, fun k hk => .held _ _ k hk⟩
  | unrated | refunded => exact ⟨rfl, hsub _, hempty⟩
  | spared item rest current found | computed item rest current _ _ found =>
      exact ⟨rfl, hsub _, hinsert (.rank item rest (hmem found))⟩
  | inserted item rest before after refundDelta now fresh =>
      obtain ⟨current, hcurrent, -⟩ := hknows
      exact ⟨rfl, hsub _, hinsert (.refund _ item rest (hmem hcurrent))⟩
  | updated item rest after refundDelta now =>
      obtain ⟨current, hcurrent, -⟩ := hknows
      refine ⟨rfl, hsub _, fun k hk => .held _ _ k ?_⟩
      rcases AList.mem_union.1 hk with hk | hk
      · rw [ReadCommitted.mem_update hk]
        exact hmem hcurrent
      · exact hk

/-- What a statement does to the victims and to their ratings: it stays at a victim or has done with it, and
then the rating is locked if there is one. -/
theorem toCome_step (hrest : t.rest = items) (hat : t.at_ = at_) (hknows : t.Knows F at_ items)
    (h : t.step F history seen m at_ items = some t') :
    t'.toCome history = t.toCome history ∨
      ∃ u, t.toCome history = u :: t'.toCome history ∧
        (RowKey.rank u t.season ∈ seen → RowKey.rank u t.season ∈ t'.own) := by
  have hmem : ∀ {k} {row : Row k} (rows : DB), t.own.lookup k = some row → k ∈ view rows t.own := by
    intro k row rows hrow
    exact AList.mem_union.2 (.inr (AList.lookup_isSome.1 (by rw [hrow]; rfl)))
  have hs := steps_of_step h
  cases hs with
  | candidates => exact .inl (by simp only [toCome, hat])
  | computed | inserted => exact .inl (by simp only [toCome, hat])
  | unrated item rest missing =>
      refine .inr ⟨item.opponentID, by simp only [toCome, hat, hrest, skip, List.map_cons], fun hseen => ?_⟩
      exact absurd hseen (AList.lookup_eq_none.1 missing)
  | spared item rest =>
      refine .inr ⟨item.opponentID, by simp only [toCome, hat, hrest, skip, List.map_cons], fun _ => ?_⟩
      exact AList.mem_union.2 (.inl ((AList.mem_insert _).2 (.inl rfl)))
  | refunded item rest | updated item rest =>
      obtain ⟨current, hcurrent, -⟩ := hknows
      refine .inr ⟨item.opponentID, by simp only [toCome, hat, hrest, skip, List.map_cons], fun _ => ?_⟩
      exact hmem _ hcurrent

end RefundTx

/-! ## What a transaction holds and what it needs -/

/-- A result has locked its rows at stages that it has left behind; a refund is written by who has locked the
rating of its victim. -/
def LocksInOrder (active : SeasonID) : RatingProc → DB → Prop
  | .result t, db => (∀ u m c, RowKey.refund u m c ∉ t.own) ∧
      ∀ pos, pos t.p1 < pos t.p2 → ∀ k ∈ t.own, level pos db k < t.stage pos t.at_
  | .refund t, _ => t.season = active ∧
      ∀ k ∈ t.own, ∃ u, RowKey.rank u active ∈ t.own ∧
        (k = .rank u active ∨ ∃ mid c, k = .refund u mid c)
  | .nothing, _ => True

theorem level_view {rows : DB} {k : RowKey} (hk : k ∉ rows) (pos : UserID → ℕ) (db : DB) :
    level pos (view rows db) k = level pos db k := by
  have hmem : k ∈ view rows db ↔ k ∈ db := AList.mem_union.trans (or_iff_right hk)
  simp [level, hmem]

namespace ResultTx

variable {t t' : ResultTx} {at_ : RecordAt} {k : RowKey}

theorem stage_congr {t₁ : ResultTx} (h₁ : t₁.p1 = t.p1) (h₂ : t₁.p2 = t.p2) (hs : t₁.season = t.season)
    (pos : UserID → ℕ) (at_ : RecordAt) : t₁.stage pos at_ = t.stage pos at_ := by
  have hplayer : ∀ side, t₁.player side = t.player side := by
    rintro (_ | _)
    · exact h₁
    · exact h₂
  cases at_ with
  | ensure side row => cases row <;> simp [stage, key, hplayer, hs]
  | guest side | updateRank side => cases side <;> rfl
  | lock side | userStats side | rankedStats side => simp [stage, hplayer]
  | lobby | commit => rfl

/-- A row that is locked now belongs to this stage. -/
theorem level_rowAt (hknows : t.Knows at_) (hrow : t.rowAt at_ = some k)
    (hfinds : at_.Finds k (view t.own db)) (hown : k ∉ t.own) : level pos db k = t.stage pos at_ := by
  have hdb : k ∈ view t.own db → k ∈ db := fun hmem => (AList.mem_union.1 hmem).resolve_left hown
  cases at_ with
  | ensure side row =>
      obtain rfl := Option.some.inj hrow
      exact if_neg fun hmem => hfinds (AList.mem_union.2 (.inr hmem))
  | updateRank side =>
      obtain rfl := Option.some.inj hrow
      have hlocked : t.Locked side := by
        cases side with
        | p1 => exact hknows.1
        | p2 => exact hknows
      exact absurd (AList.lookup_isSome.1 (by rw [show t.own.lookup _ = _ from hlocked]; rfl)) hown
  | lock side | userStats side | rankedStats side =>
      obtain rfl := Option.some.inj hrow
      exact if_pos (hdb hfinds)
  | guest side | lobby | commit => cases hrow

theorem locks_step (hknows : t.Knows t.at_) (hl : LocksInOrder active (.result t) db)
    (h : t.step F (view t.own db) m t.at_ = some t') :
    LocksInOrder active (.result t') db ∧
      ∀ k ∈ t'.own, k ∈ t.own ∨ (∀ u m c, k ≠ .refund u m c) ∧
        ∀ pos, t.stage pos t.at_ ≤ level pos db k := by
  obtain ⟨t₁, rows, rfl, h₁, h₂, hs, hown, hrows⟩ := step_rows h
  have hcommit : t.at_ ≠ .commit := by
    intro hat
    rw [hat] at h
    cases h
  have hnew : ∀ pos, ∀ k ∈ (t₁.goOn t.at_ rows).own, k ∈ t.own ∨ level pos db k = t.stage pos t.at_ := by
    intro pos k hk
    by_cases hmem : k ∈ t.own
    · exact .inl hmem
    · have hk' := (AList.mem_union.1 hk).resolve_right (by rwa [hown])
      exact .inr (level_rowAt hknows (hrows k hk').1 (hrows k hk').2 hmem)
  have hrefund := refunds_step h hl.1
  refine ⟨⟨hrefund, fun pos hpos k hk => ?_⟩, fun k hk => ?_⟩
  · have hpos' : pos t.p1 < pos t.p2 := by rwa [← h₁, ← h₂]
    have hlater : t.stage pos t.at_ < (t₁.goOn t.at_ rows).stage pos (t₁.goOn t.at_ rows).at_ := by
      have hafter := stage_lt_after (t := t₁) hpos hcommit
      rwa [stage_congr h₁ h₂ hs] at hafter
    rcases hnew pos k hk with hmem | heq
    · exact (hl.2 pos hpos' k hmem).trans hlater
    · rwa [heq]
  · by_cases hmem : k ∈ t.own
    · exact .inl hmem
    · refine .inr ⟨fun u m c hrow => hrefund u m c (hrow ▸ hk), fun pos => ?_⟩
      exact ((hnew pos k hk).resolve_left hmem).ge

end ResultTx

namespace RefundTx

variable {t t' : RefundTx}

/-- The ratings that a refund has locked come before the one that it waits for. -/
theorem level_lt_stage (h : InOrder history pos db (.refund t)) {u : UserID}
    (hu : RowKey.rank u t.season ∈ t.own) : level pos db (.rank u t.season) < t.stage pos t.at_ t.rest := by
  have hlast : level pos db (.rank u t.season) < stageAt 6 0 0 := by
    unfold level oldLevel newLevel
    split_ifs <;> simp [stageAt_lt]
  unfold stage
  split
  · next item rest hat hrest =>
    split_ifs with hheld
    · exact hlast
    · have hnext : t.toCome history = [] ++ item.opponentID :: rest.map RefundCandidate.opponentID := by
        simp only [toCome, hat, hrest, List.map_cons, List.nil_append]
      obtain hmem | ⟨hmem, -⟩ | habove := h _ _ _ hnext
      · exact absurd hmem hheld
      · cases hmem
      · have hpos : pos u < pos item.opponentID := by
          refine (habove u (.inl hu)).resolve_left ?_
          rintro rfl
          exact hheld hu
        unfold level oldLevel newLevel
        split_ifs <;> simp [stageAt_lt, hpos]
  · exact hlast

theorem locks_step (hknows : t.Knows F t.at_ t.rest) (hl : LocksInOrder active (.refund t) db)
    (h : t.step F history (view t.own db) m t.at_ t.rest = some t') :
    LocksInOrder active (.refund t') db ∧
      ∀ k ∈ t'.own, k ∈ t.own ∨ ((∀ u m c, k ≠ .refund u m c) ∧
          ∀ pos, t.stage pos t.at_ t.rest ≤ level pos db k) ∨
        ∃ u mid c, k = .refund u mid c ∧ RowKey.rank u active ∈ t.own := by
  obtain ⟨rfl, hkeys⟩ := hl
  obtain ⟨hseason, hsub, hlocks⟩ := step_rows hknows h
  refine ⟨⟨hseason, fun k hk => ?_⟩, fun k hk => ?_⟩
  · have hlock := hlocks k hk
    generalize t.at_ = at_, t.rest = items at hlock
    cases hlock with
    | held at_ items k held =>
        obtain ⟨u, hu, hkind⟩ := hkeys k held
        exact ⟨u, hsub _ hu, hkind⟩
    | rank item rest found => exact ⟨item.opponentID, hk, .inl rfl⟩
    | refund at_ item rest held => exact ⟨item.opponentID, hsub _ held, .inr ⟨_, _, rfl⟩⟩
  · by_cases hmem : k ∈ t.own
    · exact .inl hmem
    · right
      generalize t.at_ = at_, t.rest = items at hlocks
      cases hlocks k hk with
      | held at_ items k held => exact absurd held hmem
      | refund at_ item rest held => exact .inr ⟨_, _, _, rfl, held⟩
      | rank item rest found =>
          refine .inl ⟨fun u m c h => (by cases h), fun pos => ?_⟩
          have hdb : RowKey.rank item.opponentID t.season ∈ db := (AList.mem_union.1 found).resolve_left hmem
          have hlevel : level pos db (.rank item.opponentID t.season) = stageAt 2 (pos item.opponentID) 0 :=
            if_pos hdb
          rw [hlevel, stage, if_neg hmem]

/-- A statement keeps the order of the victims. -/
theorem inOrder_step (hknows : t.Knows F t.at_ t.rest) (hpos : InOrder history pos db (.refund t))
    (h : t.step F history (view t.own db) m t.at_ t.rest = some t') : InOrder history pos db (.refund t') := by
  obtain ⟨hseason, hsub, hlocks⟩ := step_rows hknows h
  -- the only rating that the statement can lock is that of the first victim to come
  have hhead : ∀ v, RowKey.rank v t.season ∈ t'.own →
      RowKey.rank v t.season ∈ t.own ∨ ∃ later, t.toCome history = v :: later := by
    intro v hv
    have hlock := hlocks _ hv
    generalize hat : t.at_ = at_, hrest : t.rest = items, hk : RowKey.rank v t.season = k at hlock
    cases hlock with
    | held at_ items k held => exact .inl held
    | refund => cases hk
    | rank item rest found =>
        cases hk
        exact .inr ⟨rest.map RefundCandidate.opponentID, by simp only [toCome, hat, hrest, List.map_cons]⟩
  intro before u later hsplit
  rw [hseason]
  obtain hsame | ⟨x, hnext, hlocked⟩ := toCome_step rfl rfl hknows h
  · rw [hsame] at hsplit
    obtain hmem | hagain | habove := hpos before u later hsplit
    · exact .inl (hsub _ hmem)
    · exact .inr (.inl hagain)
    · refine .inr (.inr fun v hv => ?_)
      obtain hv | hv := hv
      · obtain hv | ⟨later', hv⟩ := hhead v hv
        · exact habove v (.inl hv)
        · rw [hsplit] at hv
          cases before with
          | nil => exact .inl (List.cons.inj hv).1.symm
          | cons y before =>
              obtain rfl : y = v := (List.cons.inj hv).1
              exact habove y (.inr List.mem_cons_self)
      · exact habove v (.inr hv)
  · rw [hsplit] at hnext
    obtain hmem | ⟨hmem, hrated⟩ | habove := hpos (x :: before) u later hnext
    · exact .inl (hsub _ hmem)
    · obtain rfl | hmem := List.mem_cons.1 hmem
      · exact .inl (hlocked (AList.mem_union.2 (.inr hrated)))
      · exact .inr (.inl ⟨hmem, hrated⟩)
    · refine .inr (.inr fun v hv => ?_)
      obtain hv | hv := hv
      · obtain hv | ⟨later', hv⟩ := hhead v hv
        · exact habove v (.inl hv)
        · obtain rfl : x = v := (List.cons.inj (hnext.symm.trans hv)).1
          exact habove x (.inr List.mem_cons_self)
      · exact habove v (.inr (List.mem_cons_of_mem x hv))

end RefundTx

/-! ## Deadlocks -/

variable {p p' : RatingProc}

theorem locksInOrder_begin (c : RatingCall) (db : DB) : LocksInOrder active (c.begin active) db := by
  cases c with
  | issueRefunds cheater since => exact ⟨rfl, fun k hk => absurd hk (AList.notMem_empty k)⟩
  | recordMatchResult finished =>
      simp only [RatingCall.begin]
      split
      · exact ⟨fun u m c => AList.notMem_empty _, fun pos _ k hk => absurd hk (AList.notMem_empty k)⟩
      · trivial

/-- The next statement of a process that does not commit. -/
theorem run_step (hp' : (p.run F history db m).2 = some p') :
    (∃ t t', p = .result t ∧ p' = .result t' ∧ t.step F (view t.own db) m t.at_ = some t') ∨
      ∃ t t', p = .refund t ∧ p' = .refund t' ∧ t.step F history (view t.own db) m t.at_ t.rest = some t' := by
  cases p with
  | result t =>
      simp only [RatingProc.run] at hp'
      split_ifs at hp'
      obtain ⟨t', ht', rfl⟩ := Option.map_eq_some_iff.1 hp'
      exact .inl ⟨t, t', rfl, rfl, ht'⟩
  | refund t =>
      simp only [RatingProc.run] at hp'
      split at hp'
      · cases hp'
      · rename_i t' ht'
        exact .inr ⟨t, t', rfl, (Option.some.inj hp').symm, ht'⟩
  | nothing => cases hp'

theorem locksInOrder_run (hf : Fine F p db) (hl : LocksInOrder active p db)
    (hp' : (p.run F history db m).2 = some p') : LocksInOrder active p' db := by
  rcases run_step hp' with ⟨t, t', rfl, rfl, h⟩ | ⟨t, t', rfl, rfl, h⟩
  · exact (ResultTx.locks_step hf.2.2 hl h).1
  · exact (RefundTx.locks_step hf.2 hl h).1

/-- The rows that a process needs next belong to its stage, or it has locked the rating that goes with
them. -/
theorem needs_run {k : RowKey} (hf : Fine F p db) (hl : LocksInOrder active p db)
    (hk : k ∈ (p.run F history db m).1 ∨
      k ∈ ReadCommitted.locks (M := ratingProgram active F history) (p.run F history db m).2) :
    k ∈ p.own ∨ ((∀ u m c, k ≠ .refund u m c) ∧ ∀ pos, p.stage pos ≤ level pos db k) ∨
      ∃ u mid c, k = .refund u mid c ∧ RowKey.rank u active ∈ p.own := by
  rcases hk with hk | hk
  · rcases run_cases F history p db m with hrows | ⟨hrows, -⟩
    · rw [hrows] at hk
      exact absurd hk (AList.notMem_empty k)
    · rw [hrows] at hk
      exact .inl hk
  · cases hnext : (p.run F history db m).2 with
    | none =>
        rw [hnext] at hk
        exact absurd hk (AList.notMem_empty k)
    | some p' =>
        rw [hnext] at hk
        rcases run_step hnext with ⟨t, t', rfl, rfl, h⟩ | ⟨t, t', rfl, rfl, h⟩
        · exact ((ResultTx.locks_step hf.2.2 hl h).2 k hk).imp_right .inl
        · exact (RefundTx.locks_step hf.2 hl h).2 k hk

/-- The rows that a process has locked belong to earlier stages. -/
theorem holds_run {k : RowKey} (hl : LocksInOrder active p db) (hpos : InOrder history pos db p)
    (hk : k ∈ p.own) : ((∀ u m c, k ≠ .refund u m c) → level pos db k < p.stage pos) ∧
      ∀ u mid c, k = .refund u mid c → RowKey.rank u active ∈ p.own := by
  cases p with
  | result t =>
      refine ⟨fun _ => hl.2 pos hpos k hk, fun u mid c hrefund => ?_⟩
      exact absurd (hrefund ▸ hk) (hl.1 u mid c)
  | refund t =>
      obtain ⟨rfl, hkeys⟩ := hl
      obtain ⟨u, hu, rfl | ⟨mid, c, rfl⟩⟩ := hkeys k hk
      · exact ⟨fun _ => RefundTx.level_lt_stage hpos hu, fun _ _ _ h => by cases h⟩
      · refine ⟨fun h => absurd rfl (h u mid c), ?_⟩
        rintro _ _ _ ⟨⟩
        exact hu
  | nothing => exact absurd hk (AList.notMem_empty k)

theorem locksInOrder_frame {rows : DB} (hl : LocksInOrder active p db)
    (hfree : ∀ k ∈ rows, k ∉ p.own) : LocksInOrder active p (view rows db) := by
  cases p with
  | result t =>
      refine ⟨hl.1, fun pos hpos k hk => ?_⟩
      rw [level_view fun hrows => hfree k hrows hk]
      exact hl.2 pos hpos k hk
  | refund t => exact hl
  | nothing => trivial

theorem lockOrder_local (active : SeasonID) (F : FloatMath) (history : History) :
    ReadCommitted.World.Local (ratingProgram active F history)
      fun p db => Fine F p db ∧ LocksInOrder active p db where
  begin c db := ⟨fine_begin c db, locksInOrder_begin c db⟩
  run p db e p' h hp' := by
    refine ⟨fine_run h.1 hp', ?_⟩
    have hl := locksInOrder_run h.1 h.2 hp'
    rcases run_cases F history p db e with hrows | ⟨-, hnone⟩
    · have hrows' : ((ratingProgram active F history).run p db e).1 = ∅ := hrows
      rwa [hrows', ReadCommitted.view_empty]
    · exact absurd (hnone.symm.trans hp') (by simp)
  frame q db rows h hfree := ⟨fine_frame h.1 hfree, locksInOrder_frame h.2 hfree⟩

/-- A transaction keeps the order of its users. -/
theorem inOrder_run (h : InOrder history pos db p) (hf : Fine F p db)
    (hp' : (p.run F history db m).2 = some p') : InOrder history pos db p' := by
  rcases run_step hp' with ⟨t, t', rfl, rfl, hstep⟩ | ⟨t, t', rfl, rfl, hstep⟩
  · obtain ⟨t₁, rows, rfl, h₁, h₂, -⟩ := ResultTx.step_rows hstep
    show pos t₁.p1 < pos t₁.p2
    rw [h₁, h₂]
    exact h
  · exact RefundTx.inOrder_step hf.2 h hstep

/-- More ratings do not change the order. -/
theorem InOrder.view (h : InOrder history pos db p) (rows : DB) : InOrder history pos (view rows db) p := by
  cases p with
  | result t | nothing => exact h
  | refund t =>
      intro before u later hsplit
      exact (h before u later hsplit).imp_right
        (Or.imp_left fun hagain => ⟨hagain.1, AList.mem_union.2 (.inr hagain.2)⟩)

variable {w w' : RatingWorld active F history} {a : RatingAct active F history}

/-- All calls in progress go through their users in the order of `pos`. -/
def AllInOrder (pos : UserID → ℕ) (w : RatingWorld active F history) : Prop :=
  ∀ i p, w.procs.lookup i = some p → InOrder history pos w.db p

theorem not_deadlock_of_inOrder
    (hw : ReadCommitted.World.Inv (fun p db => Fine F p db ∧ LocksInOrder active p db) w)
    (hpos : AllInOrder pos w) : ¬ w.Deadlock := by
  let stage : ℕ → Stage := fun i => (w.procs.lookup i).elim (stageAt 0 0 0) (RatingProc.stage pos)
  refine ReadCommitted.World.not_deadlock stage ?_
  rintro i j ⟨hij, p, q, e, hp, hq, k, hown, hk⟩
  have hi : stage i = p.stage pos := by
    simp only [stage, hp]
    rfl
  have hj : stage j = q.stage pos := by
    simp only [stage, hq]
    rfl
  rw [hi, hj]
  obtain ⟨hbelow, hguard⟩ := holds_run (hw.each j q hq).2 (hpos j q hq) hown
  rcases needs_run (hw.each i p hp).1 (hw.each i p hp).2 hk with hmem | ⟨hkind, hle⟩ | ⟨u, mid, c, rfl, hrank⟩
  · exact absurd hown (hw.exclusive i p j q hp hq hij k hmem)
  · exact (hle pos).trans_lt (hbelow hkind)
  · exact absurd (hguard u mid c rfl) (hw.exclusive i p j q hp hq hij _ hrank)

/-- There is an order of the users in which the new call and all calls in progress go through theirs. -/
def CommonOrder (w : RatingWorld active F history) : RatingAct active F history → Prop
  | .start _ c => ∃ pos, AllInOrder pos w ∧ InOrder history pos w.db (RatingCall.begin active c)
  | .run _ _ | .stop _ => True

theorem allInOrder_step
    (hw : ReadCommitted.World.Inv (fun p db => Fine F p db ∧ LocksInOrder active p db) w)
    (hall : AllInOrder pos w)
    (hnew : ∀ id c, a = .start id c → InOrder history pos w.db (RatingCall.begin active c))
    (hs : w.step a = some w') : AllInOrder pos w' := by
  cases ReadCommitted.World.steps_of_step hs with
  | @start id c new =>
      intro i p hp
      rcases Assoc.of_lookup_insert hp with ⟨-, rfl⟩ | ⟨-, hp⟩
      · exact hnew id c rfl
      · exact hall i p hp
  | @run id p e mem free locked =>
      intro i q hq
      refine InOrder.view ?_ _
      rcases ReadCommitted.World.lookup_settle hq with ⟨rfl, hnext⟩ | ⟨-, hq⟩
      · exact inOrder_run (hall i p mem) (hw.each i p mem).1 hnext
      · exact hall i q hq
  | stop id => exact fun i p hp => hall i p (Assoc.of_lookup_erase hp).2

theorem exists_allInOrder_step
    (hw : ReadCommitted.World.Inv (fun p db => Fine F p db ∧ LocksInOrder active p db) w)
    (h : ∃ pos, AllInOrder pos w) (hC : CommonOrder w a) (hs : w.step a = some w') :
    ∃ pos, AllInOrder pos w' := by
  cases a with
  | start id c =>
      obtain ⟨pos, hall, hnew⟩ := hC
      refine ⟨pos, allInOrder_step hw hall ?_ hs⟩
      rintro _ _ ⟨⟩
      exact hnew
  | run id e | stop id =>
      obtain ⟨pos, hall⟩ := h
      exact ⟨pos, allInOrder_step hw hall (fun _ _ h => by cases h) hs⟩

/-- One order for all calls of a run will do. -/
theorem commonOrder_of_inOrder (pos : UserID → ℕ) {as : List (RatingAct active F history)}
    (hcalls : ∀ id c, .start id c ∈ as → ∀ db, InOrder history pos db (RatingCall.begin active c))
    (hw : ReadCommitted.World.Inv (fun p db => Fine F p db ∧ LocksInOrder active p db) w)
    (hall : AllInOrder pos w) : Run.Guarded ReadCommitted.World.step CommonOrder w as := by
  induction as generalizing w with
  | nil => trivial
  | cons a as ih =>
      intro w' hs
      refine ⟨?_, ih (fun id c h => hcalls id c (List.mem_cons_of_mem _ h))
        (hw.step (lockOrder_local active F history) hs) (allInOrder_step hw hall ?_ hs)⟩
      · cases a with
        | start id c => exact ⟨pos, hall, hcalls id c List.mem_cons_self w.db⟩
        | run id e | stop id => trivial
      · rintro id c rfl
        exact hcalls id c List.mem_cons_self w.db

/-- While the calls in progress have a common order of the users, nobody waits in a circle. -/
theorem not_deadlock_of_commonOrder (active : SeasonID) (F : FloatMath) (history : History) (db : DB)
    (as : List (RatingAct active F history))
    (hC : Run.Guarded ReadCommitted.World.step CommonOrder (⟨db, ∅⟩ : RatingWorld active F history) as) :
    Run.Always ReadCommitted.World.step (fun w => ¬ w.Deadlock)
      (⟨db, ∅⟩ : RatingWorld active F history) as := by
  have hinit : ReadCommitted.World.Inv (fun p db => Fine F p db ∧ LocksInOrder active p db)
      (⟨db, ∅⟩ : RatingWorld active F history) ∧
        ∃ pos, AllInOrder pos (⟨db, ∅⟩ : RatingWorld active F history) :=
    ⟨ReadCommitted.World.Inv.init db, fun _ => 0, fun i p hp => by cases hp⟩
  have hstep : ∀ (w : RatingWorld active F history) a w',
      (ReadCommitted.World.Inv (fun p db => Fine F p db ∧ LocksInOrder active p db) w ∧
        ∃ pos, AllInOrder pos w) → CommonOrder w a → w.step a = some w' →
      ReadCommitted.World.Inv (fun p db => Fine F p db ∧ LocksInOrder active p db) w' ∧
        ∃ pos, AllInOrder pos w' := by
    rintro w a w' ⟨hinv, hall⟩ hC hs
    exact ⟨hinv.step (lockOrder_local active F history) hs, exists_allInOrder_step hinv hall hC hs⟩
  refine (Run.always_of_invariant hstep hinit hC).mono ?_
  rintro w ⟨hinv, pos, hall⟩
  exact not_deadlock_of_inOrder hinv hall

/-- Two results with the same players in the same order. -/
theorem not_deadlock_twoResults :
    Run.Always ReadCommitted.World.step (fun w => ¬ w.Deadlock)
      (⟨ratedPlayers ["a", "b"], ∅⟩ : RatingWorld "s" FloatMath.coarse ∅) twoResults := by
  refine not_deadlock_of_commonOrder "s" FloatMath.coarse ∅ _ twoResults ?_
  refine commonOrder_of_inOrder (fun u => if u = "a" then 0 else 1) ?_
    (ReadCommitted.World.Inv.init _) fun i p hp => by cases hp
  intro id c hc db
  simp only [twoResults, List.mem_append, List.mem_cons, List.not_mem_nil, or_false, List.mem_map,
    reduceCtorEq, and_false, exists_false] at hc
  have horder : (if "a" = "a" then 0 else 1) < (if "b" = "a" then 0 else 1) := by decide
  obtain ⟨-, rfl⟩ | ⟨-, rfl⟩ := hc.imp ReadCommitted.Act.start.inj ReadCommitted.Act.start.inj <;>
    exact horder

/-! ### A result and a refund at the same time -/

/-- `c` has won against `a`, and then against `b`. -/
def wonAgainstBoth : History :=
  AList.insert "m1" (lostMatch "m1" "c" "a") (AList.insert "m2" (lostMatch "m2" "c" "b") ∅)

/-- `c` is banned while the result of `b` and `a` is recorded: the refund has the rating of `a` and needs
that of `b`, the result has that of `b` and needs that of `a`. -/
def resultAndRefund : List (RatingAct "s" FloatMath.coarse wonAgainstBoth) :=
  [.start 0 (.recordMatchResult (wonMatch "m3" "b" "a")), .start 1 (.issueRefunds "c" none)] ++
    (List.replicate 12 0 ++ List.replicate 4 1).map fun id => .run id {}

theorem deadlock_resultAndRefund :
    ∃ w, Run.exec ReadCommitted.World.step
        (⟨ratedPlayers ["a", "b", "c"], ∅⟩ : RatingWorld "s" FloatMath.coarse wonAgainstBoth)
        resultAndRefund = some w ∧ w.Deadlock := by
  have hrun : (Run.exec ReadCommitted.World.step
      (⟨ratedPlayers ["a", "b", "c"], ∅⟩ : RatingWorld "s" FloatMath.coarse wonAgainstBoth)
        resultAndRefund).any fun w => w.procs.keys = [1, 0] ∧ (w.step (.run 0 {})).isNone ∧
          (w.step (.run 1 {})).isNone := by
    decide +kernel
  obtain ⟨w, hw, hblocked⟩ := (Option.any_eq_true _ _).1 hrun
  obtain ⟨hkeys, h₀, h₁⟩ := of_decide_eq_true hblocked
  have hmem : ∀ i, i ∈ w.procs ↔ i = 1 ∨ i = 0 := by
    intro i
    rw [AList.mem_keys, hkeys]
    simp
  refine ⟨w, hw, ?_⟩
  exact ReadCommitted.World.deadlock_of_pair (fun l hl => (hmem l).1 hl) ((hmem 1).2 (.inl rfl))
    ((hmem 0).2 (.inr rfl)) (Option.isNone_iff_eq_none.1 h₁) (Option.isNone_iff_eq_none.1 h₀)

end GeoDuels.Ratings
