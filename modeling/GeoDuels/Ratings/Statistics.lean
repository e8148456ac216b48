import GeoDuels.Ratings.Serial

/-!
# The games are counted

`RecordMatchResult` adds to the rows of `user_stats` and `ranked_stats` without having locked them before.
The games and wins of a row are still those of the results that have been recorded (`stats_eq_recorded`):
between the statement that adds to a row and the commit nobody else writes it, and a transaction that
does not come to its commit adds nothing.
-/

namespace GeoDuels.Ratings

open ReadCommitted (view notMem_insert notMem_update)

/-! ## Rows with games -/

/-- A row of `user_stats`, or one of `ranked_stats`. -/
inductive Record where
  | total (userID : UserID)
  | ranked (userID : UserID) (season : SeasonID)
  deriving DecidableEq

namespace Record

def userID : Record → UserID
  | .total u | .ranked u _ => u

def key : Record → RowKey
  | .total u => .userStats u
  | .ranked u s => .rankedStats u s

def lookup (db : DB) : Record → Option StatsRow
  | .total u => db.lookup (.userStats u)
  | .ranked u s => db.lookup (.rankedStats u s)

/-- The games of the row, none when there is no row. -/
def stats (db : DB) (r : Record) : StatsRow := (r.lookup db).getD {}

def write (r : Record) (row : StatsRow) : DB :=
  match r with
  | .total u => AList.insert (.userStats u) row ∅
  | .ranked u s => AList.insert (.rankedStats u s) row ∅

/-- What an `UPDATE` writes that computes the row with `f`. -/
def update (seen : DB) (f : StatsRow → StatsRow) : Record → DB
  | .total u => ReadCommitted.update seen (.userStats u) fun row : StatsRow => some (f row)
  | .ranked u s => ReadCommitted.update seen (.rankedStats u s) fun row : StatsRow => some (f row)

variable {r r' : Record} {own db rows : DB}

theorem lookup_isSome : (r.lookup db).isSome ↔ r.key ∈ db := by
  cases r <;> exact AList.lookup_isSome

theorem lookup_of_notMem (h : r.key ∉ db) : r.lookup db = none := by
  cases r <;> exact AList.lookup_eq_none.2 h

theorem lookup_view (own db : DB) (r : Record) : r.lookup (view own db) = (r.lookup own).or (r.lookup db) := by
  cases r <;> exact ReadCommitted.lookup_view own db _

theorem lookup_view_of_notMem (h : r.key ∉ own) : r.lookup (view own db) = r.lookup db := by
  rw [lookup_view, lookup_of_notMem h, Option.none_or]

theorem key_injective : Function.Injective key := by
  rintro (u | ⟨u, s⟩) (u' | ⟨u', s'⟩) h <;> simp_all [key]

theorem lookup_write (r r' : Record) (row : StatsRow) :
    r'.lookup (r.write row) = if r' = r then some row else none := by
  split_ifs with h
  · subst h
    cases r' <;> exact AList.lookup_insert _
  · have hkey : r'.key ≠ r.key := fun hkey => h (key_injective hkey)
    refine lookup_of_notMem ?_
    cases r <;> exact notMem_insert hkey

theorem update_of_mem {seen : DB} (h : r.key ∈ seen) (f : StatsRow → StatsRow) :
    r.update seen f = r.write (f (r.stats seen)) := by
  obtain ⟨row, hrow⟩ := Option.isSome_iff_exists.1 (lookup_isSome.2 h)
  rw [stats, hrow]
  cases r <;> exact ReadCommitted.update_of_lookup hrow rfl

theorem mem_write (row : StatsRow) : r'.key ∈ r.write row ↔ r' = r := by
  rw [← lookup_isSome, lookup_write]
  split_ifs with h <;> simp [h]

end Record

/-! ## What a transaction has counted -/

/-- The rows that a transaction has written are the committed ones with the games of `sides` counted. -/
structure Tallied (count : Side → StatsRow → StatsRow) (sides : Record → List Side) (own db : DB) : Prop where
  rows : ∀ r row, r.lookup own = some row →
    row = (sides r).foldl (fun row side => count side row) (r.stats db)
  others : ∀ r, r.key ∉ own → sides r = []

section Tallied

variable {count : Side → StatsRow → StatsRow} {sides sides' : Record → List Side} {own db rows : DB}

theorem Tallied.empty (hsides : ∀ r, sides r = []) (db : DB) : Tallied count sides ∅ db where
  rows r row h := by
    rw [Record.lookup_of_notMem (AList.notMem_empty _)] at h
    cases h
  others r _ := hsides r

/-- What the transaction sees. -/
theorem Tallied.stats_view (h : Tallied count sides own db) (r : Record) :
    r.stats (view own db) = (sides r).foldl (fun row side => count side row) (r.stats db) := by
  rw [Record.stats, Record.lookup_view]
  cases hrow : r.lookup own with
  | some row => exact h.rows r row hrow
  | none =>
      have hkey : r.key ∉ own := fun hmem => by
        rw [← Record.lookup_isSome, hrow] at hmem
        cases hmem
      rw [h.others r hkey]
      rfl

/-- Rows of other tables. -/
theorem Tallied.keep (h : Tallied count sides own db) (hrows : ∀ r : Record, r.key ∉ rows) :
    Tallied count sides (view rows own) db where
  rows r row hrow := by
    rw [Record.lookup_view_of_notMem (hrows r)] at hrow
    exact h.rows r row hrow
  others r hk := h.others r fun hmem => hk (AList.mem_union.2 (.inr hmem))

/-- A row is written with the games of one more list of sides. -/
theorem Tallied.write (h : Tallied count sides own db) (r : Record) (more : List Side) (row : StatsRow)
    (hrow : row = more.foldl (fun row side => count side row) (r.stats (view own db)))
    (hsides : ∀ r', sides' r' = sides r' ++ if r' = r then more else []) :
    Tallied count sides' (view (r.write row) own) db where
  rows r' row' hrow' := by
    rw [Record.lookup_view, Record.lookup_write] at hrow'
    rw [hsides, List.foldl_append]
    split_ifs at hrow' ⊢ with hr
    · subst hr
      rw [← h.stats_view, ← hrow]
      exact (Option.some.inj hrow').symm
    · exact h.rows r' row' (by simpa using hrow')
  others r' hk := by
    have hr : r' ≠ r := by
      rintro rfl
      exact hk (AList.mem_union.2 (.inl ((Record.mem_write row).2 rfl)))
    rw [hsides, if_neg hr, List.append_nil]
    exact h.others r' fun hmem => hk (AList.mem_union.2 (.inr hmem))

theorem Tallied.frame (h : Tallied count sides own db) (hfree : ∀ k ∈ rows, k ∉ own) :
    Tallied count sides own (view rows db) where
  rows r row hrow := by
    have hmem : r.key ∈ own := Record.lookup_isSome.1 (by rw [hrow]; rfl)
    rw [Record.stats, Record.lookup_view_of_notMem fun hk => hfree _ hk hmem]
    exact h.rows r row hrow
  others := h.others

end Tallied

namespace ResultTx

variable (t : ResultTx)

/-- The players whose games the transaction has counted in `user_stats` when it comes to a place. -/
def totalled : RecordAt → List Side
  | .userStats .p2 => [.p1]
  | .rankedStats _ | .commit => [.p1, .p2]
  | _ => []

/-- The players whose games it has counted in `ranked_stats`. -/
def rankedUntil : RecordAt → List Side
  | .rankedStats .p2 => if t.guest1 then [] else [.p1]
  | .commit => if t.rated then (if t.guest1 then [] else [.p1]) ++ (if t.guest2 then [] else [.p2]) else []
  | _ => []

/-- The games that it has counted in a row. -/
def counted (at_ : RecordAt) : Record → List Side
  | .total u => (totalled at_).filter (t.player · = u)
  | .ranked u s => if s = t.season then (t.rankedUntil at_).filter (t.player · = u) else []

/-- The row that a statement adds to. -/
def countsAt : RecordAt → Option (Record × Side)
  | .userStats side => some (.total (t.player side), side)
  | .rankedStats side => some (.ranked (t.player side) t.season, side)
  | _ => none

/-- Ranked games are counted only of rated matches and of players that are no guests. -/
def Eligible : RecordAt → Prop
  | .rankedStats side => t.rated ∧ t.isGuest side = false
  | _ => True

/-- The rows that `ensure` has left before a place. -/
def ensured : RecordAt → List Record
  | .ensure .p1 .rankedStats => [.total t.p1]
  | .ensure .p1 _ => []
  | .ensure .p2 .rankedStats => [.total t.p1, .ranked t.p1 t.season, .total t.p2]
  | .ensure .p2 _ => [.total t.p1, .ranked t.p1 t.season]
  | _ => [.total t.p1, .ranked t.p1 t.season, .total t.p2, .ranked t.p2 t.season]

/-- The statements before the first that counts a game. -/
def Early : RecordAt → Prop
  | .userStats .p2 | .rankedStats _ | .commit => False
  | _ => True

variable {t} {at_ : RecordAt} {side : Side}

theorem early_cases (at_ : RecordAt) : Early at_ ∨ at_ = .userStats .p2 ∨
    (∃ side, at_ = .rankedStats side) ∨ at_ = .commit := by
  cases at_ with
  | userStats side =>
      cases side with
      | p1 => exact .inl trivial
      | p2 => exact .inr (.inl rfl)
  | rankedStats side => exact .inr (.inr (.inl ⟨side, rfl⟩))
  | commit => exact .inr (.inr (.inr rfl))
  | ensure | guest | lobby | lock | updateRank => exact .inl trivial

theorem early_afterLocks (t : ResultTx) : Early t.afterLocks := by
  unfold afterLocks
  split_ifs <;> trivial

theorem early_after (h : Early at_) (hat : at_ ≠ .userStats .p1) : Early (t.after at_) := by
  cases at_ with
  | ensure side row => cases side <;> cases row <;> trivial
  | guest side => cases side <;> trivial
  | lobby =>
      simp only [after]
      split_ifs
      · trivial
      · exact t.early_afterLocks
  | lock side =>
      cases side with
      | p1 => trivial
      | p2 => exact t.early_afterLocks
  | updateRank side =>
      cases side with
      | p1 => simp only [after]; split_ifs <;> trivial
      | p2 => trivial
  | userStats side =>
      cases side with
      | p1 => exact absurd rfl hat
      | p2 => exact h.elim
  | rankedStats | commit => exact h.elim

theorem counted_of_early (h : Early at_) (r : Record) : t.counted at_ r = [] := by
  have hnone : totalled at_ = [] ∧ t.rankedUntil at_ = [] := by
    cases at_ with
    | userStats side =>
        cases side with
        | p1 => exact ⟨rfl, rfl⟩
        | p2 => exact h.elim
    | rankedStats | commit => exact h.elim
    | ensure | guest | lobby | lock | updateRank => exact ⟨rfl, rfl⟩
  cases r with
  | total u => simp [counted, hnone.1]
  | ranked u s => simp [counted, hnone.2]

theorem eligible_of_early (h : Early at_) : t.Eligible at_ := by
  cases at_ with
  | rankedStats side => exact h.elim
  | ensure | guest | lobby | lock | updateRank | userStats | commit => trivial

theorem eligible_after (h : t.Eligible at_) : t.Eligible (t.after at_) := by
  rcases early_cases at_ with hearly | rfl | ⟨side, rfl⟩ | rfl
  · by_cases hat : at_ = .userStats .p1
    · subst hat
      trivial
    · exact eligible_of_early (early_after hearly hat)
  · simp only [after]
    split_ifs with h₁ h₂
    · exact ⟨h₁.1, by simpa [isGuest] using h₁.2⟩
    · exact ⟨h₂.1, by simpa [isGuest] using h₂.2⟩
    · trivial
  · cases side with
    | p1 =>
        simp only [after]
        split_ifs with hguest
        · trivial
        · exact ⟨h.1, by simpa [isGuest] using hguest⟩
    | p2 => trivial
  · trivial

/-- The games that a statement counts. -/
def countedNow (t : ResultTx) (at_ : RecordAt) (r : Record) : List Side :=
  match t.countsAt at_ with
  | some (r', side) => if r = r' then [side] else []
  | none => []

theorem countsAt_of_early (h : Early at_) (hat : at_ ≠ .userStats .p1) : t.countsAt at_ = none := by
  cases at_ with
  | userStats side =>
      cases side with
      | p1 => exact absurd rfl hat
      | p2 => exact h.elim
  | rankedStats side => exact h.elim
  | ensure | guest | lobby | lock | updateRank | commit => rfl

/-- After the second player's game nothing is ranked yet, and at the commit nothing more. -/
theorem rankedUntil_afterTotals (t : ResultTx) : t.rankedUntil (t.after (.userStats .p2)) = [] := by
  simp only [after]
  split_ifs with h₁ h₂
  · rfl
  · have hguest : t.guest1 = true := by
      by_contra hguest
      exact h₁ ⟨h₂.1, hguest⟩
    simp [rankedUntil, hguest]
  · unfold rankedUntil
    split_ifs <;> simp_all

theorem rankedUntil_afterRanked (h : t.Eligible (.rankedStats side)) :
    t.rankedUntil (t.after (.rankedStats side)) = t.rankedUntil (.rankedStats side) ++ [side] := by
  obtain ⟨hrated, hguest⟩ := h
  cases side with
  | p1 =>
      have hguest : t.guest1 = false := hguest
      simp only [after]
      split_ifs with hguest' <;> simp [rankedUntil, hrated, hguest, hguest']
  | p2 =>
      have hguest : t.guest2 = false := hguest
      simp [after, rankedUntil, hrated, hguest]

theorem totalled_after (h : ¬ Early at_) (hat : at_ ≠ .commit) : totalled (t.after at_) = [.p1, .p2] := by
  rcases early_cases at_ with hearly | rfl | ⟨side, rfl⟩ | rfl
  · exact absurd hearly h
  · simp only [after]
    split_ifs <;> rfl
  · cases side with
    | p1 => simp only [after]; split_ifs <;> rfl
    | p2 => rfl
  · exact absurd rfl hat

theorem counted_after (h : t.Eligible at_) (hat : at_ ≠ .commit) (r : Record) :
    t.counted (t.after at_) r = t.counted at_ r ++ t.countedNow at_ r := by
  rcases early_cases at_ with hearly | rfl | ⟨side, rfl⟩ | rfl
  · by_cases hfirst : at_ = .userStats .p1
    · subst hfirst
      cases r with
      | total u => simp [counted, totalled, after, countedNow, countsAt, List.filter_cons, eq_comm]
      | ranked u s => simp [counted, rankedUntil, after, countedNow, countsAt]
    · rw [counted_of_early (early_after hearly hfirst), counted_of_early hearly, countedNow,
        countsAt_of_early hearly hfirst, List.append_nil]
  · cases r with
    | total u =>
        have hafter : totalled (t.after (.userStats .p2)) = [.p1, .p2] := totalled_after id (by simp)
        simp only [counted, hafter]
        simp only [totalled, countedNow, countsAt, List.filter_cons, List.filter_nil, Record.total.injEq,
          decide_eq_true_eq, eq_comm (a := u)]
        split_ifs <;> rfl
    | ranked u s =>
        simp only [counted, rankedUntil_afterTotals]
        simp [rankedUntil, countedNow, countsAt]
  · cases r with
    | total u =>
        have hafter : totalled (t.after (.rankedStats side)) = [.p1, .p2] := totalled_after id (by simp)
        simp only [counted, hafter]
        simp [totalled, countedNow, countsAt]
    | ranked u s =>
        simp only [counted, rankedUntil_afterRanked h, countedNow, countsAt]
        by_cases hs : s = t.season <;> simp [hs, List.filter_append, List.filter_cons, eq_comm]
  · exact absurd rfl hat

/-! ## Statements -/

/-- The row that `ensure` inserts, if need be. -/
def ensures (t : ResultTx) : RecordAt → Option Record
  | .ensure side .userStats => some (.total (t.player side))
  | .ensure side .rankedStats => some (.ranked (t.player side) t.season)
  | _ => none

theorem ensured_after {r : Record} (h : r ∈ t.ensured (t.after at_)) :
    r ∈ t.ensured at_ ∨ t.ensures at_ = some r := by
  have hall : r ∈ [Record.total t.p1, .ranked t.p1 t.season, .total t.p2, .ranked t.p2 t.season] := by
    generalize t.after at_ = next at h
    cases next with
    | ensure side row => cases side <;> cases row <;> simp_all [ensured] <;> tauto
    | guest | lobby | lock | updateRank | userStats | rankedStats | commit => exact h
  cases at_ with
  | ensure side row =>
      cases side <;> cases row <;> simp_all [ensured, ensures, after, player, eq_comm, or_assoc]
  | guest | lobby | lock | updateRank | userStats | rankedStats | commit => exact .inl hall

/-- The variables of the transaction that a statement at a place leaves as they are. -/
structure Keeps (t t₁ : ResultTx) (at_ : RecordAt) : Prop where
  p1 : t₁.p1 = t.p1
  p2 : t₁.p2 = t.p2
  matchID : t₁.matchID = t.matchID
  season : t₁.season = t.season
  winner : t₁.winner = t.winner
  unranked : t₁.unranked = t.unranked
  rated : t₁.rated → t.rated ∨ t.unranked = false
  own : t₁.own = t.own
  flags : Early at_ ∨ t₁.rated = t.rated ∧ t₁.guest1 = t.guest1 ∧ t₁.guest2 = t.guest2

/-- What a statement writes into the rows with games. -/
inductive Writes (t : ResultTx) (seen : DB) (at_ : RecordAt) : DB → Prop
  | nothing {rows : DB} (rest : ∀ r : Record, r.key ∉ rows) (counts : t.countsAt at_ = none)
      (found : ∀ r, t.ensures at_ = some r → r.key ∈ seen) : Writes t seen at_ rows
  | inserted {r : Record} (ensures : t.ensures at_ = some r) (fresh : r.key ∉ seen) :
      Writes t seen at_ (r.write {})
  | counted {r : Record} {side : Side} (counts : t.countsAt at_ = some (r, side)) :
      Writes t seen at_ (r.update seen (t.countGame side))

variable {F : FloatMath} {m : Moment} {seen : DB} {t' : ResultTx}

theorem writes_ensure (side : Side) (row : Ensure) (hmem : t.key side row ∉ seen) (now : ℕ) :
    Writes t seen (.ensure side row) (AList.insert (t.key side row) (t.newRow side now row) ∅) := by
  cases row with
  | user | rank =>
      refine .nothing (fun r => notMem_insert ?_) rfl fun r hr => (by cases hr)
      cases r <;> simp [Record.key, key]
  | userStats => exact .inserted (r := .total (t.player side)) rfl hmem
  | rankedStats => exact .inserted (r := .ranked (t.player side) t.season) rfl hmem

theorem step_spec (h : t.step F seen m at_ = some t') :
    ∃ t₁ rows, t' = t₁.goOn at_ rows ∧ Keeps t t₁ at_ ∧ Writes t seen at_ rows := by
  cases at_ with
  | ensure side row =>
      simp only [step] at h
      split_ifs at h with hblank hmem hrank
      · obtain rfl := Option.some.inj h
        refine ⟨t, ∅, rfl, ⟨rfl, rfl, rfl, rfl, rfl, rfl, .inl, rfl, .inl trivial⟩,
          .nothing (fun r => AList.notMem_empty _) rfl fun r hr => ?_⟩
        cases row with
        | user | rank => cases hr
        | userStats | rankedStats =>
            obtain rfl := Option.some.inj hr
            exact hmem
      · obtain rfl := Option.some.inj h
        exact ⟨_, _, rfl, ⟨rfl, rfl, rfl, rfl, rfl, rfl, .inl, rfl, .inl trivial⟩, writes_ensure side row hmem m.now⟩
      · obtain rfl := Option.some.inj h
        exact ⟨_, _, rfl, ⟨rfl, rfl, rfl, rfl, rfl, rfl, .inl, rfl, .inl trivial⟩, writes_ensure side row hmem m.now⟩
  | guest side =>
      obtain ⟨guest, -, rfl⟩ := Option.map_eq_some_iff.1 h
      refine ⟨_, _, rfl, ?_, .nothing (fun r => AList.notMem_empty _) rfl fun r hr => (by cases hr)⟩
      cases side <;> exact ⟨rfl, rfl, rfl, rfl, rfl, rfl, .inl, rfl, .inl trivial⟩
  | lobby =>
      obtain rfl := Option.some.inj h
      exact ⟨_, _, rfl,
        ⟨rfl, rfl, rfl, rfl, rfl, rfl, fun hrated => .inr (of_decide_eq_true hrated).1, rfl, .inl trivial⟩,
        .nothing (fun r => AList.notMem_empty _) rfl fun r hr => (by cases hr)⟩
  | lock side =>
      obtain ⟨row, -, rfl⟩ := Option.map_eq_some_iff.1 h
      refine ⟨_, _, rfl, ?_, .nothing (fun r => notMem_insert ?_) rfl fun r hr => (by cases hr)⟩
      · cases side <;> exact ⟨rfl, rfl, rfl, rfl, rfl, rfl, .inl, rfl, .inl trivial⟩
      · cases r <;> simp [Record.key]
  | updateRank side =>
      obtain rfl := Option.some.inj h
      refine ⟨_, _, rfl, ⟨rfl, rfl, rfl, rfl, rfl, rfl, .inl, rfl, .inl trivial⟩,
        .nothing (fun r => notMem_update ?_) rfl fun r hr => (by cases hr)⟩
      cases r <;> simp [Record.key]
  | userStats side =>
      obtain rfl := Option.some.inj h
      exact ⟨t, _, rfl, ⟨rfl, rfl, rfl, rfl, rfl, rfl, .inl, rfl, .inr ⟨rfl, rfl, rfl⟩⟩,
        .counted (r := .total (t.player side)) rfl⟩
  | rankedStats side =>
      obtain rfl := Option.some.inj h
      exact ⟨t, _, rfl, ⟨rfl, rfl, rfl, rfl, rfl, rfl, .inl, rfl, .inr ⟨rfl, rfl, rfl⟩⟩,
        .counted (r := .ranked (t.player side) t.season) rfl⟩
  | commit => cases h

namespace Keeps

variable {t₁ : ResultTx}

theorem player (h : Keeps t t₁ at_) : t₁.player = t.player := by
  funext side
  cases side
  · exact h.p1
  · exact h.p2

theorem countGame (h : Keeps t t₁ at_) : t₁.countGame = t.countGame := by
  funext side row
  simp only [ResultTx.countGame, h.player, h.winner]

theorem countsAt (h : Keeps t t₁ at_) : t₁.countsAt = t.countsAt := by
  funext at_
  cases at_ <;> simp only [ResultTx.countsAt, h.player, h.season]

theorem ensured (h : Keeps t t₁ at_) : t₁.ensured = t.ensured := by
  funext at_
  unfold ResultTx.ensured
  rw [h.p1, h.p2, h.season]

theorem ensures (h : Keeps t t₁ at_) : t₁.ensures = t.ensures := by
  funext at_
  unfold ResultTx.ensures
  rw [h.player, h.season]

theorem eligible (h : Keeps t t₁ at_) (ht : t.Eligible at_) : t₁.Eligible at_ := by
  rcases h.flags with hearly | ⟨hrated, h₁, h₂⟩
  · exact eligible_of_early hearly
  · cases at_ with
    | rankedStats side =>
        refine ⟨hrated.trans ht.1, ?_⟩
        cases side
        · exact h₁.trans ht.2
        · exact h₂.trans ht.2
    | ensure | guest | lobby | lock | updateRank | userStats | commit => trivial

theorem counted (h : Keeps t t₁ at_) (r : Record) : t₁.counted at_ r = t.counted at_ r := by
  rcases h.flags with hearly | ⟨hrated, h₁, h₂⟩
  · rw [counted_of_early hearly, counted_of_early hearly]
  · have huntil : t₁.rankedUntil at_ = t.rankedUntil at_ := by
      unfold rankedUntil
      rw [hrated, h₁, h₂]
    cases r with
    | total u => simp only [ResultTx.counted, h.player]
    | ranked u s => simp only [ResultTx.counted, h.player, h.season, huntil]

end Keeps

end ResultTx

/-- A transaction has counted the games of its match as far as it has come. -/
structure Counting (t : ResultTx) (db : DB) : Prop where
  distinct : t.p1 ≠ t.p2
  eligible : t.Eligible t.at_
  ensured : ∀ r ∈ t.ensured t.at_, r.key ∈ view t.own db
  tallied : Tallied t.countGame (t.counted t.at_) t.own db

namespace ResultTx

variable {t t' : ResultTx} {at_ : RecordAt} {F : FloatMath} {m : Moment} {db rows : DB}

theorem ensured_of_countsAt {r : Record} {side : Side} (h : t.countsAt at_ = some (r, side)) :
    r ∈ t.ensured at_ := by
  cases at_ with
  | userStats side' | rankedStats side' =>
      obtain ⟨rfl, rfl⟩ := Prod.mk.inj (Option.some.inj h)
      cases side' <;> simp [ensured, player]
  | ensure | guest | lobby | lock | updateRank | commit => cases h

theorem countsAt_of_ensures {r : Record} (h : t.ensures at_ = some r) : t.countsAt at_ = none := by
  cases at_ with
  | ensure => rfl
  | guest | lobby | lock | updateRank | userStats | rankedStats | commit => cases h

/-- The rows that `ensure` has left are there after the next statement too. -/
theorem ensured_step (hc : ∀ r ∈ t.ensured at_, r.key ∈ view t.own db) (hw : Writes t (view t.own db) at_ rows)
    {r : Record} (hr : r ∈ t.ensured at_ ∨ t.ensures at_ = some r) : r.key ∈ view (view rows t.own) db := by
  have hseen : r.key ∈ view t.own db → r.key ∈ view (view rows t.own) db := by
    intro h
    rcases AList.mem_union.1 h with h | h
    · exact AList.mem_union.2 (.inl (AList.mem_union.2 (.inr h)))
    · exact AList.mem_union.2 (.inr h)
  rcases hr with hr | hr
  · exact hseen (hc r hr)
  · cases hw with
    | nothing rest counts found => exact hseen (found r hr)
    | @inserted r' ensures fresh =>
        obtain rfl := Option.some.inj (hr.symm.trans ensures)
        exact AList.mem_union.2 (.inl (AList.mem_union.2 (.inl ((Record.mem_write _).2 rfl))))
    | @counted r' side counts =>
        rw [countsAt_of_ensures hr] at counts
        cases counts

theorem counting_step (hc : Counting t db) (h : t.step F (view t.own db) m t.at_ = some t') :
    Counting t' db := by
  obtain ⟨t₁, rows, rfl, hkeeps, hwrites⟩ := step_spec h
  have hcommit : t.at_ ≠ .commit := by
    intro hat
    rw [hat] at h
    cases h
  have heligible := hkeeps.eligible hc.eligible
  have hcounted : ∀ r, t₁.counted (t₁.after t.at_) r = t.counted t.at_ r ++ t.countedNow t.at_ r := by
    intro r
    rw [counted_after heligible hcommit, hkeeps.counted, countedNow, hkeeps.countsAt]
    rfl
  refine ⟨?_, eligible_after heligible, fun r hr => ?_, ?_⟩
  · show t₁.p1 ≠ t₁.p2
    rw [hkeeps.p1, hkeeps.p2]
    exact hc.distinct
  · have hensured := ensured_after (t := t₁) hr
    rw [hkeeps.ensured, hkeeps.ensures] at hensured
    show r.key ∈ view (view rows t₁.own) db
    rw [hkeeps.own]
    exact ensured_step hc.ensured hwrites hensured
  · show Tallied t₁.countGame (t₁.counted (t₁.after t.at_)) (view rows t₁.own) db
    rw [hkeeps.countGame, hkeeps.own]
    cases hwrites with
    | nothing rest counts found =>
        have hsame : t₁.counted (t₁.after t.at_) = t.counted t.at_ := by
          funext r
          rw [hcounted, countedNow, counts, List.append_nil]
        rw [hsame]
        exact hc.tallied.keep rest
    | @inserted r ensures fresh =>
        refine hc.tallied.write r [] _ ?_ fun r' => ?_
        · rw [List.foldl_nil, Record.stats, Record.lookup_of_notMem fresh]
          rfl
        · rw [hcounted, countedNow, countsAt_of_ensures ensures, ite_self]
    | @counted r side counts =>
        rw [Record.update_of_mem (hc.ensured r (ensured_of_countsAt counts))]
        refine hc.tallied.write r [side] _ rfl fun r' => ?_
        rw [hcounted, countedNow, counts]

theorem counting_frame (hc : Counting t db) (hfree : ∀ k ∈ rows, k ∉ t.own) : Counting t (view rows db) where
  distinct := hc.distinct
  eligible := hc.eligible
  ensured r hr := by
    rcases AList.mem_union.1 (hc.ensured r hr) with h | h
    · exact AList.mem_union.2 (.inl h)
    · exact AList.mem_union.2 (.inr (AList.mem_union.2 (.inr h)))
  tallied := hc.tallied.frame hfree

end ResultTx

/-! ## Recorded results -/

/-- The result counts for the row. -/
def ResultTx.CountsFor (t : ResultTx) : Record → Prop
  | .total u => u = t.p1 ∨ u = t.p2
  | .ranked u s => t.rated ∧ s = t.season ∧ (u = t.p1 ∧ t.guest1 = false ∨ u = t.p2 ∧ t.guest2 = false)

instance (t : ResultTx) (r : Record) : Decidable (t.CountsFor r) :=
  match r with
  | .total _ => inferInstanceAs (Decidable (_ ∨ _))
  | .ranked _ _ => inferInstanceAs (Decidable (_ ∧ _))

/-- The games of one player, of those that are listed. -/
theorem ResultTx.foldl_countGame {t : ResultTx} (hne : t.p1 ≠ t.p2) (first second : Bool) (u : UserID)
    (row : StatsRow) :
    (((if first then [Side.p1] else []) ++ (if second then [Side.p2] else [])).filter (t.player · = u)).foldl
        (fun row side => t.countGame side row) row =
      { gamesPlayed := row.gamesPlayed + if u = t.p1 ∧ first ∨ u = t.p2 ∧ second then 1 else 0
        wins := row.wins + if (u = t.p1 ∧ first ∨ u = t.p2 ∧ second) ∧ t.winner = u then 1 else 0 } := by
  by_cases h₁ : u = t.p1
  · subst h₁
    cases first <;> cases second <;> simp [countGame, player, hne, eq_comm]
  · by_cases h₂ : u = t.p2
    · subst h₂
      cases first <;> cases second <;> simp [countGame, player, hne.symm, eq_comm]
    · cases first <;> cases second <;> simp [player, h₁, h₂, Ne.symm h₁, Ne.symm h₂]

theorem ResultTx.counted_commit {t : ResultTx} (hne : t.p1 ≠ t.p2) (r : Record) (row : StatsRow) :
    (t.counted .commit r).foldl (fun row side => t.countGame side row) row =
      { gamesPlayed := row.gamesPlayed + if t.CountsFor r then 1 else 0
        wins := row.wins + if t.CountsFor r ∧ t.winner = r.userID then 1 else 0 } := by
  cases r with
  | total u =>
      refine (foldl_countGame hne true true u row).trans ?_
      by_cases hu : u = t.p1 ∨ u = t.p2 <;> simp [CountsFor, Record.userID, hu]
  | ranked u s =>
      by_cases h : t.rated ∧ s = t.season
      · obtain ⟨hrated, rfl⟩ := h
        have hlisted : t.counted .commit (.ranked u t.season) =
            ((if !t.guest1 then [Side.p1] else []) ++ (if !t.guest2 then [Side.p2] else [])).filter
              (t.player · = u) := by
          simp only [counted, rankedUntil, hrated, if_true]
          cases t.guest1 <;> cases t.guest2 <;> rfl
        rw [hlisted]
        refine (foldl_countGame hne _ _ u row).trans ?_
        simp [CountsFor, Record.userID, hrated]
      · have hnone : t.counted .commit (.ranked u s) = [] := by
          simp only [counted, rankedUntil]
          split_ifs <;> simp_all
        have hnot : ¬ t.CountsFor (.ranked u s) := fun hc => h ⟨hc.1, hc.2.1⟩
        simp [hnone, hnot]

/-- A refund writes no games. -/
theorem RefundTx.noGames_step {t t' : RefundTx} {F : FloatMath} {history : History} {seen : DB} {m : Moment}
    (hown : ∀ r : Record, r.key ∉ t.own) (h : t.step F history seen m t.at_ t.rest = some t') (r : Record) :
    r.key ∉ t'.own := by
  have hinsert : ∀ k (v : Row k), (∀ r : Record, r.key ≠ k) → r.key ∉ view (AList.insert k v ∅) t.own :=
    fun k v hk => ReadCommitted.notMem_view (notMem_insert (hk r)) (hown r)
  have hrank : ∀ u s, ∀ r : Record, r.key ≠ .rank u s := by
    intro u s r
    cases r <;> simp [Record.key]
  have hs := steps_of_step h
  generalize t.at_ = at_, t.rest = items at hs
  cases hs with
  | candidates => exact hown r
  | unrated => exact ReadCommitted.notMem_view (AList.notMem_empty _) (hown r)
  | spared item rest current found => exact hinsert _ _ (hrank _ _)
  | computed item rest current after refundDelta found refund => exact hinsert _ _ (hrank _ _)
  | refunded => exact ReadCommitted.notMem_view (AList.notMem_empty _) (hown r)
  | inserted item rest before after refundDelta now fresh =>
      refine hinsert _ _ fun r => ?_
      cases r <;> simp [Record.key]
  | updated item rest after refundDelta now =>
      exact ReadCommitted.notMem_view (notMem_update (hrank _ _ r)) (hown r)

def Counts : RatingProc → DB → Prop
  | .result t, db => Counting t db
  | .refund t, _ => ∀ r : Record, r.key ∉ t.own
  | .nothing, _ => True

/-- The result that the next statement commits. -/
def RatingProc.recorded : RatingProc → List ResultTx
  | .result t => if t.at_ = .commit then [t] else []
  | .refund _ | .nothing => []

variable {active : SeasonID} {F : FloatMath} {history : History} {p p' : RatingProc} {db : DB} {m : Moment}

theorem counts_begin (c : RatingCall) (db : DB) : Counts (c.begin active) db := by
  cases c with
  | issueRefunds cheater since => exact fun r => AList.notMem_empty _
  | recordMatchResult finished =>
      -- that the players are different ones has been shown for their ratings
      have hfine : Fine .coarse ((RatingCall.recordMatchResult finished).begin active) db :=
        fine_begin _ db
      revert hfine
      simp only [RatingCall.begin]
      split
      · exact fun hfine => ⟨hfine.1, trivial, fun r hr => (List.not_mem_nil hr).elim,
          .empty (ResultTx.counted_of_early (show ResultTx.Early (.ensure .p1 .user) from trivial)) db⟩
      · exact fun _ => trivial

theorem counts_run (h : Counts p db) (hp' : (p.run F history db m).2 = some p') :
    Counts p' (view (p.run F history db m).1 db) := by
  rcases run_cases F history p db m with hrows | ⟨-, hnone⟩
  · rw [hrows, ReadCommitted.view_empty]
    cases p with
    | result t =>
        simp only [RatingProc.run] at hp'
        split_ifs at hp'
        obtain ⟨t', ht', rfl⟩ := Option.map_eq_some_iff.1 hp'
        exact ResultTx.counting_step h ht'
    | refund t =>
        simp only [RatingProc.run] at hp'
        split at hp'
        · cases hp'
        · rename_i t' ht'
          obtain rfl := Option.some.inj hp'
          exact RefundTx.noGames_step h ht'
    | nothing => cases hp'
  · rw [hnone] at hp'
    cases hp'

theorem counts_frame {rows : DB} (h : Counts p db) (hfree : ∀ k ∈ rows, k ∉ p.own) :
    Counts p (view rows db) := by
  cases p with
  | result t => exact ResultTx.counting_frame h hfree
  | refund t => exact h
  | nothing => trivial

theorem counts_local : ReadCommitted.World.Local (ratingProgram active F history) Counts where
  begin := counts_begin
  run _ _ _ _ h hp' := counts_run h hp'
  frame _ _ _ h hfree := counts_frame h hfree

/-- The games and wins of a row after a statement. -/
theorem stats_run (h : Counts p db) (r : Record) :
    r.stats (view (p.run F history db m).1 db) =
      { gamesPlayed := (r.stats db).gamesPlayed + p.recorded.countP (·.CountsFor r)
        wins := (r.stats db).wins +
          p.recorded.countP fun t => t.CountsFor r ∧ t.winner = r.userID } := by
  cases p with
  | result t =>
      by_cases hat : t.at_ = .commit
      · have htallied := h.tallied.stats_view r
        rw [hat, ResultTx.counted_commit h.distinct] at htallied
        simpa [RatingProc.run, RatingProc.recorded, hat, List.countP_cons] using htallied
      · simp [RatingProc.run, RatingProc.recorded, hat]
  | refund t =>
      have hsame : r.stats (view ((RatingProc.refund t).run F history db m).1 db) = r.stats db := by
        rcases run_cases F history (.refund t) db m with hrows | ⟨hrows, -⟩
        · rw [hrows, ReadCommitted.view_empty]
        · have hown : r.key ∉ (RatingProc.refund t).own := h r
          rw [hrows, Record.stats, Record.lookup_view_of_notMem hown]
          rfl
      exact hsame
  | nothing => rfl

/-! ## Runs -/

/-- The results that an action commits. -/
def recorded (w : RatingWorld active F history) : RatingAct active F history → List ResultTx
  | .run id _ => (w.procs.lookup id).elim [] RatingProc.recorded
  | .start _ _ | .stop _ => []

/-- The transaction records the result that `finished` has. -/
structure ResultTx.Reports (t : ResultTx) (active : SeasonID) (finished : FinishedMatch) : Prop where
  match_ : ∃ t₀, (RatingCall.recordMatchResult finished).begin active = .result t₀ ∧
    t.p1 = t₀.p1 ∧ t.p2 = t₀.p2 ∧ t.winner = t₀.winner ∧ t.season = t₀.season ∧ t.matchID = t₀.matchID ∧
      t.unranked = t₀.unranked
  rated : t.rated → t.unranked = false

theorem reports_step {t t' : ResultTx} {finished : FinishedMatch} {seen : DB} {at_ : RecordAt}
    (ht : t.Reports active finished) (h : t.step F seen m at_ = some t') : t'.Reports active finished := by
  obtain ⟨t₁, rows, rfl, hkeeps, -⟩ := ResultTx.step_spec h
  obtain ⟨⟨t₀, hbegin, h₁, h₂, hwinner, hseason, hmatch, hunranked⟩, hrated⟩ := ht
  refine ⟨⟨t₀, hbegin, hkeeps.p1.trans h₁, hkeeps.p2.trans h₂, hkeeps.winner.trans hwinner,
    hkeeps.season.trans hseason, hkeeps.matchID.trans hmatch, hkeeps.unranked.trans hunranked⟩, fun h => ?_⟩
  show t₁.unranked = false
  rw [hkeeps.unranked]
  exact (hkeeps.rated h).elim hrated id

/-- The transaction records the result of the call that the `n`-th action has started, as `id`. -/
def CalledAt (as : List (RatingAct active F history)) (t : ResultTx) (id n : ℕ) : Prop :=
  ∃ finished, as[n]? = some (.start id (.recordMatchResult finished)) ∧ t.Reports active finished

/-- The results that have been recorded, and those that may be, are of different calls. -/
structure Called (as : List (RatingAct active F history)) (results : List ResultTx)
    (w : RatingWorld active F history) (calls : List ℕ) : Prop where
  nodup : calls.Nodup
  recorded : List.Forall₂ (fun t n => ∃ id, CalledAt as t id n) results calls
  running : ∀ id t, (w.procs.lookup id : Option RatingProc) = some (.result t) →
    ∃ n, n ∉ calls ∧ CalledAt as t id n

theorem CalledAt.concat {as : List (RatingAct active F history)} {t : ResultTx} {id n : ℕ}
    (h : CalledAt as t id n) (a : RatingAct active F history) : CalledAt (as ++ [a]) t id n := by
  obtain ⟨finished, hn, ht⟩ := h
  exact ⟨finished, (List.getElem?_append_left (List.getElem?_eq_some_iff.1 hn).1).trans hn, ht⟩

theorem Called.lt {as : List (RatingAct active F history)} {results : List ResultTx}
    {w : RatingWorld active F history} {calls : List ℕ} (h : Called as results w calls) :
    ∀ n ∈ calls, n < as.length := by
  intro n hn
  obtain ⟨i, hi, rfl⟩ := List.mem_iff_getElem.1 hn
  obtain ⟨hlength, hall⟩ := List.forall₂_iff_get.1 h.recorded
  obtain ⟨id, finished, hid, -⟩ := hall i (hlength ▸ hi) hi
  exact (List.getElem?_eq_some_iff.1 hid).1

theorem reports_begin {c : RatingCall} {t : ResultTx} (h : c.begin active = .result t) :
    ∃ finished, c = .recordMatchResult finished ∧ t.Reports active finished := by
  cases c with
  | issueRefunds cheater since => cases h
  | recordMatchResult finished =>
      refine ⟨finished, rfl, ⟨t, h, rfl, rfl, rfl, rfl, rfl, rfl⟩, fun hrated => ?_⟩
      simp only [RatingCall.begin] at h
      split at h
      · obtain rfl := RatingProc.result.inj h
        cases hrated
      · cases h

/-- A result is in progress after a statement that is not its commit. -/
theorem result_of_run {t' : ResultTx} (h : (p.run F history db m).2 = some (.result t')) :
    ∃ t, p = .result t ∧ p.recorded = [] ∧ t.step F (view t.own db) m t.at_ = some t' := by
  cases p with
  | result t =>
      simp only [RatingProc.run] at h
      split_ifs at h with hat
      obtain ⟨t₁, ht₁, heq⟩ := Option.map_eq_some_iff.1 h
      obtain rfl := RatingProc.result.inj heq
      exact ⟨t, rfl, by simp [RatingProc.recorded, hat], ht₁⟩
  | refund t =>
      simp only [RatingProc.run] at h
      split at h <;> cases h
  | nothing => cases h

theorem recorded_cases (F : FloatMath) (history : History) (p : RatingProc) (db : DB) (m : Moment) :
    p.recorded = [] ∨ ∃ t, p = .result t ∧ p.recorded = [t] ∧ (p.run F history db m).2 = none := by
  cases p with
  | result t =>
      by_cases hat : t.at_ = .commit
      · exact .inr ⟨t, rfl, by simp [RatingProc.recorded, hat], by simp [RatingProc.run, hat]⟩
      · exact .inl (by simp [RatingProc.recorded, hat])
  | refund | nothing => exact .inl rfl

/-- Calls that different processes are in are different ones. -/
theorem CalledAt.ne {as : List (RatingAct active F history)} {t t' : ResultTx} {id id' n n' : ℕ}
    (h : CalledAt as t id n) (h' : CalledAt as t' id' n') (hid : id ≠ id') : n ≠ n' := by
  rintro rfl
  obtain ⟨finished, hn, -⟩ := h
  obtain ⟨finished', hn', -⟩ := h'
  have hact := Option.some.inj (hn.symm.trans hn')
  exact hid (ReadCommitted.Act.start.inj hact).1

theorem called_step {as : List (RatingAct active F history)} {results : List ResultTx}
    {w w' : RatingWorld active F history} {a : RatingAct active F history} {calls : List ℕ}
    (h : Called as results w calls) (hs : w.step a = some w') :
    ∃ calls', Called (as ++ [a]) (results ++ recorded w a) w' calls' := by
  have hrecorded : List.Forall₂ (fun t n => ∃ id, CalledAt (as ++ [a]) t id n) results calls :=
    h.recorded.imp fun t n hcalled => hcalled.imp fun id hid => hid.concat a
  cases ReadCommitted.World.steps_of_step hs with
  | @start id c new =>
      refine ⟨calls, h.nodup, by simpa [recorded] using hrecorded, fun j t hj => ?_⟩
      rcases Assoc.of_lookup_insert hj with ⟨rfl, hbegin⟩ | ⟨-, hj⟩
      · obtain ⟨finished, rfl, ht⟩ := reports_begin hbegin.symm
        exact ⟨as.length, fun hmem => (h.lt _ hmem).false, finished, by simp, ht⟩
      · obtain ⟨n, hn, hcalled⟩ := h.running j t hj
        exact ⟨n, hn, hcalled.concat _⟩
  | stop id =>
      refine ⟨calls, h.nodup, by simpa [recorded] using hrecorded, fun j t hj => ?_⟩
      obtain ⟨n, hn, hcalled⟩ := h.running j t (Assoc.of_lookup_erase hj).2
      exact ⟨n, hn, hcalled.concat _⟩
  | @run id p e mem free locked =>
      have hobs : recorded w (.run id e) = p.recorded := by
        rw [recorded, mem]
        rfl
      rw [hobs]
      rcases recorded_cases F history p w.db e with hnone | ⟨t, rfl, hone, hend⟩
      · rw [hnone, List.append_nil]
        refine ⟨calls, h.nodup, hrecorded, fun j t hj => ?_⟩
        rcases ReadCommitted.World.lookup_settle hj with ⟨rfl, hnext⟩ | ⟨-, hj⟩
        · obtain ⟨t₀, rfl, -, hstep⟩ := result_of_run hnext
          obtain ⟨n, hn, finished, hcall, ht⟩ := h.running j t₀ mem
          exact ⟨n, hn, CalledAt.concat ⟨finished, hcall, reports_step ht hstep⟩ _⟩
        · obtain ⟨n, hn, hcalled⟩ := h.running j t hj
          exact ⟨n, hn, hcalled.concat _⟩
      · obtain ⟨n, hn, hcalled⟩ := h.running id t mem
        rw [hone]
        refine ⟨calls ++ [n], ?_, ?_, fun j t' hj => ?_⟩
        · exact List.nodup_append.2 ⟨h.nodup, List.nodup_singleton n, by
            rintro x hx y hy rfl
            exact hn (by rwa [← List.mem_singleton.1 hy])⟩
        · exact List.rel_append hrecorded (.cons ⟨id, hcalled.concat _⟩ .nil)
        · rcases ReadCommitted.World.lookup_settle hj with ⟨-, hnext⟩ | ⟨hne, hj⟩
          · cases hend.symm.trans hnext
          · obtain ⟨n', hn', hcalled'⟩ := h.running j t' hj
            refine ⟨n', fun hmem => ?_, hcalled'.concat _⟩
            rcases List.mem_append.1 hmem with hmem | hmem
            · exact hn' hmem
            · exact hcalled'.ne hcalled hne (List.mem_singleton.1 hmem)

/-- The games of the rows are those of the results. -/
def StatsFrom (db : DB) (results : List ResultTx) (db' : DB) : Prop :=
  ∀ r : Record, r.stats db' =
    { gamesPlayed := (r.stats db).gamesPlayed + results.countP (·.CountsFor r)
      wins := (r.stats db).wins + results.countP fun t => t.CountsFor r ∧ t.winner = r.userID }

theorem statsFrom_step {results : List ResultTx} {w w' : RatingWorld active F history}
    {a : RatingAct active F history} (hw : ReadCommitted.World.Inv Counts w)
    (h : StatsFrom db results w.db) (hs : w.step a = some w') :
    StatsFrom db (results ++ recorded w a) w'.db := by
  intro r
  cases ReadCommitted.World.steps_of_step hs with
  | start | stop => simpa [recorded] using h r
  | @run id p e mem free locked =>
      have hobs : recorded w (.run id e) = p.recorded := by
        rw [recorded, mem]
        rfl
      refine (stats_run (hw.each id p mem) r).trans ?_
      rw [hobs, h r, List.countP_append, List.countP_append, Nat.add_assoc, Nat.add_assoc]

/-- Whatever results and refunds run at the same time, the games and wins of each row of `user_stats` and
`ranked_stats` are those that it had and those of the results that have been committed, and the committed
results are of different calls. -/
theorem stats_eq_recorded (active : SeasonID) (F : FloatMath) (history : History) (db : DB)
    (as : List (RatingAct active F history)) (w : RatingWorld active F history)
    (hw : Run.exec ReadCommitted.World.step (⟨db, ∅⟩ : RatingWorld active F history) as = some w) :
    let results := Run.trace ReadCommitted.World.step recorded (⟨db, ∅⟩ : RatingWorld active F history) as
    StatsFrom db results w.db ∧
      ∃ calls : List ℕ, calls.Nodup ∧
        List.Forall₂ (fun t n => ∃ id, CalledAt as t id n) results calls := by
  intro results
  have hinit : Called [] [] (⟨db, ∅⟩ : RatingWorld active F history) [] :=
    ⟨List.nodup_nil, .nil, fun id t h => by cases h⟩
  have hinv := @Run.trace_induction _ _ ReadCommitted.World.step _ recorded
    (fun as results (w : RatingWorld active F history) => ReadCommitted.World.Inv Counts w ∧
      (∃ calls, Called as results w calls) ∧ StatsFrom db results w.db)
    ⟨db, ∅⟩ ⟨ReadCommitted.World.Inv.init db, ⟨[], hinit⟩, fun r => rfl⟩
    (fun as results w a w' h hs => by
      obtain ⟨hcounts, ⟨calls, hcalled⟩, hstats⟩ := h
      exact ⟨hcounts.step counts_local hs, called_step hcalled hs, statsFrom_step hcounts hstats hs⟩)
    as w hw
  obtain ⟨-, ⟨calls, hcalled⟩, hstats⟩ := hinv
  exact ⟨hstats, calls, hcalled.nodup, hcalled.recorded⟩

theorem stats_eq_recorded_twoResults :
    ∃ w, Run.exec ReadCommitted.World.step
        (⟨ratedPlayers ["a", "b"], ∅⟩ : RatingWorld "s" FloatMath.coarse ∅) twoResults = some w ∧
      let results := Run.trace ReadCommitted.World.step recorded
        (⟨ratedPlayers ["a", "b"], ∅⟩ : RatingWorld "s" FloatMath.coarse ∅) twoResults
      StatsFrom (ratedPlayers ["a", "b"]) results w.db ∧
        ∃ calls : List ℕ, calls.Nodup ∧
          List.Forall₂ (fun t n => ∃ id, CalledAt twoResults t id n) results calls := by
  have hrun : (Run.exec ReadCommitted.World.step
      (⟨ratedPlayers ["a", "b"], ∅⟩ : RatingWorld "s" FloatMath.coarse ∅) twoResults).isSome := by
    decide +kernel
  obtain ⟨w, hw⟩ := Option.isSome_iff_exists.1 hrun
  exact ⟨w, hw, stats_eq_recorded "s" FloatMath.coarse ∅ _ twoResults w hw⟩

/-- Both games are won by `a`, though the second result reads its row while the first one is running. -/
example : (Run.exec ReadCommitted.World.step
      (⟨ratedPlayers ["a", "b"], ∅⟩ : RatingWorld "s" FloatMath.coarse ∅) twoResults).map
    (fun w => (Record.stats w.db (.ranked "a" "s"), Record.stats w.db (.total "b"))) =
    some (⟨2, 2⟩, ⟨2, 0⟩) := by
  decide +kernel

end GeoDuels.Ratings
