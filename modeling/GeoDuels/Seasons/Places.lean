import GeoDuels.Lib.Run
import GeoDuels.Seasons.Leaderboard

/-!
# The places of a season

A season ends in one transaction, and the transactions of two ends do not overlap; in between users come, are
banned and play, also in seasons that have ended.  As long as no season starts a second time, its places are
given to one player each, they are the places of the leaderboard at the end of the season, and they stay.
-/

namespace GeoDuels.Seasons

open Badges (SeasonID BadgeKey badgeCodeSeasonRank badgeCodeGeoDuelsTeam)
open Persistence (trim)

structure World where
  db : DB := {}
  clock : ℕ

inductive Act where
  | rollover (nextSeasonID : SeasonID)
  /-- A user comes, changes or is banned. -/
  | setUser (userID : UserID) (row : UserRow)
  /-- A rating is written, in whatever season. -/
  | rate (key : RankKey) (state : Rating.State)
  /-- Any other badge is awarded. -/
  | award (key : BadgeKey) (rank : Option ℤ)
  | removeTeam (userID : UserID)
  | wait (d : ℕ)

namespace World

def step (w : World) : Act → Option World
  | .rollover nextSeasonID =>
      match w.db.rolloverRankedSeason w.clock nextSeasonID with
      | .ok (_, db) => some { w with db := db }
      | .error _ => none
  | .setUser userID row => some { w with db := { w.db with users := w.db.users.insert userID row } }
  | .rate key state =>
      if key.userID ∈ w.db.users then
        some { w with db := { w.db with ranks := w.db.ranks.insert key state } }
      else none
  | .award key rank =>
      if key.code = badgeCodeSeasonRank then none
      else some { w with db := { w.db with badges := w.db.badges.award w.clock key rank } }
  | .removeTeam userID =>
      some { w with
        db := { w.db with
          badges := w.db.badges.filter fun k _ =>
            ¬ (k.userID = userID ∧ k.code = badgeCodeGeoDuelsTeam) } }
  | .wait d => some { w with clock := w.clock + d }

end World

/-- The player has this place of the season. -/
def Holds (badges : Badges.Table) (seasonID : SeasonID) (u : UserID) (r : ℕ) : Prop :=
  ∃ row, badges.lookup ⟨u, badgeCodeSeasonRank, seasonID⟩ = some row ∧ row.rank = some (r : ℤ)

/-- The places of each season are 1 to some number up to 100, and each has one holder. -/
def FairPlaces (badges : Badges.Table) : Prop :=
  ∀ seasonID, ∃ n ≤ 100,
    (∀ u row, badges.lookup ⟨u, badgeCodeSeasonRank, seasonID⟩ = some row →
      ∃ r : ℕ, 1 ≤ r ∧ r ≤ n ∧ row.rank = some (r : ℤ)) ∧
    ∀ r : ℕ, 1 ≤ r → r ≤ n → ∃! u, Holds badges seasonID u r

def PlacesStay (w w' : World) : Prop :=
  ∀ u seasonID row, w.db.badges.lookup ⟨u, badgeCodeSeasonRank, seasonID⟩ = some row →
    w'.db.badges.lookup ⟨u, badgeCodeSeasonRank, seasonID⟩ = some row

/-- The season that is active ends: its places are those that the leaderboard lists, everyone who is no
guest has a rating in the next season, and no rating is lost. -/
structure SeasonEnds (w w' : World) : Prop where
  awarded : ∀ u r, Holds w'.db.badges w.db.activeSeasonID u r ↔
    ∃ entry ∈ w.db.listLeaderboard modeDuel w.db.activeSeasonID 100 0, entry.userID = u ∧ entry.rank = r
  seeded : ∀ u row, w.db.users.lookup u = some row → row.guest = false →
    (⟨u, modeDuel, w'.db.activeSeasonID⟩ : RankKey) ∈ w'.db.ranks
  kept : ∀ key state, w.db.ranks.lookup key = some state → w'.db.ranks.lookup key = some state

/-- No place of the next season has been given yet. -/
def NewSeason (w : World) : Act → Prop
  | .rollover nextSeasonID => ∀ key row, w.db.badges.lookup key = some row →
      ¬ (key.code = badgeCodeSeasonRank ∧ key.seasonID = trim nextSeasonID)
  | _ => True

instance (w : World) : DecidablePred (NewSeason w)
  | .rollover _ =>
      inferInstanceAs (Decidable (∀ key row, w.db.badges.lookup key = some row → ¬ (_ ∧ _)))
  | .setUser .. | .rate .. | .award .. | .removeTeam _ | .wait _ => inferInstanceAs (Decidable True)

variable {db : DB} {badges : Badges.Table} {now : ℕ} {seasonID : SeasonID} {u : UserID} {w w' : World}
variable {a : Act}

/-! ## The awards -/

theorem lookup_award (badges : Badges.Table) (now : ℕ) (key key' : BadgeKey) (rank : Option ℤ) :
    (badges.award now key rank).lookup key' =
      (badges.lookup key').or (if key' = key then some ⟨rank, now⟩ else none) := by
  unfold Badges.Table.award
  by_cases hkey : key' = key
  · subst hkey
    rw [if_pos rfl]
    split_ifs with hmem
    · obtain ⟨row, hrow⟩ := Assoc.mem_iff_exists.1 hmem
      rw [hrow, Option.some_or]
    · rw [AList.lookup_insert, AList.lookup_eq_none.2 hmem, Option.none_or]
  · rw [if_neg hkey, Option.or_none]
    split_ifs
    · rfl
    · exact AList.lookup_insert_ne hkey

theorem lookup_foldl_award (ps : List (UserID × ℕ)) (badges : Badges.Table) (key : BadgeKey) :
    (ps.foldl (fun badges p => badges.award now ⟨p.1, badgeCodeSeasonRank, seasonID⟩ (some (p.2 : ℤ)))
        badges).lookup key =
      (badges.lookup key).or ((ps.find? fun p => key = ⟨p.1, badgeCodeSeasonRank, seasonID⟩).map
        fun p => ⟨some (p.2 : ℤ), now⟩) := by
  induction ps generalizing badges with
  | nil => simp
  | cons p ps ih =>
      rw [List.foldl_cons, ih, lookup_award, List.find?_cons]
      by_cases hkey : key = ⟨p.1, badgeCodeSeasonRank, seasonID⟩
      · simp [hkey]
      · simp [hkey]

/-- The first rows of a leaderboard are those with the first ranks. -/
theorem filter_zipIdx (l : List Entry) (n k : ℕ) :
    (l.zipIdx k).filter (fun row => row.2 < k + n) = (l.zipIdx k).take n := by
  induction l generalizing n k with
  | nil => simp
  | cons e l ih =>
      rw [List.zipIdx_cons]
      cases n with
      | zero =>
          rw [List.take_zero, List.filter_eq_nil_iff]
          intro row hrow
          rcases List.mem_cons.1 hrow with rfl | hrow
          · simp
          · have hle := List.le_snd_of_mem_zipIdx hrow
            simp only [decide_eq_true_eq]
            omega
      | succ n =>
          rw [List.filter_cons_of_pos (by simp), List.take_succ_cons, ← ih n (k + 1)]
          congr 2
          funext row
          congr 2
          omega

theorem first_hundred (l : List Entry) :
    (l.zipIdx 1).filter (fun row => row.2 ≤ 100) = (l.zipIdx 1).take 100 := by
  rw [← filter_zipIdx l 100 1]
  congr 1
  funext row
  congr 1
  exact propext (by omega)

/-! ## The places of the ended season -/

/-- The ranks of the rows in the first hundred, and their players. -/
theorem places_spec (db : DB) (seasonID : SeasonID) :
    ((db.places seasonID).map Prod.fst).Nodup ∧
      ∃ n ≤ 100, (db.places seasonID).map Prod.snd = List.range' 1 n := by
  unfold DB.places
  dsimp only
  have hnodup := nodup_users db
    (fun e => e.1.mode = modeDuel ∧ e.1.seasonID = seasonID ∧
      (db.users.lookup e.1.userID).any fun u => !u.guest && u.bannedAt.isNone)
    fun e he => by
      have he := of_decide_eq_true he
      exact (⟨he.1, he.2.1⟩ : e.1.mode = modeDuel ∧ e.1.seasonID = seasonID)
  set rows := (db.ranks.entries.filter fun e =>
    e.1.mode = modeDuel ∧ e.1.seasonID = seasonID ∧
      (db.users.lookup e.1.userID).any fun u => !u.guest && u.bannedAt.isNone).insertionSort Before
  constructor
  · rw [List.map_map]
    exact hnodup.sublist (List.filter_sublist.map _)
  · refine ⟨min 100 rows.length, min_le_left _ _, ?_⟩
    rw [List.map_map, first_hundred]
    show ((rows.zipIdx 1).take 100).map Prod.snd = _
    rw [List.map_take, List.zipIdx_map_snd]
    rcases le_total rows.length 100 with hle | hle
    · rw [List.take_range'_of_length_le hle, min_eq_right hle]
    · rw [List.take_range'_of_length_ge hle, min_eq_left hle]

theorem orActive_activeSeasonID (db : DB) : db.orActive db.activeSeasonID = db.activeSeasonID := by
  unfold DB.orActive
  split_ifs <;> rfl

/-- With a user for every rating, the places are those that the leaderboard lists. -/
theorem mem_places_iff (husers : ∀ key ∈ db.ranks, key.userID ∈ db.users)
    (hseason : db.orActive seasonID = seasonID) (u : UserID) (r : ℕ) :
    (u, r) ∈ db.places seasonID ↔
      ∃ entry ∈ db.listLeaderboard modeDuel seasonID 100 0, entry.userID = u ∧ entry.rank = r := by
  have hsame : db.places seasonID =
      ((db.ranked modeDuel seasonID).take 100).map fun row => (row.1.1.userID, row.2) := by
    have hrows : (db.ranks.entries.filter fun e =>
        e.1.mode = modeDuel ∧ e.1.seasonID = seasonID ∧
          (db.users.lookup e.1.userID).any fun u => !u.guest && u.bannedAt.isNone) =
        db.ranks.entries.filter fun e =>
          e.1.mode = modeDuel ∧ e.1.seasonID = seasonID ∧ db.listed e.1.userID := by
      refine List.filter_congr fun e he => ?_
      obtain ⟨row, hrow⟩ := Assoc.mem_iff_exists.1
        (husers e.1 (Assoc.mem_iff_exists.2 ⟨e.2, Assoc.mem_entries_iff.1 he⟩))
      simp [DB.listed, hrow]
    unfold DB.places DB.ranked
    dsimp only
    rw [hrows, first_hundred]
  have hpage := @listLeaderboard_eq db modeDuel seasonID 100 (by decide) (by decide) 0
  rw [hseason, List.drop_zero] at hpage
  rw [hsame, show db.listLeaderboard modeDuel seasonID 100 0 = _ from hpage]
  simp only [List.mem_map, Prod.mk.injEq]
  constructor
  · rintro ⟨row, hrow, rfl, rfl⟩
    exact ⟨_, ⟨row, hrow, rfl⟩, rfl, rfl⟩
  · rintro ⟨_, ⟨row, hrow, rfl⟩, rfl, rfl⟩
    exact ⟨row, hrow, rfl, rfl⟩

/-- The badges of a season that has none yet are its places. -/
theorem lookup_awardPlaces (hnone : ∀ key row, db.badges.lookup key = some row →
      ¬ (key.code = badgeCodeSeasonRank ∧ key.seasonID = seasonID)) (u : UserID) :
    (db.awardPlaces now seasonID).lookup ⟨u, badgeCodeSeasonRank, seasonID⟩ =
      ((db.places seasonID).find? fun p => u = p.1).map fun p => ⟨some (p.2 : ℤ), now⟩ := by
  have hold : db.badges.lookup ⟨u, badgeCodeSeasonRank, seasonID⟩ = none := by
    by_contra hsome
    obtain ⟨row, hrow⟩ := Option.ne_none_iff_exists'.1 hsome
    exact hnone _ row hrow ⟨rfl, rfl⟩
  refine (lookup_foldl_award _ _ _).trans ?_
  rw [hold, Option.none_or]
  congr 2
  funext p
  simp

/-- Other badges are not touched. -/
theorem lookup_awardPlaces_of_ne {key : BadgeKey}
    (hne : ¬ (key.code = badgeCodeSeasonRank ∧ key.seasonID = seasonID)) :
    (db.awardPlaces now seasonID).lookup key = db.badges.lookup key := by
  refine (lookup_foldl_award _ _ _).trans ?_
  have hnone : ((db.places seasonID).find? fun p => key = ⟨p.1, badgeCodeSeasonRank, seasonID⟩) = none := by
    rw [List.find?_eq_none]
    intro p _ hkey
    rw [of_decide_eq_true hkey] at hne
    exact hne ⟨rfl, rfl⟩
  rw [hnone, Option.map_none, Option.or_none]

theorem holds_awardPlaces (hnone : ∀ key row, db.badges.lookup key = some row →
      ¬ (key.code = badgeCodeSeasonRank ∧ key.seasonID = seasonID)) (u : UserID) (r : ℕ) :
    Holds (db.awardPlaces now seasonID) seasonID u r ↔ (u, r) ∈ db.places seasonID := by
  unfold Holds
  rw [lookup_awardPlaces hnone]
  obtain ⟨hnodup, -⟩ := places_spec db seasonID
  constructor
  · rintro ⟨row, hrow, hrank⟩
    obtain ⟨p, hp, rfl⟩ := Option.map_eq_some_iff.1 hrow
    have hu : u = p.1 := by simpa using List.find?_some hp
    have hr : p.2 = r := by simpa using hrank
    rw [hu, ← hr]
    exact List.mem_of_find?_eq_some hp
  · intro hmem
    cases hfind : (db.places seasonID).find? fun p => u = p.1 with
    | none => exact absurd (decide_eq_true rfl) (List.find?_eq_none.1 hfind (u, r) hmem)
    | some p =>
        have hu : u = p.1 := by simpa using List.find?_some hfind
        have hsame : p = (u, r) :=
          List.inj_on_of_nodup_map hnodup (List.mem_of_find?_eq_some hfind) hmem hu.symm
        exact ⟨_, rfl, by rw [hsame]⟩

/-- A season that ends for the first time gives each place once. -/
theorem fairPlaces_awardPlaces (h : FairPlaces db.badges)
    (hnone : ∀ key row, db.badges.lookup key = some row →
      ¬ (key.code = badgeCodeSeasonRank ∧ key.seasonID = seasonID)) :
    FairPlaces (db.awardPlaces now seasonID) := by
  intro season
  by_cases hseason : season = seasonID
  · subst hseason
    obtain ⟨hnodup, n, hn, hranks⟩ := places_spec db season
    have hmem : ∀ r, r ∈ (db.places season).map Prod.snd ↔ 1 ≤ r ∧ r ≤ n := by
      intro r
      rw [hranks, List.mem_range'_1]
      omega
    refine ⟨n, hn, fun u row hrow => ?_, fun r h1 hr => ?_⟩
    · rw [lookup_awardPlaces hnone] at hrow
      obtain ⟨p, hp, rfl⟩ := Option.map_eq_some_iff.1 hrow
      obtain ⟨h1, hr⟩ := (hmem p.2).1 (List.mem_map_of_mem (List.mem_of_find?_eq_some hp))
      exact ⟨p.2, h1, hr, rfl⟩
    · obtain ⟨⟨u, r'⟩, hp, rfl⟩ := List.mem_map.1 ((hmem r).2 ⟨h1, hr⟩)
      refine ⟨u, (holds_awardPlaces hnone u r').2 hp, fun u' hu' => ?_⟩
      have hp' := (holds_awardPlaces hnone u' r').1 hu'
      have hsnd : ((db.places season).map Prod.snd).Nodup := by
        rw [hranks]
        exact List.nodup_range'
      exact (Prod.mk.inj (List.inj_on_of_nodup_map hsnd hp' hp rfl)).1
  · have hsame : ∀ u, (db.awardPlaces now seasonID).lookup ⟨u, badgeCodeSeasonRank, season⟩ =
        db.badges.lookup ⟨u, badgeCodeSeasonRank, season⟩ := fun u =>
      lookup_awardPlaces_of_ne fun h => hseason h.2
    obtain ⟨n, hn, hrows, hplaces⟩ := h season
    refine ⟨n, hn, fun u row hrow => hrows u row ((hsame u).symm.trans hrow), fun r h1 hr => ?_⟩
    unfold Holds
    simp only [hsame]
    exact hplaces r h1 hr

/-! ## The start of the next season -/

variable {V : Type}

/-- `insert … on conflict do nothing` for one user. -/
def seedOne (seasonID : SeasonID) (v : V) (rows : Assoc RankKey V) (userID : UserID) : Assoc RankKey V :=
  if (⟨userID, modeDuel, seasonID⟩ : RankKey) ∈ rows then rows
  else rows.insert ⟨userID, modeDuel, seasonID⟩ v

theorem seedOne_spec (seasonID : SeasonID) (v : V) (rows : Assoc RankKey V) (userID : UserID) :
    (∀ key old, rows.lookup key = some old → (seedOne seasonID v rows userID).lookup key = some old) ∧
      (⟨userID, modeDuel, seasonID⟩ : RankKey) ∈ seedOne seasonID v rows userID ∧
      ∀ key ∈ seedOne seasonID v rows userID, key ∈ rows ∨ key.userID = userID := by
  unfold seedOne
  split_ifs with hmem
  · exact ⟨fun _ _ h => h, hmem, fun _ h => .inl h⟩
  · refine ⟨fun key old hold => (AList.lookup_insert_ne ?_).trans hold,
      (AList.mem_insert _).2 (.inl rfl), fun key hkey => ?_⟩
    · rintro rfl
      exact hmem (Assoc.mem_iff_exists.2 ⟨old, hold⟩)
    · rcases (AList.mem_insert _).1 hkey with rfl | hkey
      · exact .inr rfl
      · exact .inl hkey

theorem foldl_seedOne_spec (seasonID : SeasonID) (v : V) (us : List UserID) (rows : Assoc RankKey V) :
    (∀ key old, rows.lookup key = some old → (us.foldl (seedOne seasonID v) rows).lookup key = some old) ∧
      (∀ u ∈ us, (⟨u, modeDuel, seasonID⟩ : RankKey) ∈ us.foldl (seedOne seasonID v) rows) ∧
      ∀ key ∈ us.foldl (seedOne seasonID v) rows, key ∈ rows ∨ key.userID ∈ us := by
  induction us generalizing rows with
  | nil => exact ⟨fun _ _ h => h, fun u hu => absurd hu List.not_mem_nil, fun _ h => .inl h⟩
  | cons user us ih =>
      rw [List.foldl_cons]
      obtain ⟨hold₁, hmem₁, hback₁⟩ := seedOne_spec seasonID v rows user
      obtain ⟨hold, hall, hback⟩ := ih (seedOne seasonID v rows user)
      refine ⟨fun key old h => hold key old (hold₁ key old h), fun u hu => ?_, fun key hkey => ?_⟩
      · rcases List.mem_cons.1 hu with rfl | hu
        · obtain ⟨old, h⟩ := Assoc.mem_iff_exists.1 hmem₁
          exact Assoc.mem_iff_exists.2 ⟨old, hold _ old h⟩
        · exact hall u hu
      · rcases hback key hkey with hkey | hkey
        · rcases hback₁ key hkey with hkey | rfl
          · exact .inl hkey
          · exact .inr List.mem_cons_self
        · exact .inr (List.mem_cons_of_mem _ hkey)

/-- Everyone who is no guest has a row then, and no row is lost. -/
theorem seed_spec (db : DB) (seasonID : SeasonID) (v : V) (rows : Assoc RankKey V) :
    (∀ key old, rows.lookup key = some old → (db.seed seasonID v rows).lookup key = some old) ∧
      (∀ u row, db.users.lookup u = some row → row.guest = false →
        (⟨u, modeDuel, seasonID⟩ : RankKey) ∈ db.seed seasonID v rows) ∧
      ∀ key ∈ db.seed seasonID v rows, key ∈ rows ∨ key.userID ∈ db.users := by
  obtain ⟨hold, hall, hback⟩ :=
    foldl_seedOne_spec seasonID v (db.users.filter fun _ u => !u.guest).keys rows
  have hkeys : ∀ u, u ∈ (db.users.filter fun _ u => !u.guest).keys ↔
      ∃ row, db.users.lookup u = some row ∧ row.guest = false := by
    intro u
    rw [← AList.mem_keys, Assoc.mem_iff_exists]
    simp only [Assoc.lookup_filter, Option.filter_eq_some_iff, Bool.not_eq_true']
  refine ⟨hold, fun u row hrow hguest => hall u ((hkeys u).2 ⟨row, hrow, hguest⟩), fun key hkey => ?_⟩
  refine (hback key hkey).imp_right fun hu => ?_
  obtain ⟨row, hrow, -⟩ := (hkeys key.userID).1 hu
  exact Assoc.mem_iff_exists.2 ⟨row, hrow⟩

/-! ## The runs -/

/-- What carries the places from season to season: no place of the active season is given yet. -/
structure Inv (w : World) : Prop where
  users : ∀ key ∈ w.db.ranks, key.userID ∈ w.db.users
  fair : FairPlaces w.db.badges
  active : ∀ key row, w.db.badges.lookup key = some row →
    ¬ (key.code = badgeCodeSeasonRank ∧ key.seasonID = w.db.activeSeasonID)

/-- The badges of seasons are left alone. -/
theorem fairPlaces_of_lookup {badges' : Badges.Table} (h : FairPlaces badges)
    (hsame : ∀ u seasonID, badges'.lookup ⟨u, badgeCodeSeasonRank, seasonID⟩ =
      badges.lookup ⟨u, badgeCodeSeasonRank, seasonID⟩) : FairPlaces badges' := by
  intro seasonID
  obtain ⟨n, hn, hrows, hplaces⟩ := h seasonID
  refine ⟨n, hn, fun u row hrow => hrows u row ((hsame u seasonID).symm.trans hrow), fun r h1 hr => ?_⟩
  unfold Holds
  simp only [hsame]
  exact hplaces r h1 hr

namespace Inv

/-- The badges of seasons are left alone. -/
theorem of_badges (h : Inv w) (hsame : ∀ u seasonID, badges.lookup ⟨u, badgeCodeSeasonRank, seasonID⟩ =
      w.db.badges.lookup ⟨u, badgeCodeSeasonRank, seasonID⟩) :
    Inv { w with db := { w.db with badges := badges } } where
  users := h.users
  fair := fairPlaces_of_lookup h.fair hsame
  active := by
    rintro ⟨u, code, season⟩ row hrow ⟨hcode, hseason⟩
    obtain rfl : code = badgeCodeSeasonRank := hcode
    exact h.active _ row ((hsame u season).symm.trans hrow) ⟨rfl, hseason⟩

/-- The end of a season. -/
theorem rollover (h : Inv w) {nextSeasonID : SeasonID} {result : RankedSeasonRolloverResult}
    (hC : NewSeason w (.rollover nextSeasonID))
    (hs : w.db.rolloverRankedSeason w.clock nextSeasonID = .ok (result, db)) :
    Inv { w with db := db } ∧ PlacesStay w { w with db := db } ∧ SeasonEnds w { w with db := db } := by
  unfold DB.rolloverRankedSeason at hs
  dsimp only at hs
  split_ifs at hs with hempty hsame
  obtain ⟨-, rfl⟩ := Prod.mk.inj (Except.ok.inj hs)
  obtain ⟨hold, hall, hback⟩ := seed_spec w.db (trim nextSeasonID)
    (⟨Ratings.initialMMR, Rating.initialRatingRD, w.clock⟩ : Rating.State) w.db.ranks
  set db' : DB := { w.db with
    badges := w.db.awardPlaces w.clock w.db.activeSeasonID
    ranks := w.db.seed (trim nextSeasonID) ⟨Ratings.initialMMR, Rating.initialRatingRD, w.clock⟩ w.db.ranks
    rankedStats := w.db.seed (trim nextSeasonID) {} w.db.rankedStats
    rankedSeason := some (some (trim nextSeasonID)) } with hdb'
  have hactive : db'.activeSeasonID = trim nextSeasonID := by
    show (if trim (trim nextSeasonID) = "" then defaultSeasonID else trim (trim nextSeasonID)) = _
    rw [Persistence.trim_trim, if_neg hempty]
  have hother : ∀ key : BadgeKey, ¬ (key.code = badgeCodeSeasonRank ∧ key.seasonID = w.db.activeSeasonID) →
      db'.badges.lookup key = w.db.badges.lookup key := fun key hne => lookup_awardPlaces_of_ne hne
  refine ⟨⟨fun key hkey => ?_, fairPlaces_awardPlaces h.fair h.active, fun key row hrow hkey => ?_⟩,
    fun u seasonID row hrow => ?_, ⟨fun u r => ?_, fun u row hrow hguest => ?_, fun key state hstate => ?_⟩⟩
  · exact (hback key hkey).elim (h.users key) fun hu => hu
  · rw [hactive] at hkey
    refine hC key row ?_ hkey
    rw [← hother key fun h' => hsame (h'.2.symm.trans hkey.2)]
    exact hrow
  · rw [← hrow]
    exact hother _ (h.active _ row hrow)
  · exact (holds_awardPlaces h.active u r).trans
      (mem_places_iff h.users (orActive_activeSeasonID w.db) u r)
  · rw [hactive]
    exact hall u row hrow hguest
  · exact hold key state hstate

theorem step (h : Inv w) (hC : NewSeason w a) (hs : w.step a = some w') :
    Inv w' ∧ PlacesStay w w' ∧ ∀ nextSeasonID, a = .rollover nextSeasonID → SeasonEnds w w' := by
  cases a with
  | rollover nextSeasonID =>
      simp only [World.step] at hs
      split at hs
      · rename_i hrollover
        obtain rfl := Option.some.inj hs
        obtain ⟨hinv, hstay, hends⟩ := h.rollover hC hrollover
        exact ⟨hinv, hstay, fun _ _ => hends⟩
      · cases hs
  | setUser userID row =>
      obtain rfl := Option.some.inj hs
      refine ⟨⟨fun key hkey => ?_, h.fair, h.active⟩, fun _ _ _ hrow => hrow, fun _ heq => by cases heq⟩
      exact (AList.mem_insert _).2 (.inr (h.users key hkey))
  | rate key state =>
      simp only [World.step] at hs
      split_ifs at hs with huser
      obtain rfl := Option.some.inj hs
      refine ⟨⟨fun key' hkey => ?_, h.fair, h.active⟩, fun _ _ _ hrow => hrow, fun _ heq => by cases heq⟩
      rcases (AList.mem_insert _).1 hkey with rfl | hkey
      · exact huser
      · exact h.users key' hkey
  | award key rank =>
      simp only [World.step] at hs
      split_ifs at hs with hcode
      obtain rfl := Option.some.inj hs
      have hsame : ∀ u seasonID, (w.db.badges.award w.clock key rank).lookup
          ⟨u, badgeCodeSeasonRank, seasonID⟩ = w.db.badges.lookup ⟨u, badgeCodeSeasonRank, seasonID⟩ := by
        intro u seasonID
        rw [lookup_award, if_neg, Option.or_none]
        rintro rfl
        exact hcode rfl
      exact ⟨h.of_badges hsame, fun u seasonID row hrow => (hsame u seasonID).trans hrow,
        fun _ heq => by cases heq⟩
  | removeTeam userID =>
      obtain rfl := Option.some.inj hs
      have hsame : ∀ u seasonID, (w.db.badges.filter fun k _ =>
          ¬ (k.userID = userID ∧ k.code = badgeCodeGeoDuelsTeam)).lookup
          ⟨u, badgeCodeSeasonRank, seasonID⟩ = w.db.badges.lookup ⟨u, badgeCodeSeasonRank, seasonID⟩ := by
        intro u seasonID
        have hcode : badgeCodeSeasonRank ≠ badgeCodeGeoDuelsTeam := by decide
        rw [Assoc.lookup_filter]
        cases w.db.badges.lookup ⟨u, badgeCodeSeasonRank, seasonID⟩ with
        | none => rfl
        | some row => simp [hcode]
      exact ⟨h.of_badges hsame, fun u seasonID row hrow => (hsame u seasonID).trans hrow,
        fun _ heq => by cases heq⟩
  | wait d =>
      obtain rfl := Option.some.inj hs
      exact ⟨⟨h.users, h.fair, h.active⟩, fun _ _ _ hrow => hrow, fun _ heq => by cases heq⟩

end Inv

/-- In every run in which no season starts whose places have been given: each place of a season has one
holder, it is the place that the leaderboard lists for him when the season ends, and it stays his. -/
theorem places_of_newSeasons (db : DB) (t : ℕ) (husers : ∀ key ∈ db.ranks, key.userID ∈ db.users)
    (hbadges : ∀ key ∈ db.badges, key.code ≠ badgeCodeSeasonRank) (acts : List Act)
    (hC : Run.Guarded World.step NewSeason ⟨db, t⟩ acts) :
    Run.Always World.step (fun w => FairPlaces w.db.badges) ⟨db, t⟩ acts ∧
      Run.Along World.step (fun w a w' => PlacesStay w w' ∧
        ∀ nextSeasonID, a = .rollover nextSeasonID → SeasonEnds w w') ⟨db, t⟩ acts := by
  have hnone : ∀ key row, db.badges.lookup key = some row → key.code ≠ badgeCodeSeasonRank :=
    fun key row hrow => hbadges key (Assoc.mem_iff_exists.2 ⟨row, hrow⟩)
  have hstart : Inv ⟨db, t⟩ := by
    refine ⟨husers, fun seasonID => ⟨0, Nat.zero_le _, fun u row hrow => ?_, fun r h1 h0 => ?_⟩,
      fun key row hrow hkey => hnone key row hrow hkey.1⟩
    · exact absurd rfl (hnone _ row hrow)
    · omega
  exact ⟨(Run.always_of_invariant (fun _ _ _ h hC hs => (h.step hC hs).1) hstart hC).mono fun _ h => h.fair,
    Run.along_of_invariant (fun w a w' (h : Inv w) (hC : NewSeason w a) (hs : w.step a = some w') =>
      h.step hC hs) hstart hC⟩

/-- Two seasons of the players of the first one; the second player overtakes the first one. -/
def twoSeasons : List Act :=
  [.rollover " s2.5", .rate ⟨"a", "duel", "s2.5"⟩ ⟨600, 220, 9⟩, .setUser "c" {},
    .rate ⟨"c", "duel", "s2"⟩ ⟨900, 220, 9⟩, .rollover "s3"]

theorem places_of_newSeasons_twoSeasons :
    (Run.Always World.step (fun w => FairPlaces w.db.badges) ⟨threePlayers, 5⟩ twoSeasons ∧
        Run.Along World.step (fun w a w' => PlacesStay w w' ∧
          ∀ nextSeasonID, a = .rollover nextSeasonID → SeasonEnds w w') ⟨threePlayers, 5⟩ twoSeasons) ∧
      (Run.exec World.step ⟨threePlayers, 5⟩ twoSeasons).map (fun w =>
        w.db.badges.entries.map fun e => (e.1.userID, e.1.seasonID, e.2.rank)) =
        some [("c", "s2.5", some 3), ("b", "s2.5", some 2), ("a", "s2.5", some 1), ("a", "s2", some 2),
          ("b", "s2", some 1)] := by
  refine ⟨places_of_newSeasons threePlayers 5 (fun key hkey => ?_) (fun key hkey => ?_) twoSeasons
    (by decide +kernel), by decide +kernel⟩
  · have hall : ∀ key ∈ threePlayers.ranks.keys, key.userID ∈ threePlayers.users := by decide +kernel
    exact hall key hkey
  · exact absurd hkey List.not_mem_nil

end GeoDuels.Seasons
