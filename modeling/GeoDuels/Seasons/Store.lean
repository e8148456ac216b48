import GeoDuels.Badges.Store
import GeoDuels.Ratings.Store

/-!
# Ranked seasons

The leaderboard of a season, which `ListLeaderboard` gives in pages and `GetLeaderboardOverview` with the rank
of one player, and `RolloverRankedSeason`, which ends a season: the first hundred of its leaderboard
get a badge with their place, and everyone starts into the next season with a rating of his own.  The
emails, roles and statistics of all seasons are left out, as nothing here reads them.
-/

namespace GeoDuels.Seasons

open Badges (SeasonID BadgeKey badgeCodeSeasonRank)
open Persistence (trim)
open Ratings (initialMMR StatsRow)
open Rating (initialRatingRD)

def modeDuel : String := "duel"
def defaultSeasonID : SeasonID := "s2"

/-! ## Rows -/

/-- `users`. -/
structure UserRow where
  displayName : Option String := none
  avatarURL : Option String := none
  guest : Bool := false
  bannedAt : Option ℕ := none
  deriving DecidableEq

/-- The first Google identity of a user, in `user_identities`. -/
structure GoogleRow where
  providerName : Option String := none
  avatarURL : Option String := none
  deriving DecidableEq

structure RankKey where
  userID : UserID
  mode : String
  seasonID : SeasonID
  deriving DecidableEq

structure DB where
  users : Assoc UserID UserRow := ∅
  google : Assoc UserID GoogleRow := ∅
  ranks : Assoc RankKey Rating.State := ∅
  rankedStats : Assoc RankKey StatsRow := ∅
  badges : Badges.Table := ∅
  /-- The setting `ranked_season`, and its season if it can be decoded. -/
  rankedSeason : Option (Option SeasonID) := none

def DB.activeSeasonID (db : DB) : SeasonID :=
  match db.rankedSeason with
  | some (some activeSeasonID) => if trim activeSeasonID = "" then defaultSeasonID else trim activeSeasonID
  | _ => defaultSeasonID

/-! ## The leaderboard -/

abbrev Entry := Σ _ : RankKey, Rating.State

/-- `order by r.mmr desc, r.updated_at asc, r.user_id asc`. -/
def Before (e e' : Entry) : Prop :=
  e'.2.mmr < e.2.mmr ∨ e'.2.mmr = e.2.mmr ∧
    (e.2.updatedAt < e'.2.updatedAt ∨ e.2.updatedAt = e'.2.updatedAt ∧ e.1.userID ≤ e'.1.userID)

instance : DecidableRel Before := fun _ _ => inferInstanceAs (Decidable (_ ∨ _ ∧ (_ ∨ _ ∧ _)))

/-- `coalesce(u.account_type, 'registered') <> 'guest' and u.banned_at is null`, after a left join. -/
def DB.listed (db : DB) (userID : UserID) : Bool :=
  (db.users.lookup userID).all fun u => !u.guest && u.bannedAt.isNone

/-- The rows of a leaderboard in order, with `row_number()`. -/
def DB.ranked (db : DB) (mode : String) (seasonID : SeasonID) : List (Entry × ℕ) :=
  ((db.ranks.entries.filter fun e =>
    e.1.mode = mode ∧ e.1.seasonID = seasonID ∧ db.listed e.1.userID).insertionSort Before).zipIdx 1

structure LeaderboardEntry where
  rank : ℕ
  userID : UserID
  displayName : String
  avatarURL : String
  mmr : ℤ
  gamesPlayed : ℕ
  wins : ℕ
  deriving DecidableEq

/-- `coalesce(nullif(u.display_name, r.user_id), ui.provider_name, r.user_id)`. -/
def DB.displayName (db : DB) (userID : UserID) : String :=
  let own := ((db.users.lookup userID).bind (·.displayName)).filter (· ≠ userID)
  (own.or ((db.google.lookup userID).bind (·.providerName))).getD userID

/-- `coalesce(u.avatar_url, ui.avatar_url, '')`. -/
def DB.avatarURL (db : DB) (userID : UserID) : String :=
  (((db.users.lookup userID).bind (·.avatarURL)).or ((db.google.lookup userID).bind (·.avatarURL))).getD ""

def DB.leaderboardEntry (db : DB) (row : Entry × ℕ) : LeaderboardEntry where
  rank := row.2
  userID := row.1.1.userID
  displayName := db.displayName row.1.1.userID
  avatarURL := db.avatarURL row.1.1.userID
  mmr := row.1.2.mmr
  gamesPlayed := ((db.rankedStats.lookup row.1.1).map (·.gamesPlayed)).getD 0
  wins := ((db.rankedStats.lookup row.1.1).map (·.wins)).getD 0

def orDuel (mode : String) : String := if mode = "" then modeDuel else mode

def DB.orActive (db : DB) (seasonID : SeasonID) : SeasonID :=
  if seasonID = "" then db.activeSeasonID else seasonID

def DB.listLeaderboard (db : DB) (mode : String) (seasonID : SeasonID) (limit offset : ℤ) :
    List LeaderboardEntry :=
  let limit := if limit ≤ 0 then 100 else limit
  let limit := if limit > 200 then 200 else limit
  let offset := if offset < 0 then 0 else offset
  (((db.ranked (orDuel mode) (db.orActive seasonID)).drop offset.toNat).take limit.toNat).map
    db.leaderboardEntry

structure LeaderboardOverview where
  mode : String
  seasonID : SeasonID
  selfRank : ℕ
  totalPlayers : ℕ
  entries : List LeaderboardEntry

def DB.getLeaderboardOverview (db : DB) (userID : UserID) (mode : String) (seasonID : SeasonID)
    (limit : ℤ) : LeaderboardOverview :=
  let mode := orDuel mode
  let limit := if limit ≤ 0 then 10 else limit
  let limit := if limit > 100 then 100 else limit
  let entries := db.listLeaderboard mode seasonID limit 0
  let seasonID := db.orActive seasonID
  let ranked := db.ranked mode seasonID
  { mode, seasonID, entries
    selfRank := ((ranked.filter fun row => row.1.1.userID = userID).map Prod.snd).foldl max 0
    totalPlayers := ranked.length }

/-! ## The end of a season -/

/-- The ended season's places; here the users are joined in. -/
def DB.places (db : DB) (seasonID : SeasonID) : List (UserID × ℕ) :=
  let ranked := ((db.ranks.entries.filter fun e =>
    e.1.mode = modeDuel ∧ e.1.seasonID = seasonID ∧
      (db.users.lookup e.1.userID).any fun u => !u.guest && u.bannedAt.isNone).insertionSort Before).zipIdx 1
  (ranked.filter fun row => row.2 ≤ 100).map fun row => (row.1.1.userID, row.2)

def DB.awardPlaces (db : DB) (now : ℕ) (seasonID : SeasonID) : Badges.Table :=
  (db.places seasonID).foldl
    (fun badges p => badges.award now ⟨p.1, badgeCodeSeasonRank, seasonID⟩ (some p.2)) db.badges

/-- `insert … select … from users … on conflict do nothing`, over those who are no guests. -/
def DB.seed {V : Type} (db : DB) (seasonID : SeasonID) (v : V) (rows : Assoc RankKey V) : Assoc RankKey V :=
  ((db.users.filter fun _ u => !u.guest).keys).foldl
    (fun rows userID =>
      if (⟨userID, modeDuel, seasonID⟩ : RankKey) ∈ rows then rows
      else rows.insert ⟨userID, modeDuel, seasonID⟩ v) rows

structure RankedSeasonRolloverResult where
  previousSeasonID : SeasonID
  activeSeasonID : SeasonID
  badgesAwarded : ℕ
  playersSeeded : ℕ

def DB.rolloverRankedSeason (db : DB) (now : ℕ) (nextSeasonID : SeasonID) :
    Except String (RankedSeasonRolloverResult × DB) :=
  let nextSeasonID := trim nextSeasonID
  if nextSeasonID = "" then .error "season id required"
  else
    let previousSeasonID := db.activeSeasonID
    if previousSeasonID = nextSeasonID then .error "season is already active"
    else
      let badges := db.awardPlaces now previousSeasonID
      let ranks := db.seed nextSeasonID ⟨initialMMR, initialRatingRD, now⟩ db.ranks
      let rankedStats := db.seed nextSeasonID {} db.rankedStats
      .ok
        (⟨previousSeasonID, nextSeasonID, badges.entries.length - db.badges.entries.length,
            ranks.entries.length - db.ranks.entries.length⟩,
          { db with
            badges := badges, ranks := ranks, rankedStats := rankedStats,
            rankedSeason := some (some nextSeasonID) })

end GeoDuels.Seasons
