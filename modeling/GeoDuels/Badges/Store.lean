import GeoDuels.Lib.Run
import GeoDuels.Persistence.Spec
import Mathlib.Data.String.Basic

/-!
# Badges

`user_badges` with its awards, the badge that a player selects, and the two ways in which
`pkg/persistence` finds the badge to show: `profileBadges` for one player and `selectedLobbyBadges` for the
members of a lobby.  The column pair of the selected badge holds a code and a season, and the clients
know badges by their ids.
-/

namespace GeoDuels.Badges

open Persistence (trim)

abbrev SeasonID := String

def badgeCodeDiscordMember : ℕ := 1
def badgeCodeGeoDuelsTeam : ℕ := 2
def badgeCodeSeasonRank : ℕ := 10

/-! ## Text -/

/-- `strings.TrimPrefix`. -/
def trimPrefix (s : String) (start : String) : String :=
  if start.toList.isPrefixOf s.toList then String.ofList (s.toList.drop start.toList.length) else s

/-- `strings.TrimSuffix`. -/
def trimSuffix (s : String) (finish : String) : String :=
  if finish.toList.isSuffixOf s.toList then
    String.ofList (s.toList.take (s.toList.length - finish.toList.length))
  else s

/-! ## Ids -/

structure BadgeRef where
  code : ℕ := 0
  seasonID : SeasonID := ""
  deriving DecidableEq

def seasonRankBadgeID (seasonID : SeasonID) : String := "season-" ++ trim seasonID ++ "-top-100"

def badgeRefFromID (id : String) : Option BadgeRef :=
  let id := trim id
  if id = "" then some {}
  else if id = "discord-member" then some { code := badgeCodeDiscordMember }
  else if id = "geoduels-team" then some { code := badgeCodeGeoDuelsTeam }
  else if "season-".toList.isPrefixOf id.toList && "-top-100".toList.isSuffixOf id.toList then
    let seasonID := trimSuffix (trimPrefix id "season-") "-top-100"
    if trim seasonID = "" then none else some { code := badgeCodeSeasonRank, seasonID := seasonID }
  else none

def badgeIDFromParts (code : ℕ) (seasonID : SeasonID) : String :=
  if code = badgeCodeDiscordMember then "discord-member"
  else if code = badgeCodeGeoDuelsTeam then "geoduels-team"
  else if code = badgeCodeSeasonRank ∧ trim seasonID ≠ "" then seasonRankBadgeID seasonID
  else ""

-- `strings.ToUpper`, which knows the letters of all scripts
variable (toUpper : String → String)

def seasonBadgeDisplayName (seasonID : SeasonID) : String :=
  if trim seasonID = "s2" then "Season 1"
  else if trim seasonID = "s2.5" then "Season 2"
  else
    let value := trimPrefix (trim seasonID) "s"
    if value = "" then "Season" else "Season " ++ toUpper value

def discordMemberBadge (owned : Bool) : PlayerBadge where
  id := "discord-member"
  kind := "community"
  label := "Discord Member"
  description := "Awarded for linking Discord to your GeoDuels account."
  imageURL := "/medals/discord-medal.v1.png"
  seasonID := ""
  rank := 0
  owned := owned

def seasonRankBadgeTemplate (seasonID : SeasonID) : PlayerBadge where
  id := seasonRankBadgeID seasonID
  kind := "season_rank"
  label := seasonBadgeDisplayName toUpper seasonID ++ " Top 100"
  description :=
    "Awarded to players who finish in the top 100 when " ++ seasonBadgeDisplayName toUpper seasonID ++ " ends."
  imageURL := "/medals/platinum-medal.v1.png"
  seasonID := seasonID
  rank := 0
  owned := false

/-- The badge of a row; `none` where the source says that it is no badge. -/
def badgeFromParts (code : ℕ) (seasonID : SeasonID) (rank : ℤ) (owned : Bool) : Option PlayerBadge :=
  if code = badgeCodeDiscordMember then some (discordMemberBadge owned)
  else if code = badgeCodeGeoDuelsTeam then
    some
      { id := "geoduels-team", kind := "special", label := "GeoDuels Team",
        description := "An exclusive medal for GeoDuels moderators and team members.",
        imageURL := "/medals/team-badge.v1.png", seasonID := "", rank := 0, owned := owned }
  else if code = badgeCodeSeasonRank then
    let badge := { seasonRankBadgeTemplate toUpper seasonID with rank := rank, owned := owned }
    let badge :=
      if owned = true ∧ 0 < rank then
        { badge with
          label := seasonBadgeDisplayName toUpper seasonID ++ " #" ++ toString rank
          description :=
            "Finished #" ++ toString rank ++ " in " ++ seasonBadgeDisplayName toUpper seasonID ++ "." }
      else badge
    if trim seasonID ≠ "" then some badge else none
  else none

/-! ## Rows -/

structure BadgeKey where
  userID : UserID
  code : ℕ
  seasonID : SeasonID := ""
  deriving DecidableEq

structure BadgeRow where
  rank : Option ℤ := none
  awardedAt : ℕ
  deriving DecidableEq

/-- `user_badges`. -/
abbrev Table := Assoc BadgeKey BadgeRow

abbrev Entry := Σ _ : BadgeKey, BadgeRow

/-- `order by ub.awarded_at desc, ub.badge_code asc, ub.badge_season_id asc`. -/
def Newer (e e' : Entry) : Prop :=
  e'.2.awardedAt < e.2.awardedAt ∨ e'.2.awardedAt = e.2.awardedAt ∧
    (e.1.code < e'.1.code ∨ e.1.code = e'.1.code ∧ e.1.seasonID ≤ e'.1.seasonID)

/-- `order by ub.user_id asc`, and then as for one player. -/
def ByUser (e e' : Entry) : Prop :=
  e.1.userID < e'.1.userID ∨ e.1.userID = e'.1.userID ∧ Newer e e'

instance : DecidableRel Newer := fun _ _ => inferInstanceAs (Decidable (_ ∨ _ ∧ (_ ∨ _ ∧ _)))

instance : DecidableRel ByUser := fun _ _ => inferInstanceAs (Decidable (_ ∨ _ ∧ _))

/-- The badge of a row, as its owner has it. -/
def Entry.badge (e : Entry) : Option PlayerBadge :=
  badgeFromParts toUpper e.1.code e.1.seasonID (e.2.rank.getD 0) true

/-- `insert into user_badges … on conflict (user_id, badge_code, badge_season_id) do nothing`. -/
def Table.award (badges : Table) (now : ℕ) (key : BadgeKey) (rank : Option ℤ) : Table :=
  if key ∈ badges then badges else badges.insert key { rank := rank, awardedAt := now }

/-! ## The badges of a player -/

/-- The rows of a player, in order. -/
def Table.rowsOf (badges : Table) (userID : UserID) : List Entry :=
  (badges.entries.filter fun e => e.1.userID = userID).insertionSort Newer

def seasonRankBadgeTemplates : List PlayerBadge :=
  [seasonRankBadgeTemplate toUpper "s2", seasonRankBadgeTemplate toUpper "s2.5"]

/-- The badges of a player and those that he could have, and the one to show. -/
def Table.profileBadges (badges : Table) (userID : UserID) (selectedBadgeID : String) :
    List PlayerBadge × Option PlayerBadge :=
  let owned := (badges.rowsOf userID).filterMap (Entry.badge toUpper)
  let hasDiscord := owned.any fun badge => badge.id = "discord-member"
  let ownedSeasonBadges := (owned.filter fun badge => badge.kind = "season_rank").map (·.id)
  let badges := owned ++ ((seasonRankBadgeTemplates toUpper).filter fun badge => badge.id ∉ ownedSeasonBadges) ++
    if hasDiscord then [] else [discordMemberBadge false]
  let selected := badges.find? fun badge => badge.id = selectedBadgeID ∧ badge.owned = true
  (badges, if selected = none then badges.find? (·.owned) else selected)

/-! ## The badges of the members of a lobby -/

/-- `out` and `fallback` of the loop. -/
structure LobbyBadges where
  out : Assoc UserID PlayerBadge := ∅
  fallback : Assoc UserID PlayerBadge := ∅

def LobbyBadges.add (selected : Assoc UserID String) (acc : LobbyBadges) (e : Entry) : LobbyBadges :=
  match e.badge toUpper with
  | none => acc
  | some badge =>
      let userID := e.1.userID
      { fallback :=
          if acc.fallback.lookup userID = none then acc.fallback.insert userID badge else acc.fallback
        out :=
          if acc.out.lookup userID = none ∧ badge.id = (selected.lookup userID).getD "" then
            acc.out.insert userID badge
          else acc.out }

def Table.selectedLobbyBadges (badges : Table) (selected : Assoc UserID String) :
    Assoc UserID PlayerBadge :=
  let userIDs := selected.keys.filter fun userID => trim userID ≠ ""
  let rows := (badges.entries.filter fun e => e.1.userID ∈ userIDs).insertionSort ByUser
  let acc := rows.foldl (LobbyBadges.add toUpper selected) {}
  acc.out ∪ acc.fallback

/-! ## Selecting a badge -/

/-- The check of `UpdateSelectedBadge`, with what it writes then. -/
def Table.checkBadge (badges : Table) (userID : UserID) (badgeID : String) :
    Except String (UserID × BadgeRef) :=
  let userID := trim userID
  let badgeID := trim badgeID
  if userID = "" then .error "user id required"
  else if badgeID ≠ "" ∧
      ¬ (badges.profileBadges toUpper userID badgeID).1.any fun badge => badge.id = badgeID ∧ badge.owned = true then
    .error "badge unavailable"
  else
    match badgeRefFromID badgeID with
    | none => if badgeID ≠ "" then .error "badge unavailable" else .ok (userID, {})
    | some ref => .ok (userID, ref)

end GeoDuels.Badges
