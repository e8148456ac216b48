import GeoDuels.Coordinator.Store
import GeoDuels.Decimal

/-!
# The match of a lobby

What `startLobby` makes of an open lobby: the checks of `lobbyMatchFound` and the `MatchFound` that it
builds.  Of a lobby and its members only what goes into the match is kept.
-/

namespace GeoDuels.MatchCoordinator

open Coordinator

inductive LobbyState where
  | open_ | inMatch | started | closed | expired
  deriving DecidableEq

structure LobbyMember where
  userID : UserID
  displayName : String := ""
  avatarURL : String := ""
  isGuest : Bool := false
  isAdmin : Bool := false
  selectedBadge : Option PlayerBadge := none
  teamID : TeamID := ""

structure LobbySnapshot where
  id : String
  inviteCode : String := ""
  state : LobbyState
  mode : MatchMode
  mapScope : String := ""
  config : MatchConfig := {}
  members : List LobbyMember

def normalizeLobbyTeam (teamID : TeamID) : TeamID :=
  if (trimSpace teamID).map Char.toLower = ['b'] then "b" else "a"

def defaultLobbyMapScope (v : String) : String := if isBlank v then "world" else v

/-- The digits and small letters of `strconv.FormatInt`. -/
def digit36 (d : ℕ) : Char := if d < 10 then Char.ofNat (48 + d) else Char.ofNat (87 + d)

/-- The time in nanoseconds, to the base 36. -/
def strconvTimeID (now : ℕ) : String :=
  if now = 0 then "0" else String.ofList ((Nat.digits 36 now).reverse.map digit36)

/-- The profile of a member, with what `GetProfile` knows of the user. -/
def lobbyProfile (member : LobbyMember) (profile : Option PlayerProfile) : PlayerProfile :=
  let player : PlayerProfile :=
    { userID := member.userID
      displayName := member.displayName
      avatarURL := member.avatarURL
      isGuest := member.isGuest
      isAdmin := member.isAdmin
      selectedBadge := member.selectedBadge }
  match profile with
  | none => player
  | some p =>
      { player with
        mmr := p.mmr
        ratingRD := p.ratingRD
        rankedGamesPlayed := p.rankedGamesPlayed
        selectedBadge := p.selectedBadge }

/-- What the mode of the lobby asks of its active members. -/
def checkLobbyMode (mode : MatchMode) (active : List LobbyMember) : Except String Unit :=
  match mode with
  | .duel =>
      if active.length ≠ 2 then .error "duel lobby requires exactly two players" else .ok ()
  | .teamDuel =>
      let teams := active.map fun member => normalizeLobbyTeam member.teamID
      if "a" ∉ teams ∨ "b" ∉ teams then .error "team duel requires players on both teams"
      else .ok ()
  | .freeForAll => .ok ()
  | _ => .error "unsupported lobby mode"

/-- The match that `lobbyMatchFound` builds for the active members. -/
def lobbyMatch (snap : LobbySnapshot) (active : List LobbyMember)
    (getProfile : UserID → Option PlayerProfile) (now : ℕ) : MatchFound where
  matchID := "m-" ++ strconvTimeID now
  mode := snap.mode
  unranked := true
  players := active.map (·.userID)
  profiles := active.foldl
    (fun z member => z.insert member.userID (lobbyProfile member (getProfile member.userID))) ∅
  teams :=
    if snap.mode = .teamDuel then
      active.foldl (fun z member => z.insert member.userID (normalizeLobbyTeam member.teamID)) ∅
    else ∅
  config := normalizeMatchConfig snap.config
  mapScope := defaultLobbyMapScope snap.mapScope
  sourceLobbyID := snap.id
  sourceLobbyInviteCode := snap.inviteCode

/-- `lobbyMatchFound` at the time `now`, for the profiles that `GetProfile` returns. -/
def lobbyMatchFound (snap : LobbySnapshot) (getProfile : UserID → Option PlayerProfile) (now : ℕ) :
    Except String MatchFound :=
  let active := snap.members.filter (!isBlank ·.userID)
  if snap.state ≠ .open_ then .error "lobby is not open"
  else if active.length < 2 ∨ 8 < active.length then .error "lobby requires 2 to 8 players"
  else (checkLobbyMode snap.mode active).map fun _ => lobbyMatch snap active getProfile now

/-- What a match has that a lobby or the matchmaker has made. -/
structure Playable (found : MatchFound) : Prop where
  matchID : found.matchID ≠ ""
  mode : isPrivatePartyMode found.mode
  players : found.players ≠ []

theorem isPrivatePartyMode_of_checkLobbyMode {mode : MatchMode} {active : List LobbyMember} {x : Unit}
    (h : checkLobbyMode mode active = .ok x) : isPrivatePartyMode mode := by
  cases mode with
  | duel | teamDuel | freeForAll => rfl
  | unset | singleplayer | other => cases h

theorem playable_of_lobbyMatchFound {snap : LobbySnapshot}
    {getProfile : UserID → Option PlayerProfile} {now : ℕ} {found : MatchFound}
    (h : lobbyMatchFound snap getProfile now = .ok found) :
    Playable found ∧ ∀ u ∈ found.players, isBlank u = false := by
  unfold lobbyMatchFound at h
  dsimp only at h
  split_ifs at h with hopen hlength
  cases hmode : checkLobbyMode snap.mode (snap.members.filter (!isBlank ·.userID)) with
  | error err => rw [hmode] at h; cases h
  | ok x =>
      rw [hmode] at h
      obtain rfl := Except.ok.inj h
      refine ⟨⟨fun hid => ?_, isPrivatePartyMode_of_checkLobbyMode hmode, fun hnil => ?_⟩,
        fun u hu => ?_⟩
      · have hchars := congrArg String.toList hid
        simp [lobbyMatch] at hchars
      · have hempty := List.map_eq_nil_iff.1 hnil
        rw [hempty] at hlength
        exact hlength (.inl (by simp))
      · obtain ⟨member, hmember, rfl⟩ := List.mem_map.1 hu
        simpa using (List.mem_filter.1 hmember).2

end GeoDuels.MatchCoordinator
