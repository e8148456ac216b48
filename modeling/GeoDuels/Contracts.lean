import GeoDuels.Lib.Assoc
import GeoDuels.Clock
import GeoDuels.GoMath

/-!
# Contracts

The data types of `pkg/contracts` that the engines, the queue and the launcher exchange, with
`NormalizeMatchConfig` and `ClientSnapshotForPlayer`.  Enumerations that the source represents by strings keep a constructor for
the empty string (`unset`) and one for any other string (`other`).  The `float64` of a guess can be any
(`Float64`), the others are finite and rationals.
-/

namespace GeoDuels

abbrev UserID := String
abbrev MatchID := String
abbrev RoundID := String
abbrev TeamID := String

structure LocationPoint where
  lat : ℚ
  lng : ℚ
  country : String := ""
  panoID : Option String := none
  heading : Option ℚ := none
  pitch : Option ℚ := none
  deriving DecidableEq

structure GuessPayload where
  userID : UserID
  matchID : MatchID
  roundID : RoundID
  lat : Float64
  lng : Float64
  finalize : Bool

structure PlayerBadge where
  id : String
  kind : String
  label : String
  description : String
  imageURL : String
  seasonID : String
  rank : ℤ
  owned : Bool
  deriving DecidableEq

structure PlayerProfile where
  userID : UserID := ""
  displayName : String := ""
  mmr : ℤ := 0
  ratingRD : ℚ := 0
  rankedGamesPlayed : ℤ := 0
  avatarURL : String := ""
  isGuest : Bool := false
  isAdmin : Bool := false
  selectedBadge : Option PlayerBadge := none
  deriving DecidableEq

/-! ## Modes and match configuration -/

inductive MatchMode where
  | unset | duel | singleplayer | teamDuel | freeForAll
  | other (name : String)
  deriving DecidableEq

def isPrivatePartyMode (mode : MatchMode) : Bool :=
  mode == .duel || mode == .teamDuel || mode == .freeForAll

inductive GameRuleset where
  | moving | nmpz
  | other (name : String)
  deriving DecidableEq

inductive RoundTimerMode where
  | unset | none | pressure | fixed
  | other (name : String)
  deriving DecidableEq

def mapKeyMoving : String := "a-source-world"
def mapKeyNMPZ : String := "a-location-world"
def defaultFixedRoundTimeMS : ℤ := 45000
def minimumFixedRoundTimeMS : ℤ := 10000
def maximumFixedRoundTimeMS : ℤ := 120000
def defaultPressureTimeMS : ℤ := 15000

structure MatchConfig where
  ruleset : GameRuleset := .other ""
  mapKey : String := ""
  roundTimerMode : RoundTimerMode := .unset
  roundTimeLimitMS : ℤ := 0
  pressureTimeLimitMS : ℤ := 0
  deriving DecidableEq

def normalizeRuleset : GameRuleset → GameRuleset
  | .nmpz => .nmpz
  | _ => .moving

def mapKeyForRuleset (ruleset : GameRuleset) : String :=
  if normalizeRuleset ruleset = .nmpz then mapKeyNMPZ else mapKeyMoving

/-- The round time of the fixed timer: a missing one gets the default, the others are clamped. -/
def normalizeFixedRoundTime (ms : ℤ) : ℤ :=
  let ms := if ms ≤ 0 then defaultFixedRoundTimeMS else ms
  let ms := if ms < minimumFixedRoundTimeMS then minimumFixedRoundTimeMS else ms
  if ms > maximumFixedRoundTimeMS then maximumFixedRoundTimeMS else ms

def normalizeMatchConfig (cfg : MatchConfig) : MatchConfig :=
  let ruleset := normalizeRuleset cfg.ruleset
  let mapKey := if cfg.mapKey = "" then mapKeyForRuleset ruleset else cfg.mapKey
  let pressure :=
    match cfg.roundTimerMode with
    | .unset | .pressure =>
        if cfg.pressureTimeLimitMS ≤ 0 then defaultPressureTimeMS else cfg.pressureTimeLimitMS
    | _ => cfg.pressureTimeLimitMS
  { ruleset := ruleset
    mapKey := mapKey
    -- the pressure timer is no timer mode of its own: it is a limit next to `none` or `fixed`
    roundTimerMode := if cfg.roundTimerMode = .fixed then .fixed else .none
    roundTimeLimitMS :=
      if cfg.roundTimerMode = .fixed then normalizeFixedRoundTime cfg.roundTimeLimitMS else 0
    pressureTimeLimitMS := if pressure ≠ defaultPressureTimeMS then 0 else pressure }

/-! ## Match states and snapshots -/

inductive MatchState where
  | waiting | live | ended
  deriving DecidableEq

inductive MatchPhase where
  | live | roundResult | ended
  deriving DecidableEq

inductive RoundPhase where
  | intro | live | result | transition | ended
  deriving DecidableEq

structure RoundState where
  roundID : RoundID
  roundNumber : ℕ
  roundDeadline : ℕ
  timerStarted : Bool
  location : LocationPoint

structure PlayerState where
  userID : UserID
  displayName : String
  mmr : ℤ
  ratingRD : ℚ
  rankedGamesPlayed : ℤ
  avatarURL : String
  isGuest : Bool
  isAdmin : Bool
  selectedBadge : Option PlayerBadge
  teamID : TeamID := ""
  hp : ℤ := 0
  totalScore : ℤ := 0
  finalized : Bool := false
  lastGuessLat : Float64 := 0
  lastGuessLng : Float64 := 0
  hasGuess : Bool := false
  disconnected : Bool := false
  disconnectDue : ℤ := 0
  deriving DecidableEq

structure TeamState where
  teamID : TeamID
  name : String
  hp : ℤ
  players : List UserID
  deriving DecidableEq

structure RatingDeltaPreview where
  win : ℤ
  lose : ℤ
  draw : ℤ

structure RoundPlayerResult where
  userID : UserID
  lat : Float64
  lng : Float64
  distanceKm : Float64
  score : ℤ
  damageDealt : ℤ := 0
  damageTaken : ℤ := 0
  hpAfterRound : ℤ
  guessUnixMS : ℤ
  guessMS : ℤ

structure RoundTeamResult where
  teamID : TeamID := ""
  representativeUserID : UserID := ""
  lat : Float64 := 0
  lng : Float64 := 0
  distanceKm : Float64 := 0
  score : ℤ := 0
  damageDealt : ℤ := 0
  damageTaken : ℤ := 0
  hpAfterRound : ℤ := 0

structure RoundResult where
  roundID : RoundID
  roundNumber : ℕ
  actualLocation : LocationPoint
  players : Assoc UserID RoundPlayerResult
  teams : Assoc TeamID RoundTeamResult := ∅

structure MatchSnapshot where
  matchID : MatchID
  mode : MatchMode
  seasonID : String := ""
  config : MatchConfig := {}
  unranked : Bool := false
  state : MatchState
  phase : MatchPhase
  roundPhase : RoundPhase
  phaseStartedAt : ℤ
  phaseEndsAt : ℤ
  currentRound : Option RoundState
  lastRoundResult : Option RoundResult
  roundResults : List RoundResult
  roundMSLeft : ℤ
  players : Assoc UserID PlayerState
  teams : Assoc TeamID TeamState := ∅
  ratingPreview : Assoc UserID RatingDeltaPreview := ∅
  eventSequence : ℕ
  serverUnixMS : ℤ
  graceWindowSec : ℤ

/-! ## What a client sees of a match -/

structure ClientGuessPoint where
  lat : Float64
  lng : Float64
  deriving DecidableEq

structure ClientPlayerState where
  userID : UserID
  displayName : String
  mmr : ℤ
  ratingRD : ℚ
  rankedGamesPlayed : ℤ
  avatarURL : String
  isGuest : Bool
  isAdmin : Bool
  selectedBadge : Option PlayerBadge
  teamID : TeamID
  hp : ℤ
  totalScore : ℤ
  finalized : Bool
  disconnected : Bool
  disconnectDue : ℤ

structure ClientSelfState where
  userID : UserID
  currentGuess : Option ClientGuessPoint
  deriving DecidableEq

structure ClientRoundLocation where
  panoID : Option String
  heading : Option ℚ
  pitch : Option ℚ

structure ClientRoundState where
  roundID : RoundID
  roundNumber : ℕ
  roundDeadline : ℕ
  timerStarted : Bool
  location : ClientRoundLocation

structure ClientMatchSnapshot where
  matchID : MatchID
  mode : MatchMode
  config : MatchConfig
  unranked : Bool
  state : MatchState
  phase : MatchPhase
  roundPhase : RoundPhase
  phaseStartedAt : ℤ
  phaseEndsAt : ℤ
  currentRound : Option ClientRoundState
  lastRoundResult : Option RoundResult
  roundResults : List RoundResult
  roundMSLeft : ℤ
  players : Assoc UserID ClientPlayerState
  teams : Assoc TeamID TeamState
  self : Option ClientSelfState
  ratingPreview : Assoc UserID RatingDeltaPreview
  eventSequence : ℕ
  serverUnixMS : ℤ
  graceWindowSec : ℤ

def clientRoundState (round : RoundState) : ClientRoundState where
  roundID := round.roundID
  roundNumber := round.roundNumber
  roundDeadline := round.roundDeadline
  timerStarted := round.timerStarted
  location :=
    { panoID := round.location.panoID
      heading := round.location.heading
      pitch := round.location.pitch }

def clientSelfState (snap : MatchSnapshot) (player : PlayerState) : ClientSelfState where
  userID := player.userID
  currentGuess :=
    if snap.phase = .live ∧ snap.roundPhase = .live ∧ player.hasGuess then
      some ⟨player.lastGuessLat, player.lastGuessLng⟩
    else none

/-- A player without the point of his guess. -/
def clientPlayerState (player : PlayerState) : ClientPlayerState where
  userID := player.userID
  displayName := player.displayName
  mmr := player.mmr
  ratingRD := player.ratingRD
  rankedGamesPlayed := player.rankedGamesPlayed
  avatarURL := player.avatarURL
  isGuest := player.isGuest
  isAdmin := player.isAdmin
  selectedBadge := player.selectedBadge
  teamID := player.teamID
  hp := player.hp
  totalScore := player.totalScore
  finalized := player.finalized
  disconnected := player.disconnected
  disconnectDue := player.disconnectDue

/-- The snapshot as the user may see it: no point of a guess but his own, and no place of the
current round. -/
def clientSnapshotForPlayer (snap : MatchSnapshot) (userID : UserID) : ClientMatchSnapshot where
  matchID := snap.matchID
  mode := snap.mode
  config := normalizeMatchConfig snap.config
  unranked := snap.unranked
  state := snap.state
  phase := snap.phase
  roundPhase := snap.roundPhase
  phaseStartedAt := snap.phaseStartedAt
  phaseEndsAt := snap.phaseEndsAt
  currentRound := snap.currentRound.map clientRoundState
  lastRoundResult := snap.lastRoundResult
  roundResults := snap.roundResults
  roundMSLeft := snap.roundMSLeft
  players := Assoc.mapVals (fun _ => clientPlayerState) snap.players
  teams := snap.teams
  self := (snap.players.lookup userID).map (clientSelfState snap)
  ratingPreview := snap.ratingPreview
  eventSequence := snap.eventSequence
  serverUnixMS := snap.serverUnixMS
  graceWindowSec := snap.graceWindowSec

/-! ## Launching a match -/

/-- What the matchmaker and the lobby hand to the launcher, and the launcher to a node. -/
structure MatchFound where
  matchID : MatchID
  mode : MatchMode := .unset
  seasonID : String := ""
  config : MatchConfig := {}
  unranked : Bool := false
  players : List UserID
  profiles : Assoc UserID PlayerProfile := ∅
  teams : Assoc UserID TeamID := ∅
  mapScope : String := ""
  sourceLobbyID : String := ""
  sourceLobbyInviteCode : String := ""
  deriving DecidableEq

end GeoDuels
