import GeoDuels.Contracts
import GeoDuels.Decimal
import GeoDuels.Gameplay

/-!
# The singleplayer engine

`pkg/singleplayer`: sessions of one player, who finalizes a guess and then advances to the next
round himself.  Nothing runs on a clock here: `Tick` does nothing.
-/

namespace GeoDuels.Singleplayer

def maxRounds : ℕ := 5

structure Guess where
  lat : Float64
  lng : Float64
  finalized : Bool
  ts : ℕ

structure Session where
  id : MatchID
  player : PlayerState
  currentLocation : LocationPoint
  currentIndex : ℕ := 0
  roundID : RoundID
  roundStartedAt : ℕ
  guess : Option Guess := none
  lastRoundResult : Option RoundResult := none
  roundResults : List RoundResult := []
  awaitingAdvance : Bool := false
  state : MatchState
  eventSeq : ℕ
  createdAt : ℕ
  lastActivity : ℕ

/-- The answers of the round provider. -/
abbrev RoundProvider := MatchID → ℕ → Except String LocationPoint

structure Engine where
  sessions : Assoc MatchID Session

/-- `New`: an engine without sessions. -/
def Engine.new : Engine := ⟨∅⟩

def roundID (matchID : MatchID) (round : ℕ) : RoundID := matchID ++ ":r" ++ strconv round

def newPlayer (profiles : Assoc UserID PlayerProfile) (playerID : UserID) : PlayerState :=
  let profile := (profiles.lookup playerID).getD {}
  { userID := playerID
    displayName := if profile.displayName = "" then playerID else profile.displayName
    mmr := profile.mmr
    ratingRD := profile.ratingRD
    rankedGamesPlayed := profile.rankedGamesPlayed
    avatarURL := profile.avatarURL
    isGuest := profile.isGuest
    isAdmin := profile.isAdmin
    selectedBadge := profile.selectedBadge }

def newSession (now : ℕ) (matchID : MatchID) (playerID : UserID)
    (profiles : Assoc UserID PlayerProfile) (firstRound : LocationPoint) : Session :=
  { id := matchID
    player := newPlayer profiles playerID
    currentLocation := firstRound
    roundID := roundID matchID 1
    roundStartedAt := now
    state := .live
    eventSeq := 1
    createdAt := now
    lastActivity := now }

def Engine.createMatch (clk : Clock) (roundProvider : Option RoundProvider) (matchID : MatchID)
    (playerIDs : List UserID) (profiles : Assoc UserID PlayerProfile) (e : Engine) :
    Except String (Session × Engine) :=
  match playerIDs with
  | [playerID] =>
      match roundProvider with
      | none => .error "round provider required"
      | some roundProvider =>
          match roundProvider matchID 0 with
          | .error err => .error err
          | .ok firstRound =>
              if matchID ∈ e.sessions then .error "match already exists"
              else
                let session := newSession (clk.read 0) matchID playerID profiles firstRound
                .ok (session, ⟨e.sessions.insert matchID session⟩)
  | _ => .error "singleplayer requires exactly one player"

/-! ## Rounds -/

def guessUnixMS (g : Guess) : ℤ := if Time.isZero g.ts then 0 else Time.unixMilli g.ts

def guessMS (g : Guess) (roundStartedAt : ℕ) : ℤ :=
  if Time.isZero g.ts ∨ Time.isZero roundStartedAt then 0
  else max 0 (Time.subMilliseconds g.ts roundStartedAt)

/-- Score the guess of the round and wait for the player to advance. -/
def Session.resolveRound (F : FloatMath) (now : ℕ) (s : Session) : Session :=
  match s.guess with
  | none => s
  | some guess =>
      let dist := Gameplay.clampDistanceKm
        (Gameplay.haversineKm F s.currentLocation.lat s.currentLocation.lng guess.lat guess.lng)
      let score := Gameplay.roundScore F dist
      let result : RoundResult :=
        { roundID := s.roundID
          roundNumber := s.currentIndex + 1
          actualLocation := s.currentLocation
          players := (∅ : Assoc UserID RoundPlayerResult).insert s.player.userID
            { userID := s.player.userID
              lat := guess.lat
              lng := guess.lng
              distanceKm := dist
              score := score
              hpAfterRound := 0
              guessUnixMS := guessUnixMS guess
              guessMS := guessMS guess s.roundStartedAt } }
      { s with
        player := { s.player with totalScore := s.player.totalScore + score, finalized := false }
        lastRoundResult := some result
        roundResults := s.roundResults ++ [result]
        guess := none
        awaitingAdvance := true
        lastActivity := now
        eventSeq := s.eventSeq + 1 }

/-- Record a guess at `now`. -/
def Session.recordGuess (now : ℕ) (g : GuessPayload) (s : Session) : Session :=
  { s with
    guess := some ⟨g.lat, g.lng, g.finalize, now⟩
    player :=
      { s.player with
        lastGuessLat := g.lat
        lastGuessLng := g.lng
        hasGuess := true
        finalized := g.finalize
        disconnected := false
        disconnectDue := 0 }
    lastActivity := now
    eventSeq := s.eventSeq + 1 }

def Session.submitGuess (F : FloatMath) (clk : Clock) (g : GuessPayload) (s : Session) :
    Except String Session :=
  if s.state ≠ .live then .ok s
  else if s.player.userID ≠ g.userID then .error "player not in match"
  else if s.roundID ≠ g.roundID then .error "round mismatch"
  else if s.awaitingAdvance then .ok s
  else
    let s := s.recordGuess (clk.read 0) g
    .ok (if g.finalize then s.resolveRound F (clk.read 1) else s)

/-- `next` is the answer of the round provider for the next round. -/
def Session.advanceRound (clk : Clock) (next : Except String LocationPoint) (userID : UserID)
    (s : Session) : Except String Session :=
  if s.player.userID ≠ userID then .error "player not in match"
  else if s.state ≠ .live then .ok s
  else if !s.awaitingAdvance then .ok s
  else if maxRounds ≤ s.currentIndex + 1 then
    .ok
      { s with
        state := .ended
        awaitingAdvance := false
        lastActivity := clk.read 0
        eventSeq := s.eventSeq + 1 }
  else
    match next with
    | .error err => .error err
    | .ok nextLoc =>
        .ok
          { s with
            currentIndex := s.currentIndex + 1
            currentLocation := nextLoc
            roundID := Singleplayer.roundID s.id (s.currentIndex + 2)
            roundStartedAt := clk.read 0
            guess := none
            lastRoundResult := none
            awaitingAdvance := false
            player :=
              { s.player with
                finalized := false, lastGuessLat := 0, lastGuessLng := 0, hasGuess := false }
            lastActivity := clk.read 1
            eventSeq := s.eventSeq + 1 }

/-! ## Forfeit and connection events -/

/-- A session that has ended takes another forfeit. -/
def Session.forfeit (clk : Clock) (userID : UserID) (s : Session) : Except String Session :=
  if s.player.userID ≠ userID then .error "player not in match"
  else .ok
    { s with
      state := .ended
      awaitingAdvance := false
      player := { s.player with finalized := false }
      lastActivity := clk.read 0
      eventSeq := s.eventSeq + 1 }

/-- Set the connection flag; a session has no deadline for the player to come back. -/
def Session.setDisconnected (disconnected : Bool) (clk : Clock) (userID : UserID) (s : Session) :
    Except String Session :=
  if s.player.userID ≠ userID then .error "player not in match"
  else .ok
    { s with
      player := { s.player with disconnected := disconnected }
      lastActivity := clk.read 0
      eventSeq := s.eventSeq + 1 }

def Session.markDisconnected : Clock → UserID → Session → Except String Session :=
  Session.setDisconnected true

def Session.markResumed : Clock → UserID → Session → Except String Session :=
  Session.setDisconnected false

/-! ## Snapshots -/

def Session.snapshot (clk : Clock) (s : Session) : MatchSnapshot :=
  let now := Time.unixMilli (clk.read 0)
  { matchID := s.id
    mode := .singleplayer
    state := s.state
    phase :=
      if s.state = .ended then .ended else if s.awaitingAdvance then .roundResult else .live
    roundPhase :=
      if s.state = .ended then .ended else if s.awaitingAdvance then .result else .live
    phaseStartedAt := now
    phaseEndsAt := now
    currentRound :=
      if s.state = .ended ∨ s.awaitingAdvance then none
      else
        some
          { roundID := s.roundID
            roundNumber := s.currentIndex + 1
            roundDeadline := Time.unixEpoch
            timerStarted := false
            location := s.currentLocation }
    lastRoundResult := s.lastRoundResult
    roundResults := s.roundResults
    roundMSLeft := 0
    players := (∅ : Assoc UserID PlayerState).insert s.player.userID s.player
    eventSequence := s.eventSeq
    serverUnixMS := now
    graceWindowSec := 0 }

/-! ## The operations of the engine -/

/-- The answer of an operation on the session `matchID`: its snapshot, or the error that left the
engine as it was. -/
def Engine.onSession (clk : Clock) (matchID : MatchID) (f : Session → Except String Session)
    (e : Engine) : Except String MatchSnapshot × Engine :=
  match e.sessions.lookup matchID with
  | none => (.error "match not found", e)
  | some s =>
      match f s with
      | .error err => (.error err, e)
      | .ok s' => (.ok (s'.snapshot (clk.drop 2)), ⟨e.sessions.modify matchID fun _ => s'⟩)

def Engine.getSnapshot (clk : Clock) (matchID : MatchID) (e : Engine) : Except String MatchSnapshot :=
  match e.sessions.lookup matchID with
  | none => .error "match not found"
  | some s => .ok (s.snapshot clk)

def Engine.submitGuess (F : FloatMath) (clk : Clock) (g : GuessPayload) :
    Engine → Except String MatchSnapshot × Engine :=
  Engine.onSession clk g.matchID (Session.submitGuess F clk g)

def Engine.advanceRound (clk : Clock) (next : Except String LocationPoint) (matchID : MatchID)
    (userID : UserID) : Engine → Except String MatchSnapshot × Engine :=
  Engine.onSession clk matchID (Session.advanceRound clk next userID)

def Engine.forfeit (clk : Clock) (matchID : MatchID) (userID : UserID) :
    Engine → Except String MatchSnapshot × Engine :=
  Engine.onSession clk matchID (Session.forfeit clk userID)

def Engine.markDisconnected (clk : Clock) (matchID : MatchID) (userID : UserID) :
    Engine → Except String MatchSnapshot × Engine :=
  Engine.onSession clk matchID (Session.markDisconnected clk userID)

def Engine.markResumed (clk : Clock) (matchID : MatchID) (userID : UserID) :
    Engine → Except String MatchSnapshot × Engine :=
  Engine.onSession clk matchID (Session.markResumed clk userID)

end GeoDuels.Singleplayer
