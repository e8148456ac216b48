import GeoDuels.Contracts
import GeoDuels.Decimal
import GeoDuels.Gameplay
import GeoDuels.Rating

/-!
# The duel engine

`pkg/duel`: the matches a gameplay node runs in memory, with the creation of a match, the guesses
of its players, the resolution of a round and its damage, the advance to the next round, the clock
tick and the connection events.  Every operation of the source holds the engine's mutex, so it is
one function of the engine here; the clock readings it makes are an argument, and so are the answers
of the round provider.
-/

namespace GeoDuels.Duel

def startingHP : ℤ := 6000
def roundIdleCap : ℕ := 8 * Time.minute
def roundIntro : ℕ := 3 * Time.second
def resultDuration : ℕ := 6 * Time.second
def disconnectGrace : ℕ := 30 * Time.second
def staleGrace : ℕ := 3 * Time.minute
def maxRounds : ℕ := 20
def ffaRounds : ℕ := 5
def maxDistanceKm : ℚ := Gameplay.maxDistanceKm

structure Guess where
  lat : Float64
  lng : Float64
  finalized : Bool
  ts : ℕ
  deriving DecidableEq

structure Match where
  id : MatchID
  mode : MatchMode
  seasonID : String
  config : MatchConfig
  state : MatchState
  unranked : Bool
  players : Assoc UserID PlayerState
  teams : Assoc TeamID TeamState
  currentLocation : LocationPoint
  currentIndex : ℕ
  roundStartedAt : ℕ
  roundDeadline : ℕ
  roundID : RoundID
  guesses : Assoc UserID Guess
  lastRoundResult : Option RoundResult
  roundResults : List RoundResult
  ratingPreview : Assoc UserID RatingDeltaPreview
  intermissionUntil : ℕ
  pendingAdvance : Bool
  eventSeq : ℕ
  roundLiveAnnounced : Bool
  createdAt : ℕ
  lastActivity : ℕ

/-- The answers of the round provider; it may answer differently in another call. -/
abbrev RoundProvider := MatchID → ℕ → Except String LocationPoint

structure MatchOptions where
  unranked : Bool := false
  seasonID : String := ""
  config : MatchConfig := {}
  mode : MatchMode := .unset
  teams : Assoc UserID TeamID := ∅

def roundID (matchID : MatchID) (round : ℕ) : RoundID := matchID ++ ":r" ++ strconv round

/-! ## Creating a match -/

def normalizeTeamID (teamID : TeamID) : TeamID := if teamID = "b" then "b" else "a"

/-- Assign one player to his team; `index` is his place in the list of players. -/
def joinTeam (acc : Assoc TeamID TeamState × Assoc UserID PlayerState) (e : UserID × ℕ) :
    Assoc TeamID TeamState × Assoc UserID PlayerState :=
  match acc.2.lookup e.1 with
  | none => acc
  | some player =>
      let teamID :=
        if player.teamID = "" ∧ e.2 % 2 = 1 then "b" else normalizeTeamID player.teamID
      let player := if player.teamID = "" then { player with teamID := teamID } else player
      let teams := acc.1.modify teamID fun team => { team with players := team.players ++ [e.1] }
      let hp := (teams.lookup teamID).elim 0 TeamState.hp
      (teams, acc.2.modify e.1 fun _ => { player with hp := hp })

/-- The two teams of a team duel, without those that stay empty; the players' teams and hit points
are updated on the way. -/
def buildTeams (mode : MatchMode) (playerIDs : List UserID) (players : Assoc UserID PlayerState) :
    Assoc TeamID TeamState × Assoc UserID PlayerState :=
  if mode ≠ .teamDuel then (∅, players)
  else
    let teams : Assoc TeamID TeamState :=
      ((∅ : Assoc TeamID TeamState).insert "b" ⟨"b", "Team Blue", startingHP, []⟩).insert "a"
        ⟨"a", "Team Red", startingHP, []⟩
    let (teams, players) := playerIDs.zipIdx.foldl joinTeam (teams, players)
    (teams.filter fun _ team => !team.players.isEmpty, players)

def newPlayer (mode : MatchMode) (profiles : Assoc UserID PlayerProfile) (teams : Assoc UserID TeamID)
    (id : UserID) : PlayerState :=
  let p := (profiles.lookup id).getD {}
  { userID := id
    displayName := if p.displayName = "" then id else p.displayName
    mmr := p.mmr
    ratingRD := p.ratingRD
    rankedGamesPlayed := p.rankedGamesPlayed
    avatarURL := p.avatarURL
    isGuest := p.isGuest
    isAdmin := p.isAdmin
    selectedBadge := p.selectedBadge
    teamID := if mode = .teamDuel then normalizeTeamID ((teams.lookup id).getD "") else ""
    hp := startingHP }

/-- The rating changes of a win, a loss and a draw, for the players that are no guests. -/
def ratingPreview (F : FloatMath) (now : ℕ) (playerIDs : List UserID)
    (players : Assoc UserID PlayerState) : Assoc UserID RatingDeltaPreview :=
  match playerIDs with
  | [id1, id2] =>
      match players.lookup id1, players.lookup id2 with
      | some p1, some p2 =>
          if p1.isGuest ∧ p2.isGuest then ∅
          else
            let p1State : Rating.State := ⟨p1.mmr, p1.ratingRD, now⟩
            let p2State : Rating.State := ⟨p2.mmr, p2.ratingRD, now⟩
            let (p1Win, p2Lose) := Rating.calculateDuelUpdates F p1State p2State .p1 now
            let (p1Lose, p2Win) := Rating.calculateDuelUpdates F p1State p2State .p2 now
            let (p1Draw, p2Draw) := Rating.calculateDuelUpdates F p1State p2State .draw now
            let preview : Assoc UserID RatingDeltaPreview := ∅
            let preview :=
              if p1.isGuest then preview
              else preview.insert p1.userID ⟨p1Win.delta, p1Lose.delta, p1Draw.delta⟩
            if p2.isGuest then preview
            else preview.insert p2.userID ⟨p2Win.delta, p2Lose.delta, p2Draw.delta⟩
      | _, _ => ∅
  | _ => ∅

/-- The fixed timer sets the deadline when the round starts; the other modes leave it unset. -/
def startRoundTimer (m : Match) : Match :=
  let config := normalizeMatchConfig m.config
  if config.roundTimerMode ≠ .fixed then { m with config := config }
  else
    { m with
      config := config
      roundDeadline :=
        m.roundStartedAt + roundIntro + config.roundTimeLimitMS.toNat * Time.millisecond }

/-- The mode a match is created with and the check of its number of players. -/
def checkMode (mode : MatchMode) (n : ℕ) : Except String MatchMode :=
  let mode := if mode = .unset then .duel else mode
  match mode with
  | .duel => if n ≠ 2 then .error "duel requires exactly two players" else .ok mode
  | .teamDuel | .freeForAll =>
      if n < 2 ∨ 8 < n then .error "party match requires 2 to 8 players" else .ok mode
  | _ => .error "unsupported duel mode"

structure Engine where
  allMatches : Assoc MatchID Match

/-- `New`: an engine without matches. -/
def Engine.new : Engine := ⟨∅⟩

/-- The match `CreateMatchWithOptions` stores when no check fails. -/
def newMatch (F : FloatMath) (clk : Clock) (mode : MatchMode) (matchID : MatchID)
    (playerIDs : List UserID) (opts : MatchOptions) (firstRound : LocationPoint)
    (teams : Assoc TeamID TeamState) (players : Assoc UserID PlayerState) : Match :=
  startRoundTimer
    { id := matchID
      mode := mode
      seasonID := opts.seasonID
      config := normalizeMatchConfig opts.config
      state := .live
      unranked := opts.unranked
      players := players
      teams := teams
      currentLocation := firstRound
      currentIndex := 0
      roundStartedAt := clk.read 0
      roundDeadline := 0
      roundID := roundID matchID 1
      guesses := ∅
      lastRoundResult := none
      roundResults := []
      ratingPreview :=
        if mode = .duel ∧ !opts.unranked then ratingPreview F (clk.read 3) playerIDs players else ∅
      intermissionUntil := 0
      pendingAdvance := false
      eventSeq := 1
      roundLiveAnnounced := false
      createdAt := clk.read 1
      lastActivity := clk.read 2 }

def Engine.createMatchWithOptions (F : FloatMath) (clk : Clock) (provider : Option RoundProvider)
    (matchID : MatchID) (playerIDs : List UserID) (profiles : Assoc UserID PlayerProfile)
    (opts : MatchOptions) (e : Engine) : Except String (Match × Engine) :=
  match checkMode opts.mode playerIDs.length with
  | .error err => .error err
  | .ok mode =>
      match provider with
      | none => .error "round provider required"
      | some roundProvider =>
          match roundProvider matchID 0 with
          | .error err => .error err
          | .ok firstRound =>
              if matchID ∈ e.allMatches then .error "match already exists"
              else
                let players : Assoc UserID PlayerState :=
                  playerIDs.foldl (fun ps id => ps.insert id (newPlayer mode profiles opts.teams id)) ∅
                let (teams, players) := buildTeams mode playerIDs players
                if mode = .teamDuel ∧ teams.keys.length ≠ 2 then
                  .error "team duel requires both teams"
                else
                  let m := newMatch F clk mode matchID playerIDs opts firstRound teams players
                  .ok (m, ⟨e.allMatches.insert matchID m⟩)

/-! ## Resolving a round -/

def guessUnixMS (g : Guess) : ℤ := if Time.isZero g.ts then 0 else Time.unixMilli g.ts

def guessMS (g : Guess) (roundLiveAt : ℕ) : ℤ :=
  if Time.isZero g.ts ∨ Time.isZero roundLiveAt then 0
  else max 0 (Time.subMilliseconds g.ts roundLiveAt)

def absInt (v : ℤ) : ℤ := if v < 0 then -v else v

def roundDamageMultiplier (roundNumber : ℕ) : ℚ :=
  if roundNumber ≤ 2 then 1 else 1 + 1 / 2 * ((roundNumber : ℚ) - 2)

/-- The damage that two scores of a round make.  Where one of them is the smallest `int`, the difference
wraps around in the source; here as there the damage takes all hit points. -/
def roundDamage (roundNumber : ℕ) (a b : ℤ) : ℤ :=
  mathRound ((absInt (a - b) : ℚ) * roundDamageMultiplier roundNumber)

/-- How far the player's guess is from the location; a player without a guess is as far as it
gets. -/
def guessDistance (F : FloatMath) (m : Match) (userID : UserID) : Float64 :=
  let loc := m.currentLocation
  let dist : Float64 :=
    match m.guesses.lookup userID with
    | none => maxDistanceKm
    | some g => Gameplay.haversineKm F loc.lat loc.lng g.lat g.lng
  if dist > maxDistanceKm then maxDistanceKm else dist

/-- The score of the player's guess. -/
def guessScore (F : FloatMath) (m : Match) (userID : UserID) : ℤ :=
  Gameplay.roundScore F (guessDistance F m userID)

def roundPlayerResult (F : FloatMath) (m : Match) (userID : UserID) (p : PlayerState) :
    RoundPlayerResult :=
  let g := (m.guesses.lookup userID).getD ⟨0, 0, false, 0⟩
  { userID := userID
    lat := g.lat
    lng := g.lng
    distanceKm := guessDistance F m userID
    score := guessScore F m userID
    hpAfterRound := p.hp
    guessUnixMS := guessUnixMS g
    guessMS := guessMS g (m.roundStartedAt + roundIntro) }

/-- What the resolution of a round writes: the players, the teams and the state of the match, and
the result of the round. -/
structure Resolution where
  players : Assoc UserID PlayerState
  teams : Assoc TeamID TeamState
  state : MatchState
  result : RoundResult

/-- The hit points of a player, `0` for nobody. -/
def hpOf (players : Assoc UserID PlayerState) (id : UserID) : ℤ :=
  (players.lookup id).elim 0 PlayerState.hp

/-- Take hit points from a player, down to zero. -/
def hurt (damage : ℤ) (p : PlayerState) : PlayerState :=
  { p with hp := if p.hp - damage < 0 then 0 else p.hp - damage }

/-- `userIDs` are the players in the order the loop over them met them. -/
def resolveDuelDamage (players : Assoc UserID PlayerState) (result : RoundResult)
    (userIDs : List UserID) : Assoc UserID PlayerState × RoundResult :=
  match userIDs with
  | [idA, idB] =>
      match result.players.lookup idA, result.players.lookup idB with
      | some a, some b =>
          let damage := roundDamage result.roundNumber a.score b.score
          let (players, a, b) :=
            if a.score > b.score then
              (players.modify idB (hurt damage), { a with damageDealt := damage },
                { b with damageTaken := damage })
            else if b.score > a.score then
              (players.modify idA (hurt damage), { a with damageTaken := damage },
                { b with damageDealt := damage })
            else (players, a, b)
          let a := { a with hpAfterRound := hpOf players idA }
          let b := { b with hpAfterRound := hpOf players idB }
          (players,
            { result with
              players := (result.players.modify idA fun _ => a).modify idB fun _ => b })
      | _, _ => (players, result)
  | _ => (players, result)

/-- The best guess of a team represents it; the first one among equals. -/
def bestGuess (result : RoundResult) (teamID : TeamID) (team : TeamState) : RoundTeamResult :=
  team.players.foldl
    (fun best userID =>
      match result.players.lookup userID with
      | none => best
      | some r =>
          if best.representativeUserID = "" ∨ r.score > best.score then
            { best with
              representativeUserID := userID
              lat := r.lat
              lng := r.lng
              distanceKm := r.distanceKm
              score := r.score }
          else best)
    { teamID := teamID, distanceKm := maxDistanceKm, hpAfterRound := team.hp }

/-- The hit points of a team, `0` for a missing one. -/
def teamHP (teams : Assoc TeamID TeamState) (id : TeamID) : ℤ := (teams.lookup id).elim 0 TeamState.hp

/-- The two teams after the damage of the round, with no hit points below zero. -/
def damageTeams (teams : Assoc TeamID TeamState) (damage a b : ℤ) : Assoc TeamID TeamState :=
  let teams :=
    if a > b then teams.modify "b" fun t => { t with hp := t.hp - damage }
    else if b > a then teams.modify "a" fun t => { t with hp := t.hp - damage }
    else teams
  Assoc.mapVals (fun _ t => { t with hp := if t.hp < 0 then 0 else t.hp }) teams

/-- Give the members of every team the hit points of their team. -/
def mirrorTeamHP (teams : Assoc TeamID TeamState) (players : Assoc UserID PlayerState) :
    Assoc UserID PlayerState :=
  teams.entries.foldl
    (fun players e => Assoc.modifyAll e.2.players (fun p => { p with hp := e.2.hp }) players) players

def resolveTeamDuelDamage (m : Match) (players : Assoc UserID PlayerState) (result : RoundResult) :
    Resolution :=
  if m.teams.keys.length ≠ 2 then ⟨players, m.teams, .ended, result⟩
  else
    let results := Assoc.mapVals (bestGuess result) m.teams
    let a := (results.lookup "a").getD {}
    let b := (results.lookup "b").getD {}
    let damage := roundDamage result.roundNumber a.score b.score
    let (a, b) :=
      if a.score > b.score then ({ a with damageDealt := damage }, { b with damageTaken := damage })
      else if b.score > a.score then
        ({ a with damageTaken := damage }, { b with damageDealt := damage })
      else (a, b)
    let teams := damageTeams m.teams damage a.score b.score
    let a := { a with hpAfterRound := teamHP teams "a" }
    let b := { b with hpAfterRound := teamHP teams "b" }
    { players := mirrorTeamHP teams players
      teams := teams
      state := if teams.any fun _ t => t.hp ≤ 0 then .ended else m.state
      result := { result with teams := (results.modify "a" fun _ => a).modify "b" fun _ => b } }

/-- In a free-for-all the scores add up and nobody loses hit points. -/
def resolveFreeForAll (players : Assoc UserID PlayerState) (result : RoundResult) :
    Assoc UserID PlayerState × RoundResult :=
  (Assoc.mapVals
      (fun userID p =>
        match result.players.lookup userID with
        | none => p
        | some r => { p with totalScore := p.totalScore + r.score })
      players,
    { result with players := Assoc.mapVals (fun _ r => { r with hpAfterRound := 0 }) result.players })

/-- The scores of the round and the damage of the mode. -/
def scoreRound (F : FloatMath) (m : Match) : Resolution :=
  let players := Assoc.mapVals (fun _ p => { p with finalized := false }) m.players
  let result : RoundResult :=
    { roundID := m.roundID
      roundNumber := m.currentIndex + 1
      actualLocation := m.currentLocation
      players := Assoc.mapVals (roundPlayerResult F m) m.players }
  match m.mode with
  | .duel =>
      let (players, result) := resolveDuelDamage players result m.players.keys
      ⟨players, m.teams, m.state, result⟩
  | .teamDuel => resolveTeamDuelDamage m players result
  | .freeForAll =>
      let (players, result) := resolveFreeForAll players result
      ⟨players, m.teams, m.state, result⟩
  | _ => ⟨players, m.teams, m.state, result⟩

/-- The end of the match: a player without hit points, or the last round of the mode. -/
def settleRound (mode : MatchMode) (r : Resolution) : Resolution :=
  let r :=
    if mode ≠ .freeForAll then
      { r with
        players := Assoc.mapVals (fun _ p => if p.hp ≤ 0 then { p with hp := 0 } else p) r.players
        state := if r.players.any fun _ p => p.hp ≤ 0 then .ended else r.state }
    else r
  let r :=
    if mode = .freeForAll ∧ ffaRounds ≤ r.result.roundNumber then { r with state := .ended } else r
  if maxRounds ≤ r.result.roundNumber then { r with state := .ended } else r

def Match.resolveRound (F : FloatMath) (clk : Clock) (m : Match) : Match :=
  if m.state ≠ .live then m
  else
    let r := settleRound m.mode (scoreRound F m)
    let m :=
      { m with
        players := r.players
        teams := r.teams
        state := r.state
        lastRoundResult := some r.result
        roundResults := m.roundResults ++ [r.result]
        guesses := ∅
        lastActivity := clk.read 0
        eventSeq := m.eventSeq + 1 }
    if m.state = .ended then m
    else
      { m with
        pendingAdvance := true
        intermissionUntil := clk.read 1 + resultDuration
        lastActivity := clk.read 2
        eventSeq := m.eventSeq + 1 }

/-! ## Advancing to the next round -/

/-- `next` is the answer of the round provider for the next round; without a location the match
ends. -/
def Match.advanceRound (clk : Clock) (next : Except String LocationPoint) (m : Match) : Match :=
  if !m.pendingAdvance then m
  else
    match next with
    | .error _ =>
        { m with
          state := .ended
          pendingAdvance := false
          intermissionUntil := 0
          lastActivity := clk.read 0
          eventSeq := m.eventSeq + 1 }
    | .ok nextLoc =>
        let m := startRoundTimer
          { m with
            currentIndex := m.currentIndex + 1
            currentLocation := nextLoc
            roundID := Duel.roundID m.id (m.currentIndex + 2)
            roundStartedAt := clk.read 0
            roundDeadline := 0
            roundLiveAnnounced := false }
        { m with
          players := Assoc.mapVals
            (fun _ p =>
              { p with finalized := false, lastGuessLat := 0, lastGuessLng := 0, hasGuess := false })
            m.players
          pendingAdvance := false
          intermissionUntil := 0
          lastActivity := clk.read 1
          eventSeq := m.eventSeq + 1 }

def Match.roundExpired (m : Match) (now : ℕ) : Bool :=
  if !Time.isZero m.roundDeadline then m.roundDeadline < now
  else m.roundStartedAt + roundIntro + roundIdleCap < now

/-! ## Guesses -/

/-- The deadline that a finalized guess at `now` sets or brings forward. -/
def pressureDeadline (m : Match) (now : ℕ) : ℕ :=
  let pressureMS := m.config.pressureTimeLimitMS
  let pressureMS :=
    if m.config.roundTimerMode = .pressure ∧ pressureMS ≤ 0 then defaultPressureTimeMS
    else pressureMS
  if 0 < pressureMS then
    let deadline := now + pressureMS.toNat * Time.millisecond
    if Time.isZero m.roundDeadline ∨ deadline < m.roundDeadline then deadline else m.roundDeadline
  else m.roundDeadline

/-- Record a guess of a player of the match at `now`. -/
def Match.recordGuess (now : ℕ) (g : GuessPayload) (m : Match) : Match :=
  { m with
    guesses := m.guesses.insert g.userID ⟨g.lat, g.lng, g.finalize, now⟩
    players := m.players.modify g.userID fun p =>
      { p with
        lastGuessLat := g.lat
        lastGuessLng := g.lng
        hasGuess := true
        finalized := g.finalize
        disconnected := false
        disconnectDue := 0 }
    lastActivity := now
    eventSeq := m.eventSeq + 1
    roundDeadline := if g.finalize then pressureDeadline m now else m.roundDeadline }

def Match.allFinal (m : Match) : Bool :=
  m.players.all fun id _ => (m.guesses.lookup id).any Guess.finalized

def Match.submitGuess (F : FloatMath) (clk : Clock) (g : GuessPayload) (m : Match) :
    Except String Match :=
  if m.state ≠ .live then .error "match is not live"
  else if g.roundID ≠ m.roundID then .error "round mismatch"
  else if m.pendingAdvance ∧ clk.read 0 < m.intermissionUntil then .ok m
  else if g.userID ∉ m.players then .error "player not in match"
  else
    let now := clk.read 1
    if m.roundExpired now then .ok (m.resolveRound F (clk.drop 2))
    else if now < m.roundStartedAt + roundIntro then .ok m
    else if (m.guesses.lookup g.userID).any Guess.finalized then .ok m
    else
      let m := m.recordGuess now g
      if m.allFinal then .ok (m.resolveRound F (clk.drop 2)) else .ok m

/-! ## The tick -/

def Match.announceLive (now : ℕ) (m : Match) : Match :=
  if !m.roundLiveAnnounced ∧ m.roundStartedAt + roundIntro ≤ now then
    { m with roundLiveAnnounced := true, eventSeq := m.eventSeq + 1 }
  else m

/-- The player's grace after a disconnect has run out. -/
def graceExpired (now : ℕ) (p : PlayerState) : Bool :=
  p.disconnected ∧ 0 < p.disconnectDue ∧ p.disconnectDue < Time.unixMilli now

/-- Every player whose grace has run out loses his hit points, and the match ends. -/
def Match.sweepDisconnected (now : ℕ) (m : Match) : Match :=
  let n := m.players.countP fun _ p => graceExpired now p
  if n = 0 then m
  else
    { m with
      players := Assoc.mapVals (fun _ p => if graceExpired now p then { p with hp := 0 } else p)
        m.players
      state := .ended
      lastActivity := now
      eventSeq := m.eventSeq + n }

def Match.allDisconnected (m : Match) : Bool := m.players.all fun _ p => p.disconnected

def Match.maxDue (m : Match) : ℤ := m.players.entries.foldl (fun d e => max d e.2.disconnectDue) 0

/-- A match that everybody has left for too long ends with no hit points left. -/
def Match.sweepStale (now : ℕ) (m : Match) : Match :=
  let noHP := Assoc.mapVals (fun _ p => { p with hp := 0 }) m.players
  if m.allDisconnected ∧ 0 < m.maxDue ∧ m.maxDue < Time.unixMilli now then
    { m with players := noHP, state := .ended, lastActivity := now, eventSeq := m.eventSeq + 1 }
  else if m.allDisconnected ∧ !Time.isZero m.lastActivity ∧ m.lastActivity + staleGrace < now then
    { m with players := noHP, state := .ended, eventSeq := m.eventSeq + 1 }
  else m

/-- What a tick that read `now` does to one match; `clk` are the readings made for this match and
`next` is the round provider's answer for its next round. -/
def Match.tick (F : FloatMath) (now : ℕ) (clk : Clock) (next : Except String LocationPoint)
    (m : Match) : Match :=
  if m.state ≠ .live then m
  else if m.pendingAdvance then if m.intermissionUntil < now then m.advanceRound clk next else m
  else
    let m := m.announceLive now
    let m := if m.roundExpired now then m.resolveRound F clk else m
    let m := m.sweepDisconnected now
    if m.state ≠ .live then m else m.sweepStale now

/-! ## Connection events and forfeit -/

def Match.markDisconnected (clk : Clock) (userID : UserID) (m : Match) : Except String Match :=
  if userID ∉ m.players then .error "player not in match"
  else .ok
    { m with
      players := m.players.modify userID fun p =>
        { p with
          disconnected := true
          disconnectDue := Time.unixMilli (clk.read 0 + disconnectGrace) }
      lastActivity := clk.read 1
      eventSeq := m.eventSeq + 1 }

def Match.markResumed (clk : Clock) (userID : UserID) (m : Match) : Except String Match :=
  if userID ∉ m.players then .error "player not in match"
  else .ok
    { m with
      players := m.players.modify userID fun p => { p with disconnected := false, disconnectDue := 0 }
      lastActivity := clk.read 0
      eventSeq := m.eventSeq + 1 }

def Match.forfeit (clk : Clock) (userID : UserID) (m : Match) : Except String Match :=
  if m.state ≠ .live then .ok m
  else if userID ∉ m.players then .error "player not in match"
  else .ok
    { m with
      players := m.players.modify userID fun p =>
        { p with hp := 0, finalized := false, disconnected := false, disconnectDue := 0 }
      pendingAdvance := false
      intermissionUntil := 0
      state := .ended
      lastActivity := clk.read 0
      eventSeq := m.eventSeq + 1 }

/-! ## Snapshots -/

def unixMilliOrZero (t : ℕ) : ℤ := if Time.isZero t then 0 else Time.unixMilli t

/-- The phase of the match and of its round at `now`, with the times the phase starts and ends. -/
def Match.phases (now : ℕ) (m : Match) : MatchPhase × RoundPhase × ℕ × ℕ :=
  if m.state = .ended then (.ended, .ended, now, now)
  else if m.pendingAdvance ∧ now < m.intermissionUntil then
    (.roundResult, .result, m.intermissionUntil - resultDuration, m.intermissionUntil)
  else if m.pendingAdvance then (.live, .transition, m.intermissionUntil, now)
  else if now < m.roundStartedAt + roundIntro then
    (.live, .intro, m.roundStartedAt, m.roundStartedAt + roundIntro)
  else if Time.isZero m.roundDeadline then (.live, .live, m.roundStartedAt + roundIntro, 0)
  else (.live, .live, m.roundStartedAt + roundIntro, m.roundDeadline)

def Match.snapshot (clk : Clock) (m : Match) : MatchSnapshot :=
  let (phase, roundPhase, phaseStartedAt, phaseEndsAt) := m.phases (clk.read 0)
  let untilMilliseconds (t : ℕ) : ℤ := max 0 (Time.subMilliseconds t (clk.read 1))
  { matchID := m.id
    mode := m.mode
    seasonID := m.seasonID
    config := normalizeMatchConfig m.config
    unranked := m.unranked
    state := m.state
    phase := phase
    roundPhase := roundPhase
    phaseStartedAt := Time.unixMilli phaseStartedAt
    phaseEndsAt := unixMilliOrZero phaseEndsAt
    currentRound :=
      if phase = .live ∧ m.state = .live then
        some
          { roundID := m.roundID
            roundNumber := m.currentIndex + 1
            roundDeadline := m.roundDeadline
            timerStarted := !Time.isZero m.roundDeadline
            location := m.currentLocation }
      else none
    lastRoundResult := m.lastRoundResult
    roundResults := m.roundResults
    roundMSLeft :=
      if phase = .roundResult then untilMilliseconds m.intermissionUntil
      else if phase = .live ∧ roundPhase = .intro then
        untilMilliseconds (m.roundStartedAt + roundIntro)
      else if phase = .live ∧ !Time.isZero m.roundDeadline then untilMilliseconds m.roundDeadline
      else 0
    players := m.players
    teams := m.teams
    ratingPreview := m.ratingPreview
    eventSequence := m.eventSeq
    serverUnixMS := Time.unixMilli (clk.read 2)
    graceWindowSec := (disconnectGrace / Time.second : ℕ) }

/-! ## The operations of the engine -/

/-- The answer of an operation on the match `matchID`: its snapshot, or the error that left the
engine as it was. -/
def Engine.onMatch (clk : Clock) (matchID : MatchID) (f : Match → Except String Match) (e : Engine) :
    Except String MatchSnapshot × Engine :=
  match e.allMatches.lookup matchID with
  | none => (.error "match not found", e)
  | some m =>
      match f m with
      | .error err => (.error err, e)
      | .ok m' => (.ok (m'.snapshot (clk.drop 5)), ⟨e.allMatches.modify matchID fun _ => m'⟩)

def Engine.getSnapshot (clk : Clock) (matchID : MatchID) (e : Engine) : Except String MatchSnapshot :=
  match e.allMatches.lookup matchID with
  | none => .error "match not found"
  | some m => .ok (m.snapshot clk)

def Engine.submitGuess (F : FloatMath) (clk : Clock) (g : GuessPayload) :
    Engine → Except String MatchSnapshot × Engine :=
  Engine.onMatch clk g.matchID (Match.submitGuess F clk g)

def Engine.markDisconnected (clk : Clock) (matchID : MatchID) (userID : UserID) :
    Engine → Except String MatchSnapshot × Engine :=
  Engine.onMatch clk matchID (Match.markDisconnected clk userID)

def Engine.markResumed (clk : Clock) (matchID : MatchID) (userID : UserID) :
    Engine → Except String MatchSnapshot × Engine :=
  Engine.onMatch clk matchID (Match.markResumed clk userID)

def Engine.forfeit (clk : Clock) (matchID : MatchID) (userID : UserID) :
    Engine → Except String MatchSnapshot × Engine :=
  Engine.onMatch clk matchID (Match.forfeit clk userID)

/-- Tick every match; the answer lists those whose event sequence has changed. -/
def Engine.tick (F : FloatMath) (clk : TickClock MatchID) (provider : RoundProvider) (e : Engine) :
    List MatchID × Engine :=
  let ticked := Assoc.mapVals
    (fun id m => m.tick F clk.now (clk.later id) (provider m.id (m.currentIndex + 1))) e.allMatches
  (e.allMatches.entries.filterMap fun entry =>
      if (ticked.lookup entry.1).any fun m' => m'.eventSeq ≠ entry.2.eventSeq then some entry.2.id
      else none,
    ⟨ticked⟩)

end GeoDuels.Duel
