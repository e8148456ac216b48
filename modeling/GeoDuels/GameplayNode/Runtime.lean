import GeoDuels.Duel.Engine
import GeoDuels.Singleplayer.Engine

/-!
# The runtimes of a gameplay node

A node has one runtime for each mode.  The three party modes run on duel engines of their own, which
share the registry of match configurations; the singleplayer mode runs on the singleplayer engine.
-/

namespace GeoDuels.GameplayNode

/-! ## The registry of match configurations -/

structure MatchConfigRegistry where
  configs : Assoc MatchID MatchConfig

def newMatchConfigRegistry : MatchConfigRegistry := ⟨∅⟩

def MatchConfigRegistry.set (matchID : MatchID) (cfg : MatchConfig) (r : MatchConfigRegistry) :
    MatchConfigRegistry :=
  ⟨r.configs.insert matchID (normalizeMatchConfig cfg)⟩

def MatchConfigRegistry.get (matchID : MatchID) (r : MatchConfigRegistry) : MatchConfig :=
  normalizeMatchConfig ((r.configs.lookup matchID).getD {})

/-! ## Runtimes -/

inductive Runtime where
  | duel (mode : MatchMode) (engine : Duel.Engine)
  | singleplayer (engine : Singleplayer.Engine)

namespace Runtime

def mode : Runtime → MatchMode
  | .duel mode _ => if mode = .unset then .duel else mode
  | .singleplayer _ => .singleplayer

/-- The first half of `CreateMatch`: a duel runtime registers the configuration. -/
def configure (matchID : MatchID) (config : MatchConfig) (configs : MatchConfigRegistry) :
    Runtime → MatchConfigRegistry
  | .duel .. => configs.set matchID (normalizeMatchConfig config)
  | .singleplayer _ => configs

/-- The second half of `CreateMatch`: the engine creates the match. -/
def createMatch (F : FloatMath) (clk : Clock) (provider : Duel.RoundProvider) (found : MatchFound) :
    Runtime → Except String Runtime
  | .duel mode engine =>
      (engine.createMatchWithOptions F clk (some provider) found.matchID found.players
        found.profiles
        { unranked := found.unranked
          seasonID := found.seasonID
          config := normalizeMatchConfig found.config
          mode := Runtime.mode (.duel mode engine)
          teams := found.teams }).map fun res => .duel mode res.2
  | .singleplayer engine =>
      (engine.createMatch clk (some provider) found.matchID found.players found.profiles).map
        fun res => .singleplayer res.2

def getSnapshot (clk : Clock) (matchID : MatchID) : Runtime → Except String MatchSnapshot
  | .duel _ engine => engine.getSnapshot clk matchID
  | .singleplayer engine => engine.getSnapshot clk matchID

def submitGuess (F : FloatMath) (clk : Clock) (g : GuessPayload) :
    Runtime → Except String MatchSnapshot × Runtime
  | .duel mode engine => (engine.submitGuess F clk g).map id (.duel mode)
  | .singleplayer engine => (engine.submitGuess F clk g).map id .singleplayer

/-- `next` is the answer of the round provider for the next round. -/
def advanceRound (clk : Clock) (next : Except String LocationPoint) (matchID : MatchID)
    (userID : UserID) : Runtime → Except String MatchSnapshot × Runtime
  | .duel mode engine =>
      (.error "advance round is not supported for duel", .duel mode engine)
  | .singleplayer engine => (engine.advanceRound clk next matchID userID).map id .singleplayer

def forfeit (clk : Clock) (matchID : MatchID) (userID : UserID) :
    Runtime → Except String MatchSnapshot × Runtime
  | .duel mode engine => (engine.forfeit clk matchID userID).map id (.duel mode)
  | .singleplayer engine => (engine.forfeit clk matchID userID).map id .singleplayer

def markDisconnected (clk : Clock) (matchID : MatchID) (userID : UserID) :
    Runtime → Except String MatchSnapshot × Runtime
  | .duel mode engine => (engine.markDisconnected clk matchID userID).map id (.duel mode)
  | .singleplayer engine => (engine.markDisconnected clk matchID userID).map id .singleplayer

def markResumed (clk : Clock) (matchID : MatchID) (userID : UserID) :
    Runtime → Except String MatchSnapshot × Runtime
  | .duel mode engine => (engine.markResumed clk matchID userID).map id (.duel mode)
  | .singleplayer engine => (engine.markResumed clk matchID userID).map id .singleplayer

def tick (F : FloatMath) (clk : TickClock MatchID) (provider : Duel.RoundProvider) :
    Runtime → List MatchID × Runtime
  | .duel mode engine => (engine.tick F clk provider).map id (.duel mode)
  | .singleplayer engine => ([], .singleplayer engine)

end Runtime

/-! ## Calls on one match -/

/-- A call of the runtime interface that names a match, with what the call meets. -/
inductive Call where
  | submitGuess (clk : Clock) (g : GuessPayload)
  | advanceRound (clk : Clock) (next : Except String LocationPoint) (matchID : MatchID)
      (userID : UserID)
  | forfeit (clk : Clock) (matchID : MatchID) (userID : UserID)
  | markDisconnected (clk : Clock) (matchID : MatchID) (userID : UserID)
  | markResumed (clk : Clock) (matchID : MatchID) (userID : UserID)

def Call.matchID : Call → MatchID
  | .submitGuess _ g => g.matchID
  | .advanceRound _ _ matchID _ | .forfeit _ matchID _ | .markDisconnected _ matchID _
  | .markResumed _ matchID _ => matchID

def Runtime.call (F : FloatMath) : Call → Runtime → Except String MatchSnapshot × Runtime
  | .submitGuess clk g => Runtime.submitGuess F clk g
  | .advanceRound clk next matchID userID => Runtime.advanceRound clk next matchID userID
  | .forfeit clk matchID userID => Runtime.forfeit clk matchID userID
  | .markDisconnected clk matchID userID => Runtime.markDisconnected clk matchID userID
  | .markResumed clk matchID userID => Runtime.markResumed clk matchID userID

/-! ## The match that a runtime holds -/

/-- A match of either engine. -/
inductive Game where
  | duel (m : Duel.Match)
  | session (s : Singleplayer.Session)

namespace Game

def mode : Game → MatchMode
  | .duel m => m.mode
  | .session _ => .singleplayer

def state : Game → MatchState
  | .duel m => m.state
  | .session s => s.state

def players : Game → Assoc UserID PlayerState
  | .duel m => m.players
  | .session s => (∅ : Assoc UserID PlayerState).insert s.player.userID s.player

def roundResults : Game → List RoundResult
  | .duel m => m.roundResults
  | .session s => s.roundResults

def snapshot (clk : Clock) : Game → MatchSnapshot
  | .duel m => m.snapshot clk
  | .session s => s.snapshot clk

end Game

def Runtime.find (matchID : MatchID) : Runtime → Option Game
  | .duel _ engine => (engine.allMatches.lookup matchID).map .duel
  | .singleplayer engine => (engine.sessions.lookup matchID).map .session

end GeoDuels.GameplayNode
