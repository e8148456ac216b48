import GeoDuels.Lib.Run
import GeoDuels.GameplayNode.Spec
import Mathlib.Data.List.Infix

/-!
# The lifecycle of a match on a node

A match is created by `createMatch` and ended by `terminalize`.  Both take several steps between
their locks and store calls: a creation checks for the match, registers its configuration, creates
it in the engine of its mode, records it as live and enters it in the maps of the node; the end of a
match takes it out of the maps, records its result and records it as ended.  Requests, commands and
ticks run these steps in any order.  `World.log` keeps what the node has done, the last event first.
-/

namespace GeoDuels.GameplayNode

/-- The state of a node that the lifecycle of its matches reads and writes. -/
structure Node where
  runtimes : Assoc MatchMode Runtime
  configs : MatchConfigRegistry
  matchUsers : Assoc MatchID (List UserID)
  matchModes : Assoc MatchID MatchMode

namespace Node

/-- A node that has just started. -/
def init : Node where
  runtimes := ((((∅ : Assoc MatchMode Runtime).insert .duel (.duel .duel .new)).insert .teamDuel
    (.duel .teamDuel .new)).insert .freeForAll (.duel .freeForAll .new)).insert .singleplayer
    (.singleplayer .new)
  configs := newMatchConfigRegistry
  matchUsers := ∅
  matchModes := ∅

/-- The mode under which `runtimeForMatch` looks for the runtime. -/
def modeOf (matchID : MatchID) (n : Node) : MatchMode :=
  match n.matchModes.lookup matchID with
  | none | some .unset => .duel
  | some mode => mode

def runtimeForMatch (matchID : MatchID) (n : Node) : Option Runtime :=
  n.runtimes.lookup (n.modeOf matchID)

/-- `getSnapshot`; without a known mode the runtimes are asked in the order of `order`. -/
def getSnapshot (clk : Clock) (order : List MatchMode) (matchID : MatchID) (n : Node) :
    Option MatchSnapshot :=
  let ask (mode : MatchMode) : Option (Option MatchSnapshot) :=
    (n.runtimes.lookup mode).map fun r => (r.getSnapshot clk matchID).toOption
  match n.matchModes.lookup matchID with
  | none | some .unset => order.findSome? fun mode => (ask mode).join
  | some mode =>
      match ask mode with
      | some answer => answer
      | none => order.findSome? fun mode => (ask mode).join

/-- The match `matchID` in the runtime of the mode. -/
def find (mode : MatchMode) (matchID : MatchID) (n : Node) : Option Game :=
  (n.runtimes.lookup mode).bind (Runtime.find matchID)

/-- Call the runtime of `runtimeForMatch`. -/
def call (F : FloatMath) (c : Call) (n : Node) : Option (Except String MatchSnapshot) × Node :=
  match n.runtimeForMatch c.matchID with
  | none => (none, n)
  | some r =>
      ((r.call F c).1,
        { n with runtimes := n.runtimes.insert (n.modeOf c.matchID) (r.call F c).2 })

end Node

/-! ## Requests -/

/-- How far a `createMatch` request has come; `existed` says that the engine had the match. -/
inductive CreatePlace where
  | checked
  | configured
  | created (existed : Bool)
  | recorded (existed : Bool)
  deriving DecidableEq

/-- The mode of a request; a missing one is `duel`. -/
def requestMode (found : MatchFound) : MatchMode :=
  if found.mode = .unset then .duel else found.mode

/-- A `createMatch` request past its existence check.  `touched` remembers whether one of its steps
has changed the match's engine state, its registry entry or its registration. -/
structure CreateRequest where
  found : MatchFound
  place : CreatePlace := .checked
  touched : Bool := false

def CreateRequest.mode (r : CreateRequest) : MatchMode := requestMode r.found

/-- How far a call of `terminalize` has come. -/
inductive EndPlace where
  | called | removed | resulted
  deriving DecidableEq

structure EndCall where
  matchID : MatchID
  snap : MatchSnapshot
  place : EndPlace := .called

inductive CreateStatus where
  | ok | exists_ | failed
  deriving DecidableEq

/-- What the node does with a match: that it creates it, answers, registers its users and removes them again,
and stores its state and its result. -/
inductive Event where
  | created (found : MatchFound)
  | answered (matchID : MatchID) (status : CreateStatus) (existed touched : Bool)
  | register (matchID : MatchID)
  | unregister (matchID : MatchID)
  | recordRuntimeMatch (matchID : MatchID) (state : MatchState)
  | recordMatchResult (matchID : MatchID) (snap : MatchSnapshot)

structure World where
  node : Node
  creates : Assoc String CreateRequest
  ends : Assoc String EndCall
  changed : List MatchID
  log : List Event

def World.init : World := ⟨.init, ∅, ∅, [], []⟩

inductive Op where
  | createMatch (clk : Clock) (accepted : Bool) (q : String) (found : MatchFound)
  | configure (q : String)
  | engineCreate (clk : Clock) (provider : Duel.RoundProvider) (q : String)
  | recordLive (stored : Bool) (q : String)
  | register (q : String)
  | command (k : String) (c : Call)
  | mark (c : Call)
  | tick (clk : TickClock MatchID) (provider : Duel.RoundProvider) (mode : MatchMode)
  | visit (clk : Clock) (k : String) (matchID : MatchID)
  | terminate (clk : Clock) (order : List MatchMode) (k : String) (matchID : MatchID)
      (userID : UserID)
  | enter (k : String)
  | recordResult (k : String)
  | recordEnded (stored : Bool) (k : String)

/-- The calls that `executeCommand` makes for a command of a client. -/
def Call.IsCommand : Call → Prop
  | .submitGuess .. | .advanceRound .. | .forfeit .. => True
  | _ => False

instance : DecidablePred Call.IsCommand
  | .submitGuess .. | .advanceRound .. | .forfeit .. => .isTrue trivial
  | .markDisconnected .. | .markResumed .. => .isFalse id

/-! ## The steps of a creation -/

namespace World

/-- The wiring of a match: that the engine of the mode has it, its entry in the registry, and its
registration. -/
def wiring (mode : MatchMode) (matchID : MatchID) (n : Node) :
    Bool × Option MatchConfig × Option (List UserID) × Option MatchMode :=
  ((n.find mode matchID).isSome, n.configs.configs.lookup matchID, n.matchUsers.lookup matchID,
    n.matchModes.lookup matchID)

/-- The request `q` goes on with `place` in the node `n`. -/
def goOn (q : String) (r : CreateRequest) (place : CreatePlace) (n : Node) (w : World) : World :=
  { w with
    node := n
    creates := w.creates.insert q
      { r with
        place := place
        touched :=
          r.touched || wiring r.mode r.found.matchID w.node != wiring r.mode r.found.matchID n } }

/-- The request `q` answers. -/
def answer (q : String) (r : CreateRequest) (status : CreateStatus) (existed : Bool) (w : World) :
    World :=
  { w with
    creates := w.creates.erase q
    log := .answered r.found.matchID status existed r.touched :: w.log }

/-- The checks of the request up to the existence check; `accepted` sums up those of its header, of
the draining flag and of the payload's form. -/
def createMatch (clk : Clock) (accepted : Bool) (q : String) (found : MatchFound) (w : World) :
    World :=
  let request : CreateRequest := { found := found }
  match w.node.runtimes.lookup (requestMode found) with
  | none => w.answer q request .failed false
  | some runtime =>
      if !accepted ∨ found.matchID = "" ∨ found.players = [] then w.answer q request .failed false
      else
        match runtime.getSnapshot clk found.matchID with
        | .ok _ => w.answer q request .exists_ true
        | .error _ => { w with creates := w.creates.insert q request }

/-- The first half of `runtime.CreateMatch`. -/
def configure (q : String) (r : CreateRequest) (w : World) : World :=
  match w.node.runtimes.lookup r.mode with
  | none => w
  | some runtime =>
      let config := normalizeMatchConfig r.found.config
      w.goOn q r .configured
        { w.node with configs := runtime.configure r.found.matchID config w.node.configs }

/-- The second half: the engine makes the match, or has it already, or fails. -/
def engineCreate (F : FloatMath) (clk : Clock) (provider : Duel.RoundProvider) (q : String)
    (r : CreateRequest) (w : World) : World :=
  match w.node.runtimes.lookup r.mode with
  | none => w
  | some runtime =>
      match runtime.createMatch F clk provider
          { r.found with config := normalizeMatchConfig r.found.config } with
      | .ok runtime' =>
          let w := w.goOn q r (.created false)
            { w.node with runtimes := w.node.runtimes.insert r.mode runtime' }
          { w with log := .created r.found :: w.log }
      | .error err =>
          if "already exists".toList <:+: err.toList then w.goOn q r (.created true) w.node
          else w.answer q r .failed false

/-- `persist.RecordRuntimeMatch` of the request; `stored` says whether the write succeeds. -/
def recordLive (stored : Bool) (q : String) (r : CreateRequest) (existed : Bool) (w : World) :
    World :=
  if stored then
    let w := w.goOn q r (.recorded existed) w.node
    { w with log := .recordRuntimeMatch r.found.matchID .live :: w.log }
  else w.answer q r .failed existed

/-- The locked section at the end, and the answer. -/
def register (q : String) (r : CreateRequest) (existed : Bool) (w : World) : World :=
  let n :=
    { w.node with
      matchUsers := w.node.matchUsers.insert r.found.matchID r.found.players
      matchModes := w.node.matchModes.insert r.found.matchID r.mode }
  let touched :=
    r.touched || wiring r.mode r.found.matchID w.node != wiring r.mode r.found.matchID n
  let w := { w with node := n, log := .register r.found.matchID :: w.log }
  w.answer q { r with touched := touched } .ok existed

/-! ## The steps of an end -/

/-- A caller of `terminalize` for an ended snapshot. -/
def terminalize (k : String) (matchID : MatchID) (snap : MatchSnapshot) (w : World) : World :=
  if snap.state = .ended then { w with ends := w.ends.insert k { matchID := matchID, snap := snap } }
  else w

/-- A call of a runtime, and `terminalize` if its snapshot is that of an ended match. -/
def command (F : FloatMath) (k : String) (c : Call) (w : World) : World :=
  let w' := { w with node := (w.node.call F c).2 }
  match (w.node.call F c).1 with
  | some (.ok snap) => w'.terminalize k c.matchID snap
  | _ => w'

/-- One runtime's tick; the loop goes on to visit the changed matches. -/
def tick (F : FloatMath) (clk : TickClock MatchID) (provider : Duel.RoundProvider)
    (mode : MatchMode) (w : World) : World :=
  match w.node.runtimes.lookup mode with
  | none => w
  | some r =>
      { w with
        node := { w.node with runtimes := w.node.runtimes.insert mode (r.tick F clk provider).2 }
        changed := w.changed ++ (r.tick F clk provider).1 }

/-- The loop of the tick visits a changed match. -/
def visit (clk : Clock) (k : String) (matchID : MatchID) (w : World) : World :=
  let w := { w with changed := w.changed.erase matchID }
  match w.node.runtimeForMatch matchID with
  | none => w
  | some r =>
      match r.getSnapshot clk matchID with
      | .error _ => w
      | .ok snap => w.terminalize k matchID snap

/-- `terminateMatch`: only a singleplayer session may be replaced. -/
def terminate (F : FloatMath) (clk : Clock) (order : List MatchMode) (k : String)
    (matchID : MatchID) (userID : UserID) (w : World) : World :=
  match w.node.getSnapshot clk order matchID with
  | none => w
  | some snap =>
      if snap.mode ≠ .singleplayer then w else w.command F k (.forfeit clk matchID userID)

/-- The locked section of `terminalize`: only a registered match gets past it. -/
def enter (k : String) (e : EndCall) (w : World) : World :=
  if e.matchID ∈ w.node.matchUsers then
    { w with
      node :=
        { w.node with
          matchUsers := w.node.matchUsers.erase e.matchID
          matchModes := w.node.matchModes.erase e.matchID }
      ends := w.ends.insert k { e with place := .removed }
      log := .unregister e.matchID :: w.log }
  else { w with ends := w.ends.erase k }

/-- `persist.RecordMatchResult`, for duels only; a failure is logged. -/
def recordResult (k : String) (e : EndCall) (w : World) : World :=
  { w with
    ends := w.ends.insert k { e with place := .resulted }
    log :=
      if e.snap.mode = .duel then .recordMatchResult e.matchID e.snap :: w.log else w.log }

/-- `persist.RecordRuntimeMatch` of the end; a failure is logged. -/
def recordEnded (stored : Bool) (k : String) (e : EndCall) (w : World) : World :=
  { w with
    ends := w.ends.erase k
    log := if stored then .recordRuntimeMatch e.matchID .ended :: w.log else w.log }

/-- A step of the node; `none` when the operation is not at that place. -/
def step (F : FloatMath) (w : World) : Op → Option World
  | .createMatch clk accepted q found =>
      if q ∈ w.creates then none else some (w.createMatch clk accepted q found)
  | .configure q =>
      match w.creates.lookup q with
      | some r => if r.place = .checked then some (w.configure q r) else none
      | none => none
  | .engineCreate clk provider q =>
      match w.creates.lookup q with
      | some r =>
          if r.place = .configured then some (w.engineCreate F clk provider q r) else none
      | none => none
  | .recordLive stored q =>
      match w.creates.lookup q with
      | some r =>
          match r.place with
          | .created existed => some (w.recordLive stored q r existed)
          | _ => none
      | none => none
  | .register q =>
      match w.creates.lookup q with
      | some r =>
          match r.place with
          | .recorded existed => some (w.register q r existed)
          | _ => none
      | none => none
  | .command k c =>
      if k ∉ w.ends ∧ c.IsCommand then some (w.command F k c) else none
  | .mark c => if c.IsCommand then none else some { w with node := (w.node.call F c).2 }
  | .tick clk provider mode => some (w.tick F clk provider mode)
  | .visit clk k matchID =>
      if k ∉ w.ends ∧ matchID ∈ w.changed then some (w.visit clk k matchID) else none
  | .terminate clk order k matchID userID =>
      if k ∉ w.ends then some (w.terminate F clk order k matchID userID) else none
  | .enter k =>
      match w.ends.lookup k with
      | some e => if e.place = .called then some (w.enter k e) else none
      | none => none
  | .recordResult k =>
      match w.ends.lookup k with
      | some e => if e.place = .removed then some (w.recordResult k e) else none
      | none => none
  | .recordEnded stored k =>
      match w.ends.lookup k with
      | some e => if e.place = .resulted then some (w.recordEnded stored k e) else none
      | none => none

end World

end GeoDuels.GameplayNode
