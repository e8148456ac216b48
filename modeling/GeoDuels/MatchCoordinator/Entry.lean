import GeoDuels.Lib.Run
import GeoDuels.MatchCoordinator.Lobby
import GeoDuels.MatchLaunch.Launcher
import GeoDuels.MatchStore.Matchmaking

/-!
# The coordinator's entry points

The handler of a queue connection (`queue`), `startLobby` and the matchmaking passes, each as a
sequence of single commands on the two Redis stores, between which any of the others may act.  A
`World` holds the stores and what is in progress: the connections, the lobby starts and the passes, of
any number of coordinators.  It also knows which matches are live on the nodes and, as a record, the
players of every match that was ever made.
-/

namespace GeoDuels.MatchCoordinator

open Coordinator (Assignment NodeRecord isBlank trimSpace normalizeMode)
open MatchLaunch (Call)
open MatchStore (QueuePool QueueJoinRequest poolForGuest normalizedRulesets allQueuePools
  allQueueRulesets)

/-! ## Checking the assignment of a user -/

inductive AssignmentStatus where
  | invalid | valid | pending | abandoned
  deriving DecidableEq

/-- The answer of `ValidateAssignment` is right: `pending` says nothing. -/
def AssignmentStatus.Correct (live : List MatchID) (assigned : Assignment) : AssignmentStatus → Prop
  | .valid => assigned.matchID ∈ live
  | .invalid | .abandoned => assigned.matchID ∉ live
  | .pending => True

instance (live : List MatchID) (assigned : Assignment) :
    ∀ status, Decidable (AssignmentStatus.Correct live assigned status)
  | .valid => inferInstanceAs (Decidable (assigned.matchID ∈ live))
  | .invalid | .abandoned => inferInstanceAs (Decidable (assigned.matchID ∉ live))
  | .pending => .isTrue trivial

def isPrivateParty (assigned : Assignment) : Bool :=
  isPrivatePartyMode (normalizeMode assigned.mode assigned.matchID)

/-- What both handlers do with the answer: a private-party match is a conflict (`none`), another match
is superseded, and one that is over is cleared twice, by `ValidateAssignment` and by the handler. -/
def afterValidate (assigned : Assignment) : AssignmentStatus → Option Bool
  | .valid | .pending => if isPrivateParty assigned then none else some false
  | .abandoned | .invalid => some true

/-- What the environment chooses for a command: the time, the random part of the holder of the lock,
and what the other services answer. -/
structure Answer where
  now : ℤ := 0
  suffix : String := ""
  status : AssignmentStatus := .pending
  /-- The database says that the match has ended. -/
  ended : Bool := false
  /-- The node accepts the create request, and the match is live then. -/
  accepted : Bool := true
  starts : Bool := true
  /-- `AssignedPayload` can issue a ticket. -/
  payload : Bool := true

/-! ## The handlers -/

/-- Where the handler of a queue connection is: it checks the user's assignment, joins the queues,
polls for a match and launches it.  `close` is the deferred `Leave`. -/
inductive QueueAt where
  | check
  | validate (assigned : Assignment)
  | clear (assigned : Assignment) (again : Bool)
  | leave
  | join (rulesets : List GameRuleset)
  | poll (rulesets : List GameRuleset)
  | found (m : MatchFound)
  | drop (m : MatchFound)
  | launch (call : Call)
  | close

/-- A queue connection, with the profile and the rulesets of its user. -/
structure QueueSession where
  req : QueueJoinRequest
  rulesets : List GameRuleset
  at_ : QueueAt

/-- Where `startLobby` is: it checks the assignment of one player after the other and then launches
the match. -/
inductive LobbyAt where
  | check (done : List UserID) (userID : UserID) (rest : List UserID)
  | validate (done : List UserID) (userID : UserID) (rest : List UserID) (assigned : Assignment)
  | clear (done : List UserID) (userID : UserID) (rest : List UserID) (assigned : Assignment)
      (again : Bool)
  | launch (call : Call)

structure LobbyStart where
  found : MatchFound
  at_ : LobbyAt

/-- The loop of `startLobby` over the players. -/
def LobbyAt.loop (found : MatchFound) (suffix : String) (done : List UserID) : List UserID → LobbyAt
  | [] => .launch (Call.start found suffix)
  | userID :: rest => .check done userID rest

/-- The keys that `clearQueuedMatch` deletes, in all pools and rulesets. -/
def clearQueuedMatch (s : MatchStore.Store) (players : List UserID) : MatchStore.Store :=
  ((players.filter (!isBlank ·)) ×ˢ allQueuePools ×ˢ allQueueRulesets).foldl
    (fun s c => s.update c.2.1 c.2.2 fun q =>
      { q with matched := q.matched.erase (String.ofList (trimSpace c.1)) }) s

structure World where
  queue : MatchStore.Store
  coord : Coordinator.Store
  passes : Assoc ℕ (QueuePool × MatchStore.Proc) := ∅
  sessions : Assoc ℕ QueueSession := ∅
  starts : Assoc ℕ LobbyStart := ∅
  live : List MatchID := []
  issued : Assoc MatchID (List UserID) := ∅

/-- The stores and the live matches after a command, and where the handler goes on, unless it ends. -/
structure Result (P : Type) where
  queue : MatchStore.Store
  coord : Coordinator.Store
  live : List MatchID
  next : Option P

/-- Nothing is written. -/
def World.goto {P : Type} (w : World) (next : Option P) : Result P := ⟨w.queue, w.coord, w.live, next⟩

/-- The next command of `EnsureAssignment`, and what the handler does when it returns. -/
def World.launch {P : Type} (w : World) (singleTTL : ℤ) (x : Answer) (c : Call) (go : Call → P)
    (ok failed : Option P) : Result P :=
  let r := c.run w.coord singleTTL x.now x.accepted
  { queue := w.queue
    coord := r.store
    live := if r.sent.isSome ∧ x.accepted ∧ x.starts then c.found.matchID :: w.live else w.live
    next :=
      match r.next with
      | .inl c => some (go c)
      | .inr (.ok _) => ok
      | .inr (.error _) => failed }

variable (singleTTL : ℤ)

def QueueSession.pool (session : QueueSession) : QueuePool := poolForGuest session.req.isGuest

/-- The next command of a queue connection. -/
def QueueSession.run (session : QueueSession) (w : World) (x : Answer) : Result QueueAt :=
  match session.at_ with
  | .check =>
      match w.coord.getAssignmentByUser session.req.userID with
      | some assigned => w.goto (some (.validate assigned))
      | none => w.goto (some .leave)
  | .validate assigned => w.goto ((afterValidate assigned x.status).map (.clear assigned))
  | .clear assigned again =>
      { w.goto (some (if again then .clear assigned false else .leave)) with
        coord := w.coord.clearAssignment assigned }
  | .leave =>
      { w.goto (some (.join session.rulesets)) with
        queue := w.queue.leaveAllRulesets session.pool session.req.userID }
  | .join [] => w.goto (some (.poll session.rulesets))
  | .join (ruleset :: rulesets) =>
      { w.goto (some (.join rulesets)) with
        queue := (w.queue.join session.pool ruleset session.req x.now).2 }
  | .poll [] => w.goto (some (.poll session.rulesets))
  | .poll (ruleset :: rulesets) =>
      let q := (w.queue.queue session.pool ruleset).getDelMatch session.req.userID
      let next :=
        match q.1 with
        | some m => .found { m with config := normalizeMatchConfig m.config }
        | none => .poll rulesets
      { w.goto (some next) with queue := w.queue.update session.pool ruleset fun _ => q.2 }
  | .found m =>
      w.goto (some (if x.ended then .drop m else .launch (Call.start m x.suffix)))
  | .drop m =>
      { w.goto (some (.poll session.rulesets)) with queue := clearQueuedMatch w.queue m.players }
  | .launch c =>
      w.launch singleTTL x c .launch (if x.payload then none else some .close) (some .close)
  | .close =>
      { w.goto none with queue := w.queue.leave session.pool session.rulesets session.req.userID }

/-- The next command of `startLobby`. -/
def LobbyStart.run (start : LobbyStart) (w : World) (x : Answer) : Result LobbyAt :=
  match start.at_ with
  | .check done userID rest =>
      match w.coord.getAssignmentByUser userID with
      | some assigned => w.goto (some (.validate done userID rest assigned))
      | none => w.goto (some (.loop start.found x.suffix (done ++ [userID]) rest))
  | .validate done userID rest assigned =>
      w.goto ((afterValidate assigned x.status).map (.clear done userID rest assigned))
  | .clear done userID rest assigned again =>
      { w.goto (some (if again then .clear done userID rest assigned false
          else .loop start.found x.suffix (done ++ [userID]) rest)) with
        coord := w.coord.clearAssignment assigned }
  | .launch c => w.launch singleTTL x c .launch none none

/-- The assignment whose liveness `ValidateAssignment` is asked for. -/
def QueueAt.validating : QueueAt → Option Assignment
  | .validate assigned => some assigned
  | _ => none

def LobbyAt.validating : LobbyAt → Option Assignment
  | .validate _ _ _ assigned => some assigned
  | _ => none

/-- Where a handler is that may be left here: a queue connection while it joins or polls, and a call
that waits for the lock. -/
def QueueAt.left : QueueAt → Option (Option QueueAt)
  | .join _ => some none
  | .poll _ | .launch ⟨_, _, .wait⟩ => some (some .close)
  | _ => none

/-! ## The world -/

inductive Op where
  | register (rec : NodeRecord) (now : ℤ)
  | connect (id : ℕ) (req : QueueJoinRequest) (rulesets : List GameRuleset)
  | session (id : ℕ) (x : Answer)
  | hangUp (id : ℕ)
  | startLobby (id : ℕ) (snap : LobbySnapshot) (profiles : Assoc UserID PlayerProfile) (now : ℕ)
      (suffix : String)
  | lobby (id : ℕ) (x : Answer)
  | giveUp (id : ℕ)
  | matchmaking (id : ℕ) (pool : QueuePool) (ruleset : GameRuleset) (limit now : ℤ)
  | pass (id : ℕ) (now : ℤ)
  | heartbeat (pool : QueuePool) (ruleset : GameRuleset) (userID : UserID)
  | endMatch (matchID : MatchID)
  | clearArtifacts (players : List UserID)
  | terminalize (assigned : Assignment)

/-- What the outcome of a command of a queue connection makes of the world. -/
def World.settleSession (w : World) (id : ℕ) (session : QueueSession) (r : Result QueueAt) : World :=
  { w with
    queue := r.queue
    coord := r.coord
    live := r.live
    sessions :=
      match r.next with
      | some at_ => w.sessions.insert id { session with at_ := at_ }
      | none => w.sessions.erase id }

def World.settleLobby (w : World) (id : ℕ) (start : LobbyStart) (r : Result LobbyAt) : World :=
  { w with
    queue := r.queue
    coord := r.coord
    live := r.live
    starts :=
      match r.next with
      | some at_ => w.starts.insert id { start with at_ := at_ }
      | none => w.starts.erase id }

/-- The match that the next command of a pass records, and its players. -/
def made (now : ℤ) : MatchStore.Proc → Option MatchFound
  | .pass _ _ _ (.record _ self opponent _ _) => some (MatchStore.matchFromTickets opponent self now)
  | _ => none

/-- What the outcome of a command of a pass makes of the world. -/
def World.settlePass (w : World) (id : ℕ) (pool : QueuePool) (m : Option MatchFound)
    (r : MatchStore.Outcome × MatchStore.Store) : World :=
  { w with
    queue := r.2
    passes :=
      match r.1 with
      | .inl p => w.passes.insert id (pool, p)
      | .inr _ => w.passes.erase id
    issued :=
      match m with
      | some m => w.issued.insert m.matchID m.players
      | none => w.issued }

def World.step (w : World) : Op → Option World
  | .register rec now =>
      if rec.nodeID = "" then none
      else
        some { w with coord := w.coord.registerNode (w.coord.getNodeByID rec.nodeID) rec now }
  | .connect id req rulesets =>
      if id ∈ w.sessions ∨ isBlank req.userID then none
      else
        some { w with
          sessions := w.sessions.insert id ⟨req, normalizedRulesets rulesets, .check⟩ }
  | .session id x =>
      (w.sessions.lookup id).bind fun session =>
        if ∀ a ∈ session.at_.validating, x.status.Correct w.live a then
          some (w.settleSession id session (session.run singleTTL w x))
        else none
  | .hangUp id =>
      (w.sessions.lookup id).bind fun session =>
        session.at_.left.map fun next => w.settleSession id session (w.goto next)
  | .startLobby id snap profiles now suffix =>
      if id ∈ w.starts then none
      else
        match lobbyMatchFound snap (fun u => profiles.lookup u) now with
        | .error _ => none
        | .ok found =>
            some { w with
              starts := w.starts.insert id ⟨found, .loop found suffix [] found.players⟩
              issued := w.issued.insert found.matchID found.players }
  | .lobby id x =>
      (w.starts.lookup id).bind fun start =>
        if ∀ a ∈ start.at_.validating, x.status.Correct w.live a then
          some (w.settleLobby id start (start.run singleTTL w x))
        else none
  | .giveUp id =>
      match w.starts.lookup id with
      | some ⟨_, .launch ⟨_, _, .wait⟩⟩ => some { w with starts := w.starts.erase id }
      | _ => none
  | .matchmaking id pool ruleset limit now =>
      if id ∈ w.passes then none
      else
        some { w with
          passes := w.passes.insert id (pool, MatchStore.startMatchmaking ruleset limit now) }
  | .pass id now =>
      (w.passes.lookup id).map fun p =>
        w.settlePass id p.1 (made now p.2) (p.2.run p.1 w.queue now)
  | .heartbeat pool ruleset userID =>
      some { w with
        queue :=
          w.queue.update pool ruleset fun _ => ((w.queue.queue pool ruleset).heartbeat userID).2 }
  | .endMatch matchID => some { w with live := w.live.filter (· ≠ matchID) }
  | .clearArtifacts players => some { w with queue := clearQueuedMatch w.queue players }
  | .terminalize assigned =>
      if assigned.matchID ∈ w.live then none
      else some { w with coord := w.coord.clearAssignment assigned }

end GeoDuels.MatchCoordinator
