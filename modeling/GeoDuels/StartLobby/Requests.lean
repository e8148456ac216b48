import GeoDuels.MatchCoordinator.Entry
import GeoDuels.MatchLaunch.Spec
import GeoDuels.Persistence.Spec

/-!
# Requests that start a lobby

`startLobby` with its SQL statements and Redis commands: it reads the lobby and then its members, checks
the assignments of the players, has the match created and its assignment saved by `EnsureAssignment`,
and only then marks the lobby.  Between two of its steps other requests, the statements of other
lobby operations, nodes and matches that end may come.  What it publishes and reads after it has
marked the lobby changes nothing and is one step.
-/

namespace GeoDuels.StartLobby

open Coordinator (Assignment NodeRecord isBlank)
open MatchCoordinator (Answer LobbyAt LobbyMember LobbySnapshot afterValidate lobbyMatchFound)
open MatchLaunch (Call)
open Persistence (DB LobbyID LobbyRow MemberRow Role lobbyRow trim)
open ReadCommitted (view)

/-! ## Requests -/

/-- Where a request is; `found` is the match that it starts. -/
inductive At where
  | lobby
  | members (row : LobbyRow)
  | start (found : MatchFound) (at_ : LobbyAt)
  | mark (found : MatchFound) (assigned : Assignment)
  | payload (found : MatchFound) (assigned : Assignment)

structure Request where
  lobbyID : LobbyID
  /-- The subject of the claims. -/
  userID : UserID
  at_ : At

/-- What a request is answered by the other services: the settings of the lobby, whether its members are
online, and the columns of the users. -/
structure Reply where
  answer : Answer := {}
  config : MatchConfig := {}
  online : Bool := true
  users : Assoc UserID LobbyMember := ∅
  profiles : Assoc UserID PlayerProfile := ∅
  /-- The clock of `strconvTimeID`. -/
  nanos : ℕ := 0

/-- The snapshot that `GetLobbyByID` and the settings make of the rows. -/
def snapshot (lobbyID : LobbyID) (row : LobbyRow) (members : List (UserID × MemberRow)) (x : Reply) :
    LobbySnapshot where
  id := lobbyID
  inviteCode := row.inviteCode
  state := row.state
  mode := row.mode
  mapScope := row.mapScope
  config := x.config
  members := members.map fun m =>
    { (x.users.lookup m.1).getD { userID := m.1 } with
      userID := m.1
      teamID := m.2.teamID.getD "" }

/-- What a step of a request leaves: the rows, the store, the match that a node has created for it, and
where it goes on, unless it has answered. -/
structure Outcome where
  db : DB
  coord : Coordinator.Store
  created : Option MatchID := none
  next : Option At := none

/-- The checks before the match is launched. -/
def runStart (coord : Coordinator.Store) (found : MatchFound) (x : Answer) :
    LobbyAt → Coordinator.Store × Option LobbyAt
  | .check done userID rest =>
      match coord.getAssignmentByUser userID with
      | some assigned => (coord, some (.validate done userID rest assigned))
      | none => (coord, some (.loop found x.suffix (done ++ [userID]) rest))
  | .validate done userID rest assigned =>
      (coord, (afterValidate assigned x.status).map (.clear done userID rest assigned))
  | .clear done userID rest assigned again =>
      (coord.clearAssignment assigned,
        some (if again then .clear done userID rest assigned false
          else .loop found x.suffix (done ++ [userID]) rest))
  | .launch c => (coord, some (.launch c))

variable (singleTTL : ℤ)

def Request.run (r : Request) (db : DB) (coord : Coordinator.Store) (x : Reply) : Outcome :=
  match r.at_ with
  | .lobby =>
      if isBlank r.lobbyID then { db := db, coord := coord }
      else { db := db, coord := coord, next := (lobbyRow db r.lobbyID).map .members }
  | .members row =>
      let snap := snapshot r.lobbyID row (Persistence.listLobbyMembers db r.lobbyID) x
      if row.ownerUserID ≠ r.userID ∨ ¬ x.online then { db := db, coord := coord }
      else
        match lobbyMatchFound snap (fun u => x.profiles.lookup u) x.nanos with
        | .error _ => { db := db, coord := coord }
        | .ok found =>
            { db := db, coord := coord, next := some (.start found (.loop found x.answer.suffix [] found.players)) }
  | .start found (.launch c) =>
      let l := c.run coord singleTTL x.answer.now x.answer.accepted
      { db := db
        coord := l.store
        created := if l.sent.isSome ∧ x.answer.accepted then some c.found.matchID else none
        next :=
          match l.next with
          | .inl c => some (.start found (.launch c))
          | .inr (.ok assigned) => some (.mark found assigned)
          | .inr (.error _) => none }
  | .start found at_ =>
      let s := runStart coord found x.answer at_
      { db := db, coord := s.1, next := s.2.map (.start found) }
  | .mark found assigned =>
      match Persistence.markLobbyInMatch db r.lobbyID x.nanos found.matchID with
      | (.error _, db) => { db := db, coord := coord }
      | (.ok _, db) => { db := db, coord := coord, next := some (.payload found assigned) }
  | .payload _ _ => { db := db, coord := coord }

/-! ## Other lobby operations -/

/-- A statement of another lobby operation. -/
inductive Statement where
  | upsertMember (lobbyID : LobbyID) (userID : UserID) (now : ℕ) (role : Role)
  | markLeft (lobbyID : LobbyID) (userID : UserID) (now : ℕ)
  | markKicked (lobbyID : LobbyID) (userID : UserID) (now : ℕ)
  | setTeam (lobbyID : LobbyID) (userID : UserID) (teamID : TeamID)
  | setRole (lobbyID : LobbyID) (userID target : UserID)
  | setOwner (lobbyID : LobbyID) (userID : UserID) (now : ℕ)
  | setMode (lobbyID : LobbyID) (mode : MatchMode) (now : ℕ)
  | touch (lobbyID : LobbyID) (now : ℕ)
  | expire (lobbyID : LobbyID) (now : ℕ)
  | close (lobbyID : LobbyID) (now : ℕ)

/-- The rows that the statement writes. -/
def Statement.rows (db : DB) : Statement → DB
  | .upsertMember lobbyID userID now role => Persistence.upsertMember db lobbyID userID now role
  | .markLeft lobbyID userID now => Persistence.markLeft db lobbyID userID now
  | .markKicked lobbyID userID now => Persistence.markKicked db lobbyID userID now
  | .setTeam lobbyID userID teamID =>
      Persistence.updateActiveMember db lobbyID userID ({ · with teamID := some teamID })
  | .setRole lobbyID userID target => Persistence.setRole db lobbyID userID target
  | .setOwner lobbyID userID now => Persistence.setOwner db lobbyID userID now
  | .setMode lobbyID mode now => Persistence.updateOpenLobby db lobbyID now ({ · with mode := mode })
  | .touch lobbyID now => Persistence.touchLobby db lobbyID now
  | .expire lobbyID now => Persistence.expireLobby db lobbyID now
  | .close lobbyID now => Persistence.closeLobby db lobbyID now

/-! ## The world -/

structure World where
  db : DB
  coord : Coordinator.Store
  requests : Assoc ℕ Request := ∅
  /-- The matches that nodes have created for the requests of a lobby. -/
  created : List (LobbyID × MatchID) := []
  /-- The matches that `runtime_matches` says have ended. -/
  ended : List MatchID := []

inductive Op where
  | startLobby (id : ℕ) (lobbyID : String) (userID : UserID)
  | request (id : ℕ) (x : Reply)
  /-- The time of a request is over that waits for the lock of its match. -/
  | giveUp (id : ℕ)
  | statement (s : Statement)
  | reopenEndedLobbies (now : ℕ)
  | endMatch (matchID : MatchID)
  | clearAssignment (assigned : Assignment)
  | registerNode (rec : NodeRecord) (now : ℤ)

/-- The world after a step of a request. -/
def World.settle (w : World) (id : ℕ) (r : Request) (o : Outcome) : World :=
  { w with
    db := o.db
    coord := o.coord
    requests :=
      match o.next with
      | some at_ => w.requests.insert id { r with at_ := at_ }
      | none => w.requests.erase id
    created :=
      match o.created with
      | some matchID => (r.lobbyID, matchID) :: w.created
      | none => w.created }

def World.step (w : World) : Op → Option World
  | .startLobby id lobbyID userID =>
      if id ∈ w.requests then none
      else some { w with requests := w.requests.insert id ⟨trim lobbyID, userID, .lobby⟩ }
  | .request id x =>
      (w.requests.lookup id).map fun r => w.settle id r (r.run singleTTL w.db w.coord x)
  | .giveUp id =>
      match w.requests.lookup id with
      | some ⟨_, _, .start _ (.launch ⟨_, _, .wait⟩)⟩ =>
          some { w with requests := w.requests.erase id }
      | _ => none
  | .statement s => some { w with db := view (s.rows w.db) w.db }
  | .reopenEndedLobbies now =>
      some { w with db := (Persistence.reopenEndedLobbies w.db now fun m => m ∈ w.ended).2 }
  | .endMatch matchID => some { w with ended := matchID :: w.ended }
  | .clearAssignment assigned => some { w with coord := w.coord.clearAssignment assigned }
  | .registerNode rec now =>
      if rec.nodeID = "" then none
      else some { w with coord := w.coord.registerNode (w.coord.getNodeByID rec.nodeID) rec now }

end GeoDuels.StartLobby
