import GeoDuels.Coordinator.Store
import GeoDuels.GameplayNode.Lifecycle
import GeoDuels.Lib.Prog

/-!
# The commands of the coordination

The requests that look assignments up, check them and clear them, and the processes of the gameplay
nodes that register themselves, work on the coordinator's store, on the table `runtime_matches` and on
the nodes, by single commands: a Redis command or pipeline, a statement, a request to a node or a
locked section of it.  `serve` is what a command does.  A command that fails does nothing.
-/

namespace GeoDuels.Assignments

open Coordinator (Assignment NodeID NodeRecord isBlank trimSpace)

abbrev ProcessID := ℕ

/-- A process of a gameplay node: its settings and its matches. -/
structure NodeProcess where
  nodeID : NodeID
  nodeEpoch : ℤ
  publicRoute : String
  internalURL : String
  node : GameplayNode.Node

/-- A row of `runtime_matches`. -/
structure RuntimeMatch where
  state : MatchState
  ownerEpoch : ℤ
  startedAt : ℤ
  endedAt : Option ℤ := none

/-- An assignment that was saved or cleared: its match and the players whose keys were written. -/
inductive Touch where
  | saved (matchID : MatchID) (players : List UserID)
  | cleared (matchID : MatchID) (players : List UserID)

/-- What the commands work on, with a record of the assignments that were saved and cleared, the last
one first, and of the processes that registered: those that have not removed themselves since, and the
last one to do so under each node id and each route. -/
structure Shared where
  coord : Coordinator.Store := {}
  runtime : Assoc MatchID RuntimeMatch := ∅
  processes : Assoc ProcessID NodeProcess := ∅
  touched : List Touch := []
  registered : List ProcessID := []
  nodeWriter : Assoc NodeID ProcessID := ∅
  routeWriter : Assoc String ProcessID := ∅

/-! ## Commands -/

/-- The reply to a read. -/
inductive Got (α : Type) where
  | err
  | missing
  | found (a : α)

def Got.ofOption {α : Type} : Option α → Got α
  | none => .missing
  | some a => .found a

inductive Command where
  | now
  | getAssignmentByUser (userID : UserID)
  | getRuntimeMatch (matchID : MatchID)
  /-- The two keys of a node: under its route and under its id. -/
  | getNodeRoute (route : String)
  | getNode (nodeID : String)
  /-- `HEAD` of the match at the node's internal URL. -/
  | probe (node : NodeRecord) (matchID : MatchID)
  | terminate (node : NodeRecord) (matchID : MatchID) (userID : UserID)
  | clearAssignment (rec : Assignment)
  | recordRuntimeMatch (matchID : MatchID) (state : MatchState) (ownerEpoch : ℤ) (terminal : Bool)
  /-- The locked section of `terminalize`. -/
  | unregisterMatch (p : ProcessID) (matchID : MatchID)
  | registerNode (p : ProcessID) (existing : Option NodeRecord) (rec : NodeRecord)
  | removeNode (p : ProcessID) (nodeID : NodeID) (existing : Option NodeRecord)

/-- A request to a node is answered by a status code, unless there is no response. -/
def Command.Reply : Command → Type
  | .now => ℤ
  | .getAssignmentByUser _ => Got Assignment
  | .getRuntimeMatch _ => Got RuntimeMatch
  | .getNodeRoute _ | .getNode _ => Got NodeRecord
  | .probe .. | .terminate .. => Option ℕ
  | .clearAssignment _ | .recordRuntimeMatch .. | .registerNode .. | .removeNode .. => Bool
  | .unregisterMatch .. => Option (List UserID)

/-- What a command meets: the time, whether it fails, and for a request to a node its clock and the
process that receives it, or the status with which it is answered before it reaches one. -/
structure Choice where
  now : ℤ := 0
  fails : Bool := false
  clk : Clock := .still 0
  process : ProcessID := 0
  status : Option ℕ := none
  order : List MatchMode := []

abbrev Request (α : Type) := Prog Command Command.Reply α

/-! ## Requests to a node -/

/-- `matchStatus`. -/
def matchStatus (x : Choice) (matchID : MatchID) (n : GameplayNode.Node) : ℕ :=
  let matchID := String.ofList (trimSpace matchID)
  if matchID = "" then 400
  else if (n.getSnapshot x.clk x.order matchID).isSome then 200 else 404

/-- `terminateMatch`; the match that it ends is cleaned up by a `terminalize` of its own. -/
def terminateMatch (x : Choice) (matchID : MatchID) (userID : UserID) (n : GameplayNode.Node) :
    ℕ × GameplayNode.Node :=
  let matchID := String.ofList (trimSpace matchID)
  if matchID = "" then (400, n)
  else
    match n.getSnapshot x.clk x.order matchID with
    | none => (404, n)
    | some snap =>
        if isBlank userID then (400, n)
        else if snap.mode ≠ .singleplayer then (409, n)
        else
          match n.runtimeForMatch matchID with
          | none => (404, n)
          | some r =>
              let a := r.forfeit x.clk matchID userID
              let n := { n with runtimes := n.runtimes.insert (n.modeOf matchID) a.2 }
              match a.1 with
              | .error _ => (502, n)
              | .ok _ => (200, n)

/-- The process `p` goes on with the node `n`. -/
def Shared.setNode (s : Shared) (p : ProcessID) (n : GameplayNode.Node) : Shared :=
  { s with processes := s.processes.modify p ({ · with node := n }) }

/-- A request to the process of the choice: its status and the node that it leaves. -/
def Shared.ask (s : Shared) (x : Choice) (f : GameplayNode.Node → ℕ × GameplayNode.Node) :
    Option ℕ × Shared :=
  if x.fails then (none, s)
  else
    match x.status, s.processes.lookup x.process with
    | some status, _ => (some status, s)
    | none, none => (none, s)
    | none, some proc => (some (f proc.node).1, s.setNode x.process (f proc.node).2)

/-! ## What a command does -/

/-- The row that `RecordRuntimeMatch` writes. -/
def recordedMatch (old : Option RuntimeMatch) (state : MatchState) (ownerEpoch now : ℤ)
    (terminal : Bool) : RuntimeMatch where
  state := state
  ownerEpoch := ownerEpoch
  startedAt := (old.map (·.startedAt)).getD now
  endedAt := if terminal then some now else old.bind (·.endedAt)

/-- A read: its reply, unless it fails. -/
def read {α : Type} (x : Choice) (v : Option α) : Got α := if x.fails then .err else .ofOption v

/-- A write: whether it succeeds, and the state after it. -/
def write (x : Choice) (s s' : Shared) : Bool × Shared := if x.fails then (false, s) else (true, s')

namespace Shared

variable (s : Shared)

/-- `RecordRuntimeMatch`. -/
def recordRuntimeMatch (x : Choice) (matchID : MatchID) (state : MatchState) (ownerEpoch : ℤ)
    (terminal : Bool) : Bool × Shared :=
  if matchID = "" then (false, s)
  else
    let row := recordedMatch (s.runtime.lookup matchID) state ownerEpoch x.now terminal
    write x s { s with runtime := s.runtime.insert matchID row }

/-- The locked section of `terminalize`: the players, if the match is registered. -/
def unregisterMatch (p : ProcessID) (matchID : MatchID) : Option (List UserID) × Shared :=
  match s.processes.lookup p with
  | none => (none, s)
  | some proc =>
      match proc.node.matchUsers.lookup matchID with
      | none => (none, s)
      | some players =>
          (some players, s.setNode p
            { proc.node with
              matchUsers := proc.node.matchUsers.erase matchID
              matchModes := proc.node.matchModes.erase matchID })

/-- The pipeline of `ClearAssignment`. -/
def clear (rec : Assignment) : Shared :=
  if rec.matchID = "" then s
  else
    { s with
      coord := s.coord.clearAssignment rec
      touched := .cleared rec.matchID rec.players :: s.touched }

/-- The pipeline of `RegisterNode`, sent by the process `p`. -/
def register (p : ProcessID) (existing : Option NodeRecord) (rec : NodeRecord) (now : ℤ) : Shared :=
  { s with
    coord := s.coord.registerNode existing rec now
    registered := if p ∈ s.registered then s.registered else p :: s.registered
    nodeWriter := s.nodeWriter.insert rec.nodeID p
    routeWriter := s.routeWriter.insert (Coordinator.Store.nodeRecord rec now).publicRoute p }

/-- The pipeline of `RemoveNode`, sent by the process `p`. -/
def remove (p : ProcessID) (nodeID : NodeID) (existing : Option NodeRecord) : Shared :=
  { s with
    coord := s.coord.removeNode nodeID existing
    registered := s.registered.filter (· ≠ p) }

end Shared

def serve : (c : Command) → Choice → Shared → c.Reply × Shared
  | .now, x, s => (x.now, s)
  | .getAssignmentByUser userID, x, s => (read x (s.coord.getAssignmentByUser userID), s)
  | .getRuntimeMatch matchID, x, s => (read x (s.runtime.lookup matchID), s)
  | .getNodeRoute route, x, s => (read x (Coordinator.Store.getNode s.coord.nodeRoute route), s)
  | .getNode nodeID, x, s => (read x (Coordinator.Store.getNode s.coord.node nodeID), s)
  | .probe _ matchID, x, s => s.ask x fun n => (matchStatus x matchID n, n)
  | .terminate _ matchID userID, x, s => s.ask x (terminateMatch x matchID userID)
  | .clearAssignment rec, x, s => write x s (s.clear rec)
  | .recordRuntimeMatch matchID state ownerEpoch terminal, x, s =>
      s.recordRuntimeMatch x matchID state ownerEpoch terminal
  | .unregisterMatch p matchID, _, s => s.unregisterMatch p matchID
  | .registerNode p existing rec, x, s => write x s (s.register p existing rec x.now)
  | .removeNode p nodeID existing, x, s => write x s (s.remove p nodeID existing)

end GeoDuels.Assignments
