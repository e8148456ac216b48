import GeoDuels.Assignments.Commands
import GeoDuels.MatchCoordinator.Entry

/-!
# The requests

The functions that read, check and clear assignments and that register nodes, as programs of commands:
`ValidateAssignment` with its `clearEnded`, the handler that starts a singleplayer session up to its
call of `EnsureAssignment`, the end of a match on a node, `RegisterNode` and `RemoveNode`.
-/

namespace GeoDuels.Assignments

open Coordinator (Assignment NodeID NodeRecord isBlank normalizeMode)
open MatchCoordinator (AssignmentStatus)
open Prog (cmd)

/-! ## Single commands -/

namespace Request

abbrev now : Request ℤ := cmd Command.now
abbrev getAssignmentByUser (userID : UserID) : Request (Got Assignment) :=
  cmd (Command.getAssignmentByUser userID)
abbrev getRuntimeMatch (matchID : MatchID) : Request (Got RuntimeMatch) :=
  cmd (Command.getRuntimeMatch matchID)
abbrev getNodeRoute (route : String) : Request (Got NodeRecord) := cmd (Command.getNodeRoute route)
abbrev getNode (nodeID : String) : Request (Got NodeRecord) := cmd (Command.getNode nodeID)
abbrev probe (node : NodeRecord) (matchID : MatchID) : Request (Option ℕ) :=
  cmd (Command.probe node matchID)
abbrev terminate (node : NodeRecord) (matchID : MatchID) (userID : UserID) : Request (Option ℕ) :=
  cmd (Command.terminate node matchID userID)
abbrev clearAssignment (rec : Assignment) : Request Bool := cmd (Command.clearAssignment rec)
abbrev recordRuntimeMatch (matchID : MatchID) (state : MatchState) (ownerEpoch : ℤ)
    (terminal : Bool) : Request Bool :=
  cmd (Command.recordRuntimeMatch matchID state ownerEpoch terminal)
abbrev unregisterMatch (p : ProcessID) (matchID : MatchID) : Request (Option (List UserID)) :=
  cmd (Command.unregisterMatch p matchID)
abbrev registerNode (p : ProcessID) (existing : Option NodeRecord) (rec : NodeRecord) :
    Request Bool :=
  cmd (Command.registerNode p existing rec)
abbrev removeNode (p : ProcessID) (nodeID : NodeID) (existing : Option NodeRecord) : Request Bool :=
  cmd (Command.removeNode p nodeID existing)

end Request

/-! ## Checking an assignment -/

/-- `GetNodeByRoute`. -/
def getNodeByRoute (route : String) : Request (Got NodeRecord) :=
  if isBlank route then pure .missing
  else do
    match ← Request.getNodeRoute route with
    | .missing => Request.getNode route
    | got => pure got

/-- `clearEnded`; the errors are dropped. -/
def clearEnded (assigned : Assignment) : Request Unit := do
  let _ ← Request.clearAssignment assigned
  let _ ← Request.recordRuntimeMatch assigned.matchID .ended assigned.nodeEpoch true

/-- `matchEnded`; a failed read says no. -/
def matchEnded (matchID : MatchID) : Request Bool :=
  if matchID = "" then pure false
  else do
    match ← Request.getRuntimeMatch matchID with
    | .found row => pure (row.state = .ended)
    | .missing | .err => pure false

/-- What `ValidateAssignment` does when it takes the match to be gone. -/
def abandon (assigned : Assignment) : Request AssignmentStatus := do
  clearEnded assigned
  pure .abandoned

/-- What `ValidateAssignment` makes of the response of the node. -/
def judgeResponse (assigned : Assignment) (status : Option ℕ) : Request AssignmentStatus :=
  if status = some 200 then pure .valid
  else if status = some 404 then abandon assigned
  else pure .pending

/-- The request to the node of the assignment. -/
def probeNode (assigned : Assignment) (node : NodeRecord) : Request AssignmentStatus := do
  judgeResponse assigned (← Request.probe node assigned.matchID)

/-- `ValidateAssignment` from its look at the node on. -/
def validateNode (assigned : Assignment) : Request AssignmentStatus := do
  match ← getNodeByRoute assigned.publicRoute with
  | .err => pure .pending
  | .missing => if 0 < assigned.nodeEpoch then abandon assigned else pure .pending
  | .found node =>
      if 0 < assigned.nodeEpoch ∧ node.ownerEpoch ≠ assigned.nodeEpoch then abandon assigned
      else probeNode assigned node

/-- `ValidateAssignment` from its look at the database on. -/
def validateMatch (assigned : Assignment) : Request AssignmentStatus := do
  if ← matchEnded assigned.matchID then
    let _ ← Request.clearAssignment assigned
    pure .invalid
  else validateNode assigned

def validateAssignment (assigned : Assignment) : Request AssignmentStatus :=
  if assigned.matchID = "" then pure .invalid
  else do
    let now ← Request.now
    if 0 < assigned.recoverableUntil ∧ assigned.recoverableUntil < now then
      clearEnded assigned
      pure .invalid
    else validateMatch assigned

/-! ## Starting a singleplayer session -/

inductive MaintenancePhase where
  | normal | warning | active
  deriving DecidableEq

structure MaintenanceStatus where
  phase : MaintenancePhase := .normal
  playPaused : Bool := false
  message : String := ""

def maintenancePlayMessage (status : MaintenanceStatus) : String :=
  if status.message ≠ "" then status.message
  else
    match status.phase with
    | .active => "Maintenance in progress. New sessions are temporarily unavailable."
    | .warning => "New sessions have been paused for scheduled maintenance."
    | .normal => "Singleplayer unavailable"

/-- The columns of an identity that the handler reads. -/
structure Identity where
  isBanned : Bool := false
  onboarded : Bool := true
  authMigrationRequired : Bool := false

/-- Who asks for a session: the status of the maintenance, the subject of the claims and the identity,
as far as they can be read. -/
structure Caller where
  maintenance : Option MaintenanceStatus := some {}
  sub : Option UserID
  identity : Option Identity := some {}

/-- How the handler answers, or that it goes on to `EnsureAssignment`. -/
inductive Verdict where
  | refused (status : ℕ) (message : String)
  | conflict (code message : String)
  | start (userID : UserID)
  deriving DecidableEq

/-- The checks before the assignment is read. -/
def checkCaller (caller : Caller) : Except Verdict UserID := do
  let some status := caller.maintenance | throw (.refused 502 "singleplayer unavailable")
  if status.playPaused then throw (.refused 503 (maintenancePlayMessage status))
  let some userID := caller.sub | throw (.refused 401 "unauthorized")
  let some identity := caller.identity | throw (.refused 401 "identity not found")
  if identity.isBanned then throw (.refused 403 "account is banned")
  if !identity.onboarded then throw (.refused 403 "onboarding incomplete")
  if identity.authMigrationRequired then throw (.refused 403 "connect discord to continue")
  return userID

/-- The mode of an assignment, as the handlers normalize it. -/
def modeOf (assigned : Assignment) : MatchMode := normalizeMode assigned.mode assigned.matchID

def sessionConflict : Verdict :=
  .conflict "ACTIVE_DUEL_MATCH" "Finish or forfeit your active duel before starting singleplayer."

def sessionUnavailable : Verdict := .refused 502 "singleplayer unavailable"

/-- `replaceActiveSingleplayer`: whether it succeeds. -/
def replaceActiveSingleplayer (userID : UserID) (assigned : Assignment) : Request Bool := do
  match ← getNodeByRoute assigned.publicRoute with
  | .err => pure false
  | .missing => Request.clearAssignment assigned
  | .found node => do
      let status ← Request.terminate node assigned.matchID userID
      if status = some 200 ∨ status = some 404 then Request.clearAssignment assigned
      else pure false

/-- What the handler does with the answer of `ValidateAssignment`. -/
def settleExisting (userID : UserID) (assigned : Assignment) (status : AssignmentStatus) :
    Request Verdict :=
  match status with
  | .valid =>
      if modeOf assigned = .duel then pure sessionConflict
      else do
        if ← replaceActiveSingleplayer userID assigned then pure (.start userID)
        else pure sessionUnavailable
  | .pending =>
      if modeOf assigned = .duel then pure sessionConflict
      else do
        clearEnded assigned
        pure (.start userID)
  | .abandoned | .invalid => do
      let _ ← Request.clearAssignment assigned
      pure (.start userID)

/-- `startSingleplayerSession` up to the launch of the session. -/
def startSingleplayerSession (caller : Caller) : Request Verdict :=
  match checkCaller caller with
  | .error verdict => pure verdict
  | .ok userID => do
      match ← Request.getAssignmentByUser userID with
      | .found assigned =>
          let status ← validateAssignment assigned
          settleExisting userID assigned status
      | .missing | .err => pure (.start userID)

/-! ## The policy -/

/-- `sessionpolicy.Decision`. -/
inductive Decision where
  | ready | resume | replace | reject
  deriving DecidableEq

/-- `sessionpolicy.Resolve`. -/
def resolve (existingMode requestedMode : MatchMode) : Decision :=
  let existingMode := normalizeMode existingMode ""
  let requestedMode := normalizeMode requestedMode ""
  if requestedMode = .unset then .reject
  else if existingMode = .unset then .ready
  else
    match requestedMode, existingMode with
    | .singleplayer, .singleplayer => .replace
    | .singleplayer, _ => .reject
    | .duel, .duel => .resume
    | .duel, .singleplayer => .replace
    | .duel, _ => .reject
    | _, _ => if existingMode = requestedMode then .resume else .reject

/-! ## The end of a match -/

/-- The commands of `terminalize` that write the table of the matches and the assignments. -/
def terminalize (p : ProcessID) (nodeEpoch : ℤ) (matchID : MatchID) : Request Unit := do
  match ← Request.unregisterMatch p matchID with
  | none => pure ()
  | some players =>
      let _ ← Request.recordRuntimeMatch matchID .ended nodeEpoch true
      let _ ← Request.clearAssignment
        { matchID := matchID
          mode := .unset
          config := {}
          nodeID := ""
          nodeEpoch := 0
          publicRoute := ""
          players := players }

/-! ## Nodes -/

/-- The record with which a process registers itself. -/
def NodeProcess.record (proc : NodeProcess) (activeMatches : ℤ) (draining : Bool) : NodeRecord where
  nodeID := proc.nodeID
  ownerEpoch := proc.nodeEpoch
  publicRoute := proc.publicRoute
  internalURL := proc.internalURL
  activeMatches := activeMatches
  draining := draining

/-- `RegisterNode`, called by the process `p`. -/
def registerNode (p : ProcessID) (rec : NodeRecord) : Request Bool :=
  if rec.nodeID = "" ∨ rec.internalURL = "" then pure false
  else do
    match ← Request.getNode rec.nodeID with
    | .err => pure false
    | .missing => Request.registerNode p none rec
    | .found existing => Request.registerNode p (some existing) rec

/-- `RemoveNode`, called by the process `p`; a failed read counts as a missing record. -/
def removeNode (p : ProcessID) (nodeID : NodeID) : Request Bool :=
  if nodeID = "" then pure true
  else do
    match ← Request.getNode nodeID with
    | .found existing => Request.removeNode p nodeID (some existing)
    | .missing | .err => Request.removeNode p nodeID none

end GeoDuels.Assignments
