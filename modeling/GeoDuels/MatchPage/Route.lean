import GeoDuels.MatchPage.Controller

/-!
# The route of a match page

`MatchRouteController` finds out what the page of a match has to show.  Each run of `resolve` waits for one
answer after the other, and a page that goes to another match aborts the request of the run before, but not
the session refresh that it may wait for.  A step is one call, one change of the match controller or one
answer with what follows it.  The session that a bootstrap brings is left out, and so is what `resolve`
sends.
-/

namespace GeoDuels.MatchPage

inductive MatchRouteStatus where
  | idle | bootstrappingAuth | resolving | awaitingFirstSnapshot | history | replaced | missing | forbidden
  deriving DecidableEq

structure SourceLobby where
  sourceLobbyId : String
  sourceLobbyInviteCode : String

/-- The answers of `resolveMatchRoute` and those of `bootstrapMatchSession` about the match. -/
inductive RouteResponse where
  | liveConnectable (assigned : Assigned)
  | liveAuthRequired (matchId : String)
  | history (matchId : String) (snapshot : Option Snapshot) (replacementMatchId : String)
      (sourceLobby : Option SourceLobby)
  | replaced (matchId : String) (replacementMatchId : String) (replacement : Option Assigned)
      (sourceLobby : Option SourceLobby)
  | missing (matchId : String)
  | forbidden (matchId : String)

structure MatchRouteState where
  targetMatchId : String := ""
  status : MatchRouteStatus := .idle
  historySnapshot : Option Snapshot := none
  replacement : Option RouteResponse := none

/-- What a run of `resolve` waits for: an answer of `resolveMatchRoute`, of `bootstrapMatchSession`, of
`ensureFreshSession`, of the second `resolveMatchRoute` or of `resumeResolvedMatch`. -/
inductive ResolvePhase where
  | routing | bootstrapping | ensuring | routingAgain | resuming
  deriving DecidableEq

/-- A run of `resolve`; `aborted` is the signal of its requests. -/
structure Resolve where
  matchId : String
  phase : ResolvePhase := .routing
  aborted : Bool := false

/-- `requestController` is the number of the run that has made it. -/
structure RoutePage where
  state : MatchRouteState := {}
  requestController : Option ℕ := none
  resolveSeq : ℕ := 0
  resolves : Assoc ℕ Resolve := ∅
  started : Bool := false

namespace RoutePage

def patchState (patch : MatchRouteState → MatchRouteState) (p : RoutePage) : RoutePage :=
  { p with state := patch p.state }

def clearPendingWork (p : RoutePage) : RoutePage :=
  { p with
    resolves := p.requestController.elim p.resolves fun seq =>
      Assoc.modify seq (fun r => { r with aborted := true }) p.resolves
    requestController := none }

/-- `resolve` up to the first request. -/
def resolve (matchId : String) (p : RoutePage) : RoutePage :=
  let p := p.clearPendingWork
  let seq := p.resolveSeq + 1
  { p with
    resolveSeq := seq
    requestController := some seq
    resolves := p.resolves.insert seq { matchId := matchId } }
  |>.patchState fun s => { s with historySnapshot := none, replacement := none, status := .resolving }

/-- The argument comes trimmed, and empty when there is none. -/
def setTargetMatch (nextMatchId : String) (p : RoutePage) : RoutePage :=
  if nextMatchId = "" then
    p.clearPendingWork.patchState fun _ => { targetMatchId := "", status := .missing }
  else if p.state.targetMatchId = nextMatchId ∧ p.state.status ≠ .missing then p
  else
    p.clearPendingWork.patchState (fun _ => { targetMatchId := nextMatchId, status := .idle })
    |>.resolve nextMatchId

def reset (p : RoutePage) : RoutePage := p.clearPendingWork.patchState fun _ => {}

/-- The subscriber of the match controller. -/
def onMatchChange (m : MatchState) (p : RoutePage) : RoutePage :=
  if p.state.status ≠ .awaitingFirstSnapshot then p
  else if m.snapshot.any fun snapshot =>
      snapshot.matchId ≠ "" ∧ snapshot.matchId = p.state.targetMatchId then
    p.patchState fun s => { s with status := .idle }
  else if m.matchmaking.status = .abandoned ∧ m.activeMatchId = p.state.targetMatchId then
    p.patchState fun s => { s with status := .missing }
  else p

/-- `seq !== this.resolveSeq || this.state.targetMatchId !== matchId` fails. -/
def IsCurrent (p : RoutePage) (seq : ℕ) (matchId : String) : Prop :=
  seq = p.resolveSeq ∧ p.state.targetMatchId = matchId

instance (p : RoutePage) (seq : ℕ) (matchId : String) : Decidable (p.IsCurrent seq matchId) :=
  inferInstanceAs (Decidable (_ ∧ _))

/-- The run goes on to wait for something else. -/
def waitFor (seq : ℕ) (r : Resolve) (phase : ResolvePhase) (p : RoutePage) : RoutePage :=
  { p with resolves := p.resolves.insert seq { r with phase := phase } }

/-- The run ends, with its `finally` block. -/
def finish (seq : ℕ) (p : RoutePage) : RoutePage :=
  { p with
    requestController := if p.requestController = some seq then none else p.requestController
    resolves := p.resolves.erase seq }

/-- The run ends, and the page shows how, unless it is about something else by now. -/
def conclude (seq : ℕ) (matchId : String) (patch : MatchRouteState → MatchRouteState) (p : RoutePage) :
    RoutePage :=
  if p.IsCurrent seq matchId then (p.patchState patch).finish seq else p.finish seq

def handleResolvedMatch (seq : ℕ) (r : Resolve) (resolved : RouteResponse) (p : RoutePage) : RoutePage :=
  match resolved with
  | .liveConnectable _ =>
      if p.IsCurrent seq r.matchId then p.waitFor seq r .resuming else p.finish seq
  | .history _ snapshot _ _ =>
      p.conclude seq r.matchId fun s =>
        { s with status := .history, historySnapshot := snapshot, replacement := some resolved }
  | .replaced .. =>
      p.conclude seq r.matchId fun s =>
        { s with status := .replaced, replacement := some resolved, historySnapshot := none }
  | .liveAuthRequired _ | .forbidden _ =>
      p.conclude seq r.matchId fun s =>
        { s with status := .forbidden, historySnapshot := none, replacement := none }
  | .missing _ =>
      p.conclude seq r.matchId fun s =>
        { s with status := .missing, historySnapshot := none, replacement := none }

/-- The first `resolveMatchRoute` has answered; `session` says whether there is one. -/
def onRouted (seq : ℕ) (r : Resolve) (resolved : RouteResponse) (session : Bool) (p : RoutePage) :
    RoutePage :=
  match resolved with
  | .liveAuthRequired _ =>
      if session then p.waitFor seq r .ensuring
      else (p.patchState fun s => { s with status := .bootstrappingAuth }).waitFor seq r .bootstrapping
  | resolved => p.handleResolvedMatch seq r resolved

def onBootstrapped (seq : ℕ) (r : Resolve) (bootstrapped : Option RouteResponse) (p : RoutePage) : RoutePage :=
  match bootstrapped with
  | none => p.conclude seq r.matchId fun s => { s with status := .forbidden }
  | some resolved => p.handleResolvedMatch seq r resolved

/-- `ensureFreshSession` has answered, with a session or without. -/
def onEnsured (seq : ℕ) (r : Resolve) (session : Bool) (p : RoutePage) : RoutePage :=
  if session then (p.patchState fun s => { s with status := .resolving }).waitFor seq r .routingAgain
  else p.conclude seq r.matchId fun s => { s with status := .forbidden }

def onResumed (seq : ℕ) (r : Resolve) (ok : Bool) (p : RoutePage) : RoutePage :=
  p.conclude seq r.matchId fun s => { s with status := if ok then .awaitingFirstSnapshot else .missing }

/-- The `catch` block. -/
def onFailed (seq : ℕ) (r : Resolve) (abortError : Bool) (p : RoutePage) : RoutePage :=
  if abortError then p.finish seq else p.conclude seq r.matchId fun s => { s with status := .missing }

end RoutePage

/-- Whether a run waits for a request that its signal aborts. -/
def ResolvePhase.isRequest : ResolvePhase → Bool
  | .routing | .bootstrapping | .routingAgain => true
  | .ensuring | .resuming => false

/-- A request that has been aborted fails with an `AbortError`, and nothing else does. -/
def Resolve.isAbortError (r : Resolve) : Bool := r.phase.isRequest && r.aborted

inductive RouteEvent where
  | start
  | destroy
  | reset
  | setTargetMatch (nextMatchId : String)
  | matchChanged (m : MatchState)
  | routed (seq : ℕ) (resolved : RouteResponse) (session : Bool)
  | bootstrapped (seq : ℕ) (bootstrapped : Option RouteResponse)
  | ensured (seq : ℕ) (session : Bool)
  | resumed (seq : ℕ) (ok : Bool)
  | failed (seq : ℕ)

namespace RoutePage

/-- The run `seq` waits for something else than the answer of an aborted request. -/
def pending (p : RoutePage) (seq : ℕ) : Option Resolve :=
  (p.resolves.lookup seq).filter fun r => !r.isAbortError

/-- The event and what follows it; `none` when the event cannot happen. -/
def step (p : RoutePage) : RouteEvent → Option RoutePage
  | .start => some { p with started := true }
  | .destroy => some { p.clearPendingWork with started := false }
  | .reset => some p.reset
  | .setTargetMatch nextMatchId => some (p.setTargetMatch nextMatchId)
  | .matchChanged m => if p.started then some (p.onMatchChange m) else none
  | .routed seq resolved session =>
      (p.pending seq).bind fun r =>
        match r.phase with
        | .routing => some (p.onRouted seq r resolved session)
        | .routingAgain => some (p.handleResolvedMatch seq r resolved)
        | _ => none
  | .bootstrapped seq bootstrapped =>
      (p.pending seq).bind fun r =>
        if r.phase = .bootstrapping then some (p.onBootstrapped seq r bootstrapped) else none
  | .ensured seq session =>
      (p.pending seq).bind fun r =>
        if r.phase = .ensuring then some (p.onEnsured seq r session) else none
  | .resumed seq ok =>
      (p.pending seq).bind fun r => if r.phase = .resuming then some (p.onResumed seq r ok) else none
  | .failed seq => (p.resolves.lookup seq).map fun r => p.onFailed seq r r.isAbortError

end RoutePage

end GeoDuels.MatchPage
