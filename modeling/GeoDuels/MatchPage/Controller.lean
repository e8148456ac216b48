import GeoDuels.MatchPage.Reducer
import GeoDuels.Lib.Assoc
import GeoDuels.Lib.Run

/-!
# The match page and its socket

`MatchController` with its `GameplaySocketClient`: the web sockets of the page with their ready states, the
timer for the first snapshot and the request of a recovery are what events are still to come from, and a
step is one event with its handler.  The auth session is valid whenever the page asks for it.  The queue,
the calls that tear the page down and those that send commands are left out.
-/

namespace GeoDuels.MatchPage

structure RuntimeConfig where
  connectionErrorMessage : String
  gameConnectionErrorMessage : String
  socketStaleAfterMs : ℤ

structure AuthSessionSnapshot where
  userId : String
  accessToken : String
  onboardingRequired : Bool
  deriving DecidableEq

def AuthSessionSnapshot.Valid (session : AuthSessionSnapshot) : Prop :=
  session.userId ≠ "" ∧ session.accessToken ≠ "" ∧ session.onboardingRequired = false

instance (session : AuthSessionSnapshot) : Decidable session.Valid := inferInstanceAs (Decidable (_ ∧ _))

/-- What the session controller answers as long as the auth session is valid. -/
abbrev ValidSession := { session : AuthSessionSnapshot // session.Valid }

structure Snapshot where
  matchId : String
  state : String
  eventSequence : ℤ
  deriving DecidableEq

structure MatchState where
  matchmaking : MatchmakingState := {}
  connected : Bool := false
  snapshot : Option Snapshot := none
  activeMatchId : String := ""
  sourceLobbyId : String := ""
  sourceLobbyInviteCode : String := ""
  queueError : String := ""
  connectionIssue : String := ""
  deriving DecidableEq

/-! ## Sockets and requests -/

/-- A closed socket is gone. -/
inductive ReadyState where
  | connecting | «open» | closing
  deriving DecidableEq

structure ManagedSocket where
  readyState : ReadyState := .connecting
  expectedClose : Bool := false
  deriving DecidableEq

/-- A run of `startRecover` waits for the session and then for `fetchMatchSession`. -/
inductive RecoverPhase where
  | ensuring | fetching
  deriving DecidableEq

structure Recovery where
  requestID : ℕ
  intentVersionAtStart : ℕ
  phase : RecoverPhase := .ensuring
  deriving DecidableEq

structure Assigned where
  matchId : String
  node : String
  ticket : String
  sourceLobbyId : String := ""
  sourceLobbyInviteCode : String := ""

/-- The answers of `fetchMatchSession`. -/
inductive MatchSessionResponse where
  | liveConnectable (assigned : Assigned)
  | liveAuthRequired
  | history (matchId : String) (snapshot : Option Snapshot)
  | replaced
  | missing
  | forbidden

/-- What `onmessage` distinguishes; an ack of a failed command comes with its message. -/
inductive Message where
  | malformed
  | ack (error : Option String)
  | snapshot (snapshot : Snapshot)
  | other

/-- `recoverAbort` is the request that it would abort, `firstSnapshotTimeout` the match of the armed timer,
`received` all snapshots that have come, and `opened` the number of sockets made so far. -/
structure Page where
  state : MatchState := {}
  activeSession : Option AuthSessionSnapshot := none
  recoverInFlight : Bool := false
  recoverRequestId : ℕ := 0
  recoverAbort : Option ℕ := none
  recovery : Option Recovery := none
  lastSocketOpenedAt : ℤ := 0
  lastServerSeenAt : ℤ := 0
  firstSnapshotTimeout : Option String := none
  awaitingFirstSnapshotMatchId : String := ""
  firstSnapshotRecoverAttempts : ℕ := 0
  socket : Option ℕ := none
  sockets : Assoc ℕ ManagedSocket := ∅
  opened : ℕ := 0
  received : List Snapshot := []

namespace Page

/-! ## `GameplaySocketClient` -/

def current (p : Page) : Option ManagedSocket := p.socket.bind p.sockets.lookup

def isOpen (p : Page) : Bool := p.current.any fun s => s.readyState = .open

def isOpenOrConnecting (p : Page) : Bool :=
  p.current.any fun s => s.readyState = .open ∨ s.readyState = .connecting

def close (expected : Bool) (p : Page) : Page :=
  { p with
    socket := none
    sockets := p.socket.elim p.sockets fun id =>
      Assoc.modify id (fun s => { s with expectedClose := expected, readyState := .closing }) p.sockets }

def connect (p : Page) : Page :=
  let p := p.close true
  { p with
    socket := some p.opened
    sockets := p.sockets.insert p.opened {}
    opened := p.opened + 1 }

/-! ## `MatchController` -/

variable (config : RuntimeConfig)

def patchState (patch : MatchState → MatchState) (p : Page) : Page := { p with state := patch p.state }

def dispatchMatchmaking (action : MatchmakingAction) (p : Page) : Page :=
  p.patchState fun s => { s with matchmaking := matchmakingReducer s.matchmaking action }

def noteServerActivity (now : ℤ) (p : Page) : Page :=
  let nextQueueError :=
    if p.state.queueError = config.connectionErrorMessage then "" else p.state.queueError
  let p := { p with lastServerSeenAt := now }
  if p.state.connected ∧ p.state.connectionIssue = "" ∧ p.state.queueError = nextQueueError then p
  else p.patchState fun s =>
    { s with connected := true, connectionIssue := "", queueError := nextQueueError }

def markConnectionUnhealthy (message : String) (forceReconnect : Bool) (p : Page) : Page :=
  let p := p.patchState fun s =>
    { s with
      connected := false
      connectionIssue := message
      queueError := if s.matchmaking.status = .queueing then message else s.queueError }
  if forceReconnect ∧ p.isOpenOrConnecting then p.close true else p

/-- `startRecover` up to `ensureFreshSession`. -/
def startRecover (session : AuthSessionSnapshot) (p : Page) : Page :=
  if session.userId = "" ∨ session.accessToken = "" ∨ session.onboardingRequired then p
  else if p.recoverInFlight ∨ p.state.matchmaking.activeRecoverRequestID ≠ none then p
  else
    let requestID := p.recoverRequestId + 1
    { p with
      recoverRequestId := requestID
      recoverInFlight := true
      recoverAbort := some requestID
      recovery := some
        { requestID := requestID, intentVersionAtStart := p.state.matchmaking.intentVersion } }
    |>.dispatchMatchmaking (.recoverStarted requestID)

/-- The `finally` block. -/
def endRecover (r : Recovery) (p : Page) : Page :=
  { p with
    recovery := none
    recoverInFlight := if p.recoverAbort = some r.requestID then false else p.recoverInFlight
    recoverAbort := if p.recoverAbort = some r.requestID then none else p.recoverAbort }

def targetMatchID (p : Page) : String :=
  if p.state.activeMatchId ≠ "" then p.state.activeMatchId
  else (p.state.snapshot.map Snapshot.matchId).getD ""

/-- `ensureFreshSession` has answered. -/
def onEnsured (r : Recovery) (p : Page) : Page :=
  if p.targetMatchID = "" then (p.dispatchMatchmaking (.recoverFailed r.requestID)).endRecover r
  else { p with recovery := some { r with phase := .fetching } }

def startFirstSnapshotTimeout (matchId : String) (p : Page) : Page :=
  if matchId = "" then p
  else { p with firstSnapshotTimeout := some matchId, awaitingFirstSnapshotMatchId := matchId }

def connectToAssignedGame (session : AuthSessionSnapshot) (assigned : Assigned) (p : Page) : Page :=
  if session.userId = "" ∨ session.accessToken = "" then p
  else
    let matchId := if assigned.matchId ≠ "" then assigned.matchId else p.state.activeMatchId
    { p with activeSession := some session }
    |>.patchState (fun s =>
      { s with
        activeMatchId := matchId
        sourceLobbyId := assigned.sourceLobbyId
        sourceLobbyInviteCode := assigned.sourceLobbyInviteCode })
    |>.connect |>.startFirstSnapshotTimeout matchId

/-- `fetchMatchSession` has answered. -/
def onFetched (session : AuthSessionSnapshot) (r : Recovery) (resolved : MatchSessionResponse) (p : Page) :
    Page :=
  let resolve (outcome : RecoverOutcome) (hasSnapshot : Bool) : MatchmakingAction :=
    .recoverResolved r.requestID r.intentVersionAtStart outcome hasSnapshot
  match resolved with
  | .liveConnectable assigned =>
      ((p.dispatchMatchmaking (resolve .matched p.state.snapshot.isSome)).connectToAssignedGame
        session assigned).endRecover r
  | .history matchId snapshot =>
      { p with received := snapshot.toList ++ p.received }
      |>.patchState (fun s => { s with snapshot := snapshot, activeMatchId := matchId, connectionIssue := "" })
      |>.dispatchMatchmaking (resolve .ready true) |>.endRecover r
  | .replaced =>
      p.patchState (fun s =>
        { s with snapshot := none, connectionIssue := "This match was replaced by another session." })
      |>.dispatchMatchmaking (resolve .abandoned false) |>.endRecover r
  | .liveAuthRequired | .missing | .forbidden =>
      p.patchState (fun s => { s with snapshot := none, connectionIssue := "Match unavailable." })
      |>.dispatchMatchmaking (resolve .abandoned false) |>.endRecover r

/-- `fetchMatchSession` has failed. -/
def onFetchFailed (r : Recovery) (p : Page) : Page :=
  (p.dispatchMatchmaking (.recoverFailed r.requestID)).endRecover r

def onOpen (now : ℤ) (p : Page) : Page :=
  { p with lastSocketOpenedAt := now }
  |>.patchState (fun s => { s with connected := false, connectionIssue := "" })
  |>.dispatchMatchmaking .gameConnected

def onClose (expected : Bool) (p : Page) : Page :=
  let p := p.patchState fun s => { s with connected := false }
  if expected then p
  else if p.state.snapshot.isSome ∨ p.state.activeMatchId ≠ "" then
    let p :=
      p.patchState (fun s => { s with connectionIssue := config.gameConnectionErrorMessage })
      |>.dispatchMatchmaking .wsClosed
    match p.activeSession with
    | some currentSession => p.startRecover currentSession
    | none => p
  else p

/-- The first snapshot of the match that the timer waits for. -/
def noteFirstSnapshot (matchId : String) (p : Page) : Page :=
  if matchId ≠ "" ∧ matchId = p.awaitingFirstSnapshotMatchId then
    { p with
      firstSnapshotTimeout := none
      awaitingFirstSnapshotMatchId := ""
      firstSnapshotRecoverAttempts := 0 }
  else p

def showSnapshot (snapshot : Snapshot) (p : Page) : Page :=
  p.patchState fun s =>
    { s with
      activeMatchId := if snapshot.matchId ≠ "" then snapshot.matchId else s.activeMatchId
      snapshot := some snapshot }

def onSnapshot (now : ℤ) (snapshot : Snapshot) (p : Page) : Page :=
  let p := { p with received := snapshot :: p.received }
  if p.state.snapshot.any fun shown =>
      shown.matchId = snapshot.matchId ∧ snapshot.eventSequence < shown.eventSequence then p
  else ((p.noteFirstSnapshot snapshot.matchId).noteServerActivity config now).showSnapshot snapshot

def onMessage (now : ℤ) (message : Message) (p : Page) : Page :=
  match message with
  | .malformed => p.markConnectionUnhealthy config.gameConnectionErrorMessage true
  | .ack error =>
      (p.noteServerActivity config now).patchState fun s =>
        { s with queueError := error.getD s.queueError }
  | .snapshot snapshot => p.onSnapshot config now snapshot
  | .other => p

/-- The callback of `startHeartbeat`; the ping that it sends may go unanswered. -/
def onHeartbeat (now : ℤ) (p : Page) : Page :=
  let lastSeen := max p.lastSocketOpenedAt p.lastServerSeenAt
  if p.isOpen ∧ 0 < lastSeen ∧ config.socketStaleAfterMs < now - lastSeen then
    p.markConnectionUnhealthy config.connectionErrorMessage true
  else p

/-- The snapshot that is shown is of the match that the timer waits for. -/
def showsMatch (targetMatchId : String) (p : Page) : Bool :=
  p.state.snapshot.any fun shown => shown.matchId = targetMatchId

/-- The callback of `startFirstSnapshotTimeout`. -/
def onFirstSnapshotTimeout (session : AuthSessionSnapshot) (targetMatchId : String) (p : Page) : Page :=
  let p := { p with firstSnapshotTimeout := none }
  if p.showsMatch targetMatchId then p
  else
    let session := p.activeSession.getD session
    let p := (p.close true).patchState fun s =>
      { s with connected := false, connectionIssue := "Still trying to join the live match..." }
    if 3 ≤ p.firstSnapshotRecoverAttempts then
      p.dispatchMatchmaking (.setStatus .abandoned false)
      |>.patchState fun s => { s with connectionIssue := "Could not join the live match. Please retry." }
    else
      { p with firstSnapshotRecoverAttempts := p.firstSnapshotRecoverAttempts + 1 }
      |>.dispatchMatchmaking .wsClosed |>.startRecover session

def resumeResolvedMatch (session : AuthSessionSnapshot) (assigned : Assigned) (p : Page) : Page :=
  if assigned.node = "" ∨ assigned.ticket = "" then p
  else
    p.patchState (fun s => { s with queueError := "", connectionIssue := "" })
    |>.dispatchMatchmaking (.setStatus .matchedConnecting true)
    |>.connectToAssignedGame session assigned

/-! ## Events -/

end Page

inductive Event where
  | resumeResolvedMatch (session : ValidSession) (assigned : Assigned)
  | opened (id : ℕ) (now : ℤ)
  /-- The server starts to close the socket. -/
  | closing (id : ℕ)
  | closed (id : ℕ)
  | error (id : ℕ)
  | message (id : ℕ) (now : ℤ) (message : Message)
  | heartbeat (now : ℤ)
  | firstSnapshotTimeout (session : ValidSession)
  | ensured
  | fetched (session : ValidSession) (resolved : MatchSessionResponse)
  | fetchFailed

namespace Page

variable (config : RuntimeConfig)

/-- An event of the socket `id`, which the handlers ignore unless it is the current one. -/
def onSocket (id : ℕ) (handler : Page → Page) (p : Page) : Page :=
  if p.socket = some id then handler p else p

def setReadyState (id : ℕ) (readyState : ReadyState) (p : Page) : Page :=
  { p with sockets := Assoc.modify id (fun s => { s with readyState := readyState }) p.sockets }

def removeSocket (id : ℕ) (p : Page) : Page :=
  { p with socket := if p.socket = some id then none else p.socket, sockets := p.sockets.erase id }

/-- The event and its handler; `none` when the event cannot happen. -/
def step (p : Page) : Event → Option Page
  | .resumeResolvedMatch session assigned => some (p.resumeResolvedMatch session.val assigned)
  | .opened id now =>
      (p.sockets.lookup id).bind fun s =>
        if s.readyState = .connecting then
          some ((p.setReadyState id .open).onSocket id (onOpen now))
        else none
  | .closing id => if id ∈ p.sockets then some (p.setReadyState id .closing) else none
  | .closed id => (p.sockets.lookup id).map fun s => (p.removeSocket id).onClose config s.expectedClose
  | .error id =>
      if id ∈ p.sockets then
        some (p.onSocket id (markConnectionUnhealthy config.gameConnectionErrorMessage false))
      else none
  | .message id now message =>
      (p.sockets.lookup id).bind fun s =>
        if s.readyState = .open then some (p.onSocket id (onMessage config now message)) else none
  | .heartbeat now => some (p.onHeartbeat config now)
  | .firstSnapshotTimeout session =>
      p.firstSnapshotTimeout.map fun targetMatchId => p.onFirstSnapshotTimeout session.val targetMatchId
  | .ensured =>
      p.recovery.bind fun r => if r.phase = .ensuring then some (p.onEnsured r) else none
  | .fetched session resolved =>
      p.recovery.bind fun r =>
        if r.phase = .fetching then some (p.onFetched session.val r resolved) else none
  | .fetchFailed =>
      p.recovery.bind fun r => if r.phase = .fetching then some (p.onFetchFailed r) else none

end Page

end GeoDuels.MatchPage
