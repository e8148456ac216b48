import GeoDuels.LobbySocket.Patch
import Mathlib.Data.List.Infix

/-!
# The lobby page and its socket

`LobbyController` with one lobby socket: the frames that `lobbyWS` writes and that arrive in order, and
the responses to the page's own requests, each with the lobby as it was read at some moment, that arrive
whenever they do.  A step is a change of the lobby, a call of `refreshLobby`, a request that reads the
lobby, or the arrival of a frame or of a response.  The match that a lobby starts is left out, and so are
the timers: a poll may be made at any moment.
-/

namespace GeoDuels.LobbySocket

/-! ## The page -/

inductive LobbyRuntimeStatus where
  | idle | creating | joining | connecting | ready | reconnecting | leaving | error
  deriving DecidableEq

structure LobbyRuntimeState where
  status : LobbyRuntimeStatus
  lobbyId : String
  inviteCode : String
  snapshot : Option LobbyObject
  error : String

def initialState : LobbyRuntimeState where
  status := .idle
  lobbyId := ""
  inviteCode := ""
  snapshot := none
  error := ""

/-- The events of `streamLobby`, but for the assignment of a match. -/
inductive LobbyEvent where
  | lobbySnapshot (lobby : LobbyObject)
  | lobbyPatch (patch : PatchObject)
  | lobbyError (message : String)

def normalizeLobbySnapshot (next : LobbyObject) : LobbyObject := next

/-- It writes every field of the state. -/
def patchSnapshot (next : LobbyObject) (status : LobbyRuntimeStatus) : LobbyRuntimeState :=
  let snapshot := normalizeLobbySnapshot next
  { status := status
    lobbyId := snapshot.id
    inviteCode := snapshot.inviteCode
    snapshot := some snapshot
    error := "" }

/-- `message.toLowerCase().includes("left this lobby")`. -/
def leftThisLobby (message : String) : Bool :=
  decide ("left this lobby".toList <:+: message.toLower.toList)

/-- The state when the page opens its socket. -/
def connectToLobby (waitForSnapshot : Bool) (state : LobbyRuntimeState) : LobbyRuntimeState :=
  { state with
    status :=
      if waitForSnapshot then .connecting
      else if state.snapshot.isSome then .reconnecting
      else .connecting
    error := "" }

/-- What the page does with an event of its socket. -/
def onEvent (state : LobbyRuntimeState) : LobbyEvent → LobbyRuntimeState
  | .lobbySnapshot lobby => patchSnapshot lobby .ready
  | .lobbyPatch patch =>
      match applyLobbyPatch state.snapshot patch with
      | some next => patchSnapshot next .ready
      | none => state
  | .lobbyError message =>
      if leftThisLobby message then initialState
      else { state with status := .error, error := message }

/-- A request is one of the actions, or made by the poll loop. -/
inductive RequestKind where
  | action | poll
  deriving DecidableEq

/-- What the page does with the response to a request of its own. -/
def onResponse (kind : RequestKind) (lobby : LobbyObject) (state : LobbyRuntimeState) :
    LobbyRuntimeState :=
  match kind with
  | .action => patchSnapshot lobby .ready
  | .poll =>
      patchSnapshot lobby (if state.status = .reconnecting then .reconnecting else .ready)

/-! ## The server -/

def lobbyHasMember (snap : LobbySnapshot) (userID : UserID) : Bool :=
  snap.members.any fun member => member.userID = userID

/-- What the socket writes, before it is encoded. -/
inductive Frame (lobby : LobbySnapshot) where
  | lobbySnapshot (snap : LobbyOf lobby)
  | lobbyPatch (order : MapOrder) (prev next : LobbyOf lobby) (revision : ℤ)
  | lobbyError (message : String)

variable {lobby : LobbySnapshot}

/-- The event that the page gets. -/
def Frame.event : Frame lobby → LobbyEvent
  | .lobbySnapshot snap => .lobbySnapshot snap.val.json
  | .lobbyPatch order prev next revision =>
      .lobbyPatch (LobbySocket.lobbyPatch order prev.val next.val revision).json
  | .lobbyError message => .lobbyError message

/-- A lobby with its page.  `refreshed` says that a refresh has sent the lobby as it is now, and
`isOpen` that the loop of the socket goes on. -/
structure Page (lobby : LobbySnapshot) where
  current : LobbyOf lobby
  refreshed : Bool
  lastLobby : LobbyOf lobby
  revision : ℤ
  isOpen : Bool
  frames : List (Frame lobby)
  responses : List (RequestKind × LobbyOf lobby)
  state : LobbyRuntimeState

/-- The socket right after `writeLobbySnapshot`; `state` is what the page had before. -/
def Page.connected (lobby : LobbySnapshot) (waitForSnapshot : Bool) (state : LobbyRuntimeState) :
    Page lobby :=
  let snap := LobbyOf.self lobby
  { current := snap
    refreshed := true
    lastLobby := snap
    revision := 1
    isOpen := true
    frames := [.lobbySnapshot snap]
    responses := []
    state := connectToLobby waitForSnapshot state }

/-- `refreshLobby` for the member `userID`; `reads` says that the lobby could be read. -/
def Page.refreshLobby (userID : UserID) (reads : Bool) (order : MapOrder) (p : Page lobby) :
    Page lobby :=
  if !reads then
    { p with frames := p.frames ++ [.lobbyError "Lobby unavailable"], isOpen := false }
  else if !lobbyHasMember p.current.val userID then
    { p with
      refreshed := false
      frames := p.frames ++ [.lobbyError "You left this lobby"]
      isOpen := false }
  else
    let p :=
      if lobbyFingerprint p.current.val ≠ lobbyFingerprint p.lastLobby.val then
        let revision := p.revision + 1
        { p with
          revision := revision
          frames := p.frames ++ [.lobbyPatch order p.lastLobby p.current revision]
          lastLobby := p.current }
      else p
    { p with refreshed := true, isOpen := p.current.val.state = .open_ }

/-! ## Steps -/

inductive PageAction (lobby : LobbySnapshot) where
  | change (next : LobbyOf lobby)
  | refreshLobby (reads : Bool) (order : MapOrder)
  | request (kind : RequestKind)
  | frame
  | response (i : ℕ)

def Page.step (userID : UserID) (p : Page lobby) : PageAction lobby → Option (Page lobby)
  | .change next => some { p with current := next, refreshed := false }
  | .refreshLobby reads order =>
      if p.isOpen then some (p.refreshLobby userID reads order) else none
  | .request kind => some { p with responses := p.responses ++ [(kind, p.current)] }
  | .frame =>
      match p.frames with
      | [] => none
      | frame :: frames => some { p with frames := frames, state := onEvent p.state frame.event }
  | .response i =>
      match p.responses[i]? with
      | none => none
      | some (kind, snap) =>
          some
            { p with
              responses := p.responses.eraseIdx i
              state := onResponse kind snap.val.json p.state }

end GeoDuels.LobbySocket
