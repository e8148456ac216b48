import GeoDuels.Contracts
import GeoDuels.Lib.OmitEmpty
import GeoDuels.Lib.Ordered
import GeoDuels.Lib.Run
import GeoDuels.MatchCoordinator.Lobby

/-!
# Lobby patches

What a lobby socket sends, and what the client makes of it: `lobbyPatch` and the loop around it in
`lobby_handlers.go`, the JSON of `contracts.go`, and `applyLobbyPatch` in `lobby-client.ts`.  A JSON object
that is merged with another one is kept as such; an object inside it, the badge of a member or the
configuration, is only replaced as a whole and stays what it encodes.  A `time.Time` is its JSON text.
-/

namespace GeoDuels.LobbySocket

open MatchCoordinator (LobbyState)
open OmitEmpty (omitEmpty spread)

/-! ## Lobbies on the server -/

inductive LobbyPresenceStatus where
  | unset | online | away | offline
  deriving DecidableEq

/-- The JSON text of the zero `time.Time`. -/
def zeroTime : String := "0001-01-01T00:00:00Z"

structure LobbyMember where
  userID : UserID := ""
  displayName : String := ""
  avatarURL : String := ""
  isGuest : Bool := false
  isAdmin : Bool := false
  selectedBadge : Option PlayerBadge := none
  teamID : TeamID := ""
  role : String := ""
  ready : Bool := false
  connected : Bool := false
  presenceStatus : LobbyPresenceStatus := .unset
  joinedAt : String := zeroTime
  deriving DecidableEq

/-- A snapshot; the table has one row for each user of a lobby. -/
structure LobbySnapshot where
  id : String
  inviteCode : String
  ownerUserID : UserID
  state : LobbyState
  mode : MatchMode
  mapScope : String
  config : MatchConfig := {}
  activeMatchID : MatchID := ""
  lastMatchID : MatchID := ""
  startedMatchID : MatchID := ""
  createdAt : String := zeroTime
  expiresAt : String := zeroTime
  members : List LobbyMember
  nodup : (members.map (·.userID)).Nodup

/-- The fields that are not pointers are always there. -/
structure LobbyPatch where
  revision : ℤ
  state : Option LobbyState := none
  ownerUserID : Option UserID := none
  mode : Option MatchMode := none
  config : Option MatchConfig := none
  activeMatchID : Option MatchID := none
  lastMatchID : Option MatchID := none
  startedMatchID : Option MatchID := none
  upsertMembers : List LobbyMember := []
  removeMemberIDs : List UserID := []

/-! ## Their JSON -/

inductive MemberField where
  | userId | displayName | avatarUrl | isGuest | isAdmin | selectedBadge | teamId | role | ready
  | connected | presenceStatus | joinedAt
  deriving DecidableEq

@[reducible] def MemberField.Value : MemberField → Type
  | .userId | .displayName | .avatarUrl | .teamId | .role | .joinedAt => String
  | .isGuest | .isAdmin | .ready | .connected => Bool
  | .selectedBadge => Option PlayerBadge
  | .presenceStatus => LobbyPresenceStatus

instance : ∀ k : MemberField, DecidableEq k.Value
  | .userId | .displayName | .avatarUrl | .teamId | .role | .joinedAt =>
      inferInstanceAs (DecidableEq String)
  | .isGuest | .isAdmin | .ready | .connected => inferInstanceAs (DecidableEq Bool)
  | .selectedBadge => inferInstanceAs (DecidableEq (Option PlayerBadge))
  | .presenceStatus => inferInstanceAs (DecidableEq LobbyPresenceStatus)

def LobbyMember.get (member : LobbyMember) : ∀ k : MemberField, k.Value
  | .userId => member.userID
  | .displayName => member.displayName
  | .avatarUrl => member.avatarURL
  | .isGuest => member.isGuest
  | .isAdmin => member.isAdmin
  | .selectedBadge => member.selectedBadge
  | .teamId => member.teamID
  | .role => member.role
  | .ready => member.ready
  | .connected => member.connected
  | .presenceStatus => member.presenceStatus
  | .joinedAt => member.joinedAt

/-- The tags of `contracts.LobbyMember`. -/
def memberFields : OmitEmpty.Fields MemberField.Value where
  keys :=
    [.userId, .displayName, .avatarUrl, .isGuest, .isAdmin, .selectedBadge, .teamId, .role, .ready,
      .connected, .presenceStatus, .joinedAt]
  nodup := by decide
  mem_keys k := by cases k <;> decide
  omitempty
    | .avatarUrl | .isGuest | .isAdmin | .selectedBadge | .teamId | .connected | .presenceStatus => true
    | .userId | .displayName | .role | .ready | .joinedAt => false
  zero := LobbyMember.get {}

abbrev MemberObject := AList MemberField.Value

instance : DecidableEq MemberObject := fun o o' =>
  decidable_of_iff (o.entries = o'.entries) ⟨AList.ext, congrArg _⟩

def LobbyMember.json (member : LobbyMember) : MemberObject := memberFields.encode member.get

/-- The client's `LobbySnapshot`. -/
structure LobbyObject where
  id : String
  inviteCode : String
  ownerUserId : UserID
  state : LobbyState
  mode : MatchMode
  mapScope : String
  config : Option MatchConfig
  activeMatchId : Option MatchID
  lastMatchId : Option MatchID
  startedMatchId : Option MatchID
  createdAt : String
  expiresAt : String
  members : List MemberObject
  deriving DecidableEq

/-- `omitempty` leaves no struct out. -/
def LobbySnapshot.json (snap : LobbySnapshot) : LobbyObject where
  id := snap.id
  inviteCode := snap.inviteCode
  ownerUserId := snap.ownerUserID
  state := snap.state
  mode := snap.mode
  mapScope := snap.mapScope
  config := some snap.config
  activeMatchId := omitEmpty "" snap.activeMatchID
  lastMatchId := omitEmpty "" snap.lastMatchID
  startedMatchId := omitEmpty "" snap.startedMatchID
  createdAt := snap.createdAt
  expiresAt := snap.expiresAt
  members := snap.members.map LobbyMember.json

/-- The client's `LobbyPatch`. -/
structure PatchObject where
  revision : ℤ
  state : Option LobbyState
  ownerUserId : Option UserID
  mode : Option MatchMode
  config : Option MatchConfig
  activeMatchId : Option MatchID
  lastMatchId : Option MatchID
  startedMatchId : Option MatchID
  upsertMembers : Option (List MemberObject)
  removeMemberIds : Option (List UserID)

/-- `omitempty` leaves out the pointers that are nil, and not those to an empty string. -/
def LobbyPatch.json (patch : LobbyPatch) : PatchObject where
  revision := patch.revision
  state := patch.state
  ownerUserId := patch.ownerUserID
  mode := patch.mode
  config := patch.config
  activeMatchId := patch.activeMatchID
  lastMatchId := patch.lastMatchID
  startedMatchId := patch.startedMatchID
  upsertMembers := omitEmpty [] (patch.upsertMembers.map LobbyMember.json)
  removeMemberIds := omitEmpty [] patch.removeMemberIDs

/-! ## The difference of two snapshots -/

/-- The text of `json.Marshal` shows the fields of the object in their order. -/
def lobbyMemberFingerprint (member : LobbyMember) : MemberObject := member.json

def lobbyFingerprint (snap : LobbySnapshot) : LobbyObject := snap.json

/-- The order in which a loop comes to the keys of a map. -/
structure MapOrder where
  range : List UserID → List UserID
  perm : ∀ ids, (range ids).Perm ids

def changed {α : Type} [DecidableEq α] (prev next : α) : Option α := if prev ≠ next then some next else none

/-- The maps `prevMembers` and `nextMembers`. -/
def membersByID (members : List LobbyMember) : Assoc UserID LobbyMember :=
  members.foldl (fun z member => z.insert member.userID member) ∅

def lobbyPatch (order : MapOrder) (prev next : LobbySnapshot) (revision : ℤ) : LobbyPatch :=
  let prevMembers := membersByID prev.members
  let nextMembers := membersByID next.members
  { revision := revision
    state := changed prev.state next.state
    ownerUserID := changed prev.ownerUserID next.ownerUserID
    mode := changed prev.mode next.mode
    config := changed prev.config next.config
    activeMatchID := changed prev.activeMatchID next.activeMatchID
    lastMatchID := changed prev.lastMatchID next.lastMatchID
    startedMatchID := changed prev.startedMatchID next.startedMatchID
    upsertMembers := next.members.filter fun member =>
      lobbyMemberFingerprint ((prevMembers.lookup member.userID).getD {}) ≠ lobbyMemberFingerprint member
    removeMemberIDs := (order.range prevMembers.keys).filter (· ∉ nextMembers) }

/-! ## The client -/

/-- `removed.has(member.userId)`; a missing `userId` is `undefined`. -/
def removedHas (patch : PatchObject) (member : MemberObject) : Bool :=
  (patch.removeMemberIds.getD []).any fun id => member.lookup .userId = some id

/-- `new Map(members.map((member) => [member.userId, member]))`. -/
def membersByUserId (members : List MemberObject) : Assoc (Option UserID) MemberObject :=
  members.foldl (fun z member => z.set (member.lookup .userId) member) ∅

/-- The members after the loop over the upserts. -/
def patchMembers (members : List MemberObject) (patch : PatchObject) : Assoc (Option UserID) MemberObject :=
  (patch.upsertMembers.getD []).foldl
    (fun z member =>
      z.set (member.lookup .userId) (spread ((z.lookup (member.lookup .userId)).getD ∅) member))
    (membersByUserId (members.filter fun member => !removedHas patch member))

def applyLobbyPatch (lobby : Option LobbyObject) (patch : PatchObject) : Option LobbyObject :=
  lobby.map fun lobby =>
    { lobby with
      state := patch.state.getD lobby.state
      ownerUserId := patch.ownerUserId.getD lobby.ownerUserId
      mode := patch.mode.getD lobby.mode
      config := patch.config.or lobby.config
      activeMatchId := patch.activeMatchId.or lobby.activeMatchId
      lastMatchId := patch.lastMatchId.or lobby.lastMatchId
      startedMatchId := patch.startedMatchId.or lobby.startedMatchId
      members :=
        if patch.upsertMembers.getD [] ≠ [] ∨ patch.removeMemberIds.getD [] ≠ [] then
          (patchMembers lobby.members patch).values
        else lobby.members }

/-! ## The socket -/

/-- What never changes about a lobby. -/
def SameLobby (prev next : LobbySnapshot) : Prop :=
  next.id = prev.id ∧ next.inviteCode = prev.inviteCode ∧ next.mapScope = prev.mapScope ∧
    next.createdAt = prev.createdAt ∧ next.expiresAt = prev.expiresAt

/-- A later snapshot of the lobby `lobby`. -/
def LobbyOf (lobby : LobbySnapshot) : Type := { snap : LobbySnapshot // SameLobby lobby snap }

def LobbyOf.self (lobby : LobbySnapshot) : LobbyOf lobby := ⟨lobby, rfl, rfl, rfl, rfl, rfl⟩

/-- What a socket has last sent of `lobby`, and what its client holds. -/
structure Socket (lobby : LobbySnapshot) where
  lastLobby : LobbyOf lobby
  revision : ℤ
  client : Option LobbyObject

/-- A snapshot that `refreshLobby` reads, and the order in which it comes to the members who have gone. -/
structure Refresh (lobby : LobbySnapshot) where
  next : LobbyOf lobby
  order : MapOrder

variable {lobby : LobbySnapshot}

/-- The socket after `writeLobbySnapshot`. -/
def connect (lobby : LobbySnapshot) : Socket lobby where
  lastLobby := .self lobby
  revision := 1
  client := some lobby.json

/-- `refreshLobby`, and the client that gets its patch. -/
def Socket.refreshLobby (s : Socket lobby) (r : Refresh lobby) : Option (Socket lobby) :=
  if lobbyFingerprint r.next.val ≠ lobbyFingerprint s.lastLobby.val then
    let revision := s.revision + 1
    let patch := lobbyPatch r.order s.lastLobby.val r.next.val revision
    some
      { lastLobby := r.next
        revision := revision
        client := applyLobbyPatch s.client patch.json }
  else some s

end GeoDuels.LobbySocket
