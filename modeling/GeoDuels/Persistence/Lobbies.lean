import GeoDuels.Lib.ReadCommitted
import GeoDuels.MatchCoordinator.Lobby

/-!
# Lobbies in the database

The tables `lobbies` and `lobby_members` with the functions of `pkg/persistence/lobbies.go`.  Each SQL
statement is a definition of its own: a query, or the rows that it writes over the rows it sees.  The
functions below run their statements one after the other and nothing else in between; their first
argument after the database gives the readings of the clocks.  The columns of `users` that a snapshot
shows are left out, and so are failures of the database.
-/

namespace GeoDuels.Persistence

open Coordinator (trimSpace isBlank)
open MatchCoordinator (LobbyState)
open ReadCommitted (view update rowsAffected)

/-! ## Rows -/

abbrev LobbyID := String

structure LobbyRow where
  inviteCode : String
  ownerUserID : UserID
  state : LobbyState := .open_
  mode : MatchMode
  mapScope : String
  activeMatchID : Option MatchID := none
  lastMatchID : Option MatchID := none
  startedMatchID : Option MatchID := none
  createdAt : ℕ
  expiresAt : ℕ
  updatedAt : ℕ
  deriving DecidableEq

inductive Role where
  | owner | member
  deriving DecidableEq

structure MemberRow where
  role : Role
  ready : Bool := false
  teamID : Option TeamID
  joinedAt : ℕ
  leftAt : Option ℕ := none
  deriving DecidableEq

/-- The primary keys of the two tables. -/
inductive RowKey where
  | lobby (id : LobbyID)
  | member (lobbyID : LobbyID) (userID : UserID)
  deriving DecidableEq

@[reducible] def Row : RowKey → Type
  | .lobby _ => LobbyRow
  | .member _ _ => MemberRow

abbrev DB := AList Row

/-- `pgx.ErrNoRows` and the errors with a text of their own. -/
inductive LobbyError where
  | noRows
  | new (text : String)
  deriving DecidableEq

def trim (s : String) : String := String.ofList (trimSpace s)

/-! ## Queries -/

variable (db : DB)

def lobbyRow (lobbyID : LobbyID) : Option LobbyRow := db.lookup (.lobby lobbyID)

def memberRow (lobbyID : LobbyID) (userID : UserID) : Option MemberRow :=
  db.lookup (.member lobbyID userID)

/-- The rows of the lobby's members, also of those who have left. -/
def memberRows (lobbyID : LobbyID) : List (UserID × MemberRow) :=
  db.entries.filterMap fun
    | ⟨.member l userID, row⟩ => if l = lobbyID then some (userID, row) else none
    | ⟨.lobby _, _⟩ => none

/-- The members whose `left_at` is null. -/
def activeRows (lobbyID : LobbyID) : List (UserID × MemberRow) :=
  (memberRows db lobbyID).filter fun m => m.2.leftAt = none

/-- `lobby_id = $1 and user_id = $2 and left_at is null` has a row. -/
def Active (lobbyID : LobbyID) (userID : UserID) : Prop :=
  ∃ row, memberRow db lobbyID userID = some row ∧ row.leftAt = none

instance (lobbyID : LobbyID) (userID : UserID) : Decidable (Active db lobbyID userID) :=
  decidable_of_iff (∃ row ∈ memberRow db lobbyID userID, row.leftAt = none) Iff.rfl

def countOthers (lobbyID : LobbyID) (userID : UserID) : ℕ :=
  ((activeRows db lobbyID).filter fun m => m.1 ≠ userID).length

/-- The active members who joined first. -/
def oldest (lobbyID : LobbyID) : List UserID :=
  let rows := activeRows db lobbyID
  (rows.filter fun m => rows.all fun m' => m.2.joinedAt ≤ m'.2.joinedAt).map Prod.fst

/-- `order by joined_at asc limit 1`, which may give any of several members who joined first. -/
def nextOwner (lobbyID : LobbyID) (tie : ℕ) : Option UserID :=
  let users := oldest db lobbyID
  users[tie % users.length]?

/-- The team with fewer active members, `a` when they are even. -/
def smallerTeam (lobbyID : LobbyID) : TeamID :=
  let count (team : TeamID) := (activeRows db lobbyID).countP fun m => m.2.teamID = some team
  if count "a" ≤ count "b" then "a" else "b"

/-- What `getLobby` reads of the two tables. -/
structure StoredLobby where
  id : LobbyID
  lobby : LobbyRow
  members : List (UserID × MemberRow)

def listLobbyMembers (lobbyID : LobbyID) : List (UserID × MemberRow) :=
  (activeRows db lobbyID).insertionSort fun m m' =>
    m.2.role = .owner ∧ m'.2.role = .member ∨
      m.2.role = m'.2.role ∧ m.2.joinedAt ≤ m'.2.joinedAt

def getLobbyByID (lobbyID : LobbyID) : Option StoredLobby :=
  if isBlank lobbyID then none
  else
    (lobbyRow db (trim lobbyID)).map fun row =>
      { id := trim lobbyID, lobby := row, members := listLobbyMembers db (trim lobbyID) }

/-! ## Statements that write -/

variable (lobbyID : LobbyID) (userID : UserID) (now : ℕ)

/-- `update lobbies set …, updated_at = now() where id = $1 and state = 'open'`. -/
def updateOpenLobby (set : LobbyRow → LobbyRow) : DB :=
  update db (.lobby lobbyID) fun row : LobbyRow =>
    if row.state = .open_ then some { set row with updatedAt := now } else none

def expireLobby : DB := updateOpenLobby db lobbyID now ({ · with state := .expired })

def closeLobby : DB := updateOpenLobby db lobbyID now ({ · with state := .closed })

def touchLobby : DB := updateOpenLobby db lobbyID now id

/-- `update lobby_members set … where lobby_id = $1 and user_id = $2 and left_at is null`, with what
else the condition asks for. -/
def updateActiveMember (set : MemberRow → MemberRow) (cond : MemberRow → Bool := fun _ => true) : DB :=
  update db (.member lobbyID userID) fun row : MemberRow =>
    if row.leftAt = none ∧ cond row then some (set row) else none

def markLeft : DB :=
  updateActiveMember db lobbyID userID ({ · with leftAt := some now, ready := false })

/-- The update of `KickLobbyMember`. -/
def markKicked : DB :=
  updateActiveMember db lobbyID userID ({ · with leftAt := some now, ready := false })
    fun row => row.role ≠ .owner

/-- The `update lobbies` of `transferLobbyOwnerTx`. -/
def setOwner : DB :=
  update db (.lobby lobbyID) fun row : LobbyRow =>
    some { row with ownerUserID := userID, updatedAt := now }

/-- What the second update of `transferLobbyOwnerTx` does to the row of one user. -/
def setRole (target : UserID) : DB :=
  updateActiveMember db lobbyID userID
    ({ · with role := if userID = target then .owner else .member })

/-- The insert of `JoinLobby`. -/
def upsertMember (role : Role) : DB :=
  let teamID := smallerTeam db lobbyID
  let row : MemberRow :=
    match memberRow db lobbyID userID with
    | none => { role := role, teamID := some teamID, joinedAt := now }
    | some row =>
        { row with
          role := if row.role = .owner then .owner else role
          teamID := row.teamID.or (some teamID)
          leftAt := none
          joinedAt := if row.leftAt = none then row.joinedAt else now }
  AList.insert (.member lobbyID userID) row ∅

/-- The second update of `transferLobbyOwnerTx`: a row is updated for each of its members. -/
def setRoles (target : UserID) : DB :=
  ((activeRows db lobbyID).map Prod.fst).foldl
    (fun db userID => view (setRole db lobbyID userID target) db) db

/-! ## The functions -/

/-- `ensureLobbyOpen`, with the rows that it writes. -/
def ensureLobbyOpen (now : ℕ → ℕ) : Except LobbyError Unit × DB :=
  match lobbyRow db lobbyID with
  | none => (.error .noRows, ∅)
  | some row =>
      if row.state ≠ .open_ then (.error (.new "lobby is not open"), ∅)
      else if row.expiresAt < now 0 then
        (.error (.new "lobby expired"), expireLobby db lobbyID (now 1))
      else (.ok (), ∅)

def ensureLobbyOwner (ownerUserID : UserID) : Except LobbyError Unit :=
  match lobbyRow db lobbyID with
  | none => .error .noRows
  | some row =>
      if row.state ≠ .open_ then .error (.new "lobby is not open")
      else if row.ownerUserID ≠ ownerUserID then .error (.new "forbidden")
      else .ok ()

abbrev Result := Except LobbyError (Option StoredLobby) × DB

/-- The role with which `JoinLobby` inserts a new row. -/
def joinRole (snap : StoredLobby) : Role :=
  if snap.lobby.ownerUserID = userID then .owner else .member

def joinLobby (now : ℕ → ℕ) : Result :=
  match ensureLobbyOpen db lobbyID now with
  | (.error err, rows) => (.error err, view rows db)
  | (.ok _, _) =>
      if 8 ≤ countOthers db lobbyID userID then (.error (.new "lobby is full"), db)
      else
        match getLobbyByID db lobbyID with
        | none => (.error .noRows, db)
        | some snap =>
            let db := view (upsertMember db lobbyID userID (now 2) (joinRole userID snap)) db
            let db := view (touchLobby db lobbyID (now 3)) db
            (.ok (getLobbyByID db lobbyID), db)

/-- The checks of `transferLobbyOwnerTx` and its updates, on the rows that the transaction sees. -/
def transferLobbyOwnerTx (ownerUserID targetUserID : UserID) : Except LobbyError DB :=
  let ownerUserID := trim ownerUserID
  let targetUserID := trim targetUserID
  if ownerUserID = "" ∨ targetUserID = "" ∨ ownerUserID = targetUserID then
    .error (.new "invalid lobby member")
  else if ¬ Active db lobbyID targetUserID then .error .noRows
  else
    .ok (setRoles (view (setOwner db lobbyID targetUserID now) db) lobbyID targetUserID)

/-- The rows after the owner has left. -/
def succeedOwner (tie : ℕ) : Except LobbyError DB :=
  match nextOwner db lobbyID tie with
  | none => .ok (view (closeLobby db lobbyID now) db)
  | some next => transferLobbyOwnerTx db lobbyID now userID next

def leaveLobby (tie : ℕ) : Result :=
  match lobbyRow db lobbyID with
  | none => (.error .noRows, db)
  | some row =>
      if row.state ≠ .open_ then (.error (.new "lobby is not open"), db)
      else
        let left := markLeft db lobbyID userID now
        if rowsAffected left = 0 then (.error .noRows, db)
        else
          let tx := view left db
          match if row.ownerUserID = userID then succeedOwner tx lobbyID userID now tie else .ok tx with
          | .error err => (.error err, db)
          | .ok tx =>
              let db := view (touchLobby tx lobbyID now) tx
              (.ok (getLobbyByID db lobbyID), db)

def transferLobbyOwner (ownerUserID targetUserID : UserID) : Result :=
  match ensureLobbyOwner db lobbyID ownerUserID with
  | .error err => (.error err, db)
  | .ok _ =>
      match transferLobbyOwnerTx db lobbyID now ownerUserID targetUserID with
      | .error err => (.error err, db)
      | .ok db => (.ok (getLobbyByID db lobbyID), db)

def kickLobbyMember (ownerUserID targetUserID : UserID) : Result :=
  let ownerUserID := trim ownerUserID
  let targetUserID := trim targetUserID
  if ownerUserID = "" ∨ targetUserID = "" ∨ ownerUserID = targetUserID then
    (.error (.new "invalid lobby member"), db)
  else
    match ensureLobbyOwner db lobbyID ownerUserID with
    | .error err => (.error err, db)
    | .ok _ =>
        let kicked := markKicked db lobbyID targetUserID now
        if rowsAffected kicked = 0 then (.error .noRows, db)
        else
          let db := view kicked db
          (.ok (getLobbyByID db lobbyID), db)

def setLobbyMemberTeam (teamID : TeamID) (now : ℕ → ℕ) : Result :=
  let lobbyID := trim lobbyID
  let userID := trim userID
  let teamID := String.ofList ((trimSpace teamID).map Char.toLower)
  if lobbyID = "" ∨ userID = "" ∨ teamID ≠ "a" ∧ teamID ≠ "b" then
    (.error (.new "invalid lobby team"), db)
  else
    match ensureLobbyOpen db lobbyID now with
    | (.error err, rows) => (.error err, view rows db)
    | (.ok _, _) =>
        let team := updateActiveMember db lobbyID userID ({ · with teamID := some teamID })
        if rowsAffected team = 0 then (.error .noRows, db)
        else
          let db := view team db
          let db := view (touchLobby db lobbyID (now 2)) db
          (.ok (getLobbyByID db lobbyID), db)

def markLobbyInMatch (matchID : MatchID) : Result :=
  let marked := updateOpenLobby db lobbyID now fun row =>
    { row with state := .inMatch, activeMatchID := some matchID, startedMatchID := some matchID }
  if rowsAffected marked = 0 then (.error .noRows, db)
  else
    let db := view marked db
    (.ok (getLobbyByID db lobbyID), db)

/-! ### Lobbies whose match has ended -/

/-- The lobby runs a match that has ended. -/
def LobbyRow.hasEnded (ended : MatchID → Bool) (row : LobbyRow) : Bool :=
  (row.state = .inMatch || row.state = .started) && row.activeMatchID.any ended

def LobbyRow.reopen (row : LobbyRow) (now : ℕ) : LobbyRow :=
  { row with
    state := .open_
    lastMatchID := row.activeMatchID
    activeMatchID := none
    startedMatchID := none
    updatedAt := now }

/-- The `returning l.id` of the `reopened` rows. -/
def endedLobbies (ended : MatchID → Bool) : List LobbyID :=
  db.entries.filterMap fun
    | ⟨.lobby id, row⟩ => if row.hasEnded ended then some id else none
    | ⟨.member _ _, _⟩ => none

/-- `ReopenEndedLobbies`, for the matches that `runtime_matches` says have ended; it returns the number
of members it has set back. -/
def reopenEndedLobbies (ended : MatchID → Bool) : ℕ × DB :=
  let ids := endedLobbies db ended
  let members := ids.flatMap fun id => (memberRows db id).map fun m => (id, m.1)
  let db := ids.foldl
    (fun db id => view (update db (.lobby id) fun row : LobbyRow => some (row.reopen now)) db) db
  (members.length, members.foldl
    (fun db k => view (update db (.member k.1 k.2) fun row : MemberRow =>
      some { row with ready := false }) db) db)

/-! ### New lobbies -/

def hexDigit (d : Fin 16) : Char := if d.val < 10 then Char.ofNat (48 + d) else Char.ofNat (87 + d)

/-- `newLobbyID("lob")`, from the digits that `randomHex` draws. -/
def newLobbyID (random : List (Fin 16)) : LobbyID :=
  "lob-" ++ String.ofList ((random.take 10).map hexDigit)

def lobbyCodeAlphabet : List Char := "23456789ABCDEFGHJKMNPQRSTUVWXYZ".toList

/-- `newLobbyCode`, from the six bytes that it draws. -/
def newLobbyCode (random : List ℕ) : String :=
  String.ofList (random.filterMap fun b => lobbyCodeAlphabet[b % lobbyCodeAlphabet.length]?)

/-- The id or the invite code is taken already. -/
def lobbyTaken (inviteCode : String) : Prop :=
  RowKey.lobby lobbyID ∈ db ∨ ∃ e ∈ db.entries,
    match e with
    | ⟨.lobby _, row⟩ => row.inviteCode = inviteCode
    | ⟨.member _ _, _⟩ => False

instance (inviteCode : String) : Decidable (lobbyTaken db lobbyID inviteCode) := by
  unfold lobbyTaken
  have (e : Sigma Row) : Decidable (match e with
      | ⟨.lobby _, row⟩ => row.inviteCode = inviteCode
      | ⟨.member _ _, _⟩ => False) :=
    match e with
    | ⟨.lobby _, _⟩ => inferInstance
    | ⟨.member _ _, _⟩ => inferInstance
  infer_instance

/-- `CreateLobby` with what it draws in each of its five attempts; `ttl` is in nanoseconds. -/
def createLobby (ownerUserID : UserID) (mode : MatchMode) (mapScope : String) (ttl : ℤ)
    (draws : ℕ → List (Fin 16) × List ℕ) (now : ℕ → ℕ) : Result :=
  let ownerUserID := trim ownerUserID
  let mode := if mode = .unset then .duel else mode
  let mapScope := if isBlank mapScope then "world" else mapScope
  let ttl := if ttl ≤ 0 then 2 * 60 * Time.minute else ttl.toNat
  if ownerUserID = "" then (.error (.new "owner required"), db)
  else if ¬ isPrivatePartyMode mode then (.error (.new "unsupported lobby mode"), db)
  else
    let attempt := (List.range 5).find? fun i =>
      ¬ lobbyTaken db (newLobbyID (draws i).1) (newLobbyCode (draws i).2)
    match attempt with
    | none => (.error (.new "insert lobby"), db)
    | some i =>
        let lobbyID := newLobbyID (draws i).1
        let lobby : LobbyRow :=
          { inviteCode := newLobbyCode (draws i).2
            ownerUserID := ownerUserID
            mode := mode
            mapScope := mapScope
            createdAt := now 1
            expiresAt := now 0 + ttl
            updatedAt := now 1 }
        let owner : MemberRow := { role := .owner, teamID := some "a", joinedAt := now 1 }
        let db := AList.insert (.member lobbyID ownerUserID) owner (AList.insert (.lobby lobbyID) lobby db)
        (.ok (getLobbyByID db lobbyID), db)

end GeoDuels.Persistence
