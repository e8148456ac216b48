import GeoDuels.Persistence.Spec

/-!
# Lobby calls that run at the same time

The calls that let members come and go, with one step for each SQL statement, as a program over the two
tables.  `LeaveLobby` and `TransferLobbyOwner` run in a transaction, whose `now()` is the time of its
start; the statements of `JoinLobby` and `KickLobbyMember` commit at once.  The second update of
`transferLobbyOwnerTx` finds its rows first and then comes to them one after the other.  What a call
returns is left out.
-/

namespace GeoDuels.Persistence

open ReadCommitted (view update rowsAffected Evolves)

inductive LobbyCall where
  | joinLobby (lobbyID : LobbyID) (userID : UserID)
  | leaveLobby (lobbyID : LobbyID) (userID : UserID) (now : ℕ)
  | kickLobbyMember (lobbyID : LobbyID) (ownerUserID targetUserID : UserID)
  | transferLobbyOwner (lobbyID : LobbyID) (ownerUserID targetUserID : UserID) (now : ℕ)

/-- The clock at a statement, and the choice among rows that may come in any order. -/
structure Moment where
  now : ℕ := 0
  choice : ℕ := 0

/-! ## Statements to come -/

inductive JoinAt where
  | ensureOpen | expire | count | lobby
  | insert (role : Role)
  | touch | read
  deriving DecidableEq

/-- In `transferLobbyOwnerTx`. -/
inductive OwnerTxAt where
  | targetActive | setOwner | findMembers
  | setRoles (rest : List UserID)
  deriving DecidableEq

inductive LeaveAt where
  | lobby
  | mark (owns : Bool)
  | nextOwner | close
  | transfer (target : UserID) (at_ : OwnerTxAt)
  | touch | commit | read
  deriving DecidableEq

inductive KickAt where
  | ensureOwner | update | read
  deriving DecidableEq

inductive TransferAt where
  | ensureOwner
  | transfer (at_ : OwnerTxAt)
  | commit | read
  deriving DecidableEq

/-- A call and its next statement; a transaction with the rows that it has written. -/
inductive LobbyProc where
  | join (lobbyID : LobbyID) (userID : UserID) (at_ : JoinAt)
  | leave (lobbyID : LobbyID) (userID : UserID) (now : ℕ) (at_ : LeaveAt) (own : DB)
  | kick (lobbyID : LobbyID) (ownerUserID targetUserID : UserID) (at_ : KickAt)
  | transfer (lobbyID : LobbyID) (ownerUserID targetUserID : UserID) (now : ℕ) (at_ : TransferAt)
      (own : DB)

def LobbyProc.own : LobbyProc → DB
  | .join .. | .kick .. => ∅
  | .leave _ _ _ _ own | .transfer _ _ _ _ _ own => own

def LobbyCall.begin : LobbyCall → LobbyProc
  | .joinLobby lobbyID userID => .join lobbyID userID .ensureOpen
  | .leaveLobby lobbyID userID now => .leave lobbyID userID now .lobby ∅
  | .kickLobbyMember lobbyID ownerUserID targetUserID =>
      .kick lobbyID ownerUserID targetUserID .ensureOwner
  | .transferLobbyOwner lobbyID ownerUserID targetUserID now =>
      .transfer lobbyID ownerUserID targetUserID now .ensureOwner ∅

/-! ## Single statements -/

/-- The rows that a statement outside a transaction writes, and the next statement. -/
def JoinAt.run (db : DB) (lobbyID : LobbyID) (userID : UserID) (e : Moment) :
    JoinAt → DB × Option JoinAt
  | .ensureOpen =>
      match lobbyRow db lobbyID with
      | none => (∅, none)
      | some row =>
          if row.state ≠ .open_ then (∅, none)
          else if row.expiresAt < e.now then (∅, some .expire)
          else (∅, some .count)
  | .expire => (expireLobby db lobbyID e.now, none)
  | .count => (∅, if 8 ≤ countOthers db lobbyID userID then none else some .lobby)
  | .lobby => (∅, (getLobbyByID db lobbyID).map fun snap => .insert (joinRole userID snap))
  | .insert role => (upsertMember db lobbyID userID e.now role, some .touch)
  | .touch => (touchLobby db lobbyID e.now, some .read)
  | .read => (∅, none)

def KickAt.run (db : DB) (lobbyID : LobbyID) (ownerUserID targetUserID : UserID) (e : Moment) :
    KickAt → DB × Option KickAt
  | .ensureOwner =>
      let ownerUserID := trim ownerUserID
      let targetUserID := trim targetUserID
      if ownerUserID = "" ∨ targetUserID = "" ∨ ownerUserID = targetUserID then (∅, none)
      else
        match ensureLobbyOwner db lobbyID ownerUserID with
        | .error _ => (∅, none)
        | .ok _ => (∅, some .update)
  | .update =>
      let kicked := markKicked db lobbyID (trim targetUserID) e.now
      (kicked, if rowsAffected kicked = 0 then none else some .read)
  | .read => (∅, none)

/-- What a statement of a transaction does: what it commits, the rows that are written and not
committed after it, and the next statement. -/
structure TxResult (P : Type) where
  commits : DB := ∅
  own : DB := ∅
  next : Option P := none

/-- The rows of an update or a query, and the next place; `none` when the transaction fails. -/
abbrev TxStep (P : Type) := DB × Option P

def TxStep.result {P : Type} (own : DB) (s : TxStep P) : TxResult P :=
  match s.2 with
  | none => {}
  | some next => { own := view s.1 own, next := some next }

/-- The place after an update of the roles, when the rows of `rest` are left to do. -/
def rolesLeft (rest : List UserID) : Option OwnerTxAt := if rest = [] then none else some (.setRoles rest)

/-- A statement of `transferLobbyOwnerTx` on the rows that it sees; the transaction fails with `none`,
and is through with `some none`. -/
def OwnerTxAt.run (seen : DB) (lobbyID : LobbyID) (target : UserID) (now : ℕ) (e : Moment) :
    OwnerTxAt → TxStep (Option OwnerTxAt)
  | .targetActive => (∅, if Active seen lobbyID target then some (some .setOwner) else none)
  | .setOwner => (Persistence.setOwner seen lobbyID target now, some (some .findMembers))
  | .findMembers => (∅, some (rolesLeft ((activeRows seen lobbyID).map Prod.fst)))
  | .setRoles rest =>
      match rest[e.choice % rest.length]? with
      | none => (∅, some none)
      | some userID => (setRole seen lobbyID userID target, some (rolesLeft (rest.erase userID)))

/-- The checks before the first statement of `transferLobbyOwnerTx`. -/
def transfers (ownerUserID targetUserID : UserID) : Prop :=
  trim ownerUserID ≠ "" ∧ trim targetUserID ≠ "" ∧ trim ownerUserID ≠ trim targetUserID

instance (ownerUserID targetUserID : UserID) : Decidable (transfers ownerUserID targetUserID) :=
  inferInstanceAs (Decidable (_ ∧ _ ∧ _))

def LeaveAt.run (own db : DB) (lobbyID : LobbyID) (userID : UserID) (now : ℕ) (e : Moment) :
    LeaveAt → TxResult LeaveAt
  | .lobby =>
      TxStep.result own <|
        match lobbyRow (view own db) lobbyID with
        | none => (∅, none)
        | some row =>
            if row.state ≠ .open_ then (∅, none)
            else (∅, some (.mark (row.ownerUserID = userID)))
  | .mark owns =>
      let left := markLeft (view own db) lobbyID userID now
      TxStep.result own
        (left, if rowsAffected left = 0 then none else some (if owns then .nextOwner else .touch))
  | .nextOwner =>
      TxStep.result own <|
        match Persistence.nextOwner (view own db) lobbyID e.choice with
        | none => (∅, some .close)
        | some next =>
            if transfers userID next then (∅, some (.transfer (trim next) .targetActive))
            else (∅, none)
  | .close => TxStep.result own (closeLobby (view own db) lobbyID now, some .touch)
  | .transfer target at_ =>
      let s := at_.run (view own db) lobbyID target now e
      TxStep.result own (s.1, s.2.map fun next => next.elim .touch (.transfer target))
  | .touch => TxStep.result own (touchLobby (view own db) lobbyID now, some .commit)
  | .commit => { commits := own, next := some .read }
  | .read => {}

def TransferAt.run (own db : DB) (lobbyID : LobbyID) (ownerUserID targetUserID : UserID) (now : ℕ)
    (e : Moment) : TransferAt → TxResult TransferAt
  | .ensureOwner =>
      TxStep.result own <|
        match ensureLobbyOwner (view own db) lobbyID ownerUserID with
        | .error _ => (∅, none)
        | .ok _ => (∅, if transfers ownerUserID targetUserID then some (.transfer .targetActive) else none)
  | .transfer at_ =>
      let s := at_.run (view own db) lobbyID (trim targetUserID) now e
      TxStep.result own (s.1, s.2.map fun next => next.elim .commit .transfer)
  | .commit => { commits := own, next := some .read }
  | .read => {}

/-! ## The program -/

def LobbyProc.run : LobbyProc → DB → Moment → DB × Option LobbyProc
  | .join lobbyID userID at_, db, e =>
      let r := at_.run db lobbyID userID e
      (r.1, r.2.map (.join lobbyID userID))
  | .leave lobbyID userID now at_ own, db, e =>
      let r := at_.run own db lobbyID userID now e
      (r.commits, r.next.map fun at_ => .leave lobbyID userID now at_ r.own)
  | .kick lobbyID ownerUserID targetUserID at_, db, e =>
      let r := at_.run db lobbyID ownerUserID targetUserID e
      (r.1, r.2.map (.kick lobbyID ownerUserID targetUserID))
  | .transfer lobbyID ownerUserID targetUserID now at_ own, db, e =>
      let r := at_.run own db lobbyID ownerUserID targetUserID now e
      (r.commits, r.next.map fun at_ => .transfer lobbyID ownerUserID targetUserID now at_ r.own)

def lobbyProgram : ReadCommitted.Program Row where
  Call := LobbyCall
  Proc := LobbyProc
  Env := Moment
  begin := LobbyCall.begin
  own := LobbyProc.own
  own_begin := by rintro (_ | _ | _ | _) <;> rfl
  run := LobbyProc.run

abbrev LobbyWorld := ReadCommitted.World lobbyProgram

abbrev LobbyAct := ReadCommitted.Act lobbyProgram

end GeoDuels.Persistence
