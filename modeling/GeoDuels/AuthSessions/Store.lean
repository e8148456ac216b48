import GeoDuels.Contracts
import GeoDuels.Coordinator.Store
import GeoDuels.Lib.ReadCommitted

/-!
# Sign-in sessions

The table `auth_sessions` and the calls that write it, with one step for each SQL statement:
`rotateSessionFromCookie` of the API with its two statements, and the functions of
`pkg/persistence/store.go` that create and revoke sessions.  A token stands here for its hash, which is
never empty.  A call that fails is one whose connection is lost.  The statements of `CreateAuthSession`
and `DeleteAccount` on other tables are left out, and so is what a session knows of its client.
-/

namespace GeoDuels.AuthSessions

open ReadCommitted (view update rowsAffected)

abbrev SessionID := String
abbrev TokenHash := String

structure SessionRow where
  userID : UserID
  refreshTokenHash : TokenHash
  expiresAt : ℕ
  createdAt : ℕ
  lastUsedAt : ℕ
  revokedAt : Option ℕ := none
  deriving DecidableEq

/-- The table, by its primary key. -/
abbrev DB := AList fun _ : SessionID => SessionRow

/-! ## Statements -/

variable (db : DB)

def getAuthSessionByRefreshToken (hash : TokenHash) : Option (SessionID × SessionRow) :=
  (db.entries.find? fun e => e.2.refreshTokenHash = hash).map fun e => (e.1, e.2)

def rotateAuthSession (sessionID : SessionID) (currentHash nextHash : TokenHash)
    (expiresAt usedAt : ℕ) : DB :=
  update db sessionID fun row =>
    if row.refreshTokenHash = currentHash ∧ row.revokedAt = none then
      some { row with refreshTokenHash := nextHash, expiresAt := expiresAt, lastUsedAt := usedAt }
    else none

def revokeAuthSession (sessionID : SessionID) (now : ℕ) : DB :=
  update db sessionID fun row => some { row with revokedAt := row.revokedAt.or (some now) }

/-- The sessions of the user that are not revoked. -/
def sessionsOfUser (userID : UserID) : List SessionID :=
  db.entries.filterMap fun e =>
    if e.2.userID = userID ∧ e.2.revokedAt = none then some e.1 else none

/-- What `update auth_sessions … where user_id = $1 and revoked_at is null` does to one row. -/
def revokeSessionOfUser (sessionID : SessionID) (userID : UserID) (now : ℕ) : DB :=
  update db sessionID fun row =>
    if row.userID = userID ∧ row.revokedAt = none then some { row with revokedAt := some now }
    else none

/-! ## Calls -/

inductive SessionCall where
  | createAuthSession (sessionID : SessionID) (userID : UserID) (refreshTokenHash : TokenHash)
      (expiresAt now : ℕ)
  | rotateSessionFromCookie (currentHash nextHash : TokenHash)
  | revokeAuthSession (sessionID : SessionID)
  | revokeAuthSessionsForUser (userID : UserID) (now : ℕ)
  | deleteAccount (userID : UserID) (now : ℕ)

/-- The readings of the clock at a statement, and the choice among rows that may come in any order. -/
structure Moment where
  now : ℕ → ℕ := fun _ => 0
  choice : ℕ := 0

inductive CreateAt where
  | insert | commit
  deriving DecidableEq

inductive RefreshAt where
  | get
  | rotate (sessionID : SessionID)
  deriving DecidableEq

/-- The update of all sessions of a user, which finds its rows first. -/
inductive RevokeAt where
  | user | find
  | revoke (rest : List SessionID)
  | commit
  deriving DecidableEq

/-- A call and its next statement; a transaction with the rows that it has written. -/
inductive SessionProc where
  | create (sessionID : SessionID) (userID : UserID) (hash : TokenHash) (expiresAt now : ℕ)
      (at_ : CreateAt) (own : DB)
  | refresh (currentHash nextHash : TokenHash) (at_ : RefreshAt)
  | revoke (sessionID : SessionID)
  | revokeAll (userID : UserID) (now : ℕ) (at_ : RevokeAt) (own : DB)

def SessionProc.own : SessionProc → DB
  | .create _ _ _ _ _ _ own | .revokeAll _ _ _ own => own
  | .refresh .. | .revoke _ => ∅

def SessionCall.begin : SessionCall → SessionProc
  | .createAuthSession sessionID userID hash expiresAt now =>
      .create sessionID userID hash expiresAt now .insert ∅
  | .rotateSessionFromCookie currentHash nextHash => .refresh currentHash nextHash .get
  | .revokeAuthSession sessionID => .revoke sessionID
  | .revokeAuthSessionsForUser userID now => .revokeAll userID now .find ∅
  | .deleteAccount userID now =>
      .revokeAll (String.ofList (Coordinator.trimSpace userID)) now .user ∅

/-- The rows that a statement commits, and what is left of the call; a new refresh token is good for
`refreshTokenTTL`. -/
def SessionProc.run (refreshTokenTTL : ℕ) : SessionProc → DB → Moment → DB × Option SessionProc
  | .create sessionID userID hash expiresAt now .insert own, db, _ =>
      if sessionID ∈ view own db then (∅, none)
      else
        let row : SessionRow :=
          { userID := userID, refreshTokenHash := hash, expiresAt := expiresAt, createdAt := now
            lastUsedAt := now }
        (∅, some (.create sessionID userID hash expiresAt now .commit (AList.insert sessionID row own)))
  | .create _ _ _ _ _ .commit own, _, _ => (own, none)
  | .refresh currentHash nextHash .get, db, e =>
      match getAuthSessionByRefreshToken db currentHash with
      | none => (∅, none)
      | some (sessionID, row) =>
          if row.revokedAt ≠ none ∨ row.expiresAt < e.now 0 then (∅, none)
          else (∅, some (.refresh currentHash nextHash (.rotate sessionID)))
  | .refresh currentHash nextHash (.rotate sessionID), db, e =>
      (rotateAuthSession db sessionID currentHash nextHash (e.now 0 + refreshTokenTTL) (e.now 1), none)
  | .revoke sessionID, db, e => (AuthSessions.revokeAuthSession db sessionID (e.now 0), none)
  | .revokeAll userID now .user own, _, _ => (∅, some (.revokeAll userID now .find own))
  | .revokeAll userID now .find own, db, _ =>
      (∅, some (.revokeAll userID now (.revoke (sessionsOfUser (view own db) userID)) own))
  | .revokeAll userID now (.revoke rest) own, db, e =>
      match rest[e.choice % rest.length]? with
      | none => (∅, some (.revokeAll userID now .commit own))
      | some sessionID =>
          let rows := revokeSessionOfUser (view own db) sessionID userID now
          (∅, some (.revokeAll userID now (.revoke (rest.erase sessionID)) (view rows own)))
  | .revokeAll _ _ .commit own, _, _ => (own, none)

def sessionProgram (refreshTokenTTL : ℕ) : ReadCommitted.Program fun _ : SessionID => SessionRow where
  Call := SessionCall
  Proc := SessionProc
  Env := Moment
  begin := SessionCall.begin
  own := SessionProc.own
  own_begin := by rintro (_ | _ | _ | _ | _) <;> rfl
  run := SessionProc.run refreshTokenTTL

abbrev SessionWorld (refreshTokenTTL : ℕ) := ReadCommitted.World (sessionProgram refreshTokenTTL)

abbrev SessionAct (refreshTokenTTL : ℕ) := ReadCommitted.Act (sessionProgram refreshTokenTTL)

/-! ## What becomes of the tokens -/

inductive SessionEvent where
  | issued (sessionID : SessionID) (hash : TokenHash)
  | exchanged (sessionID : SessionID) (hash nextHash : TokenHash)
  | revoked (sessionID : SessionID)
  deriving DecidableEq

/-- What a call does to a session whose row it commits. -/
def SessionProc.event : SessionProc → SessionID → SessionEvent
  | .create _ _ hash _ _ _ _, sessionID => .issued sessionID hash
  | .refresh currentHash nextHash _, sessionID => .exchanged sessionID currentHash nextHash
  | .revoke _, sessionID | .revokeAll _ _ _ _, sessionID => .revoked sessionID

/-- What an action does to the sessions. -/
def observe (refreshTokenTTL : ℕ) (w : SessionWorld refreshTokenTTL) :
    SessionAct refreshTokenTTL → List SessionEvent
  | .run id e =>
      (w.procs.lookup id).elim [] fun p =>
        (SessionProc.run refreshTokenTTL p w.db e).1.keys.map (SessionProc.event p)
  | .start _ _ | .stop _ => []

end GeoDuels.AuthSessions
