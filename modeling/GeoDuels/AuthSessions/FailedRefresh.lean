import GeoDuels.AuthSessions.CookieJar

/-!
# A refresh that fails

The handlers `session` and `refresh` of the API with every call that may fail.  The rotation of the token is
committed before the identity is read, a listed administrator is promoted and the access token is signed, so
a later failure loses the new token; and on every failure the handlers clear the cookie.
-/

namespace GeoDuels.AuthSessions.FailedRefresh

open ReadCommitted (view update rowsAffected)
open Coordinator (isBlank trimSpace)
open CookieJar (Accepts get_eq_some get_eq_none)

structure Identity where
  sub : UserID
  email : String := ""
  displayName : String := ""
  providerName : String := ""
  googleName : String := ""
  avatarURL : String := ""
  accountType : String := ""
  linkedProviders : List String := []
  onboarded : Bool := false
  isBanned : Bool := false
  isAdmin : Bool := false
  isModerator : Bool := false

structure AuthUser where
  id : UserID
  email : String
  displayName : String
  avatarURL : String
  isGuest : Bool
  isAdmin : Bool
  isModerator : Bool

structure AuthSessionPayload where
  accessToken : String
  onboardingRequired : Bool
  suggestedNickname : String
  linkedProviders : List String
  canPlay : Bool
  user : AuthUser

/-- What the calls of one request return, and its readings of the clock. -/
structure Calls where
  /-- `strings.ToLower`. -/
  toLower : String → String := fun s => String.ofList (s.toList.map Char.toLower)
  adminBootstrapEmails : List String := []
  refreshTokenTTL : ℕ
  now : ℕ
  getAuthSessionError : Option String := none
  newRefreshToken : Except String TokenHash
  rotateError : Option String := none
  getIdentity : UserID → Except String Identity
  setUserAdminError : Option String := none
  /-- `GetIdentity` after `SetUserAdmin`. -/
  getAdminIdentity : UserID → Except String Identity
  issueAppAccessToken : UserID → SessionID → Except String String

/-! ## Handlers -/

def defaultStr (v fallback : String) : String := if isBlank v then fallback else v

def sessionUser (identity : Identity) : AuthUser where
  id := identity.sub
  email := identity.email
  displayName := defaultStr identity.displayName identity.providerName
  avatarURL := identity.avatarURL
  isGuest := identity.accountType == "guest"
  isAdmin := identity.isAdmin
  isModerator := identity.isModerator

/-- Is the identity to be promoted? -/
def Calls.bootstraps (c : Calls) (identity : Identity) : Bool :=
  let email := c.toLower (String.ofList (trimSpace identity.email))
  !identity.isAdmin && email != "" && c.adminBootstrapEmails.contains email

def Calls.autoBootstrapAdmin (c : Calls) (identity : Identity) : Except String Identity :=
  if c.bootstraps identity then
    match c.setUserAdminError with
    | some err => .error err
    | none => c.getAdminIdentity identity.sub
  else .ok identity

def Calls.issueAuthSessionPayload (c : Calls) (identity : Identity) (sessionID : SessionID) :
    Except String AuthSessionPayload :=
  match c.autoBootstrapAdmin identity with
  | .error err => .error err
  | .ok identity =>
      match c.issueAppAccessToken identity.sub sessionID with
      | .error err => .error err
      | .ok accessToken => .ok
          { accessToken
            onboardingRequired := !identity.onboarded
            suggestedNickname :=
              defaultStr identity.providerName (defaultStr identity.googleName identity.displayName)
            linkedProviders := identity.linkedProviders
            canPlay := identity.onboarded && !identity.isBanned
            user := sessionUser identity }

/-- The rest of a request whose rotation has been committed. -/
def Calls.afterRotation (c : Calls) (userID : UserID) (sessionID : SessionID) (nextRefreshToken : TokenHash) :
    Except String (AuthSessionPayload × TokenHash) :=
  match c.getIdentity userID with
  | .error err => .error err
  | .ok identity =>
      match c.issueAuthSessionPayload identity sessionID with
      | .error err => .error err
      | .ok payload => .ok (payload, nextRefreshToken)

def Calls.rotateSessionFromCookie (c : Calls) (db : DB) (refreshToken : TokenHash) :
    Except String (AuthSessionPayload × TokenHash) × DB :=
  if refreshToken = "" then (.error "missing refresh token", db)
  else
    match c.getAuthSessionError, getAuthSessionByRefreshToken db refreshToken with
    | some err, _ => (.error err, db)
    | none, none => (.error "session unavailable", db)
    | none, some (sessionID, row) =>
        if row.revokedAt ≠ none ∨ row.expiresAt < c.now then (.error "session unavailable", db)
        else
          match c.newRefreshToken, c.rotateError with
          | .error err, _ => (.error err, db)
          | .ok _, some err => (.error err, db)
          | .ok next, none =>
              let rows := rotateAuthSession db sessionID refreshToken next (c.now + c.refreshTokenTTL) c.now
              if rowsAffected rows = 0 then (.error "session rotation failed", db)
              else (c.afterRotation row.userID sessionID next, view rows db)

inductive SetCookie where
  | set (refreshToken : TokenHash)
  | clear
  deriving DecidableEq

structure Response where
  status : ℕ
  payload : Option AuthSessionPayload
  cookie : SetCookie

inductive Handler where
  | session | refresh
  deriving DecidableEq

/-- `204` without a body, and `invalid session`. -/
def Handler.errorStatus : Handler → ℕ
  | .session => 204
  | .refresh => 401

def Handler.serve (h : Handler) (c : Calls) (db : DB) (refreshToken : TokenHash) : Response × DB :=
  match c.rotateSessionFromCookie db refreshToken with
  | (.ok (payload, next), db) => (⟨200, some payload, .set next⟩, db)
  | (.error _, db) => (⟨h.errorStatus, none, .clear⟩, db)

/-! ## Failures -/

/-- If the handler issues no new token, it neither clears the cookie, nor has the presented token become
invalid for a request at `later`. -/
def KeepsSession (h : Handler) (c : Calls) (db : DB) (refreshToken : TokenHash) (later : ℕ) : Prop :=
  (h.serve c db refreshToken).1.payload = none →
    (h.serve c db refreshToken).1.cookie ≠ .clear ∧ Accepts (h.serve c db refreshToken).2 refreshToken later

/-- No call before the rotation fails, and the rotation does not. -/
def Calls.Rotates (c : Calls) : Prop :=
  c.getAuthSessionError = none ∧ (∃ next, c.newRefreshToken = .ok next) ∧ c.rotateError = none

/-- No call after the rotation fails. -/
def Calls.Issues (c : Calls) (userID : UserID) (sessionID : SessionID) : Prop :=
  ∃ identity identity' accessToken, c.getIdentity userID = .ok identity ∧
    (if c.bootstraps identity then
      c.setUserAdminError = none ∧ c.getAdminIdentity identity.sub = .ok identity'
    else identity' = identity) ∧
    c.issueAppAccessToken identity'.sub sessionID = .ok accessToken

variable {c : Calls} {db : DB} {sid : SessionID} {row : SessionRow} {hash : TokenHash} {later : ℕ}

theorem autoBootstrapAdmin_eq_ok {identity identity' : Identity} :
    c.autoBootstrapAdmin identity = .ok identity' ↔
      if c.bootstraps identity then
        c.setUserAdminError = none ∧ c.getAdminIdentity identity.sub = .ok identity'
      else identity' = identity := by
  unfold Calls.autoBootstrapAdmin
  split_ifs with h
  · cases c.setUserAdminError with
    | none => simp
    | some err => simp
  · rw [Except.ok.injEq]
    exact eq_comm

theorem afterRotation_issues (next : TokenHash) :
    (∃ payload, c.afterRotation row.userID sid next = .ok (payload, next)) ↔ c.Issues row.userID sid := by
  constructor
  · rintro ⟨payload, h⟩
    unfold Calls.afterRotation at h
    cases hget : c.getIdentity row.userID with
    | error err => rw [hget] at h; cases h
    | ok identity =>
      rw [hget] at h
      unfold Calls.issueAuthSessionPayload at h
      dsimp only at h
      cases hboot : c.autoBootstrapAdmin identity with
      | error err => rw [hboot] at h; cases h
      | ok identity' =>
        rw [hboot] at h
        dsimp only at h
        cases hissue : c.issueAppAccessToken identity'.sub sid with
        | error err => rw [hissue] at h; cases h
        | ok accessToken =>
          exact ⟨identity, identity', accessToken, hget, autoBootstrapAdmin_eq_ok.1 hboot, hissue⟩
  · rintro ⟨identity, identity', accessToken, hget, hboot, hissue⟩
    unfold Calls.afterRotation Calls.issueAuthSessionPayload
    rw [hget]
    dsimp only
    rw [autoBootstrapAdmin_eq_ok.2 hboot]
    dsimp only
    rw [hissue]
    exact ⟨_, rfl⟩

theorem afterRotation_eq_ok {next next' : TokenHash} {payload : AuthSessionPayload}
    (h : c.afterRotation row.userID sid next = .ok (payload, next')) : next' = next := by
  unfold Calls.afterRotation at h
  split at h
  · cases h
  · split at h
    · cases h
    · cases h
      rfl

/-- The session of the presented token, found and good at the time of the request. -/
structure Valid (c : Calls) (db : DB) (hash : TokenHash) (sid : SessionID) (row : SessionRow) : Prop where
  nonempty : hash ≠ ""
  unique : UniqueHashes db
  lookup : db.lookup sid = some row
  token : row.refreshTokenHash = hash
  notRevoked : row.revokedAt = none
  notExpired : c.now ≤ row.expiresAt

/-- The row that the rotation writes. -/
def rotatedRow (c : Calls) (row : SessionRow) (next : TokenHash) : SessionRow :=
  { row with refreshTokenHash := next, expiresAt := c.now + c.refreshTokenTTL, lastUsedAt := c.now }

theorem Valid.rotate (h : Valid c db hash sid row) (next : TokenHash) :
    rotateAuthSession db sid hash next (c.now + c.refreshTokenTTL) c.now =
      AList.insert sid (rotatedRow c row next) ∅ := by
  simp [rotateAuthSession, update, h.lookup, h.token, h.notRevoked, rotatedRow]

theorem Valid.get (h : Valid c db hash sid row) : getAuthSessionByRefreshToken db hash = some (sid, row) :=
  get_eq_some h.unique h.lookup h.token

/-- A request whose rotation is not reached, or fails, changes nothing. -/
theorem Valid.serve_of_not_rotates (h : Valid c db hash sid row) (hnot : ¬ c.Rotates) :
    ∃ err, c.rotateSessionFromCookie db hash = (.error err, db) := by
  unfold Calls.rotateSessionFromCookie
  rw [if_neg h.nonempty, h.get]
  cases hget : c.getAuthSessionError with
  | some err => exact ⟨err, rfl⟩
  | none =>
    dsimp only
    rw [if_neg (by simp [h.notRevoked, h.notExpired])]
    cases hnew : c.newRefreshToken with
    | error err => exact ⟨err, rfl⟩
    | ok next =>
      cases hrotate : c.rotateError with
      | some err => exact ⟨err, rfl⟩
      | none => exact absurd ⟨hget, ⟨next, hnew⟩, hrotate⟩ hnot

theorem Valid.serve_of_rotates (h : Valid c db hash sid row) (hget : c.getAuthSessionError = none)
    {next : TokenHash} (hnew : c.newRefreshToken = .ok next) (hrotate : c.rotateError = none) :
    c.rotateSessionFromCookie db hash =
      (c.afterRotation row.userID sid next, view (AList.insert sid (rotatedRow c row next) ∅) db) := by
  unfold Calls.rotateSessionFromCookie
  rw [if_neg h.nonempty, h.get, hget]
  dsimp only
  rw [if_neg (by simp [h.notRevoked, h.notExpired]), hnew, hrotate]
  dsimp only
  rw [h.rotate, if_neg (by simp [rowsAffected])]

/-- The presented token is good for a later request exactly as long as it has not been exchanged. -/
theorem accepts_iff (h : Handler) (hvalid : Valid c db hash sid row)
    (hfresh : c.newRefreshToken ≠ .ok hash) (hlater : later ≤ row.expiresAt) :
    Accepts (h.serve c db hash).2 hash later ↔ ¬ c.Rotates := by
  by_cases hrot : c.Rotates
  · obtain ⟨hget, ⟨next, hnew⟩, hrotate⟩ := hrot
    refine iff_of_false ?_ (not_not.2 ⟨hget, ⟨next, hnew⟩, hrotate⟩)
    have hdb : (h.serve c db hash).2 = view (AList.insert sid (rotatedRow c row next) ∅) db := by
      unfold Handler.serve
      rw [hvalid.serve_of_rotates hget hnew hrotate]
      split <;> simp_all
    have hgone : getAuthSessionByRefreshToken (h.serve c db hash).2 hash = none := by
      rw [hdb]
      refine get_eq_none fun id row' hrow' => ?_
      rw [lookup_view_insert] at hrow'
      split_ifs at hrow' with hid
      · rw [← Option.some_inj.1 hrow']
        exact fun heq => hfresh (hnew.trans (congrArg _ heq))
      · exact fun heq => hid (hvalid.unique _ _ _ _ hrow' hvalid.lookup (heq.trans hvalid.token.symm))
    rintro ⟨id, row', hfound, -⟩
    rw [hgone] at hfound
    cases hfound
  · refine iff_of_true ?_ hrot
    obtain ⟨err, herr⟩ := hvalid.serve_of_not_rotates hrot
    unfold Handler.serve
    rw [herr]
    exact ⟨sid, row, hvalid.get, hvalid.notRevoked, hlater⟩

/-- Whenever a call fails, the handler clears the cookie. -/
theorem serve_cases (h : Handler) (hvalid : Valid c db hash sid row) :
    (∃ payload next, (h.serve c db hash).1 = ⟨200, some payload, .set next⟩ ∧ c.Rotates ∧
        c.Issues row.userID sid) ∨
      (h.serve c db hash).1 = ⟨h.errorStatus, none, .clear⟩ ∧ ¬ (c.Rotates ∧ c.Issues row.userID sid) := by
  unfold Handler.serve
  by_cases hrot : c.Rotates
  · obtain ⟨hget, ⟨next, hnew⟩, hrotate⟩ := hrot
    rw [hvalid.serve_of_rotates hget hnew hrotate]
    cases hafter : c.afterRotation row.userID sid next with
    | error err =>
      refine .inr ⟨rfl, fun hall => ?_⟩
      obtain ⟨payload, hok⟩ := (afterRotation_issues next).2 hall.2
      rw [hafter] at hok
      cases hok
    | ok r =>
      obtain ⟨payload, next'⟩ := r
      obtain rfl := afterRotation_eq_ok hafter
      exact .inl ⟨payload, next', rfl, ⟨hget, ⟨next', hnew⟩, hrotate⟩,
        (afterRotation_issues next').1 ⟨payload, hafter⟩⟩
  · obtain ⟨err, herr⟩ := hvalid.serve_of_not_rotates hrot
    rw [herr]
    exact .inr ⟨rfl, fun hall => hrot hall.1⟩

/-- A user stays logged in exactly when nothing fails: every failure clears the cookie. -/
theorem keepsSession_iff (h : Handler) (c : Calls) (db : DB) (hash : TokenHash) (sid : SessionID)
    (row : SessionRow) (hvalid : Valid c db hash sid row) (later : ℕ) :
    KeepsSession h c db hash later ↔ c.Rotates ∧ c.Issues row.userID sid := by
  unfold KeepsSession
  rcases serve_cases h hvalid with ⟨payload, next, hserve, hall⟩ | ⟨hserve, hnot⟩
  · rw [hserve]
    exact iff_of_true (fun hnone => nomatch hnone) hall
  · rw [hserve]
    exact iff_of_false (fun hkeeps => (hkeeps rfl).1 rfl) hnot

/-! ## One session -/

/-- Every call returns. -/
def working : Calls where
  refreshTokenTTL := 10
  now := 1
  newRefreshToken := .ok "t1"
  getIdentity userID := .ok { sub := userID }
  getAdminIdentity userID := .ok { sub := userID, isAdmin := true }
  issueAppAccessToken userID sessionID := .ok (userID ++ sessionID)

/-- The store loses its connection when the token has been exchanged. -/
def identityLost : Calls := { working with getIdentity := fun _ => .error "connection lost" }

theorem valid_oneSession (c : Calls) (hnow : c.now = 1) :
    Valid c oneSession "t0" "s"
      { userID := "u", refreshTokenHash := "t0", expiresAt := 9, createdAt := 0, lastUsedAt := 0 } where
  nonempty := by decide
  unique := uniqueHashes_oneSession
  lookup := rfl
  token := rfl
  notRevoked := rfl
  notExpired := by rw [hnow]; decide

theorem keepsSession_working : KeepsSession .refresh working oneSession "t0" 2 :=
  (keepsSession_iff .refresh working oneSession "t0" "s" _ (valid_oneSession working rfl) 2).2
    ⟨⟨rfl, ⟨_, rfl⟩, rfl⟩, _, _, _, rfl, rfl, rfl⟩

/-- The identity cannot be read after the rotation: the cookie is cleared, and its token is gone. -/
theorem not_keepsSession_identityLost :
    ¬ ∀ (h : Handler) (c : Calls) (db : DB) (hash : TokenHash) (sid : SessionID) (row : SessionRow),
      Valid c db hash sid row → ∀ later, c.now ≤ later → later ≤ row.expiresAt →
        KeepsSession h c db hash later := by
  intro h
  have hkeeps := h .refresh identityLost oneSession "t0" "s" _ (valid_oneSession identityLost rfl) 2
    (by decide) (by decide)
  have hfresh : identityLost.newRefreshToken ≠ .ok "t0" := by simp [identityLost, working]
  have hgone : ¬ identityLost.Rotates :=
    (accepts_iff .refresh (valid_oneSession identityLost rfl) hfresh (by decide : 2 ≤ 9)).1 (hkeeps rfl).2
  exact hgone ⟨rfl, ⟨_, rfl⟩, rfl⟩

end GeoDuels.AuthSessions.FailedRefresh
