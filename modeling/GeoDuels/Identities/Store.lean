import GeoDuels.Persistence.Lobbies

/-!
# Sign-in identities

The tables `users`, `user_identities`, `user_identity_history` and `oauth_identity_bans` with the
functions of `pkg/persistence/store.go` that link, unlink and ban the identities at a sign-in provider.
A row of `user_identities` that has been deleted stays as `none`, and the unique indexes of the tables
have a row for each value.  A function gives the rows after it, or the error with which it leaves them
alone.  The statements on other tables are left out, and so are the actor of a ban, columns that are not
read here, and failures of the database.
-/

namespace GeoDuels.Identities

open Persistence (trim)
open ReadCommitted (view update updateAll rowsAffected)

abbrev Provider := String
abbrev ProviderUserID := String

def identityProviderGoogle : Provider := "google"
def identityProviderDiscord : Provider := "discord"

/-! ## Rows -/

inductive AccountType where
  | guest | registered
  deriving DecidableEq

structure UserRow where
  email : Option String := none
  displayName : String
  avatarURL : Option String := none
  onboardedAt : Option ℕ := none
  accountType : AccountType
  bannedAt : Option ℕ := none
  banReason : Option String := none
  deletedAt : Option ℕ := none
  deriving DecidableEq

structure IdentityRow where
  providerUserID : ProviderUserID
  email : String
  providerName : String
  avatarURL : Option String
  createdAt : ℕ
  lastSeenAt : ℕ
  deriving DecidableEq

structure HistoryRow where
  email : String
  providerName : String
  avatarURL : Option String
  firstSeenAt : ℕ
  lastSeenAt : ℕ
  deletedAt : Option ℕ
  deriving DecidableEq

structure BanRow where
  bannedUserID : UserID
  reason : Option String
  createdAt : ℕ
  revokedAt : Option ℕ := none
  deriving DecidableEq

/-- The primary keys of the tables, and the values of the unique columns. -/
inductive RowKey where
  | user (id : UserID)
  | email (email : String)
  | identity (userID : UserID) (provider : Provider)
  | subject (provider : Provider) (providerUserID : ProviderUserID)
  | history (userID : UserID) (provider : Provider) (providerUserID : ProviderUserID)
  | ban (provider : Provider) (providerUserID : ProviderUserID)
  deriving DecidableEq

@[reducible] def Row : RowKey → Type
  | .user _ => UserRow
  | .email _ | .subject _ _ => Option UserID
  | .identity _ _ => Option IdentityRow
  | .history _ _ _ => HistoryRow
  | .ban _ _ => BanRow

abbrev DB := AList Row

/-- An identity at a provider. -/
abbrev Subject := Provider × ProviderUserID

inductive IdentityError where
  | noRows
  | uniqueViolation
  | new (text : String)
  deriving DecidableEq

/-- `strings.ToLower`, and `lower` of the database. -/
structure LowerCase where
  toLower : String → String
  lower : String → String

/-- For texts that are in lower case. -/
def lowerTexts : LowerCase := ⟨id, id⟩

/-- The readings of the clock, `now()` of the transaction first, and the choice among rows that may come
in any order. -/
structure Moment where
  now : ℕ → ℕ := fun _ => 0
  choice : ℕ := 0

def nullable (v : String) : Option String := if v = "" then none else some v

/-! ## Queries -/

variable (lc : LowerCase) (db : DB)

def userRow (userID : UserID) : Option UserRow := db.lookup (.user userID)

def identityRow (userID : UserID) (provider : Provider) : Option IdentityRow :=
  (db.lookup (.identity userID provider)).join

/-- `select user_id from user_identities where provider = $1 and provider_user_id = $2`. -/
def subjectUser (x : Subject) : Option UserID := (db.lookup (.subject x.1 x.2)).join

def emailUser (email : String) : Option UserID := (db.lookup (.email email)).join

/-- The users with this email, whatever its case. -/
def usersWithEmail (email : String) : List UserID :=
  db.entries.filterMap fun
    | ⟨.user userID, row⟩ =>
        if row.email.map lc.lower = some (lc.lower email) then some userID else none
    | _ => none

def countIdentities (userID : UserID) : ℕ :=
  db.entries.countP fun
    | ⟨.identity u _, row⟩ => u = userID ∧ row.isSome
    | _ => false

/-- The identities in `user_identities` or `user_identity_history` of the account. -/
def knownIdentities (userID : UserID) : List Subject :=
  db.entries.filterMap fun
    | ⟨.identity u provider, some row⟩ => if u = userID then some (provider, row.providerUserID) else none
    | ⟨.history u provider providerUserID, _⟩ => if u = userID then some (provider, providerUserID) else none
    | _ => none

/-- The query of `IsProviderIdentityBanned`. -/
def Banned (x : Subject) : Prop := ∃ row, db.lookup (.ban x.1 x.2) = some row ∧ row.revokedAt = none

instance (x : Subject) : Decidable (Banned db x) :=
  decidable_of_iff (∃ row ∈ db.lookup (.ban x.1 x.2), row.revokedAt = none) Iff.rfl

def isProviderIdentityBanned (provider providerUserID : String) : Except IdentityError Bool :=
  let provider := trim (lc.toLower provider)
  let providerUserID := trim providerUserID
  if provider = "" ∨ providerUserID = "" then .error (.new "provider and subject required")
  else .ok (Banned db (provider, providerUserID))

/-! ## Linking -/

structure LinkArgs where
  provider : String
  providerUserID : String
  email : String := ""
  providerName : String := ""
  avatarURL : String := ""
  linkUserID : String
  deriving DecidableEq

/-- The start of `LinkProviderIdentity`. -/
def LinkArgs.normalize (r : LinkArgs) : Except IdentityError LinkArgs :=
  let provider := trim (lc.toLower r.provider)
  let providerUserID := trim r.providerUserID
  let linkUserID := trim r.linkUserID
  if provider = "" then .error (.new "provider required")
  else if providerUserID = "" then .error (.new "provider subject required")
  else if linkUserID = "" then .error (.new "link user required")
  else
    .ok
      { provider := provider
        providerUserID := providerUserID
        email := if r.email = "" then providerUserID ++ "@oauth.invalid" else r.email
        providerName := if r.providerName = "" then providerUserID else r.providerName
        avatarURL := r.avatarURL
        linkUserID := linkUserID }

variable (r : LinkArgs) (m : Moment)

def providerUsesAccountEmail (provider : Provider) : Prop :=
  provider = identityProviderGoogle ∨ provider = identityProviderDiscord

instance (provider : Provider) : Decidable (providerUsesAccountEmail provider) :=
  inferInstanceAs (Decidable (_ ∨ _))

def isSyntheticOAuthEmail (email : String) : Prop :=
  let email := (trim (lc.toLower email)).toList
  "@oauth.invalid".toList <:+ email ∨ ".oauth.invalid".toList <:+ email

instance (email : String) : Decidable (isSyntheticOAuthEmail lc email) :=
  inferInstanceAs (Decidable (_ ∨ _))

def providerAccountEmail (provider : Provider) (email : String) : Option String :=
  let email := trim email
  if providerUsesAccountEmail provider ∧ email ≠ "" ∧ ¬ isSyntheticOAuthEmail lc email then some email
  else none

def providerOnboardedAt (linkedGuest : Bool) (now : ℕ) : Option ℕ := if linkedGuest then some now else none

/-- Another account has the identity. -/
def linkedToOther : Prop := ∃ u ∈ subjectUser db (r.provider, r.providerUserID), u ≠ r.linkUserID

instance : Decidable (linkedToOther db r) :=
  decidable_of_iff (∃ u ∈ subjectUser db (r.provider, r.providerUserID), u ≠ r.linkUserID) Iff.rfl

/-- The email is looked for. -/
def checksEmail : Prop :=
  providerUsesAccountEmail r.provider ∧ r.email ≠ "" ∧ ¬ isSyntheticOAuthEmail lc r.email

instance : Decidable (checksEmail lc r) := inferInstanceAs (Decidable (_ ∧ _ ∧ _))

/-- The account that is found with the email is another one. -/
def emailOfOther (choice : ℕ) : Prop :=
  let users := usersWithEmail lc db r.email
  ∃ u ∈ users[choice % users.length]?, u ≠ r.linkUserID

instance (choice : ℕ) : Decidable (emailOfOther lc db r choice) :=
  inferInstanceAs (Decidable (∃ u ∈ _, u ≠ r.linkUserID))

/-- The unique index of `users.email` when the email of a row changes. -/
def reindexEmail (userID : UserID) (old new : Option String) : DB :=
  let rows : DB := old.elim ∅ fun email => AList.insert (.email email) none ∅
  new.elim rows fun email => AList.insert (.email email) (some userID) rows

/-- The unique index of `user_identities` when a row changes. -/
def reindexSubject (userID : UserID) (provider : Provider) (old new : Option ProviderUserID) : DB :=
  let rows : DB := old.elim ∅ fun v => AList.insert (.subject provider v) none ∅
  new.elim rows fun v => AList.insert (.subject provider v) (some userID) rows

/-- The insert into `users`; `none` when another account has the email. -/
def upsertUser (guest : Bool) : Option DB :=
  let email := providerAccountEmail lc r.provider r.email
  let onboardedAt := providerOnboardedAt guest (m.now 1)
  let old := userRow db r.linkUserID
  let row : UserRow :=
    match old with
    | none =>
        { email := email, displayName := r.providerName, avatarURL := nullable r.avatarURL
          onboardedAt := onboardedAt, accountType := .registered }
    | some row =>
        { row with
          email := email.or row.email
          displayName :=
            if row.accountType = .guest then r.providerName
            else if row.onboardedAt ≠ none ∧ row.displayName ≠ "" then row.displayName
            else r.providerName
          avatarURL := nullable r.avatarURL
          onboardedAt := row.onboardedAt.or onboardedAt
          accountType := .registered }
  if ∃ e ∈ row.email, ∃ u ∈ emailUser db e, u ≠ r.linkUserID then none
  else
    some (AList.insert (.user r.linkUserID) row
      (reindexEmail r.linkUserID (old.bind UserRow.email) row.email))

def keptAvatar (old new : Option String) : Option String :=
  match new with
  | none | some "" => old
  | some url => some url

/-- The insert into `user_identities`; `none` when another account has the identity. -/
def upsertIdentity : Option DB :=
  let old := identityRow db r.linkUserID r.provider
  let row : IdentityRow :=
    { providerUserID := r.providerUserID, email := r.email, providerName := r.providerName
      avatarURL := keptAvatar (old.bind IdentityRow.avatarURL) (nullable r.avatarURL)
      createdAt := (old.map IdentityRow.createdAt).getD (m.now 0), lastSeenAt := m.now 0 }
  if linkedToOther db r then none
  else
    some (AList.insert (.identity r.linkUserID r.provider) (some row)
      (reindexSubject r.linkUserID r.provider (old.map IdentityRow.providerUserID)
        (some r.providerUserID)))

def recordUserIdentityHistory : DB :=
  let key : RowKey := .history r.linkUserID r.provider r.providerUserID
  let old : Option HistoryRow := db.lookup key
  let row : HistoryRow :=
    { email := r.email, providerName := r.providerName
      avatarURL := keptAvatar (old.bind HistoryRow.avatarURL) (nullable r.avatarURL)
      firstSeenAt := (old.map HistoryRow.firstSeenAt).getD (m.now 0), lastSeenAt := m.now 0
      deletedAt := none }
  AList.insert key row ∅

def linkProviderIdentity (args : LinkArgs) : Except IdentityError DB :=
  match args.normalize lc with
  | .error err => .error err
  | .ok r =>
      if Banned db (r.provider, r.providerUserID) then .error (.new "provider identity banned")
      else
        match userRow db r.linkUserID with
        | none => .error (.new "link user not found")
        | some user =>
            if linkedToOther db r ∨ checksEmail lc r ∧ emailOfOther lc db r m.choice then
              .error (.new "provider identity already linked")
            else
              match upsertUser lc db r m (user.accountType = .guest) with
              | none => .error .uniqueViolation
              | some users =>
                  let db := view users db
                  match upsertIdentity db r m with
                  | none => .error .uniqueViolation
                  | some identities =>
                      let db := view identities db
                      .ok (view (recordUserIdentityHistory db r m) db)

/-! ## Unlinking -/

variable (userID : UserID) (provider : Provider)

/-- `delete from user_identities where user_id = $1 and provider = $2`. -/
def deleteIdentity : DB :=
  match identityRow db userID provider with
  | none => ∅
  | some row =>
      AList.insert (.identity userID provider) none
        (reindexSubject userID provider (some row.providerUserID) none)

/-- The update of `user_identity_history` after an identity has been unlinked. -/
def markDeleted : DB :=
  updateAll db fun
    | .history u p _, row =>
        if u = userID ∧ p = provider ∧ row.deletedAt = none then
          some { row with deletedAt := some (m.now 0) }
        else none
    | _, _ => none

/-- `update users set email = null`, when the account has no identity at Google. -/
def clearEmail : DB :=
  match userRow db userID with
  | none => ∅
  | some row =>
      if identityRow db userID identityProviderGoogle ≠ none then ∅
      else AList.insert (.user userID) { row with email := none } (reindexEmail userID row.email none)

def unlinkProviderIdentity : Except IdentityError DB :=
  let userID := trim userID
  let provider := trim (lc.toLower provider)
  if userID = "" ∨ provider = "" then .error (.new "user and provider required")
  else if countIdentities db userID ≤ 1 then .error (.new "cannot unlink the last sign-in method")
  else if rowsAffected (deleteIdentity db userID provider) = 0 then .error (.new "provider is not linked")
  else
    let db := view (deleteIdentity db userID provider) db
    let db := view (markDeleted db m userID provider) db
    .ok (if provider = identityProviderGoogle then view (clearEmail db userID) db else db)

/-! ## Bans -/

/-- `update users set …, where id = $1`. -/
def updateUser (set : UserRow → UserRow) : DB :=
  update db (.user userID) fun row : UserRow => some (set row)

def banUserOAuthIdentities (reason : String) : DB :=
  let row : BanRow :=
    { bannedUserID := userID, reason := nullable (trim reason), createdAt := m.now 0 }
  ((knownIdentities db userID).map fun x => (⟨.ban x.1 x.2, row⟩ : Sigma Row)).toAList

/-- The update of `oauth_identity_bans` when an account is not banned any more. -/
def revokeOAuthIdentityBans : DB :=
  updateAll db fun
    | .ban _ _, row =>
        if row.bannedUserID = userID ∧ row.revokedAt = none then
          some { row with revokedAt := some (m.now 0) }
        else none
    | _, _ => none

def setPlayerBan (reason : String) (banned : Bool) : Except IdentityError DB :=
  if userID = "" then .error (.new "user id required")
  else
    let users :=
      updateUser db userID fun row =>
        { row with
          bannedAt := if banned then some (m.now 1) else none
          banReason := if banned then nullable (trim reason) else none }
    if rowsAffected users = 0 then .error (.new "user not found")
    else
      let db := view users db
      .ok <|
        if banned then view (banUserOAuthIdentities db m userID (trim reason)) db
        else view (revokeOAuthIdentityBans db m userID) db

/-- The part of `BanPlayerForCheating` on these tables. -/
def banPlayerForCheating (reason : String) : Except IdentityError DB :=
  let userID := trim userID
  let reason := if trim reason = "" then "cheating" else trim reason
  if userID = "" then .error (.new "userID required")
  else
    let users :=
      updateUser db userID fun row =>
        { row with bannedAt := row.bannedAt.or (some (m.now 0)), banReason := some reason }
    if rowsAffected users = 0 then .error (.new "user not found")
    else
      let db := view users db
      .ok (view (banUserOAuthIdentities db m userID reason) db)

/-! ## Deletion -/

/-- The insert into `user_identity_history` of the identities of the account. -/
def keepIdentities : DB :=
  (db.entries.filterMap fun
    | ⟨.identity u provider, some identity⟩ =>
        if u = userID then
          let key : RowKey := .history userID provider identity.providerUserID
          let old : Option HistoryRow := db.lookup key
          some (⟨key,
            { email := identity.email, providerName := identity.providerName
              avatarURL := keptAvatar (old.bind HistoryRow.avatarURL) identity.avatarURL
              firstSeenAt := (old.map HistoryRow.firstSeenAt).getD identity.createdAt
              lastSeenAt := max (old.elim 0 HistoryRow.lastSeenAt) identity.lastSeenAt
              deletedAt := (old.bind HistoryRow.deletedAt).or (some (m.now 0)) }⟩ : Sigma Row)
        else none
    | _ => none).toAList

/-- `delete from user_identities where user_id = $1`. -/
def deleteIdentities : DB :=
  updateAll db fun
    | .identity u _, row => if u = userID ∧ row.isSome then some none else none
    | .subject _ _, user => if user = some userID then some none else none
    | _, _ => none

/-- The last update of `DeleteAccount`. -/
def forgetUser : DB :=
  match userRow db userID with
  | none => ∅
  | some row =>
      AList.insert (.user userID)
        { row with
          email := none, displayName := "Deleted player", avatarURL := none, onboardedAt := none
          accountType := .guest, deletedAt := row.deletedAt.or (some (m.now 0)) }
        (reindexEmail userID row.email none)

def deleteAccount : Except IdentityError DB :=
  let userID := trim userID
  if userID = "" then .error (.new "userID required")
  else
    match userRow db userID with
    | none => .error (.new "user not found")
    | some row =>
        let banReason := row.banReason.getD ""
        let reason := if trim banReason = "" then "account deleted while banned" else banReason
        let db := if row.bannedAt = none then db else view (banUserOAuthIdentities db m userID reason) db
        let db := view (keepIdentities db m userID) db
        let db := view (deleteIdentities db userID) db
        .ok (view (forgetUser db m userID) db)

end GeoDuels.Identities
