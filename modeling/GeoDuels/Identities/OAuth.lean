import GeoDuels.Identities.LastMethod

/-!
# Signing in at a provider

`resolveOAuthIdentity` of `services/api/oauth_helpers.go` with `UpsertProviderIdentity`, and the other
calls of `pkg/persistence/store.go` that write the accounts or their identities: a guest signs up,
onboarding is completed, an account is deleted, other columns of `users` are set, identities are banned.
As before there is one step for each SQL statement.  A process of a call that signs in comes to
`getIdentity` after its transaction, and the account that it is for then is the one that the session of
the answer belongs to.  The time at which an account was made is no column here, so of the accounts with
one email any may be the first.
-/

namespace GeoDuels.Identities

open Persistence (trim)
open ReadCommitted (view update updateAll rowsAffected)

variable (lc : LowerCase)

/-! ## Calls -/

inductive OAuthIntent where
  | signIn | link | upgradeGuest
  deriving DecidableEq

def normalizeOAuthIntent (raw : String) : OAuthIntent :=
  let intent := trim (lc.toLower raw)
  if intent = "link" then .link
  else if intent = "upgrade_guest" then .upgradeGuest
  else .signIn

/-- The arguments of `resolveOAuthIdentity`, with the two claims of the state that it reads. -/
structure OAuthArgs where
  intent : String := "signin"
  linkSub : UserID := ""
  provider : String
  providerUserID : String
  email : String := ""
  displayName : String := ""
  avatarURL : String := ""
  deriving DecidableEq

/-- The start of `resolveOAuthIdentity`. -/
def OAuthArgs.normalize (args : OAuthArgs) : Except IdentityError OAuthArgs :=
  let provider := trim (lc.toLower args.provider)
  let providerUserID := trim args.providerUserID
  if provider = "" ∨ providerUserID = "" then .error (.new "provider identity unavailable")
  else .ok { args with provider := provider, providerUserID := providerUserID }

/-- The arguments of `LinkProviderIdentity`. -/
def OAuthArgs.toLink (args : OAuthArgs) : LinkArgs :=
  { provider := args.provider
    providerUserID := args.providerUserID
    email := args.email
    providerName := args.displayName
    avatarURL := args.avatarURL
    linkUserID := args.linkSub }

/-- The start of `UpsertProviderIdentity`, which is called without an account. -/
def OAuthArgs.toUpsert (args : OAuthArgs) : Except IdentityError LinkArgs :=
  let provider := trim (lc.toLower args.provider)
  if provider = "" then .error (.new "provider required")
  else if args.providerUserID = "" then .error (.new "provider subject required")
  else
    .ok
      { provider := provider
        providerUserID := args.providerUserID
        email := if args.email = "" then args.providerUserID ++ "@oauth.invalid" else args.email
        providerName := if args.displayName = "" then args.providerUserID else args.displayName
        avatarURL := args.avatarURL
        linkUserID := "" }

inductive AccountCall where
  /-- One of the calls that link and unlink identities. -/
  | identity (c : IdentityCall)
  | resolveOAuthIdentity (args : OAuthArgs) (now : ℕ)
  | completeOnboarding (sub : UserID) (displayName : String)
  | createGuestIdentity
  | deleteAccount (userID : UserID) (now : ℕ)
  /-- A statement that sets other columns of `users`. -/
  | updateUser (userID : UserID) (set : UserRow → UserRow)
  /-- A statement on `oauth_identity_bans`. -/
  | writeBans (rows : List (Subject × BanRow))

/-! ## Processes -/

/-- The next statement of `resolveOAuthIdentity` before it calls another function. -/
inductive OAuthAt where
  | banned | accountType | exists_ | signupIP
  deriving DecidableEq

/-- The next statement of `UpsertProviderIdentity`; `existing` when the identity has been found. -/
inductive UpsertAt where
  | banned | subject | email
  | upsertUser (guest existing : Bool)
  | upsertIdentity (existing : Bool)
  | history | commit | getIdentity
  deriving DecidableEq

inductive DeleteAt where
  | user
  | ban (reason : String)
  | keep | identities | forget | commit
  deriving DecidableEq

/-- A call and its next statement, with the rows that its transaction has written.  The account of an
upsert is the one that its statements are for as soon as it has been chosen. -/
inductive AccountProc where
  | identity (p : IdentityProc)
  | oauth (args : OAuthArgs) (now : ℕ) (at_ : OAuthAt)
  | upsert (r : LinkArgs) (now : ℕ) (at_ : UpsertAt) (own : DB)
  | onboarding (sub : UserID) (displayName : String) (email : Option String)
  | guest
  | delete (userID : UserID) (now : ℕ) (at_ : DeleteAt) (own : DB)
  | updateUser (userID : UserID) (set : UserRow → UserRow)
  | writeBans (rows : List (Subject × BanRow))

def AccountProc.own : AccountProc → DB
  | .identity p => p.own
  | .upsert _ _ _ own | .delete _ _ _ own => own
  | .oauth .. | .onboarding .. | .guest | .updateUser .. | .writeBans .. => ∅

/-- The account of the session that a sign-in is answered with. -/
def AccountProc.session : AccountProc → Option UserID
  | .upsert r _ .getIdentity _ => some r.linkUserID
  | _ => none

def AccountCall.begin : AccountCall → AccountProc
  | .identity c => .identity (c.begin lc)
  | .resolveOAuthIdentity args now =>
      match args.normalize lc with
      | .error _ => .identity .refused
      | .ok args => .oauth args now .banned
  | .completeOnboarding sub displayName =>
      if sub = "" ∨ displayName = "" then .identity .refused else .onboarding sub displayName none
  | .createGuestIdentity => .guest
  | .deleteAccount userID now =>
      let userID := trim userID
      if userID = "" then .identity .refused else .delete userID now .user ∅
  | .updateUser userID set => .updateUser userID set
  | .writeBans rows => .writeBans rows

/-- What a statement gets from outside: the clock and the choice among rows, an id that `newUserID` draws,
and whether sign-up is banned for the address of the request. -/
structure AccountEnv extends Moment where
  newUserID : UserID := ""
  signupIPBanned : Bool := false

/-! ## Statements -/

section

variable (db : DB) (r : LinkArgs) (m : Moment) (sub : UserID)

/-- The first account with the email, a registered one if there is one. -/
def userWithEmail (email : String) (choice : ℕ) : Option (UserID × AccountType) :=
  let users := usersWithEmail lc db email
  let registered := users.filter fun u => (userRow db u).any fun row => row.accountType = .registered
  let users := if registered = [] then users else registered
  users[choice % users.length]?.bind fun u => (userRow db u).map fun row => (u, row.accountType)

/-- The account, and whether it was a guest's. -/
def chooseProviderIdentityUser (existingProviderUser : Option UserID)
    (existingEmailUser linkUser : Option (UserID × AccountType)) (newUserID : UserID) : UserID × Bool :=
  match existingProviderUser, existingEmailUser, linkUser with
  | some u, _, _ => (u, false)
  | none, some (u, accountType), _ => (u, accountType = .guest)
  | none, none, some (u, accountType) => (u, accountType = .guest)
  | none, none, none => (newUserID, false)

/-- The insert into `user_identities` with `on conflict (provider, provider_user_id)`: the identity is now
of this account, whosever it was; `none` when the account has another one at the provider. -/
def takeIdentity : Option DB :=
  let user := subjectUser db (r.provider, r.providerUserID)
  let old := user.bind fun u => identityRow db u r.provider
  let row : IdentityRow :=
    { providerUserID := r.providerUserID, email := r.email, providerName := r.providerName
      avatarURL := keptAvatar (old.bind IdentityRow.avatarURL) (nullable r.avatarURL)
      createdAt := (old.map IdentityRow.createdAt).getD (m.now 0), lastSeenAt := m.now 0 }
  if user ≠ some r.linkUserID ∧ identityRow db r.linkUserID r.provider ≠ none then none
  else
    some <| AList.insert (.identity r.linkUserID r.provider) (some row)
      (AList.insert (.identity (user.getD r.linkUserID) r.provider) none
        (AList.insert (.subject r.provider r.providerUserID) (some r.linkUserID) ∅))

/-- The email of `GetIdentity`. -/
def identityEmail (row : UserRow) : String :=
  let identity :=
    (identityRow db sub identityProviderDiscord).or (identityRow db sub identityProviderGoogle)
  (row.email.or (identity.map IdentityRow.email)).getD ""

/-- The email that `CompleteOnboarding` sets: that of the account, or the one that it is given if no other
account has it in any case. -/
def onboardedEmail (row : UserRow) (email : String) : Option String :=
  if row.email ≠ none then row.email
  else if email = "" then none
  else if ∃ u ∈ usersWithEmail lc db email, u ≠ sub then none
  else some email

/-- The update of `CompleteOnboarding`; `none` when another account has the email. -/
def completeOnboarding (email displayName : String) : Option DB :=
  match userRow db sub with
  | none => some ∅
  | some row =>
      let email' := onboardedEmail lc db sub row email
      if ∃ e ∈ email', ∃ u ∈ emailUser db e, u ≠ sub then none
      else
        some (AList.insert (.user sub)
          { row with
            email := email', displayName := displayName
            onboardedAt := row.onboardedAt.or (some (m.now 0)) }
          (reindexEmail sub row.email email'))

/-- The insert into `users` of `UpsertUser`, which `CreateGuestIdentity` calls with a new id. -/
def upsertGuest (userID : UserID) : DB :=
  let old := userRow db userID
  let row : UserRow :=
    match old with
    | none =>
        { displayName := "Guest", onboardedAt := some (m.now 0), accountType := .guest }
    | some row =>
        { row with
          email := none, displayName := "Guest", onboardedAt := row.onboardedAt.or (some (m.now 0)) }
  AList.insert (.user userID) row (reindexEmail userID (old.bind UserRow.email) none)

end

/-- The check of `IsProviderIdentityBanned` lets the identity through. -/
def passesBans (db : DB) (provider providerUserID : String) : Bool :=
  match isProviderIdentityBanned lc db provider providerUserID with
  | .ok banned => !banned
  | .error _ => false

/-- `UpsertProviderIdentity` is called. -/
def OAuthArgs.upsert (args : OAuthArgs) (now : ℕ) : Option AccountProc :=
  match args.toUpsert lc with
  | .error _ => none
  | .ok r => some (.upsert r now .banned ∅)

/-- `LinkProviderIdentity` is called. -/
def OAuthArgs.link (args : OAuthArgs) (now : ℕ) : AccountProc :=
  .identity ((IdentityCall.linkProviderIdentity args.toLink now).begin lc)

/-- The process after a statement of `resolveOAuthIdentity`. -/
def OAuthAt.run (db : DB) (args : OAuthArgs) (now : ℕ) (e : AccountEnv) : OAuthAt → Option AccountProc
  | .banned =>
      if passesBans lc db args.provider args.providerUserID then
        match normalizeOAuthIntent lc args.intent with
        | .signIn => some (.oauth args now .exists_)
        | .link => if args.linkSub = "" then none else some (args.link lc now)
        | .upgradeGuest => if args.linkSub = "" then none else some (.oauth args now .accountType)
      else none
  | .accountType =>
      match userRow db args.linkSub with
      | none => none
      | some row => if row.accountType = .guest then some (args.link lc now) else none
  | .exists_ =>
      let provider := trim (lc.toLower args.provider)
      if provider = "" ∨ trim args.providerUserID = "" then none
      else if subjectUser db (provider, args.providerUserID) = none then some (.oauth args now .signupIP)
      else args.upsert lc now
  | .signupIP => if e.signupIPBanned then none else args.upsert lc now

/-- The rows that a statement of `UpsertProviderIdentity` writes, the account and the next statement. -/
def UpsertAt.run (seen : DB) (r : LinkArgs) (m : Moment) (newUserID : UserID) :
    UpsertAt → DB × Option (UserID × UpsertAt)
  | .banned =>
      (∅, if passesBans lc seen r.provider r.providerUserID then some (r.linkUserID, .subject) else none)
  | .subject =>
      match subjectUser seen (r.provider, r.providerUserID) with
      | some u =>
          let chosen := chooseProviderIdentityUser (some u) none none newUserID
          (∅, some (chosen.1, .upsertUser chosen.2 true))
      | none =>
          if checksEmail lc r then (∅, some (r.linkUserID, .email))
          else
            let chosen := chooseProviderIdentityUser none none none newUserID
            (∅, some (chosen.1, .upsertUser chosen.2 false))
  | .email =>
      let chosen := chooseProviderIdentityUser none (userWithEmail lc seen r.email m.choice) none newUserID
      (∅, some (chosen.1, .upsertUser chosen.2 false))
  | .upsertUser guest existing =>
      match Identities.upsertUser lc seen r m guest with
      | none => (∅, none)
      | some rows => (rows, some (r.linkUserID, .upsertIdentity existing))
  | .upsertIdentity existing =>
      match if existing then takeIdentity seen r m else Identities.upsertIdentity seen r m with
      | none => (∅, none)
      | some rows => (rows, some (r.linkUserID, .history))
  | .history => (recordUserIdentityHistory seen r m, some (r.linkUserID, .commit))
  | .commit | .getIdentity => (∅, none)

def DeleteAt.run (seen : DB) (userID : UserID) (m : Moment) : DeleteAt → DB × Option DeleteAt
  | .user =>
      match userRow seen userID with
      | none => (∅, none)
      | some row =>
          let banReason := row.banReason.getD ""
          let reason := if trim banReason = "" then "account deleted while banned" else banReason
          (∅, some (if row.bannedAt = none then .keep else .ban reason))
  | .ban reason => (banUserOAuthIdentities seen m userID reason, some .keep)
  | .keep => (keepIdentities seen m userID, some .identities)
  | .identities => (deleteIdentities seen userID, some .forget)
  | .forget => (forgetUser seen m userID, if userRow seen userID = none then none else some .commit)
  | .commit => (∅, none)

/-- The rows that a statement commits, and the process after it. -/
def AccountProc.run : AccountProc → DB → AccountEnv → DB × Option AccountProc
  | .identity p, db, e =>
      let s := p.run lc db e.toMoment
      (s.1, s.2.map .identity)
  | .oauth args now at_, db, e => (∅, at_.run lc db args now e)
  | .upsert r now .commit own, _, _ => (own, some (.upsert r now .getIdentity ∅))
  | .upsert r now at_ own, db, e =>
      let s := at_.run lc (view own db) r (e.toMoment.at_ now) e.newUserID
      (∅, s.2.map fun next => .upsert { r with linkUserID := next.1 } now next.2 (view s.1 own))
  | .onboarding sub displayName none, db, _ =>
      (∅, (userRow db sub).bind fun row =>
        if row.onboardedAt ≠ none ∨ row.accountType = .guest then none
        else some (.onboarding sub displayName (some (identityEmail db sub row))))
  | .onboarding sub displayName (some email), db, e =>
      ((completeOnboarding lc db e.toMoment sub email displayName).getD ∅, none)
  | .guest, db, e => (upsertGuest db e.toMoment e.newUserID, none)
  | .delete _ _ .commit own, _, _ => (own, none)
  | .delete userID now at_ own, db, e =>
      let s := at_.run (view own db) userID (e.toMoment.at_ now)
      (∅, s.2.map fun next => .delete userID now next (view s.1 own))
  | .updateUser userID set, db, _ =>
      (update db (.user userID) fun row : UserRow => some { set row with email := row.email }, none)
  | .writeBans rows, _, _ => ((rows.map fun x => (⟨.ban x.1.1 x.1.2, x.2⟩ : Sigma Row)).toAList, none)

def accountProgram : ReadCommitted.Program Row where
  Call := AccountCall
  Proc := AccountProc
  Env := AccountEnv
  begin := AccountCall.begin lc
  own := AccountProc.own
  own_begin := by
    rintro (c | ⟨args, now⟩ | ⟨sub, displayName⟩ | - | ⟨userID, now⟩ | - | -)
    · exact (identityProgram lc).own_begin c
    · cases h : args.normalize lc <;> simp [AccountCall.begin, AccountProc.own, IdentityProc.own, h]
    · simp only [AccountCall.begin]
      split_ifs <;> rfl
    · rfl
    · simp only [AccountCall.begin]
      split_ifs <;> rfl
    · rfl
    · rfl
  run := AccountProc.run lc

abbrev AccountWorld := ReadCommitted.World (accountProgram lc)

abbrev AccountAct := ReadCommitted.Act (accountProgram lc)

end GeoDuels.Identities
