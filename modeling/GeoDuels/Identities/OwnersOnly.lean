import GeoDuels.Identities.OAuth
import GeoDuels.Identities.Bans

/-!
# Who gets into an account

Calls that sign in, link, unlink, onboard and delete, statement by statement in any order.  An account is
found with an identity that is linked with it, or with its email; so whoever has neither of them never
gets a session of it, and none of their statements changes its email or its identities
(`entered_by_owner`).  This needs that the providers give the emails of the owner with the owner's
identities only, and that an id which is drawn for a new account is not the id of this one.
-/

namespace GeoDuels.Identities

open Persistence (trim)
open ReadCommitted (view update updateAll Each)

variable (lc : LowerCase)

/-! ## Credentials -/

/-- An account, with the identities at providers that its owner signs in with and the emails, in lower
case, that come with them. -/
structure Owner where
  userID : UserID
  identities : List Subject
  emails : List String

variable (o : Owner)

/-- The arguments have emails of the owner only. -/
def Owner.Gives (r : LinkArgs) : Prop :=
  lc.lower r.email ∈ o.emails ∧ ∀ e ∈ providerAccountEmail lc r.provider r.email, lc.lower e ∈ o.emails

/-- The identity is one of the owner's. -/
def Owner.Has (r : LinkArgs) : Prop := (r.provider, r.providerUserID) ∈ o.identities

/-- The account whose row it is. -/
def RowKey.account : RowKey → Option UserID
  | .user u | .identity u _ | .history u _ _ => some u
  | .email _ | .subject _ _ | .ban _ _ => none

/-- The row lets nobody else into the account. -/
def Owner.Owns : (k : RowKey) → Row k → Prop
  | .user u => fun row : UserRow => u = o.userID → ∀ e ∈ row.email, lc.lower e ∈ o.emails
  | .identity u _ => fun row : Option IdentityRow =>
      u = o.userID → ∀ identity ∈ row, lc.lower identity.email ∈ o.emails
  | .subject provider providerUserID => fun user : Option UserID =>
      user = some o.userID → (provider, providerUserID) ∈ o.identities
  | .email _ | .history _ _ _ | .ban _ _ => fun _ => True

/-- The process is for the account, or for an identity of its owner. -/
def Owner.Acts : AccountProc → Prop
  | .identity (.link r _ _ _) => r.linkUserID = o.userID
  | .identity (.unlink u _ _ _ _) | .onboarding u _ _ | .delete u _ _ _ => u = o.userID
  | .upsert r _ _ _ => o.Has r
  | .identity .refused | .oauth .. | .guest | .updateUser .. | .writeBans .. => False

/-- Only the owner links identities with the account, and they are the owner's; the emails of the owner
come with these identities and with no other one; the account's id is not drawn again. -/
def Owner.Alone : AccountProc → DB → AccountEnv → Prop
  | .identity (.link r _ _ _), _, _ => r.linkUserID = o.userID → o.Has r ∧ o.Gives lc r
  | .upsert r _ _ _, _, e =>
      (o.Has r → o.Gives lc r) ∧ (¬ o.Has r → checksEmail lc r → lc.lower r.email ∉ o.emails) ∧
        e.newUserID ≠ o.userID
  | .guest, _, e => e.newUserID ≠ o.userID
  | _, _, _ => True

instance (r : LinkArgs) : Decidable (o.Gives lc r) := inferInstanceAs (Decidable (_ ∧ _))

instance (r : LinkArgs) : Decidable (o.Has r) := inferInstanceAs (Decidable (_ ∈ _))

instance Owner.Owns.decidable (k : RowKey) (row : Row k) : Decidable (o.Owns lc k row) :=
  match k with
  | .user u => inferInstanceAs (Decidable (u = _ → ∀ e ∈ row.email, _))
  | .identity u _ => inferInstanceAs (Decidable (u = _ → ∀ identity ∈ row, _))
  | .subject _ _ => inferInstanceAs (Decidable (row = _ → _))
  | .email _ | .history _ _ _ | .ban _ _ => .isTrue trivial

instance Owner.Alone.decidable (p : AccountProc) (db : DB) (e : AccountEnv) :
    Decidable (o.Alone lc p db e) :=
  match p with
  | .identity (.link _ _ _ _) => inferInstanceAs (Decidable (_ → _))
  | .upsert _ _ _ _ => inferInstanceAs (Decidable (_ ∧ _ ∧ _))
  | .guest => inferInstanceAs (Decidable (_ ≠ _))
  | .identity (.unlink _ _ _ _ _) | .identity .refused | .oauth .. | .onboarding .. | .delete ..
  | .updateUser .. | .writeBans .. => .isTrue trivial

instance (w : AccountWorld lc) (as : List (AccountAct lc)) :
    Decidable (ReadCommitted.World.StatementsMeet (o.Alone lc) w as) :=
  @ReadCommitted.World.StatementsMeet.decidable _ Row _ (accountProgram lc) (o.Alone lc)
    (Owner.Alone.decidable lc o) w as

/-! ## What the statements write -/

variable {lc o} {db own rows seen : DB} {r : LinkArgs} {m : Moment} {u : UserID} {provider : Provider}
  {acts : Prop}

/-- The row lets nobody else into the account, and is not the account's unless the process `acts` for it. -/
def Owner.Fine (lc : LowerCase) (o : Owner) (acts : Prop) (k : RowKey) (row : Row k) : Prop :=
  o.Owns lc k row ∧ (k.account = some o.userID → acts)

/-- The rows are of other tables. -/
theorem fine_of_only (h : Only [.emails, .bans] rows) : Each (o.Fine lc acts) rows := by
  intro k row hrow
  have htable := h k (ReadCommitted.mem_of_lookup hrow)
  cases k with
  | email | ban => exact ⟨trivial, fun h => by cases h⟩
  | _ => simp at htable

theorem fine_reindexEmail (u : UserID) (old new : Option String) :
    Each (o.Fine lc acts) (reindexEmail u old new) :=
  fine_of_only ((only_reindexEmail u old new).mono (by simp))

theorem fine_reindexSubject {old new : Option ProviderUserID}
    (hnew : ∀ v ∈ new, u = o.userID → (provider, v) ∈ o.identities) :
    Each (o.Fine lc acts) (reindexSubject u provider old new) := by
  have hgone : ∀ v, o.Fine lc acts (.subject provider v) none := by
    intro v
    refine ⟨?_, ?_⟩ <;> intro h <;> cases h
  have hold : Each (o.Fine lc acts)
      (old.elim ∅ fun v => AList.insert (.subject provider v) none ∅ : DB) := by
    cases old with
    | none => exact .empty
    | some v => exact Each.empty.insert (hgone v)
  unfold reindexSubject
  cases new with
  | none => exact hold
  | some v =>
      exact hold.insert ⟨fun h => hnew v rfl (Option.some.inj h), fun h => by cases h⟩

/-- The rows that are seen let nobody else in. -/
theorem owns_user {row : UserRow} (h : Each (o.Owns lc) seen) (hrow : userRow seen o.userID = some row) :
    ∀ e ∈ row.email, lc.lower e ∈ o.emails :=
  h (.user o.userID) row hrow rfl

theorem owns_subject {x : Subject} (h : Each (o.Owns lc) seen) (hx : subjectUser seen x = some o.userID) :
    x ∈ o.identities :=
  h (.subject x.1 x.2) _ (Option.join_eq_some_iff.1 hx) rfl

theorem owns_identity {identity : IdentityRow} (h : Each (o.Owns lc) seen)
    (hrow : identityRow seen o.userID provider = some identity) : lc.lower identity.email ∈ o.emails :=
  h (.identity o.userID provider) _ (Option.join_eq_some_iff.1 hrow) rfl identity rfl

/-- The account with an email of somebody else is another one. -/
theorem userWithEmail_ne {email : String} {choice : ℕ} {x : UserID × AccountType}
    (h : Each (o.Owns lc) seen) (hemail : lc.lower email ∉ o.emails)
    (hx : userWithEmail lc seen email choice = some x) : x.1 ≠ o.userID := by
  obtain ⟨v, hv, hx⟩ := Option.bind_eq_some_iff.1 hx
  obtain ⟨row, -, rfl⟩ := Option.map_eq_some_iff.1 hx
  have hmem : v ∈ usersWithEmail lc seen email := by
    have := List.mem_of_getElem? hv
    split_ifs at this
    · exact this
    · exact List.mem_of_mem_filter this
  rintro rfl
  obtain ⟨⟨k, found⟩, hk, hfound⟩ := List.mem_filterMap.1 hmem
  cases k with
  | user w =>
      dsimp only at hfound
      split_ifs at hfound with he
      obtain rfl : w = o.userID := Option.some.inj hfound
      obtain ⟨e, he, heq⟩ := Option.map_eq_some_iff.1 he
      exact hemail (heq ▸ h (.user o.userID) found (AList.mem_lookup_iff.2 hk) rfl e he)
  | _ => cases hfound

theorem fine_upsertUser {guest : Bool} (hseen : Each (o.Owns lc) seen)
    (hr : r.linkUserID = o.userID → acts ∧ o.Gives lc r) (h : upsertUser lc seen r m guest = some rows) :
    Each (o.Fine lc acts) rows := by
  unfold upsertUser at h
  dsimp only at h
  split_ifs at h
  obtain rfl := Option.some.inj h
  refine (fine_reindexEmail _ _ _).insert ⟨fun hu e he => ?_, fun hu => (hr (Option.some.inj hu)).1⟩
  have hgives := (hr hu).2.2
  cases hold : userRow seen r.linkUserID with
  | none =>
      rw [hold] at he
      exact hgives e he
  | some row =>
      rw [hold] at he
      rcases Option.or_eq_some_iff.1 he with he | ⟨-, he⟩
      · exact hgives e he
      · exact owns_user hseen (hu ▸ hold) e he

theorem fine_upsertIdentity (hr : r.linkUserID = o.userID → acts ∧ o.Has r ∧ o.Gives lc r)
    (h : upsertIdentity seen r m = some rows) : Each (o.Fine lc acts) rows := by
  unfold upsertIdentity at h
  dsimp only at h
  split_ifs at h
  obtain rfl := Option.some.inj h
  refine Each.insert (fine_reindexSubject ?_) ⟨?_, fun hu => (hr (Option.some.inj hu)).1⟩
  · rintro v ⟨⟩ hu
    exact (hr hu).2.1
  · rintro hu identity ⟨⟩
    exact (hr hu).2.2.1

theorem fine_takeIdentity (hseen : Each (o.Owns lc) seen) (hacts : o.Has r → acts)
    (hr : r.linkUserID = o.userID → o.Has r ∧ o.Gives lc r) (h : takeIdentity seen r m = some rows) :
    Each (o.Fine lc acts) rows := by
  unfold takeIdentity at h
  dsimp only at h
  split_ifs at h
  obtain rfl := Option.some.inj h
  have hsubject : o.Fine lc acts (.subject r.provider r.providerUserID) (some r.linkUserID) :=
    ⟨fun hu => (hr (Option.some.inj hu)).1, fun hu => by cases hu⟩
  have howner : o.Fine lc acts
      (.identity ((subjectUser seen (r.provider, r.providerUserID)).getD r.linkUserID) r.provider) none := by
    refine ⟨?_, fun hu => ?_⟩
    · rintro - identity ⟨⟩
    -- the account that has had the identity is the owner's when the identity is
    have hu := Option.some.inj hu
    cases hfound : subjectUser seen (r.provider, r.providerUserID) with
    | none =>
        rw [hfound] at hu
        exact hacts (hr hu).1
    | some v =>
        rw [hfound] at hu
        obtain rfl : v = o.userID := hu
        exact hacts (owns_subject hseen hfound)
  refine ((Each.empty.insert hsubject).insert howner).insert ⟨?_, fun hu => ?_⟩
  · rintro hu identity ⟨⟩
    exact (hr hu).2.1
  · exact hacts (hr (Option.some.inj hu)).1

theorem fine_recordUserIdentityHistory (hr : r.linkUserID = o.userID → acts) :
    Each (o.Fine lc acts) (recordUserIdentityHistory seen r m) :=
  Each.empty.insert ⟨trivial, fun hu => hr (Option.some.inj hu)⟩

theorem fine_deleteIdentity (hu : u = o.userID → acts) :
    Each (o.Fine lc acts) (deleteIdentity seen u provider) := by
  unfold deleteIdentity
  cases identityRow seen u provider with
  | none => exact .empty
  | some row =>
      refine Each.insert (fine_reindexSubject ?_) ⟨?_, fun h => hu (Option.some.inj h)⟩
      · rintro v ⟨⟩
      · rintro - identity ⟨⟩

theorem fine_markDeleted (hu : u = o.userID → acts) :
    Each (o.Fine lc acts) (markDeleted seen m u provider) := by
  refine Each.of_updateAll fun k row row' _ h => ?_
  cases k with
  | history v p pid =>
      dsimp only at h
      split_ifs at h with hv
      exact ⟨trivial, fun hk => hu (hv.1 ▸ Option.some.inj hk)⟩
  | _ => cases h

/-- An account loses its email. -/
theorem fine_user_none {row : UserRow} {old : Option String} (hrow : row.email = none)
    (hu : u = o.userID → acts) :
    Each (o.Fine lc acts) (AList.insert (.user u) row (reindexEmail u old none)) := by
  refine (fine_reindexEmail _ _ _).insert ⟨fun _ e he => ?_, fun h => hu (Option.some.inj h)⟩
  rw [hrow] at he
  cases he

theorem fine_clearEmail (hu : u = o.userID → acts) : Each (o.Fine lc acts) (clearEmail seen u) := by
  unfold clearEmail
  cases userRow seen u with
  | none => exact .empty
  | some row =>
      dsimp only
      split_ifs
      · exact .empty
      · exact fine_user_none rfl hu

theorem fine_forgetUser (hu : u = o.userID → acts) : Each (o.Fine lc acts) (forgetUser seen m u) := by
  unfold forgetUser
  cases userRow seen u with
  | none => exact .empty
  | some row => exact fine_user_none rfl hu

theorem fine_upsertGuest (hu : u = o.userID → acts) : Each (o.Fine lc acts) (upsertGuest seen m u) := by
  unfold upsertGuest
  cases userRow seen u <;> exact fine_user_none rfl hu

theorem fine_keepIdentities (hu : u = o.userID → acts) :
    Each (o.Fine lc acts) (keepIdentities seen m u) := by
  refine Each.toAList fun e he => ?_
  obtain ⟨⟨k, row⟩, -, hrow⟩ := List.mem_filterMap.1 he
  cases k with
  | identity v p =>
      cases row with
      | none => cases hrow
      | some identity =>
          dsimp only at hrow
          split_ifs at hrow
          obtain rfl := Option.some.inj hrow
          exact ⟨trivial, fun h => hu (Option.some.inj h)⟩
  | _ => cases hrow

theorem fine_deleteIdentities (hu : u = o.userID → acts) :
    Each (o.Fine lc acts) (deleteIdentities seen u) := by
  refine Each.of_updateAll fun k row row' _ h => ?_
  cases k with
  | identity v p =>
      dsimp only at h
      split_ifs at h with hv
      obtain rfl := Option.some.inj h
      refine ⟨?_, fun hk => hu (hv.1 ▸ Option.some.inj hk)⟩
      rintro - identity ⟨⟩
  | subject p pid =>
      dsimp only at h
      split_ifs at h
      obtain rfl := Option.some.inj h
      refine ⟨?_, ?_⟩ <;> intro hk <;> cases hk
  | _ => cases h

theorem onboardedEmail_cases {row : UserRow} {email e : String}
    (h : e ∈ onboardedEmail lc seen u row email) : e ∈ row.email ∨ e = email ∧ email ≠ "" := by
  unfold onboardedEmail at h
  split_ifs at h with hrow hempty
  · exact .inl h
  · cases h
  · cases h
  · exact .inr ⟨(Option.some.inj h).symm, hempty⟩

theorem fine_completeOnboarding {email displayName : String} (hseen : Each (o.Owns lc) seen)
    (hemail : u = o.userID → email ≠ "" → lc.lower email ∈ o.emails) (hu : u = o.userID → acts)
    (h : completeOnboarding lc seen m u email displayName = some rows) : Each (o.Fine lc acts) rows := by
  unfold completeOnboarding at h
  cases hrow : userRow seen u with
  | none =>
      rw [hrow] at h
      obtain rfl := Option.some.inj h
      exact .empty
  | some row =>
      rw [hrow] at h
      dsimp only at h
      split_ifs at h
      obtain rfl := Option.some.inj h
      refine (fine_reindexEmail _ _ _).insert ⟨fun ho e he => ?_, fun hk => hu (Option.some.inj hk)⟩
      rcases onboardedEmail_cases he with he | ⟨rfl, hne⟩
      · exact owns_user hseen (ho ▸ hrow) e he
      · exact hemail ho hne

/-- The email that onboarding finds. -/
theorem identityEmail_owned {row : UserRow} (hseen : Each (o.Owns lc) seen)
    (hrow : userRow seen o.userID = some row) (hne : identityEmail seen o.userID row ≠ "") :
    lc.lower (identityEmail seen o.userID row) ∈ o.emails := by
  unfold identityEmail at hne ⊢
  dsimp only at hne ⊢
  cases he : row.email with
  | some e => exact owns_user hseen hrow e he
  | none =>
      rw [he, Option.none_or] at hne
      rw [Option.none_or]
      cases hdiscord : identityRow seen o.userID identityProviderDiscord with
      | some identity => exact owns_identity hseen hdiscord
      | none =>
          cases hgoogle : identityRow seen o.userID identityProviderGoogle with
          | some identity => exact owns_identity hseen hgoogle
          | none =>
              rw [hdiscord, hgoogle] at hne
              exact absurd rfl hne

/-! ## Processes -/

/-- The account of the upsert has been chosen. -/
def UpsertAt.Chosen : UpsertAt → Prop
  | .banned | .subject | .email => False
  | .upsertUser _ _ | .upsertIdentity _ | .history | .commit | .getIdentity => True

/-- The rows that a process has written are fine, and what it has read lets nobody else in. -/
def Owner.Holds (lc : LowerCase) (o : Owner) (p : AccountProc) (_ : DB) : Prop :=
  Each (o.Fine lc (o.Acts p)) p.own ∧
    match p with
    | .upsert r _ at_ _ =>
        (at_ = .email → checksEmail lc r) ∧ (at_.Chosen → r.linkUserID = o.userID → o.Has r)
    | .onboarding sub _ (some email) => sub = o.userID → email ≠ "" → lc.lower email ∈ o.emails
    | _ => True

theorem Owner.Fine.owns {k : RowKey} {row : Row k} (h : o.Fine lc acts k row) : o.Owns lc k row := h.1

theorem owns_view (hown : Each (o.Fine lc acts) own) (hdb : Each (o.Owns lc) db) :
    Each (o.Owns lc) (view own db) :=
  (hown.mono fun _ _ h => h.owns).view hdb

theorem fine_linkAt (at_ : LinkAt) (hseen : Each (o.Owns lc) seen)
    (hr : r.linkUserID = o.userID → o.Has r ∧ o.Gives lc r) :
    Each (o.Fine lc (r.linkUserID = o.userID)) (at_.run lc seen r m).1 := by
  cases at_ with
  | banned | accountType | commit | subject | email => exact .empty
  | upsertUser guest =>
      cases hrows : Identities.upsertUser lc seen r m guest with
      | none => simpa only [LinkAt.run, hrows] using Each.empty
      | some rows =>
          simp only [LinkAt.run, hrows]
          exact fine_upsertUser hseen (fun hu => ⟨hu, (hr hu).2⟩) hrows
  | upsertIdentity =>
      cases hrows : Identities.upsertIdentity seen r m with
      | none => simpa only [LinkAt.run, hrows] using Each.empty
      | some rows =>
          simp only [LinkAt.run, hrows]
          exact fine_upsertIdentity (fun hu => ⟨hu, hr hu⟩) hrows
  | history => exact fine_recordUserIdentityHistory id

theorem fine_unlinkAt (at_ : UnlinkAt) :
    Each (o.Fine lc (u = o.userID)) (at_.run seen u provider m).1 := by
  cases at_ with
  | count | commit => exact .empty
  | delete => exact fine_deleteIdentity id
  | history => exact fine_markDeleted id
  | email => exact fine_clearEmail id

theorem fine_deleteAt (at_ : DeleteAt) : Each (o.Fine lc (u = o.userID)) (at_.run seen u m).1 := by
  cases at_ with
  | user =>
      unfold DeleteAt.run
      cases userRow seen u <;> exact .empty
  | commit => exact .empty
  | ban reason => exact fine_of_only ((only_banUserOAuthIdentities seen m u reason).mono (by simp))
  | keep => exact fine_keepIdentities id
  | identities => exact fine_deleteIdentities id
  | forget => exact fine_forgetUser id

/-- A statement of an upsert, for the account once it has been chosen. -/
theorem fine_upsertAt (at_ : UpsertAt) {newUserID : UserID} (hseen : Each (o.Owns lc) seen)
    (hgives : o.Has r → o.Gives lc r) (hr : at_.Chosen → r.linkUserID = o.userID → o.Has r) :
    Each (o.Fine lc (o.Has r)) (at_.run lc seen r m newUserID).1 := by
  have hboth : at_.Chosen → r.linkUserID = o.userID → o.Has r ∧ o.Gives lc r :=
    fun hat hu => ⟨hr hat hu, hgives (hr hat hu)⟩
  cases at_ with
  | banned | email | commit | getIdentity => exact .empty
  | subject =>
      unfold UpsertAt.run
      cases subjectUser seen (r.provider, r.providerUserID) with
      | some v => exact .empty
      | none =>
          dsimp only
          split_ifs <;> exact .empty
  | upsertUser guest existing =>
      cases hrows : Identities.upsertUser lc seen r m guest with
      | none => simpa only [UpsertAt.run, hrows] using Each.empty
      | some rows =>
          simp only [UpsertAt.run, hrows]
          exact fine_upsertUser hseen (hboth trivial) hrows
  | upsertIdentity existing =>
      cases existing with
      | true =>
          cases hrows : takeIdentity seen r m with
          | none => simpa only [UpsertAt.run, if_true, hrows] using Each.empty
          | some rows =>
              simp only [UpsertAt.run, if_true, hrows]
              exact fine_takeIdentity hseen id (hboth trivial) hrows
      | false =>
          cases hrows : Identities.upsertIdentity seen r m with
          | none => simpa [UpsertAt.run, hrows] using Each.empty
          | some rows =>
              simp only [UpsertAt.run, Bool.false_eq_true, if_false, hrows]
              exact fine_upsertIdentity (fun hu => ⟨hr trivial hu, hboth trivial hu⟩) hrows
  | history => exact fine_recordUserIdentityHistory (hr trivial)

/-- The account that an upsert chooses is the owner's only for the owner. -/
theorem chosen_upsertAt (at_ : UpsertAt) {newUserID : UserID} {next : UserID × UpsertAt}
    (hseen : Each (o.Owns lc) seen) (hother : ¬ o.Has r → checksEmail lc r → lc.lower r.email ∉ o.emails)
    (hnew : newUserID ≠ o.userID) (hemail : at_ = .email → checksEmail lc r)
    (hr : at_.Chosen → r.linkUserID = o.userID → o.Has r)
    (h : (at_.run lc seen r m newUserID).2 = some next) :
    (next.2 = .email → checksEmail lc r) ∧ (next.2.Chosen → next.1 = o.userID → o.Has r) := by
  cases at_ with
  | banned =>
      simp only [UpsertAt.run] at h
      split_ifs at h
      obtain rfl := Option.some.inj h
      exact ⟨fun h => (by cases h), fun h => absurd h id⟩
  | subject =>
      dsimp only [UpsertAt.run] at h
      cases hx : subjectUser seen (r.provider, r.providerUserID) with
      | some v =>
          rw [hx] at h
          obtain rfl := Option.some.inj h
          refine ⟨fun h => (by cases h), fun _ hv => ?_⟩
          exact owns_subject hseen (hx.trans (congrArg some hv))
      | none =>
          rw [hx] at h
          dsimp only at h
          split_ifs at h with hchecks
          · obtain rfl := Option.some.inj h
            exact ⟨fun _ => hchecks, fun h => absurd h id⟩
          · obtain rfl := Option.some.inj h
            exact ⟨fun h => (by cases h), fun _ hv => absurd hv hnew⟩
  | email =>
      obtain rfl := Option.some.inj h
      refine ⟨fun h => (by cases h), fun _ hv => ?_⟩
      by_contra hhas
      dsimp only at hv
      cases hx : userWithEmail lc seen r.email m.choice with
      | some x =>
          rw [hx] at hv
          exact userWithEmail_ne hseen (hother hhas (hemail rfl)) hx hv
      | none =>
          rw [hx] at hv
          exact hnew hv
  | upsertUser guest existing =>
      dsimp only [UpsertAt.run] at h
      cases hrows : Identities.upsertUser lc seen r m guest with
      | none =>
          rw [hrows] at h
          cases h
      | some rows =>
          rw [hrows] at h
          obtain rfl := Option.some.inj h
          exact ⟨fun h => (by cases h), fun _ => hr trivial⟩
  | upsertIdentity existing =>
      dsimp only [UpsertAt.run] at h
      split at h
      · cases h
      · obtain rfl := Option.some.inj h
        exact ⟨fun h => (by cases h), fun _ => hr trivial⟩
  | history =>
      obtain rfl := Option.some.inj h
      exact ⟨fun h => (by cases h), fun _ => hr trivial⟩
  | commit | getIdentity => cases h

/-- What a statement commits, unless it sets other columns of an account. -/
theorem fine_run {p : AccountProc} {e : AccountEnv} (hp : o.Holds lc p db) (hdb : Each (o.Owns lc) db)
    (halone : o.Alone lc p db e) (hnot : ∀ u set, p ≠ .updateUser u set) :
    Each (o.Fine lc (o.Acts p)) (p.run lc db e).1 := by
  cases p with
  | identity p =>
      cases p with
      | link r now at_ own => cases at_ <;> first | exact .empty | exact hp.1
      | unlink u provider now at_ own => cases at_ <;> first | exact .empty | exact hp.1
      | refused => exact .empty
  | oauth args now at_ => exact .empty
  | upsert r now at_ own => cases at_ <;> first | exact .empty | exact hp.1
  | onboarding sub displayName email =>
      cases email with
      | none => exact .empty
      | some email =>
          dsimp only [AccountProc.run]
          cases hrows : completeOnboarding lc db e.toMoment sub email displayName with
          | none => exact .empty
          | some rows => exact fine_completeOnboarding hdb hp.2 id hrows
  | guest => exact fine_upsertGuest fun hu => absurd hu halone
  | delete u now at_ own => cases at_ <;> first | exact .empty | exact hp.1
  | updateUser u set => exact absurd rfl (hnot u set)
  | writeBans rows =>
      refine fine_of_only (Only.toAList fun x hx => ?_)
      obtain ⟨row, -, rfl⟩ := List.mem_map.1 hx
      simp

theorem owns_run {p : AccountProc} {e : AccountEnv} (hp : o.Holds lc p db) (hdb : Each (o.Owns lc) db)
    (halone : o.Alone lc p db e) : Each (o.Owns lc) (view (p.run lc db e).1 db) := by
  by_cases hupdate : ∃ u set, p = .updateUser u set
  · obtain ⟨u, set, rfl⟩ := hupdate
    refine Each.view (Each.of_update fun row row' hrow hset => ?_) hdb
    obtain rfl := Option.some.inj hset
    exact hdb (.user u) row hrow
  · exact owns_view (fine_run hp hdb halone fun u set h => hupdate ⟨u, set, h⟩) hdb

theorem holds_identity {p : IdentityProc} (hown : p.own = ∅) (db : DB) : o.Holds lc (.identity p) db := by
  refine ⟨?_, trivial⟩
  rw [show (AccountProc.identity p).own = p.own from rfl, hown]
  exact .empty

theorem holds_oauth {args : OAuthArgs} {now : ℕ} {at_ : OAuthAt} (db : DB) :
    o.Holds lc (.oauth args now at_) db :=
  ⟨.empty, trivial⟩

theorem holds_begin (c : AccountCall) (db : DB) : o.Holds lc (c.begin lc) db := by
  have hrefused : o.Holds lc (.identity .refused) db := holds_identity rfl db
  cases c with
  | identity c => exact holds_identity ((identityProgram lc).own_begin c) db
  | resolveOAuthIdentity args now =>
      dsimp only [AccountCall.begin]
      cases args.normalize lc with
      | error err => exact hrefused
      | ok args => exact holds_oauth db
  | completeOnboarding sub displayName =>
      dsimp only [AccountCall.begin]
      split_ifs
      · exact hrefused
      · exact ⟨.empty, trivial⟩
  | createGuestIdentity => exact ⟨.empty, trivial⟩
  | deleteAccount u now =>
      dsimp only [AccountCall.begin]
      split_ifs
      · exact hrefused
      · exact ⟨.empty, trivial⟩
  | updateUser u set => exact ⟨.empty, trivial⟩
  | writeBans rows => exact ⟨.empty, trivial⟩

theorem holds_upsert {args : OAuthArgs} {now : ℕ} {p' : AccountProc} (h : args.upsert lc now = some p')
    (db : DB) : o.Holds lc p' db := by
  unfold OAuthArgs.upsert at h
  cases hargs : args.toUpsert lc with
  | error err =>
      rw [hargs] at h
      cases h
  | ok r =>
      rw [hargs] at h
      obtain rfl := Option.some.inj h
      exact ⟨.empty, fun h => (by cases h), fun h => absurd h id⟩

theorem holds_link (args : OAuthArgs) (now : ℕ) (db : DB) : o.Holds lc (args.link lc now) db := by
  have hown : ((IdentityCall.linkProviderIdentity args.toLink now).begin lc).own = ∅ :=
    (identityProgram lc).own_begin (.linkProviderIdentity args.toLink now)
  exact holds_identity hown db

/-- `resolveOAuthIdentity` goes on with itself, with a link or with an upsert. -/
theorem holds_oauthAt {at_ : OAuthAt} {args : OAuthArgs} {now : ℕ} {e : AccountEnv} {p' : AccountProc}
    (h : at_.run lc db args now e = some p') (db' : DB) : o.Holds lc p' db' := by
  cases at_ with
  | banned =>
      dsimp only [OAuthAt.run] at h
      split at h
      · cases hintent : normalizeOAuthIntent lc args.intent with
        | signIn =>
            rw [hintent] at h
            exact Option.some.inj h ▸ holds_oauth db'
        | link =>
            rw [hintent] at h
            dsimp only at h
            split_ifs at h
            exact Option.some.inj h ▸ holds_link args now db'
        | upgradeGuest =>
            rw [hintent] at h
            dsimp only at h
            split_ifs at h
            exact Option.some.inj h ▸ holds_oauth db'
      · cases h
  | accountType =>
      dsimp only [OAuthAt.run] at h
      split at h
      · cases h
      · split_ifs at h
        exact Option.some.inj h ▸ holds_link args now db'
  | exists_ =>
      dsimp only [OAuthAt.run] at h
      split_ifs at h
      · exact Option.some.inj h ▸ holds_oauth db'
      · exact holds_upsert h db'
  | signupIP =>
      dsimp only [OAuthAt.run] at h
      split_ifs at h
      exact holds_upsert h db'

theorem holds_run_account {p p' : AccountProc} {e : AccountEnv} (hp : o.Holds lc p db)
    (hdb : Each (o.Owns lc) db) (halone : o.Alone lc p db e) (hp' : (p.run lc db e).2 = some p')
    (db' : DB) : o.Holds lc p' db' := by
  cases p with
  | identity p =>
      obtain ⟨q, hq, rfl⟩ := Option.map_eq_some_iff.1 hp'
      cases p with
      | link r now at_ own =>
          by_cases hcommit : at_ = .commit
          · subst hcommit
            cases hq
          · have hrun : (IdentityProc.link r now at_ own).run lc db e.toMoment =
                (∅, (at_.run lc (view own db) r (e.toMoment.at_ now)).2.map fun next =>
                  .link r now next (view (at_.run lc (view own db) r (e.toMoment.at_ now)).1 own)) := by
              cases at_ <;> first | rfl | exact absurd rfl hcommit
            rw [hrun] at hq
            obtain ⟨next, -, rfl⟩ := Option.map_eq_some_iff.1 hq
            exact ⟨(fine_linkAt at_ (owns_view hp.1 hdb) halone).view hp.1, trivial⟩
      | unlink u provider now at_ own =>
          by_cases hcommit : at_ = .commit
          · subst hcommit
            cases hq
          · have hrun : (IdentityProc.unlink u provider now at_ own).run lc db e.toMoment =
                (∅, (at_.run (view own db) u provider (e.toMoment.at_ now)).2.map fun next =>
                  .unlink u provider now next
                    (view (at_.run (view own db) u provider (e.toMoment.at_ now)).1 own)) := by
              cases at_ <;> first | rfl | exact absurd rfl hcommit
            rw [hrun] at hq
            obtain ⟨next, -, rfl⟩ := Option.map_eq_some_iff.1 hq
            exact ⟨(fine_unlinkAt at_).view hp.1, trivial⟩
      | refused => cases hq
  | oauth args now at_ => exact holds_oauthAt hp' db'
  | upsert r now at_ own =>
      obtain ⟨hown, hemail, hr⟩ := hp
      obtain ⟨hgives, hother, hnew⟩ := halone
      by_cases hcommit : at_ = .commit
      · subst hcommit
        obtain rfl := Option.some.inj hp'
        exact ⟨.empty, fun h => (by cases h), fun _ => hr trivial⟩
      · have hrun : (AccountProc.upsert r now at_ own).run lc db e =
            (∅, (at_.run lc (view own db) r (e.toMoment.at_ now) e.newUserID).2.map fun next =>
              .upsert { r with linkUserID := next.1 } now next.2
                (view (at_.run lc (view own db) r (e.toMoment.at_ now) e.newUserID).1 own)) := by
          cases at_ <;> first | rfl | exact absurd rfl hcommit
        rw [hrun] at hp'
        obtain ⟨next, hnext, rfl⟩ := Option.map_eq_some_iff.1 hp'
        have hseen := owns_view hown hdb
        have hchosen := chosen_upsertAt at_ hseen hother hnew hemail hr hnext
        exact ⟨(fine_upsertAt at_ hseen hgives hr).view hown, hchosen⟩
  | onboarding sub displayName email =>
      cases email with
      | none =>
          obtain ⟨row, hrow, hp'⟩ := Option.bind_eq_some_iff.1 hp'
          split_ifs at hp'
          obtain rfl := Option.some.inj hp'
          refine ⟨.empty, ?_⟩
          rintro rfl
          exact identityEmail_owned hdb hrow
      | some email => cases hp'
  | delete u now at_ own =>
      by_cases hcommit : at_ = .commit
      · subst hcommit
        cases hp'
      · have hrun : (AccountProc.delete u now at_ own).run lc db e =
            (∅, (at_.run (view own db) u (e.toMoment.at_ now)).2.map fun next =>
              .delete u now next (view (at_.run (view own db) u (e.toMoment.at_ now)).1 own)) := by
          cases at_ <;> first | rfl | exact absurd rfl hcommit
        rw [hrun] at hp'
        obtain ⟨next, -, rfl⟩ := Option.map_eq_some_iff.1 hp'
        exact ⟨(fine_deleteAt at_).view hp.1, trivial⟩
  | guest | updateUser | writeBans => cases hp'

theorem owner_cooperates (lc : LowerCase) (o : Owner) :
    ReadCommitted.World.CooperatesIf (accountProgram lc) (o.Alone lc) (Each (o.Owns lc)) (o.Holds lc) where
  begin c db _ := holds_begin c db
  run _ _ _ _ halone hdb hp hp' := holds_run_account hp hdb halone hp' _
  keeps _ _ _ halone hdb hp := owns_run hp hdb halone
  frame _ _ _ _ _ _ _ hq _ := hq

/-! ## Runs -/

/-- The email of the account and its identities are the same. -/
def SameCredentials (u : UserID) (db db' : DB) : Prop :=
  (userRow db' u).bind UserRow.email = (userRow db u).bind UserRow.email ∧
    ∀ provider, identityRow db' u provider = identityRow db u provider

/-- A statement of somebody else. -/
theorem sameCredentials_run {p : AccountProc} {e : AccountEnv} (hp : o.Holds lc p db)
    (hdb : Each (o.Owns lc) db) (halone : o.Alone lc p db e) (hacts : ¬ o.Acts p) :
    SameCredentials o.userID db (view (p.run lc db e).1 db) := by
  by_cases hupdate : ∃ u set, p = .updateUser u set
  · obtain ⟨u, set, rfl⟩ := hupdate
    dsimp only [AccountProc.run]
    refine ⟨?_, fun provider => ?_⟩
    · unfold userRow
      by_cases hu : o.userID = u
      · rw [hu, ReadCommitted.lookup_view_update_self]
        cases db.lookup (.user u) <;> rfl
      · rw [ReadCommitted.lookup_view_update_ne _ _ (by simpa using hu)]
    · unfold identityRow
      rw [ReadCommitted.lookup_view_update_ne _ _ (by simp)]
  · have hrows := fine_run hp hdb halone fun u set h => hupdate ⟨u, set, h⟩
    have hfree : ∀ k : RowKey, k.account = some o.userID → k ∉ (p.run lc db e).1 := by
      intro k hk hmem
      obtain ⟨row, hrow⟩ := Option.isSome_iff_exists.1 (AList.lookup_isSome.2 hmem)
      exact hacts ((hrows k row hrow).2 hk)
    unfold SameCredentials userRow identityRow
    refine ⟨?_, fun provider => ?_⟩
    · rw [ReadCommitted.lookup_view_of_notMem (hfree (.user o.userID) rfl)]
    · rw [ReadCommitted.lookup_view_of_notMem (hfree (.identity o.userID provider) rfl)]

theorem acts_of_session {p : AccountProc} (hp : o.Holds lc p db) (hu : p.session = some o.userID) :
    o.Acts p := by
  cases p with
  | upsert r now at_ own =>
      cases at_ with
      | getIdentity => exact hp.2.2 trivial (Option.some.inj hu)
      | _ => cases hu
  | _ => cases hu

/-- Whoever gets a session of the account has signed in with an identity of its owner, only these
identities are linked with it, and whatever is not done for the owner changes neither its email nor its
identities. -/
theorem entered_by_owner (lc : LowerCase) (o : Owner) (db : DB) (hdb : Each (o.Owns lc) db)
    (as : List (AccountAct lc))
    (hC : ReadCommitted.World.StatementsMeet (o.Alone lc) (⟨db, ∅⟩ : AccountWorld lc) as) :
    Run.Along ReadCommitted.World.step (fun (w : AccountWorld lc) a w' =>
      (∀ id p, w'.procs.lookup id = some p → p.session = some o.userID → o.Acts p) ∧
      (∀ x, subjectUser w'.db x = some o.userID → x ∈ o.identities) ∧
      ∀ id e p, a = .run id e → w.procs.lookup id = some p → ¬ o.Acts p →
        SameCredentials o.userID w.db w'.db) ⟨db, ∅⟩ as := by
  refine Run.along_of_invariant
    (fun w a w' (h : ReadCommitted.World.Shared (Each (o.Owns lc)) (o.Holds lc) w) hC
      (hs : ReadCommitted.World.step w a = some w') => ?_)
    ⟨ReadCommitted.World.Inv.init db, hdb⟩ hC
  have h' : ReadCommitted.World.Shared (Each (o.Owns lc)) (o.Holds lc) w' := by
    refine ReadCommitted.World.Shared.step_if (owner_cooperates lc o) h ?_ hs
    rintro id e p rfl hp
    exact hC p hp
  refine ⟨h', fun id p hp hu => acts_of_session (h'.each id p hp) hu,
    fun x hx => owns_subject h'.shared hx, ?_⟩
  · rintro id e p rfl hp hacts
    cases ReadCommitted.World.steps_of_step hs with
    | @run id p' e mem free locked =>
        obtain rfl := Option.some.inj (hp.symm.trans mem)
        exact sameCredentials_run (h.each id p hp) h.shared (hC p hp) hacts

/-! ### A stranger and the owner -/

/-- An account with an identity at Google. -/
def oneMethod : DB :=
  [(⟨.user "a",
      ({ email := some "a@x", displayName := "A", accountType := .registered } : UserRow)⟩ : Sigma Row),
    ⟨.email "a@x", some "a"⟩,
    ⟨.identity "a" "google",
      some
        { providerUserID := "x", email := "a@x", providerName := "A", avatarURL := none, createdAt := 0
          lastSeenAt := 0 }⟩,
    ⟨.subject "google" "x", some "a"⟩].toAList

def ownerA : Owner where
  userID := "a"
  identities := [("google", "x"), ("discord", "y")]
  emails := ["a@x"]

/-- A stranger signs in with Google, and the owner with Discord for the first time. -/
def twoSignIns : List (AccountAct lowerTexts) :=
  [.start 0 (.resolveOAuthIdentity { provider := "google", providerUserID := "z", email := "z@x" } 1),
    .start 1 (.resolveOAuthIdentity { provider := "discord", providerUserID := "y", email := "a@x" } 1)] ++
  (List.range 20).map fun i => .run (i % 2) { newUserID := "b" }

/-- Each of them gets a session, and the stranger's is of another account. -/
theorem entered_by_owner_twoSignIns :
    (∃ w ∈ Run.exec ReadCommitted.World.step (⟨oneMethod, ∅⟩ : AccountWorld lowerTexts) twoSignIns,
      (w.procs.lookup 0).bind AccountProc.session = some "b" ∧
        (w.procs.lookup 1).bind AccountProc.session = some "a") ∧
    Run.Along ReadCommitted.World.step (fun (w : AccountWorld lowerTexts) a w' =>
      (∀ id p, w'.procs.lookup id = some p → p.session = some ownerA.userID → ownerA.Acts p) ∧
      (∀ x, subjectUser w'.db x = some ownerA.userID → x ∈ ownerA.identities) ∧
      ∀ id e p, a = .run id e → w.procs.lookup id = some p → ¬ ownerA.Acts p →
        SameCredentials ownerA.userID w.db w'.db) ⟨oneMethod, ∅⟩ twoSignIns :=
  ⟨by decide +kernel,
    entered_by_owner lowerTexts ownerA oneMethod (by decide +kernel) twoSignIns (by decide +kernel)⟩

end GeoDuels.Identities
