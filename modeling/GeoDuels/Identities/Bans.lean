import GeoDuels.Identities.Spec
import Mathlib.Data.Fintype.Defs

/-!
# Banned identities

Operations on accounts one after the other.  A ban of an account bans the identities that it has or has
had, and takes their rows over from other accounts; lifting it revokes the rows that the account owns.
So the identities of a banned account stay banned exactly when no ban is lifted of an account that has
taken over one of them (`banned_iff`).
-/

namespace GeoDuels.Identities

open Persistence (trim)
open ReadCommitted (view update updateAll rowsAffected)

variable (lc : LowerCase)

/-! ## Operations -/

inductive BanOp where
  | setPlayerBan (userID : UserID) (reason : String) (banned : Bool) (m : Moment)
  | banPlayerForCheating (userID : UserID) (reason : String) (m : Moment)
  | linkProviderIdentity (args : LinkArgs) (m : Moment)
  | unlinkProviderIdentity (userID : UserID) (provider : String) (m : Moment)
  | deleteAccount (userID : UserID) (m : Moment)

def BanOp.apply (db : DB) : BanOp → Except IdentityError DB
  | .setPlayerBan userID reason banned m => Identities.setPlayerBan db m userID reason banned
  | .banPlayerForCheating userID reason m => Identities.banPlayerForCheating db m userID reason
  | .linkProviderIdentity args m => Identities.linkProviderIdentity lc db m args
  | .unlinkProviderIdentity userID provider m => Identities.unlinkProviderIdentity lc db m userID provider
  | .deleteAccount userID m => Identities.deleteAccount db m userID

/-- The account that the operation bans. -/
def BanOp.bans : BanOp → Option UserID
  | .setPlayerBan userID _ true _ => some userID
  | .banPlayerForCheating userID _ _ => some (trim userID)
  | _ => none

/-- The account whose ban the operation lifts. -/
def BanOp.unbans : BanOp → Option UserID
  | .setPlayerBan userID _ false _ => some userID
  | _ => none

/-- The rows, and the identities that each account had or had had when it was last banned. -/
structure BanState where
  db : DB
  lastBan : UserID → List Subject

def BanState.step (s : BanState) (op : BanOp) : Option BanState :=
  match op.apply lc s.db with
  | .error _ => some s
  | .ok db =>
      some
        { db := db
          lastBan :=
            match op.bans with
            | none => s.lastBan
            | some userID => Function.update s.lastBan userID (knownIdentities s.db userID) }

/-- Whoever signs in with one of the identities of a banned account is found to be banned. -/
def IdentitiesBanned (s : BanState) : Prop :=
  ∀ u, bannedAt s.db u ≠ none → ∀ provider providerUserID,
    (trim (lc.toLower provider), trim providerUserID) ∈ s.lastBan u →
      isProviderIdentityBanned lc s.db provider providerUserID = .ok true

/-- The ban of the identity is the account's. -/
def OwnsBan (db : DB) (u : UserID) (x : Subject) : Prop :=
  ∃ row, db.lookup (.ban x.1 x.2) = some row ∧ row.bannedUserID = u

/-- When the ban of an account is lifted, it owns no ban of an identity of another banned account. -/
def LiftsOwn (s : BanState) (op : BanOp) : Prop :=
  ∀ u, op.unbans = some u → u ≠ "" → userRow s.db u ≠ none →
    ∀ v, v ≠ u → bannedAt s.db v ≠ none → ∀ x ∈ s.lastBan v, ¬ OwnsBan s.db u x

instance (db : DB) (u : UserID) (x : Subject) : Decidable (OwnsBan db u x) :=
  decidable_of_iff (∃ row ∈ db.lookup (.ban x.1 x.2), row.bannedUserID = u) Iff.rfl

/-- The accounts in the table. -/
def userIDs (db : DB) : List UserID :=
  db.keys.filterMap fun
    | .user u => some u
    | _ => none

theorem mem_userIDs_of_bannedAt {db : DB} {u : UserID} (h : bannedAt db u ≠ none) : u ∈ userIDs db := by
  refine List.mem_filterMap.2 ⟨.user u, AList.mem_keys.1 ?_, rfl⟩
  rw [← AList.lookup_isSome]
  unfold bannedAt userRow at h
  cases hrow : db.lookup (.user u) with
  | none => simp [hrow] at h
  | some row => rfl

instance (s : BanState) (op : BanOp) : Decidable (LiftsOwn s op) :=
  decidable_of_iff (∀ u ∈ op.unbans, u ≠ "" → userRow s.db u ≠ none → ∀ v ∈ userIDs s.db, v ≠ u →
      bannedAt s.db v ≠ none → ∀ x ∈ s.lastBan v, ¬ OwnsBan s.db u x)
    ⟨fun h u hu hne hrow v hv hat => h u hu hne hrow v (mem_userIDs_of_bannedAt hat) hv hat,
      fun h u hu hne hrow v _ => h u hu hne hrow v⟩

/-- The identity is one that a sign-in can be for. -/
def Normal (x : Subject) : Prop :=
  x.1 ≠ "" ∧ x.2 ≠ "" ∧ ∃ provider providerUserID,
    trim (lc.toLower provider) = x.1 ∧ trim providerUserID = x.2

/-- The identities in the tables have been stored by a sign-in. -/
def Stored (s : BanState) : Prop :=
  ∀ u x, x ∈ knownIdentities s.db u ∨ x ∈ s.lastBan u → Normal lc x

/-! ## Statements -/

variable {lc} {db db' rows : DB} {u v : UserID} {x : Subject} {m : Moment} {s s' : BanState} {op : BanOp}

theorem only_banUserOAuthIdentities (db : DB) (m : Moment) (u : UserID) (reason : String) :
    Only [.bans] (banUserOAuthIdentities db m u reason) := by
  refine Only.toAList fun e he => ?_
  obtain ⟨y, -, rfl⟩ := List.mem_map.1 he
  simp

/-- A ban adds the identities of the account to those that are banned. -/
theorem banned_banUserOAuthIdentities (reason : String) :
    Banned (view (banUserOAuthIdentities db m u reason) db) x ↔
      x ∈ knownIdentities db u ∨ Banned db x := by
  unfold Banned
  rw [ReadCommitted.lookup_view]
  cases hrow : (banUserOAuthIdentities db m u reason).lookup (.ban x.1 x.2) with
  | some row =>
      unfold banUserOAuthIdentities at hrow
      rw [AList.lookup_to_alist] at hrow
      obtain ⟨y, hy, heq⟩ := List.mem_map.1 (List.of_mem_dlookup hrow)
      obtain ⟨hkey, hval⟩ := Sigma.mk.inj heq
      obtain ⟨h₁, h₂⟩ := RowKey.ban.inj hkey
      obtain rfl : y = x := Prod.ext h₁ h₂
      refine iff_of_true ⟨row, rfl, ?_⟩ (.inl hy)
      rw [← eq_of_heq hval]
  | none =>
      have hnot : x ∉ knownIdentities db u := by
        intro hx
        have hnone := AList.lookup_eq_none.1 hrow
        unfold banUserOAuthIdentities at hnone
        refine hnone ?_
        rw [← AList.lookup_isSome, AList.lookup_to_alist, List.dlookup_isSome, List.keys, List.map_map]
        exact List.mem_map.2 ⟨x, hx, rfl⟩
      rw [Option.none_or]
      exact (or_iff_right hnot).symm

theorem only_revokeOAuthIdentityBans (db : DB) (m : Moment) (u : UserID) :
    Only [.bans] (revokeOAuthIdentityBans db m u) := by
  refine Only.updateAll (fun k v hk => ?_) db
  cases k <;> simp_all

/-- Lifting a ban leaves the identities banned whose bans others own. -/
theorem banned_revokeOAuthIdentityBans :
    Banned (view (revokeOAuthIdentityBans db m u) db) x ↔ Banned db x ∧ ¬ OwnsBan db u x := by
  unfold Banned OwnsBan revokeOAuthIdentityBans
  rw [ReadCommitted.lookup_view_updateAll]
  cases db.lookup (.ban x.1 x.2) with
  | none => simp
  | some row => by_cases hu : row.bannedUserID = u <;> by_cases hr : row.revokedAt = none <;> simp [hu, hr]

theorem only_keepIdentities (db : DB) (m : Moment) (u : UserID) : Only [.history] (keepIdentities db m u) := by
  refine Only.toAList fun e he => ?_
  obtain ⟨⟨k, row⟩, -, h⟩ := List.mem_filterMap.1 he
  rcases k with _ | _ | ⟨v, p⟩ | _ | _ | _
  case identity =>
    cases row with
    | none => cases h
    | some row =>
        dsimp only at h
        split_ifs at h
        rw [← Option.some.inj h]
        simp
  all_goals cases h

theorem only_deleteIdentities (db : DB) (u : UserID) :
    Only [.identities, .subjects] (deleteIdentities db u) := by
  refine Only.updateAll (fun k v hk => ?_) db
  cases k <;> simp_all

/-! ## Operations that leave the bans alone -/

/-- Bans stay, and an account gets no identities but those that it signs in with. -/
structure Quiet (lc : LowerCase) (db db' : DB) : Prop where
  banned : ∀ x, Banned db x → Banned db' x
  bannedAt : ∀ u, bannedAt db' u = bannedAt db u
  known : ∀ u x, x ∈ knownIdentities db' u → x ∈ knownIdentities db u ∨ Normal lc x

theorem Quiet.refl (lc : LowerCase) (db : DB) : Quiet lc db db where
  banned _ h := h
  bannedAt _ := rfl
  known _ _ h := .inl h

theorem Quiet.trans {db'' : DB} (h : Quiet lc db db') (h' : Quiet lc db' db'') : Quiet lc db db'' where
  banned x hx := h'.banned x (h.banned x hx)
  bannedAt u := (h'.bannedAt u).trans (h.bannedAt u)
  known u x hx := (h'.known u x hx).elim (h.known u x) .inr

theorem Only.banned_view {tables : List Table} (h : Only tables rows) (hbans : Table.bans ∉ tables) :
    Banned (view rows db) x ↔ Banned db x := by
  unfold Banned
  rw [h.lookup_view (k := .ban x.1 x.2) hbans]

theorem quiet_upsertUser {r : LinkArgs} {guest : Bool} (h : upsertUser lc db r m guest = some rows) :
    Quiet lc db (view rows db) where
  banned x := ((only_upsertUser h).banned_view (by simp)).2
  bannedAt := bannedAt_upsertUser h
  known u x hx := .inl (((only_upsertUser h).knownIdentities_view (by simp) (by simp)).1 hx)

theorem quiet_upsertIdentity {r : LinkArgs} (hr : Normal lc (r.provider, r.providerUserID))
    (h : upsertIdentity db r m = some rows) : Quiet lc db (view rows db) where
  banned x := ((only_upsertIdentity h).banned_view (by simp)).2
  bannedAt := (only_upsertIdentity h).bannedAt_view (by simp) db
  known u x hx := by
    rw [mem_knownIdentities, identityRow, ReadCommitted.lookup_view,
      (only_upsertIdentity h).lookup_view (k := .history u x.1 x.2) (by simp)] at hx
    rw [mem_knownIdentities, identityRow]
    rcases hx with ⟨row, hrow, hpid⟩ | hhistory
    · cases hnew : rows.lookup (.identity u x.1) with
      | none =>
          rw [hnew, Option.none_or] at hrow
          exact .inl (.inl ⟨row, hrow, hpid⟩)
      | some identity =>
          rw [hnew, Option.some_or] at hrow
          obtain ⟨-, hp, row', rfl, hpid'⟩ := lookup_upsertIdentity h hnew
          obtain rfl := Option.some.inj hrow
          rw [show x = (r.provider, r.providerUserID) from Prod.ext hp (hpid.symm.trans hpid')]
          exact .inr hr
    · exact .inl (.inr hhistory)

theorem quiet_recordUserIdentityHistory {r : LinkArgs} (hr : Normal lc (r.provider, r.providerUserID)) :
    Quiet lc db (view (recordUserIdentityHistory db r m) db) where
  banned x := ((only_recordUserIdentityHistory db r m).banned_view (by simp)).2
  bannedAt := (only_recordUserIdentityHistory db r m).bannedAt_view (by simp) db
  known u x hx := by
    rw [mem_knownIdentities, identityRow,
      (only_recordUserIdentityHistory db r m).lookup_view (k := .identity u x.1) (by simp),
      ReadCommitted.lookup_view] at hx
    rw [mem_knownIdentities, identityRow]
    rcases hx with hidentity | ⟨row, hrow⟩
    · exact .inl (.inl hidentity)
    · by_cases hk : RowKey.history u x.1 x.2 = .history r.linkUserID r.provider r.providerUserID
      · obtain ⟨-, hp, hpid⟩ := RowKey.history.inj hk
        rw [show x = (r.provider, r.providerUserID) from Prod.ext hp hpid]
        exact .inr hr
      · unfold recordUserIdentityHistory at hrow
        rw [AList.lookup_insert_ne hk, AList.lookup_empty, Option.none_or] at hrow
        exact .inl (.inr ⟨row, hrow⟩)

/-- Rows of identities that only go, and rows of the history that stay. -/
theorem quiet_of_gone (hbans : ∀ x, Banned db x → Banned db' x) (hat : ∀ u, bannedAt db' u = bannedAt db u)
    (hidentity : ∀ u p row, identityRow db' u p = some row → identityRow db u p = some row)
    (hhistory : ∀ u p pid row, db'.lookup (.history u p pid) = some row →
      (p, pid) ∈ knownIdentities db u) : Quiet lc db db' where
  banned := hbans
  bannedAt := hat
  known u x hx := by
    rcases mem_knownIdentities.1 hx with ⟨row, hrow, hpid⟩ | ⟨row, hrow⟩
    · exact .inl (mem_knownIdentities.2 (.inl ⟨row, hidentity u x.1 row hrow, hpid⟩))
    · exact .inl (hhistory u x.1 x.2 row hrow)

theorem quiet_deleteIdentity (u : UserID) (p : Provider) :
    Quiet lc db (view (deleteIdentity db u p) db) := by
  have honly := only_deleteIdentity db u p
  refine quiet_of_gone (fun x => (honly.banned_view (by simp)).2) (honly.bannedAt_view (by simp) db)
    (fun v q row hrow => ?_) fun v q pid row hrow => ?_
  · unfold identityRow at hrow ⊢
    rw [ReadCommitted.lookup_view, lookup_deleteIdentity] at hrow
    split_ifs at hrow
    · cases hrow
    · rwa [Option.none_or] at hrow
  · rw [honly.lookup_view (k := .history v q pid) (by simp)] at hrow
    exact mem_knownIdentities.2 (.inr ⟨row, hrow⟩)

theorem quiet_markDeleted (u : UserID) (p : Provider) : Quiet lc db (view (markDeleted db m u p) db) := by
  have honly := only_markDeleted db m u p
  refine quiet_of_gone (fun x => (honly.banned_view (by simp)).2) (honly.bannedAt_view (by simp) db)
    (fun v q row hrow => ?_) fun v q pid row hrow => ?_
  · unfold identityRow at hrow ⊢
    rwa [honly.lookup_view (k := .identity v q) (by simp)] at hrow
  · unfold markDeleted at hrow
    rw [ReadCommitted.lookup_view_updateAll] at hrow
    obtain ⟨row', hrow', -⟩ := Option.map_eq_some_iff.1 hrow
    exact mem_knownIdentities.2 (.inr ⟨row', hrow'⟩)

theorem quiet_clearEmail (u : UserID) : Quiet lc db (view (clearEmail db u) db) where
  banned x := ((only_clearEmail db u).banned_view (by simp)).2
  bannedAt := bannedAt_clearEmail db u
  known v x hx := .inl (((only_clearEmail db u).knownIdentities_view (by simp) (by simp)).1 hx)

theorem quiet_banUserOAuthIdentities (u : UserID) (reason : String) :
    Quiet lc db (view (banUserOAuthIdentities db m u reason) db) where
  banned x hx := (banned_banUserOAuthIdentities reason).2 (.inr hx)
  bannedAt := (only_banUserOAuthIdentities db m u reason).bannedAt_view (by simp) db
  known v x hx :=
    .inl (((only_banUserOAuthIdentities db m u reason).knownIdentities_view (by simp) (by simp)).1 hx)

theorem quiet_keepIdentities (u : UserID) : Quiet lc db (view (keepIdentities db m u) db) := by
  have honly := only_keepIdentities db m u
  refine quiet_of_gone (fun x => (honly.banned_view (by simp)).2) (honly.bannedAt_view (by simp) db)
    (fun v q row hrow => ?_) fun v q pid row hrow => ?_
  · unfold identityRow at hrow ⊢
    rwa [honly.lookup_view (k := .identity v q) (by simp)] at hrow
  · rw [ReadCommitted.lookup_view] at hrow
    cases hnew : (keepIdentities db m u).lookup (.history v q pid) with
    | none =>
        rw [hnew, Option.none_or] at hrow
        exact mem_knownIdentities.2 (.inr ⟨row, hrow⟩)
    | some row' =>
        unfold keepIdentities at hnew
        rw [AList.lookup_to_alist] at hnew
        obtain ⟨⟨k, old⟩, he, heq⟩ := List.mem_filterMap.1 (List.of_mem_dlookup hnew)
        rcases k with _ | _ | ⟨w, p⟩ | _ | _ | _
        case identity =>
          cases old with
          | none => cases heq
          | some identity =>
              dsimp only at heq
              split_ifs at heq with hw
              obtain ⟨hkey, -⟩ := Sigma.mk.inj (Option.some.inj heq)
              obtain ⟨rfl, rfl, rfl⟩ := RowKey.history.inj hkey
              refine mem_knownIdentities.2 (.inl ⟨identity, ?_, rfl⟩)
              rw [← hw]
              exact Option.join_eq_some_iff.2 (AList.mem_lookup_iff.2 he)
        all_goals cases heq

theorem quiet_deleteIdentities (u : UserID) : Quiet lc db (view (deleteIdentities db u) db) := by
  have honly := only_deleteIdentities db u
  refine quiet_of_gone (fun x => (honly.banned_view (by simp)).2) (honly.bannedAt_view (by simp) db)
    (fun v q row hrow => ?_) fun v q pid row hrow => ?_
  · unfold identityRow deleteIdentities at hrow
    rw [ReadCommitted.lookup_view_updateAll] at hrow
    unfold identityRow
    cases hold : db.lookup (.identity v q) with
    | none => simp [hold] at hrow
    | some old =>
        cases old with
        | none => simp [hold] at hrow
        | some identity => by_cases hv : v = u <;> simp_all
  · rw [honly.lookup_view (k := .history v q pid) (by simp)] at hrow
    exact mem_knownIdentities.2 (.inr ⟨row, hrow⟩)

theorem quiet_forgetUser (u : UserID) : Quiet lc db (view (forgetUser db m u) db) where
  banned x := ((only_forgetUser db m u).banned_view (by simp)).2
  bannedAt := bannedAt_forgetUser db m u
  known v x hx := .inl (((only_forgetUser db m u).knownIdentities_view (by simp) (by simp)).1 hx)

theorem normal_of_normalize {args r : LinkArgs} (h : args.normalize lc = .ok r) :
    Normal lc (r.provider, r.providerUserID) := by
  unfold LinkArgs.normalize at h
  dsimp only at h
  split_ifs at h with hp hpid hu <;> obtain rfl := Except.ok.inj h <;>
    exact ⟨hp, hpid, args.provider, args.providerUserID, rfl, rfl⟩

theorem quiet_linkProviderIdentity {args : LinkArgs} (h : linkProviderIdentity lc db m args = .ok db') :
    Quiet lc db db' := by
  unfold linkProviderIdentity at h
  cases hr : args.normalize lc with
  | error err => simp [hr] at h
  | ok r =>
      have hnormal := normal_of_normalize hr
      cases huser : userRow db r.linkUserID with
      | none =>
          simp only [hr, huser] at h
          split_ifs at h
      | some user =>
          cases husers : upsertUser lc db r m (user.accountType = .guest) with
          | none =>
              simp only [hr, huser, husers] at h
              split_ifs at h
          | some users =>
              cases hidentities : upsertIdentity (view users db) r m with
              | none =>
                  simp only [hr, huser, husers, hidentities] at h
                  split_ifs at h
              | some identities =>
                  simp only [hr, huser, husers, hidentities] at h
                  split_ifs at h
                  obtain rfl := Except.ok.inj h
                  exact ((quiet_upsertUser husers).trans (quiet_upsertIdentity hnormal hidentities)).trans
                    (quiet_recordUserIdentityHistory hnormal)

theorem quiet_unlinkProviderIdentity {provider : String}
    (h : unlinkProviderIdentity lc db m u provider = .ok db') : Quiet lc db db' := by
  unfold unlinkProviderIdentity at h
  dsimp only at h
  have hdeleted := (@quiet_deleteIdentity lc db (trim u) (trim (lc.toLower provider))).trans
    (quiet_markDeleted (m := m) (trim u) (trim (lc.toLower provider)))
  split_ifs at h <;> obtain rfl := Except.ok.inj h
  · exact hdeleted.trans (quiet_clearEmail _)
  · exact hdeleted

theorem quiet_deleteAccount (h : deleteAccount db m u = .ok db') : Quiet lc db db' := by
  unfold deleteAccount at h
  dsimp only at h
  split_ifs at h with hblank
  cases hrow : userRow db (trim u) with
  | none => simp [hrow] at h
  | some row =>
      rw [hrow] at h
      obtain rfl := Except.ok.inj h
      have hbans : Quiet lc db (if row.bannedAt = none then db else
          view (banUserOAuthIdentities db m (trim u) (if trim (row.banReason.getD "") = "" then
            "account deleted while banned" else row.banReason.getD "")) db) := by
        split_ifs
        · exact .refl lc db
        · exact quiet_banUserOAuthIdentities _ _
        · exact quiet_banUserOAuthIdentities _ _
      exact ((hbans.trans (quiet_keepIdentities _)).trans (quiet_deleteIdentities _)).trans
        (quiet_forgetUser _)

/-! ## Bans and their end -/

/-- The account has been banned, with its identities. -/
structure Bans (db db' : DB) (u : UserID) : Prop where
  banned : ∀ x, x ∈ knownIdentities db u ∨ Banned db x → Banned db' x
  bannedAt : ∀ v, v ≠ u → bannedAt db' v = bannedAt db v
  known : ∀ v x, x ∈ knownIdentities db' v ↔ x ∈ knownIdentities db v

/-- The ban of the account has been lifted. -/
structure Lifts (db db' : DB) (u : UserID) : Prop where
  banned : ∀ x, Banned db' x ↔ Banned db x ∧ ¬ OwnsBan db u x
  bannedAt : ∀ v, v ≠ u → bannedAt db' v = bannedAt db v
  unbanned : Identities.bannedAt db' u = none
  known : ∀ v x, x ∈ knownIdentities db' v ↔ x ∈ knownIdentities db v

theorem bans_of_updateUser (set : UserRow → UserRow) (reason : String) :
    Bans db (view (banUserOAuthIdentities (view (updateUser db u set) db) m u reason)
      (view (updateUser db u set) db)) u := by
  have husers := only_updateUser db u set
  have hbans := only_banUserOAuthIdentities (view (updateUser db u set) db) m u reason
  have hknown : ∀ v x, x ∈ knownIdentities (view (updateUser db u set) db) v ↔ x ∈ knownIdentities db v :=
    fun v x => husers.knownIdentities_view (by simp) (by simp)
  refine ⟨fun x hx => ?_, fun v hv => ?_, fun v x => ?_⟩
  · rw [banned_banUserOAuthIdentities, hknown, husers.banned_view (by simp)]
    exact hx
  · rw [hbans.bannedAt_view (by simp), bannedAt_updateUser_ne hv]
  · rw [hbans.knownIdentities_view (by simp) (by simp), hknown]

theorem bans_setPlayerBan {reason : String} (h : setPlayerBan db m u reason true = .ok db') :
    Bans db db' u := by
  simp only [setPlayerBan, reduceIte] at h
  split_ifs at h
  obtain rfl := Except.ok.inj h
  exact bans_of_updateUser _ _

theorem bans_banPlayerForCheating {reason : String} (h : banPlayerForCheating db m u reason = .ok db') :
    Bans db db' (trim u) := by
  unfold banPlayerForCheating at h
  dsimp only at h
  split_ifs at h <;> obtain rfl := Except.ok.inj h <;> exact bans_of_updateUser _ _

theorem lifts_of_updateUser {set : UserRow → UserRow} (hset : ∀ row, (set row).bannedAt = none) :
    Lifts db (view (revokeOAuthIdentityBans (view (updateUser db u set) db) m u)
      (view (updateUser db u set) db)) u := by
  have husers := only_updateUser db u set
  have hrevoked := only_revokeOAuthIdentityBans (view (updateUser db u set) db) m u
  refine ⟨fun x => ?_, fun v hv => ?_, ?_, fun v x => ?_⟩
  · rw [banned_revokeOAuthIdentityBans, husers.banned_view (by simp), OwnsBan, OwnsBan,
      husers.lookup_view (k := .ban x.1 x.2) (by simp)]
  · rw [hrevoked.bannedAt_view (by simp), bannedAt_updateUser_ne hv]
  · rw [hrevoked.bannedAt_view (by simp), bannedAt_updateUser_self]
    cases userRow db u with
    | none => rfl
    | some row => exact hset row
  · rw [hrevoked.knownIdentities_view (by simp) (by simp), husers.knownIdentities_view (by simp) (by simp)]

theorem lifts_setPlayerBan {reason : String} (hu : u ≠ "") (hrow : userRow db u ≠ none) :
    ∃ db', setPlayerBan db m u reason false = .ok db' ∧ Lifts db db' u := by
  have hrows : rowsAffected (updateUser db u fun row => { row with bannedAt := none, banReason := none }) ≠ 0 :=
    fun h => hrow (rowsAffected_updateUser.1 h)
  refine ⟨_, ?_, @lifts_of_updateUser db u m
    (fun row => { row with bannedAt := none, banReason := none }) fun _ => rfl⟩
  simp only [setPlayerBan, if_neg hu, Bool.false_eq_true, if_false, if_neg hrows]

theorem setPlayerBan_unknown {reason : String} {banned : Bool} (h : u = "" ∨ userRow db u = none) :
    ∃ err, setPlayerBan db m u reason banned = .error err := by
  unfold setPlayerBan
  dsimp only
  by_cases hu : u = ""
  · exact ⟨_, if_pos hu⟩
  · refine ⟨_, (if_neg hu).trans (if_pos ?_)⟩
    exact rowsAffected_updateUser.2 (h.resolve_left hu)

/-! ## The property -/

/-- The identities of the banned accounts have a ban that is not revoked. -/
def Covered (s : BanState) : Prop :=
  ∀ u, bannedAt s.db u ≠ none → ∀ x ∈ s.lastBan u, Banned s.db x

theorem isProviderIdentityBanned_eq {provider providerUserID : String}
    (h : Normal lc (trim (lc.toLower provider), trim providerUserID)) :
    isProviderIdentityBanned lc db provider providerUserID = .ok true ↔
      Banned db (trim (lc.toLower provider), trim providerUserID) := by
  unfold isProviderIdentityBanned
  dsimp only
  rw [if_neg (not_or.2 ⟨h.1, h.2.1⟩), Except.ok.injEq, decide_eq_true_iff]

theorem identitiesBanned_iff (hs : Stored lc s) : IdentitiesBanned lc s ↔ Covered s := by
  constructor
  · intro h u hu x hx
    obtain ⟨-, -, provider, pid, hp, hpid⟩ := hs u x (.inr hx)
    have heq : (trim (lc.toLower provider), trim pid) = x := Prod.ext hp hpid
    have hbanned := h u hu provider pid (by rwa [heq])
    rw [isProviderIdentityBanned_eq (by rw [heq]; exact hs u x (.inr hx)), heq] at hbanned
    exact hbanned
  · intro h u hu provider pid hx
    exact (isProviderIdentityBanned_eq (hs u _ (.inr hx))).2 (h u hu _ hx)

/-- What an operation makes of the state. -/
inductive Steps (lc : LowerCase) (s : BanState) : BanOp → BanState → Prop
  | fails (op : BanOp) (known : ∀ u, op.unbans = some u → u = "" ∨ userRow s.db u = none) : Steps lc s op s
  | quiet (op : BanOp) (db : DB) (none_ : op.unbans = none) (keeps : Quiet lc s.db db) :
      Steps lc s op { s with db := db }
  | bans (op : BanOp) (db : DB) (u : UserID) (none_ : op.unbans = none) (done : Bans s.db db u) :
      Steps lc s op { db := db, lastBan := Function.update s.lastBan u (knownIdentities s.db u) }
  | lifts (op : BanOp) (db : DB) (u : UserID) (unbans : op.unbans = some u) (nonempty : u ≠ "")
      (exists_ : userRow s.db u ≠ none) (done : Lifts s.db db u) : Steps lc s op { s with db := db }

theorem steps_of_step (h : s.step lc op = some s') : Steps lc s op s' := by
  unfold BanState.step at h
  cases op with
  | setPlayerBan u reason banned m =>
      cases banned with
      | true =>
          cases happly : setPlayerBan s.db m u reason true with
          | error err =>
              simp only [BanOp.apply, happly] at h
              obtain rfl := Option.some.inj h
              exact .fails _ fun v hv => by cases hv
          | ok db =>
              simp only [BanOp.apply, happly, BanOp.bans] at h
              obtain rfl := Option.some.inj h
              exact .bans _ db u rfl (bans_setPlayerBan happly)
      | false =>
          by_cases hu : u = "" ∨ userRow s.db u = none
          · obtain ⟨err, herr⟩ := @setPlayerBan_unknown s.db u m reason false hu
            simp only [BanOp.apply, herr] at h
            obtain rfl := Option.some.inj h
            exact .fails _ fun v hv => by rwa [← Option.some.inj hv]
          · obtain ⟨hne, hrow⟩ := not_or.1 hu
            obtain ⟨db, hdb, hlifts⟩ := @lifts_setPlayerBan s.db u m reason hne hrow
            simp only [BanOp.apply, hdb, BanOp.bans] at h
            obtain rfl := Option.some.inj h
            exact .lifts _ db u rfl hne hrow hlifts
  | banPlayerForCheating u reason m =>
      cases happly : banPlayerForCheating s.db m u reason with
      | error err =>
          simp only [BanOp.apply, happly] at h
          obtain rfl := Option.some.inj h
          exact .fails _ fun v hv => by cases hv
      | ok db =>
          simp only [BanOp.apply, happly, BanOp.bans] at h
          obtain rfl := Option.some.inj h
          exact .bans _ db (trim u) rfl (bans_banPlayerForCheating happly)
  | linkProviderIdentity args m =>
      cases happly : linkProviderIdentity lc s.db m args with
      | error err =>
          simp only [BanOp.apply, happly] at h
          obtain rfl := Option.some.inj h
          exact .fails _ fun v hv => by cases hv
      | ok db =>
          simp only [BanOp.apply, happly, BanOp.bans] at h
          obtain rfl := Option.some.inj h
          exact .quiet _ db rfl (quiet_linkProviderIdentity happly)
  | unlinkProviderIdentity u provider m =>
      cases happly : unlinkProviderIdentity lc s.db m u provider with
      | error err =>
          simp only [BanOp.apply, happly] at h
          obtain rfl := Option.some.inj h
          exact .fails _ fun v hv => by cases hv
      | ok db =>
          simp only [BanOp.apply, happly, BanOp.bans] at h
          obtain rfl := Option.some.inj h
          exact .quiet _ db rfl (quiet_unlinkProviderIdentity happly)
  | deleteAccount u m =>
      cases happly : deleteAccount s.db m u with
      | error err =>
          simp only [BanOp.apply, happly] at h
          obtain rfl := Option.some.inj h
          exact .fails _ fun v hv => by cases hv
      | ok db =>
          simp only [BanOp.apply, happly, BanOp.bans] at h
          obtain rfl := Option.some.inj h
          exact .quiet _ db rfl (quiet_deleteAccount happly)

theorem mem_update_lastBan {f : UserID → List Subject} {l : List Subject}
    (h : x ∈ Function.update f u l v) : v = u ∧ x ∈ l ∨ v ≠ u ∧ x ∈ f v := by
  by_cases hv : v = u
  · subst hv
    exact .inl ⟨rfl, by rwa [Function.update_self] at h⟩
  · exact .inr ⟨hv, by rwa [Function.update_of_ne hv] at h⟩

/-- The identities in the tables are those of sign-ins, whatever is done. -/
theorem Stored.step (h : Stored lc s) (hs : Steps lc s op s') : Stored lc s' := by
  cases hs with
  | fails => exact h
  | quiet db none_ keeps =>
      rintro u x (hx | hx)
      · exact (keeps.known u x hx).elim (fun hx => h u x (.inl hx)) id
      · exact h u x (.inr hx)
  | bans db u none_ done =>
      rintro v x (hx | hx)
      · exact h v x (.inl ((done.known v x).1 hx))
      · rcases mem_update_lastBan hx with ⟨rfl, hx⟩ | ⟨-, hx⟩
        · exact h v x (.inl hx)
        · exact h v x (.inr hx)
  | lifts db u unbans nonempty exists_ done =>
      rintro v x (hx | hx)
      · exact h v x (.inl ((done.known v x).1 hx))
      · exact h v x (.inr hx)

/-- The bans that an operation leaves in place. -/
theorem Covered.step (h : Covered s) (hC : LiftsOwn s op) (hs : Steps lc s op s') : Covered s' := by
  cases hs with
  | fails => exact h
  | quiet db none_ keeps =>
      intro u hu x hx
      rw [keeps.bannedAt] at hu
      exact keeps.banned x (h u hu x hx)
  | bans db u none_ done =>
      intro v hv x hx
      rcases mem_update_lastBan hx with ⟨rfl, hx⟩ | ⟨hne, hx⟩
      · exact done.banned x (.inl hx)
      · rw [done.bannedAt v hne] at hv
        exact done.banned x (.inr (h v hv x hx))
  | lifts db u unbans nonempty exists_ done =>
      intro v hv x hx
      have hne : v ≠ u := by
        rintro rfl
        exact hv done.unbanned
      rw [done.bannedAt v hne] at hv
      exact (done.banned x).2 ⟨h v hv x hx, hC u unbans nonempty exists_ v hne hv x hx⟩

/-- Lifting a ban that covers another banned account leaves one of its identities without a ban. -/
theorem LiftsOwn.of_covered (hs : Steps lc s op s') (h' : Covered s') : LiftsOwn s op := by
  intro u hu hne hrow v hv hbanned x hx howns
  cases hs with
  | fails known => exact (known u hu).elim hne hrow
  | quiet db none_ => rw [none_] at hu; cases hu
  | bans db u' none_ => rw [none_] at hu; cases hu
  | lifts db u' unbans nonempty exists_ done =>
      obtain rfl := Option.some.inj (unbans.symm.trans hu)
      rw [← done.bannedAt v hv] at hbanned
      exact ((done.banned x).1 (h' v hbanned x hx)).2 howns

/-- In a run of operations, the identities that a banned account had when it was last banned are banned
in every state exactly when no ban is lifted of an account that owns the ban of one of them. -/
theorem banned_iff (lc : LowerCase) (s : BanState) (hs : Stored lc s) (h : IdentitiesBanned lc s)
    (ops : List BanOp) :
    Run.Always (BanState.step lc) (IdentitiesBanned lc) s ops ↔
      Run.Guarded (BanState.step lc) LiftsOwn s ops := by
  refine Run.always_iff_guarded (fun s => Stored lc s ∧ Covered s) ?_ ?_ ?_
    ⟨hs, (identitiesBanned_iff hs).1 h⟩
  · rintro s op s' ⟨hs, hc⟩ hC hstep
    have hsteps := steps_of_step hstep
    exact ⟨hs.step hsteps, hc.step hC hsteps⟩
  · exact fun s h => (identitiesBanned_iff h.1).2 h.2
  · rintro s op s' ⟨hs, -⟩ hC hstep h'
    have hsteps := steps_of_step hstep
    exact hC (.of_covered hsteps ((identitiesBanned_iff (hs.step hsteps)).1 h'))

/-! ### A shared identity -/

/-- Two accounts without identities. -/
def twoAccounts : BanState where
  db :=
    AList.insert (.user "a") ({ displayName := "A", accountType := .registered } : UserRow)
      (AList.insert (.user "b") ({ displayName := "B", accountType := .registered } : UserRow) ∅)
  lastBan := fun _ => []

/-- The identity `x` moves from the one account to the other, and both accounts are banned. -/
def bothBanned : List BanOp :=
  [.linkProviderIdentity { provider := "google", providerUserID := "x", linkUserID := "a" } {},
    .linkProviderIdentity { provider := "discord", providerUserID := "y", linkUserID := "a" } {},
    .unlinkProviderIdentity "a" "google" {},
    .linkProviderIdentity { provider := "google", providerUserID := "x", linkUserID := "b" } {},
    .setPlayerBan "a" "" true {}, .setPlayerBan "b" "" true {}]

theorem stored_twoAccounts : Stored lowerTexts twoAccounts := by
  rintro u x (hx | hx)
  · have hnil : knownIdentities twoAccounts.db u = [] := rfl
    rw [hnil] at hx
    cases hx
  · cases hx

theorem identitiesBanned_twoAccounts : IdentitiesBanned lowerTexts twoAccounts := by
  intro u hu provider pid hx
  cases hx

/-- The ban of the account that was banned first is lifted. -/
theorem banned_bothBanned :
    Run.Always (BanState.step lowerTexts) (IdentitiesBanned lowerTexts) twoAccounts
      (bothBanned ++ [.setPlayerBan "a" "" false {}]) :=
  (banned_iff lowerTexts twoAccounts stored_twoAccounts identitiesBanned_twoAccounts _).2
    (by decide +kernel)

/-- The ban of the other account is lifted, and the first one can sign in with `x`. -/
theorem not_banned_bothBanned :
    ∃ s, Run.exec (BanState.step lowerTexts) twoAccounts (bothBanned ++ [.setPlayerBan "b" "" false {}]) =
        some s ∧ bannedAt s.db "a" ≠ none ∧ ("google", "x") ∈ s.lastBan "a" ∧
      isProviderIdentityBanned lowerTexts s.db "google" "x" = .ok false ∧ ¬ IdentitiesBanned lowerTexts s := by
  have hrun : ∃ s ∈ Run.exec (BanState.step lowerTexts) twoAccounts
      (bothBanned ++ [.setPlayerBan "b" "" false {}]), bannedAt s.db "a" ≠ none ∧
        ("google", "x") ∈ s.lastBan "a" ∧
        isProviderIdentityBanned lowerTexts s.db "google" "x" = .ok false := by decide +kernel
  obtain ⟨s, hs, hbanned, hmem, hfalse⟩ := hrun
  refine ⟨s, hs, hbanned, hmem, hfalse, fun h => ?_⟩
  have htrue := h "a" hbanned "google" "x" hmem
  rw [hfalse] at htrue
  cases htrue

end GeoDuels.Identities
