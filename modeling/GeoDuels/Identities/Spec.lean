import GeoDuels.Identities.Store

/-!
# What the statements on identities do

For each statement the tables that it writes, and for the rows that later modules speak of what it makes
of them.
-/

namespace GeoDuels.Identities

open Persistence (trim)
open ReadCommitted (view update updateAll rowsAffected lookup_view_of_notMem)

/-! ## Tables -/

inductive Table where
  | users | emails | identities | subjects | history | bans
  deriving DecidableEq

@[simp] def RowKey.table : RowKey → Table
  | .user _ => .users
  | .email _ => .emails
  | .identity _ _ => .identities
  | .subject _ _ => .subjects
  | .history _ _ _ => .history
  | .ban _ _ => .bans

/-- The rows are of the tables. -/
def Only (tables : List Table) (rows : DB) : Prop := ∀ k ∈ rows, k.table ∈ tables

variable {lc : LowerCase} {db rows : DB} {tables : List Table} {k : RowKey} {u : UserID} {x : Subject}
  {r : LinkArgs} {m : Moment} {provider : Provider}

theorem Only.empty : Only tables ∅ := fun k hk => absurd hk (AList.notMem_empty k)

theorem Only.insert (h : Only tables rows) (hk : k.table ∈ tables) (row : Row k) :
    Only tables (AList.insert k row rows) := by
  intro k' hk'
  rcases (AList.mem_insert rows).1 hk' with rfl | hk'
  · exact hk
  · exact h k' hk'

theorem Only.mono {tables' : List Table} (h : Only tables rows) (hsub : tables ⊆ tables') :
    Only tables' rows := fun k hk => hsub (h k hk)

theorem Only.lookup (h : Only tables rows) (hk : k.table ∉ tables) : rows.lookup k = none :=
  AList.lookup_eq_none.2 fun hmem => hk (h k hmem)

/-- A statement leaves the other tables alone. -/
theorem Only.lookup_view (h : Only tables rows) (hk : k.table ∉ tables) (db : DB) :
    (view rows db).lookup k = db.lookup k :=
  lookup_view_of_notMem fun hmem => hk (h k hmem)

theorem only_reindexEmail (u : UserID) (old new : Option String) :
    Only [.emails] (reindexEmail u old new) := by
  unfold reindexEmail
  cases old <;> cases new <;>
    simp only [Option.elim_none, Option.elim_some] <;>
    repeat first | exact .empty | refine Only.insert ?_ (List.mem_singleton.2 rfl) _

theorem only_reindexSubject (u : UserID) (p : Provider) (old new : Option ProviderUserID) :
    Only [.subjects] (reindexSubject u p old new) := by
  unfold reindexSubject
  cases old <;> cases new <;>
    simp only [Option.elim_none, Option.elim_some] <;>
    repeat first | exact .empty | refine Only.insert ?_ (List.mem_singleton.2 rfl) _

theorem Only.updateAll {f : ∀ k, Row k → Option (Row k)} (h : ∀ k v, k.table ∉ tables → f k v = none)
    (db : DB) : Only tables (updateAll db f) := by
  intro k hk
  by_contra hnot
  rw [← AList.lookup_isSome, ReadCommitted.lookup_updateAll] at hk
  cases hv : db.lookup k with
  | none => simp [hv] at hk
  | some v => simp [hv, h k v hnot] at hk

theorem Only.toAList {rows : List (Sigma Row)} (h : ∀ e ∈ rows, e.1.table ∈ tables) :
    Only tables rows.toAList := by
  intro k hk
  rw [← AList.lookup_isSome, AList.lookup_to_alist] at hk
  obtain ⟨v, hv⟩ := Option.isSome_iff_exists.1 hk
  exact h _ (List.of_mem_dlookup hv)

/-! ## Accounts -/

/-- The ban of the account. -/
def bannedAt (db : DB) (u : UserID) : Option ℕ := (userRow db u).bind UserRow.bannedAt

theorem Only.bannedAt_view (h : Only tables rows) (hk : Table.users ∉ tables) (db : DB) (u : UserID) :
    bannedAt (view rows db) u = bannedAt db u := by
  unfold bannedAt userRow
  rw [h.lookup_view (k := .user u) hk]

/-- A row of `users` is written, with its email. -/
theorem userRow_view_insert (row : UserRow) (hrows : Only [.emails] rows) (db : DB) (u' : UserID) :
    userRow (view (AList.insert (.user u) row rows) db) u' =
      if u' = u then some row else userRow db u' := by
  unfold userRow
  rw [ReadCommitted.lookup_view]
  split_ifs with h
  · rw [h, AList.lookup_insert, Option.some_or]
  · rw [AList.lookup_insert_ne (by simpa using h), hrows.lookup (by simp), Option.none_or]

theorem bannedAt_view_insert {row : UserRow} (hrow : row.bannedAt = bannedAt db u)
    (hrows : Only [.emails] rows) (u' : UserID) :
    bannedAt (view (AList.insert (.user u) row rows) db) u' = bannedAt db u' := by
  unfold bannedAt
  rw [userRow_view_insert row hrows]
  split_ifs with h
  · rw [h]
    exact hrow
  · rfl

/-- What the insert into `users` writes. -/
theorem upsertUser_eq_some {guest : Bool} (h : upsertUser lc db r m guest = some rows) :
    ∃ row emails, rows = AList.insert (.user r.linkUserID) row emails ∧ Only [.emails] emails ∧
      row.bannedAt = bannedAt db r.linkUserID := by
  unfold upsertUser at h
  dsimp only at h
  split_ifs at h
  obtain rfl := Option.some.inj h
  refine ⟨_, _, rfl, only_reindexEmail _ _ _, ?_⟩
  unfold bannedAt
  cases userRow db r.linkUserID <;> rfl

theorem only_upsertUser {guest : Bool} (h : upsertUser lc db r m guest = some rows) :
    Only [.users, .emails] rows := by
  obtain ⟨row, emails, rfl, hemails, -⟩ := upsertUser_eq_some h
  exact (hemails.mono (by simp)).insert (by simp) row

theorem bannedAt_upsertUser {guest : Bool} (h : upsertUser lc db r m guest = some rows) (u : UserID) :
    bannedAt (view rows db) u = bannedAt db u := by
  obtain ⟨row, emails, rfl, hemails, hrow⟩ := upsertUser_eq_some h
  exact bannedAt_view_insert hrow hemails u

theorem only_clearEmail (db : DB) (u : UserID) : Only [.users, .emails] (clearEmail db u) := by
  unfold clearEmail
  cases userRow db u with
  | none => exact .empty
  | some row =>
      dsimp only
      split_ifs
      · exact .empty
      · exact ((only_reindexEmail u row.email none).mono (by simp)).insert (by simp) _

theorem bannedAt_clearEmail (db : DB) (u u' : UserID) :
    bannedAt (view (clearEmail db u) db) u' = bannedAt db u' := by
  unfold clearEmail
  cases hrow : userRow db u with
  | none => rw [ReadCommitted.view_empty]
  | some row =>
      dsimp only
      split_ifs
      · rw [ReadCommitted.view_empty]
      · exact bannedAt_view_insert (by simp [bannedAt, hrow]) (only_reindexEmail u row.email none) u'

theorem only_forgetUser (db : DB) (m : Moment) (u : UserID) : Only [.users, .emails] (forgetUser db m u) := by
  unfold forgetUser
  cases userRow db u with
  | none => exact .empty
  | some row => exact ((only_reindexEmail u row.email none).mono (by simp)).insert (by simp) _

theorem bannedAt_forgetUser (db : DB) (m : Moment) (u u' : UserID) :
    bannedAt (view (forgetUser db m u) db) u' = bannedAt db u' := by
  unfold forgetUser
  cases hrow : userRow db u with
  | none => rw [ReadCommitted.view_empty]
  | some row => exact bannedAt_view_insert (by simp [bannedAt, hrow]) (only_reindexEmail u row.email none) u'

theorem only_updateUser (db : DB) (u : UserID) (set : UserRow → UserRow) :
    Only [.users] (updateUser db u set) := by
  intro k hk
  rw [ReadCommitted.mem_update hk]
  exact List.mem_singleton.2 rfl

theorem rowsAffected_updateUser {set : UserRow → UserRow} :
    rowsAffected (updateUser db u set) = 0 ↔ userRow db u = none := by
  unfold updateUser userRow
  rw [ReadCommitted.rowsAffected_update]
  cases db.lookup (.user u) <;> simp

theorem bannedAt_updateUser_self (db : DB) (u : UserID) (set : UserRow → UserRow) :
    bannedAt (view (updateUser db u set) db) u = (userRow db u).bind fun row => (set row).bannedAt := by
  unfold bannedAt userRow updateUser
  rw [ReadCommitted.lookup_view_update_self]
  cases db.lookup (.user u) <;> rfl

theorem bannedAt_updateUser_ne {u' : UserID} (h : u' ≠ u) (db : DB) (set : UserRow → UserRow) :
    bannedAt (view (updateUser db u set) db) u' = bannedAt db u' := by
  unfold bannedAt userRow updateUser
  rw [ReadCommitted.lookup_view_update_ne _ _ (by simpa using h)]

/-! ## Identities -/

theorem mem_knownIdentities : x ∈ knownIdentities db u ↔
    (∃ row, identityRow db u x.1 = some row ∧ row.providerUserID = x.2) ∨
      ∃ row, db.lookup (.history u x.1 x.2) = some row := by
  unfold knownIdentities identityRow
  rw [List.mem_filterMap]
  constructor
  · rintro ⟨⟨k, row⟩, he, h⟩
    have hlookup := AList.mem_lookup_iff.2 he
    rcases k with _ | _ | ⟨v, p⟩ | _ | ⟨v, p, pid⟩ | _
    · cases h
    · cases h
    · cases row with
      | none => cases h
      | some row =>
          dsimp only at h
          split_ifs at h with hv
          obtain ⟨rfl, rfl⟩ := hv, Option.some.inj h
          exact .inl ⟨row, Option.join_eq_some_iff.2 hlookup, rfl⟩
    · cases h
    · dsimp only at h
      split_ifs at h with hv
      obtain ⟨rfl, rfl⟩ := hv, Option.some.inj h
      exact .inr ⟨row, hlookup⟩
    · cases h
  · rintro (⟨row, hrow, hx⟩ | ⟨row, hrow⟩)
    · refine ⟨⟨.identity u x.1, some row⟩,
        AList.mem_lookup_iff.1 (Option.join_eq_some_iff.1 hrow), ?_⟩
      simp [hx]
    · exact ⟨⟨.history u x.1 x.2, row⟩, AList.mem_lookup_iff.1 hrow, by simp⟩

theorem Only.knownIdentities_view (h : Only tables rows) (hidentities : Table.identities ∉ tables)
    (hhistory : Table.history ∉ tables) :
    x ∈ knownIdentities (view rows db) u ↔ x ∈ knownIdentities db u := by
  rw [mem_knownIdentities, mem_knownIdentities, identityRow, identityRow,
    h.lookup_view (k := .identity u x.1) hidentities, h.lookup_view (k := .history u x.1 x.2) hhistory]

/-- What the insert into `user_identities` writes. -/
theorem upsertIdentity_eq_some (h : upsertIdentity db r m = some rows) :
    ∃ (row : IdentityRow) (subjects : DB),
      rows = (AList.insert (.identity r.linkUserID r.provider) (some row) subjects : DB) ∧
      Only [.subjects] subjects ∧ row.providerUserID = r.providerUserID := by
  unfold upsertIdentity at h
  dsimp only at h
  split_ifs at h
  obtain rfl := Option.some.inj h
  exact ⟨_, _, rfl, only_reindexSubject _ _ _ _, rfl⟩

theorem only_upsertIdentity (h : upsertIdentity db r m = some rows) : Only [.identities, .subjects] rows := by
  obtain ⟨row, subjects, rfl, hsubjects, -⟩ := upsertIdentity_eq_some h
  exact (hsubjects.mono (by simp)).insert (by simp) _

/-- The identity rows that the insert writes. -/
theorem lookup_upsertIdentity (h : upsertIdentity db r m = some rows) {p : Provider}
    {identity : Option IdentityRow} (hrow : rows.lookup (.identity u p) = some identity) :
    u = r.linkUserID ∧ p = r.provider ∧
      ∃ row, identity = some row ∧ row.providerUserID = r.providerUserID := by
  obtain ⟨row, subjects, rfl, hsubjects, hpid⟩ := upsertIdentity_eq_some h
  by_cases hk : (RowKey.identity u p) = .identity r.linkUserID r.provider
  · obtain ⟨rfl, rfl⟩ := RowKey.identity.inj hk
    rw [AList.lookup_insert] at hrow
    exact ⟨rfl, rfl, row, (Option.some.inj hrow).symm, hpid⟩
  · rw [AList.lookup_insert_ne hk, hsubjects.lookup (by simp)] at hrow
    cases hrow

theorem only_recordUserIdentityHistory (db : DB) (r : LinkArgs) (m : Moment) :
    Only [.history] (recordUserIdentityHistory db r m) :=
  Only.empty.insert (by simp) _

theorem only_deleteIdentity (db : DB) (u : UserID) (p : Provider) :
    Only [.identities, .subjects] (deleteIdentity db u p) := by
  unfold deleteIdentity
  cases identityRow db u p with
  | none => exact .empty
  | some row => exact ((only_reindexSubject _ _ _ _).mono (by simp)).insert (by simp) _

/-- The identity rows that the delete writes. -/
theorem lookup_deleteIdentity (db : DB) (u u' : UserID) (p p' : Provider) :
    (deleteIdentity db u p).lookup (.identity u' p') =
      if u' = u ∧ p' = p ∧ (identityRow db u p).isSome then some none else none := by
  unfold deleteIdentity
  cases identityRow db u p with
  | none => simp
  | some row =>
      by_cases hk : u' = u ∧ p' = p
      · obtain ⟨rfl, rfl⟩ := hk
        simp
      · have hne : (RowKey.identity u' p') ≠ .identity u p := by simpa using hk
        rw [AList.lookup_insert_ne hne, (only_reindexSubject _ _ _ _).lookup (by simp), if_neg]
        exact fun h => hk ⟨h.1, h.2.1⟩

theorem rowsAffected_deleteIdentity :
    rowsAffected (deleteIdentity db u provider) = 0 ↔ identityRow db u provider = none := by
  unfold deleteIdentity
  cases identityRow db u provider with
  | none => simp [rowsAffected]
  | some row => simp [rowsAffected]

theorem only_markDeleted (db : DB) (m : Moment) (u : UserID) (p : Provider) :
    Only [.history] (markDeleted db m u p) := by
  refine Only.updateAll (fun k v hk => ?_) db
  cases k <;> simp_all

end GeoDuels.Identities
