import GeoDuels.AuthSessions.Store

/-!
# Refresh tokens are used once

Whatever calls run at the same time, a refresh token is exchanged at most once, only the token that a
session was given last can be exchanged, and nothing is exchanged for a session that has been revoked
(`singleUse`).  `Effect` says what a statement commits; a rotation that waits for another transaction
finds the row as that transaction has left it.
-/

namespace GeoDuels.AuthSessions

open ReadCommitted (view update rowsAffected Evolves)

/-! ## The property -/

def SessionEvent.exchangedHash : SessionEvent → Option TokenHash
  | .exchanged _ hash _ => some hash
  | .issued .. | .revoked _ => none

/-- The token that an event gives to the session. -/
def SessionEvent.givenTo (sessionID : SessionID) : SessionEvent → Option TokenHash
  | .issued id hash => if id = sessionID then some hash else none
  | .exchanged id _ nextHash => if id = sessionID then some nextHash else none
  | .revoked _ => none

/-- The tokens that have been exchanged. -/
def used (tr : List SessionEvent) : List TokenHash := tr.filterMap SessionEvent.exchangedHash

/-- The token that the session was given last, when it had `first` in the beginning. -/
def lastGiven (first : Option TokenHash) (sessionID : SessionID) (tr : List SessionEvent) :
    Option TokenHash :=
  tr.foldl (fun last ev => (ev.givenTo sessionID).or last) first

/-- No session is exchanged after it has been revoked. -/
def NotAfter : SessionEvent → SessionEvent → Prop
  | .revoked id, .exchanged id' _ _ => id' ≠ id
  | _, _ => True

/-- A rotation of the session with this token would succeed. -/
def Exchangeable (db : DB) (sessionID : SessionID) (hash : TokenHash) : Prop :=
  ∃ row, db.lookup sessionID = some row ∧ row.refreshTokenHash = hash ∧ row.revokedAt = none

/-- The tokens of different sessions are different. -/
def UniqueHashes (db : DB) : Prop :=
  ∀ i j row row', db.lookup i = some row → db.lookup j = some row' →
    row.refreshTokenHash = row'.refreshTokenHash → i = j

variable {ttl : ℕ}

/-- The tokens that a call may issue. -/
def newHashes : SessionAct ttl → List TokenHash
  | .start _ (.createAuthSession _ _ hash _ _) => [hash]
  | .start _ (.rotateSessionFromCookie _ nextHash) => [nextHash]
  | .start _ (.revokeAuthSession _) | .start _ (.revokeAuthSessionsForUser _ _)
  | .start _ (.deleteAccount _ _) | .run _ _ | .stop _ => []

/-- The calls issue tokens that are new. -/
structure Fresh (db : DB) (as : List (SessionAct ttl)) : Prop where
  nodup : (as.flatMap newHashes).Nodup
  notMem : ∀ hash ∈ as.flatMap newHashes, ∀ id row, db.lookup id = some row →
    row.refreshTokenHash ≠ hash

theorem Fresh.left {db : DB} {as bs : List (SessionAct ttl)} (h : Fresh db (as ++ bs)) : Fresh db as := by
  have happ : (as ++ bs).flatMap newHashes = as.flatMap newHashes ++ bs.flatMap newHashes :=
    List.flatMap_append
  refine ⟨?_, fun hash hhash => ?_⟩
  · have hnodup := h.nodup
    rw [happ] at hnodup
    exact hnodup.of_append_left
  · apply h.notMem
    rw [happ]
    exact List.mem_append_left _ hhash

/-! ## Statements -/

theorem exchangeable_iff {db : DB} {id : SessionID} {hash nextHash : TokenHash} {expiresAt usedAt : ℕ} :
    Exchangeable db id hash ↔
      rowsAffected (rotateAuthSession db id hash nextHash expiresAt usedAt) ≠ 0 := by
  unfold rotateAuthSession
  rw [Ne, ReadCommitted.rowsAffected_update]
  unfold Exchangeable
  cases db.lookup id with
  | none => simp
  | some row => by_cases h : row.refreshTokenHash = hash ∧ row.revokedAt = none <;> simp [h]

/-- What a statement commits, and what is left of its call. -/
inductive Effect (db : DB) : SessionProc → DB → Option SessionProc → Prop where
  | ends (p : SessionProc) : Effect db p ∅ none
  | insert (id : SessionID) (u : UserID) (hash : TokenHash) (expiresAt now : ℕ) (own : DB)
      (row : SessionRow) (new : id ∉ view own db) (given : row.refreshTokenHash = hash)
      (live : row.revokedAt = none) :
      Effect db (.create id u hash expiresAt now .insert own) ∅
        (some (.create id u hash expiresAt now .commit (AList.insert id row own)))
  | create (id : SessionID) (u : UserID) (hash : TokenHash) (expiresAt now : ℕ) (own : DB) :
      Effect db (.create id u hash expiresAt now .commit own) own none
  | get (hash nextHash : TokenHash) (id : SessionID) :
      Effect db (.refresh hash nextHash .get) ∅ (some (.refresh hash nextHash (.rotate id)))
  | rotate (hash nextHash : TokenHash) (id : SessionID) (row row' : SessionRow)
      (found : db.lookup id = some row) (current : row.refreshTokenHash = hash)
      (live : row.revokedAt = none) (given : row'.refreshTokenHash = nextHash)
      (live' : row'.revokedAt = none) :
      Effect db (.refresh hash nextHash (.rotate id)) (AList.insert id row' ∅) none
  | revoke (id : SessionID) (row row' : SessionRow) (found : db.lookup id = some row)
      (same : row'.refreshTokenHash = row.refreshTokenHash) (revoked : row'.revokedAt ≠ none) :
      Effect db (.revoke id) (AList.insert id row' ∅) none
  | goOn (u : UserID) (now : ℕ) (at_ at' : RevokeAt) (own : DB) :
      Effect db (.revokeAll u now at_ own) ∅ (some (.revokeAll u now at' own))
  | revokeOne (u : UserID) (now : ℕ) (at_ at' : RevokeAt) (own : DB) (id : SessionID) :
      Effect db (.revokeAll u now at_ own) ∅
        (some (.revokeAll u now at' (view (revokeSessionOfUser (view own db) id u now) own)))
  | revokeAll (u : UserID) (now : ℕ) (own : DB) :
      Effect db (.revokeAll u now .commit own) own none

theorem update_cases (db : DB) (id : SessionID) (f : SessionRow → Option SessionRow) :
    update db id f = ∅ ∨ ∃ row row', db.lookup id = some row ∧ f row = some row' ∧
      update db id f = AList.insert id row' ∅ := by
  unfold update
  cases hf : (db.lookup id).bind f with
  | none => exact .inl rfl
  | some row' =>
      obtain ⟨row, hrow, hf⟩ := Option.bind_eq_some_iff.1 hf
      exact .inr ⟨row, row', hrow, hf, rfl⟩

theorem run_effect (p : SessionProc) (db : DB) (e : Moment) :
    Effect db p (p.run ttl db e).1 (p.run ttl db e).2 := by
  cases p with
  | create id u hash expiresAt now at_ own =>
      cases at_ with
      | insert =>
          by_cases hid : id ∈ view own db
          · simp only [SessionProc.run, if_pos hid]
            exact .ends _
          · simp only [SessionProc.run, if_neg hid]
            exact .insert id u hash expiresAt now own _ hid rfl rfl
      | commit => exact .create id u hash expiresAt now own
  | refresh hash nextHash at_ =>
      cases at_ with
      | get =>
          simp only [SessionProc.run]
          cases getAuthSessionByRefreshToken db hash with
          | none => exact .ends _
          | some found =>
              dsimp only
              split_ifs
              · exact .ends _
              · exact .get hash nextHash found.1
      | rotate id =>
          simp only [SessionProc.run, rotateAuthSession]
          rcases update_cases db id fun row =>
              if row.refreshTokenHash = hash ∧ row.revokedAt = none then
                some { row with refreshTokenHash := nextHash, expiresAt := e.now 0 + ttl
                                lastUsedAt := e.now 1 }
              else none with hnone | ⟨row, row', hrow, hset, hinsert⟩
          · rw [hnone]
            exact .ends _
          · rw [hinsert]
            split_ifs at hset with hcond
            obtain rfl := Option.some.inj hset
            exact .rotate hash nextHash id row _ hrow hcond.1 hcond.2 rfl hcond.2
  | revoke id =>
      simp only [SessionProc.run, revokeAuthSession]
      rcases update_cases db id fun row =>
          some { row with revokedAt := row.revokedAt.or (some (e.now 0)) } with
        hnone | ⟨row, row', hrow, hset, hinsert⟩
      · rw [hnone]
        exact .ends _
      · rw [hinsert]
        obtain rfl := Option.some.inj hset
        refine .revoke id row _ hrow rfl ?_
        cases row.revokedAt <;> simp
  | revokeAll u now at_ own =>
      cases at_ with
      | user => exact .goOn u now _ _ own
      | find => exact .goOn u now _ _ own
      | revoke rest =>
          simp only [SessionProc.run]
          cases rest[e.choice % rest.length]? with
          | none => exact .goOn u now _ _ own
          | some id => exact .revokeOne u now _ _ own id
      | commit => exact .revokeAll u now own

/-! ## What a call relies on -/

/-- What a transaction that revokes sessions makes of their rows. -/
def Revokes (_ : SessionID) (row row' : SessionRow) : Prop :=
  row'.refreshTokenHash = row.refreshTokenHash ∧ (row' = row ∨ row'.revokedAt ≠ none)

theorem Revokes.refl (id : SessionID) (row : SessionRow) : Revokes id row row := ⟨rfl, .inl rfl⟩

theorem Revokes.trans (id : SessionID) (a b c : SessionRow) (h : Revokes id a b) (h' : Revokes id b c) :
    Revokes id a c := by
  refine ⟨h'.1.trans h.1, ?_⟩
  rcases h'.2 with rfl | hne
  · exact h.2
  · exact .inr hne

/-- The rows of a transaction that revokes sessions. -/
def RevokesAll (own db : DB) : Prop :=
  Evolves Revokes own db ∧ ∀ id row, own.lookup id = some row → row.revokedAt ≠ none

def SessionProc.Fine : SessionProc → DB → Prop
  | .create _ _ _ _ _ .insert own, _ => own = ∅
  | .create id _ hash _ _ .commit own, db =>
      id ∉ db ∧ ∃ row, own = AList.insert id row ∅ ∧ row.refreshTokenHash = hash ∧ row.revokedAt = none
  | .refresh .., _ | .revoke _, _ => True
  | .revokeAll _ _ _ own, db => RevokesAll own db

theorem revokesAll_empty (db : DB) : RevokesAll ∅ db :=
  ⟨.empty _ db, fun id row hrow => by rw [AList.lookup_empty] at hrow; cases hrow⟩

theorem revokesAll_write {own db : DB} (h : RevokesAll own db) (id : SessionID) (u : UserID)
    (now : ℕ) : RevokesAll (view (revokeSessionOfUser (view own db) id u now) own) db := by
  have hset : ∀ row row' : SessionRow, (if row.userID = u ∧ row.revokedAt = none then
      some { row with revokedAt := some now } else none) = some row' →
        row'.refreshTokenHash = row.refreshTokenHash ∧ row'.revokedAt = some now := by
    intro row row' hrow
    split_ifs at hrow
    obtain rfl := Option.some.inj hrow
    exact ⟨rfl, rfl⟩
  have hrows : Evolves Revokes (revokeSessionOfUser (view own db) id u now) (view own db) := by
    refine Evolves.of_update (fun row row' hrow => ?_) _
    obtain ⟨hhash, hrevoked⟩ := hset row row' hrow
    exact ⟨hhash, .inr (by rw [hrevoked]; exact Option.some_ne_none now)⟩
  refine ⟨h.1.write Revokes.refl Revokes.trans hrows, fun j row hrow => ?_⟩
  rw [ReadCommitted.lookup_view] at hrow
  rcases Option.or_eq_some_iff.1 hrow with hnew | ⟨-, hown⟩
  · have hmem : j ∈ revokeSessionOfUser (view own db) id u now := by
      rw [← AList.lookup_isSome, hnew]
      rfl
    obtain rfl := ReadCommitted.mem_update hmem
    unfold revokeSessionOfUser at hnew
    rw [ReadCommitted.lookup_update_self] at hnew
    obtain ⟨old, -, hold⟩ := Option.bind_eq_some_iff.1 hnew
    rw [(hset old row hold).2]
    exact Option.some_ne_none now
  · exact h.2 j row hown

theorem fine_run {p p' : SessionProc} {db rows : DB} (hp : p.Fine db)
    (h : Effect db p rows (some p')) : p'.Fine (view rows db) := by
  cases h with
  | insert id u hash expiresAt now own row new given live =>
      obtain rfl : own = ∅ := hp
      rw [ReadCommitted.view_empty] at new ⊢
      exact ⟨new, row, rfl, given, live⟩
  | get => trivial
  | goOn u now at_ at' own =>
      rw [ReadCommitted.view_empty]
      exact hp
  | revokeOne u now at_ at' own id =>
      rw [ReadCommitted.view_empty]
      exact revokesAll_write hp id u now

/-- Every call has what it relies on, whatever the others do. -/
theorem session_local : ReadCommitted.World.Local (sessionProgram ttl) SessionProc.Fine where
  begin c db := by
    cases c with
    | createAuthSession => rfl
    | rotateSessionFromCookie | revokeAuthSession => trivial
    | revokeAuthSessionsForUser | deleteAccount => exact revokesAll_empty db
  run p db e p' hp hnext := by
    have heffect : Effect db p (p.run ttl db e).1 (p.run ttl db e).2 := run_effect p db e
    rw [show (p.run ttl db e).2 = some p' from hnext] at heffect
    exact fine_run hp heffect
  frame q db rows hq hfree := by
    cases q with
    | create id u hash expiresAt now at_ own =>
        cases at_ with
        | insert => exact hq
        | commit =>
            obtain ⟨hid, row, rfl, hrow⟩ := hq
            refine ⟨fun hmem => ?_, row, rfl, hrow⟩
            rcases AList.mem_union.1 hmem with hrows | hdb
            · exact hfree id hrows ((AList.mem_insert ∅).2 (.inl rfl))
            · exact hid hdb
    | refresh | revoke => trivial
    | revokeAll u now at_ own => exact ⟨hq.1.frame hfree, hq.2⟩

/-! ## The tokens of the sessions -/

/-- The token is in the database, or it has been exchanged. -/
def Taken (db : DB) (tr : List SessionEvent) (hash : TokenHash) : Prop :=
  hash ∈ used tr ∨ ∃ id row, db.lookup id = some row ∧ row.refreshTokenHash = hash

/-- The token was there in the beginning, or a call has made it. -/
def Known (db₀ : DB) (as : List (SessionAct ttl)) (hash : TokenHash) : Prop :=
  hash ∈ as.flatMap newHashes ∨ ∃ id row, db₀.lookup id = some row ∧ row.refreshTokenHash = hash

/-- What the events of a run say of the database. -/
structure Tokens (db₀ : DB) (as : List (SessionAct ttl)) (tr : List SessionEvent) (db : DB) : Prop where
  unique : UniqueHashes db
  known : ∀ hash, Taken db tr hash → Known db₀ as hash
  unused : ∀ id row, db.lookup id = some row → row.refreshTokenHash ∉ used tr
  nodup : (used tr).Nodup
  given : ∀ id row, db.lookup id = some row →
    lastGiven ((db₀.lookup id).map SessionRow.refreshTokenHash) id tr = some row.refreshTokenHash
  revoked : ∀ id, .revoked id ∈ tr → ∃ row, db.lookup id = some row ∧ row.revokedAt ≠ none
  order : tr.Pairwise NotAfter

variable {db₀ db rows : DB} {as : List (SessionAct ttl)} {tr evs : List SessionEvent} {id : SessionID}
  {hash nextHash : TokenHash}

theorem lookup_view_insert (db : DB) (id j : SessionID) (row : SessionRow) :
    (view (AList.insert id row ∅) db).lookup j = if j = id then some row else db.lookup j := by
  rw [ReadCommitted.lookup_view]
  split_ifs with h
  · rw [h, AList.lookup_insert, Option.some_or]
  · rw [AList.lookup_insert_ne h, AList.lookup_empty, Option.none_or]

theorem used_append (tr evs : List SessionEvent) : used (tr ++ evs) = used tr ++ used evs :=
  List.filterMap_append

theorem lastGiven_append (first : Option TokenHash) (id : SessionID) (tr evs : List SessionEvent) :
    lastGiven first id (tr ++ evs) = lastGiven (lastGiven first id tr) id evs :=
  List.foldl_append

theorem lastGiven_eq_self {first : Option TokenHash} (h : ∀ ev ∈ evs, ev.givenTo id = none) :
    lastGiven first id evs = first := by
  induction evs generalizing first with
  | nil => rfl
  | cons ev evs ih =>
      have hstep : lastGiven first id (ev :: evs) = lastGiven ((ev.givenTo id).or first) id evs := rfl
      rw [hstep, h ev List.mem_cons_self, Option.none_or]
      exact ih fun ev' hev' => h ev' (List.mem_cons_of_mem ev hev')

/-- Events that may come at any time. -/
theorem order_append (h : tr.Pairwise NotAfter) (hevs : evs.Pairwise NotAfter)
    (hcross : ∀ ev ∈ evs, ∀ i hash nextHash, ev = .exchanged i hash nextHash → .revoked i ∉ tr) :
    (tr ++ evs).Pairwise NotAfter := by
  refine List.pairwise_append.2 ⟨h, hevs, fun ev hev ev' hev' => ?_⟩
  cases ev with
  | issued | exchanged => trivial
  | revoked i =>
      cases ev' with
      | issued | revoked => trivial
      | exchanged j hash nextHash =>
          intro hij
          exact hcross _ hev' j hash nextHash rfl (hij ▸ hev)

/-- A session is given a new token, and the token that it had before has been used. -/
theorem Tokens.give (h : Tokens db₀ as tr db) {ev : SessionEvent} {row' : SessionRow}
    (hgiven : row'.refreshTokenHash = nextHash) (hmade : nextHash ∈ as.flatMap newHashes)
    (hfree : ¬ Taken db tr nextHash)
    (hev : ev = .issued id nextHash ∧ id ∉ db ∨ ∃ row, ev = .exchanged id row.refreshTokenHash nextHash ∧
      db.lookup id = some row ∧ row.revokedAt = none) :
    Tokens db₀ as (tr ++ [ev]) (view (AList.insert id row' ∅) db) := by
  have hto : ∀ j, ev.givenTo j = if id = j then some nextHash else none := by
    rcases hev with ⟨rfl, -⟩ | ⟨row, rfl, -⟩ <;> exact fun j => rfl
  have hlive : ∀ row, db.lookup id = some row → row.revokedAt = none := by
    intro row hrow
    rcases hev with ⟨-, hid⟩ | ⟨row', -, hrow', hlive⟩
    · exact absurd (AList.lookup_isSome.1 (by rw [hrow]; rfl)) hid
    · rwa [Option.some.inj (hrow.symm.trans hrow')]
  have hspent : ∀ hash, hash ∈ used (tr ++ [ev]) ↔
      hash ∈ used tr ∨ ∃ row, db.lookup id = some row ∧ row.refreshTokenHash = hash := by
    intro hash
    rw [used_append, List.mem_append]
    refine or_congr_right ?_
    rcases hev with ⟨rfl, hid⟩ | ⟨row, rfl, hrow, -⟩
    · simp [used, SessionEvent.exchangedHash, AList.lookup_eq_none.2 hid]
    · simp [used, SessionEvent.exchangedHash, hrow, eq_comm]
  have hlookup : ∀ j r, (view (AList.insert id row' ∅) db).lookup j = some r →
      j = id ∧ r = row' ∨ j ≠ id ∧ db.lookup j = some r := by
    intro j r hr
    rw [lookup_view_insert] at hr
    split_ifs at hr with hj
    · exact .inl ⟨hj, (Option.some.inj hr).symm⟩
    · exact .inr ⟨hj, hr⟩
  refine ⟨fun i j r r' hr hr' heq => ?_, fun hash htaken => ?_, fun j r hr hmem => ?_, ?_,
    fun j r hr => ?_, fun j hj => ?_, order_append h.order (List.pairwise_singleton _ _) ?_⟩
  · rcases hlookup i r hr with ⟨rfl, rfl⟩ | ⟨-, hr₁⟩
    · rcases hlookup j r' hr' with ⟨rfl, -⟩ | ⟨-, hr₂⟩
      · rfl
      · exact absurd (.inr ⟨j, r', hr₂, heq.symm.trans hgiven⟩) hfree
    · rcases hlookup j r' hr' with ⟨rfl, rfl⟩ | ⟨-, hr₂⟩
      · exact absurd (.inr ⟨i, r, hr₁, heq.trans hgiven⟩) hfree
      · exact h.unique i j r r' hr₁ hr₂ heq
  · rcases htaken with hmem | ⟨j, r, hr, rfl⟩
    · rcases (hspent hash).1 hmem with hmem | hrow
      · exact h.known hash (.inl hmem)
      · exact h.known hash (.inr ⟨id, hrow⟩)
    · rcases hlookup j r hr with ⟨-, rfl⟩ | ⟨-, hr⟩
      · rw [hgiven]
        exact .inl hmade
      · exact h.known _ (.inr ⟨j, r, hr, rfl⟩)
  · rcases hlookup j r hr with ⟨-, rfl⟩ | ⟨hj, hr⟩
    · rw [hgiven] at hmem
      rcases (hspent nextHash).1 hmem with hmem | hrow
      · exact hfree (.inl hmem)
      · exact hfree (.inr ⟨id, hrow⟩)
    · rcases (hspent _).1 hmem with hmem | ⟨row, hrow, heq⟩
      · exact h.unused j r hr hmem
      · exact hj (h.unique j id r row hr hrow heq.symm)
  · rw [used_append]
    refine List.nodup_append'.2 ⟨h.nodup, ?_, ?_⟩
    · rcases hev with ⟨rfl, -⟩ | ⟨row, rfl, -⟩
      · exact List.nodup_nil
      · exact List.nodup_singleton _
    · rcases hev with ⟨rfl, -⟩ | ⟨row, rfl, hrow, -⟩
      · exact List.disjoint_nil_right _
      · exact List.disjoint_singleton.2 (h.unused id row hrow)
  · have hlast : lastGiven ((db₀.lookup j).map SessionRow.refreshTokenHash) j (tr ++ [ev]) =
        (ev.givenTo j).or (lastGiven ((db₀.lookup j).map SessionRow.refreshTokenHash) j tr) :=
      lastGiven_append _ j tr [ev]
    rw [hlast, hto]
    rcases hlookup j r hr with ⟨rfl, rfl⟩ | ⟨hj, hr⟩
    · rw [if_pos rfl, hgiven, Option.some_or]
    · rw [if_neg (Ne.symm hj), Option.none_or, h.given j r hr]
  · rcases List.mem_append.1 hj with hj | hj
    · obtain ⟨r, hr, hrevoked⟩ := h.revoked j hj
      have hne : j ≠ id := by
        rintro rfl
        exact hrevoked (hlive r hr)
      exact ⟨r, by rw [lookup_view_insert, if_neg hne, hr], hrevoked⟩
    · obtain rfl := List.mem_singleton.1 hj
      rcases hev with ⟨heq, -⟩ | ⟨row, heq, -⟩ <;> cases heq
  · intro ev' hev' i hash next heq hmem
    obtain rfl := List.mem_singleton.1 hev'
    obtain rfl : i = id := by
      rcases hev with ⟨hissued, -⟩ | ⟨row, hexchanged, -⟩
      · cases heq.symm.trans hissued
      · cases heq.symm.trans hexchanged
        rfl
    obtain ⟨r, hr, hrevoked⟩ := h.revoked i hmem
    exact hrevoked (hlive r hr)

/-- What is taken after a session has been given a new token. -/
theorem taken_of_give {ev : SessionEvent} {row' : SessionRow} {hash : TokenHash}
    (hgiven : row'.refreshTokenHash = nextHash)
    (hev : ∀ hash ∈ ev.exchangedHash, ∃ row, db.lookup id = some row ∧ row.refreshTokenHash = hash)
    (h : Taken (view (AList.insert id row' ∅) db) (tr ++ [ev]) hash) : Taken db tr hash ∨ hash = nextHash := by
  rcases h with hmem | ⟨j, r, hr, rfl⟩
  · rw [used_append, List.mem_append] at hmem
    rcases hmem with hmem | hmem
    · exact .inl (.inl hmem)
    · obtain ⟨ev', hev', heq⟩ := List.mem_filterMap.1 hmem
      obtain rfl := List.mem_singleton.1 hev'
      exact .inl (.inr ⟨id, hev hash heq⟩)
  · rw [lookup_view_insert] at hr
    split_ifs at hr
    · obtain rfl := Option.some.inj hr
      exact .inr hgiven
    · exact .inl (.inr ⟨j, r, hr, rfl⟩)

/-- Rows that only revoke leave every token in its session. -/
theorem hash_of_revokes (h : RevokesAll rows db) {j : SessionID} {r : SessionRow}
    (hr : (view rows db).lookup j = some r) :
    ∃ old, db.lookup j = some old ∧ r.refreshTokenHash = old.refreshTokenHash ∧
      (old.revokedAt ≠ none → r.revokedAt ≠ none) := by
  obtain ⟨old, hold, hhash, hkeep⟩ := h.1.lookup_view Revokes.refl hr
  refine ⟨old, hold, hhash, fun hne => ?_⟩
  rcases hkeep with rfl | hrevoked
  · exact hne
  · exact hrevoked

theorem mem_view_of_revokes (h : RevokesAll rows db) {j : SessionID} {old : SessionRow}
    (hold : db.lookup j = some old) : ∃ r, (view rows db).lookup j = some r ∧
      (old.revokedAt ≠ none → r.revokedAt ≠ none) := by
  have hmem : j ∈ view rows db := AList.mem_union.2 (.inr (AList.lookup_isSome.1 (by rw [hold]; rfl)))
  obtain ⟨r, hr⟩ := Option.isSome_iff_exists.1 (AList.lookup_isSome.2 hmem)
  obtain ⟨old', hold', -, hkeep⟩ := hash_of_revokes h hr
  rw [hold] at hold'
  obtain rfl := Option.some.inj hold'
  exact ⟨r, hr, hkeep⟩

theorem taken_of_revokes (h : RevokesAll rows db) (hused : used evs = [])
    (htaken : Taken (view rows db) (tr ++ evs) hash) : Taken db tr hash := by
  unfold Taken at htaken
  rw [used_append, hused, List.append_nil] at htaken
  refine htaken.imp_right ?_
  rintro ⟨j, r, hr, rfl⟩
  obtain ⟨old, hold, hhash, -⟩ := hash_of_revokes h hr
  exact ⟨j, old, hold, hhash.symm⟩

theorem used_revoked (ids : List SessionID) : used (ids.map .revoked) = [] := by
  simp [used, List.filterMap_map, Function.comp_def, SessionEvent.exchangedHash]

theorem Tokens.revokeAll (h : Tokens db₀ as tr db) (hrows : RevokesAll rows db) :
    Tokens db₀ as (tr ++ rows.keys.map .revoked) (view rows db) := by
  have hused := used_revoked rows.keys
  have hevent : ∀ ev ∈ rows.keys.map SessionEvent.revoked, ∃ j ∈ rows.keys, ev = .revoked j := by
    intro ev hev
    obtain ⟨j, hj, rfl⟩ := List.mem_map.1 hev
    exact ⟨j, hj, rfl⟩
  refine ⟨fun i j r r' hr hr' heq => ?_, fun hash' htaken => ?_, fun j r hr => ?_, ?_, fun j r hr => ?_,
    fun j hj => ?_, order_append h.order ?_ ?_⟩
  · obtain ⟨old, hold, hhash, -⟩ := hash_of_revokes hrows hr
    obtain ⟨old', hold', hhash', -⟩ := hash_of_revokes hrows hr'
    exact h.unique i j old old' hold hold' (hhash.symm.trans (heq.trans hhash'))
  · exact h.known hash' (taken_of_revokes hrows hused htaken)
  · obtain ⟨old, hold, hhash, -⟩ := hash_of_revokes hrows hr
    rw [used_append, hused, List.append_nil, hhash]
    exact h.unused j old hold
  · rw [used_append, hused, List.append_nil]
    exact h.nodup
  · obtain ⟨old, hold, hhash, -⟩ := hash_of_revokes hrows hr
    rw [lastGiven_append, hhash, h.given j old hold]
    refine lastGiven_eq_self fun ev hev => ?_
    obtain ⟨i, -, rfl⟩ := hevent ev hev
    rfl
  · rcases List.mem_append.1 hj with hj | hj
    · obtain ⟨old, hold, hrevoked⟩ := h.revoked j hj
      obtain ⟨r, hr, hkeep⟩ := mem_view_of_revokes hrows hold
      exact ⟨r, hr, hkeep hrevoked⟩
    · obtain ⟨i, hi, heq⟩ := hevent _ hj
      cases heq
      obtain ⟨r, hr⟩ := Option.isSome_iff_exists.1 (AList.lookup_isSome.2 (AList.mem_keys.2 hi))
      exact ⟨r, by rw [ReadCommitted.lookup_view, hr, Option.some_or], hrows.2 j r hr⟩
  · refine List.pairwise_map.2 (List.pairwise_of_forall fun i j => ?_)
    trivial
  · intro ev hev i hash' nextHash' heq
    obtain ⟨j, -, rfl⟩ := hevent ev hev
    cases heq

/-! ## Runs -/

/-- The token that a call has made and not issued yet. -/
def SessionProc.newHash : SessionProc → Option TokenHash
  | .create _ _ hash _ _ _ _ => some hash
  | .refresh _ nextHash _ => some nextHash
  | .revoke _ | .revokeAll _ _ _ _ => none

/-- What the actions and the events of a run say of the state they lead to. -/
structure Inv (db₀ : DB) (as : List (SessionAct ttl)) (tr : List SessionEvent) (w : SessionWorld ttl) :
    Prop where
  calls : ReadCommitted.World.Inv SessionProc.Fine w
  tokens : Tokens db₀ as tr w.db
  made : ∀ i p, w.procs.lookup i = some p → ∀ hash ∈ SessionProc.newHash p,
    hash ∈ as.flatMap newHashes ∧ ¬ Taken w.db tr hash
  apart : ∀ i j p q hash, w.procs.lookup i = some p → w.procs.lookup j = some q →
    hash ∈ SessionProc.newHash p → hash ∈ SessionProc.newHash q → i = j

theorem Tokens.mono (h : Tokens db₀ as tr db) (bs : List (SessionAct ttl)) :
    Tokens db₀ (as ++ bs) tr db :=
  { h with
    known := fun hash htaken => (h.known hash htaken).imp_left fun hmem => by
      rw [List.flatMap_append]
      exact List.mem_append_left _ hmem }

variable {w w' : SessionWorld ttl} {a : SessionAct ttl}

/-- A step that leaves the rows as they are and makes no new token. -/
theorem Inv.quiet (h : Inv db₀ as tr w) (hcalls : ReadCommitted.World.Inv SessionProc.Fine w')
    (hdb : w'.db = w.db) (hprocs : ∀ i q, w'.procs.lookup i = some q →
      ∃ p, w.procs.lookup i = some p ∧ SessionProc.newHash q = SessionProc.newHash p) :
    Inv db₀ (as ++ [a]) tr w' := by
  refine ⟨hcalls, hdb ▸ h.tokens.mono [a], fun i q hq hash hhash => ?_, fun i j q q' hash hq hq' hi hj => ?_⟩
  · obtain ⟨p, hp, hnew⟩ := hprocs i q hq
    rw [hnew] at hhash
    obtain ⟨hmade, hfree⟩ := h.made i p hp hash hhash
    rw [List.flatMap_append, hdb]
    exact ⟨List.mem_append_left _ hmade, hfree⟩
  · obtain ⟨p, hp, hnew⟩ := hprocs i q hq
    obtain ⟨p', hp', hnew'⟩ := hprocs j q' hq'
    exact h.apart i j p p' hash hp hp' (hnew ▸ hi) (hnew' ▸ hj)

/-- A step at which a call ends that has committed its rows. -/
theorem Inv.commit (h : Inv db₀ as tr w) (hcalls : ReadCommitted.World.Inv SessionProc.Fine w')
    {i₀ : ℕ} {p₀ : SessionProc} (hp₀ : w.procs.lookup i₀ = some p₀)
    (htokens : Tokens db₀ as (tr ++ evs) w'.db)
    (htaken : ∀ hash, Taken w'.db (tr ++ evs) hash →
      Taken w.db tr hash ∨ hash ∈ SessionProc.newHash p₀)
    (hprocs : ∀ i q, w'.procs.lookup i = some q → i ≠ i₀ ∧ w.procs.lookup i = some q) :
    Inv db₀ (as ++ [a]) (tr ++ evs) w' := by
  refine ⟨hcalls, htokens.mono [a], fun i q hq hash hhash => ?_, fun i j q q' hash hq hq' hi hj => ?_⟩
  · obtain ⟨hne, hp⟩ := hprocs i q hq
    obtain ⟨hmade, hfree⟩ := h.made i q hp hash hhash
    rw [List.flatMap_append]
    refine ⟨List.mem_append_left _ hmade, fun htaken' => ?_⟩
    rcases htaken hash htaken' with htaken' | hown
    · exact hfree htaken'
    · exact hne (h.apart i i₀ q p₀ hash hp hp₀ hhash hown)
  · exact h.apart i j q q' hash (hprocs i q hq).2 (hprocs j q' hq').2 hi hj

theorem Inv.start (h : Inv db₀ as tr w) {i₀ : ℕ} {c : SessionCall}
    (hcalls : ReadCommitted.World.Inv SessionProc.Fine
      ({ w with procs := w.procs.insert i₀ c.begin } : SessionWorld ttl))
    (hfresh : Fresh db₀ (as ++ [(.start i₀ c : SessionAct ttl)])) :
    Inv db₀ (as ++ [.start i₀ c]) tr { w with procs := w.procs.insert i₀ c.begin } := by
  have hnew : ∀ hash ∈ c.begin.newHash, hash ∈ newHashes (.start i₀ c : SessionAct ttl) := by
    cases c with
    | createAuthSession | rotateSessionFromCookie =>
        intro hash hhash
        obtain rfl := Option.some.inj hhash
        exact List.mem_singleton.2 rfl
    | revokeAuthSession | revokeAuthSessionsForUser | deleteAccount => exact fun hash hhash => by cases hhash
  have happ : (as ++ [(.start i₀ c : SessionAct ttl)]).flatMap newHashes =
      as.flatMap newHashes ++ newHashes (.start i₀ c : SessionAct ttl) := by simp
  have hnodup := hfresh.nodup
  rw [happ] at hnodup
  have hapart : ∀ hash ∈ c.begin.newHash, hash ∉ as.flatMap newHashes := fun hash hhash hmem =>
    (List.nodup_append'.1 hnodup).2.2 hmem (hnew hash hhash)
  have hmade : ∀ hash ∈ c.begin.newHash,
      hash ∈ (as ++ [(.start i₀ c : SessionAct ttl)]).flatMap newHashes := by
    intro hash hhash
    rw [happ]
    exact List.mem_append_right _ (hnew hash hhash)
  refine ⟨hcalls, h.tokens.mono [.start i₀ c], fun i q hq hash hhash => ?_,
    fun i j q q' hash hq hq' hi hj => ?_⟩
  · rcases Assoc.of_lookup_insert hq with ⟨-, rfl⟩ | ⟨-, hq⟩
    · refine ⟨hmade hash hhash, fun htaken => ?_⟩
      rcases h.tokens.known hash htaken with hmem | ⟨id, row, hrow, hhash'⟩
      · exact hapart hash hhash hmem
      · exact hfresh.notMem hash (hmade hash hhash) id row hrow hhash'
    · obtain ⟨hmem, hfree⟩ := h.made i q hq hash hhash
      rw [happ]
      exact ⟨List.mem_append_left _ hmem, hfree⟩
  · rcases Assoc.of_lookup_insert hq with ⟨hi₀, rfl⟩ | ⟨-, hq⟩
    · rcases Assoc.of_lookup_insert hq' with ⟨hj₀, -⟩ | ⟨-, hq'⟩
      · exact hi₀.trans hj₀.symm
      · exact absurd (h.made j q' hq' hash hj).1 (hapart hash hi)
    · rcases Assoc.of_lookup_insert hq' with ⟨-, rfl⟩ | ⟨-, hq'⟩
      · exact absurd (h.made i q hq hash hi).1 (hapart hash hj)
      · exact h.apart i j q q' hash hq hq' hi hj

/-- A statement that commits nothing. -/
theorem Inv.pending (h : Inv db₀ as tr w) {i₀ : ℕ} {p : SessionProc} {next : Option SessionProc}
    (hp : w.procs.lookup i₀ = some p)
    (hcalls : ReadCommitted.World.Inv SessionProc.Fine (w.settle i₀ (∅, next)))
    (hnext : ∀ q ∈ next, q.newHash = p.newHash) :
    Inv db₀ (as ++ [a]) (tr ++ (∅ : DB).keys.map p.event) (w.settle i₀ (∅, next)) := by
  have hempty : (∅ : DB).keys.map p.event = [] := rfl
  rw [hempty, List.append_nil]
  refine h.quiet hcalls (ReadCommitted.view_empty w.db) fun i q hq => ?_
  rcases ReadCommitted.World.lookup_settle hq with ⟨rfl, hq'⟩ | ⟨-, hq'⟩
  · exact ⟨p, hp, hnext q hq'⟩
  · exact ⟨q, hq', rfl⟩

theorem keys_insert_empty (id : SessionID) (row : SessionRow) :
    (AList.insert id row ∅ : DB).keys = [id] := by
  rw [AList.keys_insert, AList.keys_empty, List.erase_nil]

/-- A statement of a call commits what it does to the tokens. -/
theorem Inv.run (h : Inv db₀ as tr w) {i₀ : ℕ} {p : SessionProc} {next : Option SessionProc}
    (hp : w.procs.lookup i₀ = some p) (heffect : Effect w.db p rows next)
    (hcalls : ReadCommitted.World.Inv SessionProc.Fine (w.settle i₀ (rows, next))) :
    Inv db₀ (as ++ [a]) (tr ++ rows.keys.map p.event) (w.settle i₀ (rows, next)) := by
  have hfine : p.Fine w.db := h.calls.each i₀ p hp
  have hothers : next = none → ∀ i q, (w.settle i₀ (rows, next)).procs.lookup i = some q →
      i ≠ i₀ ∧ w.procs.lookup i = some q := by
    rintro rfl i q hq
    rcases ReadCommitted.World.lookup_settle hq with ⟨-, hq⟩ | hq
    · cases hq
    · exact hq
  cases heffect with
  | ends => exact h.pending hp hcalls nofun
  | insert id u hash expiresAt now own row new given live =>
      exact h.pending hp hcalls fun q hq => by obtain rfl := Option.some.inj hq; rfl
  | get hash nextHash id => exact h.pending hp hcalls fun q hq => by obtain rfl := Option.some.inj hq; rfl
  | goOn u now at_ at' own => exact h.pending hp hcalls fun q hq => by obtain rfl := Option.some.inj hq; rfl
  | revokeOne u now at_ at' own id =>
      exact h.pending hp hcalls fun q hq => by obtain rfl := Option.some.inj hq; rfl
  | create id u hash expiresAt now own =>
      obtain ⟨hid, row, rfl, hgiven, -⟩ := hfine
      obtain ⟨hmade, hfree⟩ := h.made i₀ _ hp hash rfl
      rw [keys_insert_empty]
      exact h.commit hcalls hp (h.tokens.give hgiven hmade hfree (.inl ⟨rfl, hid⟩))
        (fun hash' htaken => (taken_of_give hgiven (fun _ h => by cases h) htaken).imp_right (congrArg some ·.symm))
        (hothers rfl)
  | rotate hash nextHash id row row' found current live given live' =>
      obtain ⟨hmade, hfree⟩ := h.made i₀ _ hp nextHash rfl
      subst current
      rw [keys_insert_empty]
      refine h.commit hcalls hp (h.tokens.give given hmade hfree (.inr ⟨row, rfl, found, live⟩))
        (fun hash' htaken => (taken_of_give given (fun hash hhash => ?_) htaken).imp_right
          (congrArg some ·.symm)) (hothers rfl)
      exact ⟨row, found, Option.some.inj hhash⟩
  | revoke id row row' found same revoked =>
      have hrows : RevokesAll (AList.insert id row' ∅) w.db := by
        refine ⟨fun j r hr => ?_, fun j r hr => ?_⟩ <;>
          rcases Assoc.of_lookup_insert hr with ⟨rfl, rfl⟩ | ⟨-, hr⟩
        · exact ⟨row, found, same, .inr revoked⟩
        · cases hr
        · exact revoked
        · cases hr
      exact h.commit hcalls hp (h.tokens.revokeAll hrows)
        (fun hash htaken => .inl (taken_of_revokes hrows (used_revoked _) htaken)) (hothers rfl)
  | revokeAll u now own =>
      exact h.commit hcalls hp (h.tokens.revokeAll hfine)
        (fun hash htaken => .inl (taken_of_revokes hfine (used_revoked _) htaken)) (hothers rfl)

theorem Inv.step (h : Inv db₀ as tr w) (hs : w.step a = some w') (hfresh : Fresh db₀ (as ++ [a])) :
    Inv db₀ (as ++ [a]) (tr ++ observe ttl w a) w' := by
  have hcalls := h.calls.step session_local hs
  cases ReadCommitted.World.steps_of_step hs with
  | start c new =>
      rw [observe, List.append_nil]
      exact h.start hcalls hfresh
  | @run i₀ p e mem free locked =>
      have hobserve : observe ttl w (.run i₀ e) =
          (SessionProc.run ttl p w.db e).1.keys.map (SessionProc.event p) := by
        rw [observe, mem, Option.elim_some]
      rw [hobserve]
      exact h.run mem (run_effect p w.db e) hcalls
  | stop i₀ =>
      rw [observe, List.append_nil]
      exact h.quiet hcalls rfl fun i q hq => ⟨q, (Assoc.of_lookup_erase hq).2, rfl⟩

/-- From sessions with tokens of their own, whatever refresh requests, revocations and account deletions
run at the same time, no token is exchanged twice, a session is exchanged with the token that it was
given last, and not at all after it has been revoked. -/
theorem singleUse (ttl : ℕ) (db : DB) (hdb : UniqueHashes db) (as : List (SessionAct ttl))
    (hfresh : Fresh db as) (w : SessionWorld ttl)
    (hw : Run.exec ReadCommitted.World.step (⟨db, ∅⟩ : SessionWorld ttl) as = some w) :
    let tr := Run.trace ReadCommitted.World.step (observe ttl) ⟨db, ∅⟩ as
    (used tr).Nodup ∧ tr.Pairwise NotAfter ∧
      ∀ id hash, Exchangeable w.db id hash →
        lastGiven ((db.lookup id).map SessionRow.refreshTokenHash) id tr = some hash := by
  have hinit : Inv db [] [] (⟨db, ∅⟩ : SessionWorld ttl) := by
    refine ⟨ReadCommitted.World.Inv.init db, ⟨hdb, ?_, ?_, .nil, ?_, ?_, .nil⟩, ?_, ?_⟩
    · rintro hash (hmem | hrow)
      · cases hmem
      · exact .inr hrow
    · exact fun id row _ hmem => by cases hmem
    · intro id row hrow
      rw [hrow]
      rfl
    · exact fun id hid => by cases hid
    · exact fun i p hp => by cases hp
    · exact fun i j p q hash hp => by cases hp
  have hinv := @Run.trace_induction _ _ _ _ _ (fun as tr w => Fresh db as → Inv db as tr w) _
    (fun _ => hinit) (fun as tr w a w' h hs hfresh => (h hfresh.left).step hs hfresh) as w hw hfresh
  refine ⟨hinv.tokens.nodup, hinv.tokens.order, fun id hash => ?_⟩
  rintro ⟨row, hrow, rfl, -⟩
  exact hinv.tokens.given id row hrow

/-! ### Two refreshes and a deletion -/

/-- A session of `u` with the token `t0`. -/
def oneSession : DB :=
  AList.insert "s"
    { userID := "u", refreshTokenHash := "t0", expiresAt := 9, createdAt := 0, lastUsedAt := 0 } ∅

theorem uniqueHashes_oneSession : UniqueHashes oneSession := by
  intro i j row row' hi hj _
  rcases Assoc.of_lookup_insert hi with ⟨rfl, -⟩ | ⟨-, hi⟩
  · rcases Assoc.of_lookup_insert hj with ⟨rfl, -⟩ | ⟨-, hj⟩
    · rfl
    · cases hj
  · cases hi

/-- Two requests with `t0` read the session, one of them exchanges the token while the account is
deleted, and the other one comes too late. -/
def twoRefreshes : List (SessionAct 5) :=
  [.start 0 (.rotateSessionFromCookie "t0" "t1"), .start 1 (.rotateSessionFromCookie "t0" "t2"),
    .start 2 (.deleteAccount "u" 1)] ++ [0, 1, 2, 0, 2, 2, 2, 2, 1].map fun id => .run id {}

theorem singleUse_twoRefreshes :
    ∃ w, Run.exec ReadCommitted.World.step (⟨oneSession, ∅⟩ : SessionWorld 5) twoRefreshes = some w ∧
      let tr := Run.trace ReadCommitted.World.step (observe 5) ⟨oneSession, ∅⟩ twoRefreshes
      used tr = ["t0"] ∧ (used tr).Nodup ∧ tr.Pairwise NotAfter ∧
        ∀ id hash, Exchangeable w.db id hash →
          lastGiven ((oneSession.lookup id).map SessionRow.refreshTokenHash) id tr = some hash := by
  have hrun : (Run.exec ReadCommitted.World.step (⟨oneSession, ∅⟩ : SessionWorld 5)
      twoRefreshes).isSome := by decide +kernel
  obtain ⟨w, hw⟩ := Option.isSome_iff_exists.1 hrun
  refine ⟨w, hw, by decide +kernel, singleUse 5 oneSession uniqueHashes_oneSession twoRefreshes
    ⟨by decide, fun hash hhash id row hrow => ?_⟩ w hw⟩
  rcases Assoc.of_lookup_insert hrow with ⟨-, rfl⟩ | ⟨-, hrow⟩
  · rintro rfl
    exact absurd hhash (by decide)
  · cases hrow

end GeoDuels.AuthSessions
