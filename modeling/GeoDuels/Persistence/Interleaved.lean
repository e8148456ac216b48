import GeoDuels.Persistence.LobbyCalls

/-!
# What a call has written

The rows that a call has written and not committed come from the committed ones (`Moves`): nobody
comes back, nobody but the caller of `LeaveLobby` goes, no lobby opens, and no lobby goes to the one
who leaves it.  `lobby_local` says so of every call, in every interleaving.
-/

namespace GeoDuels.Persistence

open ReadCommitted (view update rowsAffected Evolves)

/-- What a transaction on the lobby `l` may make of a row; `leaver` is the user it takes out. -/
def Moves (l : LobbyID) (leaver : Option UserID) : (k : RowKey) → Row k → Row k → Prop
  | .lobby l', (row : LobbyRow), (row' : LobbyRow) =>
      row' = row ∨ l' = l ∧ (row'.state = .open_ → row.state = .open_) ∧
        (row'.ownerUserID = row.ownerUserID ∨ some row'.ownerUserID ≠ leaver)
  | .member l' u, (row : MemberRow), (row' : MemberRow) =>
      row' = row ∨ l' = l ∧ (row'.leftAt = row.leftAt ∨ some u = leaver ∧ row'.leftAt ≠ none)

theorem Moves.refl (l : LobbyID) (leaver : Option UserID) (k : RowKey) (row : Row k) :
    Moves l leaver k row row := by
  cases k <;> exact .inl rfl

theorem Moves.trans {l : LobbyID} {leaver : Option UserID} (k : RowKey) (a b c : Row k)
    (h : Moves l leaver k a b) (h' : Moves l leaver k b c) : Moves l leaver k a c := by
  cases k with
  | lobby l' =>
      rcases h with rfl | ⟨hl, hopen, howner⟩
      · exact h'
      · rcases h' with rfl | ⟨-, hopen', howner'⟩
        · exact .inr ⟨hl, hopen, howner⟩
        · refine .inr ⟨hl, hopen ∘ hopen', ?_⟩
          rcases howner' with heq | hne
          · exact howner.imp heq.trans fun hne => by rwa [heq]
          · exact .inr hne
  | member l' u =>
      rcases h with rfl | ⟨hl, hleft⟩
      · exact h'
      · rcases h' with rfl | ⟨-, hleft'⟩
        · exact .inr ⟨hl, hleft⟩
        · refine .inr ⟨hl, ?_⟩
          rcases hleft' with heq | hgone
          · exact hleft.imp heq.trans fun hgone => ⟨hgone.1, by rw [heq]; exact hgone.2⟩
          · exact .inr hgone

variable {l : LobbyID} {leaver : Option UserID} {seen own db : DB}

/-- Where the rows come from that a transaction sees. -/
theorem memberRow_of_moves (h : Evolves (Moves l leaver) own db) {l' : LobbyID} {u : UserID}
    {row' : MemberRow} (hrow' : memberRow (view own db) l' u = some row') :
    ∃ row, memberRow db l' u = some row ∧ Moves l leaver (.member l' u) row row' := by
  have hseen : (view own db).lookup (.member l' u) = some row' := hrow'
  exact h.lookup_view (Moves.refl l leaver) hseen

theorem lobbyRow_of_moves (h : Evolves (Moves l leaver) own db) {l' : LobbyID} {row' : LobbyRow}
    (hrow' : lobbyRow (view own db) l' = some row') :
    ∃ row, lobbyRow db l' = some row ∧ Moves l leaver (.lobby l') row row' := by
  have hseen : (view own db).lookup (.lobby l') = some row' := hrow'
  exact h.lookup_view (Moves.refl l leaver) hseen

/-- Nobody comes back with the rows of a transaction. -/
theorem active_of_moves (h : Evolves (Moves l leaver) own db) {l' : LobbyID} {u : UserID}
    (hu : Active (view own db) l' u) : Active db l' u := by
  obtain ⟨row', hrow', hleft'⟩ := hu
  obtain ⟨row, hrow, hmoves⟩ := memberRow_of_moves h hrow'
  refine ⟨row, hrow, ?_⟩
  rcases hmoves with rfl | ⟨-, heq | ⟨-, hne⟩⟩
  · exact hleft'
  · exact heq.symm.trans hleft'
  · exact absurd hleft' hne

/-! ## Statements -/

theorem moves_updateOpenLobby (now : ℕ) {set : LobbyRow → LobbyRow}
    (hset : ∀ row, (set row).ownerUserID = row.ownerUserID) :
    Evolves (Moves l leaver) (updateOpenLobby seen l now set) seen := by
  refine Evolves.of_update (k := .lobby l) (fun (row row' : LobbyRow) h => ?_) seen
  split_ifs at h with hopen
  obtain rfl := Option.some.inj h
  exact .inr ⟨rfl, fun _ => hopen, .inl (hset row)⟩

theorem moves_expireLobby (now : ℕ) : Evolves (Moves l leaver) (expireLobby seen l now) seen :=
  moves_updateOpenLobby now fun _ => rfl

theorem moves_closeLobby (now : ℕ) : Evolves (Moves l leaver) (closeLobby seen l now) seen :=
  moves_updateOpenLobby now fun _ => rfl

theorem moves_touchLobby (now : ℕ) : Evolves (Moves l leaver) (touchLobby seen l now) seen :=
  moves_updateOpenLobby now fun _ => rfl

theorem moves_updateActiveMember (u : UserID) {set : MemberRow → MemberRow} {cond : MemberRow → Bool}
    (hset : ∀ row, (set row).leftAt = row.leftAt ∨ some u = leaver ∧ (set row).leftAt ≠ none) :
    Evolves (Moves l leaver) (updateActiveMember seen l u set cond) seen := by
  refine Evolves.of_update (k := .member l u) (fun (row row' : MemberRow) h => ?_) seen
  by_cases hcond : row.leftAt = none ∧ cond row
  · rw [if_pos hcond] at h
    obtain rfl := Option.some.inj h
    exact .inr ⟨rfl, hset row⟩
  · rw [if_neg hcond] at h
    cases h

theorem moves_markKicked (u : UserID) (now : ℕ) :
    Evolves (Moves l (some u)) (markKicked seen l u now) seen :=
  moves_updateActiveMember u fun _ => .inr ⟨rfl, Option.some_ne_none now⟩

theorem moves_markLeft (u : UserID) (now : ℕ) :
    Evolves (Moves l (some u)) (markLeft seen l u now) seen :=
  moves_updateActiveMember u fun _ => .inr ⟨rfl, Option.some_ne_none now⟩

theorem moves_setRole (u target : UserID) : Evolves (Moves l leaver) (setRole seen l u target) seen :=
  moves_updateActiveMember u fun _ => .inl rfl

theorem moves_setOwner {target : UserID} (now : ℕ) (htarget : some target ≠ leaver) :
    Evolves (Moves l leaver) (setOwner seen l target now) seen := by
  refine Evolves.of_update (k := .lobby l) (fun (row row' : LobbyRow) h => ?_) seen
  obtain rfl := Option.some.inj h
  exact .inr ⟨rfl, id, .inr htarget⟩

theorem moves_ownerTx {target : UserID} (now : ℕ) (e : Moment) (htarget : some target ≠ leaver)
    (at_ : OwnerTxAt) : Evolves (Moves l leaver) (at_.run seen l target now e).1 seen := by
  cases at_ with
  | targetActive | findMembers => exact .empty _ seen
  | setOwner => exact moves_setOwner now htarget
  | setRoles rest =>
      unfold OwnerTxAt.run
      dsimp only
      cases rest[e.choice % rest.length]? with
      | none => exact .empty _ seen
      | some u => exact moves_setRole u target

/-- The transaction has written that the user has left. -/
def Gone (l : LobbyID) (u : UserID) (own : DB) : Prop :=
  ∃ row, memberRow own l u = some row ∧ row.leftAt ≠ none

theorem gone_markLeft {u : UserID} {now : ℕ} (h : rowsAffected (markLeft seen l u now) ≠ 0) :
    Gone l u (view (markLeft seen l u now) own) := by
  have hnone := h ∘ (ReadCommitted.rowsAffected_update seen (.member l u) _).2
  obtain ⟨row', hrow'⟩ := Option.ne_none_iff_exists'.1 hnone
  refine ⟨row', ?_, ?_⟩
  · unfold memberRow
    rw [ReadCommitted.lookup_view, markLeft, updateActiveMember, ReadCommitted.lookup_update_self, hrow',
      Option.some_or]
  · obtain ⟨row, -, hset⟩ := Option.bind_eq_some_iff.1 hrow'
    split_ifs at hset
    obtain rfl := Option.some.inj hset
    exact Option.some_ne_none now

/-- Nobody comes back. -/
theorem Gone.write {u : UserID} (h : Gone l u own) {rows : DB}
    (hrows : Evolves (Moves l leaver) rows (view own db)) : Gone l u (view rows own) := by
  obtain ⟨row, hrow, hleft⟩ := h
  have hseen : (view own db).lookup (.member l u) = some row := by
    unfold memberRow at hrow
    rw [ReadCommitted.lookup_view, hrow, Option.some_or]
  have hown : memberRow (view rows own) l u = (memberRow rows l u).or (memberRow own l u) :=
    ReadCommitted.lookup_view rows own (.member l u)
  cases hr : memberRow rows l u with
  | none => exact ⟨row, by rw [hown, hr, Option.none_or, hrow], hleft⟩
  | some row' =>
      obtain ⟨old, hold, hmoves⟩ := hrows (.member l u) row' hr
      obtain rfl : row = old := Option.some.inj (hseen.symm.trans hold)
      refine ⟨row', by rw [hown, hr, Option.some_or], ?_⟩
      rcases hmoves with rfl | ⟨-, heq | ⟨-, hne⟩⟩
      · exact hleft
      · rwa [heq]
      · exact hne

/-! ## What is committed -/

/-- The rows that a statement commits. -/
inductive Commits (db : DB) (e : Moment) : LobbyProc → DB → Prop
  | nothing (p : LobbyProc) : Commits db e p ∅
  | expire (l : LobbyID) (u : UserID) : Commits db e (.join l u .expire) (expireLobby db l e.now)
  | insert (l : LobbyID) (u : UserID) (role : Role) :
      Commits db e (.join l u (.insert role)) (upsertMember db l u e.now role)
  | touch (l : LobbyID) (u : UserID) : Commits db e (.join l u .touch) (touchLobby db l e.now)
  | kick (l : LobbyID) (owner target : UserID) :
      Commits db e (.kick l owner target .update) (markKicked db l (trim target) e.now)
  | leave (l : LobbyID) (u : UserID) (now : ℕ) (own : DB) : Commits db e (.leave l u now .commit own) own
  | transfer (l : LobbyID) (owner target : UserID) (now : ℕ) (own : DB) :
      Commits db e (.transfer l owner target now .commit own) own

theorem commits_result {P : Type} (own : DB) (s : TxStep P) : (TxStep.result own s).commits = ∅ := by
  unfold TxStep.result
  cases s.2 <;> rfl

theorem commits_run (p : LobbyProc) (db : DB) (e : Moment) : Commits db e p (p.run db e).1 := by
  have hnothing : ∀ {rows : DB}, rows = ∅ → Commits db e p rows := by
    rintro rows rfl
    exact .nothing p
  cases p with
  | join l u at_ =>
      cases at_ with
      | expire => exact .expire l u
      | insert role => exact .insert l u role
      | touch => exact .touch l u
      | count | lobby | read => exact .nothing _
      | ensureOpen =>
          refine hnothing ?_
          dsimp only [LobbyProc.run, JoinAt.run]
          cases lobbyRow db l with
          | none => rfl
          | some row =>
              dsimp only
              split_ifs <;> rfl
  | kick l owner target at_ =>
      cases at_ with
      | update => exact .kick l owner target
      | read => exact .nothing _
      | ensureOwner =>
          refine hnothing ?_
          dsimp only [LobbyProc.run, KickAt.run]
          split_ifs
          · rfl
          · cases ensureLobbyOwner db l (trim owner) <;> rfl
  | leave l u now at_ own =>
      cases at_ with
      | commit => exact .leave l u now own
      | read => exact .nothing _
      | lobby | mark | nextOwner | close | transfer | touch => exact hnothing (commits_result own _)
  | transfer l owner target now at_ own =>
      cases at_ with
      | commit => exact .transfer l owner target now own
      | read => exact .nothing _
      | ensureOwner | transfer => exact hnothing (commits_result own _)

/-! ## Calls -/

/-- What a call of `LeaveLobby` relies on at its next statement. -/
def LeaveAt.Fine (l : LobbyID) (u : UserID) (own : DB) : LeaveAt → Prop
  | .lobby | .mark _ | .read => True
  | .transfer target _ => target ≠ u ∧ Gone l u own
  | .nextOwner | .close | .touch | .commit => Gone l u own

/-- What a call relies on. -/
def LobbyProc.Fine : LobbyProc → DB → Prop
  | .join .., _ | .kick .., _ => True
  | .leave l u _ at_ own, db => Evolves (Moves l (some u)) own db ∧ at_.Fine l u own
  | .transfer l _ _ _ _ own, db => Evolves (Moves l none) own db

theorem result_of_next {P : Type} {s : TxStep P} {next : P} (h : (TxStep.result own s).next = some next) :
    s.2 = some next ∧ TxStep.result own s = { own := view s.1 own, next := some next } := by
  unfold TxStep.result at h ⊢
  cases hs : s.2 with
  | none => rw [hs] at h; cases h
  | some p =>
      rw [hs] at h
      obtain rfl := Option.some.inj h
      exact ⟨rfl, rfl⟩

/-- What is left of a transaction after a statement that it goes on from. -/
theorem evolves_result {P : Type} {s : TxStep P} {next : P}
    (h : (TxStep.result own s).next = some next) (hown : Evolves (Moves l leaver) own db)
    (hs : Evolves (Moves l leaver) s.1 (view own db)) :
    Evolves (Moves l leaver) (TxStep.result own s).own (view (TxStep.result own s).commits db) := by
  rw [(result_of_next h).2, ReadCommitted.view_empty]
  exact hown.write (Moves.refl l leaver) Moves.trans hs

theorem not_target_of_transfers {u next : UserID} (h : transfers u next) : trim next ≠ u := by
  rintro rfl
  exact h.2.2 (trim_trim next)

theorem fine_of_result {u : UserID} {s : TxStep LeaveAt} {at' : LeaveAt} {r : TxResult LeaveAt}
    (hr : r = TxStep.result own s) (hnext : r.next = some at')
    (hown : Evolves (Moves l (some u)) own db) (hrows : Evolves (Moves l (some u)) s.1 (view own db))
    (hfine : s.2 = some at' → at'.Fine l u (view s.1 own)) :
    Evolves (Moves l (some u)) r.own (view r.commits db) ∧ at'.Fine l u r.own := by
  subst hr
  obtain ⟨hs, heq⟩ := result_of_next hnext
  refine ⟨evolves_result hnext hown hrows, ?_⟩
  rw [heq]
  exact hfine hs

/-- What is left of a call of `LeaveLobby` has what it relies on. -/
theorem leave_fine {u : UserID} {now : ℕ} {e : Moment} {at_ at' : LeaveAt}
    (hown : Evolves (Moves l (some u)) own db) (hfine : at_.Fine l u own)
    (hnext : (at_.run own db l u now e).next = some at') :
    Evolves (Moves l (some u)) (at_.run own db l u now e).own (view (at_.run own db l u now e).commits db) ∧
      at'.Fine l u (at_.run own db l u now e).own := by
  cases at_ with
  | lobby =>
      refine fine_of_result rfl hnext hown ?_ ?_
      · cases lobbyRow (view own db) l with
        | none => exact .empty _ _
        | some row =>
            dsimp only
            split <;> exact .empty _ _
      · cases lobbyRow (view own db) l with
        | none => intro h; cases h
        | some row =>
            dsimp only
            split
            · intro h
              cases h
            · intro h
              obtain rfl := Option.some.inj h
              trivial
  | mark owns =>
      refine fine_of_result rfl hnext hown (moves_markLeft u now) fun h => ?_
      dsimp only at h ⊢
      split at h
      · cases h
      · rename_i hrows
        have hgone := @gone_markLeft l (view own db) own u now hrows
        obtain rfl := Option.some.inj h
        cases owns <;> exact hgone
  | nextOwner =>
      refine fine_of_result rfl hnext hown ?_ ?_
      · cases Persistence.nextOwner (view own db) l e.choice with
        | none => exact .empty _ _
        | some next =>
            dsimp only
            split <;> exact .empty _ _
      · cases Persistence.nextOwner (view own db) l e.choice with
        | none =>
            intro h
            obtain rfl := Option.some.inj h
            rw [ReadCommitted.view_empty]
            exact hfine
        | some next =>
            dsimp only
            split
            · rename_i htransfers
              intro h
              obtain rfl := Option.some.inj h
              rw [ReadCommitted.view_empty]
              exact ⟨not_target_of_transfers htransfers, hfine⟩
            · intro h
              cases h
  | close =>
      have hrows := @moves_closeLobby l (some u) (view own db) now
      refine fine_of_result (s := (closeLobby (view own db) l now, some .touch)) rfl hnext hown hrows
        fun h => ?_
      obtain rfl := Option.some.inj h
      exact Gone.write hfine hrows
  | transfer target at_ =>
      have hrows := @moves_ownerTx l (some u) (view own db) target now e
        (fun h => hfine.1 (Option.some.inj h)) at_
      refine fine_of_result rfl hnext hown hrows fun h => ?_
      have hgone := hfine.2.write hrows
      obtain ⟨next, -, hat⟩ := Option.map_eq_some_iff.1 h
      cases next with
      | none =>
          obtain rfl : LeaveAt.touch = at' := hat
          exact hgone
      | some next =>
          obtain rfl : LeaveAt.transfer target next = at' := hat
          exact ⟨hfine.1, hgone⟩
  | touch =>
      have hrows := @moves_touchLobby l (some u) (view own db) now
      refine fine_of_result (s := (touchLobby (view own db) l now, some .commit)) rfl hnext hown hrows
        fun h => ?_
      obtain rfl := Option.some.inj h
      exact Gone.write hfine hrows
  | commit =>
      obtain rfl := Option.some.inj hnext
      exact ⟨.empty _ _, trivial⟩
  | read => cases hnext

theorem transfer_fine {owner target : UserID} {now : ℕ} {e : Moment} {at_ at' : TransferAt}
    (hown : Evolves (Moves l none) own db)
    (hnext : (at_.run own db l owner target now e).next = some at') :
    Evolves (Moves l none) (at_.run own db l owner target now e).own
      (view (at_.run own db l owner target now e).commits db) := by
  cases at_ with
  | ensureOwner =>
      refine evolves_result hnext hown ?_
      cases ensureLobbyOwner (view own db) l owner <;> exact .empty _ _
  | transfer at_ =>
      exact evolves_result hnext hown (moves_ownerTx now e (Option.some_ne_none _) at_)
  | commit =>
      obtain rfl := Option.some.inj hnext
      exact .empty _ _
  | read => cases hnext

/-- Every call has what it relies on, whatever the others do. -/
theorem lobby_local : ReadCommitted.World.Local lobbyProgram LobbyProc.Fine where
  begin c db := by
    cases c with
    | joinLobby | kickLobbyMember => trivial
    | leaveLobby => exact ⟨.empty _ db, trivial⟩
    | transferLobbyOwner => exact .empty _ db
  run p db e p' hp hnext := by
    cases p with
    | join l u at_ =>
        obtain ⟨at', -, rfl⟩ := Option.map_eq_some_iff.1 hnext
        trivial
    | leave l u now at_ own =>
        obtain ⟨at', hat, rfl⟩ := Option.map_eq_some_iff.1 hnext
        exact leave_fine hp.1 hp.2 hat
    | kick l owner target at_ =>
        obtain ⟨at', -, rfl⟩ := Option.map_eq_some_iff.1 hnext
        trivial
    | transfer l owner target now at_ own =>
        obtain ⟨at', hat, rfl⟩ := Option.map_eq_some_iff.1 hnext
        exact transfer_fine hp hat
  frame q db rows hq hfree := by
    cases q with
    | join | kick => trivial
    | leave l u now at_ own => exact ⟨hq.1.frame hfree, hq.2⟩
    | transfer l owner target now at_ own => exact Evolves.frame hq hfree

end GeoDuels.Persistence
