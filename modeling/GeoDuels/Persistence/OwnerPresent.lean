import GeoDuels.Persistence.Interleaved

/-!
# The owner is one of the members

`LeaveLobby`, `KickLobbyMember` and `TransferLobbyOwner` read who owns a lobby, or who is one of its
members, before they write.  The owner of every open lobby stays one of its active members exactly when
what they have read still holds when they commit (`ownersActive_iff`).
-/

namespace GeoDuels.Persistence.OwnerPresent

open ReadCommitted (view update rowsAffected Evolves)

/-- The owner of every open lobby is one of its active members. -/
def OwnersActive (db : DB) : Prop :=
  ∀ l row, lobbyRow db l = some row → row.state = .open_ → Active db l row.ownerUserID

/-- A transaction on the lobby `l` does not leave it to the one whom it takes out, and the user to whom
it hands it over is still a member. -/
def HandsOver (l : LobbyID) (leaver : Option UserID) (own db : DB) : Prop :=
  ∀ row ∈ lobbyRow db l, ∀ row' ∈ lobbyRow (view own db) l, row'.state = .open_ →
    some row'.ownerUserID ≠ leaver ∧
      (row'.ownerUserID ≠ row.ownerUserID → Active db l row'.ownerUserID)

/-- The member has the role of the owner, if the open lobby is owned by it. -/
def Spared (db : DB) (l : LobbyID) (target : UserID) : Prop :=
  ∀ row ∈ lobbyRow db l, row.state = .open_ → row.ownerUserID = target →
    ∀ member ∈ memberRow db l target, member.role = .owner

/-- What was read of the owner still holds when a transaction commits, or when a member is kicked. -/
def StillHolds : LobbyProc → DB → Moment → Prop
  | .leave l u _ .commit own, db, _ => HandsOver l (some u) own db
  | .transfer l _ _ _ .commit own, db, _ => HandsOver l none own db
  | .kick l _ target .update, db, _ => Spared db l (trim target)
  | _, _, _ => True

instance (l : LobbyID) (leaver : Option UserID) (own db : DB) : Decidable (HandsOver l leaver own db) :=
  inferInstanceAs (Decidable (∀ row ∈ lobbyRow db l, ∀ row' ∈ lobbyRow (view own db) l, _ → _))

instance (db : DB) (l : LobbyID) (target : UserID) : Decidable (Spared db l target) :=
  inferInstanceAs (Decidable (∀ row ∈ lobbyRow db l, _ → _ → ∀ member ∈ memberRow db l target, _))

instance StillHolds.decidable (p : LobbyProc) (db : DB) (e : Moment) : Decidable (StillHolds p db e) :=
  match p with
  | .leave l u _ .commit own => inferInstanceAs (Decidable (HandsOver l (some u) own db))
  | .transfer l _ _ _ .commit own => inferInstanceAs (Decidable (HandsOver l none own db))
  | .kick l _ target .update => inferInstanceAs (Decidable (Spared db l (trim target)))
  | .join .. | .kick _ _ _ .ensureOwner | .kick _ _ _ .read | .transfer _ _ _ _ .ensureOwner _
  | .transfer _ _ _ _ (.transfer _) _ | .transfer _ _ _ _ .read _ | .leave _ _ _ .lobby _
  | .leave _ _ _ (.mark _) _ | .leave _ _ _ .nextOwner _ | .leave _ _ _ .close _
  | .leave _ _ _ (.transfer _ _) _ | .leave _ _ _ .touch _ | .leave _ _ _ .read _ => .isTrue trivial

instance (w : LobbyWorld) (as : List LobbyAct) :
    Decidable (ReadCommitted.World.StatementsMeet StillHolds w as) :=
  @ReadCommitted.World.StatementsMeet.decidable _ Row _ lobbyProgram StillHolds StillHolds.decidable w as

variable {own db : DB} {l l' : LobbyID} {u u' : UserID} {leaver : Option UserID}

/-! ## Transactions -/

/-- Those whom a transaction does not take out are still there. -/
theorem active_view (hrows : Evolves (Moves l leaver) own db) (hu : Active db l' u)
    (hne : l' = l → some u ≠ leaver) : Active (view own db) l' u := by
  obtain ⟨row, hrow, hleft⟩ := hu
  have hview : memberRow (view own db) l' u = (memberRow own l' u).or (memberRow db l' u) :=
    ReadCommitted.lookup_view own db (.member l' u)
  cases ho : memberRow own l' u with
  | none => exact ⟨row, by rw [hview, ho, hrow, Option.none_or], hleft⟩
  | some row' =>
      obtain ⟨old, hold, hmoves⟩ := hrows (.member l' u) row' ho
      obtain rfl : row = old := Option.some.inj (hrow.symm.trans hold)
      refine ⟨row', by rw [hview, ho, Option.some_or], ?_⟩
      rcases hmoves with rfl | ⟨hl, heq | hgone⟩
      · exact hleft
      · exact heq.trans hleft
      · exact absurd hgone.1 (hne hl)

theorem not_active_of_gone (h : Gone l u own) : ¬ Active (view own db) l u := by
  rintro ⟨row', hrow', hleft'⟩
  obtain ⟨row, hrow, hleft⟩ := h
  have hview : memberRow (view own db) l u = (memberRow own l u).or (memberRow db l u) :=
    ReadCommitted.lookup_view own db (.member l u)
  rw [hview, hrow, Option.some_or] at hrow'
  obtain rfl := Option.some.inj hrow'
  exact hleft hleft'

theorem ownersActive_view (h : OwnersActive db) (hrows : Evolves (Moves l leaver) own db)
    (hover : HandsOver l leaver own db) : OwnersActive (view own db) := by
  intro l' row' hrow' hopen'
  obtain ⟨row, hrow, hmoves⟩ := lobbyRow_of_moves hrows hrow'
  by_cases hl : l' = l
  · subst hl
    obtain ⟨hne, hchanged⟩ := hover row hrow row' hrow' hopen'
    refine active_view hrows ?_ fun _ => hne
    by_cases howner : row'.ownerUserID = row.ownerUserID
    · rw [howner]
      refine h l' row hrow ?_
      rcases hmoves with rfl | hmoves
      · exact hopen'
      · exact hmoves.2.1 hopen'
    · exact hchanged howner
  · rcases hmoves with rfl | hmoves
    · exact active_view hrows (h l' row' hrow hopen') fun heq => absurd heq hl
    · exact absurd hmoves.1 hl

theorem handsOver_of_ownersActive (hrows : Evolves (Moves l leaver) own db)
    (hgone : ∀ u, some u = leaver → Gone l u own) (h : OwnersActive (view own db)) :
    HandsOver l leaver own db := by
  intro row hrow row' hrow' hopen'
  have hactive := h l row' hrow' hopen'
  refine ⟨fun hleaver => ?_, fun _ => active_of_moves hrows hactive⟩
  exact not_active_of_gone (hgone _ hleaver) hactive

/-- Rows that take nobody out and leave the owner as it is. -/
theorem handsOver_updateOpenLobby (now : ℕ) {set : LobbyRow → LobbyRow}
    (hset : ∀ row, (set row).ownerUserID = row.ownerUserID) :
    HandsOver l none (updateOpenLobby db l now set) db := by
  intro row hrow row' hrow' hopen'
  refine ⟨Option.some_ne_none _, fun hne => absurd ?_ hne⟩
  rw [Option.mem_def, lobbyRow_updateOpenLobby, if_pos rfl, hrow, Option.map_some] at hrow'
  obtain rfl := Option.some.inj hrow'
  split_ifs
  · exact hset row
  · rfl

/-! ## Kicked members -/

theorem active_markKicked (now : ℕ) : Active (view (markKicked db l u now) db) l' u' ↔
    Active db l' u' ∧ (l' = l ∧ u' = u → ∀ row ∈ memberRow db l u, row.role = .owner) := by
  unfold Active markKicked
  rw [memberRow_updateActiveMember]
  by_cases h : l' = l ∧ u' = u
  · rw [if_pos h, h.1, h.2]
    cases memberRow db l u with
    | none => simp
    | some row =>
        by_cases hleft : row.leftAt = none <;> by_cases hrole : row.role = .owner <;> simp [hleft, hrole]
  · rw [if_neg h]
    exact (and_iff_left fun heq => absurd heq h).symm

theorem ownersActive_markKicked (h : OwnersActive db) (now : ℕ) :
    OwnersActive (view (markKicked db l u now) db) ↔ Spared db l u := by
  have hlobby : ∀ l', lobbyRow (view (markKicked db l u now) db) l' = lobbyRow db l' := fun l' =>
    lobbyRow_updateActiveMember db l l' u db _ _
  constructor
  · intro h' row hrow hopen howner member hmember
    have hactive := h' l row ((hlobby l).trans hrow) hopen
    rw [howner, active_markKicked] at hactive
    exact hactive.2 ⟨rfl, rfl⟩ member hmember
  · intro hspared l' row hrow hopen
    rw [hlobby] at hrow
    rw [active_markKicked]
    refine ⟨h l' row hrow hopen, ?_⟩
    rintro ⟨rfl, howner⟩ member hmember
    exact hspared row hrow hopen howner member hmember

/-! ## All calls -/

theorem ownersActive_run {p : LobbyProc} {e : Moment} (hp : p.Fine db) (h : OwnersActive db)
    (hstill : StillHolds p db e) : OwnersActive (view (p.run db e).1 db) := by
  have hcommits := commits_run p db e
  generalize (p.run db e).1 = rows at hcommits
  cases hcommits with
  | nothing => rwa [ReadCommitted.view_empty]
  | expire l u =>
      exact ownersActive_view h (moves_expireLobby e.now) (handsOver_updateOpenLobby e.now fun _ => rfl)
  | touch l u =>
      exact ownersActive_view h (moves_touchLobby e.now) (handsOver_updateOpenLobby e.now fun _ => rfl)
  | kick l owner target => exact (ownersActive_markKicked h e.now).2 hstill
  | leave l u now own => exact ownersActive_view h hp.1 hstill
  | transfer l owner target now own => exact ownersActive_view h hp hstill
  | insert l u role =>
      intro l' row hrow hopen
      rw [lobbyRow_upsertMember] at hrow
      rw [active_upsertMember]
      exact .inr (h l' row hrow hopen)

theorem not_ownersActive_run {p : LobbyProc} {e : Moment} (hp : p.Fine db) (h : OwnersActive db)
    (hstill : ¬ StillHolds p db e) : ¬ OwnersActive (view (p.run db e).1 db) := by
  intro h'
  apply hstill
  cases p with
  | join => trivial
  | leave l u now at_ own =>
      cases at_ with
      | commit =>
          refine handsOver_of_ownersActive hp.1 (fun v hv => ?_) h'
          obtain rfl := Option.some.inj hv
          exact hp.2
      | lobby | mark | nextOwner | close | transfer | touch | read => trivial
  | kick l owner target at_ =>
      cases at_ with
      | update => exact (ownersActive_markKicked h e.now).1 h'
      | ensureOwner | read => trivial
  | transfer l owner target now at_ own =>
      cases at_ with
      | commit => exact handsOver_of_ownersActive hp (fun v hv => absurd hv (Option.some_ne_none v)) h'
      | ensureOwner | transfer | read => trivial

/-- From a database in which the owners of the open lobbies are active members, all the states of a run of
concurrent calls are like this exactly when what they have read of the owner still holds. -/
theorem ownersActive_iff (hdb : OwnersActive db) (as : List LobbyAct) :
    Run.Always ReadCommitted.World.step (fun w : LobbyWorld => OwnersActive w.db) ⟨db, ∅⟩ as ↔
      ReadCommitted.World.StatementsMeet StillHolds (⟨db, ∅⟩ : LobbyWorld) as := by
  refine ReadCommitted.World.always_iff_meet lobby_local (fun p db e hp h hstill => ?_)
    (fun p db e hp h hstill => ?_) (ReadCommitted.World.Inv.init db) hdb as
  · exact ownersActive_run hp h hstill
  · exact not_ownersActive_run hp h hstill

/-! ### The owner and the other member -/

/-- An open lobby of `a`, in which `b` is too. -/
def twoMembers : DB :=
  let lobby : LobbyRow :=
    { inviteCode := "ABCDEF", ownerUserID := "a", mode := .duel, mapScope := "world"
      createdAt := 0, expiresAt := 1000, updatedAt := 0 }
  let member (role : Role) : MemberRow := { role := role, teamID := some "a", joinedAt := 0 }
  AList.insert (.member "l" "b") (member .member)
    (AList.insert (.member "l" "a") (member .owner) (AList.insert (.lobby "l") lobby ∅))

theorem ownersActive_twoMembers : OwnersActive twoMembers := by
  intro l row hrow _
  by_cases hl : l = "l"
  · subst hl
    obtain rfl := Option.some.inj hrow
    decide
  · have hne : RowKey.lobby l ≠ .lobby "l" := by simpa using hl
    unfold twoMembers lobbyRow at hrow
    rw [AList.lookup_insert_ne (by simp), AList.lookup_insert_ne (by simp),
      AList.lookup_insert_ne hne, AList.lookup_empty] at hrow
    cases hrow

/-- The owner leaves after the start of a call that kicks the other member. -/
def leaveAndKick : List LobbyAct :=
  [.start 0 (.leaveLobby "l" "a" 1), .start 1 (.kickLobbyMember "l" "a" "b")] ++
    [1, 0, 0, 0, 0, 0, 0, 0, 0, 0, 1, 0].map fun id => .run id {}

theorem ownersActive_leaveAndKick : Run.Always ReadCommitted.World.step
    (fun w : LobbyWorld => OwnersActive w.db) ⟨twoMembers, ∅⟩ leaveAndKick :=
  (ownersActive_iff ownersActive_twoMembers leaveAndKick).2 (by decide +kernel)

/-- `b` leaves after `transferLobbyOwnerTx` has found it among the members. -/
def transferAndLeave : List LobbyAct :=
  [.start 0 (.transferLobbyOwner "l" "a" "b" 1), .start 1 (.leaveLobby "l" "b" 2)] ++
    [0, 0, 1, 1, 1, 1, 0, 0, 0, 0].map fun id => .run id {}

theorem not_ownersActive_transferAndLeave : ¬ ∀ db, OwnersActive db → ∀ as : List LobbyAct,
    Run.Always ReadCommitted.World.step (fun w : LobbyWorld => OwnersActive w.db) ⟨db, ∅⟩ as := by
  intro h
  have hrun : ∃ w ∈ Run.exec ReadCommitted.World.step (⟨twoMembers, ∅⟩ : LobbyWorld) transferAndLeave,
      ∃ row ∈ lobbyRow w.db "l", row.state = .open_ ∧ ¬ Active w.db "l" row.ownerUserID := by
    decide +kernel
  obtain ⟨w, hw, row, hrow, hopen, hleft⟩ := hrun
  exact hleft ((h twoMembers ownersActive_twoMembers transferAndLeave).exec hw "l" row hrow hopen)

end GeoDuels.Persistence.OwnerPresent
