import GeoDuels.Persistence.Spec

/-!
# The owner of a lobby

Who owns a lobby stands in its own row and in the roles of its members.  The operations keep the two
in agreement for the members who are there (`Owned`), one operation at a time, with one exception: an
owner who leaves keeps the role in his row, and gets it back with the row when he returns
(`oneOwner_iff`).
-/

namespace GeoDuels.Persistence.OneOwner

open Coordinator (isBlank isSpace trimSpace)
open MatchCoordinator (LobbyState)
open ReadCommitted (view update rowsAffected)

/-- The one active member with the role of an owner is `owner`. -/
structure Owned (db : DB) (l : LobbyID) (owner : UserID) : Prop where
  owns : ∃ row, memberRow db l owner = some row ∧ row.leftAt = none ∧ row.role = .owner
  only : ∀ u row, memberRow db l u = some row → row.leftAt = none → row.role = .owner → u = owner

/-- The owner can take the member out of the lobby. -/
def KicksOut (db : DB) (l : LobbyID) (owner u : UserID) : Prop :=
  ∀ now, ∃ snap db', kickLobbyMember db l now owner u = (.ok snap, db') ∧ ¬ Active db' l u

/-- Every open lobby has exactly one owner among its active members, its `owner_user_id`, who can kick
everybody else. -/
def HasOneOwner (db : DB) : Prop :=
  ∀ l row, lobbyRow db l = some row → row.state = .open_ → Owned db l row.ownerUserID ∧
    ∀ u, Active db l u → u ≠ row.ownerUserID → KicksOut db l row.ownerUserID u

/-! ## Operations -/

inductive Op where
  | createLobby (ownerUserID : UserID) (mode : MatchMode) (mapScope : String) (ttl : ℤ)
      (draws : ℕ → List (Fin 16) × List ℕ) (now : ℕ → ℕ)
  | joinLobby (lobbyID : LobbyID) (userID : UserID) (now : ℕ → ℕ)
  | leaveLobby (lobbyID : LobbyID) (userID : UserID) (now tie : ℕ)
  | kickLobbyMember (lobbyID : LobbyID) (ownerUserID targetUserID : UserID) (now : ℕ)
  | transferLobbyOwner (lobbyID : LobbyID) (ownerUserID targetUserID : UserID) (now : ℕ)
  | setLobbyMemberTeam (lobbyID : LobbyID) (userID : UserID) (teamID : TeamID) (now : ℕ → ℕ)
  | markLobbyInMatch (lobbyID : LobbyID) (matchID : MatchID) (now : ℕ)
  | reopenEndedLobbies (ended : MatchID → Bool) (now : ℕ)

/-- The database after the operation. -/
def Op.run (db : DB) : Op → DB
  | .createLobby ownerUserID mode mapScope ttl draws now =>
      (Persistence.createLobby db ownerUserID mode mapScope ttl draws now).2
  | .joinLobby lobbyID userID now => (Persistence.joinLobby db lobbyID userID now).2
  | .leaveLobby lobbyID userID now tie => (Persistence.leaveLobby db lobbyID userID now tie).2
  | .kickLobbyMember lobbyID ownerUserID targetUserID now =>
      (Persistence.kickLobbyMember db lobbyID now ownerUserID targetUserID).2
  | .transferLobbyOwner lobbyID ownerUserID targetUserID now =>
      (Persistence.transferLobbyOwner db lobbyID now ownerUserID targetUserID).2
  | .setLobbyMemberTeam lobbyID userID teamID now =>
      (Persistence.setLobbyMemberTeam db lobbyID userID teamID now).2
  | .markLobbyInMatch lobbyID matchID now =>
      (Persistence.markLobbyInMatch db lobbyID now matchID).2
  | .reopenEndedLobbies ended now => (Persistence.reopenEndedLobbies db now ended).2

def step (db : DB) (op : Op) : Option DB := some (op.run db)

/-- An id that `strings.TrimSpace` leaves as it is. -/
def Trimmed (s : String) : Prop := trim s = s ∧ s ≠ ""

/-- `JoinLobby` gets as far as its insert. -/
def Admits (db : DB) (l : LobbyID) (u : UserID) (now : ℕ → ℕ) : Prop :=
  (ensureLobbyOpen db l now).1 = .ok () ∧ countOthers db l u < 8

/-- Nobody comes in whose row still says that he is the owner of a lobby that somebody else owns, and
nobody under an id with white space around it. -/
def Clean (db : DB) : Op → Prop
  | .joinLobby l u now => Admits db l u now → Trimmed u ∧ ∀ row m, lobbyRow db l = some row →
      memberRow db l u = some m → m.role = .owner → row.ownerUserID = u
  | _ => True

/-! ## The invariant -/

/-- The lobby is open or will be again. -/
def Live (state : LobbyState) : Prop := state = .open_ ∨ state = .inMatch ∨ state = .started

/-- Only a lobby has members, and its owner and their roles agree as long as it may be open again. -/
structure Good (db : DB) (l : LobbyID) : Prop where
  orphan : lobbyRow db l = none → ∀ u, memberRow db l u = none
  row : ∀ row, lobbyRow db l = some row → Trimmed l ∧
    (Live row.state → Owned db l row.ownerUserID ∧ ∀ u, Active db l u → Trimmed u)

/-- What is said of the lobby by its owner, its state and the roles and departures of its members does
not change, except that the lobby may close. -/
structure Quiet (db db' : DB) (l : LobbyID) : Prop where
  lobby : ∀ row', lobbyRow db' l = some row' → ∃ row, lobbyRow db l = some row ∧
    row'.ownerUserID = row.ownerUserID ∧ (Live row'.state → Live row.state)
  missing : lobbyRow db' l = none → lobbyRow db l = none
  member : ∀ u, (memberRow db' l u).map (fun row => (row.role, row.leftAt)) =
    (memberRow db l u).map fun row => (row.role, row.leftAt)

variable {db db' db'' : DB} {l l' : LobbyID} {u : UserID}

namespace Quiet

theorem refl (db : DB) (l : LobbyID) : Quiet db db l :=
  ⟨fun row h => ⟨row, h, rfl, id⟩, id, fun _ => rfl⟩

theorem trans (h : Quiet db db' l) (h' : Quiet db' db'' l) : Quiet db db'' l := by
  refine ⟨fun row'' hrow'' => ?_, h.missing ∘ h'.missing, fun u => (h'.member u).trans (h.member u)⟩
  obtain ⟨row', hrow', howner', hlive'⟩ := h'.lobby row'' hrow''
  obtain ⟨row, hrow, howner, hlive⟩ := h.lobby row' hrow'
  exact ⟨row, hrow, howner'.trans howner, hlive ∘ hlive'⟩

theorem of_eq (hl : lobbyRow db' l = lobbyRow db l) (hm : ∀ u, memberRow db' l u = memberRow db l u) :
    Quiet db db' l :=
  ⟨fun row h => ⟨row, hl ▸ h, rfl, id⟩, fun h => hl ▸ h, fun u => by rw [hm]⟩

/-- A row after a quiet change comes from one with the same role and departure. -/
theorem row_of (h : Quiet db db' l) {row' : MemberRow} (hrow' : memberRow db' l u = some row') :
    ∃ row, memberRow db l u = some row ∧ row.role = row'.role ∧ row.leftAt = row'.leftAt := by
  have hm := h.member u
  rw [hrow', Option.map_some] at hm
  obtain ⟨row, hrow, heq⟩ := Option.map_eq_some_iff.1 hm.symm
  exact ⟨row, hrow, congrArg Prod.fst heq, congrArg Prod.snd heq⟩

theorem symm_row_of (h : Quiet db db' l) {row : MemberRow} (hrow : memberRow db l u = some row) :
    ∃ row', memberRow db' l u = some row' ∧ row'.role = row.role ∧ row'.leftAt = row.leftAt := by
  have hm := h.member u
  rw [hrow, Option.map_some] at hm
  obtain ⟨row', hrow', heq⟩ := Option.map_eq_some_iff.1 hm
  exact ⟨row', hrow', congrArg Prod.fst heq, congrArg Prod.snd heq⟩

theorem good (h : Quiet db db' l) (hdb : Good db l) : Good db' l := by
  refine ⟨fun hnone u => ?_, fun row' hrow' => ?_⟩
  · have hm := h.member u
    rw [hdb.orphan (h.missing hnone) u, Option.map_none] at hm
    exact Option.map_eq_none_iff.1 hm
  obtain ⟨row, hrow, howner, hlive⟩ := h.lobby row' hrow'
  obtain ⟨htrim, hgood⟩ := hdb.row row hrow
  refine ⟨htrim, fun hl => ?_⟩
  obtain ⟨⟨⟨m, hm, hleft, hrole⟩, honly⟩, hclean⟩ := hgood (hlive hl)
  rw [howner]
  refine ⟨⟨?_, fun u m' hm' hleft' hrole' => ?_⟩, ?_⟩
  · obtain ⟨m', hm', hrole', hleft'⟩ := h.symm_row_of hm
    exact ⟨m', hm', hleft'.trans hleft, hrole'.trans hrole⟩
  · obtain ⟨m, hm, hr, hl⟩ := h.row_of hm'
    exact honly u m hm (hl.trans hleft') (hr.trans hrole')
  · rintro u ⟨m', hm', hleft'⟩
    obtain ⟨m, hm, -, hl⟩ := h.row_of hm'
    exact hclean u ⟨m, hm, hl.trans hleft'⟩

end Quiet

/-- A statement on an open lobby that leaves its owner. -/
theorem quiet_updateOpenLobby (db : DB) (l l' : LobbyID) (now : ℕ) (set : LobbyRow → LobbyRow)
    (hset : ∀ row, (set row).ownerUserID = row.ownerUserID) :
    Quiet db (view (updateOpenLobby db l now set) db) l' := by
  refine ⟨fun row' hrow' => ?_, fun hnone => ?_, fun u => by simp⟩
  swap
  · rw [lobbyRow_updateOpenLobby] at hnone
    split_ifs at hnone
    · exact Option.map_eq_none_iff.1 hnone
    · exact hnone
  rw [lobbyRow_updateOpenLobby] at hrow'
  by_cases hl : l' = l
  · rw [if_pos hl] at hrow'
    obtain ⟨row, hrow, rfl⟩ := Option.map_eq_some_iff.1 hrow'
    refine ⟨row, hrow, ?_⟩
    split_ifs with hopen
    · exact ⟨hset row, fun _ => .inl hopen⟩
    · exact ⟨rfl, id⟩
  · rw [if_neg hl] at hrow'
    exact ⟨row', hrow', rfl, id⟩

theorem quiet_updateMember (db : DB) (l l' : LobbyID) (u : UserID) (f : MemberRow → Option MemberRow)
    (hf : ∀ row row', f row = some row' → row'.role = row.role ∧ row'.leftAt = row.leftAt) :
    Quiet db (view (update db (.member l u) f) db) l' := by
  refine ⟨fun row h => ⟨row, by simpa using h, rfl, id⟩, fun h => by simpa using h, fun v => ?_⟩
  rw [memberRow_updateMember]
  split_ifs with h
  · rw [Option.map_map]
    congr 1
    funext row
    cases hrow : f row with
    | none => simp [hrow]
    | some row' => simp [hrow, hf row row' hrow]
  · rfl

theorem quiet_touchLobby (db : DB) (l l' : LobbyID) (now : ℕ) :
    Quiet db (view (touchLobby db l now) db) l' :=
  quiet_updateOpenLobby db l l' now id fun _ => rfl

theorem quiet_ensureLobbyOpen (db : DB) (l l' : LobbyID) (now : ℕ → ℕ) :
    Quiet db (view (ensureLobbyOpen db l now).2 db) l' := by
  unfold ensureLobbyOpen
  cases lobbyRow db l with
  | none =>
      rw [ReadCommitted.view_empty]
      exact .refl db l'
  | some row =>
      dsimp only
      split_ifs
      · rw [ReadCommitted.view_empty]
        exact .refl db l'
      · exact quiet_updateOpenLobby db l l' (now 1) _ fun _ => rfl
      · rw [ReadCommitted.view_empty]
        exact .refl db l'

/-- A fold of quiet changes. -/
theorem quiet_foldl {α : Type} (f : DB → α → DB) (as : List α)
    (hf : ∀ db, ∀ a ∈ as, Quiet db (f db a) l) (db : DB) : Quiet db (as.foldl f db) l := by
  induction as generalizing db with
  | nil => exact .refl db l
  | cons a as ih =>
      have hrest := ih (fun db b hb => hf db b (List.mem_cons_of_mem a hb)) (f db a)
      exact (hf db a List.mem_cons_self).trans hrest

/-! ## Quiet operations -/

theorem quiet_setLobbyMemberTeam (db : DB) (l' : LobbyID) (u : UserID) (teamID : TeamID)
    (now : ℕ → ℕ) : Quiet db (setLobbyMemberTeam db l u teamID now).2 l' := by
  unfold setLobbyMemberTeam
  dsimp only
  split
  · exact .refl db l'
  · have hopen := quiet_ensureLobbyOpen db (trim l) l' now
    generalize ensureLobbyOpen db (trim l) now = r at hopen ⊢
    obtain ⟨res, rows⟩ := r
    cases res with
    | error err => exact hopen
    | ok _ =>
        dsimp only
        split_ifs
        · exact .refl db l'
        · refine (quiet_updateMember db (trim l) l' (trim u) _ fun row row' h => ?_).trans
            (quiet_touchLobby _ (trim l) l' (now 2))
          split_ifs at h
          obtain rfl := Option.some.inj h
          exact ⟨rfl, rfl⟩

theorem quiet_markLobbyInMatch (db : DB) (l' : LobbyID) (now : ℕ) (matchID : MatchID) :
    Quiet db (markLobbyInMatch db l now matchID).2 l' := by
  unfold markLobbyInMatch
  dsimp only
  split_ifs
  · exact .refl db l'
  · exact quiet_updateOpenLobby db l l' now _ fun _ => rfl

theorem live_of_mem_endedLobbies {ended : MatchID → Bool} (h : l ∈ endedLobbies db ended)
    {row : LobbyRow} (hrow : lobbyRow db l = some row) : Live row.state := by
  unfold endedLobbies at h
  obtain ⟨⟨k, row'⟩, he, hk⟩ := List.mem_filterMap.1 h
  cases k with
  | member l' u => cases hk
  | lobby id =>
      dsimp only at hk
      split_ifs at hk with hended
      obtain rfl := Option.some.inj hk
      obtain rfl : row' = row := Option.some.inj ((AList.mem_lookup_iff.2 he).symm.trans hrow)
      unfold LobbyRow.hasEnded at hended
      simp only [Bool.and_eq_true, Bool.or_eq_true, decide_eq_true_eq] at hended
      exact .inr hended.1

theorem quiet_reopenEndedLobbies (db : DB) (l : LobbyID) (now : ℕ) (ended : MatchID → Bool) :
    Quiet db (reopenEndedLobbies db now ended).2 l := by
  unfold reopenEndedLobbies
  dsimp only
  have hids : ∀ id ∈ endedLobbies db ended, ∀ row, lobbyRow db id = some row → Live row.state :=
    fun id hid row hrow => live_of_mem_endedLobbies hid hrow
  generalize (endedLobbies db ended).flatMap _ = ks
  have hmembers : ∀ db : DB, Quiet db (ks.foldl (fun db k =>
      view (update db (.member k.1 k.2) fun row : MemberRow => some { row with ready := false }) db) db)
        l := by
    refine fun db => quiet_foldl _ ks (fun db k _ => ?_) db
    refine quiet_updateMember db k.1 l k.2 _ fun row row' h => ?_
    obtain rfl := Option.some.inj h
    exact ⟨rfl, rfl⟩
  refine Quiet.trans ?_ (hmembers _)
  generalize endedLobbies db ended = ids at hids
  -- a lobby that is reopened was live, and is so for the rest of the list
  induction ids generalizing db with
  | nil => exact .refl db l
  | cons id ids ih =>
      have hrow : ∀ l', lobbyRow (view (update db (.lobby id) fun row : LobbyRow =>
          some (row.reopen now)) db) l' =
            if l' = id then (lobbyRow db l').map (·.reopen now) else lobbyRow db l' :=
        lobbyRow_updateLobby (fun row => some (row.reopen now)) db id
      have hfirst : Quiet db (view (update db (.lobby id) fun row : LobbyRow =>
          some (row.reopen now)) db) l := by
        refine ⟨fun row' hrow' => ?_, fun hnone => ?_, fun u => by simp⟩
        swap
        · rw [hrow] at hnone
          split_ifs at hnone
          · exact Option.map_eq_none_iff.1 hnone
          · exact hnone
        rw [hrow] at hrow'
        split_ifs at hrow' with hl
        · obtain ⟨row, hrow, rfl⟩ := Option.map_eq_some_iff.1 hrow'
          exact ⟨row, hrow, rfl, fun _ => hids id List.mem_cons_self row (hl ▸ hrow)⟩
        · exact ⟨row', hrow', rfl, fun h => h⟩
      refine hfirst.trans (ih _ fun id' hid' row' hrow' => ?_)
      rw [hrow] at hrow'
      split_ifs at hrow' with hl
      · obtain ⟨row, -, rfl⟩ := Option.map_eq_some_iff.1 hrow'
        exact .inl rfl
      · exact hids id' (List.mem_cons_of_mem id hid') row' hrow'

/-! ## Who comes and goes -/

/-- Members who leave a lobby that they do not own. -/
theorem good_of_left {row : LobbyRow} (hrow : lobbyRow db l = some row)
    (hlobby : lobbyRow db' l = some row)
    (hkept : memberRow db' l row.ownerUserID = memberRow db l row.ownerUserID)
    (hrows : ∀ u m, memberRow db' l u = some m → m.leftAt = none → memberRow db l u = some m)
    (h : Good db l) : Good db' l := by
  refine ⟨fun hnone => absurd (hlobby.symm.trans hnone) (Option.some_ne_none row), fun row' hrow' => ?_⟩
  obtain rfl := Option.some.inj (hlobby.symm.trans hrow')
  obtain ⟨htrim, hgood⟩ := h.row row hrow
  refine ⟨htrim, fun hlive => ?_⟩
  obtain ⟨⟨hown, honly⟩, hclean⟩ := hgood hlive
  refine ⟨⟨?_, fun u m hm hleft hrole => ?_⟩, ?_⟩
  · rwa [hkept]
  · exact honly u m (hrows u m hm hleft) hleft hrole
  · rintro u ⟨m, hm, hleft⟩
    exact hclean u ⟨m, hrows u m hm hleft, hleft⟩

/-- A transfer, on the rows that its transaction sees. -/
theorem good_setRoles {target : UserID} {now : ℕ} (htrim : Trimmed l) (hlobby : lobbyRow db l ≠ none)
    (hactive : Active db l target) (hclean : ∀ u, Active db l u → Trimmed u) :
    Good (setRoles (view (setOwner db l target now) db) l target) l := by
  have hrow' : lobbyRow (setRoles (view (setOwner db l target now) db) l target) l =
      (lobbyRow db l).map fun row => { row with ownerUserID := target, updatedAt := now } := by
    rw [lobbyRow_setRoles, lobbyRow_setOwner, if_pos rfl]
  refine ⟨fun hnone => absurd (Option.map_eq_none_iff.1 (hrow'.symm.trans hnone)) hlobby,
    fun row hrow => ?_⟩
  rw [hrow'] at hrow
  obtain ⟨row, -, rfl⟩ := Option.map_eq_some_iff.1 hrow
  have hmember : ∀ u, memberRow (setRoles (view (setOwner db l target now) db) l target) l u =
      (memberRow db l u).map (·.withRole target u) := by
    intro u
    rw [memberRow_setRoles, if_pos rfl, memberRow_setOwner]
  have hrow_of : ∀ u m', memberRow (setRoles (view (setOwner db l target now) db) l target) l u =
      some m' → m'.leftAt = none → ∃ m, memberRow db l u = some m ∧ m.leftAt = none ∧
        m'.role = if u = target then .owner else .member := by
    intro u m' hm' hleft
    rw [hmember] at hm'
    obtain ⟨m, hm, rfl⟩ := Option.map_eq_some_iff.1 hm'
    unfold MemberRow.withRole at hleft ⊢
    by_cases hm0 : m.leftAt = none
    · rw [if_pos hm0]
      exact ⟨m, hm, hm0, rfl⟩
    · rw [if_neg hm0] at hleft
      exact absurd hleft hm0
  refine ⟨htrim, fun _ => ⟨⟨?_, fun u m hm hleft hrole => ?_⟩, ?_⟩⟩
  · obtain ⟨m, hm, hleft⟩ := hactive
    refine ⟨_, by rw [hmember, hm, Option.map_some], ?_⟩
    simp [MemberRow.withRole, hleft]
  · obtain ⟨-, -, -, hr⟩ := hrow_of u m hm hleft
    by_contra hu
    rw [hr, if_neg hu] at hrole
    cases hrole
  · rintro u ⟨m', hm', hleft⟩
    obtain ⟨m, hm, hm0, -⟩ := hrow_of u m' hm' hleft
    exact hclean u ⟨m, hm, hm0⟩

/-- What an operation on `l` leaves of another lobby. -/
theorem quiet_elsewhere_setRoles {target : UserID} {now : ℕ} (h : l' ≠ l) :
    Quiet db (setRoles (view (setOwner db l target now) db) l target) l' := by
  refine .of_eq ?_ fun u => ?_
  · rw [lobbyRow_setRoles, lobbyRow_setOwner, if_neg h]
  · rw [memberRow_setRoles, if_neg h, memberRow_setOwner]

/-- What `transferLobbyOwnerTx` does when it succeeds. -/
theorem transferLobbyOwnerTx_ok {owner target : UserID} {now : ℕ}
    (h : transferLobbyOwnerTx db l now owner target = .ok db') : trim owner ≠ trim target ∧
      Active db l (trim target) ∧
      db' = setRoles (view (setOwner db l (trim target) now) db) l (trim target) := by
  unfold transferLobbyOwnerTx at h
  dsimp only at h
  split_ifs at h with hids hactive
  rw [not_or, not_or] at hids
  exact ⟨hids.2.2, hactive, (Except.ok.inj h).symm⟩

/-- `l` is good after a transfer, and the others stay as they are. -/
theorem good_transferTx {owner target : UserID} {now : ℕ} (htrim : Trimmed l)
    (hlobby : lobbyRow db l ≠ none) (hclean : ∀ u, Active db l u → Trimmed u)
    (h : transferLobbyOwnerTx db l now owner target = .ok db') :
    Good db' l ∧ ∀ l' ≠ l, Quiet db db' l' := by
  obtain ⟨-, hactive, rfl⟩ := transferLobbyOwnerTx_ok h
  exact ⟨good_setRoles htrim hlobby hactive hclean, fun l' hl' => quiet_elsewhere_setRoles hl'⟩

theorem ensureLobbyOwner_ok {owner : UserID} {x : Unit} (h : ensureLobbyOwner db l owner = .ok x) :
    ∃ row, lobbyRow db l = some row ∧ row.state = .open_ ∧ row.ownerUserID = owner := by
  unfold ensureLobbyOwner at h
  cases hrow : lobbyRow db l with
  | none => rw [hrow] at h; cases h
  | some row =>
      rw [hrow] at h
      dsimp only at h
      split_ifs at h with hopen howner
      exact ⟨row, rfl, not_not.1 hopen, not_not.1 howner⟩

theorem good_transferLobbyOwner {owner target : UserID} {now : ℕ} (h : ∀ l, Good db l) :
    ∀ l', Good (transferLobbyOwner db l now owner target).2 l' := by
  unfold transferLobbyOwner
  cases hensure : ensureLobbyOwner db l owner with
  | error err => exact h
  | ok x =>
      dsimp only
      cases htx : transferLobbyOwnerTx db l now owner target with
      | error err => exact h
      | ok tx =>
          obtain ⟨row, hrow, hopen, -⟩ := ensureLobbyOwner_ok hensure
          obtain ⟨htrim, hgood⟩ := (h l).row row hrow
          obtain ⟨hl, hother⟩ := good_transferTx htrim (by simp [hrow]) (hgood (.inl hopen)).2 htx
          intro l'
          by_cases hl' : l' = l
          · rw [hl']
            exact hl
          · exact (hother l' hl').good (h l')

/-- Who is active after a member has been marked as gone was so before. -/
theorem of_active_marked {set : MemberRow → MemberRow} {cond : MemberRow → Bool}
    (hset : ∀ row, (set row).leftAt ≠ none) (v : UserID) (m : MemberRow)
    (hm : memberRow (view (updateActiveMember db l u set cond) db) l v = some m)
    (hleft : m.leftAt = none) : memberRow db l v = some m := by
  rw [memberRow_updateActiveMember] at hm
  split_ifs at hm with hv
  · obtain ⟨row, hrow, rfl⟩ := Option.map_eq_some_iff.1 hm
    split_ifs at hleft ⊢ with h
    · exact absurd hleft (hset row)
    · exact hrow
  · exact hm

theorem quiet_elsewhere_update {set : MemberRow → MemberRow} {cond : MemberRow → Bool} (h : l' ≠ l) :
    Quiet db (view (updateActiveMember db l u set cond) db) l' := by
  refine .of_eq (by simp) fun v => ?_
  rw [memberRow_updateActiveMember, if_neg fun h' => h h'.1]

theorem good_leaveLobby {now tie : ℕ} (h : ∀ l, Good db l) :
    ∀ l', Good (leaveLobby db l u now tie).2 l' := by
  unfold leaveLobby
  cases hrow : lobbyRow db l with
  | none => exact h
  | some row =>
      dsimp only
      split
      · exact h
      rename_i hopen
      split
      · exact h
      set tx := view (markLeft db l u now) db with htx
      obtain ⟨htrim, hgood⟩ := (h l).row row hrow
      obtain ⟨howned, hclean⟩ := hgood (.inl (not_not.1 hopen))
      have hlobby : lobbyRow tx l = some row := by rw [htx, markLeft, lobbyRow_updateActiveMember, hrow]
      have hgone : ∀ v m, memberRow tx l v = some m → m.leftAt = none → memberRow db l v = some m :=
        of_active_marked fun _ => Option.some_ne_none now
      have hother : ∀ l' ≠ l, Quiet db tx l' := fun l' hl' => quiet_elsewhere_update hl'
      have htouch : ∀ tx' : DB, Good tx' l → (∀ l' ≠ l, Quiet tx tx' l') →
          ∀ l', Good (view (touchLobby tx' l now) tx') l' := by
        intro tx' hl hrest l'
        refine (quiet_touchLobby tx' l l' now).good ?_
        by_cases hl' : l' = l
        · rw [hl']
          exact hl
        · exact ((hother l' hl').trans (hrest l' hl')).good (h l')
      by_cases howner : row.ownerUserID = u
      · rw [if_pos howner]
        unfold succeedOwner
        cases hnext : nextOwner tx l tie with
        | none =>
            -- the lobby is closed, and nothing is asked of it any more
            have hclosed : lobbyRow (view (closeLobby tx l now) tx) l =
                some { row with state := .closed, updatedAt := now } := by
              rw [closeLobby, lobbyRow_updateOpenLobby, if_pos rfl, hlobby, Option.map_some,
                if_pos (not_not.1 hopen)]
            refine htouch _ ⟨fun hnone => ?_, fun row' hrow' => ?_⟩ fun l' _ =>
              quiet_updateOpenLobby tx l l' now _ fun _ => rfl
            · exact absurd (hclosed.symm.trans hnone) (Option.some_ne_none _)
            · obtain rfl := Option.some.inj (hclosed.symm.trans hrow')
              exact ⟨htrim, by rintro (h | h | h) <;> cases h⟩
        | some next =>
            dsimp only
            cases htransfer : transferLobbyOwnerTx tx l now u next with
            | error err => exact h
            | ok tx' =>
                have hclean' : ∀ v, Active tx l v → Trimmed v := by
                  rintro v ⟨m, hm, hleft⟩
                  exact hclean v ⟨m, hgone v m hm hleft, hleft⟩
                obtain ⟨hl, hrest⟩ := good_transferTx htrim (by simp [hlobby]) hclean' htransfer
                exact htouch tx' hl hrest
      · rw [if_neg howner]
        refine htouch tx ?_ fun l' _ => .refl tx l'
        refine good_of_left hrow hlobby ?_ hgone (h l)
        rw [htx, markLeft, memberRow_updateActiveMember, if_neg fun h => howner h.2]

theorem good_kickLobbyMember {owner target : UserID} {now : ℕ} (h : ∀ l, Good db l) :
    ∀ l', Good (kickLobbyMember db l now owner target).2 l' := by
  unfold kickLobbyMember
  dsimp only
  split
  · exact h
  · cases hensure : ensureLobbyOwner db l (trim owner) with
    | error err => exact h
    | ok x =>
        dsimp only
        split
        · exact h
        · obtain ⟨row, hrow, hopen, -⟩ := ensureLobbyOwner_ok hensure
          obtain ⟨-, hgood⟩ := (h l).row row hrow
          obtain ⟨⟨⟨m, hm, hleft, hrole⟩, -⟩, -⟩ := hgood (.inl hopen)
          intro l'
          by_cases hl' : l' = l
          · rw [hl']
            refine good_of_left hrow (by simpa [markKicked] using hrow) ?_
              (of_active_marked fun _ => Option.some_ne_none now) (h l)
            rw [markKicked, memberRow_updateActiveMember]
            split_ifs with h
            · -- the condition spares the row of the owner
              simp [hm, hrole]
            · rfl
          · exact (quiet_elsewhere_update hl').good (h l')

/-! ## New lobbies and new members -/

theorem trim_eq_self {cs : List Char} (h : ∀ c ∈ cs, ¬ isSpace c) :
    trim (String.ofList cs) = String.ofList cs := by
  unfold trim
  rw [trimSpace_eq, String.toList_ofList]
  have hdrop : cs.dropWhile isSpace = cs := by
    rw [List.dropWhile_eq_self_iff]
    exact fun hl => h _ (List.getElem_mem hl)
  rw [hdrop, List.rdropWhile_eq_self_iff.2 fun hne => h _ (List.getLast_mem hne)]

theorem trimmed_newLobbyID (random : List (Fin 16)) : Trimmed (newLobbyID random) := by
  have hchars : newLobbyID random =
      String.ofList ("lob-".toList ++ (random.take 10).map hexDigit) := by
    unfold newLobbyID
    rw [String.ofList_append, String.ofList_toList]
  rw [hchars]
  refine ⟨trim_eq_self fun c hc => ?_, fun hempty => ?_⟩
  · rcases List.mem_append.1 hc with hc | hc
    · have hprefix : ∀ c ∈ "lob-".toList, ¬ isSpace c := by simp [isSpace]
      exact hprefix c hc
    · have hdigits : ∀ d, ¬ isSpace (hexDigit d) := by decide
      obtain ⟨d, -, rfl⟩ := List.mem_map.1 hc
      exact hdigits d
  · have hlist := congrArg String.toList hempty
    simp at hlist

/-- `CreateLobby` does nothing, or writes the row of a new lobby and that of its owner. -/
theorem createLobby_cases (db : DB) (ownerUserID : UserID) (mode : MatchMode) (mapScope : String)
    (ttl : ℤ) (draws : ℕ → List (Fin 16) × List ℕ) (now : ℕ → ℕ) :
    (createLobby db ownerUserID mode mapScope ttl draws now).2 = db ∨
      ∃ id lobby owner, Trimmed id ∧ lobbyRow db id = none ∧ trim ownerUserID ≠ "" ∧
        lobby.ownerUserID = trim ownerUserID ∧ owner.role = .owner ∧ owner.leftAt = none ∧
        (createLobby db ownerUserID mode mapScope ttl draws now).2 =
          AList.insert (.member id (trim ownerUserID)) owner (AList.insert (.lobby id) lobby db) := by
  unfold createLobby
  dsimp only
  generalize (if mode = .unset then MatchMode.duel else mode) = mode
  generalize (if isBlank mapScope then "world" else mapScope) = mapScope
  generalize (if ttl ≤ 0 then 2 * 60 * Time.minute else ttl.toNat) = ttl
  split
  · exact .inl rfl
  rename_i howner
  split
  · exact .inl rfl
  cases hattempt : (List.range 5).find? fun i =>
      ¬ lobbyTaken db (newLobbyID (draws i).1) (newLobbyCode (draws i).2) with
  | none => exact .inl rfl
  | some i =>
      have hfree : ¬ lobbyTaken db (newLobbyID (draws i).1) (newLobbyCode (draws i).2) := by
        simpa using List.find?_some hattempt
      have hnone : lobbyRow db (newLobbyID (draws i).1) = none :=
        AList.lookup_eq_none.2 fun h => hfree (.inl h)
      exact .inr ⟨_, _, _, trimmed_newLobbyID _, hnone, howner, rfl, rfl, rfl, rfl⟩

theorem good_createLobby {ownerUserID : UserID} {mode : MatchMode} {mapScope : String} {ttl : ℤ}
    {draws : ℕ → List (Fin 16) × List ℕ} {now : ℕ → ℕ} (h : ∀ l, Good db l) :
    ∀ l', Good (createLobby db ownerUserID mode mapScope ttl draws now).2 l' := by
  rcases createLobby_cases db ownerUserID mode mapScope ttl draws now with
    heq | ⟨id, lobby, owner, hid, hnone, hempty, howner, hrole, hleft, heq⟩
  · rw [heq]
    exact h
  rw [heq]
  generalize hdb' : AList.insert (.member id (trim ownerUserID)) owner
    (AList.insert (.lobby id) lobby db) = db'
  have hlobby : ∀ l', lobbyRow db' l' = if l' = id then some lobby else lobbyRow db l' := by
    intro l'
    have hne : RowKey.lobby l' ≠ .member id (trim ownerUserID) := by simp
    rw [lobbyRow, ← hdb', AList.lookup_insert_ne hne]
    split_ifs with hl
    · rw [hl, AList.lookup_insert]
    · have hne' : RowKey.lobby l' ≠ .lobby id := by simpa using hl
      rw [AList.lookup_insert_ne hne', lobbyRow]
  have hmember : ∀ l' v, memberRow db' l' v =
      if l' = id ∧ v = trim ownerUserID then some owner else memberRow db l' v := by
    intro l' v
    rw [memberRow, ← hdb']
    split_ifs with hv
    · rw [hv.1, hv.2, AList.lookup_insert]
    · have hne : RowKey.member l' v ≠ .member id (trim ownerUserID) := by simpa using hv
      have hne' : RowKey.member l' v ≠ .lobby id := by simp
      rw [AList.lookup_insert_ne hne, AList.lookup_insert_ne hne', memberRow]
  intro l'
  by_cases hl' : l' = id
  · subst hl'
    have hrow_of : ∀ v m, memberRow db' l' v = some m → v = trim ownerUserID := by
      intro v m hm
      rw [hmember, (h l').orphan hnone v] at hm
      split_ifs at hm with hv
      exact hv.2
    refine ⟨fun hnone' => ?_, fun row hrow => ⟨hid, fun _ => ⟨⟨?_, fun v m hm _ _ => ?_⟩, ?_⟩⟩⟩
    · rw [hlobby, if_pos rfl] at hnone'
      cases hnone'
    · rw [hlobby, if_pos rfl] at hrow
      obtain rfl := Option.some.inj hrow
      refine ⟨owner, ?_, hleft, hrole⟩
      rw [hmember, howner, if_pos ⟨rfl, rfl⟩]
    · rw [hlobby, if_pos rfl] at hrow
      obtain rfl := Option.some.inj hrow
      rw [howner]
      exact hrow_of v m hm
    · rintro v ⟨m, hm, -⟩
      rw [hrow_of v m hm]
      exact ⟨trim_trim _, hempty⟩
  · refine (Quiet.of_eq ?_ fun v => ?_ : Quiet db db' l').good (h l')
    · rw [hlobby, if_neg hl']
    · rw [hmember, if_neg fun h => hl' h.1]

theorem ensureLobbyOpen_ok {now : ℕ → ℕ} (h : (ensureLobbyOpen db l now).1 = .ok ()) :
    (ensureLobbyOpen db l now).2 = ∅ ∧
      ∃ row, lobbyRow db l = some row ∧ row.state = .open_ ∧ ¬ row.expiresAt < now 0 := by
  unfold ensureLobbyOpen at h ⊢
  cases hrow : lobbyRow db l with
  | none => rw [hrow] at h; cases h
  | some row =>
      rw [hrow] at h
      dsimp only at h ⊢
      split_ifs at h ⊢ with hopen hexpired
      exact ⟨rfl, row, rfl, not_not.1 hopen, hexpired⟩

theorem getLobbyByID_of_trimmed (h : Trimmed l) :
    getLobbyByID db l = (lobbyRow db l).map fun row =>
      { id := l, lobby := row, members := listLobbyMembers db l } := by
  have hblank : ¬ isBlank l := by
    intro hblank
    have hnil : trimSpace l = [] := by simpa [isBlank] using hblank
    have hempty := h.1
    rw [trim, hnil] at hempty
    exact h.2 hempty.symm
  rw [getLobbyByID, if_neg hblank, h.1]

/-- The database after an insert of `JoinLobby` and the update after it. -/
def joined (db : DB) (l : LobbyID) (u : UserID) (now : ℕ → ℕ) (owner : UserID) : DB :=
  let db' := view (upsertMember db l u (now 2) (if owner = u then .owner else .member)) db
  view (touchLobby db' l (now 3)) db'

/-- `JoinLobby` writes the row of the member if it gets that far, and else at most closes the lobby. -/
theorem joinLobby_cases (now : ℕ → ℕ) (h : Good db l) (u : UserID) :
    (¬ Admits db l u now ∧ ∀ l', Quiet db (joinLobby db l u now).2 l') ∨
      ∃ row, Admits db l u now ∧ lobbyRow db l = some row ∧ row.state = .open_ ∧
        (joinLobby db l u now).2 = joined db l u now row.ownerUserID := by
  have hquiet := fun l' => quiet_ensureLobbyOpen db l l' now
  by_cases hok : (ensureLobbyOpen db l now).1 = .ok ()
  · obtain ⟨-, row, hrow, hopen, -⟩ := ensureLobbyOpen_ok hok
    have hget := @getLobbyByID_of_trimmed db l (h.row row hrow).1
    unfold joinLobby Admits
    generalize ensureLobbyOpen db l now = r at hok
    obtain ⟨res, rows⟩ := r
    obtain rfl : res = .ok () := hok
    dsimp only
    by_cases hfull : 8 ≤ countOthers db l u
    · rw [if_pos hfull]
      exact .inl ⟨fun h => absurd h.2 (by omega), fun l' => .refl db l'⟩
    · rw [if_neg hfull, hget, hrow]
      exact .inr ⟨row, ⟨rfl, by omega⟩, rfl, hopen, rfl⟩
  · refine .inl ⟨fun h => hok h.1, ?_⟩
    unfold joinLobby
    generalize ensureLobbyOpen db l now = r at hok hquiet
    obtain ⟨res, rows⟩ := r
    cases res with
    | error err => exact hquiet
    | ok x => exact absurd rfl hok

section Joined

variable (db : DB) (l : LobbyID) (u : UserID) (now : ℕ → ℕ) (owner : UserID)

theorem memberRow_joined (l' : LobbyID) (v : UserID) : memberRow (joined db l u now owner) l' v =
    if l' = l ∧ v = u then
      some (joinedRow db l u (now 2) (if owner = u then .owner else .member))
    else memberRow db l' v := by
  unfold joined touchLobby
  rw [memberRow_updateOpenLobby, memberRow_upsertMember]

/-- An open lobby stays open, with its owner. -/
theorem lobbyRow_joined {row : LobbyRow} (hrow : lobbyRow db l = some row) (hopen : row.state = .open_) :
    lobbyRow (joined db l u now owner) l = some { row with updatedAt := now 3 } := by
  unfold joined touchLobby
  rw [lobbyRow_updateOpenLobby, if_pos rfl, lobbyRow_upsertMember, hrow, Option.map_some, if_pos hopen]
  rfl

/-- The role that the insert leaves. -/
theorem role_joinedRow (now : ℕ) (role : Role) : (joinedRow db l u now role).role =
    if ∃ row, memberRow db l u = some row ∧ row.role = .owner then .owner else role := by
  unfold joinedRow
  cases memberRow db l u with
  | none => simp
  | some row => simp

theorem quiet_joined {l' : LobbyID} (h : l' ≠ l) : Quiet db (joined db l u now owner) l' := by
  refine Quiet.trans (.of_eq ?_ fun v => ?_) (quiet_touchLobby _ l l' (now 3))
  · exact lobbyRow_upsertMember db l l' u (now 2) db _
  · rw [memberRow_upsertMember, if_neg fun h' => h h'.1]

end Joined

theorem good_joinLobby {now : ℕ → ℕ} (h : ∀ l, Good db l) (hclean : Clean db (.joinLobby l u now)) :
    ∀ l', Good (joinLobby db l u now).2 l' := by
  rcases joinLobby_cases now (h l) u with ⟨-, hquiet⟩ | ⟨row, hadmits, hrow, hopen, heq⟩
  · exact fun l' => (hquiet l').good (h l')
  rw [heq]
  intro l'
  by_cases hl' : l' = l
  swap
  · exact (quiet_joined db l u now _ hl').good (h l')
  rw [hl']
  obtain ⟨htrimmed, hrole⟩ := hclean hadmits
  obtain ⟨htrim, hgood⟩ := (h l).row row hrow
  obtain ⟨⟨⟨m, hm, hleft, howner⟩, honly⟩, hactive⟩ := hgood (.inl hopen)
  have hrow' := lobbyRow_joined db l u now row.ownerUserID hrow hopen
  refine ⟨fun hnone => absurd (hrow'.symm.trans hnone) (Option.some_ne_none _),
    fun row' hsome => ⟨htrim, fun _ => ?_⟩⟩
  obtain rfl := Option.some.inj (hrow'.symm.trans hsome)
  refine ⟨⟨?_, fun v m' hm' hleft' hrole' => ?_⟩, ?_⟩
  · by_cases hu : row.ownerUserID = u
    · refine ⟨_, by rw [memberRow_joined, if_pos ⟨rfl, hu⟩], leftAt_joinedRow db l u _ _, ?_⟩
      rw [role_joinedRow, if_pos hu]
      split_ifs <;> rfl
    · exact ⟨m, by rwa [memberRow_joined, if_neg fun h => hu h.2], hleft, howner⟩
  · rw [memberRow_joined] at hm'
    by_cases hv : l = l ∧ v = u
    · rw [if_pos hv] at hm'
      obtain rfl := Option.some.inj hm'
      rw [role_joinedRow] at hrole'
      split_ifs at hrole' with hex hu
      · obtain ⟨old, hold, holdrole⟩ := hex
        exact hv.2.trans (hrole row old hrow hold holdrole).symm
      · exact hv.2.trans hu.symm
    · rw [if_neg hv] at hm'
      exact honly v m' hm' hleft' hrole'
  · rintro v ⟨m', hm', hleft'⟩
    rw [memberRow_joined] at hm'
    by_cases hv : l = l ∧ v = u
    · rw [hv.2]
      exact htrimmed
    · rw [if_neg hv] at hm'
      exact hactive v ⟨m', hm', hleft'⟩

/-! ## Runs -/

theorem good_run (h : ∀ l, Good db l) (op : Op) (hclean : Clean db op) : ∀ l, Good (op.run db) l := by
  cases op with
  | createLobby => exact good_createLobby h
  | joinLobby => exact good_joinLobby h hclean
  | leaveLobby => exact good_leaveLobby h
  | kickLobbyMember => exact good_kickLobbyMember h
  | transferLobbyOwner => exact good_transferLobbyOwner h
  | setLobbyMemberTeam l u teamID now =>
      exact fun l' => (quiet_setLobbyMemberTeam db l' u teamID now).good (h l')
  | markLobbyInMatch l matchID now => exact fun l' => (quiet_markLobbyInMatch db l' now matchID).good (h l')
  | reopenEndedLobbies ended now => exact fun l => (quiet_reopenEndedLobbies db l now ended).good (h l)

/-- Nobody but the user with the trimmed id is kicked. -/
theorem memberRow_kickLobbyMember {owner target : UserID} {now : ℕ} (hu : u ≠ trim target) :
    memberRow (kickLobbyMember db l now owner target).2 l u = memberRow db l u := by
  unfold kickLobbyMember
  dsimp only
  split
  · rfl
  · cases ensureLobbyOwner db l (trim owner) with
    | error err => rfl
    | ok x =>
        dsimp only
        split
        · rfl
        · rw [markKicked, memberRow_updateActiveMember, if_neg fun h => hu h.2]

/-- The owner can kick everybody else, whose row does not say that he is the owner. -/
theorem kicksOut_of_good {row : LobbyRow} (hrow : lobbyRow db l = some row) (hopen : row.state = .open_)
    (h : Good db l) (hu : Active db l u) (hne : u ≠ row.ownerUserID) :
    KicksOut db l row.ownerUserID u := by
  obtain ⟨⟨⟨m, hm, hleft, -⟩, honly⟩, hclean⟩ := (h.row row hrow).2 (.inl hopen)
  obtain ⟨htrimOwner, hownerNe⟩ := hclean row.ownerUserID ⟨m, hm, hleft⟩
  obtain ⟨htrim, huNe⟩ := hclean u hu
  obtain ⟨mu, hmu, hleftu⟩ := hu
  have hmember : mu.role ≠ .owner := fun hrole => hne (honly u mu hmu hleftu hrole)
  have hids : ¬ (row.ownerUserID = "" ∨ u = "" ∨ row.ownerUserID = u) := by
    rintro (h | h | h)
    · exact hownerNe h
    · exact huNe h
    · exact hne h.symm
  have hensure : ensureLobbyOwner db l row.ownerUserID = .ok () := by
    simp [ensureLobbyOwner, hrow, hopen]
  intro now
  have hrows : ¬ rowsAffected (markKicked db l u now) = 0 := by
    rw [markKicked, rowsAffected_updateActiveMember, not_not]
    exact ⟨mu, hmu, hleftu, by simpa using hmember⟩
  refine ⟨getLobbyByID (view (markKicked db l u now) db) l, view (markKicked db l u now) db, ?_, ?_⟩
  · unfold kickLobbyMember
    dsimp only
    rw [htrimOwner, htrim, if_neg hids, hensure]
    dsimp only
    rw [if_neg hrows]
  · rintro ⟨row', hrow', hleft'⟩
    rw [markKicked, memberRow_updateActiveMember, if_pos ⟨rfl, rfl⟩, hmu, Option.map_some,
      if_pos ⟨hleftu, by simpa using hmember⟩] at hrow'
    obtain rfl := Option.some.inj hrow'
    cases hleft'

theorem trimmed_of_kicksOut {owner : UserID} (hu : Active db l u) (h : KicksOut db l owner u) :
    Trimmed u := by
  obtain ⟨snap, db', hkick, hgone⟩ := h 0
  have hsame : trim u = u := by
    by_contra hne
    have hrow := @memberRow_kickLobbyMember db l u owner u 0 (Ne.symm hne)
    rw [hkick] at hrow
    obtain ⟨m, hm, hleft⟩ := hu
    exact hgone ⟨m, hrow.trans hm, hleft⟩
  refine ⟨hsame, ?_⟩
  rintro rfl
  simp [kickLobbyMember, hsame] at hkick

theorem hasOneOwner_of_good (h : ∀ l, Good db l) : HasOneOwner db := by
  intro l row hrow hopen
  exact ⟨(((h l).row row hrow).2 (.inl hopen)).1, fun u hu hne => kicksOut_of_good hrow hopen (h l) hu hne⟩

/-- A join against the condition leaves two owners, or somebody who cannot be kicked. -/
theorem not_hasOneOwner_run (h : ∀ l, Good db l) (op : Op) (hclean : ¬ Clean db op) :
    ¬ HasOneOwner (op.run db) := by
  cases op with
  | joinLobby l u now =>
      intro hone
      rcases joinLobby_cases now (h l) u with ⟨hnot, -⟩ | ⟨row, -, hrow, hopen, heq⟩
      · exact hclean fun hadmits => absurd hadmits hnot
      have hrow' := lobbyRow_joined db l u now row.ownerUserID hrow hopen
      have hrun : Op.run db (.joinLobby l u now) = joined db l u now row.ownerUserID := heq
      rw [hrun] at hone
      obtain ⟨howned, hkicks⟩ := hone l _ hrow' hopen
      have hmember := memberRow_joined db l u now row.ownerUserID l u
      rw [if_pos ⟨rfl, rfl⟩] at hmember
      have hactive : Active (joined db l u now row.ownerUserID) l u :=
        ⟨_, hmember, leftAt_joinedRow db l u (now 2) _⟩
      refine hclean fun _ => ⟨?_, fun row' m hrow'' hm hrole => ?_⟩
      · by_cases hu : u = row.ownerUserID
        · obtain ⟨⟨mo, hmo, hlefto, -⟩, -⟩ := (((h l).row row hrow).2 (.inl hopen)).1
          rw [hu]
          exact (((h l).row row hrow).2 (.inl hopen)).2 _ ⟨mo, hmo, hlefto⟩
        · exact trimmed_of_kicksOut hactive (hkicks u hactive hu)
      · obtain rfl := Option.some.inj (hrow.symm.trans hrow'')
        refine (howned.only u _ hmember (leftAt_joinedRow db l u (now 2) _) ?_).symm
        rw [role_joinedRow, if_pos ⟨m, hm, hrole⟩]
  | createLobby | leaveLobby | kickLobbyMember | transferLobbyOwner | setLobbyMemberTeam
    | markLobbyInMatch | reopenEndedLobbies => exact absurd trivial hclean

/-- One operation at a time, every open lobby has exactly one owner and he can kick everybody else, in
every state, exactly when nobody joins whose row still calls him the owner of a lobby that is
somebody else's, and nobody whose id has white space around it. -/
theorem oneOwner_iff (ops : List Op) :
    Run.Always step HasOneOwner ∅ ops ↔ Run.Guarded step Clean ∅ ops := by
  refine Run.always_iff_guarded (fun db => ∀ l, Good db l) ?_ (fun _ => hasOneOwner_of_good) ?_ ?_
  · rintro db op db' h hclean hs
    rw [← Option.some.inj hs]
    exact good_run h op hclean
  · rintro db op db' h hclean hs
    rw [← Option.some.inj hs]
    exact not_hasOneOwner_run h op hclean
  · exact fun l => ⟨fun _ u => AList.lookup_empty _, fun row hrow => by cases hrow⟩

/-! ### An owner who returns -/

def lobby : LobbyID := newLobbyID (List.replicate 10 0)

/-- The owner leaves, the lobby goes to the other member, and the owner returns. -/
def returned : List Op :=
  [.createLobby "u_1" .duel "world" 0 (fun _ => (List.replicate 10 0, [])) (fun _ => 0),
    .joinLobby lobby "u_2" (fun _ => 1), .leaveLobby lobby "u_1" 2 0,
    .joinLobby lobby "u_1" (fun _ => 3)]

theorem not_hasOneOwner_returned : ¬ Run.Always step HasOneOwner ∅ returned := by
  intro h
  have hfinal := h.exec (rfl : Run.exec step ∅ returned = some (returned.foldl Op.run ∅))
  have hlobby : (lobbyRow (returned.foldl Op.run ∅) lobby).map
      (fun row => (row.state, row.ownerUserID)) = some (.open_, "u_2") := by decide +kernel
  have hmember : (memberRow (returned.foldl Op.run ∅) lobby "u_1").map
      (fun row => (row.leftAt, row.role)) = some (none, .owner) := by decide +kernel
  obtain ⟨row, hrow, heq⟩ := Option.map_eq_some_iff.1 hlobby
  obtain ⟨m, hm, heq'⟩ := Option.map_eq_some_iff.1 hmember
  obtain ⟨hopen, howner⟩ := Prod.mk.inj heq
  obtain ⟨hleft, hrole⟩ := Prod.mk.inj heq'
  have hsame := (hfinal lobby row hrow hopen).1.only "u_1" m hm hleft hrole
  rw [howner] at hsame
  exact absurd hsame (by decide)

end GeoDuels.Persistence.OneOwner
