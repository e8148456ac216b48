import GeoDuels.Persistence.Lobbies
import Mathlib.Data.List.DropRight

/-!
# What the statements of the lobbies do

For each query what it finds, and for each statement that writes the rows of the two tables after it.
Later modules never look into a statement again.
-/

namespace GeoDuels.Persistence

open Coordinator (trimSpace isBlank isSpace)
open ReadCommitted (view update rowsAffected)

/-! ## Text -/

theorem trimSpace_eq (s : String) : trimSpace s = (s.toList.dropWhile isSpace).rdropWhile isSpace := rfl

/-- Trimmed text is trimmed. -/
@[simp] theorem trim_trim (s : String) : trim (trim s) = trim s := by
  unfold trim
  rw [trimSpace_eq, trimSpace_eq, String.toList_ofList]
  congr 1
  generalize hl : s.toList.dropWhile isSpace = l
  have hhead : l.dropWhile isSpace = l := by rw [← hl, List.dropWhile_idempotent]
  have hsame : (l.rdropWhile isSpace).dropWhile isSpace = l.rdropWhile isSpace := by
    rw [List.dropWhile_eq_self_iff] at hhead ⊢
    intro h
    have hprefix := List.rdropWhile_prefix isSpace (l := l)
    have hget := hprefix.getElem h
    rw [hget]
    exact hhead (h.trans_le hprefix.length_le)
  rw [hsame, List.rdropWhile_idempotent]

/-! ## Queries -/

variable {db : DB} {l l' : LobbyID} {u u' : UserID}

theorem mem_memberRows {row : MemberRow} :
    (u, row) ∈ memberRows db l ↔ memberRow db l u = some row := by
  unfold memberRows memberRow
  rw [List.mem_filterMap]
  constructor
  · rintro ⟨⟨k, row'⟩, he, h⟩
    cases k with
    | lobby id => cases h
    | member l' u' =>
        dsimp only at h
        split_ifs at h with hl
        obtain ⟨rfl, rfl⟩ := Prod.mk.inj (Option.some.inj h)
        rw [← hl]
        exact AList.mem_lookup_iff.2 he
  · intro h
    refine ⟨⟨.member l u, row⟩, AList.mem_lookup_iff.1 h, ?_⟩
    simp

theorem mem_activeRows {row : MemberRow} :
    (u, row) ∈ activeRows db l ↔ memberRow db l u = some row ∧ row.leftAt = none := by
  simp [activeRows, mem_memberRows]

theorem nodup_memberRows (db : DB) (l : LobbyID) : ((memberRows db l).map Prod.fst).Nodup := by
  have hkeys : ((memberRows db l).map Prod.fst) = db.keys.filterMap fun
      | .member l' u => if l' = l then some u else none
      | .lobby _ => none := by
    unfold memberRows AList.keys List.keys
    rw [List.map_filterMap, List.filterMap_map]
    refine List.filterMap_congr fun e _ => ?_
    obtain ⟨k, row⟩ := e
    cases k with
    | lobby id => rfl
    | member l' u =>
        dsimp only [Function.comp]
        split_ifs <;> rfl
  rw [hkeys]
  refine db.keys_nodup.filterMap fun k k' u hk hk' => ?_
  cases k <;> cases k' <;> simp_all

/-- The active members of a lobby. -/
def activeUsers (db : DB) (l : LobbyID) : List UserID := (activeRows db l).map Prod.fst

theorem mem_activeUsers : u ∈ activeUsers db l ↔ Active db l u := by
  unfold activeUsers Active
  rw [List.mem_map]
  constructor
  · rintro ⟨⟨u, row⟩, hmem, rfl⟩
    exact ⟨row, mem_activeRows.1 hmem⟩
  · rintro ⟨row, hrow⟩
    exact ⟨(u, row), mem_activeRows.2 hrow, rfl⟩

theorem nodup_activeUsers (db : DB) (l : LobbyID) : (activeUsers db l).Nodup :=
  (nodup_memberRows db l).sublist (List.filter_sublist.map Prod.fst)

theorem countOthers_eq (db : DB) (l : LobbyID) (u : UserID) :
    countOthers db l u = ((activeUsers db l).filter (· ≠ u)).length := by
  unfold countOthers activeUsers
  rw [List.filter_map, List.length_map]
  rfl

/-! ## Single rows -/

section Updates

variable (f : LobbyRow → Option LobbyRow) (g : MemberRow → Option MemberRow)

theorem lobbyRow_updateLobby (db : DB) (l l' : LobbyID) :
    lobbyRow (view (update db (.lobby l) f) db) l' =
      if l' = l then (lobbyRow db l').map fun row => (f row).getD row else lobbyRow db l' := by
  unfold lobbyRow
  split_ifs with h
  · rw [h]
    exact ReadCommitted.lookup_view_update_self db (.lobby l) f
  · have hne : RowKey.lobby l' ≠ .lobby l := by simpa using h
    exact @ReadCommitted.lookup_view_update_ne _ Row _ db db (.lobby l) (.lobby l') hne f

@[simp] theorem memberRow_updateLobby (seen db : DB) (l l' : LobbyID) (u : UserID) :
    memberRow (view (update seen (.lobby l) f) db) l' u = memberRow db l' u :=
  @ReadCommitted.lookup_view_update_ne _ Row _ seen db (.lobby l) (.member l' u) (by simp) f

theorem memberRow_updateMember (db : DB) (l l' : LobbyID) (u u' : UserID) :
    memberRow (view (update db (.member l u) g) db) l' u' =
      if l' = l ∧ u' = u then (memberRow db l' u').map fun row => (g row).getD row
      else memberRow db l' u' := by
  unfold memberRow
  split_ifs with h
  · rw [h.1, h.2]
    exact ReadCommitted.lookup_view_update_self db (.member l u) g
  · have hne : RowKey.member l' u' ≠ .member l u := by simpa using h
    exact @ReadCommitted.lookup_view_update_ne _ Row _ db db (.member l u) (.member l' u') hne g

@[simp] theorem lobbyRow_updateMember (seen db : DB) (l l' : LobbyID) (u : UserID) :
    lobbyRow (view (update seen (.member l u) g) db) l' = lobbyRow db l' :=
  @ReadCommitted.lookup_view_update_ne _ Row _ seen db (.member l u) (.lobby l') (by simp) g

end Updates

/-! ## The statements -/

section Statements

variable (db : DB) (l l' : LobbyID) (u u' : UserID) (now : ℕ)

@[simp] theorem memberRow_updateOpenLobby (seen : DB) (set : LobbyRow → LobbyRow) :
    memberRow (view (updateOpenLobby seen l now set) db) l' u = memberRow db l' u :=
  memberRow_updateLobby _ seen db l l' u

theorem lobbyRow_updateOpenLobby (set : LobbyRow → LobbyRow) :
    lobbyRow (view (updateOpenLobby db l now set) db) l' =
      if l' = l then (lobbyRow db l').map fun row =>
        if row.state = .open_ then { set row with updatedAt := now } else row
      else lobbyRow db l' := by
  unfold updateOpenLobby
  rw [lobbyRow_updateLobby]
  congr 2
  funext row
  split_ifs <;> rfl

@[simp] theorem lobbyRow_updateActiveMember (seen : DB) (set : MemberRow → MemberRow)
    (cond : MemberRow → Bool) :
    lobbyRow (view (updateActiveMember seen l u set cond) db) l' = lobbyRow db l' :=
  lobbyRow_updateMember _ seen db l l' u

theorem memberRow_updateActiveMember (set : MemberRow → MemberRow) (cond : MemberRow → Bool) :
    memberRow (view (updateActiveMember db l u set cond) db) l' u' =
      if l' = l ∧ u' = u then (memberRow db l' u').map fun row =>
        if row.leftAt = none ∧ cond row then set row else row
      else memberRow db l' u' := by
  unfold updateActiveMember
  rw [memberRow_updateMember]
  congr 2
  funext row
  split_ifs <;> rfl

theorem rowsAffected_updateActiveMember (set : MemberRow → MemberRow) (cond : MemberRow → Bool) :
    rowsAffected (updateActiveMember db l u set cond) = 0 ↔
      ¬ ∃ row, memberRow db l u = some row ∧ row.leftAt = none ∧ cond row := by
  unfold updateActiveMember
  rw [ReadCommitted.rowsAffected_update]
  show (memberRow db l u).bind _ = none ↔ _
  cases memberRow db l u with
  | none => simp
  | some row => simp

@[simp] theorem memberRow_setOwner (seen : DB) :
    memberRow (view (setOwner seen l u now) db) l' u' = memberRow db l' u' :=
  memberRow_updateLobby _ seen db l l' u'

theorem lobbyRow_setOwner : lobbyRow (view (setOwner db l u now) db) l' =
    if l' = l then (lobbyRow db l').map fun row => { row with ownerUserID := u, updatedAt := now }
    else lobbyRow db l' := by
  unfold setOwner
  rw [lobbyRow_updateLobby]
  rfl

/-- What `setRoles` makes of a row. -/
def MemberRow.withRole (target u : UserID) (row : MemberRow) : MemberRow :=
  if row.leftAt = none then { row with role := if u = target then .owner else .member } else row

theorem memberRow_setRole (target : UserID) :
    memberRow (view (setRole db l u target) db) l' u' =
      if l' = l ∧ u' = u then (memberRow db l' u').map (·.withRole target u')
      else memberRow db l' u' := by
  unfold setRole
  rw [memberRow_updateActiveMember]
  by_cases h : l' = l ∧ u' = u
  · rw [if_pos h, if_pos h, h.2]
    simp [MemberRow.withRole]
  · rw [if_neg h, if_neg h]

theorem lobbyRow_setRoles (target : UserID) : lobbyRow (setRoles db l target) l' = lobbyRow db l' := by
  unfold setRoles
  generalize (activeRows db l).map Prod.fst = us
  induction us generalizing db with
  | nil => rfl
  | cons u us ih =>
      rw [List.foldl_cons, ih]
      exact lobbyRow_updateActiveMember db l l' u db _ _

theorem memberRow_setRoles (target : UserID) : memberRow (setRoles db l target) l' u =
    if l' = l then (memberRow db l' u).map (·.withRole target u) else memberRow db l' u := by
  have hfold : ∀ us : List UserID, memberRow
      (us.foldl (fun db v => view (setRole db l v target) db) db) l' u =
        if l' = l ∧ u ∈ us then (memberRow db l' u).map (·.withRole target u)
        else memberRow db l' u := by
    intro us
    induction us generalizing db with
    | nil => simp
    | cons v us ih =>
        have htwice : ∀ row : MemberRow,
            (row.withRole target u).withRole target u = row.withRole target u := by
          intro row
          unfold MemberRow.withRole
          split_ifs <;> simp_all
        rw [List.foldl_cons, ih, memberRow_setRole]
        by_cases hl : l' = l
        · rcases eq_or_ne u v with rfl | hv
          · by_cases hu : u ∈ us <;> simp [hl, hu, Function.comp_def, htwice]
          · simp [hl, hv]
        · simp [hl]
  rw [setRoles, hfold]
  by_cases hl : l' = l
  · by_cases hu : u ∈ activeUsers db l
    · rw [if_pos ⟨hl, hu⟩, if_pos hl]
    · -- the row of somebody who has left stays as it is
      rw [if_neg fun h => hu h.2, if_pos hl, hl]
      cases hrow : memberRow db l u with
      | none => rfl
      | some row =>
          have hleft : row.leftAt ≠ none := fun h => hu (mem_activeUsers.2 ⟨row, hrow, h⟩)
          rw [Option.map_some, MemberRow.withRole, if_neg hleft]
  · rw [if_neg fun h => hl h.1, if_neg hl]

/-- The row that the insert of `JoinLobby` leaves. -/
def joinedRow (db : DB) (l : LobbyID) (u : UserID) (now : ℕ) (role : Role) : MemberRow :=
  let teamID := smallerTeam db l
  match memberRow db l u with
  | none => { role := role, teamID := some teamID, joinedAt := now }
  | some row =>
      { row with
        role := if row.role = .owner then .owner else role
        teamID := row.teamID.or (some teamID)
        leftAt := none
        joinedAt := if row.leftAt = none then row.joinedAt else now }

theorem leftAt_joinedRow (role : Role) : (joinedRow db l u now role).leftAt = none := by
  unfold joinedRow
  cases memberRow db l u <;> rfl

theorem upsertMember_eq (role : Role) :
    upsertMember db l u now role = AList.insert (.member l u) (joinedRow db l u now role) ∅ := rfl

theorem memberRow_upsertMember (role : Role) :
    memberRow (view (upsertMember db l u now role) db) l' u' =
      if l' = l ∧ u' = u then some (joinedRow db l u now role) else memberRow db l' u' := by
  unfold memberRow
  rw [upsertMember_eq, ReadCommitted.lookup_view]
  split_ifs with h
  · rw [h.1, h.2, AList.lookup_insert, Option.some_or]
  · have hne : RowKey.member l' u' ≠ .member l u := by simpa using h
    rw [AList.lookup_insert_ne hne, AList.lookup_empty, Option.none_or]

/-- Who is active after the insert of `JoinLobby`. -/
theorem active_upsertMember (role : Role) :
    Active (view (upsertMember db l u now role) db) l' u' ↔ l' = l ∧ u' = u ∨ Active db l' u' := by
  unfold Active
  rw [memberRow_upsertMember]
  by_cases h : l' = l ∧ u' = u
  · rw [if_pos h]
    exact iff_of_true ⟨_, rfl, leftAt_joinedRow db l u now role⟩ (.inl h)
  · rw [if_neg h]
    exact (or_iff_right h).symm

@[simp] theorem lobbyRow_upsertMember (seen : DB) (role : Role) :
    lobbyRow (view (upsertMember seen l u now role) db) l' = lobbyRow db l' := by
  have hne : RowKey.lobby l' ≠ .member l u := by simp
  unfold lobbyRow
  rw [upsertMember_eq, ReadCommitted.lookup_view, AList.lookup_insert_ne hne, AList.lookup_empty,
    Option.none_or]

theorem mem_endedLobbies {ended : MatchID → Bool} :
    l ∈ endedLobbies db ended ↔ ∃ row, lobbyRow db l = some row ∧ row.hasEnded ended := by
  unfold endedLobbies
  rw [List.mem_filterMap]
  constructor
  · rintro ⟨⟨k, row⟩, he, hk⟩
    cases k with
    | member l' u => cases hk
    | lobby id =>
        dsimp only at hk
        split_ifs at hk with hended
        obtain rfl := Option.some.inj hk
        exact ⟨row, AList.mem_lookup_iff.2 he, hended⟩
  · rintro ⟨row, hrow, hended⟩
    exact ⟨⟨.lobby l, row⟩, AList.mem_lookup_iff.1 hrow, if_pos hended⟩

/-- The other lobbies when those are reopened whose match has ended. -/
theorem lobbyRow_reopenEndedLobbies {ended : MatchID → Bool} (h : l ∉ endedLobbies db ended) :
    lobbyRow (reopenEndedLobbies db now ended).2 l = lobbyRow db l := by
  unfold reopenEndedLobbies
  dsimp only
  generalize (endedLobbies db ended).flatMap _ = ks
  generalize endedLobbies db ended = ids at h
  have hmembers : ∀ db : DB, lobbyRow (ks.foldl (fun db k =>
      view (update db (.member k.1 k.2) fun row : MemberRow => some { row with ready := false }) db) db) l =
        lobbyRow db l := by
    induction ks with
    | nil => exact fun db => rfl
    | cons k ks ih =>
        intro db
        rw [List.foldl_cons, ih]
        exact lobbyRow_updateMember _ db db k.1 l k.2
  rw [hmembers]
  induction ids generalizing db with
  | nil => rfl
  | cons id ids ih =>
      rw [List.foldl_cons, ih _ fun hl => h (List.mem_cons_of_mem id hl)]
      refine (lobbyRow_updateLobby (fun row => some (row.reopen now)) db id l).trans (if_neg ?_)
      exact fun heq => h (heq ▸ List.mem_cons_self)

end Statements

end GeoDuels.Persistence
