import GeoDuels.Lib.LastWriter
import GeoDuels.LobbySocket.Reproduces

/-!
# What a page shows of a lobby

What is shown of a lobby in cells: its fields, who is there, and the fields of those who are.  A full
lobby writes every cell.  A patch writes the cells that it carries and leaves the others as they were,
whatever the page showed before (`shown_applyLobbyPatch`).
-/

namespace GeoDuels.LobbySocket

open MatchCoordinator (LobbyState)
open OmitEmpty (spread)
open Reproduces

inductive LobbyField where
  | id | inviteCode | ownerUserId | state | mode | mapScope | config | activeMatchId | lastMatchId
  | startedMatchId | createdAt | expiresAt
  deriving DecidableEq

@[reducible] def LobbyField.Value : LobbyField → Type
  | .id | .inviteCode | .ownerUserId | .mapScope | .activeMatchId | .lastMatchId | .startedMatchId
  | .createdAt | .expiresAt => String
  | .state => LobbyState
  | .mode => MatchMode
  | .config => MatchConfig

/-- A field of the client's lobby, a missing one counting as zero. -/
def LobbyObject.get (lobby : LobbyObject) : ∀ f : LobbyField, f.Value
  | .id => lobby.id
  | .inviteCode => lobby.inviteCode
  | .ownerUserId => lobby.ownerUserId
  | .state => lobby.state
  | .mode => lobby.mode
  | .mapScope => lobby.mapScope
  | .config => lobby.config.getD {}
  | .activeMatchId => lobby.activeMatchId.getD ""
  | .lastMatchId => lobby.lastMatchId.getD ""
  | .startedMatchId => lobby.startedMatchId.getD ""
  | .createdAt => lobby.createdAt
  | .expiresAt => lobby.expiresAt

/-- What a page shows: a field of the lobby, whether a user is there, and a field of his. -/
inductive Cell where
  | lobby (f : LobbyField)
  | here (u : UserID)
  | member (u : UserID) (k : MemberField)

@[reducible] def Cell.Value : Cell → Type
  | .lobby f => f.Value
  | .here _ => Bool
  | .member _ k => k.Value

/-- The cell shows whether a member is connected. -/
def Cell.IsPresence : Cell → Prop
  | .member _ .connected | .member _ .presenceStatus => True
  | _ => False

def LobbyObject.find (lobby : LobbyObject) (u : UserID) : Option MemberObject :=
  lobby.members.find? fun member => member.lookup .userId = some u

/-- The value of a cell; the fields of a user who is not there are zero. -/
def LobbyObject.shown (lobby : LobbyObject) : ∀ c : Cell, c.Value
  | .lobby f => lobby.get f
  | .here u => (lobby.find u).isSome
  | .member u k => memberFields.read ((lobby.find u).getD ∅) k

/-- The patch from `prev` to `next` sends the member `m` of `next`: he is new or not as he was, and
no zero member comes in. -/
def Sent (prev : LobbySnapshot) (m : LobbyMember) : Prop :=
  m ∉ prev.members ∧ (m = {} → ∃ p ∈ prev.members, p.userID = m.userID)

/-- The patch from `prev` to `next` removes the user. -/
def Gone (prev next : LobbySnapshot) (u : UserID) : Prop :=
  (∃ p ∈ prev.members, p.userID = u) ∧ ¬ ∃ m ∈ next.members, m.userID = u

/-- The patch from `prev` to `next` carries the cell: the fields of the lobby that differ, the users
who are sent or removed, and the fields of a user who is sent that JSON does not leave out. -/
def Carries (prev next : LobbySnapshot) : Cell → Prop
  | .lobby f => prev.json.get f ≠ next.json.get f
  | .here u => (∃ m ∈ next.members, Sent prev m ∧ m.userID = u) ∨ Gone prev next u
  | .member u k =>
      (∃ m ∈ next.members, Sent prev m ∧ m.userID = u ∧ ¬ memberFields.Omits m.get k) ∨
        Gone prev next u

/-- `Patchable`, but for the presence of the members. -/
def PatchableAside (prev next : LobbySnapshot) : Prop :=
  ∀ m ∈ next.members,
    (∀ p ∈ prev.members, p.userID = m.userID → ∀ k, ¬ (Cell.member m.userID k).IsPresence →
      memberFields.omitempty k → m.get k = memberFields.zero k → p.get k = memberFields.zero k) ∧
    (m = {} → ∃ p ∈ prev.members, p.userID = m.userID)

instance : ∀ f : LobbyField, DecidableEq f.Value
  | .id | .inviteCode | .ownerUserId | .mapScope | .activeMatchId | .lastMatchId | .startedMatchId
  | .createdAt | .expiresAt => inferInstanceAs (DecidableEq String)
  | .state => inferInstanceAs (DecidableEq LobbyState)
  | .mode => inferInstanceAs (DecidableEq MatchMode)
  | .config => inferInstanceAs (DecidableEq MatchConfig)

instance (prev : LobbySnapshot) : DecidablePred (Sent prev) := fun _ =>
  inferInstanceAs (Decidable (_ ∧ (_ → _)))

instance (prev next : LobbySnapshot) : DecidablePred (Gone prev next) := fun _ =>
  inferInstanceAs (Decidable (_ ∧ _))

instance (prev next : LobbySnapshot) : DecidablePred (Carries prev next)
  | .lobby _ => inferInstanceAs (Decidable (_ ≠ _))
  | .here _ | .member _ _ => inferInstanceAs (Decidable (_ ∨ _))

namespace Cells

variable {prev next : LobbySnapshot} {order : MapOrder} {revision : ℤ} {lobby : LobbyObject}
  {o : MemberObject} {u : UserID} {m : LobbyMember}

/-! ## Members -/

theorem find_eq_some (h : Keyed lobby.members) :
    lobby.find u = some o ↔ o ∈ lobby.members ∧ o.lookup .userId = some u := by
  constructor
  · intro hfind
    exact ⟨List.mem_of_find?_eq_some hfind, by simpa using List.find?_some hfind⟩
  · rintro ⟨ho, hid⟩
    cases hfind : lobby.find u with
    | none =>
        have hnot := List.find?_eq_none.1 hfind o ho
        simp [hid] at hnot
    | some o' =>
        have hid' : o'.lookup .userId = some u := by simpa using List.find?_some hfind
        exact congrArg some (List.inj_on_of_nodup_map h.nodup (List.mem_of_find?_eq_some hfind) ho
          (hid'.trans hid.symm))

theorem find_json (snap : LobbySnapshot) (hm : m ∈ snap.members) :
    snap.json.find m.userID = some m.json :=
  (find_eq_some (keyed_json snap)).2 ⟨List.mem_map_of_mem hm, lookup_userId_json m⟩

theorem find_json_none {snap : LobbySnapshot} (h : ¬ ∃ m ∈ snap.members, m.userID = u) :
    snap.json.find u = none := by
  refine Option.eq_none_iff_forall_ne_some.2 fun o ho => ?_
  obtain ⟨hmem, hid⟩ := (find_eq_some (keyed_json snap)).1 ho
  obtain ⟨m, hm, rfl⟩ := List.mem_map.1 hmem
  rw [lookup_userId_json, Option.some.injEq] at hid
  exact h ⟨m, hm, hid⟩

theorem mem_upsertMembers_iff :
    m ∈ (lobbyPatch order prev next revision).upsertMembers ↔ m ∈ next.members ∧ Sent prev m :=
  mem_upsertMembers

theorem gone_iff : Gone prev next u ↔ u ∈ (lobbyPatch order prev next revision).removeMemberIDs :=
  mem_removeMemberIDs.symm

/-! ## The members after a patch -/

/-- Who is not removed remains as he was shown. -/
theorem lookup_remaining_eq (h : Keyed lobby.members) :
    (remaining lobby.members order prev next revision).lookup (some u) =
      if Gone prev next u then none else lobby.find u := by
  ext o
  rw [lookup_remaining h]
  constructor
  · rintro ⟨⟨ho, hkept⟩, hid⟩
    rw [← Bool.not_eq_true, removedHas_iff hid, ← gone_iff] at hkept
    rw [if_neg hkept]
    exact (find_eq_some h).2 ⟨ho, hid⟩
  · intro hfind
    split_ifs at hfind with hgone
    obtain ⟨ho, hid⟩ := (find_eq_some h).1 hfind
    refine ⟨⟨ho, ?_⟩, hid⟩
    rw [← Bool.not_eq_true, removedHas_iff hid, ← gone_iff]
    exact hgone

/-- A member who is sent is laid over what was shown of him. -/
theorem lookup_patchMembers_sent (h : Keyed lobby.members) (hm : m ∈ next.members)
    (hsent : Sent prev m) :
    (patchMembers lobby.members (lobbyPatch order prev next revision).json).lookup (some m.userID) =
      some (spread ((lobby.find m.userID).getD ∅) m.json) := by
  refine lookup_patchMembers.2 (.inl ⟨m, mem_upsertMembers_iff.2 ⟨hm, hsent⟩, rfl, ?_⟩)
  have hstays : ¬ Gone prev next m.userID := fun hgone => hgone.2 ⟨m, hm, rfl⟩
  rw [lookup_remaining_eq h, if_neg hstays]

/-- A user who is not sent is removed or shown as before. -/
theorem lookup_patchMembers_of_not_sent (h : Keyed lobby.members)
    (hno : ¬ ∃ m ∈ next.members, Sent prev m ∧ m.userID = u) :
    (patchMembers lobby.members (lobbyPatch order prev next revision).json).lookup (some u) =
      if Gone prev next u then none else lobby.find u := by
  have hremaining : (remaining lobby.members order prev next revision).lookup (some u) = _ :=
    lookup_remaining_eq h
  rw [← hremaining]
  have hnot : ∀ m ∈ (lobbyPatch order prev next revision).upsertMembers,
      some m.userID ≠ some u := by
    intro m hm hid
    obtain ⟨hnext, hsent⟩ := mem_upsertMembers_iff.1 hm
    exact hno ⟨m, hnext, hsent, Option.some.inj hid⟩
  ext o
  rw [lookup_patchMembers]
  constructor
  · rintro (⟨m, hm, hid, -⟩ | ⟨-, hrem⟩)
    · exact absurd hid (hnot m hm)
    · exact hrem
  · exact fun hrem => .inr ⟨hnot, hrem⟩

/-! ## The lobby after a patch -/

/-- The lobby of the client after the patch from `prev` to `next`. -/
def patched (order : MapOrder) (prev next : LobbySnapshot) (revision : ℤ) (lobby : LobbyObject) :
    LobbyObject :=
  let patch := (lobbyPatch order prev next revision).json
  { lobby with
    state := patch.state.getD lobby.state
    ownerUserId := patch.ownerUserId.getD lobby.ownerUserId
    mode := patch.mode.getD lobby.mode
    config := patch.config.or lobby.config
    activeMatchId := patch.activeMatchId.or lobby.activeMatchId
    lastMatchId := patch.lastMatchId.or lobby.lastMatchId
    startedMatchId := patch.startedMatchId.or lobby.startedMatchId
    members :=
      if patch.upsertMembers.getD [] ≠ [] ∨ patch.removeMemberIds.getD [] ≠ [] then
        (patchMembers lobby.members patch).values
      else lobby.members }

theorem applyLobbyPatch_some :
    applyLobbyPatch (some lobby) (lobbyPatch order prev next revision).json =
      some (patched order prev next revision lobby) := rfl

theorem keyed_patched (h : Keyed lobby.members) :
    Keyed (patched order prev next revision lobby).members := by
  unfold patched
  dsimp only
  split_ifs
  · exact keyed_values h
  · exact h

theorem find_patched (h : Keyed lobby.members) :
    (patched order prev next revision lobby).find u =
      (patchMembers lobby.members (lobbyPatch order prev next revision).json).lookup (some u) := by
  ext o
  rw [find_eq_some (keyed_patched h), patched, mem_members_applied h, Assoc.mem_values]
  constructor
  · rintro ⟨⟨k, hk⟩, hid⟩
    rwa [← userId_of_lookup_patchMembers h hk, hid] at hk
  · exact fun hk => ⟨⟨some u, hk⟩, userId_of_lookup_patchMembers h hk⟩

theorem getD_changed_eq {α : Type} [DecidableEq α] (old prev next : α) :
    (changed prev next).getD old = if prev ≠ next then next else old := by
  unfold changed
  split_ifs <;> rfl

theorem getD_changed_or_eq {α : Type} [DecidableEq α] (old : Option α) (zero prev next : α) :
    ((changed prev next).or old).getD zero = if prev ≠ next then next else old.getD zero := by
  unfold changed
  split_ifs <;> simp

theorem get_patched (hsame : SameLobby prev next) (f : LobbyField) :
    (patched order prev next revision lobby).get f =
      if prev.json.get f ≠ next.json.get f then next.json.get f else lobby.get f := by
  obtain ⟨hid, hcode, hscope, hcreated, hexpires⟩ := hsame
  cases f with
  | id => exact (if_neg (not_not.2 hid.symm)).symm
  | inviteCode => exact (if_neg (not_not.2 hcode.symm)).symm
  | mapScope => exact (if_neg (not_not.2 hscope.symm)).symm
  | createdAt => exact (if_neg (not_not.2 hcreated.symm)).symm
  | expiresAt => exact (if_neg (not_not.2 hexpires.symm)).symm
  | ownerUserId | state | mode => exact getD_changed_eq _ _ _
  | config => exact getD_changed_or_eq _ _ _ _
  | activeMatchId | lastMatchId | startedMatchId =>
      simp only [LobbyObject.get, LobbySnapshot.json, OmitEmpty.getD_omitEmpty]
      exact getD_changed_or_eq _ _ _ _

theorem shown_patched_here (h : Keyed lobby.members) :
    (patched order prev next revision lobby).shown (.here u) =
      if Carries prev next (.here u) then next.json.shown (.here u) else lobby.shown (.here u) := by
  simp only [LobbyObject.shown, find_patched h]
  by_cases hsent : ∃ m ∈ next.members, Sent prev m ∧ m.userID = u
  · rw [if_pos (.inl hsent)]
    obtain ⟨m, hm, hsends, rfl⟩ := hsent
    rw [lookup_patchMembers_sent h hm hsends, find_json next hm]
    rfl
  · rw [lookup_patchMembers_of_not_sent h hsent]
    by_cases hgone : Gone prev next u
    · rw [if_pos hgone, if_pos (.inr hgone), find_json_none hgone.2]
    · have hnot : ¬ Carries prev next (.here u) := not_or.2 ⟨hsent, hgone⟩
      rw [if_neg hgone, if_neg hnot]

theorem shown_patched_member (h : Keyed lobby.members) (k : MemberField) :
    (patched order prev next revision lobby).shown (.member u k) =
      if Carries prev next (.member u k) then next.json.shown (.member u k)
      else lobby.shown (.member u k) := by
  simp only [LobbyObject.shown, find_patched h]
  by_cases hsent : ∃ m ∈ next.members, Sent prev m ∧ m.userID = u
  · obtain ⟨m, hm, hsends, rfl⟩ := hsent
    have hcarries : Carries prev next (.member m.userID k) ↔ ¬ memberFields.Omits m.get k := by
      constructor
      · rintro (⟨m', hm', -, hid, hfield⟩ | hgone)
        · rwa [eq_of_userID hm' hm hid] at hfield
        · exact absurd ⟨m, hm, rfl⟩ hgone.2
      · exact fun hfield => .inl ⟨m, hm, hsends, rfl, hfield⟩
    rw [lookup_patchMembers_sent h hm hsends, find_json next hm, Option.getD_some, Option.getD_some,
      LobbyMember.json, OmitEmpty.Fields.read_spread_encode, OmitEmpty.Fields.read_encode]
    by_cases homit : memberFields.Omits m.get k
    · rw [if_pos homit, if_neg fun hc => hcarries.1 hc homit]
    · rw [if_neg homit, if_pos (hcarries.2 homit)]
  · have hnone : ¬ ∃ m ∈ next.members, Sent prev m ∧ m.userID = u ∧ ¬ memberFields.Omits m.get k := by
      rintro ⟨m, hm, hsends, hid, -⟩
      exact hsent ⟨m, hm, hsends, hid⟩
    rw [lookup_patchMembers_of_not_sent h hsent]
    by_cases hgone : Gone prev next u
    · rw [if_pos hgone, if_pos (.inr hgone), find_json_none hgone.2]
    · have hnot : ¬ Carries prev next (.member u k) := not_or.2 ⟨hnone, hgone⟩
      rw [if_neg hgone, if_neg hnot]

/-- A patch writes what it carries, whatever the page showed. -/
theorem shown_patched (h : Keyed lobby.members) (hsame : SameLobby prev next) (c : Cell) :
    (patched order prev next revision lobby).shown c =
      if Carries prev next c then next.json.shown c else lobby.shown c := by
  cases c with
  | lobby f => exact get_patched hsame f
  | here u => exact shown_patched_here h
  | member u k => exact shown_patched_member h k

/-! ## What a patch does not miss -/

theorem shown_member_of_mem {snap : LobbySnapshot} (hm : m ∈ snap.members) (k : MemberField) :
    snap.json.shown (.member m.userID k) = m.get k := by
  simp only [LobbyObject.shown, find_json snap hm, Option.getD_some, LobbyMember.json,
    OmitEmpty.Fields.read_encode]

theorem shown_member_of_not_mem {snap : LobbySnapshot}
    (h : ¬ ∃ m ∈ snap.members, m.userID = u) (k : MemberField) :
    snap.json.shown (.member u k) = memberFields.zero k := by
  simp only [LobbyObject.shown, find_json_none h, Option.getD_none, OmitEmpty.Fields.read_empty]

theorem shown_here_iff (snap : LobbySnapshot) :
    snap.json.shown (.here u) = true ↔ ∃ m ∈ snap.members, m.userID = u := by
  constructor
  · intro h
    by_contra hnone
    rw [LobbyObject.shown, find_json_none hnone] at h
    cases h
  · rintro ⟨m, hm, rfl⟩
    rw [LobbyObject.shown, find_json snap hm]
    rfl

/-- A patch carries what differs, but for the presence of the members. -/
theorem carries_of_ne (h : PatchableAside prev next) {c : Cell} (hc : ¬ c.IsPresence)
    (hne : prev.json.shown c ≠ next.json.shown c) : Carries prev next c := by
  cases c with
  | lobby f => exact hne
  | here u =>
      by_cases hnext : ∃ m ∈ next.members, m.userID = u
      · obtain ⟨m, hm, rfl⟩ := hnext
        refine .inl ⟨m, hm, ⟨fun hprev => hne ?_, (h m hm).2⟩, rfl⟩
        rw [(shown_here_iff prev).2 ⟨m, hprev, rfl⟩, (shown_here_iff next).2 ⟨m, hm, rfl⟩]
      · by_cases hprev : ∃ p ∈ prev.members, p.userID = u
        · exact .inr ⟨hprev, hnext⟩
        · rw [← shown_here_iff, Bool.not_eq_true] at hnext hprev
          exact absurd (hprev.trans hnext.symm) hne
  | member u k =>
      by_cases hnext : ∃ m ∈ next.members, m.userID = u
      · obtain ⟨m, hm, rfl⟩ := hnext
        rw [shown_member_of_mem hm] at hne
        refine .inl ⟨m, hm, ⟨fun hprev => hne (shown_member_of_mem hprev k), (h m hm).2⟩, rfl, ?_⟩
        rintro ⟨homit, hzero⟩
        by_cases hprev : ∃ p ∈ prev.members, p.userID = m.userID
        · obtain ⟨p, hp, hid⟩ := hprev
          have hkept := (h m hm).1 p hp hid k hc homit hzero
          rw [← hid, shown_member_of_mem hp, hkept] at hne
          exact hne hzero.symm
        · rw [shown_member_of_not_mem hprev] at hne
          exact hne hzero.symm
      · by_cases hprev : ∃ p ∈ prev.members, p.userID = u
        · exact .inr ⟨hprev, hnext⟩
        · rw [shown_member_of_not_mem hprev, shown_member_of_not_mem hnext] at hne
          exact absurd rfl hne

end Cells

end GeoDuels.LobbySocket
