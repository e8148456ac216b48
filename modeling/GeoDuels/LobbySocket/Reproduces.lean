import GeoDuels.LobbySocket.Patch

/-!
# What a patch reproduces

The client shows the server's lobby after a patch exactly when no field of a member that JSON leaves out
has gone back to its zero value, and no member comes in whose fields are all zero
(`reproduces_iff`).
-/

namespace GeoDuels.LobbySocket.Reproduces

open OmitEmpty (omitEmpty spread)

/-- The client shows the lobby: the same fields, and members with the same fields, a missing one
counting as zero. -/
structure Agrees (lobby : LobbyObject) (snap : LobbySnapshot) : Prop where
  id : lobby.id = snap.id
  inviteCode : lobby.inviteCode = snap.inviteCode
  ownerUserId : lobby.ownerUserId = snap.ownerUserID
  state : lobby.state = snap.state
  mode : lobby.mode = snap.mode
  mapScope : lobby.mapScope = snap.mapScope
  config : lobby.config.getD {} = snap.config
  activeMatchId : lobby.activeMatchId.getD "" = snap.activeMatchID
  lastMatchId : lobby.lastMatchId.getD "" = snap.lastMatchID
  startedMatchId : lobby.startedMatchId.getD "" = snap.startedMatchID
  createdAt : lobby.createdAt = snap.createdAt
  expiresAt : lobby.expiresAt = snap.expiresAt
  members : ∀ x, x ∈ lobby.members.map memberFields.read ↔ x ∈ snap.members.map LobbyMember.get

/-- The members who stay keep what JSON leaves out, and the zero member does not come in. -/
def Patchable (prev next : LobbySnapshot) : Prop :=
  ∀ m ∈ next.members,
    (∀ p ∈ prev.members, p.userID = m.userID → memberFields.Keeps p.get m.get) ∧
      (m = {} → ∃ p ∈ prev.members, p.userID = m.userID)

/-! ## Members on the server -/

theorem get_injective : Function.Injective LobbyMember.get := by
  intro m m' h
  have hfield := congrFun h
  cases m
  cases m'
  congr
  · exact hfield .userId
  · exact hfield .displayName
  · exact hfield .avatarUrl
  · exact hfield .isGuest
  · exact hfield .isAdmin
  · exact hfield .selectedBadge
  · exact hfield .teamId
  · exact hfield .role
  · exact hfield .ready
  · exact hfield .connected
  · exact hfield .presenceStatus
  · exact hfield .joinedAt

theorem json_injective : Function.Injective LobbyMember.json :=
  memberFields.encode_injective.comp get_injective

theorem lookup_userId_json (m : LobbyMember) : m.json.lookup .userId = some m.userID := by
  rw [LobbyMember.json, OmitEmpty.Fields.lookup_encode, if_neg fun h => absurd h.1 (by decide)]
  rfl

theorem eq_of_userID {snap : LobbySnapshot} {m m' : LobbyMember} (hm : m ∈ snap.members)
    (hm' : m' ∈ snap.members) (h : m.userID = m'.userID) : m = m' :=
  List.inj_on_of_nodup_map snap.nodup hm hm' h

/-- The maps of `lobbyPatch` have the members of the snapshots. -/
theorem lookup_membersByID (snap : LobbySnapshot) (u : UserID) (m : LobbyMember) :
    (membersByID snap.members).lookup u = some m ↔ m ∈ snap.members ∧ m.userID = u :=
  Assoc.lookup_foldl_put_empty (fun s k v => AList.insert k v s)
    (fun s k v k' => Assoc.lookup_insert k k' v s) LobbyMember.userID snap.nodup u m

theorem mem_membersByID (snap : LobbySnapshot) (u : UserID) :
    u ∈ membersByID snap.members ↔ ∃ m ∈ snap.members, m.userID = u := by
  rw [Assoc.mem_iff_exists]
  exact exists_congr fun m => lookup_membersByID snap u m

variable {prev next : LobbySnapshot} {order : MapOrder} {revision : ℤ}

/-- A member is sent unless it is there as it was, or new and zero. -/
theorem mem_upsertMembers {m : LobbyMember} :
    m ∈ (lobbyPatch order prev next revision).upsertMembers ↔
      m ∈ next.members ∧ m ∉ prev.members ∧ (m = {} → ∃ p ∈ prev.members, p.userID = m.userID) := by
  unfold lobbyPatch
  dsimp only
  rw [List.mem_filter]
  refine and_congr_right fun _ => ?_
  rw [decide_eq_true_iff, lobbyMemberFingerprint, lobbyMemberFingerprint, json_injective.ne_iff]
  cases h : (membersByID prev.members).lookup m.userID with
  | none =>
      have hno : ∀ p ∈ prev.members, p.userID ≠ m.userID := by
        intro p hp hid
        have hsome := (lookup_membersByID prev m.userID p).2 ⟨hp, hid⟩
        rw [h] at hsome
        cases hsome
      rw [Option.getD_none]
      constructor
      · intro hne
        exact ⟨fun hm => hno m hm rfl, fun hzero => absurd hzero.symm hne⟩
      · rintro ⟨-, hzero⟩ heq
        obtain ⟨p, hp, hid⟩ := hzero heq.symm
        exact hno p hp hid
  | some p =>
      obtain ⟨hp, hid⟩ := (lookup_membersByID prev m.userID p).1 h
      rw [Option.getD_some]
      constructor
      · intro hne
        exact ⟨fun hm => hne (eq_of_userID hp hm hid), fun _ => ⟨p, hp, hid⟩⟩
      · rintro ⟨hm, -⟩ rfl
        exact hm hp

theorem mem_removeMemberIDs {u : UserID} :
    u ∈ (lobbyPatch order prev next revision).removeMemberIDs ↔
      (∃ p ∈ prev.members, p.userID = u) ∧ ¬ ∃ m ∈ next.members, m.userID = u := by
  unfold lobbyPatch
  dsimp only
  rw [List.mem_filter, decide_eq_true_iff, (order.perm _).mem_iff, ← AList.mem_keys, mem_membersByID,
    mem_membersByID]

/-! ## Members of the client -/

/-- Every member of the client has an id of its own. -/
structure Keyed (members : List MemberObject) : Prop where
  userId : ∀ o ∈ members, ∃ u, o.lookup .userId = some u
  nodup : (members.map fun o => o.lookup .userId).Nodup

theorem keyed_json (snap : LobbySnapshot) : Keyed snap.json.members where
  userId o ho := by
    obtain ⟨m, -, rfl⟩ := List.mem_map.1 ho
    exact ⟨m.userID, lookup_userId_json m⟩
  nodup := by
    have hids := snap.nodup.map (Option.some_injective UserID)
    rw [List.map_map] at hids
    rw [LobbySnapshot.json, List.map_map]
    convert hids using 2
    funext m
    exact lookup_userId_json m

/-- The id of an object that reads as a member. -/
theorem lookup_userId {members : List MemberObject} {o : MemberObject} {m : LobbyMember}
    (h : Keyed members) (ho : o ∈ members) (hread : memberFields.read o = m.get) :
    o.lookup .userId = some m.userID := by
  obtain ⟨u, hu⟩ := h.userId o ho
  have hid : memberFields.read o .userId = m.get .userId := congrFun hread .userId
  rw [OmitEmpty.Fields.read, hu] at hid
  rw [hu]
  exact congrArg some hid

/-- The members of the client read as those of the snapshot. -/
def Shows (members : List MemberObject) (snap : LobbySnapshot) : Prop :=
  ∀ x, x ∈ members.map memberFields.read ↔ x ∈ snap.members.map LobbyMember.get

section Shown

variable {members : List MemberObject} {snap : LobbySnapshot}

theorem Shows.member (h : Shows members snap) (hkeyed : Keyed members) {o : MemberObject}
    (ho : o ∈ members) :
    ∃ m ∈ snap.members, memberFields.read o = m.get ∧ o.lookup .userId = some m.userID := by
  obtain ⟨m, hm, hget⟩ := List.mem_map.1 ((h _).1 (List.mem_map_of_mem ho))
  exact ⟨m, hm, hget.symm, lookup_userId hkeyed ho hget.symm⟩

theorem Shows.object (h : Shows members snap) (hkeyed : Keyed members) {m : LobbyMember}
    (hm : m ∈ snap.members) :
    ∃ o ∈ members, memberFields.read o = m.get ∧ o.lookup .userId = some m.userID := by
  obtain ⟨o, ho, hread⟩ := List.mem_map.1 ((h _).2 (List.mem_map_of_mem hm))
  exact ⟨o, ho, hread, lookup_userId hkeyed ho hread⟩

end Shown

/-! ## The members after a patch -/

section Patched

variable {members : List MemberObject} {o o' : MemberObject} {u : UserID} {m p : LobbyMember}
  {k : Option UserID}

theorem removedHas_iff (h : o.lookup .userId = some u) :
    removedHas (lobbyPatch order prev next revision).json o ↔
      u ∈ (lobbyPatch order prev next revision).removeMemberIDs := by
  unfold removedHas LobbyPatch.json
  rw [OmitEmpty.getD_omitEmpty, List.any_eq_true]
  simp [h]

/-- The members whom a patch does not remove. -/
def remaining (members : List MemberObject) (order : MapOrder) (prev next : LobbySnapshot) (revision : ℤ) :
    Assoc (Option UserID) MemberObject :=
  membersByUserId
    (members.filter fun member => !removedHas (lobbyPatch order prev next revision).json member)

theorem lookup_remaining (hkeyed : Keyed members) :
    (remaining members order prev next revision).lookup k = some o ↔
      (o ∈ members ∧ removedHas (lobbyPatch order prev next revision).json o = false) ∧
        o.lookup .userId = k := by
  have hnodup := hkeyed.nodup.sublist (List.Sublist.map _
    (List.filter_sublist (p := fun member =>
      !removedHas (lobbyPatch order prev next revision).json member)))
  refine (Assoc.lookup_foldl_put_empty Assoc.set Assoc.lookup_set (fun o : MemberObject => o.lookup .userId)
    hnodup k o).trans ?_
  rw [List.mem_filter, Bool.not_eq_true']

/-- Those remain whom the next snapshot has. -/
theorem lookup_remaining_iff (hkeyed : Keyed members) (hshows : Shows members prev) :
    (remaining members order prev next revision).lookup (some u) = some o ↔
      o ∈ members ∧ o.lookup .userId = some u ∧ ∃ m ∈ next.members, m.userID = u := by
  rw [lookup_remaining hkeyed, and_assoc]
  refine and_congr_right fun ho => ?_
  rw [and_comm]
  refine and_congr_right fun hu => ?_
  rw [← Bool.not_eq_true, removedHas_iff hu, mem_removeMemberIDs, not_and_not_right]
  obtain ⟨p, hp, -, hid⟩ := hshows.member hkeyed ho
  have hprev : ∃ p ∈ prev.members, p.userID = u := ⟨p, hp, Option.some.inj (hid.symm.trans hu)⟩
  exact ⟨fun h => h hprev, fun h _ => h⟩

/-- A member is what is sent of it over what has remained, or what has remained. -/
theorem lookup_patchMembers :
    (patchMembers members (lobbyPatch order prev next revision).json).lookup k = some o' ↔
      (∃ m ∈ (lobbyPatch order prev next revision).upsertMembers, some m.userID = k ∧
        spread (((remaining members order prev next revision).lookup k).getD ∅) m.json = o') ∨
      (∀ m ∈ (lobbyPatch order prev next revision).upsertMembers, some m.userID ≠ k) ∧
        (remaining members order prev next revision).lookup k = some o' := by
  have hids : ((lobbyPatch order prev next revision).upsertMembers.map fun m => some m.userID).Nodup := by
    have hnext := (next.nodup.map (Option.some_injective UserID))
    rw [List.map_map] at hnext
    exact hnext.sublist (List.filter_sublist.map _)
  have hkeys : (((lobbyPatch order prev next revision).upsertMembers.map LobbyMember.json).map
      fun o => o.lookup .userId).Nodup := by
    rw [List.map_map]
    convert hids using 2
    funext m
    exact lookup_userId_json m
  have hpatch : patchMembers members (lobbyPatch order prev next revision).json =
      ((lobbyPatch order prev next revision).upsertMembers.map LobbyMember.json).foldl
        (fun z member => z.set (member.lookup .userId)
          (spread ((z.lookup (member.lookup .userId)).getD ∅) member))
        (remaining members order prev next revision) := by
    unfold patchMembers remaining
    congr 1
    exact OmitEmpty.getD_omitEmpty _ _
  rw [hpatch, Assoc.lookup_foldl_put Assoc.set Assoc.lookup_set (fun o : MemberObject => o.lookup .userId)
    (fun old o => spread (old.getD ∅) o) hkeys]
  simp only [List.mem_map, lookup_userId_json, exists_exists_and_eq_and, not_exists, not_and, ne_eq]

/-- The key of a member is its id. -/
theorem userId_of_lookup_patchMembers (hkeyed : Keyed members)
    (h : (patchMembers members (lobbyPatch order prev next revision).json).lookup k = some o') :
    o'.lookup .userId = k := by
  rcases lookup_patchMembers.1 h with ⟨m, -, rfl, rfl⟩ | ⟨-, hrem⟩
  · rw [OmitEmpty.lookup_spread, lookup_userId_json, Option.some_or]
  · exact ((lookup_remaining hkeyed).1 hrem).2

/-- Only members of the next snapshot are left. -/
theorem mem_next_of_lookup (hkeyed : Keyed members) (hshows : Shows members prev)
    (h : (patchMembers members (lobbyPatch order prev next revision).json).lookup k = some o') :
    ∃ m ∈ next.members, k = some m.userID := by
  rcases lookup_patchMembers.1 h with ⟨m, hm, hid, -⟩ | ⟨-, hrem⟩
  · exact ⟨m, (mem_upsertMembers.1 hm).1, hid.symm⟩
  · obtain ⟨ho, hk⟩ := (lookup_remaining hkeyed).1 hrem
    obtain ⟨p, hp, -, hid⟩ := hshows.member hkeyed ho.1
    rw [← hk, hid] at hrem
    obtain ⟨-, -, m, hm, hmid⟩ := (lookup_remaining_iff hkeyed hshows).1 hrem
    exact ⟨m, hm, by rw [← hk, hid, hmid]⟩

/-- A member of the next snapshot is shown as it is there. -/
def ShownAs (z : Assoc (Option UserID) MemberObject) (m : LobbyMember) : Prop :=
  ∃ o, z.lookup (some m.userID) = some o ∧ memberFields.read o = m.get

theorem shownAs_iff_of_sent (hm : m ∈ (lobbyPatch order prev next revision).upsertMembers) :
    ShownAs (patchMembers members (lobbyPatch order prev next revision).json) m ↔
      memberFields.Keeps (memberFields.read
        (((remaining members order prev next revision).lookup (some m.userID)).getD ∅)) m.get := by
  have hlookup : (patchMembers members (lobbyPatch order prev next revision).json).lookup (some m.userID) =
      some (spread (((remaining members order prev next revision).lookup (some m.userID)).getD ∅) m.json) :=
    lookup_patchMembers.2 (.inl ⟨m, hm, rfl, rfl⟩)
  unfold ShownAs
  rw [hlookup, ← OmitEmpty.Fields.read_spread_encode_eq_iff, ← LobbyMember.json]
  constructor
  · rintro ⟨o, ho, hread⟩
    rwa [Option.some.inj ho]
  · exact fun hread => ⟨_, rfl, hread⟩

theorem lookup_of_not_sent (hm : m ∈ next.members)
    (hnot : m ∉ (lobbyPatch order prev next revision).upsertMembers) :
    (patchMembers members (lobbyPatch order prev next revision).json).lookup (some m.userID) =
      (remaining members order prev next revision).lookup (some m.userID) := by
  have hne : ∀ m' ∈ (lobbyPatch order prev next revision).upsertMembers,
      some m'.userID ≠ some m.userID := by
    intro m' hm' heq
    rw [eq_of_userID (mem_upsertMembers.1 hm').1 hm (Option.some.inj heq)] at hm'
    exact hnot hm'
  ext o
  rw [lookup_patchMembers]
  constructor
  · rintro (⟨m', hm', heq, -⟩ | ⟨-, hrem⟩)
    · exact absurd heq (hne m' hm')
    · exact hrem
  · exact fun hrem => .inr ⟨hne, hrem⟩

/-- A member of both snapshots is shown as it is in the next one when it keeps what JSON leaves out. -/
theorem shownAs_iff_keeps (hkeyed : Keyed members) (hshows : Shows members prev) (hp : p ∈ prev.members)
    (hm : m ∈ next.members) (hid : p.userID = m.userID) :
    ShownAs (patchMembers members (lobbyPatch order prev next revision).json) m ↔
      memberFields.Keeps p.get m.get := by
  obtain ⟨o, ho, hread, hoid⟩ := hshows.object hkeyed hp
  have hrem : (remaining members order prev next revision).lookup (some m.userID) = some o :=
    (lookup_remaining_iff hkeyed hshows).2 ⟨ho, by rw [hoid, hid], m, hm, rfl⟩
  by_cases hsame : m ∈ prev.members
  · obtain rfl := eq_of_userID hp hsame hid
    have hnot : p ∉ (lobbyPatch order prev next revision).upsertMembers := fun h =>
      (mem_upsertMembers.1 h).2.1 hp
    refine iff_of_true ⟨o, ?_, hread⟩ (memberFields.keeps_refl p.get)
    rw [lookup_of_not_sent hm hnot, hrem]
  · have hsent : m ∈ (lobbyPatch order prev next revision).upsertMembers :=
      mem_upsertMembers.2 ⟨hm, hsame, fun _ => ⟨p, hp, hid⟩⟩
    rw [shownAs_iff_of_sent hsent, hrem, Option.getD_some, hread]

/-- A new member is shown unless it is zero. -/
theorem shownAs_iff_ne_zero (hkeyed : Keyed members) (hshows : Shows members prev)
    (hm : m ∈ next.members) (hnew : ¬ ∃ p ∈ prev.members, p.userID = m.userID) :
    ShownAs (patchMembers members (lobbyPatch order prev next revision).json) m ↔ m ≠ {} := by
  have hrem : (remaining members order prev next revision).lookup (some m.userID) = none := by
    refine Option.eq_none_iff_forall_ne_some.2 fun o ho => hnew ?_
    obtain ⟨hmem, hid, -⟩ := (lookup_remaining_iff hkeyed hshows).1 ho
    obtain ⟨p, hp, -, hpid⟩ := hshows.member hkeyed hmem
    exact ⟨p, hp, Option.some.inj (hpid.symm.trans hid)⟩
  by_cases hzero : m = {}
  · have hnot : m ∉ (lobbyPatch order prev next revision).upsertMembers := fun h =>
      hnew ((mem_upsertMembers.1 h).2.2 hzero)
    refine iff_of_false ?_ (not_not_intro hzero)
    rintro ⟨o, ho, -⟩
    rw [lookup_of_not_sent hm hnot, hrem] at ho
    cases ho
  · have hsent : m ∈ (lobbyPatch order prev next revision).upsertMembers :=
      mem_upsertMembers.2 ⟨hm, fun h => hnew ⟨m, h, rfl⟩, fun h => absurd h hzero⟩
    rw [shownAs_iff_of_sent hsent, hrem]
    exact iff_of_true (memberFields.keeps_zero m.get) hzero

theorem shownAs_iff (hkeyed : Keyed members) (hshows : Shows members prev) (hm : m ∈ next.members) :
    ShownAs (patchMembers members (lobbyPatch order prev next revision).json) m ↔
      (∀ p ∈ prev.members, p.userID = m.userID → memberFields.Keeps p.get m.get) ∧
        (m = {} → ∃ p ∈ prev.members, p.userID = m.userID) := by
  by_cases hprev : ∃ p ∈ prev.members, p.userID = m.userID
  · obtain ⟨p, hp, hid⟩ := hprev
    rw [shownAs_iff_keeps hkeyed hshows hp hm hid]
    constructor
    · refine fun hkeeps => ⟨fun p' hp' hid' => ?_, fun _ => ⟨p, hp, hid⟩⟩
      rwa [eq_of_userID hp' hp (hid'.trans hid.symm)]
    · exact fun h => h.1 p hp hid
  · rw [shownAs_iff_ne_zero hkeyed hshows hm hprev]
    constructor
    · exact fun hzero => ⟨fun p hp hid => absurd ⟨p, hp, hid⟩ hprev, fun h => absurd h hzero⟩
    · exact fun h hzero => hprev (h.2 hzero)

theorem shows_values_iff (hkeyed : Keyed members) (hshows : Shows members prev) :
    Shows (patchMembers members (lobbyPatch order prev next revision).json).values next ↔
      Patchable prev next := by
  have hiff : Shows (patchMembers members (lobbyPatch order prev next revision).json).values next ↔
      ∀ m ∈ next.members,
        ShownAs (patchMembers members (lobbyPatch order prev next revision).json) m := by
    constructor
    · intro h m hm
      obtain ⟨o, ho, hread⟩ := List.mem_map.1 ((h _).2 (List.mem_map_of_mem hm))
      obtain ⟨k, hk⟩ := Assoc.mem_values.1 ho
      obtain ⟨m', hm', rfl⟩ := mem_next_of_lookup hkeyed hshows hk
      have hid : m'.userID = m.userID := by
        have hread' : memberFields.read o .userId = m.get .userId := congrFun hread .userId
        rw [OmitEmpty.Fields.read, userId_of_lookup_patchMembers hkeyed hk] at hread'
        exact hread'
      exact ⟨o, by rw [← hid, hk], hread⟩
    · intro h x
      constructor
      · intro hx
        obtain ⟨o, ho, rfl⟩ := List.mem_map.1 hx
        obtain ⟨k, hk⟩ := Assoc.mem_values.1 ho
        obtain ⟨m, hm, rfl⟩ := mem_next_of_lookup hkeyed hshows hk
        obtain ⟨o', ho', hread⟩ := h m hm
        rw [hk] at ho'
        rw [Option.some.inj ho', hread]
        exact List.mem_map_of_mem hm
      · intro hx
        obtain ⟨m, hm, rfl⟩ := List.mem_map.1 hx
        obtain ⟨o, ho, hread⟩ := h m hm
        rw [← hread]
        exact List.mem_map_of_mem (Assoc.mem_values.2 ⟨_, ho⟩)
  rw [hiff]
  exact forall₂_congr fun m hm => shownAs_iff hkeyed hshows hm

/-- The members after a patch are those of the loop also when it is skipped. -/
theorem mem_members_applied (hkeyed : Keyed members) :
    o ∈ (if (lobbyPatch order prev next revision).json.upsertMembers.getD [] ≠ [] ∨
        (lobbyPatch order prev next revision).json.removeMemberIds.getD [] ≠ [] then
      (patchMembers members (lobbyPatch order prev next revision).json).values else members) ↔
      o ∈ (patchMembers members (lobbyPatch order prev next revision).json).values := by
  split_ifs with hsent
  · exact Iff.rfl
  · rw [not_or, not_not, not_not] at hsent
    have hno : (lobbyPatch order prev next revision).upsertMembers = [] := by
      have hmap : (lobbyPatch order prev next revision).upsertMembers.map LobbyMember.json = [] :=
        (OmitEmpty.getD_omitEmpty [] _).symm.trans hsent.1
      exact List.map_eq_nil_iff.1 hmap
    have hkept : removedHas (lobbyPatch order prev next revision).json o = false := by
      unfold removedHas
      rw [hsent.2]
      rfl
    rw [Assoc.mem_values]
    constructor
    · intro ho
      refine ⟨o.lookup .userId, lookup_patchMembers.2 (.inr ⟨?_, ?_⟩)⟩
      · rw [hno]
        exact fun m hm => absurd hm List.not_mem_nil
      · exact (lookup_remaining hkeyed).2 ⟨⟨ho, hkept⟩, rfl⟩
    · rintro ⟨k, hk⟩
      rcases lookup_patchMembers.1 hk with ⟨m, hm, -⟩ | ⟨-, hrem⟩
      · rw [hno] at hm
        cases hm
      · exact ((lookup_remaining hkeyed).1 hrem).1.1

theorem keyed_values (hkeyed : Keyed members) :
    Keyed (patchMembers members (lobbyPatch order prev next revision).json).values where
  userId o ho := by
    obtain ⟨k, hk⟩ := Assoc.mem_values.1 ho
    rcases lookup_patchMembers.1 hk with ⟨m, -, rfl, -⟩ | ⟨-, hrem⟩
    · exact ⟨m.userID, userId_of_lookup_patchMembers hkeyed hk⟩
    · exact hkeyed.userId o ((lookup_remaining hkeyed).1 hrem).1.1
  nodup := by
    have hkeys := (patchMembers members (lobbyPatch order prev next revision).json).keys_nodup
    convert hkeys using 1
    rw [Assoc.values, List.map_map, AList.keys, List.keys]
    refine List.map_congr_left fun e he => ?_
    exact userId_of_lookup_patchMembers hkeyed (Assoc.mem_entries_iff.1 he)

end Patched

/-! ## Lobbies after a patch -/

theorem getD_changed {α : Type} [DecidableEq α] (prev next : α) : (changed prev next).getD prev = next := by
  unfold changed
  split_ifs with h
  · rfl
  · exact not_not.1 h

theorem getD_changed_or {α : Type} [DecidableEq α] {zero prev : α} {old : Option α} (next : α)
    (h : old.getD zero = prev) : ((changed prev next).or old).getD zero = next := by
  unfold changed
  split_ifs with hne
  · rfl
  · rw [Option.none_or, h, not_not.1 hne]

/-- What the client holds of a snapshot. -/
structure Holds (lobby : LobbyObject) (snap : LobbySnapshot) : Prop where
  agrees : Agrees lobby snap
  keyed : Keyed lobby.members

theorem holds_json (snap : LobbySnapshot) : Holds snap.json snap where
  agrees :=
    { id := rfl, inviteCode := rfl, ownerUserId := rfl, state := rfl, mode := rfl, mapScope := rfl
      config := rfl, createdAt := rfl, expiresAt := rfl
      activeMatchId := OmitEmpty.getD_omitEmpty "" snap.activeMatchID
      lastMatchId := OmitEmpty.getD_omitEmpty "" snap.lastMatchID
      startedMatchId := OmitEmpty.getD_omitEmpty "" snap.startedMatchID
      members := fun x => by
        have hread : memberFields.read ∘ LobbyMember.json = LobbyMember.get :=
          funext fun m => memberFields.read_encode m.get
        rw [LobbySnapshot.json, List.map_map, hread] }
  keyed := keyed_json snap

/-- The client shows the snapshot. -/
def Showing (client : Option LobbyObject) (snap : LobbySnapshot) : Prop :=
  ∃ lobby, client = some lobby ∧ Agrees lobby snap

variable {lobby : LobbyObject}

theorem shows_congr {members members' : List MemberObject} {snap : LobbySnapshot}
    (h : ∀ o, o ∈ members ↔ o ∈ members') : Shows members snap ↔ Shows members' snap := by
  unfold Shows
  simp only [List.mem_map, h]

/-- The client after a patch of what it holds. -/
theorem applyLobbyPatch_spec (order : MapOrder) (revision : ℤ) (h : Holds lobby prev)
    (hsame : SameLobby prev next) :
    ∃ lobby', applyLobbyPatch (some lobby) (lobbyPatch order prev next revision).json = some lobby' ∧
      Keyed lobby'.members ∧ (Agrees lobby' next ↔ Patchable prev next) := by
  obtain ⟨hid, hcode, hscope, hcreated, hexpires⟩ := hsame
  have hshows : Shows lobby.members prev := h.agrees.members
  refine ⟨_, rfl, ?_, ?_⟩
  · dsimp only
    split_ifs
    · exact keyed_values h.keyed
    · exact h.keyed
  · have hvalues : _ ↔ Patchable prev next := @shows_values_iff prev next order revision _ h.keyed hshows
    rw [← hvalues, ← shows_congr fun o => mem_members_applied h.keyed]
    constructor
    · exact fun hagrees => hagrees.members
    · intro hmembers
      have ha := h.agrees
      exact
        { id := ha.id.trans hid.symm
          inviteCode := ha.inviteCode.trans hcode.symm
          ownerUserId := by
            dsimp only
            rw [ha.ownerUserId]
            exact getD_changed _ _
          state := by
            dsimp only
            rw [ha.state]
            exact getD_changed _ _
          mode := by
            dsimp only
            rw [ha.mode]
            exact getD_changed _ _
          mapScope := ha.mapScope.trans hscope.symm
          config := getD_changed_or _ ha.config
          activeMatchId := getD_changed_or _ ha.activeMatchId
          lastMatchId := getD_changed_or _ ha.lastMatchId
          startedMatchId := getD_changed_or _ ha.startedMatchId
          createdAt := ha.createdAt.trans hcreated.symm
          expiresAt := ha.expiresAt.trans hexpires.symm
          members := hmembers }

theorem showing_applyLobbyPatch_iff (h : Holds lobby prev) (hsame : SameLobby prev next) :
    Showing (applyLobbyPatch (some lobby) (lobbyPatch order prev next revision).json) next ↔
      Patchable prev next := by
  obtain ⟨lobby', happly, -, hiff⟩ := applyLobbyPatch_spec order revision h hsame
  rw [happly, ← hiff]
  constructor
  · rintro ⟨_, heq, hagrees⟩
    rwa [Option.some.inj heq]
  · exact fun hagrees => ⟨lobby', rfl, hagrees⟩

/-! ## Sockets -/

/-- The client of a socket holds what was last sent. -/
def Follows {first : LobbySnapshot} (s : Socket first) : Prop :=
  ∃ lobby, s.client = some lobby ∧ Holds lobby s.lastLobby.val

theorem members_eq_of_fingerprint (h : lobbyFingerprint next = lobbyFingerprint prev) :
    next.members = prev.members :=
  json_injective.list_map (congrArg LobbyObject.members h)

theorem patchable_of_members_eq (h : next.members = prev.members) : Patchable prev next := by
  intro m hm
  rw [h] at hm
  refine ⟨fun p hp hid => ?_, fun _ => ⟨m, hm, rfl⟩⟩
  rw [eq_of_userID hp hm hid]
  exact memberFields.keeps_refl m.get

theorem sameLobby_of_first {first : LobbySnapshot} (h : SameLobby first prev) (h' : SameLobby first next) :
    SameLobby prev next :=
  ⟨h'.1.trans h.1.symm, h'.2.1.trans h.2.1.symm, h'.2.2.1.trans h.2.2.1.symm,
    h'.2.2.2.1.trans h.2.2.2.1.symm, h'.2.2.2.2.trans h.2.2.2.2.symm⟩

section Socket

variable {first : LobbySnapshot} {s s' : Socket first} {r : Refresh first}

/-- A refresh sends nothing, or the patch to the new snapshot. -/
theorem refreshLobby_spec (h : s.refreshLobby r = some s') :
    lobbyFingerprint r.next.val = lobbyFingerprint s.lastLobby.val ∧ s' = s ∨
      s'.lastLobby = r.next ∧ s'.client = applyLobbyPatch s.client
        (lobbyPatch r.order s.lastLobby.val r.next.val s'.revision).json := by
  unfold Socket.refreshLobby at h
  dsimp only at h
  split_ifs at h with hne
  · obtain rfl := Option.some.inj h
    exact .inr ⟨rfl, rfl⟩
  · exact .inl ⟨not_not.1 hne, (Option.some.inj h).symm⟩

theorem follows_refreshLobby (hs : Follows s) (hpatch : Patchable s.lastLobby.val r.next.val)
    (h : s.refreshLobby r = some s') : Follows s' := by
  rcases refreshLobby_spec h with ⟨-, rfl⟩ | ⟨hlast, hclient⟩
  · exact hs
  · obtain ⟨lobby, hlobby, hholds⟩ := hs
    obtain ⟨lobby', happly, hkeyed, hiff⟩ := applyLobbyPatch_spec r.order s'.revision hholds
      (sameLobby_of_first s.lastLobby.property r.next.property)
    refine ⟨lobby', by rw [hclient, hlobby, happly], ?_, hkeyed⟩
    rw [hlast]
    exact hiff.2 hpatch

theorem not_showing_refreshLobby (hs : Follows s) (hpatch : ¬ Patchable s.lastLobby.val r.next.val)
    (h : s.refreshLobby r = some s') : ¬ Showing s'.client s'.lastLobby.val := by
  rcases refreshLobby_spec h with ⟨hsame, -⟩ | ⟨hlast, hclient⟩
  · exact absurd (patchable_of_members_eq (members_eq_of_fingerprint hsame)) hpatch
  · obtain ⟨lobby, hlobby, hholds⟩ := hs
    rw [hclient, hlast, hlobby,
      showing_applyLobbyPatch_iff hholds (sameLobby_of_first s.lastLobby.property r.next.property)]
    exact hpatch

end Socket

/-- The patch of two snapshots of a lobby leaves a client that shows the first one with the second one
exactly when it is patchable; and a client shows what was last sent after all the refreshes
of a socket exactly when all of them are. -/
theorem reproduces_iff (prev : LobbySnapshot) (next : LobbyOf prev) (order : MapOrder) (revision : ℤ)
    (rs : List (Refresh prev)) :
    (Showing (applyLobbyPatch (some prev.json) (lobbyPatch order prev next.val revision).json) next.val ↔
      Patchable prev next.val) ∧
    (Run.Always Socket.refreshLobby (fun s => Showing s.client s.lastLobby.val) (connect prev) rs ↔
      Run.Guarded Socket.refreshLobby (fun s r => Patchable s.lastLobby.val r.next.val) (connect prev)
        rs) := by
  refine ⟨showing_applyLobbyPatch_iff (holds_json prev) next.property, ?_⟩
  refine Run.always_iff_guarded Follows (fun s r s' hs hpatch h => follows_refreshLobby hs hpatch h) ?_
    (fun s r s' hs hpatch h => not_showing_refreshLobby hs hpatch h) ⟨_, rfl, holds_json prev⟩
  rintro s ⟨lobby, hlobby, hholds⟩
  exact ⟨lobby, hlobby, hholds.agrees⟩

/-! ### A member who goes offline -/

def onlineMember (connected : Bool) (presenceStatus : LobbyPresenceStatus) : LobbyMember where
  userID := "u2"
  displayName := "Two"
  role := "member"
  connected := connected
  presenceStatus := presenceStatus

def twoMembers (connected : Bool) (presenceStatus : LobbyPresenceStatus) : LobbySnapshot where
  id := "lob-1"
  inviteCode := "ABCDEF"
  ownerUserID := "u1"
  state := .open_
  mode := .duel
  mapScope := "world"
  members :=
    [{ userID := "u1", displayName := "One", role := "owner", connected := true, presenceStatus := .online },
      onlineMember connected presenceStatus]
  nodup := by simp [onlineMember]

theorem not_showing_offline : ¬ ∀ (prev : LobbySnapshot) (next : LobbyOf prev) (order : MapOrder)
    (revision : ℤ),
    Showing (applyLobbyPatch (some prev.json) (lobbyPatch order prev next.val revision).json) next.val := by
  intro h
  have hstays : ∀ lobby ∈ applyLobbyPatch (some (twoMembers true .online).json)
      (lobbyPatch ⟨id, fun _ => .refl _⟩ (twoMembers true .online) (twoMembers false .offline) 2).json,
      ∀ o ∈ lobby.members, memberFields.read o .userId = "u2" → memberFields.read o .connected = true := by
    decide +kernel
  obtain ⟨lobby, hlobby, hagrees⟩ := h (twoMembers true .online)
    ⟨twoMembers false .offline, rfl, rfl, rfl, rfl, rfl⟩ ⟨id, fun _ => .refl _⟩ 2
  obtain ⟨o, ho, hread⟩ := List.mem_map.1 ((hagrees.members (onlineMember false .offline).get).2
    (List.mem_map_of_mem (by simp [twoMembers])))
  have hconnected := hstays lobby hlobby o ho (congrFun hread .userId)
  rw [hread] at hconnected
  cases hconnected

end GeoDuels.LobbySocket.Reproduces
