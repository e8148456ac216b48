import GeoDuels.Persistence.Interleaved
import Mathlib.Data.List.Perm.Subperm

/-!
# Eight members

`JoinLobby` counts the other members in one statement and inserts its own in a later one.  A lobby
stays within eight active members exactly when what it has counted still holds when it inserts
(`atMostEight_iff`).
-/

namespace GeoDuels.Persistence.Capacity

open ReadCommitted (view update rowsAffected Evolves)

/-- Every lobby has at most eight active members. -/
def AtMostEight (db : DB) : Prop := ∀ l, (activeUsers db l).length ≤ 8

/-- When a call of `JoinLobby` inserts, fewer than eight others are active. -/
def HasRoom : LobbyProc → DB → Moment → Prop
  | .join l u (.insert _), db, _ => countOthers db l u < 8
  | _, _, _ => True

instance HasRoom.decidable (p : LobbyProc) (db : DB) (e : Moment) : Decidable (HasRoom p db e) :=
  match p with
  | .join l u (.insert _) => inferInstanceAs (Decidable (countOthers db l u < 8))
  | .join _ _ .ensureOpen | .join _ _ .expire | .join _ _ .count | .join _ _ .lobby
  | .join _ _ .touch | .join _ _ .read | .leave .. | .kick .. | .transfer .. => .isTrue trivial

variable {db db' rows : DB} {l l' : LobbyID} {u : UserID} {leaver : Option UserID}

theorem length_activeUsers_le (h : ∀ u, Active db' l u → Active db l u) :
    (activeUsers db' l).length ≤ (activeUsers db l).length := by
  refine ((nodup_activeUsers db' l).subperm fun u hu => ?_).length_le
  exact mem_activeUsers.2 (h u (mem_activeUsers.1 hu))

/-- The members after the insert are the others and the one who has joined. -/
theorem length_upsertMember (now : ℕ) (role : Role) :
    (activeUsers (view (upsertMember db l u now role) db) l).length = countOthers db l u + 1 := by
  have hfresh : u ∉ (activeUsers db l).filter (· ≠ u) := by simp
  have hperm : (activeUsers (view (upsertMember db l u now role) db) l).Perm
      (u :: (activeUsers db l).filter (· ≠ u)) := by
    rw [List.perm_ext_iff_of_nodup (nodup_activeUsers _ l)
      (List.nodup_cons.2 ⟨hfresh, (nodup_activeUsers db l).filter _⟩)]
    intro v
    rw [mem_activeUsers, active_upsertMember, List.mem_cons, List.mem_filter, mem_activeUsers]
    by_cases hv : v = u <;> simp [hv]
  rw [hperm.length_eq, List.length_cons, countOthers_eq]

theorem atMostEight_of_moves (h : AtMostEight db) (hrows : Evolves (Moves l leaver) rows db) :
    AtMostEight (view rows db) :=
  fun l' => (length_activeUsers_le fun _ => active_of_moves hrows).trans (h l')

theorem atMostEight_run {p : LobbyProc} {e : Moment} (hp : p.Fine db) (h : AtMostEight db)
    (hroom : HasRoom p db e) : AtMostEight (view (p.run db e).1 db) := by
  have hcommits := commits_run p db e
  generalize (p.run db e).1 = rows at hcommits
  cases hcommits with
  | nothing => rwa [ReadCommitted.view_empty]
  | expire l u => exact atMostEight_of_moves h (@moves_expireLobby l none db e.now)
  | touch l u => exact atMostEight_of_moves h (@moves_touchLobby l none db e.now)
  | kick l owner target => exact atMostEight_of_moves h (moves_markKicked (trim target) e.now)
  | leave l u now own => exact atMostEight_of_moves h hp.1
  | transfer l owner target now own => exact atMostEight_of_moves h hp
  | insert l u role =>
      have hothers : countOthers db l u < 8 := hroom
      intro l'
      by_cases hl : l' = l
      · rw [hl, length_upsertMember]
        omega
      · refine le_trans (length_activeUsers_le fun v hv => ?_) (h l')
        rw [active_upsertMember] at hv
        exact hv.resolve_left fun h => hl h.1

theorem not_atMostEight_run {p : LobbyProc} {e : Moment} (hroom : ¬ HasRoom p db e) :
    ¬ AtMostEight (view (p.run db e).1 db) := by
  cases p with
  | join l u at_ =>
      cases at_ with
      | insert role =>
          intro h
          have hle : (activeUsers (view (upsertMember db l u e.now role) db) l).length ≤ 8 := h l
          rw [length_upsertMember] at hle
          exact hroom (show countOthers db l u < 8 by omega)
      | ensureOpen | expire | count | lobby | touch | read => exact absurd trivial hroom
  | leave | kick | transfer => exact absurd trivial hroom

/-- From a database in which no lobby has more than eight active members, all the states of a run of
concurrent calls are like this exactly when no `JoinLobby` inserts beside eight others. -/
theorem atMostEight_iff (hdb : AtMostEight db) (as : List LobbyAct) :
    Run.Always ReadCommitted.World.step (fun w : LobbyWorld => AtMostEight w.db) ⟨db, ∅⟩ as ↔
      ReadCommitted.World.StatementsMeet HasRoom (⟨db, ∅⟩ : LobbyWorld) as := by
  refine ReadCommitted.World.always_iff_meet lobby_local (fun p db e hp h hroom => ?_)
    (fun p db e _ _ hroom => ?_) (ReadCommitted.World.Inv.init db) hdb as
  · exact atMostEight_run hp h hroom
  · exact not_atMostEight_run hroom

/-! ### Two joins at once -/

/-- An open lobby of the user `u0` with seven members. -/
def seven : DB :=
  let lobby : LobbyRow :=
    { inviteCode := "ABCDEF", ownerUserID := "u0", mode := .freeForAll, mapScope := "world"
      createdAt := 0, expiresAt := 1000, updatedAt := 0 }
  let member (role : Role) : MemberRow := { role := role, teamID := some "a", joinedAt := 0 }
  ["u1", "u2", "u3", "u4", "u5", "u6"].foldl (fun db u => AList.insert (.member "l" u) (member .member) db)
    (AList.insert (.member "l" "u0") (member .owner) (AList.insert (.lobby "l") lobby ∅))

/-- A member of `seven` leaves while `u7` joins. -/
def joinAndLeave : List LobbyAct :=
  [.start 0 (.leaveLobby "l" "u1" 1), .start 1 (.joinLobby "l" "u7")] ++
    [0, 0, 1, 0, 1, 0, 1, 1, 1].map fun id => .run id {}

theorem atMostEight_seven : AtMostEight seven := by
  intro l
  by_cases hl : l = "l"
  · subst hl
    decide
  · have hkeys : ∀ k ∈ seven.keys, ∀ u, k = .member l u → l = "l" := by
      intro k hk u hku
      have hall : (seven.keys.all fun
          | .member l _ => l = "l"
          | .lobby _ => true) = true := by decide
      have hl := List.all_eq_true.1 hall k hk
      rw [hku] at hl
      exact of_decide_eq_true hl
    rw [List.length_eq_zero_iff.2]
    · omega
    · refine List.eq_nil_iff_forall_not_mem.2 fun u hu => hl ?_
      obtain ⟨row, hrow, -⟩ := mem_activeUsers.1 hu
      refine hkeys (.member l u) (AList.mem_keys.1 ?_) u rfl
      rw [← AList.lookup_isSome]
      exact Option.isSome_of_eq_some hrow

instance (w : LobbyWorld) (as : List LobbyAct) :
    Decidable (ReadCommitted.World.StatementsMeet HasRoom w as) :=
  @ReadCommitted.World.StatementsMeet.decidable _ Row _ lobbyProgram HasRoom HasRoom.decidable w as

theorem atMostEight_joinAndLeave : Run.Always ReadCommitted.World.step
    (fun w : LobbyWorld => AtMostEight w.db) ⟨seven, ∅⟩ joinAndLeave :=
  (atMostEight_iff atMostEight_seven joinAndLeave).2 (by decide +kernel)

/-- Two users count the seven members before either of them inserts. -/
def twoJoins : List LobbyAct :=
  [.start 0 (.joinLobby "l" "u7"), .start 1 (.joinLobby "l" "u8")] ++
    [0, 0, 0, 1, 1, 1, 0, 1].map fun id => .run id {}

theorem not_atMostEight_twoJoins : ¬ ∀ db, AtMostEight db → ∀ as : List LobbyAct,
    Run.Always ReadCommitted.World.step (fun w : LobbyWorld => AtMostEight w.db) ⟨db, ∅⟩ as := by
  intro h
  have hrun : ∃ w ∈ Run.exec ReadCommitted.World.step (⟨seven, ∅⟩ : LobbyWorld) twoJoins,
      (activeUsers w.db "l").length = 9 := by decide +kernel
  obtain ⟨w, hw, hnine⟩ := hrun
  have hle := (h seven atMostEight_seven twoJoins).exec hw "l"
  rw [hnine] at hle
  omega

end GeoDuels.Persistence.Capacity
