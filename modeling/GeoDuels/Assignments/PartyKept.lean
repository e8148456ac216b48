import GeoDuels.Assignments.Requests

/-!
# A singleplayer session and a running party match

`startSingleplayerSession` for a user who is in a live match of a private party.  The policy
(`resolve`) refuses a singleplayer session in every such mode, and so do the handlers of the queue and of
the lobbies; this handler compares the mode with `duel` only (`rejected_iff`).  For a team duel or a free
for all it asks the node to end the match or, when the answer of `ValidateAssignment` was `pending`, clears
the assignment of every player.
-/

namespace GeoDuels.Assignments

open Coordinator (Assignment NodeRecord)
open MatchCoordinator (AssignmentStatus)
open Prog (exec exec_bind exec_bind_append exec_cmd exec_cmd_bind exec_ret)

/-! ## What a check leaves -/

section Checks

variable {s s' : Shared} {xs : List Choice}

theorem setNode_self {p : ProcessID} {proc : NodeProcess} (h : s.processes.lookup p = some proc) :
    s.setNode p proc.node = s := by
  unfold Shared.setNode
  rw [Assoc.modify_of_lookup h rfl]

/-- A question to a node that does not change it leaves everything as it was. -/
theorem ask_quiet (x : Choice) (f : GameplayNode.Node → ℕ) :
    (s.ask x fun n => (f n, n)).2 = s := by
  unfold Shared.ask
  split_ifs
  · rfl
  · split
    · rfl
    · rfl
    · rename_i hproc
      exact setNode_self hproc

theorem getNodeByRoute_quiet {route : String} {got : Got NodeRecord}
    (h : exec serve (getNodeByRoute route) xs s = some (got, s')) : s' = s := by
  unfold getNodeByRoute at h
  split_ifs at h
  · exact congrArg Prod.snd (exec_ret h)
  · obtain ⟨x, ys, -, hgot⟩ := exec_cmd_bind h
    generalize (serve (.getNodeRoute route) x s).1 = first at hgot
    cases first with
    | missing =>
        obtain ⟨y, hid⟩ := exec_cmd hgot
        exact congrArg Prod.snd hid
    | err | found => exact congrArg Prod.snd (exec_ret hgot)

theorem matchEnded_quiet {matchID : MatchID} {ended : Bool}
    (h : exec serve (matchEnded matchID) xs s = some (ended, s')) : s' = s := by
  unfold matchEnded at h
  split_ifs at h
  · exact congrArg Prod.snd (exec_ret h)
  · obtain ⟨x, ys, -, hrow⟩ := exec_cmd_bind h
    generalize (serve (.getRuntimeMatch matchID) x s).1 = row at hrow
    cases row with
    | found | missing | err => exact congrArg Prod.snd (exec_ret hrow)

/-- The answer says that the match may go on. -/
def Going (status : AssignmentStatus) : Prop := status = .valid ∨ status = .pending

theorem not_going_of_ret {status other : AssignmentStatus} (h : ¬ Going other)
    (hret : exec serve (.ret other) xs s = some (status, s')) : ¬ Going status := by
  have hstatus : status = other := congrArg Prod.fst (exec_ret hret)
  rwa [hstatus]

theorem not_going_abandon {assigned : Assignment} {status : AssignmentStatus}
    (h : exec serve (abandon assigned) xs s = some (status, s')) : ¬ Going status := by
  obtain ⟨-, zs, -, s₁, -, -, hret⟩ := exec_bind.1 h
  exact not_going_of_ret (by simp [Going]) hret

theorem probeNode_quiet {assigned : Assignment} {node : NodeRecord} {status : AssignmentStatus}
    (h : exec serve (probeNode assigned node) xs s = some (status, s')) (hgo : Going status) :
    s' = s := by
  obtain ⟨x, ys, -, hcode⟩ := exec_cmd_bind h
  rw [show (serve (.probe node assigned.matchID) x s).2 = s from ask_quiet x _] at hcode
  unfold judgeResponse at hcode
  split_ifs at hcode
  · exact congrArg Prod.snd (exec_ret hcode)
  · exact (not_going_abandon hcode hgo).elim
  · exact congrArg Prod.snd (exec_ret hcode)

theorem validateNode_quiet {assigned : Assignment} {status : AssignmentStatus}
    (h : exec serve (validateNode assigned) xs s = some (status, s')) (hgo : Going status) :
    s' = s := by
  obtain ⟨ys, zs, got, s₁, -, hgot, hnode⟩ := exec_bind.1 h
  rw [getNodeByRoute_quiet hgot] at hnode
  cases got with
  | err => exact congrArg Prod.snd (exec_ret hnode)
  | missing =>
      dsimp only at hnode
      split_ifs at hnode
      · exact (not_going_abandon hnode hgo).elim
      · exact congrArg Prod.snd (exec_ret hnode)
  | found node =>
      dsimp only at hnode
      split_ifs at hnode
      · exact (not_going_abandon hnode hgo).elim
      · exact probeNode_quiet hnode hgo

theorem validateMatch_quiet {assigned : Assignment} {status : AssignmentStatus}
    (h : exec serve (validateMatch assigned) xs s = some (status, s')) (hgo : Going status) :
    s' = s := by
  obtain ⟨ys, zs, ended, s₁, -, hended, hmatch⟩ := exec_bind.1 h
  rw [matchEnded_quiet hended] at hmatch
  cases ended with
  | true =>
      obtain ⟨x, us, -, hret⟩ := exec_cmd_bind hmatch
      exact (not_going_of_ret (by simp [Going]) hret hgo).elim
  | false => exact validateNode_quiet hmatch hgo

/-- A check after which the match may go on has changed nothing. -/
theorem validateAssignment_quiet {assigned : Assignment} {status : AssignmentStatus}
    (h : exec serve (validateAssignment assigned) xs s = some (status, s')) (hgo : Going status) :
    s' = s := by
  unfold validateAssignment at h
  split_ifs at h
  · exact congrArg Prod.snd (exec_ret h)
  obtain ⟨x, ys, -, hmatch⟩ := exec_cmd_bind h
  generalize (serve .now x s).1 = now at hmatch
  split_ifs at hmatch
  · obtain ⟨-, zs, -, s₁, -, -, hret⟩ := exec_bind.1 hmatch
    exact (not_going_of_ret (by simp [Going]) hret hgo).elim
  · exact validateMatch_quiet hmatch hgo

end Checks

/-! ## What the handler answers -/

/-- In `s` the caller is admitted and assigned to `assigned`; `ValidateAssignment` answers `status`, and
the handler answers `verdict` and leaves `s'`. -/
def Handled (caller : Caller) (s : Shared) (assigned : Assignment) (status : AssignmentStatus)
    (verdict : Verdict) (s' : Shared) : Prop :=
  ∃ userID x ys zs s₁, checkCaller caller = .ok userID ∧
    s.coord.getAssignmentByUser userID = some assigned ∧ x.fails = false ∧
    exec serve (validateAssignment assigned) ys s = some (status, s₁) ∧
    exec serve (startSingleplayerSession caller) (x :: (ys ++ zs)) s = some (verdict, s')

/-- The session is refused, as the policy says, and the match goes on: the keys of its assignment, its
row and the processes with their engines are what they were. -/
structure Rejected (assigned : Assignment) (s : Shared) (verdict : Verdict) (s' : Shared) : Prop where
  policy : resolve (modeOf assigned) .singleplayer = .reject
  answer : ∃ code message, verdict = .conflict code message
  byMatch : ∀ i, s'.coord.activeMatch.lookup i = s.coord.activeMatch.lookup i
  byUser : ∀ u, s'.coord.activeUser.lookup u = s.coord.activeUser.lookup u
  runtime : s'.runtime = s.runtime
  processes : s'.processes = s.processes

theorem resolve_party {mode : MatchMode} (h : isPrivatePartyMode mode = true) :
    resolve mode .singleplayer = .reject := by
  cases mode with
  | duel | teamDuel | freeForAll => rfl
  | unset | singleplayer | other => simp [isPrivatePartyMode] at h

theorem Handled.settled {caller : Caller} {s s' : Shared} {assigned : Assignment}
    {status : AssignmentStatus} {verdict : Verdict} (h : Handled caller s assigned status verdict s')
    (hgo : Going status) :
    ∃ userID zs, exec serve (settleExisting userID assigned status) zs s = some (verdict, s') := by
  obtain ⟨userID, x, ys, zs, s₁, hparty, hassigned, hx, hvalid, hrun⟩ := h
  obtain rfl := validateAssignment_quiet hvalid hgo
  refine ⟨userID, zs, ?_⟩
  have hread : serve (.getAssignmentByUser userID) x s₁ = (Got.found assigned, s₁) := by
    dsimp only [serve, read]
    rw [hx, hassigned]
    rfl
  unfold startSingleplayerSession at hrun
  rw [hparty] at hrun
  obtain ⟨y, us, hxs, hrun⟩ := exec_cmd_bind hrun
  obtain ⟨rfl, rfl⟩ := List.cons.inj hxs
  rw [hread] at hrun
  exact (exec_bind_append hvalid zs).symm.trans hrun

/-- Past the comparison with `duel` no answer is a conflict. -/
theorem not_conflict_of_settle {userID : UserID} {assigned : Assignment} {status : AssignmentStatus}
    {xs : List Choice} {s s' : Shared} {verdict : Verdict} (hmode : modeOf assigned ≠ .duel)
    (h : exec serve (settleExisting userID assigned status) xs s = some (verdict, s')) :
    ∀ code message, verdict ≠ .conflict code message := by
  have hret : ∀ v ys t, (∀ code message, v ≠ Verdict.conflict code message) →
      exec serve (.ret v : Request Verdict) ys t = some (verdict, s') →
      ∀ code message, verdict ≠ .conflict code message := by
    intro v ys t hv ht
    rwa [show verdict = v from congrArg Prod.fst (exec_ret ht)]
  unfold settleExisting at h
  cases status with
  | valid =>
      dsimp only at h
      rw [if_neg hmode] at h
      obtain ⟨ys, zs, replaced, s₁, -, -, hanswer⟩ := exec_bind.1 h
      cases replaced with
      | true => exact hret _ _ _ (by simp) hanswer
      | false => exact hret _ _ _ (by simp [sessionUnavailable]) hanswer
  | pending =>
      dsimp only at h
      rw [if_neg hmode] at h
      obtain ⟨ys, zs, -, s₁, -, -, hanswer⟩ := exec_bind.1 h
      exact hret _ _ _ (by simp) hanswer
  | abandoned | invalid =>
      obtain ⟨ys, zs, -, s₁, -, -, hanswer⟩ := exec_bind.1 h
      exact hret _ _ _ (by simp) hanswer

/-- A running party match is left alone, and the session refused, exactly when its mode is `duel`. -/
theorem rejected_iff {caller : Caller} {s s' : Shared} {assigned : Assignment}
    {status : AssignmentStatus} {verdict : Verdict} (h : Handled caller s assigned status verdict s')
    (hparty : isPrivatePartyMode (modeOf assigned) = true)
    (hgo : status = .valid ∨ status = .pending) :
    Rejected assigned s verdict s' ↔ modeOf assigned = .duel := by
  obtain ⟨userID, zs, hsettle⟩ := h.settled hgo
  constructor
  · intro hrej
    by_contra hmode
    obtain ⟨code, message, hverdict⟩ := hrej.answer
    exact not_conflict_of_settle hmode hsettle code message hverdict
  · intro hmode
    have hrun : exec serve (.ret sessionConflict : Request Verdict) zs s = some (verdict, s') := by
      unfold settleExisting at hsettle
      rcases hgo with rfl | rfl <;> dsimp only at hsettle <;> rwa [if_pos hmode] at hsettle
    obtain ⟨rfl, rfl⟩ := Prod.mk.inj (exec_ret hrun)
    exact ⟨resolve_party hparty, ⟨_, _, rfl⟩, fun _ => rfl, fun _ => rfl, rfl, rfl⟩

/-! ## A duel and a team duel -/

/-- A match of four players on the node `node-1`. -/
def partyAssignment (mode : MatchMode) : Assignment where
  matchID := "lobby-1"
  mode := mode
  config := {}
  nodeID := "node-1"
  nodeEpoch := 7
  publicRoute := "node-1"
  players := ["u1", "u2", "u3", "u4"]
  updatedAt := 2000

def partyState (mode : MatchMode) : Shared where
  coord :=
    (((({} : Coordinator.Store).registerNode none
      { nodeID := "node-1", ownerEpoch := 7, internalURL := "http://10.0.0.1" } 1000).saveAssignment
        86400000 (partyAssignment mode) 2000).toOption).getD {}
  runtime := (∅ : Assoc MatchID RuntimeMatch).insert "lobby-1" ⟨.live, 7, 2000, none⟩

/-- The node does not answer the probe. -/
def unanswered : List Choice := [{}, {}, {}, { fails := true }]

/-- A duel is left alone. -/
theorem rejected_duel :
    Rejected (partyAssignment .duel) (partyState .duel) sessionConflict (partyState .duel) := by
  have hhandled : Handled { sub := some "u1" } (partyState .duel) (partyAssignment .duel) .pending
      sessionConflict (partyState .duel) :=
    ⟨"u1", {}, unanswered, [], partyState .duel, rfl, rfl, rfl, rfl, rfl⟩
  exact (rejected_iff hhandled rfl (.inr rfl)).2 rfl

/-- A team duel is not: its four players lose their assignment. -/
theorem not_rejected_teamDuel : ¬ ∀ caller s assigned status verdict s',
    Handled caller s assigned status verdict s' → isPrivatePartyMode (modeOf assigned) = true →
      status = .valid ∨ status = .pending → Rejected assigned s verdict s' := by
  intro h
  have hrej := h { sub := some "u1" } (partyState .teamDuel) (partyAssignment .teamDuel) .pending
    _ _ ⟨"u1", {}, unanswered, [{}, {}], partyState .teamDuel, rfl, rfl, rfl, rfl, rfl⟩ rfl (.inr rfl)
  exact absurd (hrej.byUser "u2") (by decide +kernel)

end GeoDuels.Assignments
