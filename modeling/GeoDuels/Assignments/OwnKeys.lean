import GeoDuels.Assignments.System

/-!
# The registrations of the nodes

`RegisterNode` and `RemoveNode` read the record that is stored under the node id and then write or
delete, in a later pipeline, the keys of the node id and of the route.  Nothing compares the stored record
with the caller: a process that shuts down deletes the keys of a process that was started under the same
node id, or that took the route over.  `ownKeys_of_sole` says that this needs two processes that are
registered at the same time and share a node id or a route.
-/

namespace GeoDuels.Assignments

open Coordinator (Assignment NodeID NodeRecord Store isBlank)
open MatchLaunch (Call)
open Prog (All exec exec_cmd exec_cmd_bind exec_ret)

/-! ## Who sends registrations -/

/-- The route under which a process registers itself. -/
def NodeProcess.route (proc : NodeProcess) : String :=
  if proc.publicRoute = "" then proc.nodeID else proc.publicRoute

/-- A registration or a removal is that of the process in whose name it is sent. -/
def Command.Fits (z : Assoc ProcessID NodeProcess) : Command → Prop
  | .registerNode p _ rec => ∃ proc, z.lookup p = some proc ∧ rec.nodeID ≠ "" ∧
      rec.nodeID = proc.nodeID ∧ rec.publicRoute = proc.publicRoute
  | .removeNode p nodeID _ => ∃ proc, z.lookup p = some proc ∧ nodeID = proc.nodeID
  | _ => True

/-- The command is neither. -/
def Command.Plain : Command → Prop
  | .registerNode .. | .removeNode .. => False
  | _ => True

section Programs

variable {z : Assoc ProcessID NodeProcess} {α : Type}

theorem Command.Plain.fits {c : Command} (h : c.Plain) : c.Fits z := by
  cases c with
  | registerNode | removeNode => exact h.elim
  | now | getAssignmentByUser | getRuntimeMatch | getNodeRoute | getNode | probe | terminate
  | clearAssignment | recordRuntimeMatch | unregisterMatch => trivial

theorem plain_getNodeByRoute (route : String) : All Command.Plain (getNodeByRoute route) := by
  unfold getNodeByRoute
  split_ifs
  · trivial
  · refine ⟨trivial, fun got => ?_⟩
    cases got with
    | missing => exact ⟨trivial, fun _ => trivial⟩
    | err | found => trivial

theorem plain_clearEnded (assigned : Assignment) : All Command.Plain (clearEnded assigned) :=
  ⟨trivial, fun _ => ⟨trivial, fun _ => trivial⟩⟩

theorem plain_matchEnded (matchID : MatchID) : All Command.Plain (matchEnded matchID) := by
  unfold matchEnded
  split_ifs
  · trivial
  · refine ⟨trivial, fun row => ?_⟩
    cases row with
    | found | missing | err => trivial

theorem plain_abandon (assigned : Assignment) : All Command.Plain (abandon assigned) :=
  (plain_clearEnded assigned).bind fun _ => trivial

theorem plain_judgeResponse (assigned : Assignment) (status : Option ℕ) :
    All Command.Plain (judgeResponse assigned status) := by
  unfold judgeResponse
  split_ifs
  · trivial
  · exact plain_abandon assigned
  · trivial

theorem plain_validateNode (assigned : Assignment) : All Command.Plain (validateNode assigned) := by
  refine (plain_getNodeByRoute _).bind fun got => ?_
  cases got with
  | err => trivial
  | missing =>
      dsimp only
      split_ifs
      · exact plain_abandon assigned
      · trivial
  | found node =>
      dsimp only
      split_ifs
      · exact plain_abandon assigned
      · exact ⟨trivial, fun status => plain_judgeResponse assigned status⟩

theorem plain_validateAssignment (assigned : Assignment) :
    All Command.Plain (validateAssignment assigned) := by
  unfold validateAssignment
  split_ifs
  · trivial
  refine ⟨trivial, fun now => ?_⟩
  change ℤ at now
  show All Command.Plain (if _ then _ else _)
  split_ifs
  · exact (plain_clearEnded assigned).bind fun _ => trivial
  · refine (plain_matchEnded _).bind fun ended => ?_
    cases ended with
    | true => exact ⟨trivial, fun _ => trivial⟩
    | false => exact plain_validateNode assigned

theorem plain_checkUser (userID : UserID) : All Command.Plain (checkUser userID) := by
  refine ⟨trivial, fun got => ?_⟩
  cases got with
  | found assigned => exact (plain_validateAssignment assigned).bind fun _ => trivial
  | missing | err => trivial

theorem plain_replaceActiveSingleplayer (userID : UserID) (assigned : Assignment) :
    All Command.Plain (replaceActiveSingleplayer userID assigned) := by
  refine (plain_getNodeByRoute _).bind fun got => ?_
  cases got with
  | err => trivial
  | missing => exact ⟨trivial, fun _ => trivial⟩
  | found node =>
      refine ⟨trivial, fun status => ?_⟩
      change Option ℕ at status
      show All Command.Plain (if _ then _ else _)
      split_ifs
      · exact ⟨trivial, fun _ => trivial⟩
      · trivial

theorem plain_settleExisting (userID : UserID) (assigned : Assignment)
    (status : MatchCoordinator.AssignmentStatus) :
    All Command.Plain (settleExisting userID assigned status) := by
  unfold settleExisting
  cases status with
  | valid =>
      dsimp only
      split_ifs
      · trivial
      · refine (plain_replaceActiveSingleplayer userID assigned).bind fun replaced => ?_
        cases replaced <;> trivial
  | pending =>
      dsimp only
      split_ifs
      · trivial
      · exact (plain_clearEnded assigned).bind fun _ => trivial
  | abandoned | invalid => exact ⟨trivial, fun _ => trivial⟩

theorem plain_startSingleplayerSession (caller : Caller) :
    All Command.Plain (startSingleplayerSession caller) := by
  unfold startSingleplayerSession
  cases checkCaller caller with
  | error verdict => trivial
  | ok userID =>
      refine ⟨trivial, fun got => ?_⟩
      cases got with
      | found assigned =>
          exact (plain_validateAssignment assigned).bind fun status =>
            plain_settleExisting userID assigned status
      | missing | err => trivial

theorem plain_terminalize (p : ProcessID) (nodeEpoch : ℤ) (matchID : MatchID) :
    All Command.Plain (terminalize p nodeEpoch matchID) := by
  refine ⟨trivial, fun players => ?_⟩
  cases players with
  | none => trivial
  | some players => exact ⟨trivial, fun _ => ⟨trivial, fun _ => trivial⟩⟩

theorem fits_registerNode {p : ProcessID} {proc : NodeProcess} (hp : z.lookup p = some proc)
    (activeMatches : ℤ) (draining : Bool) :
    All (Command.Fits z) (registerNode p (proc.record activeMatches draining)) := by
  unfold registerNode
  split_ifs with hbad
  · trivial
  · have hfits : ∀ existing, Command.Fits z
        (.registerNode p existing (proc.record activeMatches draining)) :=
      fun _ => ⟨proc, hp, (not_or.1 hbad).1, rfl, rfl⟩
    refine ⟨trivial, fun got => ?_⟩
    cases got with
    | err => trivial
    | missing => exact ⟨hfits none, fun _ => trivial⟩
    | found existing => exact ⟨hfits (some existing), fun _ => trivial⟩

theorem fits_removeNode {p : ProcessID} {proc : NodeProcess} (hp : z.lookup p = some proc) :
    All (Command.Fits z) (removeNode p proc.nodeID) := by
  unfold removeNode
  split_ifs
  · trivial
  · refine ⟨trivial, fun got => ?_⟩
    cases got with
    | found existing => exact ⟨⟨proc, hp, rfl⟩, fun _ => trivial⟩
    | missing | err => exact ⟨⟨proc, hp, rfl⟩, fun _ => trivial⟩

end Programs

/-! ## What is to hold -/

/-- The process whose registration an action changes. -/
def World.acts (w : World) (op : Op) : Option ProcessID :=
  match w.sends op with
  | some (.registerNode p _ _, _) | some (.removeNode p _ _, _) => some p
  | _ => none

/-- The process that an action removes, or registers with another route than the node id had. -/
def World.leaves (w : World) (op : Op) : Option ProcessID :=
  match w.sends op with
  | some (.registerNode p (some old) rec, x) =>
      if old.publicRoute ≠ (Store.nodeRecord rec x.now).publicRoute then some p else none
  | some (.removeNode p _ _, _) => some p
  | _ => none

/-- No key of a node is deleted whose record was last written by another process that is still
registered; for `ValidateAssignment`, no process that removes itself or changes its route changes what is
stored under the route of another registered process, and there is a node under each such route. -/
structure OwnKeys (w : World) (op : Op) (w' : World) : Prop where
  node : ∀ id q, (w.shared.coord.node.lookup id).isSome →
    w'.shared.coord.node.lookup id = none → w.shared.nodeWriter.lookup id = some q →
    q ∈ w.shared.registered → w.acts op = some q
  route : ∀ r q, (w.shared.coord.nodeRoute.lookup r).isSome →
    w'.shared.coord.nodeRoute.lookup r = none → w.shared.routeWriter.lookup r = some q →
    q ∈ w.shared.registered → w.acts op = some q
  kept : ∀ p ∈ w.leaves op, ∀ q ∈ w.shared.registered, q ≠ p →
    ∀ proc ∈ w.shared.processes.lookup q,
      w'.shared.coord.nodeRoute.lookup proc.route = w.shared.coord.nodeRoute.lookup proc.route
  found : ∀ q ∈ w'.shared.registered, ∀ proc, w'.shared.processes.lookup q = some proc →
    isBlank proc.route = false → ∀ xs got s,
      exec serve (getNodeByRoute proc.route) xs w'.shared = some (got, s) → got ≠ .missing

/-- No other registered process has the node id or the route that is given up by a process that
removes itself, or one of the two routes when a process is registered with another route than its node
id had. -/
def Sole (w : World) (op : Op) : Prop :=
  match w.sends op with
  | some (.removeNode p nodeID existing, _) =>
      ∀ q ∈ w.shared.registered, q ≠ p → ∀ proc ∈ w.shared.processes.lookup q,
        proc.nodeID ≠ nodeID ∧ ∀ old ∈ existing, proc.route ≠ old.publicRoute
  | some (.registerNode p existing rec, x) =>
      ∀ old ∈ existing, old.publicRoute ≠ (Store.nodeRecord rec x.now).publicRoute →
        ∀ q ∈ w.shared.registered, q ≠ p → ∀ proc ∈ w.shared.processes.lookup q,
          proc.route ≠ old.publicRoute ∧ proc.route ≠ (Store.nodeRecord rec x.now).publicRoute
  | _ => True

instance (w : World) (op : Op) : Decidable (Sole w op) := by
  unfold Sole
  split <;> infer_instance

/-! ## The invariant -/

/-- The process `q` is known, and `P` holds of its settings. -/
def Knows (s : Shared) (q : ProcessID) (P : NodeProcess → Prop) : Prop :=
  ∃ proc, s.processes.lookup q = some proc ∧ P proc

structure Consistent (s : Shared) : Prop where
  nodeWriter : ∀ id q, s.nodeWriter.lookup id = some q → Knows s q (·.nodeID = id)
  routeWriter : ∀ r q, s.routeWriter.lookup r = some q → Knows s q (·.route = r)
  located : ∀ q ∈ s.registered,
    Knows s q fun proc => ∃ rec, Store.getNode s.coord.nodeRoute proc.route = some rec

structure Inv (w : World) : Prop where
  fits : ∀ id r, w.requests.lookup id = some r → All (Command.Fits w.shared.processes) r
  consistent : Consistent w.shared

theorem SameSettings.fits {z z' : Assoc ProcessID NodeProcess} (h : SameSettings z z') {c : Command}
    (hc : c.Fits z) : c.Fits z' := by
  cases c with
  | registerNode p existing rec =>
      obtain ⟨proc, hp, hne, hid, hroute⟩ := hc
      obtain ⟨proc', hp', hid', hroute'⟩ := h p proc hp
      exact ⟨proc', hp', hne, hid.trans hid'.symm, hroute.trans hroute'.symm⟩
  | removeNode p nodeID existing =>
      obtain ⟨proc, hp, hid⟩ := hc
      obtain ⟨proc', hp', hid', -⟩ := h p proc hp
      exact ⟨proc', hp', hid.trans hid'.symm⟩
  | now | getAssignmentByUser | getRuntimeMatch | getNodeRoute | getNode | probe | terminate
  | clearAssignment | recordRuntimeMatch | unregisterMatch => trivial

theorem route_eq {proc proc' : NodeProcess} (hid : proc'.nodeID = proc.nodeID)
    (hroute : proc'.publicRoute = proc.publicRoute) : proc'.route = proc.route := by
  unfold NodeProcess.route
  rw [hid, hroute]

/-- Where the settings stay, so does what is known of a process by its node id and its route. -/
theorem Knows.same {s s' : Shared} {q : ProcessID} {P P' : NodeProcess → Prop} (h : Knows s q P)
    (hs : SameSettings s.processes s'.processes)
    (hP : ∀ proc proc', proc'.nodeID = proc.nodeID → proc'.route = proc.route → P proc → P' proc') :
    Knows s' q P' := by
  obtain ⟨proc, hq, hproc⟩ := h
  obtain ⟨proc', hq', hid, hroute⟩ := hs q proc hq
  exact ⟨proc', hq', hP proc proc' hid (route_eq hid hroute) hproc⟩

/-- The keys of the nodes stay what they were. -/
structure KeysSame (s s' : Shared) : Prop where
  node : s'.coord.node = s.coord.node
  nodeRoute : s'.coord.nodeRoute = s.coord.nodeRoute
  registered : s'.registered = s.registered
  nodeWriter : s'.nodeWriter = s.nodeWriter
  routeWriter : s'.routeWriter = s.routeWriter
  settings : SameSettings s.processes s'.processes

theorem Frame.keysSame {s s' : Shared} (h : Frame s s') : KeysSame s s' :=
  ⟨by rw [h.coord], by rw [h.coord], h.registered, h.nodeWriter, h.routeWriter, h.settings⟩

theorem Consistent.same {s s' : Shared} (h : Consistent s) (hs : KeysSame s s') : Consistent s' := by
  refine ⟨fun id q hq => ?_, fun r q hq => ?_, fun q hq => ?_⟩
  · rw [hs.nodeWriter] at hq
    exact (h.nodeWriter id q hq).same hs.settings fun _ _ hid _ hproc => hid.trans hproc
  · rw [hs.routeWriter] at hq
    exact (h.routeWriter r q hq).same hs.settings fun _ _ _ hroute hproc => hroute.trans hproc
  · rw [hs.registered] at hq
    refine (h.located q hq).same hs.settings fun proc proc' _ hroute hproc => ?_
    rwa [hroute, hs.nodeRoute]

theorem getNode_insert (z : Assoc String NodeRecord) (k k' : String) {rec : NodeRecord}
    (hrec : rec.nodeID ≠ "") : Store.getNode (z.insert k rec) k' =
      if k' = k then some rec else Store.getNode z k' := by
  unfold Store.getNode
  rw [Assoc.lookup_insert]
  split_ifs
  · simp [hrec]
  · rfl

theorem getNode_erase_of_ne {z : Assoc String NodeRecord} {k k' : String} (h : k' ≠ k) :
    Store.getNode (z.erase k) k' = Store.getNode z k' := by
  unfold Store.getNode
  rw [AList.lookup_erase_ne h]

section Register

variable {s : Shared} {p : ProcessID} {existing : Option NodeRecord} {rec : NodeRecord} {now : ℤ}

/-- The keys of the routes after a registration: the old route of the node id is given up. -/
theorem nodeRoute_register : (s.register p existing rec now).coord.nodeRoute =
    (match existing with
      | some old =>
          if old.publicRoute ≠ "" ∧ old.publicRoute ≠ (Store.nodeRecord rec now).publicRoute then
            s.coord.nodeRoute.erase old.publicRoute
          else s.coord.nodeRoute
      | none => s.coord.nodeRoute).insert (Store.nodeRecord rec now).publicRoute
        (Store.nodeRecord rec now) := rfl

/-- A route that is not given up keeps its record, and the route of the process gets the new one. -/
theorem getNode_register (hrec : rec.nodeID ≠ "") {r : String}
    (hr : ∀ old ∈ existing, old.publicRoute ≠ (Store.nodeRecord rec now).publicRoute →
      r ≠ old.publicRoute) :
    Store.getNode (s.register p existing rec now).coord.nodeRoute r =
      if r = (Store.nodeRecord rec now).publicRoute then some (Store.nodeRecord rec now)
      else Store.getNode s.coord.nodeRoute r := by
  rw [nodeRoute_register, getNode_insert _ _ _ (by exact hrec)]
  split_ifs with h
  · rfl
  · cases existing with
    | none => rfl
    | some old =>
        dsimp only
        split_ifs with hgive
        · exact getNode_erase_of_ne (hr old rfl hgive.2)
        · rfl

theorem lookup_nodeRoute_register_of_ne {r : String}
    (hold : ∀ old ∈ existing, r ≠ old.publicRoute)
    (hnew : r ≠ (Store.nodeRecord rec now).publicRoute) :
    (s.register p existing rec now).coord.nodeRoute.lookup r = s.coord.nodeRoute.lookup r := by
  rw [nodeRoute_register, AList.lookup_insert_ne hnew]
  cases existing with
  | none => rfl
  | some old =>
      dsimp only
      split_ifs
      · exact AList.lookup_erase_ne (hold old rfl)
      · rfl

/-- The keys that a registration deletes. -/
theorem lookup_nodeRoute_register {r : String} (hsome : (s.coord.nodeRoute.lookup r).isSome)
    (hnone : (s.register p existing rec now).coord.nodeRoute.lookup r = none) :
    ∃ old ∈ existing, old.publicRoute ≠ (Store.nodeRecord rec now).publicRoute ∧
      r = old.publicRoute := by
  rw [nodeRoute_register, Assoc.lookup_insert] at hnone
  split_ifs at hnone
  cases existing with
  | none =>
      rw [hnone] at hsome
      cases hsome
  | some old =>
      dsimp only at hnone
      split_ifs at hnone with hgive
      · rw [Assoc.lookup_erase] at hnone
        split_ifs at hnone with hr
        · exact ⟨old, rfl, hgive.2, hr⟩
        · rw [hnone] at hsome
          cases hsome
      · rw [hnone] at hsome
        cases hsome

theorem mem_registered_register {q : ProcessID} :
    q ∈ (s.register p existing rec now).registered ↔ q = p ∨ q ∈ s.registered := by
  unfold Shared.register
  dsimp only
  split_ifs with hp
  · constructor
    · exact .inr
    · rintro (rfl | hq)
      · exact hp
      · exact hq
  · exact List.mem_cons

end Register

/-- A process registers itself, and gives up no route of another registered process. -/
theorem consistent_register {s : Shared} {p : ProcessID} {existing : Option NodeRecord}
    {rec : NodeRecord} {now : ℤ} (h : Consistent s)
    (hfits : Command.Fits s.processes (.registerNode p existing rec))
    (hsole : ∀ old ∈ existing, old.publicRoute ≠ (Store.nodeRecord rec now).publicRoute →
      ∀ q ∈ s.registered, q ≠ p → ∀ proc ∈ s.processes.lookup q,
        proc.route ≠ old.publicRoute ∧ proc.route ≠ (Store.nodeRecord rec now).publicRoute) :
    Consistent (s.register p existing rec now) := by
  obtain ⟨proc, hp, hne, hid, hroute⟩ := hfits
  have hown : (Store.nodeRecord rec now).publicRoute = proc.route := by
    unfold Store.nodeRecord NodeProcess.route
    rw [hid, hroute]
  refine ⟨fun id q hq => ?_, fun r q hq => ?_, fun q hq => ?_⟩
  · rcases Assoc.of_lookup_insert hq with ⟨rfl, rfl⟩ | ⟨-, hq⟩
    · exact ⟨proc, hp, hid.symm⟩
    · exact h.nodeWriter id q hq
  · rcases Assoc.of_lookup_insert hq with ⟨rfl, rfl⟩ | ⟨-, hq⟩
    · exact ⟨proc, hp, hown.symm⟩
    · exact h.routeWriter r q hq
  · by_cases hqp : q = p
    · subst hqp
      refine ⟨proc, hp, Store.nodeRecord rec now, ?_⟩
      rw [nodeRoute_register, getNode_insert _ _ _ (by exact hne), if_pos hown.symm]
    · have hq' := (mem_registered_register.1 hq).resolve_left hqp
      obtain ⟨other, hother, rec', hrec'⟩ := h.located q hq'
      refine ⟨other, hother, ?_⟩
      dsimp only
      rw [getNode_register hne fun old hold hgive =>
        (hsole old hold hgive q hq' hqp other hother).1]
      split_ifs
      · exact ⟨_, rfl⟩
      · exact ⟨rec', hrec'⟩

/-- A process removes itself, and gives up no node id and no route of another registered process. -/
theorem consistent_remove {s : Shared} {p : ProcessID} {nodeID : NodeID}
    {existing : Option NodeRecord} (h : Consistent s)
    (hsole : ∀ q ∈ s.registered, q ≠ p → ∀ proc ∈ s.processes.lookup q,
      proc.nodeID ≠ nodeID ∧ ∀ old ∈ existing, proc.route ≠ old.publicRoute) :
    Consistent (s.remove p nodeID existing) := by
  refine ⟨h.nodeWriter, h.routeWriter, fun q hq => ?_⟩
  obtain ⟨hmem, hqp⟩ := List.mem_filter.1 hq
  obtain ⟨proc, hproc, rec, hrec⟩ := h.located q hmem
  refine ⟨proc, hproc, rec, ?_⟩
  unfold Shared.remove Store.removeNode
  cases existing with
  | none => exact hrec
  | some old =>
      dsimp only
      split_ifs
      · rwa [getNode_erase_of_ne ((hsole q hmem (by simpa using hqp) proc hproc).2 old rfl)]
      · exact hrec

theorem lookup_nodeRoute_remove_of_ne {s : Shared} {p : ProcessID} {nodeID : NodeID}
    {existing : Option NodeRecord} {r : String} (hold : ∀ old ∈ existing, r ≠ old.publicRoute) :
    (s.remove p nodeID existing).coord.nodeRoute.lookup r = s.coord.nodeRoute.lookup r := by
  unfold Shared.remove Store.removeNode
  cases existing with
  | none => rfl
  | some old =>
      dsimp only
      split_ifs
      · exact AList.lookup_erase_ne (hold old rfl)
      · rfl

/-- The keys that a removal deletes. -/
theorem lookup_nodeRoute_remove {s : Shared} {p : ProcessID} {nodeID : NodeID}
    {existing : Option NodeRecord} {r : String} (hsome : (s.coord.nodeRoute.lookup r).isSome)
    (hnone : (s.remove p nodeID existing).coord.nodeRoute.lookup r = none) :
    ∃ old ∈ existing, r = old.publicRoute := by
  unfold Shared.remove Store.removeNode at hnone
  cases existing with
  | none =>
      dsimp only at hnone
      rw [hnone] at hsome
      cases hsome
  | some old =>
      dsimp only at hnone
      split_ifs at hnone
      · rw [Assoc.lookup_erase] at hnone
        split_ifs at hnone with hr
        · exact ⟨old, rfl, hr⟩
        · rw [hnone] at hsome
          cases hsome
      · rw [hnone] at hsome
        cases hsome

/-- The commands of `EnsureAssignment` leave the keys of the nodes alone. -/
theorem nodes_run (c : Call) (s : Store) (singleTTL now : ℤ) (accepted : Bool) :
    (c.run s singleTTL now accepted).store.node = s.node ∧
      (c.run s singleTTL now accepted).store.nodeRoute = s.nodeRoute := by
  obtain ⟨found, holder, at_⟩ := c
  cases at_ with
  | check | wait =>
      unfold Call.run
      dsimp only
      cases s.getAssignmentByMatch found.matchID <;> exact ⟨rfl, rfl⟩
  | tryLock =>
      unfold Call.run Store.tryLockMatch
      dsimp only
      split_ifs <;> exact ⟨rfl, rfl⟩
  | read id ids nodes stale =>
      unfold Call.run
      dsimp only
      cases s.getNodeByID id <;> exact ⟨rfl, rfl⟩
  | list | dropStale | create => exact ⟨rfl, rfl⟩
  | save target =>
      unfold Call.run Store.saveAssignment
      dsimp only
      split_ifs <;> exact ⟨rfl, rfl⟩
  | unlock result =>
      unfold Call.run Store.unlockMatch
      dsimp only
      split_ifs <;> exact ⟨rfl, rfl⟩

theorem keysSame_clear (s : Shared) (rec : Assignment) : KeysSame s (s.clear rec) := by
  unfold Shared.clear Store.clearAssignment
  split_ifs <;> exact ⟨rfl, rfl, rfl, rfl, rfl, .refl _⟩

/-! ## A step -/

section Step

variable {singleTTL : ℤ} {w w' : World} {op : Op}

/-- Actions other than the pipelines of a registration and of a removal. -/
theorem step_keys (hs : w.step singleTTL op = some w') :
    KeysSame w.shared w'.shared ∨
      (∃ p existing rec x, w.sends op = some (.registerNode p existing rec, x) ∧
        w'.shared = w.shared.register p existing rec x.now) ∨
      ∃ p nodeID existing x, w.sends op = some (.removeNode p nodeID existing, x) ∧
        w'.shared = w.shared.remove p nodeID existing := by
  cases World.step_did hs with
  | idle _ frame => exact .inl frame.keysSame
  | launch c now accepted _ shared =>
      obtain ⟨hnode, hroute⟩ := nodes_run c w.shared.coord singleTTL now accepted
      rw [shared]
      exact .inl ⟨hnode, hroute, rfl, rfl, rfl, .refl _⟩
  | sent c x sends shared =>
      cases shared ▸ serve_served c x w.shared with
      | other frame => exact .inl frame.keysSame
      | clear rec _ _ state =>
          rw [state]
          exact .inl (keysSame_clear ..)
      | register p existing rec sent _ state =>
          subst sent
          exact .inr (.inl ⟨p, existing, rec, x, sends, state⟩)
      | remove p nodeID existing sent _ state =>
          subst sent
          exact .inr (.inr ⟨p, nodeID, existing, x, sends, state⟩)

theorem sameSettings_step (hs : w.step singleTTL op = some w') :
    SameSettings w.shared.processes w'.shared.processes := by
  rcases step_keys hs with h | ⟨p, existing, rec, x, -, h⟩ | ⟨p, nodeID, existing, x, -, h⟩
  · exact h.settings
  · rw [h]
    exact .refl _
  · rw [h]
    exact .refl _

/-- A request in progress sends registrations of its own process only. -/
theorem fits_step (h : ∀ id r, w.requests.lookup id = some r →
    All (Command.Fits w.shared.processes) r) (hs : w.step singleTTL op = some w') :
    ∀ id r, w'.requests.lookup id = some r → All (Command.Fits w'.shared.processes) r := by
  have hmono : ∀ {r : Request Answer}, All (Command.Fits w.shared.processes) r →
      All (Command.Fits w'.shared.processes) r :=
    fun hr => hr.mono fun _ => (sameSettings_step hs).fits
  have hsame : w'.requests = w.requests → ∀ id r, w'.requests.lookup id = some r →
      All (Command.Fits w'.shared.processes) r := by
    intro hrequests id r hr
    rw [hrequests] at hr
    exact hmono (h id r hr)
  have hinsert : ∀ {i r'}, w'.requests = w.requests.insert i r' →
      All (Command.Fits w.shared.processes) r' → ∀ id r, w'.requests.lookup id = some r →
      All (Command.Fits w'.shared.processes) r := by
    intro i r' hrequests hr' id r hr
    rw [hrequests] at hr
    rcases Assoc.of_lookup_insert hr with ⟨-, rfl⟩ | ⟨-, hr⟩
    · exact hmono hr'
    · exact hmono (h id r hr)
  have harrive : ∀ {i r'}, w.arrive i r' = some w' → All (Command.Fits w.shared.processes) r' →
      ∀ id r, w'.requests.lookup id = some r → All (Command.Fits w'.shared.processes) r := by
    intro i r' hw hr'
    unfold World.arrive at hw
    split_ifs at hw
    cases hw
    exact hinsert rfl hr'
  have hplain : ∀ {r' : Request Answer}, All Command.Plain r' →
      All (Command.Fits w.shared.processes) r' := fun hr => hr.mono fun _ => Command.Plain.fits
  cases op with
  | process p proc =>
      dsimp only [World.step] at hs
      split_ifs at hs
      exact hsame (by cases hs; rfl)
  | node p n => exact hsame (by cases hs; rfl)
  | registerNode id p activeMatches draining =>
      obtain ⟨proc, hp, hw⟩ := Option.bind_eq_some_iff.1 hs
      exact harrive hw ((fits_registerNode hp activeMatches draining).bind fun _ => trivial)
  | removeNode id p =>
      obtain ⟨proc, hp, hw⟩ := Option.bind_eq_some_iff.1 hs
      exact harrive hw ((fits_removeNode hp).bind fun _ => trivial)
  | terminalize id p matchID =>
      obtain ⟨proc, -, hw⟩ := Option.bind_eq_some_iff.1 hs
      exact harrive hw (hplain ((plain_terminalize p proc.nodeEpoch matchID).bind fun _ => trivial))
  | checkUser id userID => exact harrive hs (hplain (plain_checkUser userID))
  | startSingleplayerSession id caller =>
      exact harrive hs
        (hplain ((plain_startSingleplayerSession caller).bind fun _ => trivial))
  | ensureAssignment id found suffix =>
      dsimp only [World.step] at hs
      split_ifs at hs
      exact hsame (by cases hs; rfl)
  | run id x =>
      obtain ⟨r, hr, hw⟩ := Option.bind_eq_some_iff.1 hs
      obtain ⟨next, hnext, rfl⟩ := Option.map_eq_some_iff.1 hw
      exact hinsert rfl ((h id r hr).resume hnext)
  | launch id now accepted =>
      obtain ⟨c, -, rfl⟩ := Option.map_eq_some_iff.1 hs
      exact hsame rfl

theorem fits_of_sends (h : Inv w) {c : Command} {x : Choice} (hsends : w.sends op = some (c, x)) :
    c.Fits w.shared.processes := by
  cases op with
  | run id y =>
      obtain ⟨d, hd, heq⟩ := Option.map_eq_some_iff.1 hsends
      obtain ⟨r, hr, hnext⟩ := Option.bind_eq_some_iff.1 hd
      cases heq
      exact (h.fits id r hr).next hnext
  | process | node | registerNode | removeNode | terminalize | checkUser | startSingleplayerSession
  | ensureAssignment | launch => cases hsends

section Sends

variable {p : ProcessID} {nodeID : NodeID} {existing : Option NodeRecord} {rec : NodeRecord} {x : Choice}

theorem acts_of_register (hsends : w.sends op = some (.registerNode p existing rec, x)) :
    w.acts op = some p := by
  unfold World.acts
  rw [hsends]

theorem acts_of_remove (hsends : w.sends op = some (.removeNode p nodeID existing, x)) :
    w.acts op = some p := by
  unfold World.acts
  rw [hsends]

theorem Sole.register (h : Sole w op) (hsends : w.sends op = some (.registerNode p existing rec, x)) :
    ∀ old ∈ existing, old.publicRoute ≠ (Store.nodeRecord rec x.now).publicRoute →
      ∀ q ∈ w.shared.registered, q ≠ p → ∀ proc ∈ w.shared.processes.lookup q,
        proc.route ≠ old.publicRoute ∧ proc.route ≠ (Store.nodeRecord rec x.now).publicRoute := by
  unfold Sole at h
  rwa [hsends] at h

theorem Sole.remove (h : Sole w op) (hsends : w.sends op = some (.removeNode p nodeID existing, x)) :
    ∀ q ∈ w.shared.registered, q ≠ p → ∀ proc ∈ w.shared.processes.lookup q,
      proc.nodeID ≠ nodeID ∧ ∀ old ∈ existing, proc.route ≠ old.publicRoute := by
  unfold Sole at h
  rwa [hsends] at h

end Sends

theorem inv_step (h : Inv w) (hsole : Sole w op) (hs : w.step singleTTL op = some w') : Inv w' := by
  refine ⟨fits_step h.fits hs, ?_⟩
  rcases step_keys hs with hsame | ⟨p, existing, rec, x, hsends, hw⟩ |
    ⟨p, nodeID, existing, x, hsends, hw⟩
  · exact h.consistent.same hsame
  · rw [hw]
    exact consistent_register h.consistent (fits_of_sends h hsends) (hsole.register hsends)
  · rw [hw]
    exact consistent_remove h.consistent (hsole.remove hsends)

/-- The look of `ValidateAssignment` finds a node under the route of a registered process. -/
theorem found_of_consistent {s : Shared} (h : Consistent s) {q : ProcessID} (hq : q ∈ s.registered)
    {proc : NodeProcess} (hproc : s.processes.lookup q = some proc)
    (hblank : isBlank proc.route = false) {xs : List Choice} {got : Got NodeRecord} {s' : Shared}
    (hrun : exec serve (getNodeByRoute proc.route) xs s = some (got, s')) : got ≠ .missing := by
  obtain ⟨proc', hproc', rec, hrec⟩ := h.located q hq
  obtain rfl : proc = proc' := Option.some.inj (hproc.symm.trans hproc')
  unfold getNodeByRoute at hrun
  rw [hblank, if_neg Bool.false_ne_true] at hrun
  obtain ⟨x, ys, -, hgot⟩ := exec_cmd_bind hrun
  have hread : (serve (.getNodeRoute proc.route) x s).1 =
      if x.fails then Got.err else Got.found rec := by
    dsimp only [serve, read]
    rw [hrec]
    rfl
  rw [hread] at hgot
  split_ifs at hgot
  · rw [show got = .err from congrArg Prod.fst (exec_ret hgot)]
    simp
  · rw [show got = .found rec from congrArg Prod.fst (exec_ret hgot)]
    simp

/-- What is found under every route of a registered process, after an action too. -/
def World.Finds (w : World) : Prop :=
  ∀ q ∈ w.shared.registered, ∀ proc, w.shared.processes.lookup q = some proc →
    isBlank proc.route = false → ∀ xs got s,
      exec serve (getNodeByRoute proc.route) xs w.shared = some (got, s) → got ≠ .missing

/-- The registration of a process. -/
theorem ownKeys_register (h : Inv w) (hsole : Sole w op) {p : ProcessID} {existing : Option NodeRecord}
    {rec : NodeRecord} {x : Choice} (hsends : w.sends op = some (.registerNode p existing rec, x))
    (hw : w'.shared = w.shared.register p existing rec x.now) (hfound : w'.Finds) :
    OwnKeys w op w' := by
  have hgiven := hsole.register hsends
  refine ⟨fun id q hsome hnone => ?_, fun r q hsome hnone hwriter hq => ?_,
    fun p' hleaves q hq hne proc hproc => ?_, hfound⟩
  · rw [hw, show (w.shared.register p existing rec x.now).coord.node = w.shared.coord.node.insert
      rec.nodeID (Store.nodeRecord rec x.now) from rfl, Assoc.lookup_insert] at hnone
    split_ifs at hnone
    rw [hnone] at hsome
    cases hsome
  · rw [hw] at hnone
    obtain ⟨old, hold, hgive, rfl⟩ := lookup_nodeRoute_register hsome hnone
    obtain ⟨proc, hproc, hroute⟩ := h.consistent.routeWriter _ q hwriter
    rw [acts_of_register hsends]
    by_contra hne
    exact (hgiven old hold hgive q hq (fun hqp => hne (by rw [hqp])) proc hproc).1 hroute
  · unfold World.leaves at hleaves
    rw [hsends] at hleaves
    cases existing with
    | none => cases hleaves
    | some old =>
        dsimp only at hleaves
        split_ifs at hleaves with hgive
        · cases hleaves
          obtain ⟨hold, hnew⟩ := hgiven old rfl hgive q hq hne proc hproc
          rw [hw]
          refine lookup_nodeRoute_register_of_ne (fun old' hold' => ?_) hnew
          cases hold'
          exact hold
        · cases hleaves

/-- The removal of a process. -/
theorem ownKeys_remove (h : Inv w) (hsole : Sole w op) {p : ProcessID} {nodeID : NodeID}
    {existing : Option NodeRecord} {x : Choice}
    (hsends : w.sends op = some (.removeNode p nodeID existing, x))
    (hw : w'.shared = w.shared.remove p nodeID existing) (hfound : w'.Finds) : OwnKeys w op w' := by
  have hgiven := hsole.remove hsends
  refine ⟨fun id q hsome hnone hwriter hq => ?_, fun r q hsome hnone hwriter hq => ?_,
    fun p' hleaves q hq hne proc hproc => ?_, hfound⟩
  · obtain ⟨proc, hproc, hid⟩ := h.consistent.nodeWriter id q hwriter
    rw [hw, show (w.shared.remove p nodeID existing).coord.node = w.shared.coord.node.erase nodeID
      from rfl, Assoc.lookup_erase] at hnone
    rw [acts_of_remove hsends]
    by_contra hne
    refine (hgiven q hq (fun hqp => hne (by rw [hqp])) proc hproc).1 ?_
    split_ifs at hnone with hkey
    · exact hid.trans hkey
    · rw [hnone] at hsome
      cases hsome
  · rw [hw] at hnone
    obtain ⟨old, hold, rfl⟩ := lookup_nodeRoute_remove hsome hnone
    obtain ⟨proc, hproc, hroute⟩ := h.consistent.routeWriter _ q hwriter
    rw [acts_of_remove hsends]
    by_contra hne
    exact (hgiven q hq (fun hqp => hne (by rw [hqp])) proc hproc).2 old hold hroute
  · unfold World.leaves at hleaves
    rw [hsends] at hleaves
    cases hleaves
    rw [hw]
    exact lookup_nodeRoute_remove_of_ne (hgiven q hq hne proc hproc).2

theorem ownKeys_step (h : Inv w) (hsole : Sole w op) (hs : w.step singleTTL op = some w') :
    OwnKeys w op w' := by
  have hinv := inv_step h hsole hs
  have hfound : w'.Finds := fun q hq proc hproc hblank xs got s hrun =>
    found_of_consistent hinv.consistent hq hproc hblank hrun
  rcases step_keys hs with hsame | ⟨p, existing, rec, x, hsends, hw⟩ |
    ⟨p, nodeID, existing, x, hsends, hw⟩
  · refine ⟨fun id q hsome hnone => ?_, fun r q hsome hnone => ?_, fun _ _ q _ _ proc _ => ?_,
      hfound⟩
    · rw [hsame.node] at hnone
      rw [hnone] at hsome
      cases hsome
    · rw [hsame.nodeRoute] at hnone
      rw [hnone] at hsome
      cases hsome
    · rw [hsame.nodeRoute]
  · exact ownKeys_register h hsole hsends hw hfound
  · exact ownKeys_remove h hsole hsends hw hfound

end Step

theorem inv_init : Inv {} where
  fits := nofun
  consistent := ⟨nofun, nofun, nofun⟩

/-- In a run in which no process gives up the node id or the route of another registered process, every
process touches its own registration only, and the matches of a registered process keep their node. -/
theorem ownKeys_of_sole {singleTTL : ℤ} {ops : List Op}
    (h : Run.Guarded (World.step singleTTL) Sole {} ops) :
    Run.Along (World.step singleTTL) OwnKeys {} ops :=
  Run.along_of_invariant
    (fun _ _ _ hinv hsole hs => ⟨inv_step hinv hsole hs, ownKeys_step hinv hsole hs⟩) inv_init h

/-! ## A node that is restarted -/

/-- A process of the node `node-1`. -/
def nodeOne (nodeEpoch : ℤ) : NodeProcess where
  nodeID := "node-1"
  nodeEpoch := nodeEpoch
  publicRoute := "node-1"
  internalURL := "http://10.0.0.1"
  node := .init

/-- The process `p` registers itself. -/
def registers (id : ℕ) (p : ProcessID) : List Op :=
  [.registerNode id p 0 false, .run id {}, .run id {}]

/-- The process `p` removes itself. -/
def removes (id : ℕ) (p : ProcessID) : List Op := [.removeNode id p, .run id {}, .run id {}]

/-- One process after the other. -/
def restart : List Op :=
  [.process 0 (nodeOne 7)] ++ registers 0 0 ++ removes 1 0 ++ [.process 1 (nodeOne 8)] ++ registers 2 1

theorem ownKeys_restart : Run.Along (World.step 0) OwnKeys {} restart :=
  ownKeys_of_sole (by decide +kernel)

/-- The new process registers itself while the old one drains; then the old one shuts down. -/
def rollingRestart : List Op :=
  [.process 0 (nodeOne 7)] ++ registers 0 0 ++ [.process 1 (nodeOne 8)] ++ registers 2 1 ++ removes 1 0

/-- The keys that it deletes were last written by the new one. -/
theorem not_ownKeys_rollingRestart :
    ¬ ∀ singleTTL ops, Run.Along (World.step singleTTL) OwnKeys {} ops := by
  intro h
  have hnode := (h 0 rollingRestart).mono fun w op w' (hown : OwnKeys w op w') =>
    hown.node "node-1" 1
  exact absurd hnode (by decide +kernel)

end GeoDuels.Assignments
