import GeoDuels.Assignments.Requests
import GeoDuels.Lib.Run
import GeoDuels.MatchLaunch.Launcher

/-!
# The system

The requests of any number of services and node processes, run one command at a time in any order,
together with the calls of `EnsureAssignment`.  What else happens to the matches of a node is one action
(`node`) that leaves it in any state.
-/

namespace GeoDuels.Assignments

open Coordinator (Assignment NodeID NodeRecord)
open MatchCoordinator (AssignmentStatus)
open MatchLaunch (Call assignmentTo)

/-- What a request ends with. -/
inductive Answer where
  | done
  | status (status : AssignmentStatus)
  | verdict (verdict : Verdict)

/-- The check that a handler makes of the assignment of a user. -/
def checkUser (userID : UserID) : Request Answer := do
  match ← Request.getAssignmentByUser userID with
  | .found assigned =>
      let status ← validateAssignment assigned
      pure (.status status)
  | .missing | .err => pure .done

structure World where
  shared : Shared := {}
  requests : Assoc ℕ (Request Answer) := ∅
  ensures : Assoc ℕ Call := ∅

inductive Op where
  /-- A node process starts. -/
  | process (p : ProcessID) (proc : NodeProcess)
  | node (p : ProcessID) (n : GameplayNode.Node)
  | registerNode (id : ℕ) (p : ProcessID) (activeMatches : ℤ) (draining : Bool)
  | removeNode (id : ℕ) (p : ProcessID)
  | terminalize (id : ℕ) (p : ProcessID) (matchID : MatchID)
  | checkUser (id : ℕ) (userID : UserID)
  | startSingleplayerSession (id : ℕ) (caller : Caller)
  | ensureAssignment (id : ℕ) (found : MatchFound) (suffix : String)
  /-- The next command of a request. -/
  | run (id : ℕ) (x : Choice)
  /-- The next command of a call of `EnsureAssignment`. -/
  | launch (id : ℕ) (now : ℤ) (accepted : Bool)

namespace World

/-- A request arrives. -/
def arrive (w : World) (id : ℕ) (r : Request Answer) : Option World :=
  if id ∈ w.requests then none else some { w with requests := w.requests.insert id r }

/-- What a call of `EnsureAssignment` writes with its next command into the record of the touched
assignments. -/
def touch (c : Call) (w : World) : List Touch :=
  match c with
  | ⟨found, _, .save target⟩ =>
      let assigned := assignmentTo found target
      if assigned.matchID = "" ∨ assigned.nodeID = "" ∨ assigned.players = [] then w.shared.touched
      else .saved assigned.matchID assigned.players :: w.shared.touched
  | _ => w.shared.touched

variable (singleTTL : ℤ)

/-- The next command of the call `id`. -/
def launch (w : World) (id : ℕ) (c : Call) (now : ℤ) (accepted : Bool) : World :=
  let r := c.run w.shared.coord singleTTL now accepted
  { w with
    shared := { w.shared with coord := r.store, touched := w.touch c }
    ensures :=
      match r.next with
      | .inl c => w.ensures.insert id c
      | .inr _ => w.ensures.erase id }

def step (w : World) : Op → Option World
  | .process p proc =>
      if p ∈ w.shared.processes then none
      else some { w with
        shared := { w.shared with processes := w.shared.processes.insert p proc } }
  | .node p n => some { w with shared := w.shared.setNode p n }
  | .registerNode id p activeMatches draining =>
      (w.shared.processes.lookup p).bind fun proc =>
        w.arrive id (registerNode p (proc.record activeMatches draining) >>= fun _ => pure .done)
  | .removeNode id p =>
      (w.shared.processes.lookup p).bind fun proc =>
        w.arrive id (removeNode p proc.nodeID >>= fun _ => pure .done)
  | .terminalize id p matchID =>
      (w.shared.processes.lookup p).bind fun proc =>
        w.arrive id (terminalize p proc.nodeEpoch matchID >>= fun _ => pure .done)
  | .checkUser id userID => w.arrive id (checkUser userID)
  | .startSingleplayerSession id caller =>
      w.arrive id (startSingleplayerSession caller >>= fun verdict => pure (.verdict verdict))
  | .ensureAssignment id found suffix =>
      if id ∈ w.ensures then none
      else some { w with ensures := w.ensures.insert id (Call.start found suffix) }
  | .run id x =>
      (w.requests.lookup id).bind fun r =>
        (r.resume serve x w.shared).map fun next =>
          { w with shared := next.2, requests := w.requests.insert id next.1 }
  | .launch id now accepted =>
      (w.ensures.lookup id).map fun c => w.launch singleTTL id c now accepted

/-- The command that an action sends, with what it meets. -/
def sends (w : World) : Op → Option (Command × Choice)
  | .run id x => ((w.requests.lookup id).bind (·.next)).map (·, x)
  | _ => none

end World

/-! ## What an action does -/

/-- The settings of the processes stay what they were. -/
def SameSettings (z z' : Assoc ProcessID NodeProcess) : Prop :=
  ∀ p proc, z.lookup p = some proc → ∃ proc', z'.lookup p = some proc' ∧
    proc'.nodeID = proc.nodeID ∧ proc'.publicRoute = proc.publicRoute

/-- Neither the assignments nor the registered nodes change. -/
structure Frame (s s' : Shared) : Prop where
  coord : s'.coord = s.coord
  touched : s'.touched = s.touched
  registered : s'.registered = s.registered
  nodeWriter : s'.nodeWriter = s.nodeWriter
  routeWriter : s'.routeWriter = s.routeWriter
  settings : SameSettings s.processes s'.processes

theorem SameSettings.refl (z : Assoc ProcessID NodeProcess) : SameSettings z z :=
  fun _ proc hp => ⟨proc, hp, rfl, rfl⟩

theorem Frame.refl (s : Shared) : Frame s s := ⟨rfl, rfl, rfl, rfl, rfl, .refl _⟩

theorem frame_setNode (s : Shared) (p : ProcessID) (n : GameplayNode.Node) :
    Frame s (s.setNode p n) := by
  refine ⟨rfl, rfl, rfl, rfl, rfl, fun q proc hq => ?_⟩
  unfold Shared.setNode
  by_cases hqp : q = p
  · subst hqp
    exact ⟨{ proc with node := n }, by simp [hq], rfl, rfl⟩
  · exact ⟨proc, by simp [Assoc.lookup_modify_ne hqp, hq], rfl, rfl⟩

theorem frame_ask (s : Shared) (x : Choice) (f : GameplayNode.Node → ℕ × GameplayNode.Node) :
    Frame s (s.ask x f).2 := by
  unfold Shared.ask
  split_ifs
  · exact .refl s
  · split
    · exact .refl s
    · exact .refl s
    · exact frame_setNode ..

theorem frame_recordRuntimeMatch (s : Shared) (x : Choice) (matchID : MatchID) (state : MatchState)
    (ownerEpoch : ℤ) (terminal : Bool) :
    Frame s (s.recordRuntimeMatch x matchID state ownerEpoch terminal).2 := by
  unfold Shared.recordRuntimeMatch write
  split_ifs
  · exact .refl s
  · exact .refl s
  · exact ⟨rfl, rfl, rfl, rfl, rfl, .refl _⟩

theorem frame_unregisterMatch (s : Shared) (p : ProcessID) (matchID : MatchID) :
    Frame s (s.unregisterMatch p matchID).2 := by
  unfold Shared.unregisterMatch
  split
  · exact .refl s
  · split
    · exact .refl s
    · exact frame_setNode ..

/-- The effect of a command on the assignments and the registered nodes. -/
inductive Served (c : Command) (x : Choice) (s s' : Shared) : Prop
  | other (frame : Frame s s')
  | clear (rec : Assignment) (sent : c = .clearAssignment rec) (done : x.fails = false)
      (state : s' = s.clear rec)
  | register (p : ProcessID) (existing : Option NodeRecord) (rec : NodeRecord)
      (sent : c = .registerNode p existing rec) (done : x.fails = false)
      (state : s' = s.register p existing rec x.now)
  | remove (p : ProcessID) (nodeID : NodeID) (existing : Option NodeRecord)
      (sent : c = .removeNode p nodeID existing) (done : x.fails = false)
      (state : s' = s.remove p nodeID existing)

/-- A write that succeeds. -/
theorem write_cases (x : Choice) (s s' : Shared) :
    (write x s s').2 = s ∨ x.fails = false ∧ (write x s s').2 = s' := by
  unfold write
  cases x.fails with
  | true => exact .inl rfl
  | false => exact .inr ⟨rfl, rfl⟩

theorem serve_served (c : Command) (x : Choice) (s : Shared) : Served c x s (serve c x s).2 := by
  have hframe : ∀ {s'}, s' = s → Served c x s s' := fun h => .other (h ▸ .refl s)
  cases c with
  | now | getAssignmentByUser | getRuntimeMatch | getNodeRoute | getNode => exact hframe rfl
  | probe node matchID => exact .other (frame_ask s x fun n => (matchStatus x matchID n, n))
  | terminate node matchID userID => exact .other (frame_ask s x (terminateMatch x matchID userID))
  | recordRuntimeMatch => exact .other (frame_recordRuntimeMatch ..)
  | unregisterMatch => exact .other (frame_unregisterMatch ..)
  | clearAssignment rec =>
      rcases write_cases x s (s.clear rec) with h | ⟨hx, h⟩
      · exact hframe h
      · exact .clear rec rfl hx h
  | registerNode p existing rec =>
      rcases write_cases x s (s.register p existing rec x.now) with h | ⟨hx, h⟩
      · exact hframe h
      · exact .register p existing rec rfl hx h
  | removeNode p nodeID existing =>
      rcases write_cases x s (s.remove p nodeID existing) with h | ⟨hx, h⟩
      · exact hframe h
      · exact .remove p nodeID existing rfl hx h

namespace World

variable {singleTTL : ℤ} {w w' : World} {op : Op}

/-- What an action does to the assignments and the registered nodes. -/
inductive Did (singleTTL : ℤ) (w : World) (op : Op) (w' : World) : Prop
  | idle (sends : w.sends op = none) (frame : Frame w.shared w'.shared)
  | sent (c : Command) (x : Choice) (sends : w.sends op = some (c, x))
      (shared : w'.shared = (serve c x w.shared).2)
  | launch (c : Call) (now : ℤ) (accepted : Bool) (sends : w.sends op = none)
      (shared : w'.shared = { w.shared with
        coord := (c.run w.shared.coord singleTTL now accepted).store
        touched := w.touch c })

theorem shared_arrive {id : ℕ} {r : Request Answer} (h : w.arrive id r = some w') :
    w'.shared = w.shared := by
  unfold arrive at h
  split_ifs at h
  cases h
  rfl

theorem step_did (h : step singleTTL w op = some w') : Did singleTTL w op w' := by
  have harrive : ∀ {id r}, w.sends op = none → w.arrive id r = some w' → Did singleTTL w op w' := by
    intro id r hsends h
    refine .idle hsends ?_
    rw [shared_arrive h]
    exact .refl _
  cases op with
  | process p proc =>
      dsimp only [step] at h
      split_ifs at h with hp
      cases h
      refine .idle rfl ⟨rfl, rfl, rfl, rfl, rfl, fun q proc' hq => ⟨proc', ?_, rfl, rfl⟩⟩
      have hqp : q ≠ p := by
        rintro rfl
        exact hp (Assoc.mem_iff_exists.2 ⟨proc', hq⟩)
      exact (AList.lookup_insert_ne hqp).trans hq
  | node p n =>
      cases h
      exact .idle rfl (frame_setNode ..)
  | registerNode id p | removeNode id p | terminalize id p =>
      obtain ⟨proc, -, h⟩ := Option.bind_eq_some_iff.1 h
      exact harrive rfl h
  | checkUser | startSingleplayerSession => exact harrive rfl h
  | ensureAssignment id found suffix =>
      dsimp only [step] at h
      split_ifs at h
      cases h
      exact .idle rfl (.refl _)
  | run id x =>
      obtain ⟨r, hr, h⟩ := Option.bind_eq_some_iff.1 h
      obtain ⟨next, hnext, rfl⟩ := Option.map_eq_some_iff.1 h
      obtain ⟨c, k, rfl, -, hs⟩ := Prog.resume_eq_some hnext
      exact .sent c x (by simp [sends, hr]) hs
  | launch id now accepted =>
      obtain ⟨c, -, rfl⟩ := Option.map_eq_some_iff.1 h
      exact .launch c now accepted rfl rfl

end World

end GeoDuels.Assignments
