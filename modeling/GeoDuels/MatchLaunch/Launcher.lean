import GeoDuels.Coordinator.Store

/-!
# Placing a match on a node

`EnsureAssignment` of `pkg/matchlaunch`: it looks the assignment of the match up, takes the lock of
the match, picks the least loaded node, sends it the create request, saves the assignment and releases
the lock.  A call in progress is a `Call`, and `Call.run` is its next command or request.
-/

namespace GeoDuels.MatchLaunch

open Coordinator

/-- Where a call of `EnsureAssignment` is; `wait` is the loop of a call that did not get the lock, and
the places from `list` on belong to the holder of the lock. -/
inductive At where
  | check
  | tryLock
  | wait
  | list
  | read (id : NodeID) (ids : List NodeID) (nodes : List NodeRecord) (stale : List NodeID)
  | dropStale (nodes : List NodeRecord) (stale : List NodeID)
  | create (target : NodeRecord)
  | save (target : NodeRecord)
  | unlock (result : Except String Assignment)

structure Call where
  found : MatchFound
  holder : String
  at_ : At

/-- The match as `EnsureAssignment` normalizes it. -/
def normalizeFound (found : MatchFound) : MatchFound :=
  { found with
    mode := normalizeMode found.mode found.matchID
    config := normalizeMatchConfig found.config }

/-- `EnsureAssignment` is called; the holder of the lock is the match id with a random suffix. -/
def Call.start (found : MatchFound) (suffix : String) : Call :=
  ⟨normalizeFound found, found.matchID ++ ":" ++ suffix, .check⟩

def pickLeastLoadedNode (nodes : List NodeRecord) : Option NodeRecord :=
  (nodes.insertionSort fun a b =>
    a.activeMatches < b.activeMatches ∨ a.activeMatches = b.activeMatches ∧ a.nodeID ≤ b.nodeID).head?

/-- What the call does with the nodes that it has listed. -/
def At.pick (nodes : List NodeRecord) : At :=
  match pickLeastLoadedNode (nodes.filter (!·.draining)) with
  | some target => .create target
  | none => .unlock (.error "no gameplay nodes available")

/-- The loop of `ListNodes` over the ids of the index. -/
def At.reading (nodes : List NodeRecord) (stale : List NodeID) : List NodeID → At
  | id :: ids => .read id ids nodes stale
  | [] => if stale = [] then .pick nodes else .dropStale nodes stale

/-- The assignment of a match to its node. -/
def assignmentTo (found : MatchFound) (target : NodeRecord) : Assignment where
  matchID := found.matchID
  mode := found.mode
  config := found.config
  nodeID := target.nodeID
  nodeEpoch := target.ownerEpoch
  publicRoute := target.publicRoute
  players := found.players
  sourceLobbyID := found.sourceLobbyID
  sourceLobbyInviteCode := found.sourceLobbyInviteCode

/-- The store after a command, how the call goes on or what it returns, and the node to which the
create request was sent. -/
structure Result where
  store : Store
  next : Call ⊕ Except String Assignment
  sent : Option NodeRecord := none

/-- The next command of the call; `accepted` says how the node answers a create request. -/
def Call.run (c : Call) (s : Store) (singleTTL now : ℤ) (accepted : Bool) : Result :=
  match c.at_ with
  | .check =>
      match s.getAssignmentByMatch c.found.matchID with
      | some assigned => { store := s, next := .inr (.ok assigned) }
      | none => { store := s, next := .inl { c with at_ := .tryLock } }
  | .tryLock =>
      if c.found.matchID = "" then { store := s, next := .inr (.error "matchID required") }
      else
        match s.tryLockMatch c.found.matchID c.holder with
        | some s => { store := s, next := .inl { c with at_ := .list } }
        | none => { store := s, next := .inl { c with at_ := .wait } }
  | .wait =>
      match s.getAssignmentByMatch c.found.matchID with
      | some assigned => { store := s, next := .inr (.ok assigned) }
      | none => { store := s, next := .inl c }
  | .list => { store := s, next := .inl { c with at_ := .reading [] [] s.nodeIndex } }
  | .read id ids nodes stale =>
      match s.getNodeByID id with
      | some rec => { store := s, next := .inl { c with at_ := .reading (nodes ++ [rec]) stale ids } }
      | none => { store := s, next := .inl { c with at_ := .reading nodes (stale ++ [id]) ids } }
  | .dropStale nodes stale =>
      { store := s.removeStale stale, next := .inl { c with at_ := .pick nodes } }
  | .create target =>
      let at_ :=
        if accepted then .save target
        else .unlock (.error "gameplay node rejected match create")
      { store := s, next := .inl { c with at_ := at_ }, sent := some target }
  | .save target =>
      let assigned := assignmentTo c.found target
      match s.saveAssignment singleTTL assigned now with
      | .ok s => { store := s, next := .inl { c with at_ := .unlock (.ok assigned) } }
      | .error err => { store := s, next := .inl { c with at_ := .unlock (.error err) } }
  | .unlock result => { store := s.unlockMatch c.found.matchID c.holder, next := .inr result }

theorem mem_of_pickLeastLoadedNode {nodes : List NodeRecord} {target : NodeRecord}
    (h : pickLeastLoadedNode nodes = some target) : target ∈ nodes :=
  (List.mem_insertionSort _).1 (List.mem_of_head? h)

end GeoDuels.MatchLaunch
