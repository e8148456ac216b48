import GeoDuels.Assignments.System
import GeoDuels.MatchLaunch.Spec

/-!
# Clearing an old match

A `ClearAssignment` of a match deletes the match's key and the key of every player of the record that it is
called with, whatever these hold.  The record was read before, or kept by the node since the match was
created, so a player may be in another match by now: then his key, which holds the assignment of that match,
is lost with the old one's.  `sparesOthers_iff` says that this is the order of calls that matters, the last
`SaveAssignment` or `ClearAssignment` that named the player having saved another match.  The key of
another match is never touched.
-/

namespace GeoDuels.Assignments

open Coordinator (Assignment NodeRecord Store isBlank)
open MatchLaunch (Call assignmentTo)

/-! ## Who holds the key of a user -/

/-- The keys that a `SaveAssignment` or a `ClearAssignment` writes are those of the named players. -/
def Named (players : List UserID) (u : UserID) : Prop := u ∈ players ∧ isBlank u = false

instance (players : List UserID) (u : UserID) : Decidable (Named players u) :=
  inferInstanceAs (Decidable (_ ∧ _))

/-- The match that was saved by the last call that named the user, if that call saved one. -/
def holder (u : UserID) : List Touch → Option MatchID
  | [] => none
  | .saved matchID players :: touched => if Named players u then some matchID else holder u touched
  | .cleared _ players :: touched => if Named players u then none else holder u touched

/-- The match whose assignment the key of the user holds. -/
def userMatch (s : Store) (u : UserID) : Option MatchID := (s.activeUser.lookup u).map (·.matchID)

/-- The keys of the users hold what the record of the calls says. -/
def KeysRecorded (s : Shared) : Prop := ∀ u, userMatch s.coord u = holder u s.touched

theorem userMatch_clearAssignment (s : Store) {rec : Assignment} (hid : rec.matchID ≠ "")
    (u : UserID) : userMatch (s.clearAssignment rec) u =
      if Named rec.players u then none else userMatch s u := by
  unfold userMatch Store.clearAssignment
  rw [if_neg hid]
  dsimp only
  rw [Assoc.lookup_foldl_erase]
  by_cases hu : Named rec.players u
  · rw [if_pos (Store.mem_named_iff.2 hu), if_pos hu]
    rfl
  · rw [if_neg (mt Store.mem_named_iff.1 hu), if_neg hu]

/-- A `SaveAssignment` fails and writes nothing, or it writes the keys of the named players. -/
theorem saveAssignment_cases (s : Store) (singleTTL : ℤ) (rec : Assignment) (now : ℤ) :
    (rec.matchID = "" ∨ rec.nodeID = "" ∨ rec.players = []) ∧
        (∃ err, s.saveAssignment singleTTL rec now = .error err) ∨
      ¬ (rec.matchID = "" ∨ rec.nodeID = "" ∨ rec.players = []) ∧
        ∃ s', s.saveAssignment singleTTL rec now = .ok s' ∧ ∀ u, userMatch s' u =
          if Named rec.players u then some rec.matchID else userMatch s u := by
  unfold Store.saveAssignment
  split_ifs with h
  · exact .inl ⟨h, _, rfl⟩
  · refine .inr ⟨h, _, rfl, fun u => ?_⟩
    unfold userMatch
    dsimp only
    rw [Assoc.lookup_foldl_insert fun _ => Store.savedAssignment singleTTL rec now]
    by_cases hu : Named rec.players u
    · rw [if_pos (Store.mem_named_iff.2 hu), if_pos hu]
      rfl
    · rw [if_neg (mt Store.mem_named_iff.1 hu), if_neg hu]

/-- A command of `EnsureAssignment` writes keys of users only when it saves. -/
theorem activeUser_run {c : Call} (h : ∀ target, c.at_ ≠ .save target) (s : Store)
    (singleTTL now : ℤ) (accepted : Bool) :
    (c.run s singleTTL now accepted).store.activeUser = s.activeUser := by
  obtain ⟨found, holder, at_⟩ := c
  cases at_ with
  | check | wait =>
      unfold Call.run
      dsimp only
      cases s.getAssignmentByMatch found.matchID <;> rfl
  | tryLock =>
      unfold Call.run Store.tryLockMatch
      dsimp only
      split_ifs <;> rfl
  | read id ids nodes stale =>
      unfold Call.run
      dsimp only
      cases s.getNodeByID id <;> rfl
  | list | dropStale | create => rfl
  | save target => exact absurd rfl (h target)
  | unlock result =>
      unfold Call.run Store.unlockMatch
      dsimp only
      split_ifs <;> rfl

theorem keysRecorded_launch {w : World} (h : KeysRecorded w.shared) (c : Call) (singleTTL now : ℤ)
    (accepted : Bool) : KeysRecorded { w.shared with
      coord := (c.run w.shared.coord singleTTL now accepted).store
      touched := w.touch c } := by
  intro u
  by_cases hsave : ∃ target, c.at_ = .save target
  · obtain ⟨found, lockHolder, at_⟩ := c
    obtain ⟨target, rfl⟩ := hsave
    dsimp only [Call.run, World.touch]
    rcases saveAssignment_cases w.shared.coord singleTTL (assignmentTo found target) now with
      ⟨hbad, err, herr⟩ | ⟨hok, s', hs', hkeys⟩
    · rw [herr, if_pos hbad]
      exact h u
    · rw [hs', if_neg hok]
      dsimp only [holder]
      rw [hkeys, h u]
  · have hsame := activeUser_run (fun target ht => hsave ⟨target, ht⟩) w.shared.coord singleTTL now
      accepted
    have htouch : w.touch c = w.shared.touched := by
      obtain ⟨found, holder, at_⟩ := c
      cases at_ with
      | save target => exact absurd ⟨target, rfl⟩ hsave
      | check | tryLock | wait | list | read | dropStale | create | unlock => rfl
    unfold userMatch
    dsimp only
    rw [hsame, htouch]
    exact h u

theorem keysRecorded_clear {s : Shared} (h : KeysRecorded s) (rec : Assignment) :
    KeysRecorded (s.clear rec) := by
  intro u
  unfold Shared.clear
  split_ifs with hid
  · exact h u
  · dsimp only [holder]
    rw [userMatch_clearAssignment _ hid, h u]

theorem keysRecorded_step {singleTTL : ℤ} {w w' : World} {op : Op} (h : KeysRecorded w.shared)
    (hs : w.step singleTTL op = some w') : KeysRecorded w'.shared := by
  have hframe : Frame w.shared w'.shared → KeysRecorded w'.shared := by
    intro hframe u
    rw [hframe.coord, hframe.touched]
    exact h u
  cases World.step_did hs with
  | idle _ frame => exact hframe frame
  | launch c now accepted _ shared =>
      rw [shared]
      exact keysRecorded_launch h c singleTTL now accepted
  | sent c x _ shared =>
      cases shared ▸ serve_served c x w.shared with
      | other frame => exact hframe frame
      | clear rec _ _ state =>
          rw [state]
          exact keysRecorded_clear h rec
      | register p existing rec _ _ state =>
          rw [state]
          exact h
      | remove p nodeID existing _ _ state =>
          rw [state]
          exact h

/-! ## Other matches are spared -/

/-- The record whose assignment the action clears. -/
def World.clearing (w : World) (op : Op) : Option Assignment :=
  match w.sends op with
  | some (.clearAssignment rec, x) => if x.fails ∨ rec.matchID = "" then none else some rec
  | _ => none

/-- A match is cleared without touching the key of another match, or the key of a user that holds the
assignment of another match. -/
def SparesOthers (w : World) (op : Op) (w' : World) : Prop :=
  ∀ rec ∈ w.clearing op,
    (∀ i, i ≠ rec.matchID →
      w'.shared.coord.activeMatch.lookup i = w.shared.coord.activeMatch.lookup i) ∧
    ∀ u a, w.shared.coord.activeUser.lookup u = some a → a.matchID ≠ rec.matchID →
      w'.shared.coord.activeUser.lookup u = some a

/-- A match is cleared before another match of one of its players is saved: of the calls that named the
player, the last one has not saved another match. -/
def ClearsInTime (w : World) (op : Op) : Prop :=
  ∀ rec ∈ w.clearing op, ∀ u ∈ rec.players, isBlank u = false →
    ∀ i ∈ holder u w.shared.touched, i = rec.matchID

instance (w : World) (op : Op) : Decidable (ClearsInTime w op) :=
  inferInstanceAs (Decidable (∀ rec ∈ w.clearing op, ∀ u ∈ rec.players, isBlank u = false →
    ∀ i ∈ holder u w.shared.touched, i = rec.matchID))

theorem clearing_eq_some {w : World} {op : Op} {rec : Assignment} (h : w.clearing op = some rec) :
    ∃ x, w.sends op = some (.clearAssignment rec, x) ∧ x.fails = false ∧ rec.matchID ≠ "" := by
  unfold World.clearing at h
  split at h
  · rename_i sent x hsends
    split_ifs at h with hx
    cases h
    rw [not_or, Bool.not_eq_true] at hx
    exact ⟨x, hsends, hx⟩
  · cases h

/-- What is left after an assignment was cleared. -/
theorem coord_of_clearing {singleTTL : ℤ} {w w' : World} {op : Op} {rec : Assignment}
    (hs : w.step singleTTL op = some w') (h : w.clearing op = some rec) :
    w'.shared.coord = w.shared.coord.clearAssignment rec := by
  obtain ⟨x, hsends, hx, hid⟩ := clearing_eq_some h
  cases World.step_did hs with
  | idle sends _ | launch _ _ _ sends _ => rw [hsends] at sends; cases sends
  | sent c y sends shared =>
      rw [hsends] at sends
      cases sends
      rw [shared]
      dsimp only [serve]
      unfold write Shared.clear
      rw [hx, if_neg hid]
      rfl

/-- One clearing spares the others exactly when it comes in time. -/
theorem sparesOthers_step_iff {singleTTL : ℤ} {w w' : World} {op : Op} (h : KeysRecorded w.shared)
    (hs : w.step singleTTL op = some w') : SparesOthers w op w' ↔ ClearsInTime w op := by
  refine forall_congr' fun rec => imp_congr_right fun hrec => ?_
  obtain ⟨-, -, -, hid⟩ := clearing_eq_some hrec
  have hcoord := coord_of_clearing hs hrec
  constructor
  · rintro ⟨-, husers⟩ u hu hblank i hi
    by_contra hne
    rw [← h u] at hi
    obtain ⟨a, ha, rfl⟩ := Option.map_eq_some_iff.1 hi
    have hkept := congrArg (Option.map (·.matchID)) (husers u a ha hne)
    have hlost := userMatch_clearAssignment w.shared.coord hid u
    rw [if_pos ⟨hu, hblank⟩, ← hcoord] at hlost
    rw [show (w'.shared.coord.activeUser.lookup u).map (·.matchID) = none from hlost] at hkept
    cases hkept
  · intro htime
    rw [hcoord]
    unfold Store.clearAssignment
    rw [if_neg hid]
    dsimp only
    refine ⟨fun i hi => AList.lookup_erase_ne hi, fun u a ha hne => ?_⟩
    rw [Assoc.lookup_foldl_erase, if_neg, ha]
    intro hmem
    obtain ⟨hu, hblank⟩ := Store.mem_named_iff.1 hmem
    have hholder : holder u w.shared.touched = some a.matchID := by
      rw [← h u, userMatch, ha]
      rfl
    exact hne (htime u hu hblank a.matchID hholder)

/-- Along a run every clearing of a match leaves the keys of the other matches and of their users alone
exactly when each comes before another match of one of its players is saved. -/
theorem sparesOthers_iff (singleTTL : ℤ) (ops : List Op) :
    Run.Along (World.step singleTTL) SparesOthers {} ops ↔
      Run.Guarded (World.step singleTTL) ClearsInTime {} ops :=
  Run.along_iff_guarded (fun _ _ _ => keysRecorded_step)
    (fun _ _ _ => sparesOthers_step_iff) fun _ => rfl

/-! ## A match that ends while its player starts the next one -/

/-- The node process of the match. -/
def endingNode : NodeProcess where
  nodeID := "node-1"
  nodeEpoch := 7
  publicRoute := "node-1"
  internalURL := "http://10.0.0.1"
  node := .init

def endingDuel : MatchFound :=
  { matchID := "match-1", mode := .duel, config := {}, players := ["u1", "u2"] }

def nextSession : MatchFound :=
  { matchID := "solo-1", mode := .singleplayer, config := {}, players := ["u1"] }

/-- A call of `EnsureAssignment`, from its arrival to its return. -/
def launchAll (id : ℕ) (found : MatchFound) : List Op :=
  .ensureAssignment id found "" :: List.replicate 7 (.launch id 1000 true)

/-- `terminalize` has recorded the end of the duel; before it clears the assignment, `u1` starts a
singleplayer session, for which the old assignment is cleared and the new one saved. -/
def lateCleanup : List Op :=
  [.process 0 endingNode, .registerNode 0 0 0 false, .run 0 {}, .run 0 {}] ++
  launchAll 0 endingDuel ++
  [.node 0 { GameplayNode.Node.init with
      matchUsers := (∅ : Assoc MatchID (List UserID)).insert "match-1" ["u1", "u2"] },
    .terminalize 1 0 "match-1", .run 1 {}, .run 1 {},
    .startSingleplayerSession 2 { sub := some "u1" }] ++
  List.replicate 5 (.run 2 {}) ++
  launchAll 1 nextSession ++
  [.run 1 {}]

/-- The key of `u1`, which holds the running session, is deleted with the duel's. -/
theorem not_sparesOthers_lateCleanup :
    ¬ ∀ singleTTL ops, Run.Along (World.step singleTTL) SparesOthers {} ops := by
  intro h
  have hguarded := (Run.along_iff_guarded (fun _ _ _ => keysRecorded_step)
    (fun _ _ _ => sparesOthers_step_iff) fun _ => rfl).1 (h 86400000 lateCleanup)
  exact absurd hguarded (by decide +kernel)

end GeoDuels.Assignments
