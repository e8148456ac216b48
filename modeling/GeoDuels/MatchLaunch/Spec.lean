import GeoDuels.MatchLaunch.Launcher

/-!
# What a call of EnsureAssignment does to the assignments

The assignments are read by `getAssignmentByMatch` and `getAssignmentByUser`; the commands that write
them are described by what these two return afterwards.  `Call.run_spec` says for each command of a
call whether it leaves them alone, has a match created or saves an assignment.
-/

namespace GeoDuels.Coordinator.Store

theorem getAssignment_insert {K : Type} [DecidableEq K] (z : Assoc K Assignment) (k k' : K)
    {a : Assignment} (ha : a.matchID ≠ "") :
    getAssignment (z.insert k a) k' = if k' = k then some a else getAssignment z k' := by
  unfold getAssignment
  rw [Assoc.lookup_insert]
  split_ifs
  · simp [ha]
  · rfl

theorem getAssignment_erase {K : Type} [DecidableEq K] (z : Assoc K Assignment) (k k' : K) :
    getAssignment (z.erase k) k' = if k' = k then none else getAssignment z k' := by
  unfold getAssignment
  rw [Assoc.lookup_erase]
  split_ifs <;> rfl

/-- The player gets an assignment of his own. -/
theorem mem_named_iff {players : List UserID} {u : UserID} :
    u ∈ players.filter (!isBlank ·) ↔ u ∈ players ∧ isBlank u = false := by
  simp [List.mem_filter]

theorem matchID_ne_of_getAssignment {K : Type} [DecidableEq K] {z : Assoc K Assignment} {k : K}
    {a : Assignment} (h : getAssignment z k = some a) : a.matchID ≠ "" := by
  simpa using (Option.filter_eq_some_iff.1 h).2

/-- The assignments of the store `s'` after an assignment was saved. -/
structure Saved (s s' : Store) (a : Assignment) : Prop where
  byMatch : ∀ i, s'.getAssignmentByMatch i =
    if i = a.matchID then some a else s.getAssignmentByMatch i
  byUser : ∀ u, s'.getAssignmentByUser u =
    if u ∈ a.players ∧ isBlank u = false then some a else s.getAssignmentByUser u

theorem saveAssignment_saved (s : Store) (rec : Assignment) (singleTTL now : ℤ)
    (hid : rec.matchID ≠ "") (hnode : rec.nodeID ≠ "") (hplayers : rec.players ≠ []) :
    ∃ s', s.saveAssignment singleTTL rec now = .ok s' ∧
      Saved s s' (savedAssignment singleTTL rec now) := by
  unfold saveAssignment
  rw [if_neg (by simp [hid, hnode, hplayers])]
  refine ⟨_, rfl, fun i => ?_, fun u => ?_⟩
  · exact getAssignment_insert s.activeMatch rec.matchID i hid
  · unfold getAssignmentByUser getAssignment
    dsimp only
    rw [Assoc.lookup_foldl_insert (fun _ => savedAssignment singleTTL rec now)]
    by_cases hu : u ∈ rec.players ∧ isBlank u = false
    · rw [if_pos (mem_named_iff.2 hu), if_pos (by exact hu)]
      simp [savedAssignment, hid]
    · rw [if_neg (mt mem_named_iff.1 hu), if_neg (by exact hu)]

/-- The assignments of the store `s'` after an assignment was cleared. -/
structure Cleared (s s' : Store) (a : Assignment) : Prop where
  byMatch : ∀ i, s'.getAssignmentByMatch i =
    if i = a.matchID then none else s.getAssignmentByMatch i
  byUser : ∀ u, s'.getAssignmentByUser u =
    if u ∈ a.players ∧ isBlank u = false then none else s.getAssignmentByUser u

theorem clearAssignment_of_blank (s : Store) {a : Assignment} (ha : a.matchID = "") :
    s.clearAssignment a = s := if_pos ha

theorem clearAssignment_cleared (s : Store) {a : Assignment} (ha : a.matchID ≠ "") :
    Cleared s (s.clearAssignment a) a := by
  unfold clearAssignment
  rw [if_neg ha]
  refine ⟨fun i => getAssignment_erase s.activeMatch a.matchID i, fun u => ?_⟩
  unfold getAssignmentByUser getAssignment
  dsimp only
  rw [Assoc.lookup_foldl_erase]
  by_cases hu : u ∈ a.players ∧ isBlank u = false
  · rw [if_pos (mem_named_iff.2 hu), if_pos hu]
    rfl
  · rw [if_neg (mt mem_named_iff.1 hu), if_neg hu]

/-- The assignments are the same. -/
structure SameAssignments (s s' : Store) : Prop where
  byMatch : ∀ i, s'.getAssignmentByMatch i = s.getAssignmentByMatch i
  byUser : ∀ u, s'.getAssignmentByUser u = s.getAssignmentByUser u

theorem SameAssignments.refl (s : Store) : SameAssignments s s := ⟨fun _ => rfl, fun _ => rfl⟩

end GeoDuels.Coordinator.Store

namespace GeoDuels.MatchLaunch

open Coordinator

/-- The nodes that the call has listed have an id. -/
def At.Sound : At → Prop
  | .read _ _ nodes _ | .dropStale nodes _ => ∀ x ∈ nodes, x.nodeID ≠ ""
  | .create target | .save target => target.nodeID ≠ ""
  | _ => True

/-- The match whose assignment the call saves with its next command. -/
def Call.saving : Call → Option MatchFound
  | ⟨found, _, .save _⟩ => some found
  | _ => none

theorem eq_of_saving {c : Call} {m : MatchFound} (h : c.saving = some m) : m = c.found := by
  obtain ⟨found, holder, at_⟩ := c
  cases at_ with
  | save target => exact (Option.some.inj h).symm
  | check | tryLock | wait | list | read | dropStale | create | unlock => cases h

theorem pick_sound {nodes : List NodeRecord} (h : ∀ x ∈ nodes, x.nodeID ≠ "") :
    (At.pick nodes).Sound := by
  unfold At.pick
  cases ht : pickLeastLoadedNode (nodes.filter (!·.draining)) with
  | none => trivial
  | some target => exact h target (List.mem_of_mem_filter (mem_of_pickLeastLoadedNode ht))

theorem pick_saving (found : MatchFound) (holder : String) (nodes : List NodeRecord) :
    Call.saving ⟨found, holder, .pick nodes⟩ = none := by
  unfold At.pick
  cases pickLeastLoadedNode (nodes.filter (!·.draining)) <;> rfl

theorem reading_sound {nodes : List NodeRecord} (h : ∀ x ∈ nodes, x.nodeID ≠ "")
    (stale ids : List NodeID) : (At.reading nodes stale ids).Sound := by
  unfold At.reading
  cases ids with
  | cons id ids => exact h
  | nil =>
      dsimp only
      split_ifs
      · exact pick_sound h
      · exact h

theorem reading_saving (found : MatchFound) (holder : String) (nodes : List NodeRecord)
    (stale ids : List NodeID) : Call.saving ⟨found, holder, .reading nodes stale ids⟩ = none := by
  unfold At.reading
  cases ids with
  | cons id ids => rfl
  | nil =>
      dsimp only
      split_ifs
      · exact pick_saving ..
      · rfl

/-- What a command of the call `c` does to the store `s`. -/
inductive Ran (c : Call) (s : Store) (accepted : Bool) (r : Result) : Prop
  | quiet (idle : c.saving = none) (same : s.SameAssignments r.store)
      (sent : r.sent.isSome → accepted = false)
      (next : ∀ d, r.next = .inl d → d.found = c.found ∧ d.at_.Sound ∧ d.saving = none)
  | post (target : NodeRecord) (idle : c.saving = none) (store : r.store = s)
      (sound : target.nodeID ≠ "") (next : r.next = .inl { c with at_ := .save target })
  | save (a : Assignment) (saving : c.saving = some c.found) (saved : s.Saved r.store a)
      (matchID : a.matchID = c.found.matchID) (mode : a.mode = c.found.mode)
      (players : a.players = c.found.players) (sent : r.sent = none)
      (next : ∃ returned, r.next = .inl { c with at_ := .unlock returned })

/-- What the next command of a call does. -/
theorem Call.run_spec {c : Call} (hc : c.at_.Sound) (hid : c.found.matchID ≠ "")
    (hplayers : c.found.players ≠ []) (s : Store) (singleTTL now : ℤ) (accepted : Bool) :
    Ran c s accepted (c.run s singleTTL now accepted) := by
  obtain ⟨found, holder, at_⟩ := c
  have hsame : s.SameAssignments s := .refl s
  cases at_ with
  | check | wait =>
      unfold Call.run
      dsimp only
      cases s.getAssignmentByMatch found.matchID with
      | some a => exact .quiet rfl hsame Bool.noConfusion fun d hd => by cases hd
      | none =>
          refine .quiet rfl hsame Bool.noConfusion fun d hd => ?_
          obtain rfl := Sum.inl.inj hd
          exact ⟨rfl, trivial, rfl⟩
  | tryLock =>
      unfold Call.run Store.tryLockMatch
      dsimp only
      rw [if_neg hid]
      by_cases hlock : found.matchID ∈ s.lock
      · rw [if_pos hlock]
        refine .quiet rfl hsame Bool.noConfusion fun d hd => ?_
        obtain rfl := Sum.inl.inj hd
        exact ⟨rfl, trivial, rfl⟩
      · rw [if_neg hlock]
        refine .quiet rfl ⟨fun _ => rfl, fun _ => rfl⟩ Bool.noConfusion fun d hd => ?_
        obtain rfl := Sum.inl.inj hd
        exact ⟨rfl, trivial, rfl⟩
  | list =>
      refine .quiet rfl hsame Bool.noConfusion fun d hd => ?_
      obtain rfl := Sum.inl.inj hd
      exact ⟨rfl, reading_sound (fun x hx => absurd hx List.not_mem_nil) .., reading_saving ..⟩
  | read id ids nodes stale =>
      unfold Call.run
      dsimp only
      cases hrec : s.getNodeByID id with
      | none =>
          refine .quiet rfl hsame Bool.noConfusion fun d hd => ?_
          obtain rfl := Sum.inl.inj hd
          exact ⟨rfl, reading_sound hc .., reading_saving ..⟩
      | some rec =>
          refine .quiet rfl hsame Bool.noConfusion fun d hd => ?_
          obtain rfl := Sum.inl.inj hd
          have hne : rec.nodeID ≠ "" := by simpa using (Option.filter_eq_some_iff.1 hrec).2
          refine ⟨rfl, reading_sound (fun x hx => ?_) .., reading_saving ..⟩
          rcases List.mem_append.1 hx with hx | hx
          · exact hc x hx
          · rwa [List.mem_singleton.1 hx]
  | dropStale nodes stale =>
      refine .quiet rfl ⟨fun _ => rfl, fun _ => rfl⟩ Bool.noConfusion fun d hd => ?_
      obtain rfl := Sum.inl.inj hd
      exact ⟨rfl, pick_sound hc, pick_saving ..⟩
  | create target =>
      cases accepted with
      | true => exact .post target rfl rfl hc rfl
      | false =>
          refine .quiet rfl hsame (fun _ => rfl) fun d hd => ?_
          obtain rfl := Sum.inl.inj hd
          exact ⟨rfl, trivial, rfl⟩
  | save target =>
      obtain ⟨s', hs', hsaved⟩ :=
        s.saveAssignment_saved (assignmentTo found target) singleTTL now hid hc hplayers
      unfold Call.run
      dsimp only
      rw [hs']
      exact .save _ rfl hsaved rfl rfl rfl rfl ⟨_, rfl⟩
  | unlock result =>
      unfold Call.run Store.unlockMatch
      dsimp only
      refine .quiet rfl ?_ Bool.noConfusion fun d hd => by cases hd
      split_ifs
      · exact ⟨fun _ => rfl, fun _ => rfl⟩
      · exact hsame

/-! ## What a call returns -/

theorem pick_ne_unlock_ok (nodes : List NodeRecord) (a : Assignment) :
    At.pick nodes ≠ .unlock (.ok a) := by
  unfold At.pick
  cases pickLeastLoadedNode (nodes.filter (!·.draining)) <;> simp

theorem reading_ne_unlock_ok (nodes : List NodeRecord) (stale ids : List NodeID) (a : Assignment) :
    At.reading nodes stale ids ≠ .unlock (.ok a) := by
  unfold At.reading
  cases ids with
  | cons id ids => simp
  | nil =>
      dsimp only
      split_ifs
      · exact pick_ne_unlock_ok nodes a
      · simp

/-- A call returns the stored assignment of its match or the one that it has saved. -/
theorem Call.run_returns {c : Call} {s : Store} {singleTTL now : ℤ} {accepted : Bool}
    {a : Assignment} (h : (c.run s singleTTL now accepted).next = .inr (.ok a)) :
    (c.at_ = .check ∨ c.at_ = .wait) ∧ s.getAssignmentByMatch c.found.matchID = some a ∨
      c.at_ = .unlock (.ok a) := by
  obtain ⟨found, holder, at_⟩ := c
  cases at_ with
  | check | wait =>
      unfold Call.run at h
      dsimp only at h
      cases ha : s.getAssignmentByMatch found.matchID with
      | none => simp [ha] at h
      | some b =>
          simp only [ha, Sum.inr.injEq, Except.ok.injEq] at h
          exact .inl ⟨by simp, congrArg some h⟩
  | tryLock =>
      unfold Call.run at h
      dsimp only at h
      split_ifs at h
      · cases h
      · split at h <;> cases h
  | read id ids nodes stale =>
      unfold Call.run at h
      dsimp only at h
      split at h <;> cases h
  | list | dropStale | create => cases h
  | save target =>
      unfold Call.run at h
      dsimp only at h
      split at h <;> cases h
  | unlock result =>
      simp only [Call.run, Sum.inr.injEq] at h
      exact .inr (by rw [h])

/-- A call that is about to return an assignment has just saved it. -/
theorem Call.run_unlock {c d : Call} {s : Store} {singleTTL now : ℤ} {accepted : Bool}
    {a : Assignment} (h : (c.run s singleTTL now accepted).next = .inl d)
    (ha : d.at_ = .unlock (.ok a)) :
    ∃ target, c.at_ = .save target ∧ a = assignmentTo c.found target := by
  obtain ⟨found, holder, at_⟩ := c
  cases at_ with
  | check | wait =>
      unfold Call.run at h
      dsimp only at h
      split at h
      · cases h
      · obtain rfl := Sum.inl.inj h
        cases ha
  | tryLock =>
      unfold Call.run at h
      dsimp only at h
      split_ifs at h
      split at h <;> obtain rfl := Sum.inl.inj h <;> cases ha
  | list =>
      obtain rfl := Sum.inl.inj h
      exact (reading_ne_unlock_ok _ _ _ _ ha).elim
  | read id ids nodes stale =>
      unfold Call.run at h
      dsimp only at h
      split at h <;> obtain rfl := Sum.inl.inj h <;> exact (reading_ne_unlock_ok _ _ _ _ ha).elim
  | dropStale nodes stale =>
      obtain rfl := Sum.inl.inj h
      exact (pick_ne_unlock_ok _ _ ha).elim
  | create target =>
      obtain rfl := Sum.inl.inj h
      cases accepted <;> cases ha
  | save target =>
      unfold Call.run at h
      dsimp only at h
      split at h <;> obtain rfl := Sum.inl.inj h <;> cases ha
      exact ⟨target, rfl, rfl⟩
  | unlock result => cases h

end GeoDuels.MatchLaunch
