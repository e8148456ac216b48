import GeoDuels.StartLobby.NoStray

/-!
# The assignment of the members

The members of a lobby that is in a match hold one and the same assignment, that of the match, when
each request marks the lobby for the members that it has read and nothing replaces or removes the
assignment of a lobby's match before it has ended (`started_law`).  A member who joins while a request
is on its way is in the lobby's match without an assignment (`not_started_joinAtOnce`).
-/

namespace GeoDuels.StartLobby

open Coordinator (Assignment isBlank)
open Coordinator.Store (Saved SameAssignments)
open MatchCoordinator (LobbyAt lobbyMatchFound)
open MatchLaunch (Call)
open Persistence (Active DB LobbyID LobbyRow MemberRow Role activeUsers lobbyRow memberRow updateActiveMember
  updateOpenLobby)
open ReadCommitted (update view)

/-! ## The property -/

/-- The lobby is in the match. -/
def Playing (db : DB) (l : LobbyID) (m : MatchID) : Prop :=
  ∃ row, lobbyRow db l = some row ∧ row.state = .inMatch ∧ row.activeMatchID = some m

/-- The users hold one and the same assignment, that of the lobby's match. -/
def Share (s : Coordinator.Store) (l : LobbyID) (m : MatchID) (users : List UserID) : Prop :=
  ∃ a ∈ s.getAssignmentByMatch m, a.matchID = m ∧ a.sourceLobbyID = l ∧
    ∀ u ∈ users, isBlank u = false → s.getAssignmentByUser u = some a

/-- No stray match, and the members of a lobby share the assignment of the match in which it is. -/
structure Started (w : World) : Prop extends NoStray w where
  members : ∀ l m, l ≠ "" → Playing w.db l m → m ∉ w.ended → Share w.coord l m (activeUsers w.db l)

/-! ## The condition -/

/-- The assignment is of no lobby, or its match is over. -/
def Loose (w : World) (a : Assignment) : Prop := a.sourceLobbyID = "" ∨ a.matchID ∈ w.ended

/-- The assignments that are stored for the match and the users are loose. -/
def Frees (w : World) (m : MatchID) (users : List UserID) : Prop :=
  (∀ a ∈ w.coord.getAssignmentByMatch m, Loose w a) ∧
    ∀ u ∈ users, isBlank u = false → ∀ a ∈ w.coord.getAssignmentByUser u, Loose w a

/-- `ClearAssignment` removes loose assignments only. -/
def Clears (w : World) (a : Assignment) : Prop := a.matchID = "" ∨ Frees w a.matchID a.players

/-- The user is in the lobby, or shares the assignment of the match in which it is. -/
def Joins (w : World) (l : LobbyID) (u : UserID) : Prop :=
  Active w.db l u ∨ ∀ row ∈ lobbyRow w.db l, row.state = .inMatch → ∀ m ∈ row.activeMatchID,
    m ∈ w.ended ∨ w.coord.getAssignmentByUser u = w.coord.getAssignmentByMatch m

/-- A request clears and replaces loose assignments only; an assignment that it finds for its match is
that of its players already; and a lobby that it finds open when it marks it has no members but these. -/
def Request.KeepsMembers (w : World) (r : Request) : Prop :=
  match r.at_ with
  | .start _ (.clear _ _ _ assigned _) => Clears w assigned
  | .start _ (.launch ⟨found, _, .check⟩) | .start _ (.launch ⟨found, _, .wait⟩) =>
      w.coord.getAssignmentByMatch found.matchID = none ∨
        Share w.coord r.lobbyID found.matchID found.players
  | .start _ (.launch ⟨found, _, .save _⟩) => Frees w found.matchID found.players
  | .mark found _ => ∀ row ∈ lobbyRow w.db r.lobbyID, row.state = .open_ →
      ∀ u ∈ activeUsers w.db r.lobbyID, isBlank u = false → u ∈ found.players
  | _ => True

/-- The step leaves the assignments of lobby matches to their members. -/
def KeepsMembers (w : World) : Op → Prop
  | .request id _ => ∀ r ∈ w.requests.lookup id, r.KeepsMembers w
  | .clearAssignment a => Clears w a
  | .statement (.upsertMember l u _ _) => Joins w l u
  | _ => True

/-! ## What becomes of the rows -/

section Rows

variable {db db' db'' : DB} {l l' : LobbyID} {u : UserID}

/-- No lobby goes into a match and no user into a lobby. -/
structure Shrinks (db db' : DB) : Prop where
  playing : ∀ l m, Playing db' l m → Playing db l m
  active : ∀ l u, Active db' l u → Active db l u

theorem Shrinks.refl (db : DB) : Shrinks db db := ⟨fun _ _ h => h, fun _ _ h => h⟩

theorem Shrinks.trans (h : Shrinks db db') (h' : Shrinks db' db'') : Shrinks db db'' :=
  ⟨fun l m hm => h.playing l m (h'.playing l m hm), fun l u hu => h.active l u (h'.active l u hu)⟩

theorem shrinks_foldl {α : Type} {f : DB → α → DB} (hf : ∀ db x, Shrinks db (f db x)) (xs : List α) :
    ∀ db, Shrinks db (xs.foldl f db) := by
  induction xs with
  | nil => exact Shrinks.refl
  | cons x xs ih => exact fun db => (hf db x).trans (ih (f db x))

/-- The members of a lobby when its row is written. -/
theorem active_of_memberRow (h : ∀ l u, memberRow db' l u = memberRow db l u) (hu : Active db' l u) :
    Active db l u := by
  obtain ⟨row, hrow, hleft⟩ := hu
  exact ⟨row, (h l u).symm.trans hrow, hleft⟩

theorem playing_of_lobbyRow {m : MatchID} (h : ∀ l, lobbyRow db' l = lobbyRow db l)
    (hm : Playing db' l m) : Playing db l m := by
  obtain ⟨row, hrow, hrest⟩ := hm
  exact ⟨row, (h l).symm.trans hrow, hrest⟩

theorem shrinks_updateOpenLobby (db : DB) (l : LobbyID) (now : ℕ) {set : LobbyRow → LobbyRow}
    (hset : ∀ row, row.state = .open_ → (set row).state ≠ .inMatch) :
    Shrinks db (view (updateOpenLobby db l now set) db) := by
  refine ⟨fun l' m hm => ?_, fun l' u =>
    active_of_memberRow fun l' u => Persistence.memberRow_updateOpenLobby db l l' u now db set⟩
  obtain ⟨row', hrow', hstate, hmatch⟩ := hm
  rw [Persistence.lobbyRow_updateOpenLobby] at hrow'
  split_ifs at hrow' with hl
  · obtain ⟨row, hrow, rfl⟩ := Option.map_eq_some_iff.1 hrow'
    split_ifs at hstate hmatch with hopen
    · exact absurd hstate (hset row hopen)
    · exact ⟨row, hrow, hstate, hmatch⟩
  · exact ⟨row', hrow', hstate, hmatch⟩

theorem shrinks_updateActiveMember (db : DB) (l : LobbyID) (u : UserID) (set : MemberRow → MemberRow)
    (cond : MemberRow → Bool) : Shrinks db (view (updateActiveMember db l u set cond) db) := by
  refine ⟨fun l' m =>
    playing_of_lobbyRow fun l' => Persistence.lobbyRow_updateActiveMember db l l' u db set cond,
    fun l' u' hu' => ?_⟩
  obtain ⟨row', hrow', hleft⟩ := hu'
  rw [Persistence.memberRow_updateActiveMember] at hrow'
  split_ifs at hrow' with h
  · obtain ⟨row, hrow, rfl⟩ := Option.map_eq_some_iff.1 hrow'
    refine ⟨row, hrow, ?_⟩
    -- the update leaves the rows of those alone who have left
    split_ifs at hleft with hactive
    · exact hactive.1
    · exact hleft
  · exact ⟨row', hrow', hleft⟩

theorem shrinks_setOwner (db : DB) (l : LobbyID) (u : UserID) (now : ℕ) :
    Shrinks db (view (Persistence.setOwner db l u now) db) := by
  refine ⟨fun l' m hm => ?_, fun l' u' =>
    active_of_memberRow fun l' u' => Persistence.memberRow_setOwner db l l' u u' now db⟩
  obtain ⟨row', hrow', hstate, hmatch⟩ := hm
  rw [Persistence.lobbyRow_setOwner] at hrow'
  split_ifs at hrow'
  · obtain ⟨row, hrow, rfl⟩ := Option.map_eq_some_iff.1 hrow'
    exact ⟨row, hrow, hstate, hmatch⟩
  · exact ⟨row', hrow', hstate, hmatch⟩

theorem shrinks_reopen (db : DB) (l : LobbyID) (now : ℕ) :
    Shrinks db (view (update db (.lobby l) fun row : LobbyRow => some (row.reopen now)) db) := by
  refine ⟨fun l' m hm => ?_, fun l' u =>
    active_of_memberRow fun l' u => Persistence.memberRow_updateLobby _ db db l l' u⟩
  obtain ⟨row', hrow', hstate, hmatch⟩ := hm
  rw [Persistence.lobbyRow_updateLobby (fun row => some (row.reopen now)) db l l'] at hrow'
  split_ifs at hrow'
  · obtain ⟨row, -, rfl⟩ := Option.map_eq_some_iff.1 hrow'
    cases hstate
  · exact ⟨row', hrow', hstate, hmatch⟩

theorem shrinks_unready (db : DB) (l : LobbyID) (u : UserID) :
    Shrinks db (view (update db (.member l u) fun row : MemberRow => some { row with ready := false }) db) := by
  refine ⟨fun l' m =>
    playing_of_lobbyRow fun l' => Persistence.lobbyRow_updateMember _ db db l l' u, fun l' u' hu' => ?_⟩
  obtain ⟨row', hrow', hleft⟩ := hu'
  rw [Persistence.memberRow_updateMember (fun row => some { row with ready := false }) db l l' u u'] at hrow'
  split_ifs at hrow'
  · obtain ⟨row, hrow, rfl⟩ := Option.map_eq_some_iff.1 hrow'
    exact ⟨row, hrow, hleft⟩
  · exact ⟨row', hrow', hleft⟩

theorem shrinks_reopenEndedLobbies (db : DB) (now : ℕ) (ended : MatchID → Bool) :
    Shrinks db (Persistence.reopenEndedLobbies db now ended).2 :=
  (shrinks_foldl (fun db l => shrinks_reopen db l now) _ db).trans
    (shrinks_foldl (fun db (k : LobbyID × UserID) => shrinks_unready db k.1 k.2) _ _)

/-- `MarkLobbyInMatch` puts an open lobby into the match and nothing else. -/
theorem active_markLobbyInMatch {m : MatchID} {now : ℕ}
    (hu : Active (Persistence.markLobbyInMatch db l now m).2 l' u) : Active db l' u := by
  unfold Persistence.markLobbyInMatch at hu
  dsimp only at hu
  split_ifs at hu
  · exact hu
  · exact active_of_memberRow (fun l' u => Persistence.memberRow_updateOpenLobby db l l' u now db _) hu

theorem playing_markLobbyInMatch {m m' : MatchID} {now : ℕ}
    (hm : Playing (Persistence.markLobbyInMatch db l now m).2 l' m') : Playing db l' m' ∨
      l' = l ∧ m' = m ∧ ∃ row, lobbyRow db l = some row ∧ row.state = .open_ := by
  unfold Persistence.markLobbyInMatch at hm
  dsimp only at hm
  split_ifs at hm
  · exact .inl hm
  · obtain ⟨row', hrow', hstate, hmatch⟩ := hm
    dsimp only at hrow'
    rw [Persistence.lobbyRow_updateOpenLobby] at hrow'
    split_ifs at hrow' with hl
    · obtain ⟨row, hrow, rfl⟩ := Option.map_eq_some_iff.1 hrow'
      split_ifs at hstate hmatch with hopen
      · exact .inr ⟨hl, (Option.some.inj hmatch).symm, row, hl ▸ hrow, hopen⟩
      · exact .inl ⟨row, hrow, hstate, hmatch⟩
    · exact .inl ⟨row', hrow', hstate, hmatch⟩

/-- Only the insert of `JoinLobby` adds a member. -/
theorem shrinks_statement (db : DB) {s : Statement} (h : ∀ l u now role, s ≠ .upsertMember l u now role) :
    Shrinks db (view (s.rows db) db) := by
  cases s with
  | upsertMember l u now role => exact absurd rfl (h l u now role)
  | markLeft l u now | markKicked l u now | setTeam l u teamID | setRole l u target =>
      exact shrinks_updateActiveMember db l u _ _
  | setOwner l u now => exact shrinks_setOwner db l u now
  | setMode l mode now | touch l now =>
      exact shrinks_updateOpenLobby db l now fun row hopen hstate => by simp [hopen] at hstate
  | expire l now | close l now => exact shrinks_updateOpenLobby db l now fun row _ => by simp

end Rows

/-! ## What becomes of the assignments -/

section Assignments

variable {w w' : World} {s' : Coordinator.Store} {l : LobbyID} {m : MatchID} {users users' : List UserID}

/-- The assignments stay stored that are not loose. -/
structure Keeps (w : World) (s' : Coordinator.Store) : Prop where
  byMatch : ∀ i a, w.coord.getAssignmentByMatch i = some a → ¬ Loose w a →
    s'.getAssignmentByMatch i = some a
  byUser : ∀ u a, isBlank u = false → w.coord.getAssignmentByUser u = some a → ¬ Loose w a →
    s'.getAssignmentByUser u = some a

theorem keeps_of_same (h : SameAssignments w.coord s') : Keeps w s' :=
  ⟨fun i _ ha _ => (h.byMatch i).trans ha, fun u _ _ ha _ => (h.byUser u).trans ha⟩

theorem keeps_of_saved {a : Assignment} (h : Saved w.coord s' a) (hfrees : Frees w a.matchID a.players) :
    Keeps w s' := by
  refine ⟨fun i b hb hloose => ?_, fun u b hu hb hloose => ?_⟩
  · rw [h.byMatch, if_neg, hb]
    rintro rfl
    exact hloose (hfrees.1 b hb)
  · rw [h.byUser, if_neg, hb]
    exact fun h => hloose (hfrees.2 u h.1 hu b hb)

theorem keeps_of_clears {a : Assignment} (h : Clears w a) : Keeps w (w.coord.clearAssignment a) := by
  by_cases ha : a.matchID = ""
  · rw [w.coord.clearAssignment_of_blank ha]
    exact keeps_of_same (.refl w.coord)
  · have hcleared := w.coord.clearAssignment_cleared ha
    have hfrees := h.resolve_left ha
    refine ⟨fun i b hb hloose => ?_, fun u b hu hb hloose => ?_⟩
    · rw [hcleared.byMatch, if_neg, hb]
      rintro rfl
      exact hloose (hfrees.1 b hb)
    · rw [hcleared.byUser, if_neg, hb]
      exact fun h => hloose (hfrees.2 u h.1 hu b hb)

/-- Who gets a saved assignment shares it. -/
theorem share_of_saved {s : Coordinator.Store} {a : Assignment} (h : Saved s s' a) :
    Share s' a.sourceLobbyID a.matchID a.players := by
  refine ⟨a, ?_, rfl, rfl, fun u hu hblank => ?_⟩
  · show s'.getAssignmentByMatch a.matchID = some a
    rw [h.byMatch, if_pos rfl]
  · rw [h.byUser, if_pos ⟨hu, hblank⟩]

/-- While the match of the lobby is not over, the users share its assignment. -/
def Assured (w : World) (l : LobbyID) (m : MatchID) (users : List UserID) : Prop :=
  l ≠ "" → m ∉ w.ended → Share w.coord l m users

theorem Assured.step (h : Assured w l m users) (hkeep : Keeps w w'.coord) (hended : w.ended ⊆ w'.ended)
    (husers : ∀ u ∈ users', isBlank u = false → u ∈ users) : Assured w' l m users' := by
  intro hl hm
  have hm : m ∉ w.ended := fun h => hm (hended h)
  obtain ⟨a, ha, rfl, rfl, hall⟩ := h hl hm
  have hloose : ¬ Loose w a := not_or.2 ⟨hl, hm⟩
  exact ⟨a, hkeep.byMatch _ a ha hloose, rfl, rfl,
    fun u hu hblank => hkeep.byUser u a hblank (hall u (husers u hu hblank) hblank) hloose⟩

end Assignments

/-! ## Steps of a request -/

/-- What a request knows of the assignments of its match's players. -/
def At.Holding (w : World) (l : LobbyID) : At → Prop
  | .start found (.launch c) => c.found.players = found.players ∧
      ∀ a, c.at_ = .unlock (.ok a) → Assured w l found.matchID found.players
  | .mark found _ => Assured w l found.matchID found.players
  | _ => True

section Requests

variable {w w' : World} {l : LobbyID} {u : UserID} {found : MatchFound} {id : ℕ} {r : Request} {x : Reply}
  {singleTTL : ℤ}

theorem At.Holding.step {at_ : At} (h : at_.Holding w l) (hkeep : Keeps w w'.coord)
    (hended : w.ended ⊆ w'.ended) : at_.Holding w' l := by
  cases at_ with
  | start found at_ =>
      cases at_ with
      | launch c => exact ⟨h.1, fun a ha => (h.2 a ha).step hkeep hended fun _ hu _ => hu⟩
      | check | validate | clear => trivial
  | mark found assigned => exact Assured.step h hkeep hended fun _ hu _ => hu
  | lobby | members | payload => trivial

theorem holding_loop (suffix : String) (done rest : List UserID) :
    (At.start found (.loop found suffix done rest)).Holding w l := by
  cases rest with
  | nil => exact ⟨rfl, fun a ha => by cases ha⟩
  | cons u rest => trivial

/-- What a step of a request leaves that does not mark the lobby. -/
structure Held (w : World) (id : ℕ) (r : Request) (o : Outcome) : Prop where
  db : o.db = w.db
  keeps : Keeps w o.coord
  next : ∀ at_, o.next = some at_ → at_.Holding (w.settle id r o) r.lobbyID

theorem held_start {at_ : LobbyAt} (hlaunch : ∀ c, at_ ≠ .launch c)
    (hmeet : Request.KeepsMembers w ⟨l, u, .start found at_⟩) :
    Held w id ⟨l, u, .start found at_⟩ (Request.run singleTTL ⟨l, u, .start found at_⟩ w.db w.coord x) := by
  cases at_ with
  | launch c => exact absurd rfl (hlaunch c)
  | check done user rest =>
      unfold Request.run runStart
      dsimp only
      cases w.coord.getAssignmentByUser user with
      | none =>
          refine ⟨rfl, keeps_of_same (.refl w.coord), fun at_ hat => ?_⟩
          obtain rfl := Option.some.inj hat
          exact holding_loop ..
      | some assigned =>
          refine ⟨rfl, keeps_of_same (.refl w.coord), fun at_ hat => ?_⟩
          obtain rfl := Option.some.inj hat
          trivial
  | validate done user rest assigned =>
      refine ⟨rfl, keeps_of_same (.refl w.coord), fun at_ hat => ?_⟩
      obtain ⟨at', hat', rfl⟩ := Option.map_eq_some_iff.1 hat
      obtain ⟨again, -, rfl⟩ := Option.map_eq_some_iff.1 hat'
      trivial
  | clear done user rest assigned again =>
      refine ⟨rfl, keeps_of_clears hmeet, fun at_ hat => ?_⟩
      obtain rfl := Option.some.inj hat
      cases again with
      | true => trivial
      | false => exact holding_loop ..

/-- A call of `EnsureAssignment` replaces loose assignments only. -/
theorem keeps_launch {c : Call} {now : ℤ} {accepted : Bool} (hsound : (At.start found (.launch c)).Sound l)
    (hmeet : Request.KeepsMembers w ⟨l, u, .start found (.launch c)⟩) :
    Keeps w (c.run w.coord singleTTL now accepted).store := by
  obtain ⟨hfine, hid, hcall⟩ := hsound
  cases Call.run_spec hcall hfine.matchID hfine.players w.coord singleTTL now accepted with
  | quiet idle same sent next => exact keeps_of_same same
  | post target idle store sound next =>
      rw [store]
      exact keeps_of_same (.refl w.coord)
  | save a saving saved matchID mode players sent next =>
      refine keeps_of_saved saved ?_
      rw [matchID, players]
      obtain ⟨found', holder, at_⟩ := c
      cases at_ with
      | save target => exact hmeet
      | check | tryLock | wait | list | read | dropStale | create | unlock => cases saving

/-- The players share the assignment that a call has saved. -/
theorem share_launch {c d : Call} {now : ℤ} {accepted : Bool} {a : Assignment}
    (hsound : (At.start found (.launch c)).Sound l)
    (hd : (c.run w.coord singleTTL now accepted).next = .inl d) (ha : d.at_ = .unlock (.ok a)) :
    Share (c.run w.coord singleTTL now accepted).store l c.found.matchID c.found.players := by
  obtain ⟨hfine, -, hcall⟩ := hsound
  obtain ⟨target, hat, -⟩ := Call.run_unlock hd ha
  obtain ⟨found', holder, at_⟩ := c
  obtain rfl : at_ = .save target := hat
  obtain ⟨s', hs', hsaved⟩ := w.coord.saveAssignment_saved (MatchLaunch.assignmentTo found' target) singleTTL
    now hfine.matchID hcall hfine.players
  unfold Call.run
  dsimp only
  rw [hs', ← hfine.sourceLobbyID]
  exact share_of_saved hsaved

/-- The players share the assignment that a call finds. -/
theorem share_check {c : Call} {a : Assignment} (hat : c.at_ = .check ∨ c.at_ = .wait)
    (ha : w.coord.getAssignmentByMatch c.found.matchID = some a)
    (hmeet : Request.KeepsMembers w ⟨l, u, .start found (.launch c)⟩) :
    Share w.coord l c.found.matchID c.found.players := by
  obtain ⟨found', holder, at_⟩ := c
  rcases hat with rfl | rfl <;>
  · rcases hmeet with hnone | hshare
    · cases ha.symm.trans hnone
    · exact hshare

theorem held_launch {c : Call} (hsound : (At.start found (.launch c)).Sound l)
    (hhold : (At.start found (.launch c)).Holding w l)
    (hmeet : Request.KeepsMembers w ⟨l, u, .start found (.launch c)⟩) :
    Held w id ⟨l, u, .start found (.launch c)⟩
      (Request.run singleTTL ⟨l, u, .start found (.launch c)⟩ w.db w.coord x) := by
  obtain ⟨hplayers, hunlock⟩ := hhold
  have hid : c.found.matchID = found.matchID := hsound.2.1
  have hkeep : Keeps w (c.run w.coord singleTTL x.answer.now x.answer.accepted).store :=
    keeps_launch hsound hmeet
  refine ⟨rfl, hkeep, fun at_ hat => ?_⟩
  have hrun := launches_run hsound.2.2 hsound.1.matchID hsound.1.players w.coord singleTTL x.answer.now
    x.answer.accepted
  have hsaved : ∀ d a, (c.run w.coord singleTTL x.answer.now x.answer.accepted).next = .inl d →
      d.at_ = .unlock (.ok a) → _ := fun d a => share_launch hsound
  have hreturns : ∀ a, (c.run w.coord singleTTL x.answer.now x.answer.accepted).next = .inr (.ok a) → _ :=
    fun a => Call.run_returns
  unfold Request.run at hat ⊢
  dsimp only at hat ⊢
  generalize c.run w.coord singleTTL x.answer.now x.answer.accepted = k at hat hkeep hrun hsaved hreturns
  cases hk : k.next with
  | inl d =>
      rw [hk] at hat
      obtain rfl := Option.some.inj hat
      have hfound := (hrun.sound d hk).1
      refine ⟨by rw [hfound, hplayers], fun a ha _ _ => ?_⟩
      have hshare := hsaved d a hk ha
      rwa [hid, hplayers] at hshare
  | inr res =>
      rw [hk] at hat
      cases res with
      | error err => cases hat
      | ok assigned =>
          obtain rfl := Option.some.inj hat
          rcases hreturns assigned hk with ⟨hcheck, hassigned⟩ | hat
          · -- it has found the assignment
            have hshare := share_check hcheck hassigned hmeet
            rw [hid, hplayers] at hshare
            have hassured : Assured w l found.matchID found.players := fun _ _ => hshare
            exact hassured.step hkeep (List.Subset.refl w.ended) fun _ hu _ => hu
          · exact (hunlock assigned hat).step hkeep (List.Subset.refl w.ended) fun _ hu _ => hu

end Requests

/-! ## The invariant -/

structure MembersInv (w : World) : Prop extends Inv w where
  members : ∀ l m, Playing w.db l m → Assured w l m (activeUsers w.db l)
  holding : ∀ id r, w.requests.lookup id = some r → r.at_.Holding w r.lobbyID

section MembersInv

variable {w w' : World} {id : ℕ} {r : Request} {o : Outcome} {op : Op} {singleTTL : ℤ}

theorem MembersInv.started (h : MembersInv w) : Started w where
  toNoStray := h.toInv.noStray
  members l m hl hm hended := h.members l m hm hl hended

theorem MembersInv.init (h : Started w) (hnone : w.requests = ∅) : MembersInv w := by
  refine ⟨Inv.init h.toNoStray hnone, fun l m hm hl hended => h.members l m hl hm hended, fun id r hr => ?_⟩
  rw [hnone, AList.lookup_empty] at hr
  cases hr

/-- A step that adds no member and marks no lobby. -/
theorem membersInv_of_shrinks (h : MembersInv w) (hinv : Inv w') (hdb : Shrinks w.db w'.db)
    (hkeep : Keeps w w'.coord) (hended : w.ended ⊆ w'.ended)
    (hnew : ∀ id r, w'.requests.lookup id = some r →
      w.requests.lookup id = some r ∨ r.at_.Holding w' r.lobbyID) : MembersInv w' := by
  refine ⟨hinv, fun l m hm => ?_, fun id r hr => ?_⟩
  · refine (h.members l m (hdb.playing l m hm)).step hkeep hended fun u hu _ => ?_
    exact Persistence.mem_activeUsers.2 (hdb.active l u (Persistence.mem_activeUsers.1 hu))
  · rcases hnew id r hr with hr | hat
    · exact (h.holding id r hr).step hkeep hended
    · exact hat

theorem Held.membersInv (hheld : Held w id r o) (h : MembersInv w) (hinv : Inv (w.settle id r o)) :
    MembersInv (w.settle id r o) := by
  have hdb : Shrinks w.db (w.settle id r o).db := by
    show Shrinks w.db o.db
    rw [hheld.db]
    exact .refl w.db
  refine membersInv_of_shrinks h hinv hdb hheld.keeps (List.Subset.refl w.ended) fun j q hq => ?_
  rcases lookup_settle hq with ⟨rfl, at_, hat, rfl⟩ | ⟨-, hq⟩
  · exact .inr (hheld.next at_ hat)
  · exact .inl hq

/-- A request marks the lobby for the members that it has read. -/
theorem membersInv_mark {l : LobbyID} {u : UserID} {found : MatchFound} {assigned : Assignment} {now : ℕ}
    (h : MembersInv w) (hr : w.requests.lookup id = some ⟨l, u, .mark found assigned⟩)
    (hmeet : Request.KeepsMembers w ⟨l, u, .mark found assigned⟩)
    (hinv : Inv (w.settle id ⟨l, u, .mark found assigned⟩ o))
    (hdb : o.db = (Persistence.markLobbyInMatch w.db l now found.matchID).2) (hcoord : o.coord = w.coord)
    (hnext : ∀ at_, o.next = some at_ → at_ = .payload found assigned) :
    MembersInv (w.settle id ⟨l, u, .mark found assigned⟩ o) := by
  have hkeep : Keeps w (w.settle id ⟨l, u, .mark found assigned⟩ o).coord := by
    show Keeps w o.coord
    rw [hcoord]
    exact keeps_of_same (.refl w.coord)
  have hactive : ∀ l' v, v ∈ activeUsers o.db l' → v ∈ activeUsers w.db l' := by
    intro l' v hv
    rw [hdb, Persistence.mem_activeUsers] at hv
    exact Persistence.mem_activeUsers.2 (active_markLobbyInMatch hv)
  refine ⟨hinv, fun l' m hm => ?_, fun j q hq => ?_⟩
  · have hplaying : Playing (Persistence.markLobbyInMatch w.db l now found.matchID).2 l' m := hdb ▸ hm
    rcases playing_markLobbyInMatch hplaying with hm | ⟨rfl, rfl, row, hrow, hopen⟩
    · exact (h.members l' m hm).step hkeep (List.Subset.refl w.ended) fun v hv _ => hactive l' v hv
    · have hassured : Assured w l' found.matchID found.players := h.holding id _ hr
      exact hassured.step hkeep (List.Subset.refl w.ended) fun v hv => hmeet row hrow hopen v (hactive l' v hv)
  · rcases lookup_settle hq with ⟨rfl, at_, hat, rfl⟩ | ⟨-, hq⟩
    · obtain rfl := hnext at_ hat
      trivial
    · exact (h.holding j q hq).step hkeep (List.Subset.refl w.ended)

theorem membersInv_request (h : MembersInv w) (hr : w.requests.lookup id = some r) (hopen : r.MarksOpen w id)
    (hmeet : r.KeepsMembers w) (x : Reply) :
    MembersInv (w.settle id r (r.run singleTTL w.db w.coord x)) := by
  have hinv : Inv (w.settle id r (r.run singleTTL w.db w.coord x)) := inv_request h.toInv hr hopen x
  obtain ⟨l, u, at_⟩ := r
  have hsame : Keeps w w.coord := keeps_of_same (.refl w.coord)
  cases at_ with
  | lobby =>
      refine Held.membersInv ?_ h hinv
      unfold Request.run
      dsimp only
      split_ifs
      · exact ⟨rfl, hsame, fun at_ hat => by cases hat⟩
      · refine ⟨rfl, hsame, fun at_ hat => ?_⟩
        obtain ⟨row, -, rfl⟩ := Option.map_eq_some_iff.1 hat
        trivial
  | members row =>
      refine Held.membersInv ?_ h hinv
      unfold Request.run
      dsimp only
      split_ifs
      · exact ⟨rfl, hsame, fun at_ hat => by cases hat⟩
      · cases lobbyMatchFound (snapshot l row (Persistence.listLobbyMembers w.db l) x)
            (fun u => x.profiles.lookup u) x.nanos with
        | error err => exact ⟨rfl, hsame, fun at_ hat => by cases hat⟩
        | ok found =>
            refine ⟨rfl, hsame, fun at_ hat => ?_⟩
            obtain rfl := Option.some.inj hat
            exact holding_loop ..
  | start found at_ =>
      cases at_ with
      | launch c => exact (held_launch (h.sound id _ hr) (h.holding id _ hr) hmeet).membersInv h hinv
      | check | validate | clear =>
          exact (held_start (fun c => LobbyAt.noConfusion) hmeet).membersInv h hinv
  | mark found assigned =>
      unfold Request.run at hinv ⊢
      dsimp only at hinv ⊢
      generalize hres : Persistence.markLobbyInMatch w.db l x.nanos found.matchID = res at hinv
      have hdb : res.2 = (Persistence.markLobbyInMatch w.db l x.nanos found.matchID).2 := by rw [hres]
      obtain ⟨res, db⟩ := res
      cases res with
      | error err => exact membersInv_mark h hr hmeet hinv hdb rfl fun at_ hat => by cases hat
      | ok snap =>
          exact membersInv_mark h hr hmeet hinv hdb rfl fun at_ hat => (Option.some.inj hat).symm
  | payload found assigned =>
      exact Held.membersInv ⟨rfl, hsame, fun at_ hat => by cases hat⟩ h hinv

/-- Who joins shares the assignment of the match in which the lobby is. -/
theorem membersInv_upsertMember {l : LobbyID} {u : UserID} {now : ℕ} {role : Role} (h : MembersInv w)
    (hmeet : Joins w l u)
    (hinv : Inv { w with db := view (Persistence.upsertMember w.db l u now role) w.db }) :
    MembersInv { w with db := view (Persistence.upsertMember w.db l u now role) w.db } := by
  refine ⟨hinv, fun l' m hm hl hended => ?_, fun id r hr => ?_⟩
  · have hm : Playing w.db l' m :=
      playing_of_lobbyRow (fun l' => Persistence.lobbyRow_upsertMember w.db l l' u now w.db role) hm
    obtain ⟨a, ha, hid, hlobby, hall⟩ := h.members l' m hm hl hended
    obtain ⟨row, hrow, hstate, hmatch⟩ := hm
    refine ⟨a, ha, hid, hlobby, fun v hv hblank => ?_⟩
    rw [Persistence.mem_activeUsers, Persistence.active_upsertMember] at hv
    rcases hv with ⟨rfl, rfl⟩ | hv
    · rcases hmeet with hv | hshares
      · exact hall v (Persistence.mem_activeUsers.2 hv) hblank
      · rcases hshares row hrow hstate m hmatch with hover | hsame
        · exact absurd hover hended
        · exact hsame.trans ha
    · exact hall v (Persistence.mem_activeUsers.2 hv) hblank
  · exact (h.holding id r hr).step (keeps_of_same (.refl w.coord)) (List.Subset.refl w.ended)

theorem membersInv_step (h : MembersInv w) (hopen : MarksOpen w op) (hmeet : KeepsMembers w op)
    (hs : w.step singleTTL op = some w') : MembersInv w' := by
  have hinv := inv_step h.toInv hopen hs
  have hsame : Keeps w w.coord := keeps_of_same (.refl w.coord)
  cases op with
  | startLobby id l u =>
      unfold World.step at hs
      dsimp only at hs
      split_ifs at hs
      obtain rfl := Option.some.inj hs
      refine membersInv_of_shrinks h hinv (.refl w.db) hsame (List.Subset.refl w.ended) fun j q hq => ?_
      rcases Assoc.of_lookup_insert hq with ⟨-, rfl⟩ | ⟨-, hq⟩
      · exact .inr trivial
      · exact .inl hq
  | request id x =>
      obtain ⟨r, hr, rfl⟩ := Option.map_eq_some_iff.1 hs
      exact membersInv_request h hr (hopen r hr) (hmeet r hr) x
  | giveUp id =>
      unfold World.step at hs
      dsimp only at hs
      split at hs
      · obtain rfl := Option.some.inj hs
        exact membersInv_of_shrinks h hinv (.refl w.db) hsame (List.Subset.refl w.ended) fun j q hq =>
          .inl (Assoc.of_lookup_erase hq).2
      · cases hs
  | statement s =>
      obtain rfl := Option.some.inj hs
      by_cases hjoin : ∃ l u now role, s = .upsertMember l u now role
      · obtain ⟨l, u, now, role, rfl⟩ := hjoin
        exact membersInv_upsertMember h hmeet hinv
      · have hdb := shrinks_statement w.db fun l u now role hs => hjoin ⟨l, u, now, role, hs⟩
        exact membersInv_of_shrinks h hinv hdb hsame (List.Subset.refl w.ended) fun j q hq => .inl hq
  | reopenEndedLobbies now =>
      obtain rfl := Option.some.inj hs
      exact membersInv_of_shrinks h hinv (shrinks_reopenEndedLobbies w.db now _) hsame
        (List.Subset.refl w.ended) fun j q hq => .inl hq
  | endMatch m =>
      obtain rfl := Option.some.inj hs
      exact membersInv_of_shrinks h hinv (.refl w.db) hsame (List.subset_cons_self m w.ended)
        fun j q hq => .inl hq
  | clearAssignment a =>
      obtain rfl := Option.some.inj hs
      exact membersInv_of_shrinks h hinv (.refl w.db) (keeps_of_clears hmeet) (List.Subset.refl w.ended)
        fun j q hq => .inl hq
  | registerNode rec now =>
      unfold World.step at hs
      dsimp only at hs
      split_ifs at hs
      obtain rfl := Option.some.inj hs
      exact membersInv_of_shrinks h hinv (.refl w.db) (keeps_of_same ⟨fun _ => rfl, fun _ => rfl⟩)
        (List.Subset.refl w.ended) fun j q hq => .inl hq

/-- From a state without requests and without stray matches a run leaves none exactly when the requests
find the lobbies open that they mark; and when the steps leave their assignments to the members as well,
the members of a lobby share that of its match in every state. -/
theorem started_law (singleTTL : ℤ) {w : World} (h : Started w) (hnone : w.requests = ∅) (ops : List Op) :
    (Run.Always (World.step singleTTL) NoStray w ops ↔ Run.Guarded (World.step singleTTL) MarksOpen w ops) ∧
      (Run.Guarded (World.step singleTTL) (fun w op => MarksOpen w op ∧ KeepsMembers w op) w ops →
        Run.Always (World.step singleTTL) Started w ops) := by
  refine ⟨noStray_iff singleTTL h.toNoStray hnone ops, fun hguard => ?_⟩
  have hinv := Run.always_of_invariant (fun _ _ _ hinv hmeet hs => membersInv_step hinv hmeet.1 hmeet.2 hs)
    (MembersInv.init h hnone) hguard
  exact hinv.mono fun _ => MembersInv.started

end MembersInv

/-! ### Runs -/

section Decidable

instance (db : DB) (l : LobbyID) (m : MatchID) : Decidable (Playing db l m) :=
  decidable_of_iff (∃ row ∈ lobbyRow db l, row.state = .inMatch ∧ row.activeMatchID = some m) Iff.rfl

instance (s : Coordinator.Store) (l : LobbyID) (m : MatchID) (users : List UserID) :
    Decidable (Share s l m users) :=
  inferInstanceAs (Decidable (∃ a ∈ s.getAssignmentByMatch m, _))

instance (w : World) (a : Assignment) : Decidable (Loose w a) :=
  inferInstanceAs (Decidable (a.sourceLobbyID = "" ∨ a.matchID ∈ w.ended))

instance (w : World) (m : MatchID) (users : List UserID) : Decidable (Frees w m users) :=
  inferInstanceAs (Decidable (_ ∧ _))

instance (w : World) (a : Assignment) : Decidable (Clears w a) :=
  inferInstanceAs (Decidable (a.matchID = "" ∨ Frees w a.matchID a.players))

instance (w : World) (l : LobbyID) (u : UserID) : Decidable (Joins w l u) :=
  inferInstanceAs (Decidable (Active w.db l u ∨ _))

instance (w : World) : ∀ r : Request, Decidable (r.KeepsMembers w)
  | ⟨_, _, .start _ (.clear _ _ _ assigned _)⟩ => inferInstanceAs (Decidable (Clears w assigned))
  | ⟨l, _, .start _ (.launch ⟨found, _, .check⟩)⟩ | ⟨l, _, .start _ (.launch ⟨found, _, .wait⟩)⟩ =>
      inferInstanceAs (Decidable (w.coord.getAssignmentByMatch found.matchID = none ∨
        Share w.coord l found.matchID found.players))
  | ⟨_, _, .start _ (.launch ⟨found, _, .save _⟩)⟩ =>
      inferInstanceAs (Decidable (Frees w found.matchID found.players))
  | ⟨l, _, .mark found _⟩ =>
      inferInstanceAs (Decidable (∀ row ∈ lobbyRow w.db l, row.state = .open_ →
        ∀ u ∈ activeUsers w.db l, isBlank u = false → u ∈ found.players))
  | ⟨_, _, .lobby⟩ | ⟨_, _, .members _⟩ | ⟨_, _, .payload ..⟩ | ⟨_, _, .start _ (.check ..)⟩
  | ⟨_, _, .start _ (.validate ..)⟩ | ⟨_, _, .start _ (.launch ⟨_, _, .tryLock⟩)⟩
  | ⟨_, _, .start _ (.launch ⟨_, _, .list⟩)⟩ | ⟨_, _, .start _ (.launch ⟨_, _, .read ..⟩)⟩
  | ⟨_, _, .start _ (.launch ⟨_, _, .dropStale ..⟩)⟩ | ⟨_, _, .start _ (.launch ⟨_, _, .create _⟩)⟩
  | ⟨_, _, .start _ (.launch ⟨_, _, .unlock _⟩)⟩ => .isTrue trivial

instance (w : World) : ∀ op : Op, Decidable (KeepsMembers w op)
  | .request id _ => inferInstanceAs (Decidable (∀ r ∈ w.requests.lookup id, r.KeepsMembers w))
  | .clearAssignment a => inferInstanceAs (Decidable (Clears w a))
  | .statement (.upsertMember l u _ _) => inferInstanceAs (Decidable (Joins w l u))
  | .statement (.markLeft ..) | .statement (.markKicked ..) | .statement (.setTeam ..)
  | .statement (.setRole ..) | .statement (.setOwner ..) | .statement (.setMode ..) | .statement (.touch ..)
  | .statement (.expire ..) | .statement (.close ..) | .startLobby .. | .giveUp _ | .reopenEndedLobbies _
  | .endMatch _ | .registerNode .. => .isTrue trivial

end Decidable

/-- An open lobby of `a` and `b`, and a node. -/
def openLobby : World where
  db :=
    let lobby : LobbyRow :=
      { inviteCode := "ABCDEF", ownerUserID := "a", mode := .duel, mapScope := "world"
        createdAt := 0, expiresAt := 1000, updatedAt := 0 }
    let member (role : Role) : MemberRow := { role := role, teamID := some "a", joinedAt := 0 }
    AList.insert (.member "l" "b") (member .member)
      (AList.insert (.member "l" "a") (member .owner) (AList.insert (.lobby "l") lobby ∅))
  coord := ({} : Coordinator.Store).registerNode none { nodeID := "n" } 0

theorem started_openLobby : Started openLobby := by
  have hholds : ∀ a, ¬ Holds openLobby.coord a := by
    rintro a (⟨i, hi⟩ | ⟨u, hu⟩)
    · cases hi
    · cases hu
  refine ⟨⟨fun a ha => absurd ha (hholds a), fun p hp => absurd hp List.not_mem_nil,
    fun _ _ _ a _ ha => absurd ha (hholds a)⟩, fun l m _ ⟨row, hrow, hstate, _⟩ => ?_⟩
  have hopen : ∀ e ∈ openLobby.db.entries, ∀ id row, e = ⟨.lobby id, row⟩ → row.state = .open_ := by
    simp [openLobby]
  have hrow := hopen _ (AList.mem_lookup_iff.1 hrow) l row rfl
  rw [hrow] at hstate
  cases hstate

/-- The next steps of a request, at the time `nanos`; an assignment that it checks is of a match that is
over. -/
def steps (n id nanos : ℕ) : List Op :=
  List.replicate n (.request id { nanos := nanos, answer := { status := .invalid } })

/-- The owner starts the lobby, once more while it is in its match, and again when that has ended and `c`
has come for `b`. -/
def startInTurn : List Op :=
  .startLobby 0 "l" "a" :: steps 13 0 1 ++ .startLobby 1 "l" "a" :: steps 2 1 2 ++
    [.endMatch "m-1", .reopenEndedLobbies 3, .statement (.markLeft "l" "b" 3),
      .statement (.upsertMember "l" "c" 3 .member)] ++
    .startLobby 2 "l" "a" :: steps 16 2 4

theorem started_startInTurn : Run.Always (World.step 0) Started openLobby startInTurn ∧
    ∃ w ∈ Run.exec (World.step 0) openLobby startInTurn, Playing w.db "l" "m-4" :=
  ⟨(started_law 0 started_openLobby rfl startInTurn).2 (by decide +kernel), by decide +kernel⟩

/-- Two requests have both checked the assignments of the members before one of them saves its own. -/
def startAtOnce : List Op :=
  .startLobby 0 "l" "a" :: .startLobby 1 "l" "a" :: steps 4 0 1 ++ steps 4 1 2 ++ steps 7 0 1 ++
    steps 7 1 2 ++ steps 2 0 1 ++ steps 1 1 2

theorem not_started_startAtOnce : ¬ ∀ singleTTL w, Started w → w.requests = ∅ → ∀ ops : List Op,
    Run.Always (World.step singleTTL) Started w ops := by
  intro h
  have hrun : ∃ w ∈ Run.exec (World.step 0) openLobby startAtOnce, w.requests.keys = [] ∧ w.ended = [] ∧
      ¬ InMatch w.db "l" "m-2" ∧
        ∃ a ∈ w.coord.getAssignmentByMatch "m-2", a.sourceLobbyID = "l" ∧ a.matchID = "m-2" := by
    decide +kernel
  obtain ⟨w, hw, hnone, hended, hin, a, ha, hl, hm⟩ := hrun
  have hstray := ((h 0 openLobby started_openLobby rfl startAtOnce).exec hw).stored a (.inl ⟨"m-2", ha⟩)
  rw [hl, hm] at hstray
  rcases hstray (by decide) with hm | hm | ⟨id, r, hr, -⟩
  · exact hin hm
  · rw [hended] at hm
    cases hm
  · have hmem := Assoc.mem_keys_iff_exists.2 ⟨r, hr⟩
    rw [hnone] at hmem
    cases hmem

/-- `c` joins when the request has read the members. -/
def joinAtOnce : List Op :=
  .startLobby 0 "l" "a" :: steps 2 0 1 ++ .statement (.upsertMember "l" "c" 1 .member) :: steps 11 0 1

/-- The member who has joined is left without an assignment, although no match is stray. -/
theorem not_started_joinAtOnce : ¬ ∀ singleTTL w, Started w → w.requests = ∅ → ∀ ops : List Op,
    Run.Guarded (World.step singleTTL) MarksOpen w ops → Run.Always (World.step singleTTL) Started w ops := by
  intro h
  have hrun : ∃ w ∈ Run.exec (World.step 0) openLobby joinAtOnce, w.ended = [] ∧ Playing w.db "l" "m-1" ∧
      ¬ Share w.coord "l" "m-1" (activeUsers w.db "l") := by
    decide +kernel
  obtain ⟨w, hw, hended, hplaying, hshare⟩ := hrun
  have hstarted := (h 0 openLobby started_openLobby rfl joinAtOnce (by decide +kernel)).exec hw
  refine hshare (hstarted.members "l" "m-1" (by decide) hplaying ?_)
  rw [hended]
  exact List.not_mem_nil

end GeoDuels.StartLobby
