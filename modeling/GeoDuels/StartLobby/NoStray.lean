import GeoDuels.StartLobby.Requests

/-!
# No stray match

Every assignment that a request saves for a lobby is that of the match which the lobby is in, unless the
request has not answered yet or the match has ended, exactly when a request that marks the lobby
finds it open (`noStray_iff`).
-/

namespace GeoDuels.StartLobby

open Coordinator (Assignment NodeRecord isBlank)
open Coordinator.Store (Cleared Saved SameAssignments)
open MatchCoordinator (Answer LobbyAt lobbyMatchFound afterValidate)
open MatchLaunch (Call Ran)
open Persistence (DB LobbyID LobbyRow MemberRow Role lobbyRow trim updateOpenLobby)
open ReadCommitted (view)

/-! ## The property -/

/-- The assignment is stored, for its match or for a user. -/
def Holds (s : Coordinator.Store) (a : Assignment) : Prop :=
  (∃ i, s.getAssignmentByMatch i = some a) ∨ ∃ u, s.getAssignmentByUser u = some a

/-- The match is the active one of the lobby. -/
def InMatch (db : DB) (l : LobbyID) (m : MatchID) : Prop :=
  ∃ row, lobbyRow db l = some row ∧ row.state ≠ .open_ ∧ row.activeMatchID = some m

/-- The call has had its match created and goes on to return its assignment. -/
def Launched (c : Call) : Prop :=
  match c.at_ with
  | .save _ | .unlock (.ok _) => True
  | _ => False

/-- The request has had the match created, or found it created, and has not answered. -/
def At.Owes (m : MatchID) : At → Prop
  | .start _ (.launch c) => Launched c ∧ c.found.matchID = m
  | .mark found _ | .payload found _ => found.matchID = m
  | _ => False

/-- A request of the lobby has not answered for the match. -/
def Unanswered (w : World) (l : LobbyID) (m : MatchID) : Prop :=
  ∃ id r, w.requests.lookup id = some r ∧ r.lobbyID = l ∧ r.at_.Owes m

/-- The match is the lobby's active one, or over, or a request has still to answer for it. -/
def Accounted (w : World) (l : LobbyID) (m : MatchID) : Prop :=
  InMatch w.db l m ∨ m ∈ w.ended ∨ Unanswered w l m

/-- No request leaves a stray match or a stray assignment behind, and where all have answered the
assignments of a lobby are of one match only. -/
structure NoStray (w : World) : Prop where
  stored : ∀ a, Holds w.coord a → a.sourceLobbyID ≠ "" → Accounted w a.sourceLobbyID a.matchID
  created : ∀ p ∈ w.created, Accounted w p.1 p.2
  agreed : ∀ l, l ≠ "" → (∀ m, ¬ Unanswered w l m) → ∀ a b, Holds w.coord a → Holds w.coord b →
    a.sourceLobbyID = l → b.sourceLobbyID = l → a.matchID ∉ w.ended → b.matchID ∉ w.ended →
    a.matchID = b.matchID

/-- A request that marks the lobby for a match which was created for it finds the lobby open; or the lobby
is in this match, or the match is over, or another request of the lobby has still to answer for it. -/
def Request.MarksOpen (w : World) (id : ℕ) (r : Request) : Prop :=
  match r.at_ with
  | .mark found _ => (r.lobbyID, found.matchID) ∈ w.created →
      (∃ row, lobbyRow w.db r.lobbyID = some row ∧ row.state = .open_) ∨
        InMatch w.db r.lobbyID found.matchID ∨ found.matchID ∈ w.ended ∨
          ∃ id' r', id' ≠ id ∧ w.requests.lookup id' = some r' ∧ r'.lobbyID = r.lobbyID ∧
            r'.at_.Owes found.matchID
  | _ => True

def MarksOpen (w : World) : Op → Prop
  | .request id _ => ∀ r, w.requests.lookup id = some r → r.MarksOpen w id
  | _ => True

/-! ## What stays of a lobby's match -/

variable {db : DB} {l l' : LobbyID} {m : MatchID}

theorem inMatch_of_lobbyRow {db' : DB} (h : InMatch db l m)
    (hrow : ∀ row, lobbyRow db l = some row → row.state ≠ .open_ →
      ∃ row', lobbyRow db' l = some row' ∧ row'.state = row.state ∧ row'.activeMatchID = row.activeMatchID) :
    InMatch db' l m := by
  obtain ⟨row, hlobby, hopen, hactive⟩ := h
  obtain ⟨row', hlobby', hstate, hmatch⟩ := hrow row hlobby hopen
  exact ⟨row', hlobby', by rwa [hstate], hmatch.trans hactive⟩

/-- An update of an open lobby. -/
theorem inMatch_updateOpenLobby (h : InMatch db l m) (now : ℕ) (set : LobbyRow → LobbyRow) :
    InMatch (view (updateOpenLobby db l' now set) db) l m := by
  refine inMatch_of_lobbyRow h fun row hrow hopen => ⟨row, ?_, rfl, rfl⟩
  rw [Persistence.lobbyRow_updateOpenLobby, hrow, Option.map_some, if_neg hopen, ite_self]

theorem inMatch_statement (h : InMatch db l m) (s : Statement) : InMatch (view (s.rows db) db) l m := by
  have hsame : ∀ {rows : DB}, (∀ l, lobbyRow (view rows db) l = lobbyRow db l) →
      InMatch (view rows db) l m := fun heq =>
    inMatch_of_lobbyRow h fun row hrow _ => ⟨row, (heq l).trans hrow, rfl, rfl⟩
  cases s with
  | upsertMember l' u now role => exact hsame fun l => Persistence.lobbyRow_upsertMember db l' l u now db role
  | markLeft l' u now => exact hsame fun l => Persistence.lobbyRow_updateActiveMember db l' l u db _ _
  | markKicked l' u now => exact hsame fun l => Persistence.lobbyRow_updateActiveMember db l' l u db _ _
  | setTeam l' u teamID => exact hsame fun l => Persistence.lobbyRow_updateActiveMember db l' l u db _ _
  | setRole l' u target => exact hsame fun l => Persistence.lobbyRow_updateActiveMember db l' l u db _ _
  | setOwner l' u now =>
      refine inMatch_of_lobbyRow h fun row hrow _ => ?_
      show ∃ row', lobbyRow (view (Persistence.setOwner db l' u now) db) l = some row' ∧ _
      rw [Persistence.lobbyRow_setOwner, hrow]
      split_ifs
      · exact ⟨_, rfl, rfl, rfl⟩
      · exact ⟨row, rfl, rfl, rfl⟩
  | setMode l' mode now => exact inMatch_updateOpenLobby h now _
  | touch l' now => exact inMatch_updateOpenLobby h now _
  | expire l' now => exact inMatch_updateOpenLobby h now _
  | close l' now => exact inMatch_updateOpenLobby h now _

/-- A lobby stays in its match until that has ended. -/
theorem inMatch_reopenEndedLobbies {ended : List MatchID} (h : InMatch db l m) (now : ℕ) :
    InMatch (Persistence.reopenEndedLobbies db now fun m => m ∈ ended).2 l m ∨ m ∈ ended := by
  by_cases hm : m ∈ ended
  · exact .inr hm
  · refine .inl (inMatch_of_lobbyRow h fun row hrow _ => ⟨row, ?_, rfl, rfl⟩)
    rw [Persistence.lobbyRow_reopenEndedLobbies, hrow]
    intro hl
    obtain ⟨row', hrow', hended⟩ := (Persistence.mem_endedLobbies db l).1 hl
    obtain ⟨row'', hrow'', -, hactive⟩ := h
    obtain rfl : row' = row'' := Option.some.inj (hrow'.symm.trans hrow'')
    unfold Persistence.LobbyRow.hasEnded at hended
    rw [hactive] at hended
    exact hm (by simpa using (Bool.and_eq_true_iff.1 hended).2)

/-- What `MarkLobbyInMatch` does. -/
inductive Marks (db : DB) (l : LobbyID) (m : MatchID) (r : Persistence.Result) : Prop
  | marked (ok : ∃ snap, r.1 = .ok snap) (wasOpen : ∃ row, lobbyRow db l = some row ∧ row.state = .open_)
      (inMatch : InMatch r.2 l m) (others : ∀ l' m', InMatch db l' m' → InMatch r.2 l' m')
  | refused (err : ∃ err, r.1 = .error err) (same : r.2 = db)
      (notOpen : ¬ ∃ row, lobbyRow db l = some row ∧ row.state = .open_)

theorem markLobbyInMatch_spec (db : DB) (l : LobbyID) (now : ℕ) (m : MatchID) :
    Marks db l m (Persistence.markLobbyInMatch db l now m) := by
  have haffected : ReadCommitted.rowsAffected (updateOpenLobby db l now fun row =>
      { row with state := .inMatch, activeMatchID := some m, startedMatchID := some m }) = 0 ↔
        ¬ ∃ row, lobbyRow db l = some row ∧ row.state = .open_ := by
    unfold updateOpenLobby
    rw [ReadCommitted.rowsAffected_update]
    show (lobbyRow db l).bind _ = none ↔ _
    cases lobbyRow db l <;> simp
  unfold Persistence.markLobbyInMatch
  dsimp only
  by_cases hopen : ∃ row, lobbyRow db l = some row ∧ row.state = .open_
  · rw [if_neg (mt haffected.1 (not_not_intro hopen))]
    refine .marked ⟨_, rfl⟩ hopen ?_ fun l' m' h => inMatch_updateOpenLobby h now _
    obtain ⟨row, hrow, hstate⟩ := hopen
    have hmarked := Persistence.lobbyRow_updateOpenLobby db l l now fun row =>
      { row with state := .inMatch, activeMatchID := some m, startedMatchID := some m }
    rw [if_pos rfl, hrow, Option.map_some, if_pos hstate] at hmarked
    exact ⟨_, hmarked, by simp, rfl⟩
  · rw [if_pos (haffected.2 hopen)]
    exact .refused ⟨_, rfl⟩ rfl hopen

/-! ## The stored assignments -/

section Store

variable {s s' : Coordinator.Store} {a b : Assignment}

theorem holds_of_same (h : SameAssignments s s') (ha : Holds s' a) : Holds s a := by
  rcases ha with ⟨i, hi⟩ | ⟨u, hu⟩
  · exact .inl ⟨i, (h.byMatch i).symm.trans hi⟩
  · exact .inr ⟨u, (h.byUser u).symm.trans hu⟩

theorem holds_of_clearAssignment (ha : Holds (s.clearAssignment b) a) : Holds s a := by
  by_cases hb : b.matchID = ""
  · rwa [s.clearAssignment_of_blank hb] at ha
  · have hcleared := s.clearAssignment_cleared hb
    rcases ha with ⟨i, hi⟩ | ⟨u, hu⟩
    · rw [hcleared.byMatch] at hi
      split_ifs at hi
      exact .inl ⟨i, hi⟩
    · rw [hcleared.byUser] at hu
      split_ifs at hu
      exact .inr ⟨u, hu⟩

theorem holds_of_saved (h : Saved s s' b) (ha : Holds s' a) : Holds s a ∨ a = b := by
  rcases ha with ⟨i, hi⟩ | ⟨u, hu⟩
  · rw [h.byMatch] at hi
    split_ifs at hi
    · exact .inr (Option.some.inj hi).symm
    · exact .inl (.inl ⟨i, hi⟩)
  · rw [h.byUser] at hu
    split_ifs at hu
    · exact .inr (Option.some.inj hu).symm
    · exact .inl (.inr ⟨u, hu⟩)

theorem holds_registerNode {existing : Option NodeRecord} {rec : NodeRecord} {now : ℤ}
    (ha : Holds (s.registerNode existing rec now) a) : Holds s a :=
  holds_of_same ⟨fun _ => rfl, fun _ => rfl⟩ ha

end Store

/-! ## Calls of EnsureAssignment -/

section Calls

variable {c d : Call} {s : Coordinator.Store} {singleTTL now : ℤ} {accepted : Bool}

theorem not_launched_pick (found : MatchFound) (holder : String) (nodes : List NodeRecord) :
    ¬ Launched ⟨found, holder, .pick nodes⟩ := by
  unfold MatchLaunch.At.pick
  cases MatchLaunch.pickLeastLoadedNode (nodes.filter (!·.draining)) <;> exact id

theorem not_launched_reading (found : MatchFound) (holder : String) (nodes : List NodeRecord)
    (stale ids : List Coordinator.NodeID) : ¬ Launched ⟨found, holder, .reading nodes stale ids⟩ := by
  unfold MatchLaunch.At.reading
  cases ids with
  | cons first ids => exact id
  | nil =>
      dsimp only
      split_ifs
      · exact not_launched_pick found holder nodes
      · exact id

/-- A call is launched by the request that a node accepts. -/
theorem launched_next (h : (c.run s singleTTL now accepted).next = .inl d) (hd : Launched d) :
    Launched c ∨ (c.run s singleTTL now accepted).sent.isSome ∧ accepted := by
  obtain ⟨found, holder, at_⟩ := c
  cases at_ with
  | check | wait =>
      unfold Call.run at h
      dsimp only at h
      split at h
      · cases h
      · obtain rfl := Sum.inl.inj h
        exact hd.elim
  | tryLock =>
      unfold Call.run at h
      dsimp only at h
      split_ifs at h
      split at h <;> obtain rfl := Sum.inl.inj h <;> exact hd.elim
  | list =>
      obtain rfl := Sum.inl.inj h
      exact (not_launched_reading _ _ _ _ _ hd).elim
  | read id ids nodes stale =>
      unfold Call.run at h
      dsimp only at h
      split at h <;> obtain rfl := Sum.inl.inj h <;> exact (not_launched_reading _ _ _ _ _ hd).elim
  | dropStale nodes stale =>
      obtain rfl := Sum.inl.inj h
      exact (not_launched_pick _ _ _ hd).elim
  | create target =>
      obtain rfl := Sum.inl.inj h
      cases accepted with
      | true => exact .inr ⟨rfl, rfl⟩
      | false => exact hd.elim
  | save target => exact .inl trivial
  | unlock result => cases h

/-- What a step of a call does to the assignments, and how it goes on. -/
structure Launches (c : Call) (s : Coordinator.Store) (accepted : Bool) (r : MatchLaunch.Result) :
    Prop where
  stored : ∀ a, Holds r.store a → Holds s a ∨
    Launched c ∧ a.matchID = c.found.matchID ∧ a.sourceLobbyID = c.found.sourceLobbyID
  sound : ∀ d, r.next = .inl d → d.found = c.found ∧ d.at_.Sound
  created : r.sent.isSome → accepted → ∃ d, r.next = .inl d ∧ Launched d
  launched : ∀ d, r.next = .inl d → Launched d → Launched c ∨ r.sent.isSome ∧ accepted
  goesOn : Launched c → (∃ d, r.next = .inl d ∧ Launched d) ∨ ∃ a, r.next = .inr (.ok a)

theorem launches_run (hc : c.at_.Sound) (hid : c.found.matchID ≠ "") (hplayers : c.found.players ≠ [])
    (s : Coordinator.Store) (singleTTL now : ℤ) (accepted : Bool) :
    Launches c s accepted (c.run s singleTTL now accepted) := by
  have hlaunched : ∀ d, (c.run s singleTTL now accepted).next = .inl d → Launched d →
      Launched c ∨ (c.run s singleTTL now accepted).sent.isSome ∧ accepted := fun d => launched_next
  by_cases hl : Launched c
  · obtain ⟨found, holder, at_⟩ := c
    cases at_ with
    | save target =>
        obtain ⟨s', hs', hsaved⟩ :=
          s.saveAssignment_saved (MatchLaunch.assignmentTo found target) singleTTL now hid hc hplayers
        unfold Call.run at hlaunched ⊢
        dsimp only at hlaunched ⊢
        rw [hs'] at hlaunched ⊢
        refine ⟨fun a ha => ?_, fun d hd => ?_, Bool.noConfusion, hlaunched, fun _ => .inl ⟨_, rfl, trivial⟩⟩
        · rcases holds_of_saved hsaved ha with ha | rfl
          · exact .inl ha
          · exact .inr ⟨trivial, rfl, rfl⟩
        · obtain rfl := Sum.inl.inj hd
          exact ⟨rfl, trivial⟩
    | unlock result =>
        cases result with
        | error err => exact hl.elim
        | ok assigned =>
            refine ⟨fun a ha => .inl ?_, fun d hd => ?_, Bool.noConfusion, hlaunched,
              fun _ => .inr ⟨assigned, rfl⟩⟩
            · refine holds_of_same ?_ ha
              unfold Call.run Coordinator.Store.unlockMatch
              dsimp only
              split_ifs
              · exact ⟨fun _ => rfl, fun _ => rfl⟩
              · exact .refl s
            · cases hd
    | check | tryLock | wait | list | read | dropStale | create => exact hl.elim
  · cases Call.run_spec hc hid hplayers s singleTTL now accepted with
    | quiet idle same sent next =>
        refine ⟨fun a ha => .inl (holds_of_same same ha), fun d hd => ?_, fun hsent hacc => ?_, hlaunched,
          fun h => absurd h hl⟩
        · exact ⟨(next d hd).1, (next d hd).2.1⟩
        · exact absurd (hacc.symm.trans (sent hsent)) (by decide)
    | post target idle store sound next =>
        refine ⟨fun a ha => .inl (store ▸ ha), fun d hd => ?_, fun _ _ => ⟨_, next, trivial⟩, hlaunched,
          fun h => absurd h hl⟩
        obtain rfl := Sum.inl.inj (next.symm.trans hd)
        exact ⟨rfl, sound⟩
    | save a saving =>
        obtain ⟨found, holder, at_⟩ := c
        cases at_ with
        | save => exact absurd trivial hl
        | check | tryLock | wait | list | read | dropStale | create | unlock => cases saving

end Calls

/-! ## Steps of a request -/

/-- What a request has of its match. -/
structure Fine (l : LobbyID) (found : MatchFound) : Prop where
  matchID : found.matchID ≠ ""
  players : found.players ≠ []
  sourceLobbyID : found.sourceLobbyID = l

/-- What a request relies on. -/
def At.Sound (l : LobbyID) : At → Prop
  | .start found (.launch c) => Fine l c.found ∧ c.found.matchID = found.matchID ∧ c.at_.Sound
  | .start found _ => Fine l found
  | .lobby | .members _ | .mark .. | .payload .. => True

/-- The match that a call of the request has had created. -/
def At.Launching (m : MatchID) : At → Prop
  | .start _ (.launch c) => Launched c ∧ c.found.matchID = m
  | _ => False

/-- What a step does that does not mark the lobby: what it stores and has created it still owes. -/
structure Runs (r : Request) (db : DB) (s : Coordinator.Store) (o : Outcome) : Prop where
  db : o.db = db
  stored : ∀ a, Holds o.coord a → Holds s a ∨ a.sourceLobbyID = r.lobbyID ∧ r.at_.Launching a.matchID
  created : ∀ m, o.created = some m → ∃ at_, o.next = some at_ ∧ at_.Owes m
  launching : ∀ at_ m, o.next = some at_ → at_.Launching m → r.at_.Launching m ∨ o.created = some m
  owes : ∀ m, r.at_.Owes m → ∃ at_, o.next = some at_ ∧ at_.Owes m
  sound : ∀ at_, o.next = some at_ → at_.Sound r.lobbyID
  payload : ∀ found a, o.next ≠ some (.payload found a)

theorem sourceLobbyID_of_lobbyMatchFound {snap : MatchCoordinator.LobbySnapshot}
    {getProfile : UserID → Option PlayerProfile} {now : ℕ} {found : MatchFound}
    (h : lobbyMatchFound snap getProfile now = .ok found) : found.sourceLobbyID = snap.id := by
  unfold lobbyMatchFound at h
  dsimp only at h
  split_ifs at h
  cases hmode : MatchCoordinator.checkLobbyMode snap.mode (snap.members.filter (!isBlank ·.userID)) with
  | error err => rw [hmode] at h; cases h
  | ok x =>
      rw [hmode] at h
      obtain rfl := Except.ok.inj h
      rfl

theorem fine_of_lobbyMatchFound {snap : MatchCoordinator.LobbySnapshot}
    {getProfile : UserID → Option PlayerProfile} {now : ℕ} {found : MatchFound}
    (h : lobbyMatchFound snap getProfile now = .ok found) : Fine snap.id found where
  matchID := (MatchCoordinator.playable_of_lobbyMatchFound h).1.matchID
  players := (MatchCoordinator.playable_of_lobbyMatchFound h).1.players
  sourceLobbyID := sourceLobbyID_of_lobbyMatchFound h

section Loop

variable {found : MatchFound}

theorem sound_loop (h : Fine l found) (suffix : String) (done rest : List UserID) :
    (At.start found (.loop found suffix done rest)).Sound l := by
  cases rest with
  | nil => exact ⟨⟨h.matchID, h.players, h.sourceLobbyID⟩, rfl, trivial⟩
  | cons u rest => exact h

theorem not_launching_loop (suffix : String) (done rest : List UserID) :
    ¬ (At.start found (.loop found suffix done rest)).Launching m := by
  cases rest with
  | nil => exact fun h => h.1
  | cons u rest => exact id

end Loop

section Run

variable {r : Request} {s : Coordinator.Store} {o : Outcome} {singleTTL : ℤ} {x : Reply}

/-- A step before the match is launched. -/
theorem runs_of_quiet (howes : ∀ m, ¬ r.at_.Owes m) (hdb : o.db = db)
    (hstored : ∀ a, Holds o.coord a → Holds s a) (hcreated : o.created = none)
    (hnext : ∀ at_, o.next = some at_ → at_.Sound r.lobbyID ∧ (∀ m, ¬ at_.Launching m) ∧
      ∀ found a, at_ ≠ .payload found a) : Runs r db s o where
  db := hdb
  stored a ha := .inl (hstored a ha)
  created m hm := by
    rw [hcreated] at hm
    cases hm
  launching at_ m hat hlaunching := absurd hlaunching ((hnext at_ hat).2.1 m)
  owes m hm := absurd hm (howes m)
  sound at_ hat := (hnext at_ hat).1
  payload found a hat := (hnext _ hat).2.2 found a rfl

theorem runs_lobby {l : LobbyID} {u : UserID} :
    Runs ⟨l, u, .lobby⟩ db s (Request.run singleTTL ⟨l, u, .lobby⟩ db s x) := by
  unfold Request.run
  dsimp only
  split_ifs
  · exact runs_of_quiet (fun _ => id) rfl (fun _ => id) rfl fun at_ hat => by cases hat
  · refine runs_of_quiet (fun _ => id) rfl (fun _ => id) rfl fun at_ hat => ?_
    obtain ⟨row, -, rfl⟩ := Option.map_eq_some_iff.1 hat
    exact ⟨trivial, fun _ => id, fun _ _ => At.noConfusion⟩

theorem runs_members {l : LobbyID} {u : UserID} {row : LobbyRow} :
    Runs ⟨l, u, .members row⟩ db s (Request.run singleTTL ⟨l, u, .members row⟩ db s x) := by
  unfold Request.run
  dsimp only
  split_ifs
  · exact runs_of_quiet (fun _ => id) rfl (fun _ => id) rfl fun at_ hat => by cases hat
  · cases hfound : lobbyMatchFound (snapshot l row (Persistence.listLobbyMembers db l) x)
        (fun u => x.profiles.lookup u) x.nanos with
    | error err => exact runs_of_quiet (fun _ => id) rfl (fun _ => id) rfl fun at_ hat => by cases hat
    | ok found =>
        refine runs_of_quiet (fun _ => id) rfl (fun _ => id) rfl fun at_ hat => ?_
        obtain rfl := Option.some.inj hat
        exact ⟨sound_loop (fine_of_lobbyMatchFound hfound) .., fun _ => not_launching_loop _ _ _,
          fun _ _ => At.noConfusion⟩

/-- The checks of the players' assignments. -/
theorem runs_start {l : LobbyID} {u : UserID} {found : MatchFound} {at_ : LobbyAt}
    (hsound : (At.start found at_).Sound l) (hlaunch : ∀ c, at_ ≠ .launch c) :
    Runs ⟨l, u, .start found at_⟩ db s (Request.run singleTTL ⟨l, u, .start found at_⟩ db s x) := by
  cases at_ with
  | launch c => exact absurd rfl (hlaunch c)
  | check done user rest =>
      unfold Request.run runStart
      dsimp only
      cases s.getAssignmentByUser user with
      | none =>
          refine runs_of_quiet (fun _ => id) rfl (fun _ => id) rfl fun at_ hat => ?_
          obtain rfl := Option.some.inj hat
          exact ⟨sound_loop hsound .., fun _ => not_launching_loop _ _ _, fun _ _ => At.noConfusion⟩
      | some assigned =>
          refine runs_of_quiet (fun _ => id) rfl (fun _ => id) rfl fun at_ hat => ?_
          obtain rfl := Option.some.inj hat
          exact ⟨hsound, fun _ => id, fun _ _ => At.noConfusion⟩
  | validate done user rest assigned =>
      refine runs_of_quiet (fun _ => id) rfl (fun _ => id) rfl fun at_ hat => ?_
      obtain ⟨at', hat', rfl⟩ := Option.map_eq_some_iff.1 hat
      obtain ⟨again, -, rfl⟩ := Option.map_eq_some_iff.1 hat'
      exact ⟨hsound, fun _ => id, fun _ _ => At.noConfusion⟩
  | clear done user rest assigned again =>
      refine runs_of_quiet (fun _ => id) rfl (fun _ => holds_of_clearAssignment) rfl fun at_ hat => ?_
      obtain rfl := Option.some.inj hat
      cases again with
      | true => exact ⟨hsound, fun _ => id, fun _ _ => At.noConfusion⟩
      | false => exact ⟨sound_loop hsound .., fun _ => not_launching_loop _ _ _, fun _ _ => At.noConfusion⟩

theorem runs_launch {l : LobbyID} {u : UserID} {found : MatchFound} {c : Call}
    (hsound : (At.start found (.launch c)).Sound l) :
    Runs ⟨l, u, .start found (.launch c)⟩ db s
      (Request.run singleTTL ⟨l, u, .start found (.launch c)⟩ db s x) := by
  obtain ⟨hfine, hid, hcall⟩ := hsound
  have hrun := launches_run hcall hfine.matchID hfine.players s singleTTL x.answer.now x.answer.accepted
  unfold Request.run
  dsimp only
  generalize c.run s singleTTL x.answer.now x.answer.accepted = k at hrun
  refine ⟨rfl, fun a ha => ?_, fun m hm => ?_, fun at_ m hat hlaunching => ?_, fun m hm => ?_,
    fun at_ hat => ?_, fun found a hat => ?_⟩
  · rcases hrun.stored a ha with ha | ⟨hl, hmatch, hlobby⟩
    · exact .inl ha
    · exact .inr ⟨hlobby.trans hfine.sourceLobbyID, hl, hmatch.symm⟩
  · dsimp only at hm ⊢
    split_ifs at hm with hsent
    obtain rfl := Option.some.inj hm
    obtain ⟨d, hd, hl⟩ := hrun.created hsent.1 hsent.2
    rw [hd]
    exact ⟨_, rfl, hl, by rw [(hrun.sound d hd).1]⟩
  · dsimp only at hat ⊢
    cases hk : k.next with
    | inl d =>
        rw [hk] at hat
        obtain rfl := Option.some.inj hat
        obtain ⟨hl, rfl⟩ := hlaunching
        rw [(hrun.sound d hk).1]
        rcases hrun.launched d hk hl with hl | hsent
        · exact .inl ⟨hl, rfl⟩
        · exact .inr (if_pos hsent)
    | inr res =>
        rw [hk] at hat
        cases res with
        | error err => cases hat
        | ok assigned =>
            obtain rfl := Option.some.inj hat
            exact hlaunching.elim
  · obtain ⟨hl, rfl⟩ := hm
    dsimp only
    rcases hrun.goesOn hl with ⟨d, hd, hl⟩ | ⟨a, ha⟩
    · rw [hd]
      exact ⟨_, rfl, hl, by rw [(hrun.sound d hd).1]⟩
    · rw [ha]
      exact ⟨_, rfl, hid.symm⟩
  · dsimp only at hat
    cases hk : k.next with
    | inl d =>
        rw [hk] at hat
        obtain rfl := Option.some.inj hat
        obtain ⟨hfound, hd⟩ := hrun.sound d hk
        refine ⟨?_, ?_, hd⟩
        · rw [hfound]
          exact hfine
        · rw [hfound]
          exact hid
    | inr res =>
        rw [hk] at hat
        cases res with
        | error err => cases hat
        | ok assigned =>
            obtain rfl := Option.some.inj hat
            trivial
  · dsimp only at hat
    split at hat <;> cases hat

end Run

/-! ## The invariant -/

structure Inv (w : World) : Prop where
  stored : ∀ a, Holds w.coord a → a.sourceLobbyID ≠ "" → (a.sourceLobbyID, a.matchID) ∈ w.created ∨
    InMatch w.db a.sourceLobbyID a.matchID ∨ a.matchID ∈ w.ended
  created : ∀ p ∈ w.created, Accounted w p.1 p.2
  launching : ∀ id r m, w.requests.lookup id = some r → r.at_.Launching m → (r.lobbyID, m) ∈ w.created
  payload : ∀ id r found a, w.requests.lookup id = some r → r.at_ = .payload found a →
    InMatch w.db r.lobbyID found.matchID ∨ found.matchID ∈ w.ended
  sound : ∀ id r, w.requests.lookup id = some r → r.at_.Sound r.lobbyID

section Inv

variable {w w' : World} {id : ℕ} {r : Request} {o : Outcome}

theorem Inv.noStray (h : Inv w) : NoStray w := by
  have hstored : ∀ a, Holds w.coord a → a.sourceLobbyID ≠ "" →
      Accounted w a.sourceLobbyID a.matchID := by
    intro a ha hlobby
    rcases h.stored a ha hlobby with hcreated | hin | hended
    · exact h.created _ hcreated
    · exact .inl hin
    · exact .inr (.inl hended)
  refine ⟨hstored, h.created, fun l hl hnone a b ha hb hal hbl haended hbended => ?_⟩
  have hactive : ∀ a, Holds w.coord a → a.sourceLobbyID = l → a.matchID ∉ w.ended →
      InMatch w.db l a.matchID := by
    rintro a ha rfl hended
    rcases hstored a ha hl with hin | hover | hun
    · exact hin
    · exact absurd hover hended
    · exact absurd hun (hnone a.matchID)
  obtain ⟨row, hrow, -, hmatch⟩ := hactive a ha hal haended
  obtain ⟨row', hrow', -, hmatch'⟩ := hactive b hb hbl hbended
  obtain rfl := Option.some.inj (hrow.symm.trans hrow')
  exact Option.some.inj (hmatch.symm.trans hmatch')

theorem Inv.init (h : NoStray w) (hnone : w.requests = ∅) : Inv w := by
  have hlookup : ∀ id r, w.requests.lookup id = some r → False := by
    intro id r hr
    rw [hnone, AList.lookup_empty] at hr
    cases hr
  refine ⟨fun a ha hl => ?_, h.created, fun id r m hr => (hlookup id r hr).elim,
    fun id r found a hr => (hlookup id r hr).elim, fun id r hr => (hlookup id r hr).elim⟩
  rcases h.stored a ha hl with hin | hended | ⟨id, r, hr, -⟩
  · exact .inr (.inl hin)
  · exact .inr (.inr hended)
  · exact (hlookup id r hr).elim

/-! ### Steps of others -/

/-- What the others do keeps a lobby in its match until that has ended, stores nothing, and adds requests
that are at their beginning. -/
theorem inv_other (h : Inv w) (hin : ∀ l m, InMatch w.db l m → InMatch w'.db l m ∨ m ∈ w'.ended)
    (hended : w.ended ⊆ w'.ended) (hstored : ∀ a, Holds w'.coord a → Holds w.coord a)
    (hcreated : w'.created = w.created)
    (hold : ∀ id r, w.requests.lookup id = some r → w'.requests.lookup id = some r)
    (hnew : ∀ id r, w'.requests.lookup id = some r → w.requests.lookup id = some r ∨ r.at_ = .lobby) :
    Inv w' := by
  have hkeeps : ∀ l m, InMatch w.db l m ∨ m ∈ w.ended → InMatch w'.db l m ∨ m ∈ w'.ended := by
    rintro l m (hm | hm)
    · exact hin l m hm
    · exact .inr (hended hm)
  refine ⟨fun a ha hl => ?_, fun p hp => ?_, fun id r m hr hm => ?_, fun id r found a hr hat => ?_,
    fun id r hr => ?_⟩
  · rw [hcreated]
    rcases h.stored a (hstored a ha) hl with hc | hm
    · exact .inl hc
    · exact .inr (hkeeps _ _ hm)
  · rw [hcreated] at hp
    rcases h.created p hp with hm | hm | ⟨id, r, hr, hl, howes⟩
    · exact (hin _ _ hm).imp_right .inl
    · exact .inr (.inl (hended hm))
    · exact .inr (.inr ⟨id, r, hold id r hr, hl, howes⟩)
  · rw [hcreated]
    rcases hnew id r hr with hr | hat
    · exact h.launching id r m hr hm
    · rw [hat] at hm
      exact hm.elim
  · rcases hnew id r hr with hr | hlobby
    · exact hkeeps _ _ (h.payload id r found a hr hat)
    · rw [hlobby] at hat
      cases hat
  · rcases hnew id r hr with hr | hat
    · exact h.sound id r hr
    · rw [hat]
      trivial

/-! ### Steps of requests -/

theorem lookup_settle {j : ℕ} {q : Request} (h : (w.settle id r o).requests.lookup j = some q) :
    (j = id ∧ ∃ at_, o.next = some at_ ∧ q = { r with at_ := at_ }) ∨
      j ≠ id ∧ w.requests.lookup j = some q := by
  unfold World.settle at h
  cases ho : o.next with
  | none =>
      rw [ho] at h
      exact .inr (Assoc.of_lookup_erase h)
  | some at_ =>
      rw [ho] at h
      rcases Assoc.of_lookup_insert h with ⟨hj, hq⟩ | hj
      · exact .inl ⟨hj, at_, rfl, hq⟩
      · exact .inr hj

theorem mem_created_settle {p : LobbyID × MatchID} :
    p ∈ (w.settle id r o).created ↔ (∃ m, o.created = some m ∧ p = (r.lobbyID, m)) ∨ p ∈ w.created := by
  unfold World.settle
  cases o.created with
  | none => simp
  | some m => simp

/-- A request that goes on keeps what it owes. -/
theorem inv_settle (h : Inv w) (hr : w.requests.lookup id = some r)
    (hin : ∀ l m, InMatch w.db l m → InMatch o.db l m)
    (hstored : ∀ a, Holds o.coord a → Holds w.coord a ∨
      a.sourceLobbyID = r.lobbyID ∧ r.at_.Launching a.matchID)
    (hcreated : ∀ m, o.created = some m → ∃ at_, o.next = some at_ ∧ at_.Owes m)
    (hlaunching : ∀ at_ m, o.next = some at_ → at_.Launching m → r.at_.Launching m ∨ o.created = some m)
    (howes : ∀ m, r.at_.Owes m → ∃ at_, o.next = some at_ ∧ at_.Owes m)
    (hsound : ∀ at_, o.next = some at_ → at_.Sound r.lobbyID)
    (hpayload : ∀ found a, o.next = some (.payload found a) → InMatch o.db r.lobbyID found.matchID) :
    Inv (w.settle id r o) := by
  have hself : ∀ at_, o.next = some at_ →
      (w.settle id r o).requests.lookup id = some { r with at_ := at_ } := by
    intro at_ hat
    unfold World.settle
    rw [hat]
    exact AList.lookup_insert _
  have hother : ∀ j q, j ≠ id → w.requests.lookup j = some q →
      (w.settle id r o).requests.lookup j = some q := by
    intro j q hj hq
    unfold World.settle
    cases o.next with
    | none => exact (AList.lookup_erase_ne hj).trans hq
    | some at_ => exact (AList.lookup_insert_ne hj).trans hq
  refine ⟨fun a ha hl => ?_, fun p hp => ?_, fun j q m hq hm => ?_, fun j q found a hq hat => ?_,
    fun j q hq => ?_⟩
  · rw [mem_created_settle]
    rcases hstored a ha with ha | ⟨hlobby, hm⟩
    · rcases h.stored a ha hl with hc | hm | hm
      · exact .inl (.inr hc)
      · exact .inr (.inl (hin _ _ hm))
      · exact .inr (.inr hm)
    · refine .inl (.inr ?_)
      rw [hlobby]
      exact h.launching id r a.matchID hr hm
  · rcases mem_created_settle.1 hp with ⟨m, hm, rfl⟩ | hp
    · obtain ⟨at_, hat, how⟩ := hcreated m hm
      exact .inr (.inr ⟨id, _, hself at_ hat, rfl, how⟩)
    · rcases h.created p hp with hm | hm | ⟨j, q, hq, hl, how⟩
      · exact .inl (hin _ _ hm)
      · exact .inr (.inl hm)
      · refine .inr (.inr ?_)
        by_cases hj : j = id
        · subst hj
          obtain rfl := Option.some.inj (hq.symm.trans hr)
          obtain ⟨at_, hat, how⟩ := howes _ how
          exact ⟨j, _, hself at_ hat, hl, how⟩
        · exact ⟨j, q, hother j q hj hq, hl, how⟩
  · rw [mem_created_settle]
    rcases lookup_settle hq with ⟨rfl, at_, hat, rfl⟩ | ⟨-, hq⟩
    · rcases hlaunching at_ m hat hm with hm | hm
      · exact .inr (h.launching j r m hr hm)
      · exact .inl ⟨m, hm, rfl⟩
    · exact .inr (h.launching j q m hq hm)
  · rcases lookup_settle hq with ⟨rfl, at_, hnext, rfl⟩ | ⟨-, hq⟩
    · obtain rfl : at_ = .payload found a := hat
      exact .inl (hpayload found a hnext)
    · exact (h.payload j q found a hq hat).imp_left (hin _ _)
  · rcases lookup_settle hq with ⟨rfl, at_, hnext, rfl⟩ | ⟨-, hq⟩
    · exact hsound at_ hnext
    · exact h.sound j q hq

/-- A request answers that leaves no stray match. -/
theorem inv_answer (h : Inv w) (hr : w.requests.lookup id = some r)
    (howes : ∀ m, r.at_.Owes m → (r.lobbyID, m) ∈ w.created → InMatch w.db r.lobbyID m ∨ m ∈ w.ended ∨
      ∃ id' r', id' ≠ id ∧ w.requests.lookup id' = some r' ∧ r'.lobbyID = r.lobbyID ∧ r'.at_.Owes m) :
    Inv { w with requests := w.requests.erase id } := by
  have hother : ∀ j q, j ≠ id → w.requests.lookup j = some q →
      (w.requests.erase id).lookup j = some q := fun j q hj hq =>
    (AList.lookup_erase_ne hj).trans hq
  refine ⟨h.stored, fun p hp => ?_, fun j q m hq hm => ?_, fun j q found a hq hat => ?_,
    fun j q hq => ?_⟩
  · rcases h.created p hp with hm | hm | ⟨j, q, hq, hl, how⟩
    · exact .inl hm
    · exact .inr (.inl hm)
    · by_cases hj : j = id
      · subst hj
        obtain rfl := Option.some.inj (hq.symm.trans hr)
        rw [← hl]
        rcases howes p.2 how (hl ▸ hp) with hm | hm | ⟨j', q', hj', hq', hl', how'⟩
        · exact .inl hm
        · exact .inr (.inl hm)
        · exact .inr (.inr ⟨j', q', hother j' q' hj' hq', hl', how'⟩)
      · exact .inr (.inr ⟨j, q, hother j q hj hq, hl, how⟩)
  · exact h.launching j q m (Assoc.of_lookup_erase hq).2 hm
  · exact h.payload j q found a (Assoc.of_lookup_erase hq).2 hat
  · exact h.sound j q (Assoc.of_lookup_erase hq).2

variable {singleTTL : ℤ} {op : Op}

theorem Runs.inv (hruns : Runs r w.db w.coord o) (h : Inv w) (hr : w.requests.lookup id = some r) :
    Inv (w.settle id r o) := by
  refine inv_settle h hr (fun l m hm => ?_) hruns.stored hruns.created hruns.launching hruns.owes
    hruns.sound fun found a hat => absurd hat (hruns.payload found a)
  rwa [hruns.db]

theorem inv_request (h : Inv w) (hr : w.requests.lookup id = some r) (hmeet : r.MarksOpen w id)
    (x : Reply) : Inv (w.settle id r (r.run singleTTL w.db w.coord x)) := by
  obtain ⟨l, u, at_⟩ := r
  have hsound : at_.Sound l := h.sound id _ hr
  cases at_ with
  | lobby => exact runs_lobby.inv h hr
  | members row => exact runs_members.inv h hr
  | start found at_ =>
      cases at_ with
      | launch c => exact (runs_launch hsound).inv h hr
      | check | validate | clear => exact (runs_start hsound fun c => LobbyAt.noConfusion).inv h hr
  | mark found assigned =>
      have hmarks := markLobbyInMatch_spec w.db l x.nanos found.matchID
      unfold Request.run
      dsimp only
      generalize Persistence.markLobbyInMatch w.db l x.nanos found.matchID = res at hmarks
      obtain ⟨res, db⟩ := res
      cases hmarks with
      | marked ok wasOpen inMatch others =>
          obtain ⟨snap, rfl⟩ := ok
          refine inv_settle h hr others (fun a ha => .inl ha) (fun m hm => by cases hm)
            (fun at_ m hat hm => ?_) (fun m hm => ⟨_, rfl, hm⟩) (fun at_ hat => ?_) fun found' a hat => ?_
          · obtain rfl := Option.some.inj hat
            exact hm.elim
          · obtain rfl := Option.some.inj hat
            trivial
          · obtain ⟨rfl, -⟩ := At.payload.inj (Option.some.inj hat)
            exact inMatch
      | refused err same notOpen =>
          obtain ⟨err, rfl⟩ := err
          obtain rfl : db = w.db := same
          refine inv_answer h hr fun m hm hcreated => ?_
          obtain rfl : found.matchID = m := hm
          exact (hmeet hcreated).resolve_left notOpen
  | payload found assigned =>
      refine inv_answer h hr fun m hm _ => ?_
      obtain rfl : found.matchID = m := hm
      exact (h.payload id _ found assigned hr rfl).imp_right .inl

theorem inv_step (h : Inv w) (hmeet : MarksOpen w op) (hs : w.step singleTTL op = some w') : Inv w' := by
  cases op with
  | startLobby id l u =>
      unfold World.step at hs
      dsimp only at hs
      split_ifs at hs with hid
      obtain rfl := Option.some.inj hs
      refine inv_other h (fun l m hm => .inl hm) (fun m hm => hm) (fun a ha => ha) rfl
        (fun j q hq => ?_) fun j q hq => ?_
      · refine (AList.lookup_insert_ne fun hj => hid ?_).trans hq
        exact Assoc.mem_iff_exists.2 ⟨q, hj ▸ hq⟩
      · rcases Assoc.of_lookup_insert hq with ⟨-, rfl⟩ | ⟨-, hq⟩
        · exact .inr rfl
        · exact .inl hq
  | request id x =>
      obtain ⟨r, hr, rfl⟩ := Option.map_eq_some_iff.1 hs
      exact inv_request h hr (hmeet r hr) x
  | giveUp id =>
      unfold World.step at hs
      dsimp only at hs
      split at hs
      · rename_i hr
        obtain rfl := Option.some.inj hs
        exact inv_answer h hr fun m hm => hm.1.elim
      · cases hs
  | statement s =>
      obtain rfl := Option.some.inj hs
      exact inv_other h (fun l m hm => .inl (inMatch_statement hm s)) (fun m hm => hm) (fun a ha => ha) rfl
        (fun j q hq => hq) fun j q hq => .inl hq
  | reopenEndedLobbies now =>
      obtain rfl := Option.some.inj hs
      exact inv_other h (fun l m hm => inMatch_reopenEndedLobbies hm now) (fun m hm => hm) (fun a ha => ha)
        rfl (fun j q hq => hq) fun j q hq => .inl hq
  | endMatch m =>
      obtain rfl := Option.some.inj hs
      exact inv_other h (fun l m hm => .inl hm) (List.subset_cons_self m w.ended) (fun a ha => ha) rfl
        (fun j q hq => hq) fun j q hq => .inl hq
  | clearAssignment a =>
      obtain rfl := Option.some.inj hs
      exact inv_other h (fun l m hm => .inl hm) (fun m hm => hm) (fun b => holds_of_clearAssignment) rfl
        (fun j q hq => hq) fun j q hq => .inl hq
  | registerNode rec now =>
      unfold World.step at hs
      dsimp only at hs
      split_ifs at hs
      obtain rfl := Option.some.inj hs
      exact inv_other h (fun l m hm => .inl hm) (fun m hm => hm) (fun b => holds_registerNode) rfl
        (fun j q hq => hq) fun j q hq => .inl hq

/-- A request that finds the lobby closed leaves a stray match. -/
theorem not_noStray_step (hmeet : ¬ MarksOpen w op) (hs : w.step singleTTL op = some w') :
    ¬ NoStray w' := by
  intro h
  cases op with
  | request id x =>
      obtain ⟨r, hr, rfl⟩ := Option.map_eq_some_iff.1 hs
      refine hmeet fun q hq => ?_
      obtain rfl := Option.some.inj (hq.symm.trans hr)
      obtain ⟨l, u, at_⟩ := q
      cases at_ with
      | mark found assigned =>
          intro hcreated
          have hmarks := markLobbyInMatch_spec w.db l x.nanos found.matchID
          unfold Request.run at h
          dsimp only at h
          by_contra hcon
          generalize Persistence.markLobbyInMatch w.db l x.nanos found.matchID = res at hmarks h
          obtain ⟨res, db⟩ := res
          cases hmarks with
          | marked ok wasOpen => exact hcon (.inl wasOpen)
          | refused err same notOpen =>
              obtain ⟨err, rfl⟩ := err
              obtain rfl : db = w.db := same
              rcases h.created _ hcreated with hm | hm | ⟨j, q, hq, hl, how⟩
              · exact hcon (.inr (.inl hm))
              · exact hcon (.inr (.inr (.inl hm)))
              · obtain ⟨hj, hq⟩ := Assoc.of_lookup_erase hq
                exact hcon (.inr (.inr (.inr ⟨j, q, hj, hq, hl, how⟩)))
      | lobby | members | start | payload => trivial
  | startLobby | giveUp | statement | reopenEndedLobbies | endMatch | clearAssignment | registerNode =>
      exact hmeet trivial

/-- In every run from a state without requests and without stray matches, there are none in any state
exactly when the requests find the lobbies open that they mark. -/
theorem noStray_iff (singleTTL : ℤ) {w : World} (h : NoStray w) (hnone : w.requests = ∅) (ops : List Op) :
    Run.Always (World.step singleTTL) NoStray w ops ↔ Run.Guarded (World.step singleTTL) MarksOpen w ops :=
  Run.always_iff_guarded Inv (fun _ _ _ hinv hmeet hs => inv_step hinv hmeet hs) (fun _ => Inv.noStray)
    (fun _ _ _ _ hmeet hs => not_noStray_step hmeet hs) (Inv.init h hnone)

end Inv

/-! ### The condition is decidable -/

instance (db : DB) (l : LobbyID) (m : MatchID) : Decidable (InMatch db l m) :=
  decidable_of_iff (∃ row ∈ lobbyRow db l, row.state ≠ .open_ ∧ row.activeMatchID = some m) Iff.rfl

instance (c : Call) : Decidable (Launched c) :=
  match c with
  | ⟨_, _, .save _⟩ | ⟨_, _, .unlock (.ok _)⟩ => .isTrue trivial
  | ⟨_, _, .check⟩ | ⟨_, _, .tryLock⟩ | ⟨_, _, .wait⟩ | ⟨_, _, .list⟩ | ⟨_, _, .read ..⟩
  | ⟨_, _, .dropStale ..⟩ | ⟨_, _, .create _⟩ | ⟨_, _, .unlock (.error _)⟩ => .isFalse id

instance (m : MatchID) : ∀ at_ : At, Decidable (at_.Owes m)
  | .start _ (.launch c) => inferInstanceAs (Decidable (Launched c ∧ c.found.matchID = m))
  | .mark found _ | .payload found _ => inferInstanceAs (Decidable (found.matchID = m))
  | .lobby | .members _ | .start _ (.check ..) | .start _ (.validate ..) | .start _ (.clear ..) => .isFalse id

instance (w : World) (id : ℕ) : ∀ r : Request, Decidable (r.MarksOpen w id)
  | ⟨l, _, .mark found _⟩ =>
      have : Decidable (∃ id' r', id' ≠ id ∧ w.requests.lookup id' = some r' ∧ r'.lobbyID = l ∧
          r'.at_.Owes found.matchID) :=
        decidable_of_iff
          (∃ e ∈ w.requests.entries, e.1 ≠ id ∧ e.2.lobbyID = l ∧ e.2.at_.Owes found.matchID)
          ⟨fun ⟨e, he, hid, hl⟩ => ⟨e.1, e.2, hid, Assoc.mem_entries_iff.1 he, hl⟩,
            fun ⟨id', r', hid, hr, hl⟩ => ⟨⟨id', r'⟩, Assoc.mem_entries_iff.2 hr, hid, hl⟩⟩
      have : Decidable (∃ row, lobbyRow w.db l = some row ∧ row.state = .open_) :=
        decidable_of_iff (∃ row ∈ lobbyRow w.db l, row.state = .open_) Iff.rfl
      inferInstanceAs (Decidable ((l, found.matchID) ∈ w.created → _ ∨ _ ∨ _ ∨ _))
  | ⟨_, _, .lobby⟩ | ⟨_, _, .members _⟩ | ⟨_, _, .start ..⟩ | ⟨_, _, .payload ..⟩ => .isTrue trivial

instance (w : World) : ∀ op : Op, Decidable (MarksOpen w op)
  | .request id _ => decidable_of_iff (∀ r ∈ w.requests.lookup id, r.MarksOpen w id) Iff.rfl
  | .startLobby .. | .giveUp _ | .statement _ | .reopenEndedLobbies _ | .endMatch _ | .clearAssignment _
  | .registerNode .. => .isTrue trivial

end GeoDuels.StartLobby
