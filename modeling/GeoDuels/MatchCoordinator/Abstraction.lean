import GeoDuels.MatchCoordinator.Stored

/-!
# The coordinator as a roster

`World.abs` reads a world as a roster of matches, and `World.Wf` says that whatever has an open match
has one that was made.  `Moved` says that one handler went from one place to another; its lemmas are
the steps of the roster that this can be.
-/

namespace GeoDuels.MatchCoordinator

open Coordinator (Assignment isBlank)
open Coordinator.Store (SameAssignments Saved Cleared)
open MatchLaunch (Call)
open MatchStore (QueuePool Proc)
open Roster (Step Keeps)

/-! ## The abstraction -/

namespace World

variable {w w' : World}

theorem mem_places {q : Place} : q ∈ w.places ↔
    (∃ id session, w.sessions.lookup id = some session ∧ session.at_.place = q) ∨
      ∃ id start, w.starts.lookup id = some start ∧ start.place = q := by
  simp only [places, List.mem_append, List.mem_map, Sigma.exists, Assoc.mem_entries_iff]

theorem mem_opens {e : MatchID × List UserID} : e ∈ w.opens ↔
    (∃ m ∈ stored w.queue, (m.matchID, m.players) = e) ∨ ∃ q ∈ w.places, q.opens = some e := by
  simp only [opens, List.mem_append, List.mem_map, List.mem_filterMap]

theorem mem_taken {u : UserID} :
    u ∈ w.taken ↔ ∃ id, ∃ p ∈ w.passes.lookup id, u ∈ takes p.2 := by
  simp only [taken, List.mem_flatMap, Sigma.exists, Assoc.mem_entries_iff, Option.mem_def]

theorem mem_assigned {u : UserID} {a : Assignment} : a ∈ w.assigned u ↔
    w.coord.getAssignmentByUser u = some a ∨
      ∃ i, w.coord.getAssignmentByMatch i = some a ∧ u ∈ a.players := by
  simp only [assigned, List.mem_append, Option.mem_toList, List.mem_filter,
    List.mem_filterMap, decide_eq_true_eq]
  refine or_congr_right ⟨?_, ?_⟩
  · rintro ⟨⟨i, -, hi⟩, hu⟩
    exact ⟨i, hi, hu⟩
  · rintro ⟨i, hi, hu⟩
    refine ⟨⟨i, AList.mem_keys.1 (Assoc.mem_iff_exists.2 ⟨a, ?_⟩), hi⟩, hu⟩
    exact (Option.filter_eq_some_iff.1 hi).1

/-- The roster of the world: of the assignments it keeps those to private-party matches, and of their
players those with a name. -/
def abs (w : World) : Roster.State UserID MatchID ℕ where
  pending id := {u | ∃ p ∈ w.passes.lookup id, u ∈ takes p.2}
  issued := {i | i ∈ w.issued}
  roster i := {u | ∃ players ∈ w.issued.lookup i, u ∈ players}
  named i := {u | ∃ e ∈ w.opens, e.1 = i ∧ u ∈ e.2}
  saving := {i | ∃ q ∈ w.places, q.saving = some i}
  record i := {u | ∃ a ∈ w.coord.getAssignmentByMatch i,
    isPrivateParty a ∧ u ∈ a.players ∧ isBlank u = false}
  pointer u := ((w.coord.getAssignmentByUser u).filter isPrivateParty).map (·.matchID)
  live := {i | i ∈ w.live}

theorem pointer_eq_some {u : UserID} {i : MatchID} : w.abs.pointer u = some i ↔
    ∃ a, w.coord.getAssignmentByUser u = some a ∧ isPrivateParty a ∧ a.matchID = i := by
  simp [abs, Option.filter_eq_some_iff, and_assoc]

theorem keeps_of_same (h : SameAssignments w.coord w'.coord) : Keeps w.abs w'.abs where
  record := by
    funext i
    simp only [abs, h.byMatch i]
  pointer := by
    funext u
    simp only [abs, h.byUser u]

/-! ## What is well formed -/

end World

/-- The match is one of those that were made. -/
structure Made (issued : Assoc MatchID (List UserID)) (m : MatchFound) : Prop extends Playable m where
  listed : issued.lookup m.matchID = some m.players

theorem Made.mono {issued issued' : Assoc MatchID (List UserID)} {m : MatchFound} (h : Made issued m)
    (hsub : ∀ i l, issued.lookup i = some l → issued'.lookup i = some l) : Made issued' m :=
  ⟨h.toPlayable, hsub _ _ h.listed⟩

theorem Made.config {issued : Assoc MatchID (List UserID)} {m : MatchFound} (h : Made issued m)
    (config : MatchConfig) : Made issued { m with config := config } :=
  ⟨⟨h.matchID, h.mode, h.players⟩, h.listed⟩

theorem Made.normalizeFound {issued : Assoc MatchID (List UserID)} {m : MatchFound}
    (h : Made issued m) : Made issued (MatchLaunch.normalizeFound m) := by
  refine ⟨⟨h.matchID, ?_, h.players⟩, h.listed⟩
  have hmode : m.mode ≠ .unset := by
    intro heq
    have hparty := h.mode
    rw [heq] at hparty
    cases hparty
  show isPrivatePartyMode (Coordinator.normalizeMode m.mode m.matchID)
  unfold Coordinator.normalizeMode
  rw [if_pos hmode]
  exact h.mode

/-- What the launch of a match may rely on. -/
def Launching (issued : Assoc MatchID (List UserID)) (c : Call) : Prop :=
  Made issued c.found ∧ c.at_.Sound

def QueueAt.Wf (issued : Assoc MatchID (List UserID)) : QueueAt → Prop
  | .found m | .drop m => Made issued m
  | .launch c => Launching issued c
  | _ => True

/-- A lobby start has checked the players `done` and checks `userID` now. -/
def LobbyAt.Wf (issued : Assoc MatchID (List UserID)) (found : MatchFound) : LobbyAt → Prop
  | .check done userID rest => done ++ userID :: rest = found.players
  | .validate done userID rest a | .clear done userID rest a _ =>
      done ++ userID :: rest = found.players ∧ userID ∈ a.players ∧ a.matchID ≠ ""
  | .launch c => Launching issued c

structure LobbyStart.Wf (issued : Assoc MatchID (List UserID)) (start : LobbyStart) : Prop where
  made : Made issued start.found
  named : ∀ u ∈ start.found.players, isBlank u = false
  at_ : start.at_.Wf issued start.found

theorem Launching.mono {issued issued' : Assoc MatchID (List UserID)} {c : Call}
    (h : Launching issued c) (hsub : ∀ i l, issued.lookup i = some l → issued'.lookup i = some l) :
    Launching issued' c := ⟨h.1.mono hsub, h.2⟩

theorem QueueAt.Wf.mono {issued issued' : Assoc MatchID (List UserID)} {at_ : QueueAt}
    (h : at_.Wf issued) (hsub : ∀ i l, issued.lookup i = some l → issued'.lookup i = some l) :
    at_.Wf issued' := by
  cases at_ with
  | found m | drop m => exact Made.mono h hsub
  | launch c => exact Launching.mono h hsub
  | check | validate | clear | leave | join | poll | close => trivial

theorem LobbyStart.Wf.mono {issued issued' : Assoc MatchID (List UserID)} {start : LobbyStart}
    (h : start.Wf issued) (hsub : ∀ i l, issued.lookup i = some l → issued'.lookup i = some l) :
    start.Wf issued' := by
  obtain ⟨found, at_⟩ := start
  refine ⟨h.made.mono hsub, h.named, ?_⟩
  cases at_ with
  | check | validate | clear => exact h.at_
  | launch c => exact Launching.mono h.at_ hsub

/-- The assignments of private-party matches are kept under their match, and those of a user name him. -/
structure CoordWf (s : Coordinator.Store) : Prop where
  own : ∀ i a, s.getAssignmentByMatch i = some a → isPrivateParty a → a.matchID = i
  pointer : ∀ u a, s.getAssignmentByUser u = some a → u ∈ a.players

structure World.Wf (w : World) : Prop where
  stored : ∀ m ∈ stored w.queue, Made w.issued m
  sessions : ∀ id session, w.sessions.lookup id = some session → session.at_.Wf w.issued
  starts : ∀ id start, w.starts.lookup id = some start → start.Wf w.issued
  coord : CoordWf w.coord

theorem CoordWf.same {s s' : Coordinator.Store} (h : CoordWf s) (hs : SameAssignments s s') :
    CoordWf s' where
  own i a ha := h.own i a (by rwa [hs.byMatch] at ha)
  pointer u a ha := h.pointer u a (by rwa [hs.byUser] at ha)

theorem CoordWf.saved {s s' : Coordinator.Store} (h : CoordWf s) {a : Assignment}
    (hs : Saved s s' a) : CoordWf s' where
  own i b hb hparty := by
    rw [hs.byMatch] at hb
    split_ifs at hb with hi
    · rw [← Option.some.inj hb, hi]
    · exact h.own i b hb hparty
  pointer u b hb := by
    rw [hs.byUser] at hb
    split_ifs at hb with hu
    · rw [← Option.some.inj hb]
      exact hu.1
    · exact h.pointer u b hb

theorem CoordWf.cleared {s s' : Coordinator.Store} (h : CoordWf s) {a : Assignment}
    (hs : Cleared s s' a) : CoordWf s' where
  own i b hb hparty := by
    rw [hs.byMatch] at hb
    split_ifs at hb
    exact h.own i b hb hparty
  pointer u b hb := by
    rw [hs.byUser] at hb
    split_ifs at hb
    exact h.pointer u b hb

namespace World

variable {w w' : World}

/-- The open match of a place was made, and a match that is about to be saved is open for all its
players. -/
theorem Wf.place (h : w.Wf) {q : Place} (hq : q ∈ w.places) :
    (∀ e ∈ q.opens, e.1 ∈ w.issued) ∧
      ∀ i, q.saving = some i → ∃ l, q.opens = some (i, l) ∧ w.issued.lookup i = some l := by
  have hmem : ∀ {m : MatchFound}, Made w.issued m → m.matchID ∈ w.issued := fun hm =>
    Assoc.mem_iff_exists.2 ⟨_, hm.listed⟩
  have hlaunch : ∀ c, Launching w.issued c → (∀ e ∈ (Place.launch c).opens, e.1 ∈ w.issued) ∧
      ∀ i, (Place.launch c).saving = some i →
        ∃ l, (Place.launch c).opens = some (i, l) ∧ w.issued.lookup i = some l := by
    rintro ⟨found, holder, at_⟩ ⟨hmade, -⟩
    refine ⟨fun e he => ?_, fun i hi => ?_⟩
    · rw [← Option.some.inj he]
      exact hmem hmade
    · obtain ⟨m, hm, rfl⟩ := Option.map_eq_some_iff.1 hi
      obtain rfl := MatchLaunch.eq_of_saving hm
      exact ⟨_, rfl, hmade.listed⟩
  rcases mem_places.1 hq with ⟨id, session, hid, rfl⟩ | ⟨id, start, hid, rfl⟩
  · have hat := h.sessions id session hid
    obtain ⟨req, rulesets, at_⟩ := session
    cases at_ with
    | found m | drop m =>
        refine ⟨fun e he => ?_, fun i hi => by cases hi⟩
        rw [← Option.some.inj he]
        exact hmem hat
    | launch c => exact hlaunch c hat
    | check | validate | clear | leave | join | poll | close =>
        exact ⟨fun _ he => (nomatch he), fun _ hi => nomatch hi⟩
  · have hstart := h.starts id start hid
    obtain ⟨found, at_⟩ := start
    cases at_ with
    | check | validate | clear =>
        refine ⟨fun e he => ?_, fun i hi => by cases hi⟩
        rw [← Option.some.inj he]
        exact hmem hstart.made
    | launch c => exact hlaunch c hstart.at_

theorem Wf.mem_issued (h : w.Wf) {e : MatchID × List UserID} (he : e ∈ w.opens) : e.1 ∈ w.issued := by
  rcases mem_opens.1 he with ⟨m, hm, rfl⟩ | ⟨q, hq, he⟩
  · exact Assoc.mem_iff_exists.2 ⟨_, (h.stored m hm).listed⟩
  · exact (h.place hq).1 e he

theorem Wf.open_ (h : w.Wf) {i : MatchID} (hi : i ∈ w.abs.saving) :
    w.abs.roster i ⊆ w.abs.named i := by
  obtain ⟨q, hq, hsaving⟩ := hi
  obtain ⟨l, hopens, hl⟩ := (h.place hq).2 i hsaving
  rintro u ⟨l', hl', hu⟩
  obtain rfl : l = l' := Option.some.inj (hl.symm.trans hl')
  exact ⟨(i, l), mem_opens.2 (.inr ⟨q, hq, hopens⟩), rfl, hu⟩

/-- An assignment of the user to a private-party match is one of the roster. -/
theorem Wf.has (h : w.Wf) {u : UserID} (hu : isBlank u = false) {a : Assignment}
    (ha : a ∈ w.assigned u) (hparty : isPrivateParty a) : w.abs.Has u a.matchID := by
  rcases mem_assigned.1 ha with hp | ⟨i, hi, hmem⟩
  · exact .inl (pointer_eq_some.2 ⟨a, hp, hparty, rfl⟩)
  · rw [h.coord.own i a hi hparty]
    exact .inr ⟨a, hi, hparty, hmem, hu⟩

theorem Wf.assigned_of_has (h : w.Wf) {u : UserID} {i : MatchID} (hi : w.abs.Has u i) :
    ∃ a ∈ w.assigned u, isPrivateParty a ∧ a.matchID = i := by
  rcases hi with hp | ⟨a, ha, hparty, hu, -⟩
  · obtain ⟨a, ha, hparty, rfl⟩ := pointer_eq_some.1 hp
    exact ⟨a, mem_assigned.2 (.inl ha), hparty, rfl⟩
  · exact ⟨a, mem_assigned.2 (.inr ⟨i, ha, hu⟩), hparty, h.coord.own i a ha hparty⟩

end World

end GeoDuels.MatchCoordinator
