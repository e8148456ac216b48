import GeoDuels.Lib.Roster
import GeoDuels.MatchCoordinator.Entry
import GeoDuels.MatchLaunch.Spec
import GeoDuels.MatchStore.Spec

/-!
# Open matches

A match is open while a match key, a queue connection or a lobby start still has it: it may yet be
assigned to the users whom it names there.  For a lobby start these are the players that it has
checked.  A `Place` is what counts of a handler here.  `SavesAlone` is the property of a step that saves
an assignment, and `Sole` the condition on the steps under which it holds.
-/

namespace GeoDuels.MatchCoordinator

open Coordinator (Assignment NodeRecord isBlank normalizeMode)
open MatchLaunch (Call)
open MatchStore (QueuePool Proc allQueuePools allQueueRulesets)

/-! ## Places -/

/-- The open match that a handler has, with the users whom it names, and the match whose assignment
the handler is about to save. -/
structure Place where
  opens : Option (MatchID × List UserID) := none
  saving : Option MatchID := none
  deriving DecidableEq

def Place.launch (c : Call) : Place :=
  ⟨some (c.found.matchID, c.found.players), c.saving.map (·.matchID)⟩

def QueueAt.place : QueueAt → Place
  | .found m | .drop m => { opens := some (m.matchID, m.players) }
  | .launch c => .launch c
  | _ => {}

def LobbyStart.place (start : LobbyStart) : Place :=
  match start.at_ with
  | .check done _ _ | .validate done _ _ _ | .clear done _ _ _ _ =>
      { opens := some (start.found.matchID, done) }
  | .launch c => .launch c

/-- The matches under the match keys. -/
def stored (s : MatchStore.Store) : List MatchFound :=
  (allQueuePools ×ˢ allQueueRulesets).flatMap fun c =>
    (s.queue c.1 c.2).matched.entries.map (·.2)

/-- The players of the match that the pass records with its next command. -/
def takes (p : Proc) : List UserID := (made 0 p).elim [] (·.players)

namespace World

def places (w : World) : List Place :=
  w.sessions.entries.map (·.2.at_.place) ++ w.starts.entries.map (·.2.place)

/-- The open matches, each with users whom it names. -/
def opens (w : World) : List (MatchID × List UserID) :=
  (stored w.queue).map (fun m => (m.matchID, m.players)) ++ w.places.filterMap (·.opens)

/-- The users whom a pass has taken and whose match it has still to record. -/
def taken (w : World) : List UserID :=
  w.passes.entries.flatMap fun e => takes e.2.2

/-- The assignments of the user. -/
def assigned (w : World) (u : UserID) : List Assignment :=
  (w.coord.getAssignmentByUser u).toList ++
    ((w.coord.activeMatch.keys.filterMap w.coord.getAssignmentByMatch).filter (u ∈ ·.players))

end World

/-! ## The property and the condition -/

def QueueAt.saving : QueueAt → Option MatchFound
  | .launch c => c.saving
  | _ => none

def LobbyAt.saving : LobbyAt → Option MatchFound
  | .launch c => c.saving
  | _ => none

/-- The match whose assignment is saved with the step. -/
def World.savedBy (w : World) : Op → Option MatchFound
  | .session id _ => (w.sessions.lookup id).bind (·.at_.saving)
  | .lobby id _ => (w.starts.lookup id).bind (·.at_.saving)
  | _ => none

/-- Nobody to whom the step assigns a match has an assignment to another live private-party match. -/
def SavesAlone (w : World) (op : Op) : Prop :=
  ∀ m ∈ w.savedBy op, ∀ u ∈ m.players, isBlank u = false → ∀ a ∈ w.assigned u, isPrivateParty a →
    a.matchID ≠ m.matchID → a.matchID ∉ w.live

instance (w : World) (op : Op) : Decidable (SavesAlone w op) :=
  inferInstanceAs (Decidable (∀ m ∈ w.savedBy op, _))

namespace World

/-- No other open match than `i` names the user, and no pass has taken him. -/
def Alone (w : World) (i : MatchID) (u : UserID) : Prop :=
  (∀ e ∈ w.opens, u ∈ e.2 → e.1 = i) ∧ u ∉ w.taken

/-- The user has no assignment to a live private-party match, no open match names him, and no pass has
taken him. -/
def Free (w : World) (u : UserID) : Prop :=
  (∀ a ∈ w.assigned u, isPrivateParty a → a.matchID ∉ w.live) ∧ (∀ e ∈ w.opens, u ∉ e.2) ∧ u ∉ w.taken

/-- To clear the assignment deletes nobody's pointer to another live private-party match. -/
def ClearsOwn (w : World) (a : Assignment) : Prop :=
  ∀ u ∈ a.players, isBlank u = false → ∀ b ∈ w.coord.getAssignmentByUser u, isPrivateParty b →
    b.matchID ≠ a.matchID → b.matchID ∉ w.live

end World

/-- The condition on a command of a queue connection. -/
def QueueAt.Sole (w : World) : QueueAt → Prop
  | .clear a _ => w.ClearsOwn a
  | _ => True

/-- The condition on a command of a lobby start: when it has checked a player, he is alone. -/
def LobbyStart.Sole (w : World) (start : LobbyStart) : Prop :=
  match start.at_ with
  | .check _ u _ => w.coord.getAssignmentByUser u = none → w.Alone start.found.matchID u
  | .clear _ u _ a again => w.ClearsOwn a ∧ (again = false → w.Alone start.found.matchID u)
  | _ => True

/-- Every match is new, the match scripts take free users only, the lobby starts check players who are
alone, and no assignment is cleared together with a pointer to another live match. -/
def Sole (w : World) : Op → Prop
  | .session id _ => ∀ session ∈ w.sessions.lookup id, session.at_.Sole w
  | .startLobby _ snap profiles now _ =>
      ∀ m ∈ (lobbyMatchFound snap (fun u => profiles.lookup u) now).toOption, m.matchID ∉ w.issued
  | .lobby id _ => ∀ start ∈ w.starts.lookup id, start.Sole w
  | .pass id now => ∀ p ∈ w.passes.lookup id, (∀ m ∈ made now p.2, m.matchID ∉ w.issued) ∧
      ∀ q ∈ (p.2.run p.1 w.queue now).1.getLeft?, ∀ u ∈ takes q, w.Free u
  | .terminalize a => w.ClearsOwn a
  | _ => True

section Decidable

instance (w : World) (i : MatchID) (u : UserID) : Decidable (w.Alone i u) :=
  inferInstanceAs (Decidable (_ ∧ _))

instance (w : World) (u : UserID) : Decidable (w.Free u) :=
  inferInstanceAs (Decidable (_ ∧ _ ∧ _))

instance (w : World) (a : Assignment) : Decidable (w.ClearsOwn a) :=
  inferInstanceAs (Decidable (∀ u ∈ a.players, _))

instance (w : World) : ∀ at_ : QueueAt, Decidable (at_.Sole w)
  | .clear a _ => inferInstanceAs (Decidable (w.ClearsOwn a))
  | .check | .validate _ | .leave | .join _ | .poll _ | .found _ | .drop _ | .launch _ | .close =>
      .isTrue trivial

instance (w : World) : ∀ start : LobbyStart, Decidable (start.Sole w)
  | ⟨_, .check _ _ _⟩ => inferInstanceAs (Decidable (_ → _))
  | ⟨_, .clear _ _ _ _ _⟩ => inferInstanceAs (Decidable (_ ∧ (_ → _)))
  | ⟨_, .validate _ _ _ _⟩ | ⟨_, .launch _⟩ => .isTrue trivial

instance (w : World) : ∀ op : Op, Decidable (Sole w op)
  | .session id _ => inferInstanceAs (Decidable (∀ session ∈ w.sessions.lookup id, _))
  | .startLobby .. => inferInstanceAs (Decidable (∀ m ∈ _, _))
  | .lobby id _ => inferInstanceAs (Decidable (∀ start ∈ w.starts.lookup id, _))
  | .pass id _ => inferInstanceAs (Decidable (∀ p ∈ w.passes.lookup id, _))
  | .terminalize a => inferInstanceAs (Decidable (w.ClearsOwn a))
  | .register .. | .connect .. | .hangUp _ | .giveUp _ | .matchmaking .. | .heartbeat .. |
    .endMatch _ | .clearArtifacts _ => .isTrue trivial

end Decidable

end GeoDuels.MatchCoordinator
