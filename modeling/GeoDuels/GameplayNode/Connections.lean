import GeoDuels.Lib.Run
import GeoDuels.GameplayNode.Spec

/-!
# The connections of one user to one match

The websocket handler of the node in its atomic steps: it resumes the player in the engine, upgrades
the connection and binds it; when the read loop ends, `onDisconnect` checks and deletes the binding
under the lock and only then marks the player disconnected.  Any number of connections of one user
to one match run through these steps, between any other calls of the match's runtime.
-/

namespace GeoDuels.GameplayNode

abbrev ConnID := String

/-- Where a connection stands: resumed in the engine but not bound, open, out of its read loop, or
past the lock of `onDisconnect`. -/
inductive ConnPlace where
  | resumed | open_ | ended | marking
  deriving DecidableEq

/-- The runtime of the match, `g.connID` of the user, and the connections that have not finished.
`g.conns` and `g.connID` are set and deleted together. -/
structure Connections where
  runtime : Runtime
  connID : Option ConnID
  places : Assoc ConnID ConnPlace

inductive ConnOp where
  | connect (clk : Clock) (c : ConnID)
  | upgradeFails (c : ConnID)
  | bind (c : ConnID)
  | end_ (c : ConnID)
  | check (c : ConnID)
  | mark (clk : Clock) (c : ConnID)
  | createMatch (clk : Clock) (provider : Duel.RoundProvider) (found : MatchFound)
  | call (c : Call)
  | tick (clk : TickClock MatchID) (provider : Duel.RoundProvider)

/-- The call reports on a connection of the user to the match. -/
def Call.Reports (matchID : MatchID) (userID : UserID) : Call → Prop
  | .markDisconnected _ id u | .markResumed _ id u => id = matchID ∧ u = userID
  | _ => False

instance (matchID : MatchID) (userID : UserID) : DecidablePred (Call.Reports matchID userID)
  | .markDisconnected .. | .markResumed .. => inferInstanceAs (Decidable (_ ∧ _))
  | .submitGuess .. | .advanceRound .. | .forfeit .. => .isFalse id

namespace Connections

/-- A runtime without matches and no connection. -/
def init (mode : MatchMode) : Connections :=
  ⟨if mode = .singleplayer then .singleplayer .new else .duel mode .new, none, ∅⟩

variable (F : FloatMath) (matchID : MatchID) (userID : UserID)

/-- The handler lets the player in: the engine resumed him, or he is in the snapshot. -/
def admits (clk : Clock) (r : Runtime) : Bool :=
  match (r.markResumed clk matchID userID).1 with
  | .ok _ => true
  | .error _ =>
      match r.getSnapshot clk matchID with
      | .ok snap => userID ∈ snap.players
      | .error _ => false

/-- `bindConnection`; it also closes the previous connection, which lets that one's loop end. -/
def bindConnection (c : ConnID) (w : Connections) : Connections :=
  { w with connID := some c, places := w.places.insert c .open_ }

/-- The locked section of `onDisconnect`. -/
def checkBinding (c : ConnID) (w : Connections) : Connections :=
  if w.connID.any fun current => current ≠ c then { w with places := w.places.erase c }
  else { w with connID := none, places := w.places.insert c .marking }

def step (w : Connections) : ConnOp → Option Connections
  | .connect clk c =>
      if c ∈ w.places then none
      else if admits matchID userID clk w.runtime then
        some
          { w with
            runtime := (w.runtime.markResumed clk matchID userID).2
            places := w.places.insert c .resumed }
      else some { w with runtime := (w.runtime.markResumed clk matchID userID).2 }
  | .upgradeFails c =>
      if w.places.lookup c = some .resumed then some { w with places := w.places.erase c } else none
  | .bind c => if w.places.lookup c = some .resumed then some (w.bindConnection c) else none
  | .end_ c =>
      if w.places.lookup c = some .open_ then some { w with places := w.places.insert c .ended }
      else none
  | .check c => if w.places.lookup c = some .ended then some (w.checkBinding c) else none
  | .mark clk c =>
      if w.places.lookup c = some .marking then
        some
          { w with
            runtime := (w.runtime.markDisconnected clk matchID userID).2
            places := w.places.erase c }
      else none
  | .createMatch clk provider found =>
      match w.runtime.createMatch F clk provider found with
      | .ok runtime => some { w with runtime := runtime }
      | .error _ => some w
  | .call c =>
      if c.Reports matchID userID then none else some { w with runtime := (w.runtime.call F c).2 }
  | .tick clk provider => some { w with runtime := (w.runtime.tick F clk provider).2 }

end Connections

/-! ## The property -/

/-- The player of the match as the engine has him. -/
def Runtime.player (matchID : MatchID) (userID : UserID) (r : Runtime) : Option PlayerState :=
  (r.find matchID).bind fun g => g.players.lookup userID

/-- The player is in the match and does not count as disconnected. -/
def Runtime.Present (matchID : MatchID) (userID : UserID) (r : Runtime) : Prop :=
  (r.player matchID userID).any fun p => Duel.Connected p

instance (matchID : MatchID) (userID : UserID) : DecidablePred (Runtime.Present matchID userID) :=
  fun _ => inferInstanceAs (Decidable (_ = true))

/-- The sweeps of a tick leave the player as he is. -/
def Game.Spares (userID : UserID) : Game → Prop
  | .duel m => ∀ now, (m.sweep now).players.lookup userID = m.players.lookup userID
  | .session _ => True

namespace Connections

/-- The steps of closed connections are over. -/
def Settled (w : Connections) : Prop :=
  ∀ c, w.places.lookup c ≠ some .ended ∧ w.places.lookup c ≠ some .marking

/-- The connection is open and bound. -/
def Bound (c : ConnID) (w : Connections) : Prop :=
  w.connID = some c ∧ w.places.lookup c = some .open_

/-- A connection is in the handler, past `MarkResumed` and before its binding. -/
def Resuming (w : Connections) : Prop := ∃ c, w.places.lookup c = some .resumed

/-- What a node keeps for a reconnected player: once the closed connections are done, the player behind
the bound connection is present, and no tick ends the match against him. -/
def KeepsPlayer (matchID : MatchID) (userID : UserID) (w : Connections) : Prop :=
  w.Settled → ∀ c, w.Bound c → w.runtime.Present matchID userID ∧
    ∀ g, w.runtime.find matchID = some g → g.Spares userID

instance (w : Connections) : Decidable w.Settled :=
  decidable_of_iff (∀ c place, w.places.lookup c = some place → place ≠ .ended ∧ place ≠ .marking)
    ⟨fun h c => ⟨fun hc => (h c _ hc).1 rfl, fun hc => (h c _ hc).2 rfl⟩,
      fun h c _ hc => ⟨fun hp => (h c).1 (hp ▸ hc), fun hp => (h c).2 (hp ▸ hc)⟩⟩

instance (w : Connections) : Decidable w.Resuming :=
  decidable_of_iff (¬ ∀ c place, w.places.lookup c = some place → place ≠ .resumed)
    ⟨fun h => by simpa [Resuming] using h, fun ⟨c, hc⟩ h => h c _ hc rfl⟩

instance {P : ConnID → Prop} [DecidablePred P] (w : Connections) :
    Decidable (∀ c, w.Bound c → P c) :=
  decidable_of_iff (∀ c ∈ w.connID, w.places.lookup c = some .open_ → P c)
    ⟨fun h c hc => h c hc.1 hc.2, fun h c hid hc => h c ⟨hid, hc⟩⟩

/-- `MarkDisconnected` of a closed connection comes while no other connection is open or about to
be. -/
def NoLateMark (w : Connections) : ConnOp → Prop
  | .mark .. => ¬ w.Resuming ∧ ∀ c, w.Bound c → False
  | _ => True

instance (w : Connections) : DecidablePred w.NoLateMark
  | .mark .. => inferInstanceAs (Decidable (_ ∧ _))
  | .connect .. | .upgradeFails .. | .bind .. | .end_ .. | .check .. | .createMatch .. | .call ..
  | .tick .. => .isTrue trivial

end Connections

variable {F : FloatMath} {matchID : MatchID} {userID : UserID}

/-! ## What the calls do to the player -/

/-- The hit points of a duel are in order, and a session sets no deadline. -/
def Game.Ok : Game → Prop
  | .duel m => Duel.HpInv m
  | .session s => s.player.disconnectDue = 0

/-- The player is in the match and connected. -/
def Game.Present (userID : UserID) (g : Game) : Prop :=
  ∃ p, g.players.lookup userID = some p ∧ Duel.Connected p

theorem present_iff {r : Runtime} :
    r.Present matchID userID ↔ ∃ g, r.find matchID = some g ∧ g.Present userID := by
  unfold Runtime.Present Runtime.player Game.Present
  simp only [Option.any_eq_true, Option.bind_eq_some_iff, decide_eq_true_eq]
  constructor
  · rintro ⟨p, ⟨g, hg, hu⟩, hp⟩
    exact ⟨g, hg, p, hu, hp⟩
  · rintro ⟨g, hg, p, hu, hp⟩
    exact ⟨p, ⟨g, hg, hu⟩, hp⟩

theorem present_session {s : Singleplayer.Session} :
    (Game.session s).Present userID ↔ s.player.userID = userID ∧ Duel.Connected s.player := by
  unfold Game.Present Game.players
  simp only [Assoc.lookup_insert, AList.lookup_empty]
  split_ifs with h
  · simp [h]
  · simp [Ne.symm h]

/-- What may become of the player of a session: the deadline stays unset, and only a disconnect
raises the flag. -/
structure SameSeat (disconnects : Prop) (s s' : Singleplayer.Session) : Prop where
  userID_eq : s'.player.userID = s.player.userID
  due : s.player.disconnectDue = 0 → s'.player.disconnectDue = 0
  flag : ¬ disconnects → s.player.disconnected = false → s'.player.disconnected = false

theorem SameSeat.refl (q : Prop) (s : Singleplayer.Session) : SameSeat q s s := ⟨rfl, id, fun _ => id⟩

theorem resolveRound_sameSeat (q : Prop) (now : ℕ) (s : Singleplayer.Session) :
    SameSeat q s (s.resolveRound F now) := by
  unfold Singleplayer.Session.resolveRound
  split
  · exact .refl q s
  · exact ⟨rfl, id, fun _ => id⟩

theorem submitGuess_sameSeat (q : Prop) (clk : Clock) (g : GuessPayload)
    (s : Singleplayer.Session) : SameSeat q s ((s.submitGuess F clk g).toOption.getD s) := by
  have hseat := resolveRound_sameSeat (F := F) q (clk.read 1) (s.recordGuess (clk.read 0) g)
  unfold Singleplayer.Session.submitGuess
  dsimp only
  split_ifs
  · exact .refl q s
  · exact .refl q s
  · exact .refl q s
  · exact .refl q s
  · exact ⟨hseat.userID_eq, fun _ => hseat.due rfl, fun hq _ => hseat.flag hq rfl⟩
  · exact ⟨rfl, fun _ => rfl, fun _ _ => rfl⟩

theorem advanceRound_sameSeat (q : Prop) (clk : Clock) (next : Except String LocationPoint)
    (u : UserID) (s : Singleplayer.Session) :
    SameSeat q s ((s.advanceRound clk next u).toOption.getD s) := by
  unfold Singleplayer.Session.advanceRound
  split_ifs
  · exact .refl q s
  · exact .refl q s
  · exact .refl q s
  · exact ⟨rfl, id, fun _ => id⟩
  · cases next with
    | error err => exact .refl q s
    | ok loc => exact ⟨rfl, id, fun _ => id⟩

theorem forfeit_sameSeat (q : Prop) (clk : Clock) (u : UserID) (s : Singleplayer.Session) :
    SameSeat q s ((s.forfeit clk u).toOption.getD s) := by
  unfold Singleplayer.Session.forfeit
  split_ifs
  · exact .refl q s
  · exact ⟨rfl, id, fun _ => id⟩

theorem setDisconnected_sameSeat (off : Bool) (clk : Clock) (u : UserID)
    (s : Singleplayer.Session) :
    SameSeat (off = true ∧ u = s.player.userID) s
      ((s.setDisconnected off clk u).toOption.getD s) := by
  unfold Singleplayer.Session.setDisconnected
  split_ifs with hu
  · exact .refl _ s
  · refine ⟨rfl, id, fun hq _ => ?_⟩
    have hoff : ¬ off = true := fun h => hq ⟨h, (not_not.1 hu).symm⟩
    simpa [Except.toOption] using hoff

/-- A call on a session. -/
theorem after_session (s : Singleplayer.Session) (c : Call) :
    ∃ s', (Game.session s).after F c = .session s' ∧
      SameSeat (∃ clk id, c = .markDisconnected clk id s.player.userID) s s' := by
  unfold Game.after
  cases c with
  | submitGuess clk g =>
      refine ⟨_, ?_, submitGuess_sameSeat (F := F) _ clk g s⟩
      simp only [Game.step, toOption_map_getD]
  | advanceRound clk next id u =>
      refine ⟨_, ?_, advanceRound_sameSeat _ clk next u s⟩
      simp only [Game.step, toOption_map_getD]
  | forfeit clk id u =>
      refine ⟨_, ?_, forfeit_sameSeat _ clk u s⟩
      simp only [Game.step, toOption_map_getD]
  | markDisconnected clk id u =>
      have h := setDisconnected_sameSeat true clk u s
      refine ⟨_, ?_, h.userID_eq, h.due, fun hq => h.flag ?_⟩
      · simp only [Game.step, toOption_map_getD, Singleplayer.Session.markDisconnected]
      · rintro ⟨-, rfl⟩
        exact hq ⟨clk, id, rfl⟩
  | markResumed clk id u =>
      have h := setDisconnected_sameSeat false clk u s
      refine ⟨_, ?_, h.userID_eq, h.due, fun _ => h.flag ?_⟩
      · simp only [Game.step, toOption_map_getD, Singleplayer.Session.markResumed]
      · simp

theorem Game.Ok.after {g : Game} (h : g.Ok) (c : Call) : (g.after F c).Ok := by
  cases g with
  | duel m =>
      obtain heq | ⟨mop, heq, -⟩ := after_duel (F := F) m c
      · rwa [heq]
      · rw [heq]
        exact Duel.HpInv.step h mop
  | session s =>
      obtain ⟨s', heq, hseat⟩ := after_session (F := F) s c
      rw [heq]
      exact hseat.due h

/-- A call keeps the player connected, unless it is a disconnect of that player. -/
theorem Game.Present.after {g : Game} (hok : g.Ok) (h : g.Present userID) {c : Call}
    (hc : ∀ clk id, c ≠ .markDisconnected clk id userID) : (g.after F c).Present userID := by
  cases g with
  | duel m =>
      obtain ⟨p, hu, hp⟩ := h
      obtain heq | ⟨mop, heq, hmop⟩ := after_duel (F := F) m c
      · rw [heq]
        exact ⟨p, hu, hp⟩
      · rw [heq]
        refine Duel.step_connected hok (fun hdis => ?_) hu hp
        obtain ⟨clk, id, rfl⟩ := hmop userID hdis
        exact hc clk id rfl
  | session s =>
      rw [present_session] at h
      obtain ⟨s', heq, hseat⟩ := after_session (F := F) s c
      rw [heq, present_session]
      refine ⟨hseat.userID_eq.trans h.1, hseat.flag ?_ h.2.1, hseat.due h.2.2⟩
      rintro ⟨clk, id, rfl⟩
      exact hc clk id (by rw [h.1])

theorem Game.Ok.tick {g : Game} (h : g.Ok) (clk : TickClock MatchID) (provider : Duel.RoundProvider)
    (id : MatchID) : (g.tick F clk provider id).Ok := by
  cases g with
  | duel m => exact Duel.HpInv.step h (.tick clk.now (clk.later id) (clk.now_le id) _)
  | session s => exact h

theorem Game.Present.tick {g : Game} (hok : g.Ok) (h : g.Present userID) (clk : TickClock MatchID)
    (provider : Duel.RoundProvider) (id : MatchID) : (g.tick F clk provider id).Present userID := by
  cases g with
  | duel m =>
      obtain ⟨p, hu, hp⟩ := h
      have hmop : ¬ (Duel.MatchOp.tick clk.now (clk.later id) (clk.now_le id)
          (provider m.id (m.currentIndex + 1))).Disconnects userID := fun h => h
      exact Duel.step_connected hok hmop hu hp
  | session s => exact h

theorem Game.Present.spares {g : Game} (h : g.Present userID) : g.Spares userID := by
  cases g with
  | duel m =>
      obtain ⟨p, hu, hp⟩ := h
      intro now
      exact (Duel.sweep_of_connected hu hp now).trans hu.symm
  | session s => trivial

theorem mem_session {s : Singleplayer.Session} :
    userID ∈ (Game.session s).players ↔ s.player.userID = userID := by
  rw [Game.players, AList.mem_insert]
  simp [eq_comm]

/-- Only a player of the match is resumed. -/
theorem mem_of_markResumed {g g' : Game} {clk : Clock} {id : MatchID}
    (h : g.step F (.markResumed clk id userID) = .ok g') : userID ∈ g.players := by
  cases g with
  | duel m =>
      obtain ⟨m', hm', -⟩ := map_eq_ok h
      unfold Duel.Match.markResumed at hm'
      split_ifs at hm' with hmem
      exact hmem
  | session s =>
      obtain ⟨s', hs', -⟩ := map_eq_ok h
      unfold Singleplayer.Session.markResumed Singleplayer.Session.setDisconnected at hs'
      split_ifs at hs' with hmem
      exact mem_session.2 (not_not.1 hmem)

/-- A player of the match is connected when he has been resumed. -/
theorem present_of_markResumed {g : Game} (hok : g.Ok) (h : userID ∈ g.players) (clk : Clock)
    (id : MatchID) : (g.after F (.markResumed clk id userID)).Present userID := by
  cases g with
  | duel m =>
      have hmem : userID ∈ m.players := h
      obtain ⟨p, hp⟩ := Assoc.mem_iff_exists.1 hmem
      have hafter : (Game.duel m).after F (.markResumed clk id userID) =
          .duel (m.step F (.markResumed clk userID)) := by
        simp only [Game.after, Game.step, toOption_map_getD, Duel.Match.step]
      rw [hafter, Duel.step_markResumed, if_pos hmem]
      exact ⟨{ p with disconnected := false, disconnectDue := 0 },
        by simp [Game.players, Duel.Match.setConnection, hp], rfl, rfl⟩
  | session s =>
      have hu := mem_session.1 h
      have hafter : (Game.session s).after F (.markResumed clk id userID) =
          .session ((s.setDisconnected false clk userID).toOption.getD s) := by
        simp only [Game.after, Game.step, toOption_map_getD, Singleplayer.Session.markResumed]
      rw [hafter, present_session]
      have hdue : s.player.disconnectDue = 0 := hok
      simp [Singleplayer.Session.setDisconnected, hu, Except.toOption, Duel.Connected, hdue]

/-! ## The runtime -/

def Runtime.Ok (r : Runtime) : Prop := ∀ id g, r.find id = some g → g.Ok

theorem Runtime.Ok.call {r : Runtime} (h : r.Ok) (c : Call) : (r.call F c).2.Ok := by
  intro id g hg
  rw [find_call, Option.map_eq_some_iff] at hg
  obtain ⟨g₀, hg₀, rfl⟩ := hg
  split_ifs
  · exact (h id g₀ hg₀).after c
  · exact h id g₀ hg₀

theorem Runtime.Present.call {r : Runtime} (hok : r.Ok) (h : r.Present matchID userID) {c : Call}
    (hc : ∀ clk, c ≠ .markDisconnected clk matchID userID) :
    (r.call F c).2.Present matchID userID := by
  rw [present_iff] at h ⊢
  obtain ⟨g, hg, hpresent⟩ := h
  rw [find_call, hg, Option.map_some]
  refine ⟨_, rfl, ?_⟩
  split_ifs with hid
  · refine hpresent.after (hok _ g hg) fun clk id hcall => ?_
    subst hcall
    exact hc clk (by rw [show id = matchID from hid])
  · exact hpresent

theorem Runtime.Ok.tick {r : Runtime} (h : r.Ok) (clk : TickClock MatchID)
    (provider : Duel.RoundProvider) : (r.tick F clk provider).2.Ok := by
  intro id g hg
  rw [find_tick, Option.map_eq_some_iff] at hg
  obtain ⟨g₀, hg₀, rfl⟩ := hg
  exact (h id g₀ hg₀).tick clk provider id

theorem Runtime.Present.tick {r : Runtime} (hok : r.Ok) (h : r.Present matchID userID)
    (clk : TickClock MatchID) (provider : Duel.RoundProvider) :
    (r.tick F clk provider).2.Present matchID userID := by
  rw [present_iff] at h ⊢
  obtain ⟨g, hg, hpresent⟩ := h
  rw [find_tick, hg, Option.map_some]
  exact ⟨_, rfl, hpresent.tick (hok _ g hg) clk provider matchID⟩

theorem ok_of_created {g : Game} {id : MatchID} {playerIDs : List UserID}
    (h : g.Created F id playerIDs) : g.Ok := by
  cases g with
  | duel m => exact Duel.hpInv_created h
  | session s =>
      obtain ⟨_, _, _, _, -, rfl⟩ := h
      rfl

theorem Runtime.Ok.createMatch {r r' : Runtime} (h : r.Ok) {clk : Clock}
    {provider : Duel.RoundProvider} {found : MatchFound}
    (hr : r.createMatch F clk provider found = .ok r') : r'.Ok := by
  obtain ⟨-, g, hcreated, -, -, hfind⟩ := find_create hr
  intro id g' hg'
  rw [hfind] at hg'
  split_ifs at hg'
  · cases hg'
    exact ok_of_created hcreated
  · exact h id g' hg'

theorem Runtime.Present.createMatch {r r' : Runtime} (h : r.Present matchID userID) {clk : Clock}
    {provider : Duel.RoundProvider} {found : MatchFound}
    (hr : r.createMatch F clk provider found = .ok r') : r'.Present matchID userID := by
  obtain ⟨hnone, g, -, -, -, hfind⟩ := find_create hr
  rw [present_iff] at h ⊢
  obtain ⟨g', hg', hpresent⟩ := h
  refine ⟨g', ?_, hpresent⟩
  rw [hfind, if_neg]
  · exact hg'
  · rintro rfl
    rw [hnone] at hg'
    cases hg'

/-- Whoever the handler lets in is connected. -/
theorem present_of_admits {r : Runtime} (hok : r.Ok) {clk : Clock}
    (h : Connections.admits matchID userID clk r = true) :
    (r.markResumed clk matchID userID).2.Present matchID userID := by
  have hmem : ∃ g, r.find matchID = some g ∧ userID ∈ g.players := by
    unfold Connections.admits at h
    split at h
    · next snap hans =>
        have hcall : (r.call .coarse (.markResumed clk matchID userID)).1 = .ok snap := hans
        obtain ⟨g, g', -, hg, hstep, -⟩ := Runtime.snapshot_of_call hcall
        exact ⟨g, hg, mem_of_markResumed hstep⟩
    · rw [Runtime.getSnapshot_eq] at h
      cases hg : r.find matchID with
      | none => simp [hg] at h
      | some g => exact ⟨g, rfl, by simpa [hg] using h⟩
  obtain ⟨g, hg, hu⟩ := hmem
  rw [present_iff]
  have hfind := Runtime.find_call (F := .coarse) r (.markResumed clk matchID userID) matchID
  rw [hg, Option.map_some, if_pos (by rfl)] at hfind
  exact ⟨_, hfind, present_of_markResumed (hok matchID g hg) hu clk matchID⟩

/-! ## Runs -/

namespace Connections

/-- The matches are in order, and with a connection that is resumed, or open and bound, the player
is connected. -/
structure Inv (matchID : MatchID) (userID : UserID) (w : Connections) : Prop where
  ok : w.runtime.Ok
  resuming : w.Resuming → w.runtime.Present matchID userID
  bound : ∀ c, w.Bound c → w.runtime.Present matchID userID

theorem inv_init (mode : MatchMode) : Inv matchID userID (init mode) := by
  refine ⟨fun id g hg => ?_, ?_, ?_⟩
  · unfold init at hg
    split_ifs at hg <;> cases hg
  · rintro ⟨c, hc⟩
    cases hc
  · rintro c ⟨hc, -⟩
    cases hc

/-- A step that brings no connection to the place of `c` but one, and keeps the player connected. -/
theorem Inv.frame {w w' : Connections} (h : Inv matchID userID w) (hok : w'.runtime.Ok)
    (hpresent : w.runtime.Present matchID userID → w'.runtime.Present matchID userID)
    (hresuming : w'.Resuming → w.Resuming) (hbound : ∀ c, w'.Bound c → w.Resuming ∨ w.Bound c) :
    Inv matchID userID w' := by
  refine ⟨hok, fun hr => hpresent (h.resuming (hresuming hr)), fun c hc => hpresent ?_⟩
  obtain hr | hb := hbound c hc
  · exact h.resuming hr
  · exact h.bound c hb

/-- Erasing or moving a connection to a place behind its read loop binds and resumes nothing. -/
theorem lookup_of_erase {w : Connections} {c c' : ConnID} {place : ConnPlace}
    (h : (w.places.erase c).lookup c' = some place) : w.places.lookup c' = some place := by
  rw [Assoc.lookup_erase] at h
  split_ifs at h
  exact h

theorem lookup_of_insert {w : Connections} {c c' : ConnID} {new place : ConnPlace}
    (hne : place ≠ new) (h : (w.places.insert c new).lookup c' = some place) :
    w.places.lookup c' = some place := by
  rw [Assoc.lookup_insert] at h
  split_ifs at h
  · exact absurd (Option.some.inj h).symm hne
  · exact h

theorem Inv.step {w w' : Connections} {op : ConnOp} (h : Inv matchID userID w)
    (hC : w.NoLateMark op) (hw : Connections.step F matchID userID w op = some w') :
    Inv matchID userID w' := by
  cases op with
  | connect clk c =>
      simp only [Connections.step] at hw
      split_ifs at hw with hmem hadmits
      · cases hw
        have hpresent := present_of_admits h.ok hadmits
        exact ⟨h.ok.call (F := F) (.markResumed clk matchID userID), fun _ => hpresent,
          fun _ _ => hpresent⟩
      · cases hw
        exact h.frame (h.ok.call (F := F) (.markResumed clk matchID userID))
          (fun hp => Runtime.Present.call (F := F) (c := .markResumed clk matchID userID) h.ok hp
            fun _ => nofun) id fun _ => .inr
  | upgradeFails c =>
      simp only [Connections.step] at hw
      split_ifs at hw
      cases hw
      refine h.frame h.ok id ?_ fun c' hb => .inr ⟨hb.1, lookup_of_erase hb.2⟩
      rintro ⟨c', hc'⟩
      exact ⟨c', lookup_of_erase hc'⟩
  | bind c =>
      simp only [Connections.step] at hw
      split_ifs at hw with hc
      cases hw
      refine h.frame h.ok id ?_ fun _ _ => .inl ⟨c, hc⟩
      exact fun _ => ⟨c, hc⟩
  | end_ c =>
      simp only [Connections.step] at hw
      split_ifs at hw
      cases hw
      refine h.frame h.ok id ?_ fun c' hb => .inr ⟨hb.1, lookup_of_insert (by decide) hb.2⟩
      rintro ⟨c', hc'⟩
      exact ⟨c', lookup_of_insert (by decide) hc'⟩
  | check c =>
      simp only [Connections.step] at hw
      split_ifs at hw
      cases hw
      unfold checkBinding
      split_ifs
      · refine h.frame h.ok id ?_ fun c' hb => .inr ⟨hb.1, lookup_of_erase hb.2⟩
        rintro ⟨c', hc'⟩
        exact ⟨c', lookup_of_erase hc'⟩
      · refine h.frame h.ok id ?_ fun c' hb => nomatch hb.1
        rintro ⟨c', hc'⟩
        exact ⟨c', lookup_of_insert (by decide) hc'⟩
  | mark clk c =>
      simp only [Connections.step] at hw
      split_ifs at hw
      cases hw
      -- nobody is left who could be taken for disconnected
      refine ⟨h.ok.call (F := F) (.markDisconnected clk matchID userID), ?_, ?_⟩
      · rintro ⟨c', hc'⟩
        exact absurd ⟨c', lookup_of_erase hc'⟩ hC.1
      · rintro c' ⟨hid, hc'⟩
        exact (hC.2 c' ⟨hid, lookup_of_erase hc'⟩).elim
  | createMatch clk provider found =>
      simp only [Connections.step] at hw
      cases hr : w.runtime.createMatch F clk provider found with
      | error err =>
          rw [hr] at hw
          cases hw
          exact h
      | ok r' =>
          rw [hr] at hw
          cases hw
          exact h.frame (h.ok.createMatch hr) (fun hp => hp.createMatch hr) id fun _ => .inr
  | call c =>
      simp only [Connections.step] at hw
      split_ifs at hw with hreports
      cases hw
      refine h.frame (h.ok.call c) (fun hp => Runtime.Present.call h.ok hp fun clk heq => ?_) id
        fun _ => .inr
      rw [heq] at hreports
      exact hreports ⟨rfl, rfl⟩
  | tick clk provider =>
      cases hw
      exact h.frame (h.ok.tick clk provider) (fun hp => hp.tick h.ok clk provider) id fun _ => .inr

theorem Inv.keepsPlayer {w : Connections} (h : Inv matchID userID w) :
    KeepsPlayer matchID userID w := by
  intro _ c hc
  have hpresent := h.bound c hc
  refine ⟨hpresent, fun g hg => ?_⟩
  obtain ⟨g', hg', hp⟩ := present_iff.1 hpresent
  rw [hg] at hg'
  cases hg'
  exact hp.spares

/-- In every run in which a closed connection is marked disconnected only while no other connection
is open or about to be, a player who is back is never taken for disconnected. -/
theorem keepsPlayer_of_noLateMark (F : FloatMath) (matchID : MatchID) (userID : UserID)
    (mode : MatchMode) (ops : List ConnOp)
    (hC : Run.Guarded (Connections.step F matchID userID) NoLateMark (init mode) ops) :
    Run.Always (Connections.step F matchID userID) (KeepsPlayer matchID userID) (init mode) ops :=
  (Run.always_of_invariant (fun _ _ _ h hC hw => Inv.step h hC hw) (inv_init mode) hC).mono
    fun _ h => h.keepsPlayer

/-- The match `m` of `u1` and `u2`. -/
def duelFound : MatchFound := { matchID := "m", players := ["u1", "u2"] }

/-- Connection `a` of `u1` comes and goes, and connection `b` follows. -/
def reconnectRun : List ConnOp :=
  [.createMatch (Duel.second 0) Duel.originProvider duelFound,
    .connect (Duel.second 1) "a", .bind "a", .end_ "a", .check "a", .mark (Duel.second 2) "a",
    .connect (Duel.second 3) "b", .bind "b"]

theorem keepsPlayer_reconnectRun :
    Run.Always (Connections.step .coarse "m" "u1") (KeepsPlayer "m" "u1") (init .duel)
      reconnectRun :=
  keepsPlayer_of_noLateMark .coarse "m" "u1" .duel reconnectRun (by decide +kernel)

/-- Connection `a` has checked the binding when `b` is resumed and bound, and then marks the player
disconnected. -/
def lateMarkRun : List ConnOp :=
  [.createMatch (Duel.second 0) Duel.originProvider duelFound,
    .connect (Duel.second 1) "a", .bind "a", .end_ "a", .check "a",
    .connect (Duel.second 2) "b", .bind "b", .mark (Duel.second 3) "a"]

theorem not_keepsPlayer_lateMarkRun :
    ¬ Run.Always (Connections.step .coarse "m" "u1") (KeepsPlayer "m" "u1") (init .duel)
      lateMarkRun := by
  have hrun : ¬ Run.Always (Connections.step .coarse "m" "u1")
      (fun w => w.Settled → ∀ c, w.Bound c → w.runtime.Present "m" "u1") (init .duel)
      lateMarkRun := by
    decide +kernel
  intro h
  exact hrun (h.mono fun w hw hsettled c hc => (hw hsettled c hc).1)

end Connections

end GeoDuels.GameplayNode
