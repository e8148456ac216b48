import GeoDuels.Duel.Connections
import GeoDuels.GameplayNode.Runtime

/-!
# What the calls of a runtime do

One equation for each operation of the interface, in terms of the match it reaches: a call moves its
own match (`find_call`), a tick moves every match (`find_tick`), a creation adds one (`find_create`).
Below them, what never changes again once a match has ended.
-/

namespace GeoDuels.GameplayNode

variable {F : FloatMath}

/-! ## One match -/

namespace Game

/-- The match after a call, or the error that leaves it as it was. -/
def step (F : FloatMath) : Call → Game → Except String Game
  | .submitGuess clk g, .duel m => (m.submitGuess F clk g).map .duel
  | .submitGuess clk g, .session s => (s.submitGuess F clk g).map .session
  | .advanceRound .., .duel _ => .error "advance round is not supported for duel"
  | .advanceRound clk next _ userID, .session s => (s.advanceRound clk next userID).map .session
  | .forfeit clk _ userID, .duel m => (m.forfeit clk userID).map .duel
  | .forfeit clk _ userID, .session s => (s.forfeit clk userID).map .session
  | .markDisconnected clk _ userID, .duel m => (m.markDisconnected clk userID).map .duel
  | .markDisconnected clk _ userID, .session s => (s.markDisconnected clk userID).map .session
  | .markResumed clk _ userID, .duel m => (m.markResumed clk userID).map .duel
  | .markResumed clk _ userID, .session s => (s.markResumed clk userID).map .session

def after (F : FloatMath) (c : Call) (g : Game) : Game := (g.step F c).toOption.getD g

/-- The match, stored under `id`, after a tick. -/
def tick (F : FloatMath) (clk : TickClock MatchID) (provider : Duel.RoundProvider) (id : MatchID) :
    Game → Game
  | .duel m => .duel (m.tick F clk.now (clk.later id) (provider m.id (m.currentIndex + 1)))
  | .session s => .session s

end Game

/-- The match is one that an engine creates under `id` for the players. -/
def Game.Created (F : FloatMath) (id : MatchID) (playerIDs : List UserID) : Game → Prop
  | .duel m => Duel.Created F id playerIDs m
  | .session s => ∃ now playerID profiles firstRound, playerIDs = [playerID] ∧
      s = Singleplayer.newSession now id playerID profiles firstRound

@[simp] theorem Game.snapshot_players (clk : Clock) (g : Game) :
    (g.snapshot clk).players = g.players := by
  cases g <;> rfl

@[simp] theorem Game.snapshot_state (clk : Clock) (g : Game) : (g.snapshot clk).state = g.state := by
  cases g <;> rfl

@[simp] theorem Game.snapshot_mode (clk : Clock) (g : Game) : (g.snapshot clk).mode = g.mode := by
  cases g <;> rfl

@[simp] theorem Game.snapshot_roundResults (clk : Clock) (g : Game) :
    (g.snapshot clk).roundResults = g.roundResults := by
  cases g <;> rfl

theorem toOption_map_getD {α β : Type*} (f : α → β) (x : Except String α) (a : α) :
    ((x.map f).toOption.getD (f a)) = f (x.toOption.getD a) := by
  cases x <;> rfl

theorem map_eq_ok {α β : Type*} {f : α → β} {x : Except String α} {b : β}
    (h : x.map f = .ok b) : ∃ a, x = .ok a ∧ f a = b := by
  cases x with
  | error err => cases h
  | ok a => exact ⟨a, rfl, Except.ok.inj h⟩

/-! ## The calls -/

theorem lookup_onSession (clk : Clock) (matchID id : MatchID)
    (f : Singleplayer.Session → Except String Singleplayer.Session) (e : Singleplayer.Engine) :
    (e.onSession clk matchID f).2.sessions.lookup id =
      (e.sessions.lookup id).map fun s =>
        if matchID = id then (f s).toOption.getD s else s := by
  unfold Singleplayer.Engine.onSession
  by_cases hid : matchID = id
  · subst hid
    cases hs : e.sessions.lookup matchID with
    | none => simp [hs]
    | some s => cases hf : f s <;> simp [hs, hf, Except.toOption]
  · have hne : id ≠ matchID := fun h => hid h.symm
    simp only [if_neg hid, Option.map_id']
    split
    · rfl
    · split
      · rfl
      · exact Assoc.lookup_modify_ne hne _ _

namespace Runtime

/-- A call moves the match it names and no other one. -/
theorem find_call (r : Runtime) (c : Call) (id : MatchID) :
    (r.call F c).2.find id =
      (r.find id).map fun g => if c.matchID = id then g.after F c else g := by
  cases r with
  | duel mode e =>
      have hcall : ∀ (clk : Clock) (matchID : MatchID) (f : Duel.Match → Except String Duel.Match),
          c.matchID = matchID → (∀ m, Game.step F c (.duel m) = (f m).map .duel) →
          (Runtime.duel mode (e.onMatch clk matchID f).2).find id =
            ((Runtime.duel mode e).find id).map fun g =>
              if c.matchID = id then g.after F c else g := by
        intro clk matchID f hid hf
        simp only [find, Duel.lookup_onMatch, Option.map_map]
        congr 1
        funext m
        simp only [Function.comp_apply, Game.after, hf, toOption_map_getD, hid]
        split_ifs <;> rfl
      cases c with
      | submitGuess clk g => exact hcall clk g.matchID _ rfl fun _ => rfl
      | advanceRound clk next matchID u =>
          simp only [call, advanceRound, find, Option.map_map]
          congr 1
          funext m
          simp [Game.after, Game.step, Except.toOption]
      | forfeit clk matchID u => exact hcall clk matchID _ rfl fun _ => rfl
      | markDisconnected clk matchID u => exact hcall clk matchID _ rfl fun _ => rfl
      | markResumed clk matchID u => exact hcall clk matchID _ rfl fun _ => rfl
  | singleplayer e =>
      have hcall : ∀ (clk : Clock) (matchID : MatchID)
          (f : Singleplayer.Session → Except String Singleplayer.Session),
          c.matchID = matchID → (∀ s, Game.step F c (.session s) = (f s).map .session) →
          (Runtime.singleplayer (e.onSession clk matchID f).2).find id =
            ((Runtime.singleplayer e).find id).map fun g =>
              if c.matchID = id then g.after F c else g := by
        intro clk matchID f hid hf
        simp only [find, lookup_onSession, Option.map_map]
        congr 1
        funext s
        simp only [Function.comp_apply, Game.after, hf, toOption_map_getD, hid]
        split_ifs <;> rfl
      cases c with
      | submitGuess clk g => exact hcall clk g.matchID _ rfl fun _ => rfl
      | advanceRound clk next matchID u => exact hcall clk matchID _ rfl fun _ => rfl
      | forfeit clk matchID u => exact hcall clk matchID _ rfl fun _ => rfl
      | markDisconnected clk matchID u => exact hcall clk matchID _ rfl fun _ => rfl
      | markResumed clk matchID u => exact hcall clk matchID _ rfl fun _ => rfl

/-- A successful call has moved its match and answers with a snapshot of it. -/
theorem snapshot_of_call {r : Runtime} {c : Call} {snap : MatchSnapshot}
    (h : (r.call F c).1 = .ok snap) :
    ∃ g g' clk, r.find c.matchID = some g ∧ g.step F c = .ok g' ∧
      (r.call F c).2.find c.matchID = some g' ∧ snap = g'.snapshot clk := by
  cases r with
  | duel mode e =>
      have hcall : ∀ (clk : Clock) (matchID : MatchID) (f : Duel.Match → Except String Duel.Match),
          (∀ m, Game.step F c (.duel m) = (f m).map .duel) → (e.onMatch clk matchID f).1 = .ok snap →
          ∃ g g' clk', (Runtime.duel mode e).find matchID = some g ∧ g.step F c = .ok g' ∧
            (Runtime.duel mode (e.onMatch clk matchID f).2).find matchID = some g' ∧
            snap = g'.snapshot clk' := by
        intro clk matchID f hstep hok
        unfold Duel.Engine.onMatch at hok ⊢
        cases hm : e.allMatches.lookup matchID with
        | none => simp [hm] at hok
        | some m =>
            cases hf : f m with
            | error err => simp [hm, hf] at hok
            | ok m' =>
                simp only [hm, hf, Except.ok.injEq] at hok ⊢
                exact ⟨.duel m, .duel m', clk.drop 5, by simp [find, hm],
                  by rw [hstep, hf]; rfl, by simp [find, hm], hok.symm⟩
      cases c with
      | submitGuess clk g => exact hcall clk g.matchID _ (fun _ => rfl) h
      | advanceRound clk next matchID u => cases h
      | forfeit clk matchID u => exact hcall clk matchID _ (fun _ => rfl) h
      | markDisconnected clk matchID u => exact hcall clk matchID _ (fun _ => rfl) h
      | markResumed clk matchID u => exact hcall clk matchID _ (fun _ => rfl) h
  | singleplayer e =>
      have hcall : ∀ (clk : Clock) (matchID : MatchID)
          (f : Singleplayer.Session → Except String Singleplayer.Session),
          (∀ s, Game.step F c (.session s) = (f s).map .session) →
          (e.onSession clk matchID f).1 = .ok snap →
          ∃ g g' clk', (Runtime.singleplayer e).find matchID = some g ∧ g.step F c = .ok g' ∧
            (Runtime.singleplayer (e.onSession clk matchID f).2).find matchID = some g' ∧
            snap = g'.snapshot clk' := by
        intro clk matchID f hstep hok
        unfold Singleplayer.Engine.onSession at hok ⊢
        cases hs : e.sessions.lookup matchID with
        | none => simp [hs] at hok
        | some s =>
            cases hf : f s with
            | error err => simp [hs, hf] at hok
            | ok s' =>
                simp only [hs, hf, Except.ok.injEq] at hok ⊢
                exact ⟨.session s, .session s', clk.drop 2, by simp [find, hs],
                  by rw [hstep, hf]; rfl, by simp [find, hs], hok.symm⟩
      cases c with
      | submitGuess clk g => exact hcall clk g.matchID _ (fun _ => rfl) h
      | advanceRound clk next matchID u => exact hcall clk matchID _ (fun _ => rfl) h
      | forfeit clk matchID u => exact hcall clk matchID _ (fun _ => rfl) h
      | markDisconnected clk matchID u => exact hcall clk matchID _ (fun _ => rfl) h
      | markResumed clk matchID u => exact hcall clk matchID _ (fun _ => rfl) h

theorem getSnapshot_eq (r : Runtime) (clk : Clock) (matchID : MatchID) :
    r.getSnapshot clk matchID =
      match r.find matchID with
      | none => .error "match not found"
      | some g => .ok (g.snapshot clk) := by
  cases r with
  | duel mode e =>
      simp only [getSnapshot, Duel.Engine.getSnapshot, find]
      cases e.allMatches.lookup matchID <;> rfl
  | singleplayer e =>
      simp only [getSnapshot, Singleplayer.Engine.getSnapshot, find]
      cases e.sessions.lookup matchID <;> rfl

theorem find_tick (r : Runtime) (clk : TickClock MatchID) (provider : Duel.RoundProvider)
    (id : MatchID) : (r.tick F clk provider).2.find id = (r.find id).map (Game.tick F clk provider id) := by
  cases r with
  | duel mode e =>
      simp only [tick, find, Prod.map_snd, Duel.Engine.tick, Assoc.lookup_mapVals, Option.map_map]
      rfl
  | singleplayer e =>
      simp only [tick, find, Option.map_map]
      rfl

theorem startRoundTimer_mode (m : Duel.Match) : (Duel.startRoundTimer m).mode = m.mode := by
  unfold Duel.startRoundTimer
  dsimp only
  split_ifs <;> rfl

theorem mode_of_checkMode {mode mode' : MatchMode} {n : ℕ}
    (h : Duel.checkMode mode n = .ok mode') : mode' = if mode = .unset then .duel else mode := by
  unfold Duel.checkMode at h
  generalize (if mode = .unset then MatchMode.duel else mode) = checked at h ⊢
  cases checked with
  | duel | teamDuel | freeForAll =>
      dsimp only at h
      split_ifs at h
      exact (Except.ok.inj h).symm
  | unset | singleplayer | other => cases h

theorem session_of_create {clk : Clock} {provider : Option Singleplayer.RoundProvider}
    {id : MatchID} {playerIDs : List UserID} {profiles : Assoc UserID PlayerProfile}
    {e e' : Singleplayer.Engine} {s : Singleplayer.Session}
    (h : e.createMatch clk provider id playerIDs profiles = .ok (s, e')) :
    ∃ playerID firstRound, playerIDs = [playerID] ∧ id ∉ e.sessions ∧
      s = Singleplayer.newSession (clk.read 0) id playerID profiles firstRound ∧
      e' = ⟨e.sessions.insert id s⟩ := by
  unfold Singleplayer.Engine.createMatch at h
  split at h
  · split at h
    · cases h
    · split at h
      · cases h
      · split_ifs at h with hid
        simp only [Except.ok.injEq, Prod.mk.injEq] at h
        obtain ⟨rfl, rfl⟩ := h
        exact ⟨_, _, rfl, hid, rfl, rfl⟩
  · cases h

/-- A creation adds one live match of the runtime's mode. -/
theorem find_create {r r' : Runtime} {clk : Clock} {provider : Duel.RoundProvider}
    {found : MatchFound} (h : r.createMatch F clk provider found = .ok r') :
    r.find found.matchID = none ∧ ∃ g, g.Created F found.matchID found.players ∧
      g.state = .live ∧ g.mode = r.mode ∧
      ∀ id, r'.find id = if id = found.matchID then some g else r.find id := by
  cases r with
  | duel mode e =>
      simp only [createMatch] at h
      obtain ⟨⟨m, e'⟩, hc, rfl⟩ := map_eq_ok h
      obtain ⟨mode', firstRound, hmode, hid, he', -, hm⟩ := Duel.createMatchWithOptions_ok hc
      have hnew := Duel.isNew_of_created ⟨_, _, _, _, e, e', hc⟩
      refine ⟨?_, .duel m, ⟨_, _, _, _, e, e', hc⟩, hnew.live, ?_, fun id => ?_⟩
      · simp [find, AList.lookup_eq_none.2 hid]
      · have hmatch : m.mode = mode' := by
          rw [hm, Duel.newMatch, startRoundTimer_mode]
        have hset : (Runtime.duel mode e).mode ≠ .unset := by
          by_cases hunset : mode = .unset <;> simp [Runtime.mode, hunset]
        rw [Game.mode, hmatch, mode_of_checkMode hmode, if_neg hset]
      · simp only [find, he', Assoc.lookup_insert]
        split_ifs <;> rfl
  | singleplayer e =>
      simp only [createMatch] at h
      obtain ⟨⟨s, e'⟩, hc, rfl⟩ := map_eq_ok h
      obtain ⟨playerID, firstRound, hplayers, hid, hs, he'⟩ := session_of_create hc
      refine ⟨?_, .session s, ⟨_, playerID, _, _, hplayers, hs⟩, ?_, rfl, fun id => ?_⟩
      · simp [find, AList.lookup_eq_none.2 hid]
      · rw [hs]
        rfl
      · simp only [find, he', Assoc.lookup_insert]
        split_ifs <;> rfl

end Runtime

/-- A call on a duel is a step of its engine. -/
theorem after_duel (m : Duel.Match) (c : Call) :
    (Game.duel m).after F c = .duel m ∨
      ∃ mop : Duel.MatchOp, (Game.duel m).after F c = .duel (m.step F mop) ∧
        (∀ u, mop.Disconnects u → ∃ clk id, c = .markDisconnected clk id u) := by
  unfold Game.after
  cases c with
  | submitGuess clk g =>
      refine .inr ⟨.submitGuess clk g, ?_, fun u h => h.elim⟩
      simp only [Game.step, toOption_map_getD, Duel.Match.step]
  | advanceRound clk next id u => exact .inl rfl
  | forfeit clk id u =>
      refine .inr ⟨.forfeit clk u, ?_, fun u h => h.elim⟩
      simp only [Game.step, toOption_map_getD, Duel.Match.step]
  | markDisconnected clk id u =>
      refine .inr ⟨.markDisconnected clk u, ?_, ?_⟩
      · simp only [Game.step, toOption_map_getD, Duel.Match.step]
      · rintro v rfl
        exact ⟨clk, id, rfl⟩
  | markResumed clk id u =>
      refine .inr ⟨.markResumed clk u, ?_, fun u h => h.elim⟩
      simp only [Game.step, toOption_map_getD, Duel.Match.step]

/-! ## Matches that have ended -/

/-- The score and the hit points of a player. -/
def SameScores (p p' : PlayerState) : Prop := p'.hp = p.hp ∧ p'.totalScore = p.totalScore

/-- The match has ended, with the results and the scores of before. -/
structure Game.Kept (g g' : Game) : Prop where
  ended : g'.state = .ended
  results : g'.roundResults = g.roundResults
  players : Assoc.Pointwise (fun _ => SameScores) g.players g'.players

/-- What becomes of a match: it keeps its mode, and once it has ended also its results. -/
structure Game.Moves (g g' : Game) : Prop where
  mode_eq : g'.mode = g.mode
  kept : g.state = .ended → g.Kept g'

theorem sameScores_refl (players : Assoc UserID PlayerState) :
    Assoc.Pointwise (fun _ => SameScores) players players := .refl (fun _ _ => ⟨rfl, rfl⟩) _

theorem Game.Moves.refl (g : Game) : g.Moves g :=
  ⟨rfl, fun h => ⟨h, rfl, sameScores_refl _⟩⟩

theorem resolveRound_mode (clk : Clock) (m : Duel.Match) : (m.resolveRound F clk).mode = m.mode := by
  by_cases hlive : m.state = .live
  · obtain ⟨_, _, _, -, -, heq⟩ := Duel.resolveRound_live (F := F) hlive clk
    rw [heq]
  · rw [Duel.resolveRound_of_not_live hlive]

theorem announceLive_mode (now : ℕ) (m : Duel.Match) : (m.announceLive now).mode = m.mode := by
  obtain h | h := Duel.announceLive_cases now m <;> rw [h]

theorem tickRound_mode (now : ℕ) (clk : Clock) (m : Duel.Match) :
    (m.tickRound F now clk).mode = m.mode := by
  unfold Duel.Match.tickRound
  split_ifs
  · rw [resolveRound_mode, announceLive_mode]
  · exact announceLive_mode now m

theorem sweep_mode (now : ℕ) (m : Duel.Match) : (m.sweep now).mode = m.mode := by
  obtain heq | ⟨_, _, _, -, heq⟩ := Duel.sweep_eq now m <;> rw [heq]

theorem step_mode (m : Duel.Match) (mop : Duel.MatchOp) : (m.step F mop).mode = m.mode := by
  cases mop with
  | submitGuess clk g =>
      rw [Duel.step_submitGuess]
      split_ifs
      · exact resolveRound_mode _ m
      · exact resolveRound_mode _ _
      · rfl
      · rfl
  | tick now clk hle next =>
      rw [Duel.step_tick]
      split_ifs with hlive hpending
      · rfl
      · obtain ⟨_, heq⟩ | ⟨_, _, _, _, _, heq⟩ := Duel.advanceRound_cases hpending clk next <;>
          rw [heq]
      · rfl
      · rw [sweep_mode, tickRound_mode]
  | markDisconnected clk u =>
      rw [Duel.step_markDisconnected]
      split_ifs <;> rfl
  | markResumed clk u =>
      rw [Duel.step_markResumed]
      split_ifs <;> rfl
  | forfeit clk u =>
      rw [Duel.step_forfeit]
      split_ifs <;> rfl

theorem setConnection_kept {m : Duel.Match} (h : m.state = .ended) (u : UserID) (off : Bool)
    (due : ℤ) (activity : ℕ) : (Game.duel m).Kept (.duel (m.setConnection u off due activity)) :=
  ⟨h, rfl, Assoc.pointwise_modify (fun _ _ => ⟨rfl, rfl⟩) fun _ _ => ⟨rfl, rfl⟩⟩

theorem step_kept {m : Duel.Match} (h : m.state = .ended) (mop : Duel.MatchOp) :
    (Game.duel m).Kept (.duel (m.step F mop)) := by
  have hlive : m.state ≠ .live := by rw [h]; decide
  have hself : (Game.duel m).Kept (.duel m) := (Game.Moves.refl (.duel m)).kept h
  cases mop with
  | submitGuess clk g =>
      have hadmits : ¬ m.Admits clk g := fun hadmits => hlive hadmits.1
      have hrecords : ¬ m.Records clk g := fun hrecords => hlive hrecords.1.1
      rw [Duel.step_submitGuess, if_neg fun h => hadmits h.1, if_neg hrecords]
      exact hself
  | tick now clk hle next =>
      rw [Duel.step_tick, if_pos hlive]
      exact hself
  | markDisconnected clk u =>
      rw [Duel.step_markDisconnected]
      split_ifs
      · exact setConnection_kept h _ _ _ _
      · exact hself
  | markResumed clk u =>
      rw [Duel.step_markResumed]
      split_ifs
      · exact setConnection_kept h _ _ _ _
      · exact hself
  | forfeit clk u =>
      rw [Duel.step_forfeit, if_neg fun h => hlive h.1]
      exact hself

theorem pointwise_session {R : PlayerState → PlayerState → Prop} {s s' : Singleplayer.Session}
    (hu : s'.player.userID = s.player.userID) (h : R s.player s'.player) :
    Assoc.Pointwise (fun _ => R) (Game.session s).players (Game.session s').players := by
  refine .of_lookup (fun u p hp => ?_) fun u hu' => ?_
  · simp only [Game.players, Assoc.lookup_insert, AList.lookup_empty] at hp ⊢
    rw [hu]
    split_ifs at hp ⊢ with heq
    cases hp
    exact ⟨_, rfl, h⟩
  · simp only [Game.players, Assoc.lookup_insert, AList.lookup_empty] at hu' ⊢
    rw [hu]
    split_ifs at hu' ⊢
    rfl

/-- A call on an ended session. -/
theorem session_kept {s : Singleplayer.Session} (h : s.state = .ended) (c : Call) :
    (Game.session s).Kept ((Game.session s).after F c) := by
  have hlive : s.state ≠ .live := by rw [h]; decide
  have hself : (Game.session s).Kept (.session s) := (Game.Moves.refl (.session s)).kept h
  have hflag : ∀ off clk u, (Game.session s).Kept
      (.session ((s.setDisconnected off clk u).toOption.getD s)) := by
    intro off clk u
    unfold Singleplayer.Session.setDisconnected
    split_ifs
    · exact hself
    · exact ⟨h, rfl, pointwise_session rfl ⟨rfl, rfl⟩⟩
  unfold Game.after
  cases c with
  | submitGuess clk g =>
      simp only [Game.step, toOption_map_getD, Singleplayer.Session.submitGuess, if_pos hlive]
      exact hself
  | advanceRound clk next id u =>
      simp only [Game.step, toOption_map_getD, Singleplayer.Session.advanceRound, if_pos hlive]
      split_ifs <;> exact hself
  | forfeit clk id u =>
      simp only [Game.step, toOption_map_getD, Singleplayer.Session.forfeit]
      split_ifs
      · exact hself
      · exact ⟨rfl, rfl, pointwise_session rfl ⟨rfl, rfl⟩⟩
  | markDisconnected clk id u =>
      simp only [Game.step, toOption_map_getD]
      exact hflag true clk u
  | markResumed clk id u =>
      simp only [Game.step, toOption_map_getD]
      exact hflag false clk u

theorem Game.moves_after (g : Game) (c : Call) : g.Moves (g.after F c) := by
  cases g with
  | duel m =>
      obtain heq | ⟨mop, heq, -⟩ := after_duel (F := F) m c
      · rw [heq]
        exact .refl _
      · rw [heq]
        exact ⟨step_mode m mop, fun h => step_kept h mop⟩
  | session s =>
      refine ⟨?_, fun h => session_kept h c⟩
      unfold Game.after
      cases c <;> simp only [Game.step, toOption_map_getD] <;> rfl

theorem Game.moves_tick (g : Game) (clk : TickClock MatchID) (provider : Duel.RoundProvider)
    (id : MatchID) : g.Moves (g.tick F clk provider id) := by
  cases g with
  | duel m =>
      exact ⟨step_mode (F := F) m (.tick clk.now (clk.later id) (clk.now_le id) _),
        fun h => step_kept h (.tick clk.now (clk.later id) (clk.now_le id) _)⟩
  | session s => exact .refl _

end GeoDuels.GameplayNode
