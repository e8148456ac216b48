import GeoDuels.Duel.Creation

/-!
# Hit points of players and teams

`HpInv` is the invariant of all hit points: they are within their bounds, the teams of a team duel
partition its players, and while the match is live every player has the hit points of his team.  The
last part can fail when the match ends: a forfeit and the sweeps of a tick take the hit points of
players and leave those of their teams.
-/

namespace GeoDuels.Duel

variable {F : FloatMath}

structure HpInv (m : Match) : Prop where
  players : ∀ u p, m.players.lookup u = some p → InBounds p.hp
  teams : ∀ t team, m.teams.lookup t = some team → InBounds team.hp
  partitioned : m.mode = .teamDuel → Partitioned m.teams m.players
  mirroredLive : m.mode = .teamDuel → m.state = .live → Mirrored m.teams m.players

/-- The player stays in his team and his hit points do not grow. -/
def Weakens (p p' : PlayerState) : Prop := SameMember p p' ∧ Falls p.hp p'.hp

/-- The player stays in his team and keeps his hit points. -/
def Keeps (p p' : PlayerState) : Prop := SameMember p p' ∧ p'.hp = p.hp

theorem Keeps.weakens {p p' : PlayerState} (h : Keeps p p') : Weakens p p' := by
  refine ⟨h.1, ?_⟩
  rw [h.2]
  exact .refl _

theorem Plays.weakens {gain : ℤ} {p p' : PlayerState} (h : Plays gain p p') : Weakens p p' := by
  refine ⟨?_, h.falls⟩
  rw [SameMember, h.frame]

theorem inBounds_startingHP : InBounds startingHP := ⟨by decide, le_rfl⟩

theorem Mirrored.of_keeps {teams : Assoc TeamID TeamState} {players players' : Assoc UserID PlayerState}
    (h : Mirrored teams players) (hp : Assoc.Pointwise (fun _ => Keeps) players players') :
    Mirrored teams players' := by
  intro t team ht u hu
  obtain ⟨p, hup, hhp⟩ := h t team ht u hu
  obtain ⟨p', hup', hkeep⟩ := hp.left hup
  exact ⟨p', hup', by rw [hkeep.2, hhp]⟩

theorem hpInv_created {id : MatchID} {playerIDs : List UserID} {m : Match}
    (h : Created F id playerIDs m) : HpInv m := by
  have hsides := (isNew_of_created h).sides
  refine ⟨fun u p hu => ?_, fun t team ht => ?_, hsides.partitioned, fun hmode _ => ?_⟩
  · rw [(hsides.fresh u p hu).hp]
    exact inBounds_startingHP
  · rw [hsides.teamHP t team ht]
    exact inBounds_startingHP
  · intro t team ht u hu
    obtain ⟨p, hp, -⟩ := (hsides.partitioned hmode).team_eq t team ht u hu
    exact ⟨p, hp, by rw [(hsides.fresh u p hp).hp, hsides.teamHP t team ht]⟩

namespace HpInv

theorem inStep {m : Match} (h : HpInv m) (hlive : m.state = .live) (hmode : m.mode = .teamDuel) :
    TeamsInStep m := ⟨h.partitioned hmode, h.mirroredLive hmode hlive, h.teams⟩

/-- A write that leaves the teams and all hit points alone. -/
theorem frame {m m' : Match} (h : HpInv m) (hm : m'.mode = m.mode) (ht : m'.teams = m.teams)
    (hp : Assoc.Pointwise (fun _ => Keeps) m.players m'.players)
    (hs : m'.state = .live → m.state = .live) : HpInv m' := by
  refine ⟨fun u p' hu => ?_, ?_, ?_, ?_⟩
  · obtain ⟨p, hup, hkeep⟩ := hp.right hu
    rw [hkeep.2]
    exact h.players u p hup
  · rw [ht]
    exact h.teams
  · rw [hm, ht]
    exact fun hmode => (h.partitioned hmode).of_pointwise (.refl (fun _ => SameTeam.refl) _)
      (hp.mono fun _ _ _ hk => hk.1)
  · rw [hm, ht]
    exact fun hmode hlive => (h.mirroredLive hmode (hs hlive)).of_keeps hp

/-- A write that ends the match and takes hit points of players. -/
theorem ended {m m' : Match} (h : HpInv m) (hm : m'.mode = m.mode) (ht : m'.teams = m.teams)
    (hp : Assoc.Pointwise (fun _ => Weakens) m.players m'.players) (hs : m'.state = .ended) :
    HpInv m' := by
  refine ⟨fun u p' hu => ?_, ?_, ?_, ?_⟩
  · obtain ⟨p, hup, hweak⟩ := hp.right hu
    exact (hweak.2 (h.players u p hup)).1
  · rw [ht]
    exact h.teams
  · rw [hm, ht]
    exact fun hmode => (h.partitioned hmode).of_pointwise (.refl (fun _ => SameTeam.refl) _)
      (hp.mono fun _ _ _ hk => hk.1)
  · intro _ hlive
    exact absurd (hs.symm.trans hlive) (by decide)

end HpInv

/-! ## The writes, seen from a player -/

theorem zeroHP_weakens (out : PlayerState → Bool) (players : Assoc UserID PlayerState) :
    Assoc.Pointwise (fun _ => Weakens) players (zeroHP out players) := by
  refine Assoc.pointwise_mapVals fun _ p _ => ?_
  split_ifs
  · exact ⟨rfl, falls_zero _⟩
  · exact ⟨rfl, .refl _⟩

theorem keeps_refl (players : Assoc UserID PlayerState) :
    Assoc.Pointwise (fun _ => Keeps) players players := .refl (fun _ _ => ⟨rfl, rfl⟩) _

theorem freshGuesses_keeps (players : Assoc UserID PlayerState) :
    Assoc.Pointwise (fun _ => Keeps) players (freshGuesses players) :=
  Assoc.pointwise_mapVals fun _ _ _ => ⟨rfl, rfl⟩

theorem modify_keeps {f : PlayerState → PlayerState} (hf : ∀ p, Keeps p (f p)) (u : UserID)
    (players : Assoc UserID PlayerState) :
    Assoc.Pointwise (fun _ => Keeps) players (players.modify u f) :=
  Assoc.pointwise_modify (fun _ _ => ⟨rfl, rfl⟩) fun p _ => hf p

namespace HpInv

theorem announceLive {m : Match} (h : HpInv m) (now : ℕ) : HpInv (m.announceLive now) := by
  rcases announceLive_cases now m with heq | heq
  · rwa [heq]
  · rw [heq]
    exact h.frame rfl rfl (keeps_refl _) id

theorem recordGuess {m : Match} (h : HpInv m) (now : ℕ) (g : GuessPayload) :
    HpInv (m.recordGuess now g) := by
  refine h.frame rfl rfl ?_ id
  apply modify_keeps
  exact fun _ => ⟨rfl, rfl⟩

theorem setConnection {m : Match} (h : HpInv m) (u : UserID) (off : Bool) (due : ℤ)
    (activity : ℕ) : HpInv (m.setConnection u off due activity) := by
  refine h.frame rfl rfl ?_ id
  apply modify_keeps
  exact fun _ => ⟨rfl, rfl⟩

theorem sweep {m : Match} (h : HpInv m) (now : ℕ) : HpInv (m.sweep now) := by
  rcases sweep_eq now m with heq | ⟨out, activity, seq, -, heq⟩
  · rwa [heq]
  · rw [heq]
    exact h.ended rfl rfl (zeroHP_weakens out _) rfl

theorem resolveRound {m : Match} (h : HpInv m) (clk : Clock) : HpInv (m.resolveRound F clk) := by
  by_cases hlive : m.state = .live
  · obtain ⟨_, _, _, -, -, heq⟩ := resolveRound_live (F := F) hlive clk
    have hplays := resolution_plays (F := F) (m := m) (h.inStep hlive)
    have hteams := resolution_teams_pointwise (F := F) m
    rw [heq]
    refine ⟨fun u p' hu => ?_, fun t team' ht => ?_, fun hmode => ?_, fun hmode _ => ?_⟩
    · obtain ⟨p, hup, hplay⟩ := hplays.right hu
      exact (hplay.falls (h.players u p hup)).1
    · obtain ⟨team, hteam, -, hfalls⟩ := hteams.right ht
      exact (hfalls (h.teams t team hteam)).1
    · exact (h.partitioned hmode).of_pointwise (hteams.mono fun _ _ _ h => h.1)
        (hplays.mono fun _ _ _ h => h.weakens.1)
    · exact resolution_mirrored hmode (h.inStep hlive hmode)
  · rwa [resolveRound_of_not_live hlive]

theorem advanceRound {m : Match} (h : HpInv m) (hpending : m.pendingAdvance = true) (clk : Clock)
    (next : Except String LocationPoint) : HpInv (m.advanceRound clk next) := by
  rcases advanceRound_cases hpending clk next with ⟨_, heq⟩ | ⟨_, _, _, _, _, heq⟩
  · rw [heq]
    exact h.ended rfl rfl ((keeps_refl _).mono fun _ _ _ hk => hk.weakens) rfl
  · rw [heq]
    exact h.frame rfl rfl (freshGuesses_keeps _) id

theorem tickRound {m : Match} (h : HpInv m) (now : ℕ) (clk : Clock) :
    HpInv (m.tickRound F now clk) := by
  unfold Match.tickRound
  split_ifs
  · exact (h.announceLive now).resolveRound clk
  · exact h.announceLive now

theorem forfeit {m : Match} (h : HpInv m) (clk : Clock) (u : UserID) :
    HpInv (m.step F (.forfeit clk u)) := by
  rw [step_forfeit]
  split_ifs
  · exact h.ended rfl rfl (Assoc.pointwise_modify (fun _ _ => ⟨rfl, .refl _⟩)
      fun _ _ => ⟨rfl, falls_zero _⟩) rfl
  · exact h

theorem step {m : Match} (h : HpInv m) (mop : MatchOp) : HpInv (m.step F mop) := by
  cases mop with
  | submitGuess clk g =>
      rw [step_submitGuess]
      split_ifs
      · exact h.resolveRound _
      · exact (h.recordGuess _ _).resolveRound _
      · exact h.recordGuess _ _
      · exact h
  | tick now clk hle next =>
      rw [step_tick]
      split_ifs with hlive hpending
      · exact h
      · exact h.advanceRound hpending clk next
      · exact h
      · exact (h.tickRound now clk).sweep now
  | markDisconnected clk u =>
      rw [step_markDisconnected]
      split_ifs
      · exact h.setConnection _ _ _ _
      · exact h
  | markResumed clk u =>
      rw [step_markResumed]
      split_ifs
      · exact h.setConnection _ _ _ _
      · exact h
  | forfeit clk u => exact h.forfeit clk u

end HpInv

end GeoDuels.Duel
