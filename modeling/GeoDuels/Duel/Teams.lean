import GeoDuels.Duel.Monotone

/-!
# The hit points of teams and of their players

A team duel stores its hit points twice, with the teams and with the players, and the winner is read
off the players.  `TeamsMirror` says that the two agree.  The damage of a round keeps it; a forfeit
and the sweeps of a tick take the hit points of single players and leave those of their teams.
-/

namespace GeoDuels.Duel

variable {F : FloatMath}

/-! ## The mirror -/

/-- The players of a team duel are sorted into the teams, each exactly once, and have the hit points
of their team. -/
structure TeamsMirror (m : Match) : Prop where
  partitioned : m.mode = .teamDuel → Partitioned m.teams m.players
  nodup : m.mode = .teamDuel → ∀ t team, m.teams.lookup t = some team → team.players.Nodup
  mirrored : m.mode = .teamDuel → Mirrored m.teams m.players

instance : DecidablePred TeamsMirror := fun m =>
  decidable_of_iff ((m.mode = .teamDuel → Partitioned m.teams m.players) ∧
      (m.mode = .teamDuel → ∀ t team, m.teams.lookup t = some team → team.players.Nodup) ∧
      (m.mode = .teamDuel → Mirrored m.teams m.players))
    ⟨fun h => ⟨h.1, h.2.1, h.2.2⟩, fun h => ⟨h.1, h.2, h.3⟩⟩

/-- The step takes hit points from no single player of a team duel: it is no forfeit of a live one, and no
tick of a live round finds a player whose grace has run out or a stale match. -/
def NoSweep (m : Match) : MatchOp → Prop
  | .forfeit _ userID => m.mode = .teamDuel → ¬ (m.state = .live ∧ userID ∈ m.players)
  | .tick now _ _ _ => m.mode = .teamDuel → m.state = .live → m.pendingAdvance = false →
      (∀ u p, m.players.lookup u = some p → graceExpired now p = false) ∧ ¬ m.Stale now
  | _ => True

instance (m : Match) (mop : MatchOp) : Decidable (NoSweep m mop) :=
  match mop with
  | .forfeit .. => inferInstanceAs (Decidable (m.mode = .teamDuel → ¬ _))
  | .tick now _ _ _ => inferInstanceAs (Decidable (m.mode = .teamDuel → m.state = .live →
      m.pendingAdvance = false →
        (∀ u p, m.players.lookup u = some p → graceExpired now p = false) ∧ ¬ m.Stale now))
  | .submitGuess .. | .markDisconnected .. | .markResumed .. => .isTrue trivial

/-- The round of a tick changes no connection. -/
theorem tickRound_plays {m : Match} (h : HpInv m) (now : ℕ) (clk : Clock) :
    Assoc.Pointwise (fun _ p p' => ∃ gain, Plays gain p p') m.players (m.tickRound F now clk).players := by
  unfold Match.tickRound
  split_ifs
  · by_cases hlive : (m.announceLive now).state = .live
    · obtain ⟨_, _, _, -, -, heq⟩ := resolveRound_live (F := F) hlive clk
      rw [heq, ← announceLive_players now m]
      exact (resolution_plays ((h.announceLive now).inStep hlive)).mono fun _ _ _ hplay => ⟨_, hplay⟩
    · rw [resolveRound_of_not_live hlive, announceLive_players]
      exact .refl (fun _ p => ⟨0, .refl p⟩) _
  · rw [announceLive_players]
    exact .refl (fun _ p => ⟨0, .refl p⟩) _

theorem allDisconnected_of_plays {m m' : Match}
    (h : Assoc.Pointwise (fun _ p p' => ∃ gain, Plays gain p p') m.players m'.players) (hall : m'.allDisconnected = true) :
    m.allDisconnected = true := by
  refine Assoc.all_eq_true.2 fun u p hu => ?_
  obtain ⟨p', hu', _, hplay⟩ := h.left hu
  have hoff := Assoc.all_eq_true.1 hall u p' hu'
  rwa [hplay.frame] at hoff

/-- The sweeps of a tick without expired players and on a match that is not stale do nothing. -/
theorem sweep_tickRound {m : Match} (h : HpInv m) {now : ℕ} {clk : Clock} (hle : now ≤ clk.start)
    (hlive : m.state = .live)
    (hgrace : ∀ u p, m.players.lookup u = some p → graceExpired now p = false)
    (hstale : ¬ m.Stale now) : (m.tickRound F now clk).sweep now = m.tickRound F now clk := by
  have hplays := tickRound_plays (F := F) h now clk
  rcases sweep_cases now (m.tickRound F now clk) with
    ⟨heq, -⟩ | ⟨_, -, ⟨u, p', hu', hexp⟩, -⟩ | ⟨-, ⟨hall, hzero, hidle⟩, -⟩
  · exact heq
  · obtain ⟨p, hu, _, hplay⟩ := hplays.right hu'
    have hp := hgrace u p hu
    rw [hplay.frame] at hexp
    exact absurd (hexp.symm.trans hp) (by decide)
  · refine absurd ⟨allDisconnected_of_plays hplays hall, ?_⟩ hstale
    -- a resolution would have made the last activity as recent as the tick
    unfold Match.tickRound at hzero hidle
    split_ifs at hzero hidle
    · rw [← announceLive_state now m] at hlive
      obtain ⟨_, activity, _, -, hactivity, heq⟩ := resolveRound_live (F := F) hlive clk
      rw [heq] at hidle
      dsimp only at hidle
      omega
    · rw [announceLive_lastActivity] at hzero hidle
      exact ⟨hzero, hidle⟩

/-! ### Steps that keep the mirror -/

theorem mirrored_resolveRound {m : Match} (h : HpInv m) (hmode : m.mode = .teamDuel)
    (hm : Mirrored m.teams m.players) (clk : Clock) :
    Mirrored (m.resolveRound F clk).teams (m.resolveRound F clk).players := by
  by_cases hlive : m.state = .live
  · obtain ⟨_, _, _, -, -, heq⟩ := resolveRound_live (F := F) hlive clk
    rw [heq]
    exact resolution_mirrored hmode (h.inStep hlive hmode)
  · rwa [resolveRound_of_not_live hlive]

theorem mirrored_recordGuess {m : Match} (hm : Mirrored m.teams m.players) (now : ℕ)
    (g : GuessPayload) :
    Mirrored (m.recordGuess now g).teams (m.recordGuess now g).players := by
  refine hm.of_keeps ?_
  apply modify_keeps
  exact fun _ => ⟨rfl, rfl⟩

theorem mirrored_setConnection {m : Match} (hm : Mirrored m.teams m.players) (u : UserID)
    (off : Bool) (due : ℤ) (activity : ℕ) :
    Mirrored (m.setConnection u off due activity).teams (m.setConnection u off due activity).players := by
  refine hm.of_keeps ?_
  apply modify_keeps
  exact fun _ => ⟨rfl, rfl⟩

theorem mirrored_step {m : Match} {mop : MatchOp} (h : HpInv m) (hC : NoSweep m mop)
    (hmode : m.mode = .teamDuel) (hm : Mirrored m.teams m.players) :
    Mirrored (m.step F mop).teams (m.step F mop).players := by
  cases mop with
  | submitGuess clk g =>
      rw [step_submitGuess]
      split_ifs
      · exact mirrored_resolveRound h hmode hm _
      · refine mirrored_resolveRound (h.recordGuess _ _) ?_ (mirrored_recordGuess hm _ _) _
        exact hmode
      · exact mirrored_recordGuess hm _ _
      · exact hm
  | tick now clk hle next =>
      rw [step_tick]
      split_ifs with hlive hpending
      · exact hm
      · rcases advanceRound_cases hpending clk next with ⟨_, heq⟩ | ⟨_, _, _, _, _, heq⟩
        · rw [heq]
          exact hm
        · rw [heq]
          exact hm.of_keeps (freshGuesses_keeps _)
      · exact hm
      · obtain ⟨hgrace, hstale⟩ := hC hmode (not_not.1 hlive) (by simpa using hpending)
        rw [sweep_tickRound h hle (not_not.1 hlive) hgrace hstale]
        have hannounce : Mirrored (m.announceLive now).teams (m.announceLive now).players := by
          rcases announceLive_cases now m with heq | heq <;> rw [heq] <;> exact hm
        unfold Match.tickRound
        split_ifs
        · refine mirrored_resolveRound (h.announceLive now) ?_ hannounce clk
          rcases announceLive_cases now m with heq | heq <;> rw [heq] <;> exact hmode
        · exact hannounce
  | markDisconnected clk u =>
      rw [step_markDisconnected]
      split_ifs
      · exact mirrored_setConnection hm _ _ _ _
      · exact hm
  | markResumed clk u =>
      rw [step_markResumed]
      split_ifs
      · exact mirrored_setConnection hm _ _ _ _
      · exact hm
  | forfeit clk u =>
      rw [step_forfeit, if_neg (hC hmode)]
      exact hm

theorem TeamsMirror.step {m : Match} {mop : MatchOp} (h : HpInv m) (hm : TeamsMirror m)
    (hclock : Time.unixEpoch ≤ mop.start) (hC : NoSweep m mop) : TeamsMirror (m.step F mop) := by
  have hadv := step_advances (F := F) h hclock
  refine ⟨(h.step mop).partitioned, fun hmode t team' ht => ?_, fun hmode => ?_⟩
  · rw [hadv.same.2] at hmode
    obtain ⟨team, hteam, hsame, -⟩ := hadv.teams.right ht
    rw [hsame]
    exact hm.nodup hmode t team hteam
  · rw [hadv.same.2] at hmode
    exact mirrored_step h hC hmode (hm.mirrored hmode)

theorem teamsMirror_created {id : MatchID} {playerIDs : List UserID} {m : Match}
    (hnodup : playerIDs.Nodup) (h : Created F id playerIDs m) : TeamsMirror m := by
  have hinv := hpInv_created h
  have hnew := isNew_of_created h
  exact ⟨hinv.partitioned, fun _ => hnew.sides.nodup hnodup, fun hmode =>
    hinv.mirroredLive hmode hnew.live⟩

/-- In every run of the engine whose matches have distinct players, the players of a team duel keep
the hit points of their teams, if no step takes the hit points of single players. -/
theorem teamsMirror_of_noSweep {F : FloatMath} {t : ℕ} {ops : List Op}
    (hdistinct : ∀ op ∈ ops, op.Creates List.Nodup)
    (hC : Run.Guarded (World.step F) (EachStep NoSweep) (World.init t) ops) :
    Run.Always (World.step F) (AllMatches fun _ => TeamsMirror) (World.init t) ops :=
  always_of_matchInvariant (I := fun _ m => HpInv m ∧ TeamsMirror m)
    (fun _ _ _ hnodup h => ⟨hpInv_created h, teamsMirror_created hnodup h⟩)
    (fun _ _ mop hclock h hC => ⟨h.1.step mop, h.2.step h.1 hclock hC⟩) (fun _ _ h => h.2) hdistinct hC

/-- A team duel of `u1` and `u3` against `u2` and `u4`. -/
def fourPlayers : MatchOptions where
  mode := .teamDuel
  teams := ((((∅ : Assoc UserID TeamID).insert "u1" "a").insert "u2" "b").insert "u3" "a").insert
    "u4" "b"

/-- One guess in the first round, which the pressure timer ends, and the advance to the second. -/
def pressedRun : List Op :=
  [createAt 0 fourPlayers ["u1", "u2", "u3", "u4"], guessAt 3 "u1" 1, tickAt 20, tickAt 30]

theorem teamsMirror_pressedRun :
    Run.Always (World.step .coarse) (AllMatches fun _ => TeamsMirror) (World.init 0) pressedRun :=
  teamsMirror_of_noSweep (by decide +kernel) (by decide +kernel)

/-- A player forfeits: he loses his hit points, his team does not. -/
def forfeitRun : List Op :=
  [createAt 0 fourPlayers ["u1", "u2", "u3", "u4"], .forfeit (second 5) "m" "u1"]

theorem not_teamsMirror_forfeitRun :
    ¬ Run.Always (World.step .coarse) (AllMatches fun _ => TeamsMirror) (World.init 0)
      forfeitRun := by
  decide +kernel

end GeoDuels.Duel
