import GeoDuels.Duel.Deadline
import GeoDuels.Duel.Loops

/-!
# The sides of a match

Who plays against whom: a duel has at most two players, and a team duel has the teams `a` and `b`
with members in each (`Seated`).  While such a match is live, nobody is without hit points.
-/

namespace GeoDuels.Duel

variable {F : FloatMath}

/-- While the match is live, nobody is without hit points. -/
def Alive (m : Match) : Prop :=
  m.mode ≠ .freeForAll → m.state = .live → ∀ u p, m.players.lookup u = some p → 0 < p.hp

structure Seated (m : Match) : Prop extends HpInv m where
  pair : m.mode = .duel → ∀ u v w, u ∈ m.players → v ∈ m.players → w ∈ m.players → u ≠ v →
    w = u ∨ w = v
  two : m.mode = .teamDuel → m.teams.keys.length = 2
  sides : ∀ t ∈ m.teams, t = "a" ∨ t = "b"
  manned : ∀ t team, m.teams.lookup t = some team → team.players ≠ []
  alive : Alive m

/-! ## New matches -/

theorem keys_joinTeam (acc : Assoc TeamID TeamState × Assoc UserID PlayerState) (e : UserID × ℕ) :
    (joinTeam acc e).1.keys = acc.1.keys := by
  unfold joinTeam
  split
  · rfl
  · exact Assoc.keys_modify _ _ _

theorem keys_foldl_joinTeam (es : List (UserID × ℕ))
    (acc : Assoc TeamID TeamState × Assoc UserID PlayerState) :
    (es.foldl joinTeam acc).1.keys = acc.1.keys := by
  induction es generalizing acc with
  | nil => rfl
  | cons e es ih => rw [List.foldl_cons, ih, keys_joinTeam]

/-- The teams that are built: `a` and `b`, without those that stay empty. -/
theorem lookup_buildTeams {mode : MatchMode} {playerIDs : List UserID}
    {players : Assoc UserID PlayerState} {t : TeamID} {team : TeamState}
    (h : (buildTeams mode playerIDs players).1.lookup t = some team) :
    (t = "a" ∨ t = "b") ∧ team.players ≠ [] := by
  unfold buildTeams at h
  split_ifs at h with hmode
  · simp at h
  · dsimp only at h
    rw [Assoc.lookup_filter, Option.filter_eq_some_iff] at h
    obtain ⟨hlookup, hmanned⟩ := h
    refine ⟨?_, by simpa using hmanned⟩
    have hkey := Assoc.mem_keys_iff_exists.2 ⟨team, hlookup⟩
    rw [keys_foldl_joinTeam, ← AList.mem_keys, AList.mem_insert, AList.mem_insert] at hkey
    rcases hkey with rfl | rfl | hnone
    · exact .inl rfl
    · exact .inr rfl
    · exact absurd hnone (AList.notMem_empty _)

theorem newMatch_sides (clk : Clock) (mode : MatchMode) (id : MatchID) (playerIDs : List UserID)
    (opts : MatchOptions) (loc : LocationPoint) (teams : Assoc TeamID TeamState)
    (players : Assoc UserID PlayerState) :
    (newMatch F clk mode id playerIDs opts loc teams players).mode = mode ∧
      (newMatch F clk mode id playerIDs opts loc teams players).teams = teams := by
  unfold newMatch startRoundTimer
  dsimp only
  split_ifs <;> exact ⟨rfl, rfl⟩

theorem seated_created {id : MatchID} {playerIDs : List UserID} {m : Match}
    (h : Created F id playerIDs m) : Seated m := by
  have hnew := isNew_of_created h
  have houtcome := outcomeInv_created h
  obtain ⟨clk, provider, profiles, opts, e, e', hc⟩ := h
  obtain ⟨mode, firstRound, -, -, -, htwo, heq⟩ := createMatchWithOptions_ok hc
  have hmode := congrArg Match.mode heq
  have hteams := congrArg Match.teams heq
  rw [(newMatch_sides ..).1] at hmode
  rw [(newMatch_sides ..).2] at hteams
  refine ⟨houtcome.toHpInv, houtcome.pair, fun hduel => ?_, fun t ht => ?_, fun t team ht => ?_,
    fun _ _ u p hu => ?_⟩
  · rw [hteams]
    exact not_not.1 fun hne => htwo ⟨hmode.symm.trans hduel, hne⟩
  · rw [hteams] at ht
    obtain ⟨team, hteam⟩ := Assoc.mem_iff_exists.1 ht
    exact (lookup_buildTeams hteam).1
  · rw [hteams] at ht
    exact (lookup_buildTeams ht).2
  · rw [(hnew.sides.fresh u p hu).hp]
    decide

/-! ## The writes -/

namespace Alive

theorem ended {m' : Match} (hs : m'.state = .ended) : Alive m' := by
  intro _ hlive
  rw [hs] at hlive
  cases hlive

/-- A write that leaves all hit points alone. -/
theorem frame {m m' : Match} (h : Alive m) (hm : m'.mode = m.mode)
    (hs : m'.state = .live → m.state = .live)
    (hp : Assoc.Pointwise (fun _ => Keeps) m.players m'.players) : Alive m' := by
  intro hmode hlive u p' hu
  obtain ⟨p, hup, hkeep⟩ := hp.right hu
  rw [hm] at hmode
  rw [hkeep.2]
  exact h hmode (hs hlive) u p hup

theorem announceLive {m : Match} (h : Alive m) (now : ℕ) : Alive (m.announceLive now) := by
  rcases announceLive_cases now m with heq | heq
  · rwa [heq]
  · rw [heq]
    exact h.frame rfl id (keeps_refl _)

theorem recordGuess {m : Match} (h : Alive m) (now : ℕ) (g : GuessPayload) :
    Alive (m.recordGuess now g) := by
  refine h.frame rfl id ?_
  apply modify_keeps
  exact fun _ => ⟨rfl, rfl⟩

theorem setConnection {m : Match} (h : Alive m) (u : UserID) (off : Bool) (due : ℤ)
    (activity : ℕ) : Alive (m.setConnection u off due activity) := by
  refine h.frame rfl id ?_
  apply modify_keeps
  exact fun _ => ⟨rfl, rfl⟩

/-- A round that takes somebody's last hit points ends the match. -/
theorem resolveRound {m : Match} (h : Alive m) (clk : Clock) : Alive (m.resolveRound F clk) := by
  by_cases hlive : m.state = .live
  · obtain ⟨_, _, _, -, -, heq⟩ := resolveRound_live (F := F) hlive clk
    rw [heq]
    exact fun hmode hlive' u p hu => resolution_alive (m := m) hmode hlive' hu
  · rwa [resolveRound_of_not_live hlive]

theorem advanceRound {m : Match} (h : Alive m) (hpending : m.pendingAdvance = true) (clk : Clock)
    (next : Except String LocationPoint) : Alive (m.advanceRound clk next) := by
  rcases advanceRound_cases hpending clk next with ⟨_, heq⟩ | ⟨_, _, _, _, _, heq⟩
  · rw [heq]
    exact ended rfl
  · rw [heq]
    exact h.frame rfl id (freshGuesses_keeps _)

theorem tick {m : Match} (h : Alive m) (now : ℕ) (clk : Clock) :
    Alive ((m.tickRound F now clk).sweep now) := by
  have hround : Alive (m.tickRound F now clk) := by
    unfold Match.tickRound
    split_ifs
    · exact (h.announceLive now).resolveRound clk
    · exact h.announceLive now
  rcases sweep_eq now (m.tickRound F now clk) with heq | ⟨_, _, _, -, heq⟩
  · rwa [heq]
  · rw [heq]
    exact ended rfl

theorem step {m : Match} (h : Alive m) (mop : MatchOp) : Alive (m.step F mop) := by
  cases mop with
  | submitGuess clk g =>
      rw [step_submitGuess]
      split_ifs
      · exact h.resolveRound _
      · exact (h.recordGuess _ _).resolveRound _
      · exact h.recordGuess _ _
      · exact h
  | tick now clk hle next =>
      rw [step_tick]
      split_ifs with hlive hpending
      · exact h
      · exact h.advanceRound hpending clk next
      · exact h
      · exact h.tick now clk
  | markDisconnected clk u =>
      rw [step_markDisconnected]
      split_ifs
      · exact h.setConnection _ _ _ _
      · exact h
  | markResumed clk u =>
      rw [step_markResumed]
      split_ifs
      · exact h.setConnection _ _ _ _
      · exact h
  | forfeit clk u =>
      rw [step_forfeit]
      split_ifs
      · exact ended rfl
      · exact h

end Alive

namespace Seated

/-- A match that goes on has the same players and the same members in its teams. -/
theorem of_advances {gains : UserID → ℤ} {m m' : Match} (h : Seated m) (hinv : HpInv m')
    (hadv : Advances gains m m') (halive : Alive m') : Seated m' := by
  refine ⟨hinv, ?_, fun hmode => ?_, fun t ht => ?_, fun t team' ht => ?_, halive⟩
  · rw [hadv.same.2]
    simp only [hadv.players.mem_iff]
    exact h.pair
  · rw [(Assoc.keys_perm fun _ => hadv.teams.mem_iff).length_eq]
    exact h.two (hadv.same.2.symm.trans hmode)
  · exact h.sides t (hadv.teams.mem_iff.1 ht)
  · obtain ⟨team, hteam, hsame, -⟩ := hadv.teams.right ht
    rw [hsame]
    exact h.manned t team hteam

theorem announceLive {m : Match} (h : Seated m) (now : ℕ) : Seated (m.announceLive now) :=
  h.of_advances (h.toHpInv.announceLive now) (announceLive_advances now m) (h.alive.announceLive now)

theorem recordGuess {m : Match} (h : Seated m) (now : ℕ) (g : GuessPayload) :
    Seated (m.recordGuess now g) :=
  h.of_advances (h.toHpInv.recordGuess now g) (recordGuess_advances now g m)
    (h.alive.recordGuess now g)

theorem step {m : Match} (h : Seated m) {mop : MatchOp} (hclock : Time.unixEpoch ≤ mop.start) :
    Seated (m.step F mop) :=
  h.of_advances (h.toHpInv.step mop) (step_advances h.toHpInv hclock) (h.alive.step mop)

/-! ### What a team duel looks like -/

/-- Every team of a live team duel has hit points. -/
theorem team_alive {m : Match} (h : Seated m) (hmode : m.mode = .teamDuel) (hlive : m.state = .live)
    {t : TeamID} {team : TeamState} (ht : m.teams.lookup t = some team) : 0 < team.hp := by
  obtain ⟨u, hu⟩ := List.exists_mem_of_ne_nil _ (h.manned t team ht)
  obtain ⟨p, hp, hhp⟩ := h.mirroredLive hmode hlive t team ht u hu
  rw [← hhp]
  exact h.alive (by rw [hmode]; decide) hlive u p hp

/-- Every team has an opponent. -/
theorem opponent {m : Match} (h : Seated m) (hmode : m.mode = .teamDuel) (t : TeamID) :
    ∃ t' team', t' ≠ t ∧ m.teams.lookup t' = some team' := by
  obtain ⟨hA, hB⟩ := mem_teams_of_two h.sides (h.two hmode)
  rcases eq_or_ne t "a" with rfl | hne
  · obtain ⟨team, hteam⟩ := Assoc.mem_iff_exists.1 hB
    exact ⟨"b", team, by decide, hteam⟩
  · obtain ⟨team, hteam⟩ := Assoc.mem_iff_exists.1 hA
    exact ⟨"a", team, hne.symm, hteam⟩

end Seated

/-! ## Calls of `resolveRound` -/

/-- The matches that a run calls `resolveRound` with: when a guess comes too late, when the last guess
is there, and when a tick finds the round over. -/
inductive Called (F : FloatMath) (t : ℕ) (ops : List Op) (id : MatchID) : Match → Prop
  | late {m : Match} (clk : Clock) (g : GuessPayload) (reached : Reached F t ops id m)
      (admits : m.Admits clk g) (expired : m.roundExpired (clk.read 1) = true) : Called F t ops id m
  | last {m : Match} (clk : Clock) (g : GuessPayload) (reached : Reached F t ops id m)
      (records : m.Records clk g) (all : (m.recordGuess (clk.read 1) g).allFinal = true) :
      Called F t ops id (m.recordGuess (clk.read 1) g)
  | tick {m : Match} (now : ℕ) (reached : Reached F t ops id m) (live : m.state = .live)
      (started : m.pendingAdvance = false) (expired : m.roundExpired now = true) :
      Called F t ops id (m.announceLive now)

variable {t : ℕ} {ops : List Op} {id : MatchID} {m : Match}

theorem Reached.seated (h : Reached F t ops id m) : Seated m :=
  h.invariant (fun _ _ _ => seated_created) fun _ _ hclock h => h.step hclock

theorem Called.seated (h : Called F t ops id m) : Seated m := by
  cases h with
  | late clk g reached => exact reached.seated
  | last clk g reached => exact reached.seated.recordGuess _ _
  | tick now reached => exact reached.seated.announceLive now

theorem Called.live (h : Called F t ops id m) : m.state = .live := by
  cases h with
  | late clk g reached admits => exact admits.1
  | last clk g reached records => exact records.1.1
  | tick now reached live => rwa [announceLive_state]

end GeoDuels.Duel
