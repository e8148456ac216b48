import GeoDuels.Duel.Run

/-!
# What the operations of the duel engine write

For each function of the engine the fields it writes and the conditions under which it does.  The
resolution of a round and the advance to the next one are described field by field; `SubmitGuess`
and `Tick` are then compositions of such writes (`step_submitGuess`, `step_tick`), and the results
about runs cite these lemmas only.
-/

namespace GeoDuels.Duel

variable (F : FloatMath)

/-! ## The resolution of a round -/

/-- What the resolution of the current round writes. -/
def Match.resolution (m : Match) : Resolution := settleRound m.mode (scoreRound F m)

/-- The players that the modes start from: nobody is finalized. -/
def Match.unfinalized (m : Match) : Assoc UserID PlayerState :=
  Assoc.mapVals (fun _ p => { p with finalized := false }) m.players

/-- The result that the modes start from: the guesses with their scores. -/
def Match.scores (m : Match) : RoundResult where
  roundID := m.roundID
  roundNumber := m.currentIndex + 1
  actualLocation := m.currentLocation
  players := Assoc.mapVals (roundPlayerResult F m) m.players

variable {F}

theorem lookup_unfinalized {m : Match} {u : UserID} {p : PlayerState}
    (h : m.players.lookup u = some p) : m.unfinalized.lookup u = some { p with finalized := false } := by
  rw [Match.unfinalized, Assoc.lookup_mapVals, h]
  rfl

theorem lookup_scores {m : Match} {u : UserID} {p : PlayerState} (h : m.players.lookup u = some p) :
    (m.scores F).players.lookup u = some (roundPlayerResult F m u p) := by
  rw [Match.scores, Assoc.lookup_mapVals, h]
  rfl

theorem scoreRound_duel {m : Match} (h : m.mode = .duel) :
    scoreRound F m =
      ⟨(resolveDuelDamage m.unfinalized (m.scores F) m.players.keys).1, m.teams, m.state,
        (resolveDuelDamage m.unfinalized (m.scores F) m.players.keys).2⟩ := by
  unfold scoreRound
  rw [h]
  rfl

theorem scoreRound_teamDuel {m : Match} (h : m.mode = .teamDuel) :
    scoreRound F m = resolveTeamDuelDamage m m.unfinalized (m.scores F) := by
  unfold scoreRound
  rw [h]
  rfl

theorem scoreRound_freeForAll {m : Match} (h : m.mode = .freeForAll) :
    scoreRound F m =
      ⟨(resolveFreeForAll m.unfinalized (m.scores F)).1, m.teams, m.state,
        (resolveFreeForAll m.unfinalized (m.scores F)).2⟩ := by
  unfold scoreRound
  rw [h]
  rfl

theorem scoreRound_other {m : Match} (hd : m.mode ≠ .duel) (ht : m.mode ≠ .teamDuel)
    (hf : m.mode ≠ .freeForAll) :
    scoreRound F m = ⟨m.unfinalized, m.teams, m.state, m.scores F⟩ := by
  unfold scoreRound
  split
  · exact absurd ‹_› hd
  · exact absurd ‹_› ht
  · exact absurd ‹_› hf
  · rfl

/-- The scored round, mode by mode. -/
theorem scoreRound_cases (F : FloatMath) (m : Match) :
    (m.mode = .duel ∧ scoreRound F m =
      ⟨(resolveDuelDamage m.unfinalized (m.scores F) m.players.keys).1, m.teams, m.state,
        (resolveDuelDamage m.unfinalized (m.scores F) m.players.keys).2⟩) ∨
    (m.mode = .teamDuel ∧ scoreRound F m = resolveTeamDuelDamage m m.unfinalized (m.scores F)) ∨
    (m.mode = .freeForAll ∧ scoreRound F m =
      ⟨(resolveFreeForAll m.unfinalized (m.scores F)).1, m.teams, m.state,
        (resolveFreeForAll m.unfinalized (m.scores F)).2⟩) ∨
    ((m.mode ≠ .duel ∧ m.mode ≠ .teamDuel ∧ m.mode ≠ .freeForAll) ∧
      scoreRound F m = ⟨m.unfinalized, m.teams, m.state, m.scores F⟩) := by
  by_cases hd : m.mode = .duel
  · exact .inl ⟨hd, scoreRound_duel hd⟩
  by_cases ht : m.mode = .teamDuel
  · exact .inr (.inl ⟨ht, scoreRound_teamDuel ht⟩)
  by_cases hf : m.mode = .freeForAll
  · exact .inr (.inr (.inl ⟨hf, scoreRound_freeForAll hf⟩))
  · exact .inr (.inr (.inr ⟨⟨hd, ht, hf⟩, scoreRound_other hd ht hf⟩))

theorem settleRound_result (mode : MatchMode) (r : Resolution) :
    (settleRound mode r).result = r.result := by
  unfold settleRound
  dsimp only
  split_ifs <;> rfl

theorem settleRound_teams (mode : MatchMode) (r : Resolution) :
    (settleRound mode r).teams = r.teams := by
  unfold settleRound
  dsimp only
  split_ifs <;> rfl

theorem settleRound_players (mode : MatchMode) (r : Resolution) :
    (settleRound mode r).players =
      if mode ≠ .freeForAll then
        Assoc.mapVals (fun _ p => if p.hp ≤ 0 then { p with hp := 0 } else p) r.players
      else r.players := by
  unfold settleRound
  dsimp only
  split_ifs <;> rfl

/-- The end of a round: the state that the damage left, unless a bound of the mode ends the
match. -/
theorem settleRound_state (mode : MatchMode) (r : Resolution) :
    (settleRound mode r).state =
      if maxRounds ≤ r.result.roundNumber ∨
          (mode = .freeForAll ∧ ffaRounds ≤ r.result.roundNumber) ∨
          (mode ≠ .freeForAll ∧ (r.players.any fun _ p => p.hp ≤ 0) = true) then .ended
      else r.state := by
  unfold settleRound
  by_cases hmode : mode = .freeForAll
  · by_cases hffa : ffaRounds ≤ r.result.roundNumber <;>
      by_cases hmax : maxRounds ≤ r.result.roundNumber <;> simp [hmode, hffa, hmax]
  · by_cases hany : (r.players.any fun _ p => decide (p.hp ≤ 0)) = true <;>
      by_cases hmax : maxRounds ≤ r.result.roundNumber <;> simp [hmode, hany, hmax]

/-- Every mode keeps the round's identity and location and fills in the players and teams. -/
theorem scoreRound_result (m : Match) :
    ∃ players teams, (scoreRound F m).result =
      ⟨m.roundID, m.currentIndex + 1, m.currentLocation, players, teams⟩ := by
  rcases scoreRound_cases F m with ⟨-, h⟩ | ⟨-, h⟩ | ⟨-, h⟩ | ⟨-, h⟩
  · rw [h]
    unfold resolveDuelDamage
    split
    · split <;> exact ⟨_, _, rfl⟩
    · exact ⟨_, _, rfl⟩
  · rw [h]
    unfold resolveTeamDuelDamage
    split_ifs <;> exact ⟨_, _, rfl⟩
  · rw [h]
    exact ⟨_, _, rfl⟩
  · rw [h]
    exact ⟨_, _, rfl⟩

theorem resolution_result (m : Match) : (m.resolution F).result = (scoreRound F m).result :=
  settleRound_result _ _

theorem resolution_teams (m : Match) : (m.resolution F).teams = (scoreRound F m).teams :=
  settleRound_teams _ _

@[simp] theorem resolution_roundNumber (m : Match) :
    (m.resolution F).result.roundNumber = m.currentIndex + 1 := by
  obtain ⟨_, _, h⟩ := scoreRound_result (F := F) m
  rw [resolution_result, h]

@[simp] theorem resolution_roundID (m : Match) : (m.resolution F).result.roundID = m.roundID := by
  obtain ⟨_, _, h⟩ := scoreRound_result (F := F) m
  rw [resolution_result, h]

@[simp] theorem resolution_actualLocation (m : Match) :
    (m.resolution F).result.actualLocation = m.currentLocation := by
  obtain ⟨_, _, h⟩ := scoreRound_result (F := F) m
  rw [resolution_result, h]

theorem scoreRound_state (m : Match) :
    (scoreRound F m).state = m.state ∨ (scoreRound F m).state = .ended := by
  rcases scoreRound_cases F m with ⟨-, h⟩ | ⟨-, h⟩ | ⟨-, h⟩ | ⟨-, h⟩
  · exact .inl (by rw [h])
  · rw [h]
    unfold resolveTeamDuelDamage
    dsimp only
    split_ifs <;> simp
  · exact .inl (by rw [h])
  · exact .inl (by rw [h])

theorem resolution_state (m : Match) :
    (m.resolution F).state = m.state ∨ (m.resolution F).state = .ended := by
  rw [Match.resolution, settleRound_state]
  split_ifs
  · exact .inr rfl
  · exact scoreRound_state m

/-- A resolution that leaves the match live is not the last one of the mode. -/
theorem lt_of_resolution_live {m : Match} (h : (m.resolution F).state = .live) :
    m.currentIndex + 1 < maxRounds ∧ (m.mode = .freeForAll → m.currentIndex + 1 < ffaRounds) := by
  have hround := resolution_roundNumber (F := F) m
  rw [resolution_result] at hround
  rw [Match.resolution, settleRound_state, hround] at h
  split_ifs at h with hlast
  push Not at hlast
  exact ⟨hlast.1, hlast.2.1⟩

/-! ### `resolveRound` -/

theorem resolveRound_of_not_live {m : Match} (h : m.state ≠ .live) (clk : Clock) :
    m.resolveRound F clk = m := by
  rw [Match.resolveRound, if_pos h]

/-- The fields that the resolution of a live round writes; `intermission`, `activity` and `seq` are
what the clock and the counter make of the three remaining ones. -/
theorem resolveRound_live {m : Match} (h : m.state = .live) (clk : Clock) :
    ∃ intermission activity seq, m.eventSeq < seq ∧ clk.start ≤ activity ∧
      m.resolveRound F clk =
        { m with
          players := (m.resolution F).players
          teams := (m.resolution F).teams
          state := (m.resolution F).state
          lastRoundResult := some (m.resolution F).result
          roundResults := m.roundResults ++ [(m.resolution F).result]
          guesses := ∅
          pendingAdvance := m.pendingAdvance || (m.resolution F).state != .ended
          intermissionUntil := intermission
          lastActivity := activity
          eventSeq := seq } := by
  rw [Match.resolveRound, if_neg (not_not.2 h)]
  by_cases hended : (m.resolution F).state = .ended
  · refine ⟨m.intermissionUntil, clk.read 0, m.eventSeq + 1, by omega, le_rfl, ?_⟩
    rw [Match.resolution] at hended
    simp [Match.resolution, hended]
  · refine ⟨clk.read 1 + resultDuration, clk.read 2, m.eventSeq + 2, by omega,
      clk.start_le_read 2, ?_⟩
    rw [Match.resolution] at hended
    simp [Match.resolution, hended]

/-! ## `advanceRound` -/

/-- The players at the start of a round: nobody has guessed yet. -/
def freshGuesses : Assoc UserID PlayerState → Assoc UserID PlayerState :=
  Assoc.mapVals fun _ p =>
    { p with finalized := false, lastGuessLat := 0, lastGuessLng := 0, hasGuess := false }

/-- The advance of a resolved round ends the match or starts the next round. -/
theorem advanceRound_cases {m : Match} (h : m.pendingAdvance = true) (clk : Clock)
    (next : Except String LocationPoint) :
    (∃ activity, m.advanceRound clk next =
      { m with
        state := .ended
        pendingAdvance := false
        intermissionUntil := 0
        lastActivity := activity
        eventSeq := m.eventSeq + 1 }) ∨
    ∃ config loc started deadline activity, m.advanceRound clk next =
      { m with
        config := config
        players := freshGuesses m.players
        currentLocation := loc
        currentIndex := m.currentIndex + 1
        roundStartedAt := started
        roundDeadline := deadline
        roundID := Duel.roundID m.id (m.currentIndex + 2)
        intermissionUntil := 0
        pendingAdvance := false
        eventSeq := m.eventSeq + 1
        roundLiveAnnounced := false
        lastActivity := activity } := by
  unfold Match.advanceRound
  simp only [h, Bool.not_true, Bool.false_eq_true, if_false]
  cases next with
  | error err => exact .inl ⟨_, rfl⟩
  | ok loc =>
      dsimp only
      unfold startRoundTimer
      dsimp only
      split_ifs
      · exact .inr ⟨_, _, _, _, _, rfl⟩
      · exact .inr ⟨_, _, _, _, _, rfl⟩

/-! ## `SubmitGuess` -/

/-- `SubmitGuess` gets as far as to look at the clock of the round: the match is live, the guess is
for its round and from one of its players, and no intermission is on. -/
def Match.Admits (clk : Clock) (g : GuessPayload) (m : Match) : Prop :=
  m.state = .live ∧ g.roundID = m.roundID ∧
    ¬ (m.pendingAdvance = true ∧ clk.read 0 < m.intermissionUntil) ∧ g.userID ∈ m.players

/-- `SubmitGuess` records the guess. -/
def Match.Records (clk : Clock) (g : GuessPayload) (m : Match) : Prop :=
  m.Admits clk g ∧ m.roundExpired (clk.read 1) = false ∧
    m.roundStartedAt + roundIntro ≤ clk.read 1 ∧
    (m.guesses.lookup g.userID).any Guess.finalized = false

instance (clk : Clock) (g : GuessPayload) (m : Match) : Decidable (m.Admits clk g) :=
  inferInstanceAs (Decidable (_ ∧ _ ∧ _ ∧ _))

instance (clk : Clock) (g : GuessPayload) (m : Match) : Decidable (m.Records clk g) :=
  inferInstanceAs (Decidable (_ ∧ _ ∧ _ ∧ _))

variable (F) in
theorem step_submitGuess (clk : Clock) (g : GuessPayload) (m : Match) :
    m.step F (.submitGuess clk g) =
      if m.Admits clk g ∧ m.roundExpired (clk.read 1) = true then m.resolveRound F (clk.drop 2)
      else if m.Records clk g then
        if (m.recordGuess (clk.read 1) g).allFinal then
          (m.recordGuess (clk.read 1) g).resolveRound F (clk.drop 2)
        else m.recordGuess (clk.read 1) g
      else m := by
  unfold Match.step Match.submitGuess Match.Records Match.Admits
  by_cases hlive : m.state = .live
  · by_cases hround : g.roundID = m.roundID
    · by_cases hwait : m.pendingAdvance = true ∧ clk.read 0 < m.intermissionUntil
      · simp [hlive, hround, hwait, Except.toOption]
      · by_cases hmem : g.userID ∈ m.players
        · by_cases hexp : m.roundExpired (clk.read 1) = true
          · simp [hlive, hround, hwait, hmem, hexp, Except.toOption]
          · by_cases hintro : clk.read 1 < m.roundStartedAt + roundIntro
            · simp [hlive, hround, hwait, hmem, hexp, hintro, Except.toOption]
            · by_cases hfin : (m.guesses.lookup g.userID).any Guess.finalized = true
              · simp [hlive, hround, hwait, hmem, hexp, hintro, hfin, Except.toOption]
              · by_cases hall : (m.recordGuess (clk.read 1) g).allFinal = true <;>
                  simp [hlive, hround, hwait, hmem, hexp, hintro, hfin, hall, Except.toOption,
                    not_lt.1 hintro]
        · simp [hlive, hround, hwait, hmem, Except.toOption]
    · simp [hlive, hround, Except.toOption]
  · simp [hlive, Except.toOption]

/-- The guess is the last one that the round waits for. -/
def Match.LastFinal (g : GuessPayload) (m : Match) : Prop :=
  g.finalize = true ∧ ∀ userID ∈ m.players.keys, userID ≠ g.userID →
    (m.guesses.lookup userID).any Guess.finalized = true

instance (g : GuessPayload) (m : Match) : Decidable (m.LastFinal g) :=
  inferInstanceAs (Decidable (_ ∧ _))

theorem allFinal_recordGuess {g : GuessPayload} {m : Match} (h : g.userID ∈ m.players) (now : ℕ) :
    (m.recordGuess now g).allFinal = true ↔ m.LastFinal g := by
  unfold Match.allFinal Match.LastFinal Match.recordGuess
  rw [Assoc.all_eq_true]
  constructor
  · intro hall
    constructor
    · obtain ⟨p, hp⟩ := Assoc.mem_iff_exists.1 h
      have hself := hall g.userID _ (by rw [Assoc.lookup_modify_self, hp]; rfl)
      simpa using hself
    · intro u hu hne
      obtain ⟨p, hp⟩ := Assoc.mem_keys_iff_exists.1 hu
      have hother := hall u p (by rw [Assoc.lookup_modify_ne hne, hp])
      simpa [AList.lookup_insert_ne hne] using hother
  · rintro ⟨hfin, hothers⟩ u p hp
    by_cases hu : u = g.userID
    · subst hu
      simpa using hfin
    · rw [Assoc.lookup_modify_ne hu] at hp
      simpa [AList.lookup_insert_ne hu] using hothers u (Assoc.mem_keys_iff_exists.2 ⟨p, hp⟩) hu

/-! ## `Tick` -/

/-- The players after those that `out` picks have lost their hit points. -/
def zeroHP (out : PlayerState → Bool) : Assoc UserID PlayerState → Assoc UserID PlayerState :=
  Assoc.mapVals fun _ p => if out p then { p with hp := 0 } else p

/-- The two sweeps that end a live round's tick. -/
def Match.sweep (now : ℕ) (m : Match) : Match :=
  if (m.sweepDisconnected now).state ≠ .live then m.sweepDisconnected now
  else (m.sweepDisconnected now).sweepStale now

/-- A round that is not over is announced at most; an expired one is resolved. -/
def Match.tickRound (F : FloatMath) (now : ℕ) (clk : Clock) (m : Match) : Match :=
  if m.roundExpired now then (m.announceLive now).resolveRound F clk else m.announceLive now

variable (F) in
theorem step_tick (now : ℕ) (clk : Clock) (hle : now ≤ clk.start)
    (next : Except String LocationPoint) (m : Match) :
    m.step F (.tick now clk hle next) =
      if m.state ≠ .live then m
      else if m.pendingAdvance then if m.intermissionUntil < now then m.advanceRound clk next else m
      else (m.tickRound F now clk).sweep now := by
  have hexp : (m.announceLive now).roundExpired now = m.roundExpired now := by
    unfold Match.announceLive
    split_ifs <;> rfl
  simp only [Match.step, Match.tick, Match.tickRound, Match.sweep, hexp]
  rfl

theorem announceLive_cases (now : ℕ) (m : Match) :
    m.announceLive now = m ∨
      m.announceLive now = { m with roundLiveAnnounced := true, eventSeq := m.eventSeq + 1 } := by
  unfold Match.announceLive
  split_ifs
  · exact .inr rfl
  · exact .inl rfl

@[simp] theorem announceLive_players (now : ℕ) (m : Match) :
    (m.announceLive now).players = m.players := by
  rcases announceLive_cases now m with h | h <;> rw [h]

@[simp] theorem announceLive_state (now : ℕ) (m : Match) :
    (m.announceLive now).state = m.state := by
  rcases announceLive_cases now m with h | h <;> rw [h]

@[simp] theorem announceLive_lastActivity (now : ℕ) (m : Match) :
    (m.announceLive now).lastActivity = m.lastActivity := by
  rcases announceLive_cases now m with h | h <;> rw [h]

@[simp] theorem announceLive_guesses (now : ℕ) (m : Match) :
    (m.announceLive now).guesses = m.guesses := by
  rcases announceLive_cases now m with h | h <;> rw [h]

@[simp] theorem announceLive_roundID (now : ℕ) (m : Match) :
    (m.announceLive now).roundID = m.roundID := by
  rcases announceLive_cases now m with h | h <;> rw [h]

@[simp] theorem announceLive_roundResults (now : ℕ) (m : Match) :
    (m.announceLive now).roundResults = m.roundResults := by
  rcases announceLive_cases now m with h | h <;> rw [h]

theorem resolution_announceLive (now : ℕ) (m : Match) :
    (m.announceLive now).resolution F = m.resolution F := by
  rcases announceLive_cases now m with h | h
  · rw [h]
  · rw [h]
    rfl

/-- Everybody is disconnected and nothing has happened for too long. -/
def Match.Stale (now : ℕ) (m : Match) : Prop :=
  m.allDisconnected = true ∧ m.lastActivity ≠ 0 ∧ m.lastActivity + staleGrace < now

instance (now : ℕ) (m : Match) : Decidable (m.Stale now) :=
  inferInstanceAs (Decidable (_ ∧ _ ∧ _))

theorem maxDue_cases (m : Match) :
    m.maxDue = 0 ∨ ∃ u p, m.players.lookup u = some p ∧ p.disconnectDue = m.maxDue := by
  have hfold : ∀ (es : List (Σ _ : UserID, PlayerState)) (d : ℤ),
      es.foldl (fun d e => max d e.2.disconnectDue) d = d ∨
        ∃ e ∈ es, e.2.disconnectDue = es.foldl (fun d e => max d e.2.disconnectDue) d := by
    intro es
    induction es with
    | nil => exact fun d => .inl rfl
    | cons e es ih =>
        intro d
        rw [List.foldl_cons]
        rcases ih (max d e.2.disconnectDue) with h | ⟨e', he', h⟩
        · rcases max_cases d e.2.disconnectDue with ⟨hmax, -⟩ | ⟨hmax, -⟩
          · exact .inl (h.trans hmax)
          · exact .inr ⟨e, List.mem_cons_self, (h.trans hmax).symm⟩
        · exact .inr ⟨e', List.mem_cons_of_mem _ he', h⟩
  rcases hfold m.players.entries 0 with h | ⟨e, he, h⟩
  · exact .inl h
  · exact .inr ⟨e.1, e.2, Assoc.mem_entries_iff.1 he, h⟩

/-- The sweep ends the match for the players whose grace has run out, or for all of them when the
match is stale, and writes nothing otherwise.  The stale sweep never finds a grace that has run out:
the sweep before it does. -/
theorem sweep_cases (now : ℕ) (m : Match) :
    (m.sweep now = m ∧ ∀ u p, m.players.lookup u = some p → graceExpired now p = false) ∨
    (∃ seq, m.eventSeq < seq ∧
      (∃ u p, m.players.lookup u = some p ∧ graceExpired now p = true) ∧
      m.sweep now =
        { m with
          players := zeroHP (graceExpired now) m.players
          state := .ended
          lastActivity := now
          eventSeq := seq }) ∨
    (m.state = .live ∧ m.Stale now ∧
      m.sweep now =
        { m with
          players := zeroHP (fun _ => true) m.players
          state := .ended
          eventSeq := m.eventSeq + 1 }) := by
  unfold Match.sweep Match.sweepDisconnected
  dsimp only
  by_cases hn : m.players.countP (fun _ p => graceExpired now p) = 0
  · simp only [hn, if_true]
    have hgrace := Assoc.countP_eq_zero.1 hn
    by_cases hlive : m.state = .live
    · rw [if_neg (not_not.2 hlive)]
      unfold Match.sweepStale
      dsimp only
      split_ifs with hdue hidle
      · obtain ⟨hall, hpos, hlt⟩ := hdue
        rcases maxDue_cases m with hmax | ⟨u, p, hu, hp⟩
        · omega
        · have hoff := Assoc.all_eq_true.1 hall u p hu
          have hnot := hgrace u p hu
          simp only [graceExpired, hp, decide_eq_false_iff_not] at hnot
          exact absurd ⟨hoff, hpos, hlt⟩ hnot
      · refine .inr (.inr ⟨hlive, ⟨hidle.1, ?_, hidle.2.2⟩, rfl⟩)
        simpa [Time.isZero] using hidle.2.1
      · exact .inl ⟨rfl, hgrace⟩
    · rw [if_pos hlive]
      exact .inl ⟨rfl, hgrace⟩
  · refine .inr (.inl ⟨m.eventSeq + m.players.countP fun _ p => graceExpired now p, by omega, ?_,
      by simp [hn, zeroHP]⟩)
    by_contra hnone
    push Not at hnone
    exact hn (Assoc.countP_eq_zero.2 fun u p hp => by simpa using hnone u p hp)

/-- What any sweep leaves: the match as it was, or an ended one in which players lost their hit
points. -/
theorem sweep_eq (now : ℕ) (m : Match) :
    m.sweep now = m ∨ ∃ out activity seq, m.eventSeq < seq ∧
      m.sweep now =
        { m with
          players := zeroHP out m.players
          state := .ended
          lastActivity := activity
          eventSeq := seq } := by
  rcases sweep_cases now m with ⟨h, -⟩ | ⟨seq, hseq, -, h⟩ | ⟨-, -, h⟩
  · exact .inl h
  · exact .inr ⟨_, _, seq, hseq, h⟩
  · exact .inr ⟨_, m.lastActivity, _, Nat.lt_succ_self _, h⟩

/-! ## Connection events and forfeit -/

/-- The match after a connection event: the flag and the deadline of one player change. -/
def Match.setConnection (userID : UserID) (disconnected : Bool) (due : ℤ) (activity : ℕ)
    (m : Match) : Match :=
  { m with
    players := m.players.modify userID fun p =>
      { p with disconnected := disconnected, disconnectDue := due }
    lastActivity := activity
    eventSeq := m.eventSeq + 1 }

variable (F) in
theorem step_markDisconnected (clk : Clock) (userID : UserID) (m : Match) :
    m.step F (.markDisconnected clk userID) =
      if userID ∈ m.players then
        m.setConnection userID true (Time.unixMilli (clk.read 0 + disconnectGrace)) (clk.read 1)
      else m := by
  unfold Match.step Match.markDisconnected
  by_cases h : userID ∈ m.players
  · simp [h, Except.toOption, Match.setConnection]
  · simp [h, Except.toOption]

variable (F) in
theorem step_markResumed (clk : Clock) (userID : UserID) (m : Match) :
    m.step F (.markResumed clk userID) =
      if userID ∈ m.players then m.setConnection userID false 0 (clk.read 0) else m := by
  unfold Match.step Match.markResumed
  by_cases h : userID ∈ m.players
  · simp [h, Except.toOption, Match.setConnection]
  · simp [h, Except.toOption]

variable (F) in
theorem step_forfeit (clk : Clock) (userID : UserID) (m : Match) :
    m.step F (.forfeit clk userID) =
      if m.state = .live ∧ userID ∈ m.players then
        { m with
          players := m.players.modify userID fun p =>
            { p with hp := 0, finalized := false, disconnected := false, disconnectDue := 0 }
          pendingAdvance := false
          intermissionUntil := 0
          state := .ended
          lastActivity := clk.read 0
          eventSeq := m.eventSeq + 1 }
      else m := by
  unfold Match.step Match.forfeit
  by_cases hlive : m.state = .live
  · by_cases h : userID ∈ m.players
    · simp [hlive, h, Except.toOption]
    · simp [hlive, h, Except.toOption]
  · simp [hlive, Except.toOption]

end GeoDuels.Duel
