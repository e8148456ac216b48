import GeoDuels.Duel.Guesses
import GeoDuels.Duel.Veil

/-!
# The deadline of a round

Within a round, that is until its index grows, the deadline is only ever brought forward, a finalized
guess stays as it is until the round is resolved, and no guess is recorded outside the window of the
round (`Within`).  The guesses that a step works with are the ones it scores (`Settles`), and a round
whose time is over does not outlive the next tick or the next guess for it.
-/

namespace GeoDuels.Duel

variable {F : FloatMath}

/-- The time after which no guess counts: the deadline or, without one, the idle cap. -/
def Match.roundEnd (m : Match) : ℕ :=
  if m.roundDeadline = 0 then m.roundStartedAt + roundIntro + roundIdleCap else m.roundDeadline

/-- The latest deadline of the fixed timer. -/
def Match.fixedEnd (m : Match) : ℕ :=
  m.roundStartedAt + roundIntro + m.config.roundTimeLimitMS.toNat * Time.millisecond

/-- The player's last guess is the same. -/
def SamePoint (p p' : PlayerState) : Prop :=
  p'.hasGuess = p.hasGuess ∧ p'.lastGuessLat = p.lastGuessLat ∧ p'.lastGuessLng = p.lastGuessLng

/-- The row is that of the guess, for a round at `loc`; a player without a guess scores nothing. -/
def RowOf (F : FloatMath) (loc : LocationPoint) (row : RoundPlayerResult) : Option Guess → Prop
  | none => row.lat = 0 ∧ row.lng = 0 ∧ row.score = 0
  | some g => row.lat = g.lat ∧ row.lng = g.lng ∧ row.guessUnixMS = guessUnixMS g ∧
      row.distanceKm = mathMin (Gameplay.haversineKm F loc.lat loc.lng g.lat g.lng) maxDistanceKm ∧
      row.score = Gameplay.roundScore F row.distanceKm

/-- The guesses `gs` stand, or the round is resolved and they are what is scored. -/
inductive Settles (F : FloatMath) (m m' : Match) (gs : Assoc UserID Guess) : Prop
  | stand (guesses : m'.guesses = gs) (results : m'.roundResults = m.roundResults)
  | scored (r : RoundResult) (guesses : m'.guesses = ∅)
      (results : m'.roundResults = m.roundResults ++ [r])
      (rows : ∀ u ∈ m.players, ∃ row, r.players.lookup u = some row ∧
        RowOf F m.currentLocation row (gs.lookup u))

/-- `m'` is a later state of the match `m`, in the same round. -/
structure Within (m m' : Match) : Prop extends KeepsRound m m' where
  started : m'.roundStartedAt = m.roundStartedAt
  config : m'.config = m.config
  deadline : m.roundDeadline ≠ 0 → m'.roundDeadline ≠ 0 ∧ m'.roundDeadline ≤ m.roundDeadline
  state : m'.state = m.state ∨ m'.state = .ended
  pending : m'.pendingAdvance = true → m.pendingAdvance = true ∨ m'.Resolved m.currentIndex
  finalized : m'.roundResults = m.roundResults → ∀ u g, m.guesses.lookup u = some g →
    g.finalized = true → m'.guesses.lookup u = some g ∧
      ∀ p, m.players.lookup u = some p → ∃ p', m'.players.lookup u = some p' ∧ SamePoint p p'

theorem roundExpired_iff {m : Match} {now : ℕ} : m.roundExpired now = true ↔ m.roundEnd < now := by
  unfold Match.roundExpired Match.roundEnd Time.isZero
  by_cases h : m.roundDeadline = 0 <;> simp [h]

theorem SamePoint.refl (p : PlayerState) : SamePoint p p := ⟨rfl, rfl, rfl⟩

theorem SamePoint.trans {p p' p'' : PlayerState} (h : SamePoint p p') (h' : SamePoint p' p'') :
    SamePoint p p'' :=
  ⟨h'.1.trans h.1, h'.2.1.trans h.2.1, h'.2.2.trans h.2.2⟩

theorem Plays.samePoint {gain : ℤ} {p p' : PlayerState} (h : Plays gain p p') : SamePoint p p' := by
  rw [h.frame]
  exact ⟨rfl, rfl, rfl⟩

/-! ## The writes stay within the round -/

namespace Within

theorem refl (m : Match) : Within m m :=
  ⟨.refl m, rfl, rfl, fun h => ⟨h, le_rfl⟩, .inl rfl, .inl, fun _ _ _ hg _ =>
    ⟨hg, fun p hp => ⟨p, hp, .refl p⟩⟩⟩

theorem trans {m m' m'' : Match} (h : Within m m') (h' : Within m' m'') : Within m m'' := by
  refine ⟨h.toKeepsRound.trans h'.toKeepsRound, h'.started.trans h.started, h'.config.trans h.config,
    fun hset => ?_, ?_, fun hpending => ?_, fun hresults u g hg hfin => ?_⟩
  · obtain ⟨hset', hle⟩ := h.deadline hset
    obtain ⟨hset'', hle'⟩ := h'.deadline hset'
    exact ⟨hset'', hle'.trans hle⟩
  · rcases h'.state with hstate | hended
    · rw [hstate]
      exact h.state
    · exact .inr hended
  · rcases h'.pending hpending with hpending' | hresolved
    · exact (h.pending hpending').imp_right fun hresolved => hresolved.mono h'.results
    · rw [h.index_eq] at hresolved
      exact .inr hresolved
  · -- the results between have the same length, so they are the same
    have hmid : m'.roundResults = m.roundResults := by
      refine (h.results.eq_of_length_le ?_).symm
      rw [← hresults]
      exact h'.results.length_le
    obtain ⟨hg', hp'⟩ := h.finalized hmid u g hg hfin
    obtain ⟨hg'', hp''⟩ := h'.finalized (hresults.trans hmid.symm) u g hg' hfin
    refine ⟨hg'', fun p hp => ?_⟩
    obtain ⟨q, hq, hsame⟩ := hp' p hp
    obtain ⟨q', hq', hsame'⟩ := hp'' q hq
    exact ⟨q', hq', hsame.trans hsame'⟩

/-- A write that touches no guess and no time of the round. -/
theorem of_players {m m' : Match} (hkeeps : KeepsRound m m')
    (hstarted : m'.roundStartedAt = m.roundStartedAt) (hconfig : m'.config = m.config)
    (hdeadline : m'.roundDeadline = m.roundDeadline)
    (hstate : m'.state = m.state ∨ m'.state = .ended)
    (hpending : m'.pendingAdvance = true → m.pendingAdvance = true)
    (hguesses : m'.guesses = m.guesses)
    (hplayers : Assoc.Pointwise (fun _ => SamePoint) m.players m'.players) : Within m m' := by
  refine ⟨hkeeps, hstarted, hconfig, fun hset => ?_, hstate, fun h => .inl (hpending h),
    fun _ _ _ hg _ => ⟨?_, fun p hp => hplayers.left hp⟩⟩
  · rw [hdeadline]
    exact ⟨hset, le_rfl⟩
  · rw [hguesses]
    exact hg

end Within

theorem samePoint_refl (players : Assoc UserID PlayerState) :
    Assoc.Pointwise (fun _ => SamePoint) players players := .refl (fun _ => .refl) _

/-- What a step writes that handles no guess. -/
structure Untouched (m m' : Match) : Prop extends Within m m' where
  results_eq : m'.roundResults = m.roundResults
  location : m'.currentLocation = m.currentLocation
  guesses : m'.guesses = m.guesses
  players : Assoc.Pointwise (fun _ => SamePoint) m.players m'.players

theorem Untouched.refl (m : Match) : Untouched m m := ⟨.refl m, rfl, rfl, rfl, samePoint_refl _⟩

theorem announceLive_untouched (now : ℕ) (m : Match) : Untouched m (m.announceLive now) := by
  have hkeeps := keepsRound_announceLive now m
  rcases announceLive_cases now m with heq | heq
  · rw [heq]
    exact .refl m
  · rw [heq] at hkeeps ⊢
    exact ⟨.of_players hkeeps rfl rfl rfl (.inl rfl) id rfl (samePoint_refl _), rfl, rfl, rfl,
      samePoint_refl _⟩

theorem sweep_untouched (now : ℕ) (m : Match) : Untouched m (m.sweep now) := by
  have hkeeps := keepsRound_sweep now m
  rcases sweep_eq now m with heq | ⟨out, _, _, -, heq⟩
  · rw [heq]
    exact .refl m
  · rw [heq] at hkeeps ⊢
    have hplayers : Assoc.Pointwise (fun _ => SamePoint) m.players (zeroHP out m.players) := by
      refine Assoc.pointwise_mapVals fun u p _ => ?_
      split_ifs
      · exact ⟨rfl, rfl, rfl⟩
      · exact .refl p
    exact ⟨.of_players hkeeps rfl rfl rfl (.inr rfl) id rfl hplayers, rfl, rfl, rfl, hplayers⟩

theorem setConnection_untouched (u : UserID) (off : Bool) (due : ℤ) (activity : ℕ) (m : Match) :
    Untouched m (m.setConnection u off due activity) := by
  have hplayers : Assoc.Pointwise (fun _ => SamePoint) m.players
      (m.setConnection u off due activity).players :=
    Assoc.pointwise_modify (fun _ => .refl) fun p _ => ⟨rfl, rfl, rfl⟩
  exact ⟨.of_players (keepsRound_setConnection u off due activity m) rfl rfl rfl (.inl rfl) id rfl
    hplayers, rfl, rfl, rfl, hplayers⟩

theorem forfeit_untouched (clk : Clock) (u : UserID) (m : Match) :
    Untouched m (m.step F (.forfeit clk u)) := by
  rw [step_forfeit]
  split_ifs
  · have hplayers : Assoc.Pointwise (fun _ => SamePoint) m.players (m.players.modify u fun p =>
        { p with hp := 0, finalized := false, disconnected := false, disconnectDue := 0 }) :=
      Assoc.pointwise_modify (fun _ => .refl) fun p _ => ⟨rfl, rfl, rfl⟩
    exact ⟨.of_players ⟨rfl, rfl, rfl, List.prefix_rfl⟩ rfl rfl rfl (.inr rfl) (by simp) rfl hplayers,
      rfl, rfl, rfl, hplayers⟩
  · exact .refl m

/-! ## Recording and resolving -/

/-- A finalized guess does not move the deadline back. -/
theorem pressureDeadline_le {m : Match} (hset : m.roundDeadline ≠ 0) (now : ℕ) :
    pressureDeadline m now ≠ 0 ∧ pressureDeadline m now ≤ m.roundDeadline := by
  unfold pressureDeadline Time.isZero Time.millisecond
  dsimp only
  generalize (if m.config.roundTimerMode = .pressure ∧ m.config.pressureTimeLimitMS ≤ 0 then
    defaultPressureTimeMS else m.config.pressureTimeLimitMS) = pressureMS
  split_ifs with hpos hsooner
  · simp only [hset, beq_iff_eq, false_or] at hsooner
    omega
  · exact ⟨hset, le_rfl⟩
  · exact ⟨hset, le_rfl⟩

/-- A finalized guess sets the deadline of the pressure timer, unless an earlier one is set. -/
theorem pressureDeadline_pressure {m : Match} (hpressure : 0 < m.config.pressureTimeLimitMS)
    (now : ℕ) : pressureDeadline m now ≠ 0 ∧ pressureDeadline m now ≤
      now + m.config.pressureTimeLimitMS.toNat * Time.millisecond := by
  have hms : (if m.config.roundTimerMode = .pressure ∧ m.config.pressureTimeLimitMS ≤ 0 then
      defaultPressureTimeMS else m.config.pressureTimeLimitMS) = m.config.pressureTimeLimitMS :=
    if_neg fun h => absurd h.2 (not_le.2 hpressure)
  unfold pressureDeadline Time.isZero Time.millisecond
  dsimp only
  rw [hms, if_pos hpressure]
  split_ifs with hsooner
  · omega
  · simp only [beq_iff_eq, not_or, not_lt] at hsooner
    exact ⟨hsooner.1, hsooner.2⟩

theorem recordGuess_within {clk : Clock} {g : GuessPayload} {m : Match} (h : m.Records clk g) :
    Within m (m.recordGuess (clk.read 1) g) := by
  refine ⟨keepsRound_recordGuess _ g m, rfl, rfl, fun hset => ?_, .inl rfl, .inl,
    fun _ u g' hg' hfin => ?_⟩
  · by_cases hfinalize : g.finalize = true
    · simpa [Match.recordGuess, hfinalize] using pressureDeadline_le hset (clk.read 1)
    · simpa [Match.recordGuess, hfinalize] using hset
  · -- the guess of somebody who has finalized his is not recorded
    have hne : u ≠ g.userID := by
      rintro rfl
      have hopen := h.2.2.2
      rw [hg', Option.any_some, hfin] at hopen
      cases hopen
    constructor
    · show (m.guesses.insert g.userID _).lookup u = _
      rw [AList.lookup_insert_ne hne]
      exact hg'
    · intro p hp
      refine ⟨p, ?_, .refl p⟩
      show (m.players.modify g.userID _).lookup u = _
      rw [Assoc.lookup_modify_ne hne]
      exact hp

theorem resolveRound_within (clk : Clock) (m : Match) : Within m (m.resolveRound F clk) := by
  have hkeeps := keepsRound_resolveRound (F := F) clk m
  by_cases hlive : m.state = .live
  · have hresolved := resolved_resolveRound (F := F) hlive clk
    obtain ⟨_, _, _, -, -, heq⟩ := resolveRound_live (F := F) hlive clk
    rw [heq] at hkeeps hresolved ⊢
    refine ⟨hkeeps, rfl, rfl, fun hset => ⟨hset, le_rfl⟩, resolution_state m,
      fun _ => .inr hresolved, fun hresults => ?_⟩
    have hlen := congrArg List.length hresults
    simp at hlen
  · rw [resolveRound_of_not_live hlive]
    exact .refl m

/-- The rows of a resolution are those of the guesses of the match. -/
theorem rowOf_resolution {m : Match} {u : UserID} (hu : u ∈ m.players) :
    ∃ row, (m.resolution F).result.players.lookup u = some row ∧
      RowOf F m.currentLocation row (m.guesses.lookup u) := by
  obtain ⟨p, hp⟩ := Assoc.mem_iff_exists.1 hu
  obtain ⟨row, hrow, dealt, taken, hp', rfl⟩ := (resolution_rows (F := F) m).left hp
  refine ⟨_, hrow, ?_⟩
  cases hg : m.guesses.lookup u with
  | none => simp [RowOf, roundPlayerResult, hg, guessScore_of_none hg]
  | some g =>
      have hdist : guessDistance F m u =
          mathMin (Gameplay.haversineKm F m.currentLocation.lat m.currentLocation.lng g.lat g.lng)
            maxDistanceKm := by
        unfold guessDistance
        simp only [hg]
        exact (mathMin_fin_right _ maxDistanceKm).symm
      simp [RowOf, roundPlayerResult, hg, ← hdist, guessScore]

/-- The resolution of a live match's round scores the guesses it finds. -/
theorem settles_resolveRound {m : Match} (m₀ : Match) (hlive : m.state = .live) (clk : Clock)
    (hresults : m.roundResults = m₀.roundResults) (hlocation : m.currentLocation = m₀.currentLocation)
    (hplayers : ∀ u ∈ m₀.players, u ∈ m.players) :
    Settles F m₀ (m.resolveRound F clk) m.guesses := by
  obtain ⟨_, _, _, -, -, heq⟩ := resolveRound_live (F := F) hlive clk
  refine .scored (m.resolution F).result (by rw [heq]) (by rw [heq, ← hresults]) fun u hu => ?_
  rw [← hlocation]
  exact rowOf_resolution (hplayers u hu)

theorem resolveRound_samePoint {m : Match} (h : HpInv m) (clk : Clock) :
    Assoc.Pointwise (fun _ => SamePoint) m.players (m.resolveRound F clk).players := by
  by_cases hlive : m.state = .live
  · obtain ⟨_, _, _, -, -, heq⟩ := resolveRound_live (F := F) hlive clk
    rw [heq]
    exact (resolution_plays (h.inStep hlive)).mono fun _ _ _ => Plays.samePoint
  · rw [resolveRound_of_not_live hlive]
    exact samePoint_refl _

/-! ## The steps -/

theorem tickRound_within (now : ℕ) (clk : Clock) (m : Match) :
    Within m (m.tickRound F now clk) := by
  have hannounce := (announceLive_untouched now m).toWithin
  unfold Match.tickRound
  split_ifs
  · exact hannounce.trans (resolveRound_within clk _)
  · exact hannounce

/-- A step stays within the round or starts the next one. -/
theorem within_step (m : Match) (mop : MatchOp) :
    Within m (m.step F mop) ∨ (m.step F mop).currentIndex = m.currentIndex + 1 := by
  cases mop with
  | submitGuess clk g =>
      left
      rw [step_submitGuess]
      split_ifs with hexp hrecords
      · exact resolveRound_within _ m
      · exact (recordGuess_within hrecords).trans (resolveRound_within _ _)
      · exact recordGuess_within hrecords
      · exact .refl m
  | tick now clk hle next =>
      rw [step_tick]
      split_ifs with hlive hpending
      · exact .inl (.refl m)
      · rcases advanceRound_cases hpending clk next with ⟨_, heq⟩ | ⟨_, _, _, _, _, heq⟩
        · rw [heq]
          exact .inl (.of_players ⟨rfl, rfl, rfl, List.prefix_rfl⟩ rfl rfl rfl (.inr rfl) (by simp) rfl
            (samePoint_refl _))
        · rw [heq]
          exact .inr rfl
      · exact .inl (.refl m)
      · exact .inl ((tickRound_within now clk m).trans (sweep_untouched now _).toWithin)
  | markDisconnected clk u =>
      left
      rw [step_markDisconnected]
      split_ifs
      · exact (setConnection_untouched u _ _ _ m).toWithin
      · exact .refl m
  | markResumed clk u =>
      left
      rw [step_markResumed]
      split_ifs
      · exact (setConnection_untouched u _ _ _ m).toWithin
      · exact .refl m
  | forfeit clk u => exact .inl (forfeit_untouched clk u m).toWithin

theorem Settles.untouched {m m' m'' : Match} {gs : Assoc UserID Guess} (h : Settles F m m' gs)
    (h' : Untouched m' m'') : Settles F m m'' gs := by
  cases h with
  | stand hguesses hresults =>
      exact .stand (h'.guesses.trans hguesses) (h'.results_eq.trans hresults)
  | scored r hguesses hresults hrows =>
      exact .scored r (h'.guesses.trans hguesses) (h'.results_eq.trans hresults) hrows

theorem Untouched.settles {m m' : Match} (h : Untouched m m') : Settles F m m' m.guesses :=
  .stand h.guesses h.results_eq

/-- No guess is recorded: the guesses there are stand or are scored. -/
structure NoGuess (F : FloatMath) (m m' : Match) : Prop where
  settles : Settles F m m' m.guesses
  players : Assoc.Pointwise (fun _ => SamePoint) m.players m'.players

theorem Untouched.noGuess {m m' : Match} (h : Untouched m m') : NoGuess F m m' :=
  ⟨h.settles, h.players⟩

theorem resolveRound_noGuess {m : Match} (h : HpInv m) (hlive : m.state = .live) (clk : Clock) :
    NoGuess F m (m.resolveRound F clk) :=
  ⟨settles_resolveRound m hlive clk rfl rfl fun _ hu => hu, resolveRound_samePoint h clk⟩

theorem tickRound_noGuess {m : Match} (h : HpInv m) (hlive : m.state = .live) (now : ℕ)
    (clk : Clock) : NoGuess F m (m.tickRound F now clk) := by
  have hannounce := announceLive_untouched now m
  unfold Match.tickRound
  split_ifs
  · have hresolve := settles_resolveRound (F := F) (m := m.announceLive now) m
      (by rw [announceLive_state]; exact hlive) clk hannounce.results_eq hannounce.location
      (by simp)
    rw [hannounce.guesses] at hresolve
    exact ⟨hresolve, hannounce.players.trans (resolveRound_samePoint (h.announceLive now) clk)
      fun _ _ _ _ => SamePoint.trans⟩
  · exact hannounce.noGuess

/-- A step that records no guess. -/
theorem noGuess_step {m : Match} (h : HpInv m) {mop : MatchOp}
    (hnot : ∀ clk g, mop = .submitGuess clk g → ¬ m.Records clk g)
    (hround : (m.step F mop).currentIndex = m.currentIndex) : NoGuess F m (m.step F mop) := by
  cases mop with
  | submitGuess clk g =>
      rw [step_submitGuess]
      split_ifs with hexp hrecords
      · exact resolveRound_noGuess h hexp.1.1 _
      · exact absurd hrecords (hnot clk g rfl)
      · exact absurd hrecords (hnot clk g rfl)
      · exact (Untouched.refl m).noGuess
  | tick now clk hle next =>
      rw [step_tick] at hround ⊢
      split_ifs at hround ⊢ with hlive hpending hover
      · exact (Untouched.refl m).noGuess
      · rcases advanceRound_cases hpending clk next with ⟨_, heq⟩ | ⟨_, _, _, _, _, heq⟩
        · rw [heq]
          exact ⟨.stand rfl rfl, samePoint_refl _⟩
        · rw [heq] at hround
          simp at hround
      · exact (Untouched.refl m).noGuess
      · have htick := tickRound_noGuess (F := F) h (not_not.1 hlive) now clk
        have hsweep := sweep_untouched now (m.tickRound F now clk)
        exact ⟨htick.settles.untouched hsweep,
          htick.players.trans hsweep.players fun _ _ _ _ => SamePoint.trans⟩
  | markDisconnected clk u =>
      rw [step_markDisconnected]
      split_ifs
      · exact (setConnection_untouched u _ _ _ m).noGuess
      · exact (Untouched.refl m).noGuess
  | markResumed clk u =>
      rw [step_markResumed]
      split_ifs
      · exact (setConnection_untouched u _ _ _ m).noGuess
      · exact (Untouched.refl m).noGuess
  | forfeit clk u => exact (forfeit_untouched clk u m).noGuess

/-- The guess `g` is recorded at `now`: it joins the guesses that stand or are scored, and it is the
last guess of its player. -/
structure OneGuess (F : FloatMath) (now : ℕ) (g : GuessPayload) (m m' : Match) : Prop where
  settles : Settles F m m' (m.guesses.insert g.userID ⟨g.lat, g.lng, g.finalize, now⟩)
  player : ∃ p, m'.players.lookup g.userID = some p ∧ p.hasGuess = true ∧
    p.lastGuessLat = g.lat ∧ p.lastGuessLng = g.lng
  others : ∀ u p, m.players.lookup u = some p → u ≠ g.userID →
    ∃ p', m'.players.lookup u = some p' ∧ SamePoint p p'

theorem step_of_records {clk : Clock} {g : GuessPayload} {m : Match} (h : m.Records clk g) :
    m.step F (.submitGuess clk g) =
      if (m.recordGuess (clk.read 1) g).allFinal then
        (m.recordGuess (clk.read 1) g).resolveRound F (clk.drop 2)
      else m.recordGuess (clk.read 1) g := by
  have hopen : ¬ (m.Admits clk g ∧ m.roundExpired (clk.read 1) = true) := fun hexp => by
    rw [h.2.1] at hexp
    exact absurd hexp.2 (by decide)
  rw [step_submitGuess, if_neg hopen, if_pos h]

theorem recordGuess_oneGuess (now : ℕ) {g : GuessPayload} {m : Match} (h : g.userID ∈ m.players) :
    OneGuess F now g m (m.recordGuess now g) := by
  obtain ⟨p, hp⟩ := Assoc.mem_iff_exists.1 h
  refine ⟨.stand rfl rfl, ?_, fun u q hq hne => ⟨q, ?_, .refl q⟩⟩
  · unfold Match.recordGuess
    dsimp only
    rw [Assoc.lookup_modify_self, hp]
    exact ⟨_, rfl, rfl, rfl, rfl⟩
  · unfold Match.recordGuess
    dsimp only
    rw [Assoc.lookup_modify_ne hne]
    exact hq

theorem oneGuess_step {clk : Clock} {g : GuessPayload} {m : Match} (hinv : HpInv m)
    (h : m.Records clk g) : OneGuess F (clk.read 1) g m (m.step F (.submitGuess clk g)) := by
  have hrec := recordGuess_oneGuess (F := F) (clk.read 1) h.1.2.2.2
  rw [step_of_records h]
  split_ifs
  · have hsame := resolveRound_samePoint (F := F) (hinv.recordGuess (clk.read 1) g) (clk.drop 2)
    refine ⟨?_, ?_, fun u p hp hne => ?_⟩
    · exact settles_resolveRound (m := m.recordGuess (clk.read 1) g) m h.1.1 _ rfl rfl
        fun u hu => Assoc.mem_modify.2 hu
    · obtain ⟨p, hp, hguess, hlat, hlng⟩ := hrec.player
      obtain ⟨p', hp', hpoint⟩ := hsame.left hp
      exact ⟨p', hp', hpoint.1.trans hguess, hpoint.2.1.trans hlat, hpoint.2.2.trans hlng⟩
    · obtain ⟨q, hq, hpq⟩ := hrec.others u p hp hne
      obtain ⟨q', hq', hqq'⟩ := hsame.left hq
      exact ⟨q', hq', hpq.trans hqq'⟩
  · exact hrec

/-- With the pressure timer, the deadline after a finalized guess. -/
theorem deadline_step_of_records {clk : Clock} {g : GuessPayload} {m : Match} (h : m.Records clk g)
    (hfinalize : g.finalize = true) (hpressure : 0 < m.config.pressureTimeLimitMS) :
    (m.step F (.submitGuess clk g)).roundDeadline ≠ 0 ∧
      (m.step F (.submitGuess clk g)).roundDeadline ≤
        clk.read 1 + m.config.pressureTimeLimitMS.toNat * Time.millisecond := by
  have hset : (m.recordGuess (clk.read 1) g).roundDeadline = pressureDeadline m (clk.read 1) :=
    if_pos hfinalize
  obtain ⟨hne, hle⟩ := pressureDeadline_pressure hpressure (clk.read 1)
  rw [← hset] at hne hle
  rw [step_of_records h]
  split_ifs
  · obtain ⟨hne', hle'⟩ := (resolveRound_within (F := F) (clk.drop 2) _).deadline hne
    exact ⟨hne', hle'.trans hle⟩
  · exact ⟨hne, hle⟩

/-! ## The end of a round -/

/-- The invariant of the timer: the bound of the fixed timer, and the result of a round that waits for
the next one. -/
structure TimerInv (m : Match) : Prop extends HpInv m where
  begun : m.state = .live ∨ m.state = .ended
  fixed : m.config.roundTimerMode = .fixed → m.roundDeadline ≠ 0 ∧ m.roundDeadline ≤ m.fixedEnd
  pending : m.pendingAdvance = true → m.Resolved m.currentIndex

theorem startRoundTimer_fixed {m : Match}
    (h : (startRoundTimer m).config.roundTimerMode = .fixed) :
    (startRoundTimer m).roundDeadline ≠ 0 ∧
      (startRoundTimer m).roundDeadline ≤ (startRoundTimer m).fixedEnd := by
  unfold startRoundTimer Match.fixedEnd at *
  dsimp only at *
  split_ifs at h ⊢ with hmode
  · exact absurd h hmode
  · refine ⟨?_, le_rfl⟩
    have hintro : 0 < roundIntro := by decide
    dsimp only
    omega

namespace TimerInv

theorem created {id : MatchID} {playerIDs : List UserID} {m : Match}
    (h : Created F id playerIDs m) : TimerInv m := by
  have hnew := isNew_of_created h
  refine ⟨hpInv_created h, .inl hnew.live, ?_, fun hpending => ?_⟩
  · obtain ⟨clk, provider, profiles, opts, e, e', hc⟩ := h
    obtain ⟨mode, firstRound, -, -, -, -, rfl⟩ := createMatchWithOptions_ok hc
    exact startRoundTimer_fixed
  · rw [hnew.unresolved] at hpending
    cases hpending

/-- Within a round the invariant stays. -/
theorem within {m m' : Match} (h : TimerInv m) (hinv : HpInv m') (hw : Within m m') :
    TimerInv m' := by
  refine ⟨hinv, ?_, fun hfixed => ?_, fun hpending => ?_⟩
  · rcases hw.state with hstate | hended
    · rw [hstate]
      exact h.begun
    · exact .inr hended
  · rw [hw.config] at hfixed
    obtain ⟨hset, hle⟩ := h.fixed hfixed
    obtain ⟨hset', hle'⟩ := hw.deadline hset
    refine ⟨hset', hle'.trans ?_⟩
    unfold Match.fixedEnd at hle ⊢
    rw [hw.started, hw.config]
    exact hle
  · rw [hw.index_eq]
    rcases hw.pending hpending with hpending' | hresolved
    · exact (h.pending hpending').mono hw.results
    · exact hresolved

theorem advanceRound {m : Match} (h : TimerInv m) (hpending : m.pendingAdvance = true) (clk : Clock)
    (next : Except String LocationPoint) : TimerInv (m.advanceRound clk next) := by
  have hinv := h.toHpInv.advanceRound hpending clk next
  unfold Match.advanceRound at hinv ⊢
  simp only [hpending, Bool.not_true, Bool.false_eq_true, if_false] at hinv ⊢
  cases next with
  | error err => exact ⟨hinv, .inr rfl, h.fixed, by simp⟩
  | ok loc =>
      refine ⟨hinv, ?_, startRoundTimer_fixed, by simp⟩
      have hstate : ∀ m : Match, (startRoundTimer m).state = m.state := by
        intro m
        unfold startRoundTimer
        dsimp only
        split_ifs <;> rfl
      dsimp only
      rw [hstate]
      exact h.begun

theorem step {m : Match} (h : TimerInv m) (mop : MatchOp) : TimerInv (m.step F mop) := by
  rcases keepsRound_step (F := F) mop m with hkeeps | ⟨now, clk, hle, next, rfl, hlive, hp, hover⟩
  · rcases within_step (F := F) m mop with hw | hnext
    · exact h.within (h.toHpInv.step mop) hw
    · have hsame := hkeeps.index_eq
      omega
  · rw [step_tick, if_neg (not_not.2 hlive), if_pos hp, if_pos hover]
    exact h.advanceRound hp clk next

/-- A round whose time is over does not outlive a guess for it. -/
theorem submitGuess_over {m : Match} (h : TimerInv m) {clk : Clock} {g : GuessPayload}
    (hround : g.roundID = m.roundID) (hplayer : g.userID ∈ m.players)
    (hover : m.roundEnd < clk.read 1) :
    (m.step F (.submitGuess clk g)).Resolved m.currentIndex ∨
      (m.step F (.submitGuess clk g)).state = .ended := by
  have hexp := roundExpired_iff.2 hover
  by_cases hpending : m.pendingAdvance = true
  · exact .inl (resolved_step (h.pending hpending) _)
  rcases h.begun with hlive | hended
  · have hadmits : m.Admits clk g := ⟨hlive, hround, fun hwait => hpending hwait.1, hplayer⟩
    rw [step_submitGuess, if_pos ⟨hadmits, hexp⟩]
    exact .inl (resolved_resolveRound hlive _)
  · have hnot : ¬ m.Admits clk g := fun hadmits => by
      rw [hadmits.1] at hended
      cases hended
    rw [step_submitGuess, if_neg fun hc => hnot hc.1, if_neg fun hc => hnot hc.1]
    exact .inr hended

/-- Nor does it outlive a tick. -/
theorem tick_over {m : Match} (h : TimerInv m) {now : ℕ} (hover : m.roundEnd < now) (clk : Clock)
    (hle : now ≤ clk.start) (next : Except String LocationPoint) :
    (m.step F (.tick now clk hle next)).Resolved m.currentIndex ∨
      (m.step F (.tick now clk hle next)).state = .ended := by
  have hexp := roundExpired_iff.2 hover
  by_cases hpending : m.pendingAdvance = true
  · exact .inl (resolved_step (h.pending hpending) _)
  rcases h.begun with hlive | hended
  · left
    have hresolved : (m.tickRound F now clk).Resolved m.currentIndex := by
      have hannounce := announceLive_untouched now m
      unfold Match.tickRound
      rw [if_pos hexp, ← hannounce.index_eq]
      exact resolved_resolveRound (by rw [announceLive_state]; exact hlive) clk
    rw [step_tick, if_neg (not_not.2 hlive), if_neg hpending]
    exact hresolved.mono (keepsRound_sweep now _).results
  · right
    have hnot : m.state ≠ .live := by
      rw [hended]
      decide
    rw [step_tick, if_pos hnot]
    exact hended

end TimerInv

/-! ## Runs -/

/-- The run `ops` of an engine that is new at `t` leads to the match `m` under `id`. -/
def Reached (F : FloatMath) (t : ℕ) (ops : List Op) (id : MatchID) (m : Match) : Prop :=
  ∃ w, Run.exec (World.step F) (World.init t) ops = some w ∧ w.find id = some m

variable {t : ℕ} {pre mid : List Op} {op : Op} {id : MatchID} {m m' : Match}

/-- What creation establishes and every step preserves holds of the matches that are reached. -/
theorem Reached.invariant {I : Match → Prop}
    (hcreate : ∀ id playerIDs m, Created F id playerIDs m → I m)
    (hstep : ∀ m mop, Time.unixEpoch ≤ mop.start → I m → I (m.step F mop))
    (h : Reached F t pre id m) : I m := by
  obtain ⟨w, hw, hm⟩ := h
  have hC : Run.Guarded (World.step F) (EachStep fun _ _ => True) (World.init t) pre :=
    (Run.guarded_true _ _).mono fun _ _ _ _ _ _ _ _ _ => trivial
  have halways : Run.Always (World.step F) (AllMatches fun _ => I) (World.init t) pre :=
    always_of_matchInvariant (I := fun _ => I) (Q := fun _ => True)
      (fun id playerIDs m _ hc => hcreate id playerIDs m hc)
      (fun _ m mop hclock h _ => hstep m mop hclock h) (fun _ _ h => h)
      (fun op _ => op.creates_true) hC
  exact halways.exec hw id m hm

theorem Reached.timerInv (h : Reached F t pre id m) : TimerInv m :=
  h.invariant (fun _ _ _ => .created) fun _ mop _ h => h.step mop

/-- One operation later. -/
theorem Reached.after (h : Reached F t pre id m) (h' : Reached F t (pre ++ [op]) id m') :
    m' = m.after F id op := by
  obtain ⟨w, hw, hm⟩ := h
  obtain ⟨w', hw', hm'⟩ := h'
  rw [Run.exec_concat, hw, Option.bind_some] at hw'
  exact Option.some.inj (hm'.symm.trans (World.find_step_of_some hw' hm))

/-- A match that is reached goes on along the run. -/
theorem Reached.next (h : Reached F t pre id m) (h' : Reached F t (pre ++ op :: mid) id m') :
    Reached F t (pre ++ [op]) id (m.after F id op) := by
  obtain ⟨w, hw, hm⟩ := h
  obtain ⟨w', hw', -⟩ := h'
  rw [Run.exec_append, hw, Option.bind_some] at hw'
  obtain ⟨w₁, hw₁, -⟩ := Option.bind_eq_some_iff.1 hw'
  refine ⟨w₁, ?_, World.find_step_of_some hw₁ hm⟩
  rw [Run.exec_concat, hw, Option.bind_some, hw₁]

/-- A later state of a match: within the round, if its index is the same. -/
theorem later_after (m : Match) (id : MatchID) (op : Op) :
    Within m (m.after F id op) ∨ (m.after F id op).currentIndex = m.currentIndex + 1 := by
  unfold Match.after
  cases op.on id m with
  | none => exact .inl (.refl m)
  | some mop => exact within_step m mop

/-- Two states of a run with the same round, by induction on the operations between them. -/
theorem Reached.within (h : Reached F t pre id m) (h' : Reached F t (pre ++ mid) id m') :
    m.currentIndex ≤ m'.currentIndex ∧ (m'.currentIndex = m.currentIndex → Within m m') := by
  induction mid generalizing pre m with
  | nil =>
      rw [List.append_nil] at h'
      obtain ⟨w, hw, hm⟩ := h
      obtain ⟨w', hw', hm'⟩ := h'
      obtain rfl := Option.some.inj (hw.symm.trans hw')
      obtain rfl := Option.some.inj (hm.symm.trans hm')
      exact ⟨le_rfl, fun _ => .refl m⟩
  | cons op mid ih =>
      have hnext := h.next h'
      rw [← List.singleton_append, ← List.append_assoc] at h'
      obtain ⟨hle, hwithin⟩ := ih hnext h'
      rcases later_after (F := F) m id op with hw | hindex
      · rw [hw.index_eq] at hle hwithin
        exact ⟨hle, fun hround => hw.trans (hwithin hround)⟩
      · rw [hindex] at hle
        exact ⟨by omega, fun hround => by omega⟩

/-- What holds within the rounds of every run. -/
structure RoundLaw (F : FloatMath) (t : ℕ) : Prop where
  deadline : ∀ pre mid id m m', Reached F t pre id m → Reached F t (pre ++ mid) id m' →
    m'.currentIndex = m.currentIndex → m.roundDeadline ≠ 0 →
      m'.roundDeadline ≠ 0 ∧ m'.roundDeadline ≤ m.roundDeadline
  fixed : ∀ ops id m, Reached F t ops id m → m.config.roundTimerMode = .fixed →
    m.roundDeadline ≠ 0 ∧ m.roundDeadline ≤ m.fixedEnd
  pressure : ∀ pre clk g mid m m', Reached F t pre g.matchID m →
    Reached F t (pre ++ .submitGuess clk g :: mid) g.matchID m' →
    m'.currentIndex = m.currentIndex → m.Records clk g → g.finalize = true →
    0 < m.config.pressureTimeLimitMS → m'.roundDeadline ≠ 0 ∧
      m'.roundDeadline ≤ clk.read 1 + m.config.pressureTimeLimitMS.toNat * Time.millisecond
  recorded : ∀ pre clk g m m', Reached F t pre g.matchID m →
    Reached F t (pre ++ [.submitGuess clk g]) g.matchID m' → m.Records clk g →
      m.roundStartedAt + roundIntro ≤ clk.read 1 ∧ clk.read 1 ≤ m.roundEnd ∧
        OneGuess F (clk.read 1) g m m'
  unrecorded : ∀ pre op id m m', Reached F t pre id m → Reached F t (pre ++ [op]) id m' →
    m'.currentIndex = m.currentIndex →
    (∀ clk g, op = .submitGuess clk g → g.matchID = id → ¬ m.Records clk g) → NoGuess F m m'
  finalized : ∀ pre mid id m m', Reached F t pre id m → Reached F t (pre ++ mid) id m' →
    m'.currentIndex = m.currentIndex → m'.roundResults = m.roundResults →
    ∀ u g, m.guesses.lookup u = some g → g.finalized = true → m'.guesses.lookup u = some g ∧
      ∀ p, m.players.lookup u = some p → ∃ p', m'.players.lookup u = some p' ∧ SamePoint p p'
  expired : ∀ pre op id m m', Reached F t pre id m → Reached F t (pre ++ [op]) id m' →
    ((∃ clk provider, op = .tick clk provider ∧ m.roundEnd < clk.now) ∨
      (∃ clk g, op = .submitGuess clk g ∧ g.matchID = id ∧ g.roundID = m.roundID ∧
        g.userID ∈ m.players ∧ m.roundEnd < clk.read 1)) →
      m'.Resolved m.currentIndex ∨ m'.state = .ended

theorem after_submitGuess (m : Match) (clk : Clock) (g : GuessPayload) :
    m.after F g.matchID (.submitGuess clk g) = m.step F (.submitGuess clk g) := by
  simp [Match.after, Op.on]

theorem after_tick (m : Match) (id : MatchID) (clk : TickClock MatchID) (provider : RoundProvider) :
    m.after F id (.tick clk provider) = m.step F (.tick clk.now (clk.later id) (clk.now_le id)
      (provider m.id (m.currentIndex + 1))) := rfl

/-- From a finalized guess on, to the end of the round. -/
theorem Reached.pressure {clk : Clock} {g : GuessPayload} (h : Reached F t pre g.matchID m)
    (h' : Reached F t (pre ++ .submitGuess clk g :: mid) g.matchID m')
    (hround : m'.currentIndex = m.currentIndex) (hrecords : m.Records clk g)
    (hfinalize : g.finalize = true) (hpressure : 0 < m.config.pressureTimeLimitMS) :
    m'.roundDeadline ≠ 0 ∧
      m'.roundDeadline ≤ clk.read 1 + m.config.pressureTimeLimitMS.toNat * Time.millisecond := by
  have hnext := h.next h'
  rw [after_submitGuess] at hnext
  rw [← List.singleton_append, ← List.append_assoc] at h'
  obtain ⟨hset, hle⟩ := deadline_step_of_records (F := F) hrecords hfinalize hpressure
  have hindex : (m.step F (.submitGuess clk g)).currentIndex = m.currentIndex := by
    rw [step_of_records hrecords]
    split_ifs
    · exact (resolveRound_within _ _).index_eq
    · rfl
  obtain ⟨hset', hle'⟩ := ((hnext.within h').2 (hround.trans hindex.symm)).deadline hset
  exact ⟨hset', hle'.trans hle⟩

/-- A step on the match that records no guess. -/
theorem Reached.noGuess (h : Reached F t pre id m) (h' : Reached F t (pre ++ [op]) id m')
    (hround : m'.currentIndex = m.currentIndex)
    (hnot : ∀ clk g, op = .submitGuess clk g → g.matchID = id → ¬ m.Records clk g) :
    NoGuess F m m' := by
  obtain rfl := h.after h'
  unfold Match.after at hround ⊢
  cases hop : op.on id m with
  | none => exact (Untouched.refl m).noGuess
  | some mop =>
      simp only [hop] at hround
      refine noGuess_step h.timerInv.toHpInv (fun clk g hmop => ?_) hround
      rw [hmop] at hop
      obtain ⟨rfl, hid⟩ := Op.on_submitGuess hop
      exact hnot clk g rfl hid

/-- In every run the deadline of a round is only brought forward, guesses are recorded in its window
only, finalized ones stay until they are scored, and a round whose time is over does not outlive the
next tick or guess. -/
theorem roundLaw (F : FloatMath) (t : ℕ) : RoundLaw F t where
  deadline := fun _ _ _ _ _ h h' hround hset => ((h.within h').2 hround).deadline hset
  fixed := fun _ _ _ h hfixed => h.timerInv.fixed hfixed
  pressure := fun _ _ _ _ _ _ h h' hround hrecords hfinalize hpressure =>
    h.pressure h' hround hrecords hfinalize hpressure
  recorded := by
    intro pre clk g m m' h h' hrecords
    obtain rfl := h.after h'
    rw [after_submitGuess]
    refine ⟨hrecords.2.2.1, ?_, oneGuess_step h.timerInv.toHpInv hrecords⟩
    have hopen := hrecords.2.1
    rw [← Bool.not_eq_true, roundExpired_iff] at hopen
    exact not_lt.1 hopen
  unrecorded := fun _ _ _ _ _ h h' hround hnot => h.noGuess h' hround hnot
  finalized := fun _ _ _ _ _ h h' hround hresults => ((h.within h').2 hround).finalized hresults
  expired := by
    intro pre op id m m' h h' hop
    obtain rfl := h.after h'
    rcases hop with ⟨clk, provider, rfl, hover⟩ | ⟨clk, g, rfl, rfl, hround, hplayer, hover⟩
    · rw [after_tick]
      exact h.timerInv.tick_over hover _ _ _
    · rw [after_submitGuess]
      exact h.timerInv.submitGuess_over hround hplayer hover

/-- The first finalized guess, at second 3, sets the deadline 15 seconds later. -/
example : ((Run.exec (World.step .coarse) (World.init 0)
    [createAt 0, guessAt 3 "u1" 1]).bind fun w => w.find "m").map Match.roundDeadline =
      some (Time.unixEpoch + 18 * Time.second) := by
  decide +kernel

end GeoDuels.Duel
