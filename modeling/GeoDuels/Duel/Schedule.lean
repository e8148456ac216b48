import GeoDuels.Duel.Deadline
import GeoDuels.Duel.Rounds

/-!
# Every match comes to its end

The node ticks its matches; `Ticking δ` says that every moment of a run lies within `δ` of the start
of the latest tick.  A tick resolves a round whose time is over and advances a match whose
intermission is over, so a round takes at most `roundPeriod δ`, whatever the players do, and the
number of rounds bounds the age of a live match.  The guesses that resolve a resolved round are left
out, as they set the intermission anew each time.
-/

namespace GeoDuels.Duel

variable {F : FloatMath}

/-- The longest time from the start of a round to its deadline: without a deadline a guess counts
until the idle cap, and the last of them can start the pressure timer. -/
def roundLength : ℕ :=
  roundIntro + roundIdleCap + defaultPressureTimeMS.toNat * Time.millisecond

/-- The longest time between the starts of two rounds, under ticks `δ` apart. -/
def roundPeriod (δ : ℕ) : ℕ := roundLength + resultDuration + 2 * δ

/-- The number of rounds that a match of the mode has at most. -/
def roundsOf (mode : MatchMode) : ℕ := if mode = .freeForAll then ffaRounds else maxRounds

/-- The start of the latest tick, after an operation. -/
def Op.lastTick (τ : ℕ) : Op → ℕ
  | .tick clk _ => clk.now
  | _ => τ

def MatchOp.lastTick (τ : ℕ) : MatchOp → ℕ
  | .tick now .. => now
  | _ => τ

/-- No operation of the run stops more than `δ` after the start of the latest tick, where `τ` is the
latest one before the run. -/
def Ticking (δ : ℕ) : ℕ → List Op → Prop
  | _, [] => True
  | τ, op :: ops => op.stop ≤ τ + δ ∧ Ticking δ (op.lastTick τ) ops

instance Ticking.decidable (δ : ℕ) : ∀ τ ops, Decidable (Ticking δ τ ops)
  | _, [] => .isTrue trivial
  | τ, op :: ops =>
      have := Ticking.decidable δ (op.lastTick τ) ops
      inferInstanceAs (Decidable (_ ∧ _))

/-- A time that the readings of the step do not exceed. -/
def MatchOp.stop : MatchOp → ℕ
  | .submitGuess clk _ | .tick _ clk _ _ | .markDisconnected clk _ | .markResumed clk _
  | .forfeit clk _ => clk.stop

/-- A live match is no older than its rounds can take. -/
def NotOverdue (δ : ℕ) (w : World) : Prop :=
  ∀ id m, w.find id = some m → m.state = .live →
    w.clock ≤ m.createdAt + roundsOf m.mode * roundPeriod δ

/-- The timers of the match are those of a normalized config. -/
def CappedTimers (cfg : MatchConfig) : Prop :=
  cfg.roundTimerMode ≠ .pressure ∧ cfg.pressureTimeLimitMS ≤ defaultPressureTimeMS

/-- The phase of a match is not over for longer than since the tick at `τ`. -/
structure OnTime (δ τ : ℕ) (m : Match) : Prop where
  timers : CappedTimers m.config
  deadline : m.roundDeadline ≤ m.roundStartedAt + roundLength
  started : m.roundStartedAt ≤ m.createdAt + m.currentIndex * roundPeriod δ
  unresolved : m.state = .live → m.pendingAdvance = false → τ ≤ m.roundEnd
  resolved : m.state = .live → m.pendingAdvance = true →
    τ ≤ m.intermissionUntil ∧
      m.intermissionUntil ≤ m.roundStartedAt + roundLength + δ + resultDuration

theorem cappedTimers_normalize (cfg : MatchConfig) : CappedTimers (normalizeMatchConfig cfg) := by
  have hcap (p : ℤ) : (if p ≠ defaultPressureTimeMS then 0 else p) ≤ defaultPressureTimeMS := by
    split_ifs with h
    · decide
    · exact (not_not.1 h).le
  refine ⟨?_, hcap _⟩
  unfold normalizeMatchConfig
  dsimp only
  split_ifs <;> decide

theorem normalizeFixedRoundTime_le (ms : ℤ) :
    normalizeFixedRoundTime ms ≤ maximumFixedRoundTimeMS := by
  unfold normalizeFixedRoundTime
  dsimp only
  split_ifs <;> omega

@[simp] theorem startRoundTimer_config (m : Match) :
    (startRoundTimer m).config = normalizeMatchConfig m.config := by
  unfold startRoundTimer
  dsimp only
  split_ifs <;> rfl

@[simp] theorem startRoundTimer_started (m : Match) :
    (startRoundTimer m).roundStartedAt = m.roundStartedAt := by
  unfold startRoundTimer
  dsimp only
  split_ifs <;> rfl

@[simp] theorem startRoundTimer_createdAt (m : Match) :
    (startRoundTimer m).createdAt = m.createdAt := by
  unfold startRoundTimer
  dsimp only
  split_ifs <;> rfl

@[simp] theorem startRoundTimer_currentIndex (m : Match) :
    (startRoundTimer m).currentIndex = m.currentIndex := by
  unfold startRoundTimer
  dsimp only
  split_ifs <;> rfl

@[simp] theorem startRoundTimer_pendingAdvance (m : Match) :
    (startRoundTimer m).pendingAdvance = m.pendingAdvance := by
  unfold startRoundTimer
  dsimp only
  split_ifs <;> rfl

/-- The deadline of the fixed timer lies within the length of a round. -/
theorem startRoundTimer_deadline {m : Match} (h : m.roundDeadline = 0) :
    (startRoundTimer m).roundDeadline ≤ m.roundStartedAt + roundLength := by
  unfold startRoundTimer
  dsimp only
  split_ifs with hmode
  · simp [h]
  · have hfixed : m.config.roundTimerMode = .fixed := by
      by_contra hne
      exact hmode (by simp [normalizeMatchConfig, hne])
    have hlimit : (normalizeMatchConfig m.config).roundTimeLimitMS ≤ maximumFixedRoundTimeMS := by
      simpa [normalizeMatchConfig, hfixed] using normalizeFixedRoundTime_le _
    simp only [roundLength, roundIntro, roundIdleCap, maximumFixedRoundTimeMS, Time.minute,
      Time.second, Time.millisecond] at hlimit ⊢
    omega

/-- A round that has just started is not over. -/
theorem started_le_roundEnd (m : Match) (h : m.roundDeadline = 0) :
    m.roundStartedAt ≤ (startRoundTimer m).roundEnd := by
  unfold Match.roundEnd startRoundTimer
  dsimp only
  split_ifs <;> dsimp only at * <;> omega

namespace OnTime

variable {δ τ : ℕ} {m m' : Match}

theorem roundEnd_le (h : OnTime δ τ m) : m.roundEnd ≤ m.roundStartedAt + roundLength := by
  have hdeadline := h.deadline
  unfold Match.roundEnd
  split_ifs
  · unfold roundLength
    omega
  · exact hdeadline

/-- A write that leaves the times of the round alone. -/
theorem frame (h : OnTime δ τ m) (hconfig : m'.config = m.config)
    (hdeadline : m'.roundDeadline = m.roundDeadline)
    (hstarted : m'.roundStartedAt = m.roundStartedAt) (hcreated : m'.createdAt = m.createdAt)
    (hindex : m'.currentIndex = m.currentIndex)
    (hintermission : m'.intermissionUntil = m.intermissionUntil)
    (hpending : m'.pendingAdvance = m.pendingAdvance)
    (hstate : m'.state = .live → m.state = .live) : OnTime δ τ m' where
  timers := by rw [hconfig]; exact h.timers
  deadline := by rw [hdeadline, hstarted]; exact h.deadline
  started := by rw [hstarted, hcreated, hindex]; exact h.started
  unresolved := by
    intro hlive hopen
    rw [Match.roundEnd, hdeadline, hstarted]
    exact h.unresolved (hstate hlive) (hpending ▸ hopen)
  resolved := by
    intro hlive hwait
    rw [hintermission, hstarted]
    exact h.resolved (hstate hlive) (hpending ▸ hwait)

/-- An ended match is on time. -/
theorem ended (h : OnTime δ τ m) (τ' : ℕ) (hconfig : m'.config = m.config)
    (hdeadline : m'.roundDeadline = m.roundDeadline)
    (hstarted : m'.roundStartedAt = m.roundStartedAt) (hcreated : m'.createdAt = m.createdAt)
    (hindex : m'.currentIndex = m.currentIndex) (hstate : m'.state ≠ .live) : OnTime δ τ' m' where
  timers := by rw [hconfig]; exact h.timers
  deadline := by rw [hdeadline, hstarted]; exact h.deadline
  started := by rw [hstarted, hcreated, hindex]; exact h.started
  unresolved := fun hlive => absurd hlive hstate
  resolved := fun hlive => absurd hlive hstate

/-- A later tick that finds the phase of the match not over. -/
theorem later (h : OnTime δ τ m) {τ' : ℕ}
    (hopen : m.state = .live → m.pendingAdvance = false → τ' ≤ m.roundEnd)
    (hwait : m.state = .live → m.pendingAdvance = true → τ' ≤ m.intermissionUntil) :
    OnTime δ τ' m :=
  ⟨h.timers, h.deadline, h.started, hopen, fun hlive hpending =>
    ⟨hwait hlive hpending, (h.resolved hlive hpending).2⟩⟩

/-- The deadline that a guess before the end of the round sets. -/
theorem pressureDeadline_le (h : OnTime δ τ m) {now : ℕ} (hnow : now ≤ m.roundEnd) :
    pressureDeadline m now ≤ m.roundStartedAt + roundLength := by
  have hdeadline := h.deadline
  obtain ⟨hmode, hcap⟩ := h.timers
  have hpressure : (if m.config.roundTimerMode = .pressure ∧ m.config.pressureTimeLimitMS ≤ 0 then
      defaultPressureTimeMS else m.config.pressureTimeLimitMS) = m.config.pressureTimeLimitMS :=
    if_neg fun hp => hmode hp.1
  have hmul := Nat.mul_le_mul_right Time.millisecond (Int.toNat_le_toNat hcap)
  unfold pressureDeadline
  dsimp only
  rw [hpressure]
  split_ifs with hpos hsooner
  · rcases hsooner with hzero | hlt
    · have hunset : m.roundDeadline = 0 := by simpa [Time.isZero] using hzero
      rw [Match.roundEnd, if_pos hunset] at hnow
      unfold roundLength
      omega
    · omega
  · exact hdeadline
  · exact hdeadline

theorem recordGuess (h : OnTime δ τ m) {now : ℕ} (hτ : τ ≤ now) (hnow : now ≤ m.roundEnd)
    (g : GuessPayload) : OnTime δ τ (m.recordGuess now g) where
  timers := h.timers
  deadline := by
    show (if g.finalize = true then pressureDeadline m now else m.roundDeadline) ≤ _
    split_ifs
    · exact h.pressureDeadline_le hnow
    · exact h.deadline
  started := h.started
  unresolved := by
    intro hlive hopen
    have hold := h.unresolved hlive hopen
    show τ ≤ (m.recordGuess now g).roundEnd
    unfold Match.roundEnd Match.recordGuess pressureDeadline at *
    dsimp only at *
    split_ifs at * <;> omega
  resolved := h.resolved

/-- The round is resolved within `δ` of a tick that did not find its time over. -/
theorem resolveRound (h : OnTime δ τ m) {τ' : ℕ} (hlive : m.state = .live) (hτ : τ ≤ m.roundStartedAt + roundLength)
    {clk : Clock} (hτ' : τ' ≤ clk.start) (hstop : clk.stop ≤ τ + δ) :
    OnTime δ τ' (m.resolveRound F clk) := by
  have hread := clk.le_stop 1
  have hstart := clk.start_le_read 1
  rw [Match.resolveRound, if_neg (not_not.2 hlive)]
  dsimp only
  split_ifs with hended
  · exact h.ended τ' rfl rfl rfl rfl rfl fun hlive' => by rw [hended] at hlive'; cases hlive'
  · refine ⟨h.timers, h.deadline, h.started, fun _ hopen => ?_, fun _ _ => ?_⟩
    · cases hopen
    · dsimp only
      omega

/-- A round that starts at `τ` or later. -/
theorem starts {m₁ : Match} (hconfig : m'.config = (startRoundTimer m₁).config)
    (hdeadline : m'.roundDeadline = (startRoundTimer m₁).roundDeadline)
    (hstarted : m'.roundStartedAt = m₁.roundStartedAt) (hopen : m'.pendingAdvance = false)
    (hunset : m₁.roundDeadline = 0)
    (hbegun : m'.roundStartedAt ≤ m'.createdAt + m'.currentIndex * roundPeriod δ)
    (hτ : τ ≤ m₁.roundStartedAt) : OnTime δ τ m' where
  timers := by rw [hconfig, startRoundTimer_config]; exact cappedTimers_normalize _
  deadline := by rw [hdeadline, hstarted]; exact startRoundTimer_deadline hunset
  started := hbegun
  unresolved := by
    intro _ _
    refine hτ.trans ((started_le_roundEnd m₁ hunset).trans_eq ?_)
    rw [Match.roundEnd, Match.roundEnd, hdeadline, hstarted, startRoundTimer_started]
  resolved := by
    intro _ hwait
    rw [hopen] at hwait
    cases hwait

theorem advanceRound (h : OnTime δ τ m) {τ' : ℕ} (hlive : m.state = .live)
    (hpending : m.pendingAdvance = true) {clk : Clock} (hτ' : τ' ≤ clk.start)
    (hstop : clk.stop ≤ τ + δ) (next : Except String LocationPoint) :
    OnTime δ τ' (m.advanceRound clk next) := by
  obtain ⟨hτ, hwait⟩ := h.resolved hlive hpending
  have hread := clk.le_stop 0
  have hold := h.started
  unfold Match.advanceRound
  rw [if_neg (by simp [hpending])]
  cases next with
  | error err => exact h.ended τ' rfl rfl rfl rfl rfl (by simp)
  | ok loc =>
      refine starts rfl rfl (startRoundTimer_started _) rfl rfl ?_ hτ'
      dsimp only
      rw [startRoundTimer_started, startRoundTimer_createdAt, startRoundTimer_currentIndex,
        Nat.succ_mul]
      dsimp only
      unfold roundPeriod at hold ⊢
      omega

/-- The announcement writes no time of the round. -/
theorem announceLive (h : OnTime δ τ m) (now : ℕ) : OnTime δ τ (m.announceLive now) := by
  rcases announceLive_cases now m with heq | heq <;> rw [heq]
  · exact h
  · exact h.frame rfl rfl rfl rfl rfl rfl rfl id

/-- The tick of an open round. -/
theorem tickRound (h : OnTime δ τ m) (hlive : m.state = .live) (hopen : m.pendingAdvance = false)
    {now : ℕ} {clk : Clock} (hle : now ≤ clk.start) (hstop : clk.stop ≤ τ + δ) :
    OnTime δ now (m.tickRound F now clk) := by
  have hlength := (h.unresolved hlive hopen).trans h.roundEnd_le
  unfold Match.tickRound
  split_ifs with hexpired
  · refine (h.announceLive now).resolveRound (by rw [announceLive_state]; exact hlive) ?_ hle hstop
    rw [(announceLive_untouched now m).started]
    exact hlength
  · have hbefore : now ≤ m.roundEnd := not_lt.1 fun hlt => hexpired (roundExpired_iff.2 hlt)
    refine (h.later (fun _ _ => hbefore) fun _ hwait => ?_).announceLive now
    rw [hopen] at hwait
    cases hwait

/-- The steps on a match between two ticks, and a tick. -/
theorem step (h : OnTime δ τ m) {mop : MatchOp} (hC : NoLateResolve m mop) (hstart : τ ≤ mop.start)
    (hstop : mop.stop ≤ τ + δ) : OnTime δ (mop.lastTick τ) (m.step F mop) := by
  have hroundEnd := h.roundEnd_le
  cases mop with
  | submitGuess clk g =>
      have hread : τ ≤ clk.read 1 := hstart.trans (clk.start_le_read 1)
      have hdrop : τ ≤ (clk.drop 2).start := hstart.trans (clk.mono (Nat.zero_le _))
      rw [step_submitGuess]
      split_ifs with hexpired hrecords hfinal
      · -- a guess too late: its round is resolved, for the first time
        have hopen : m.pendingAdvance = false := by
          by_contra hp
          exact hC ⟨by simpa using hp, .inl hexpired⟩
        have hlive := hexpired.1.1
        exact h.resolveRound hlive ((h.unresolved hlive hopen).trans hroundEnd) hdrop hstop
      · have hlive := hrecords.1.1
        have hopen : m.pendingAdvance = false := by
          by_contra hp
          exact hC ⟨by simpa using hp, .inr ⟨hrecords, (allFinal_recordGuess hrecords.1.2.2.2 _).1 hfinal⟩⟩
        have hbefore : clk.read 1 ≤ m.roundEnd := by
          have hnot := hrecords.2.1
          rw [← Bool.not_eq_true, roundExpired_iff] at hnot
          exact not_lt.1 hnot
        exact (h.recordGuess hread hbefore g).resolveRound hlive
          ((h.unresolved hlive hopen).trans hroundEnd) hdrop hstop
      · have hbefore : clk.read 1 ≤ m.roundEnd := by
          have hnot := hrecords.2.1
          rw [← Bool.not_eq_true, roundExpired_iff] at hnot
          exact not_lt.1 hnot
        exact h.recordGuess hread hbefore g
      · exact h
  | tick now clk hle next =>
      have hτ : τ ≤ now := hstart
      rw [step_tick]
      split_ifs with hlive hpending hover
      · exact h.later (fun hl => absurd hl hlive) fun hl => absurd hl hlive
      · exact h.advanceRound (not_not.1 hlive) hpending hle hstop next
      · refine h.later (fun _ hopen => ?_) fun _ _ => not_lt.1 hover
        rw [hpending] at hopen
        cases hopen
      · have hlive := not_not.1 hlive
        have hopen : m.pendingAdvance = false := by simpa using hpending
        have hround := h.tickRound (F := F) hlive hopen hle hstop
        rcases sweep_eq now (m.tickRound F now clk) with heq | ⟨out, _, _, -, heq⟩ <;> rw [heq]
        · exact hround
        · exact hround.ended _ rfl rfl rfl rfl rfl (by simp)
  | markDisconnected clk u =>
      rw [step_markDisconnected]
      split_ifs
      · exact h.frame rfl rfl rfl rfl rfl rfl rfl id
      · exact h
  | markResumed clk u =>
      rw [step_markResumed]
      split_ifs
      · exact h.frame rfl rfl rfl rfl rfl rfl rfl id
      · exact h
  | forfeit clk u =>
      rw [step_forfeit]
      split_ifs
      · exact h.ended _ rfl rfl rfl rfl rfl (by simp)
      · exact h

/-- The age of a live match, by its rounds. -/
theorem age (h : OnTime δ τ m) (hrounds : RoundsInv m) (hlive : m.state = .live) :
    τ + δ ≤ m.createdAt + roundsOf m.mode * roundPeriod δ := by
  have hstarted := h.started
  have hindex : m.currentIndex + 1 ≤ roundsOf m.mode := by
    have hmax := hrounds.lt_max hlive
    have hffa := hrounds.lt_ffa hlive
    have hlength : m.currentIndex ≤ m.roundResults.length := by
      cases hp : m.pendingAdvance with
      | false => exact (hrounds.unresolved hlive hp).ge
      | true =>
          have := hrounds.resolved hlive hp
          omega
    unfold roundsOf
    split_ifs with hmode
    · have := hffa hmode
      omega
    · omega
  have hperiods := Nat.mul_le_mul_right (roundPeriod δ) hindex
  rw [Nat.succ_mul] at hperiods
  -- one period covers what is left of the round, in either phase
  have hphase : τ + δ ≤ m.roundStartedAt + roundPeriod δ := by
    unfold roundPeriod
    cases hp : m.pendingAdvance with
    | false =>
        have hopen := (h.unresolved hlive hp).trans h.roundEnd_le
        omega
    | true =>
        obtain ⟨hτ, hwait⟩ := h.resolved hlive hp
        omega
  omega

/-- A match that an operation creates after the tick at `τ`. -/
theorem created {op : Op} {id : MatchID} (hm : op.creation F id = some m) (hτ : τ ≤ op.start) :
    OnTime δ (op.lastTick τ) m := by
  cases op with
  | createMatch clk provider matchID playerIDs profiles opts =>
      simp only [Op.creation, Option.ite_none_right_eq_some, Option.map_eq_some_iff] at hm
      obtain ⟨-, ⟨m', e'⟩, hc, rfl⟩ := hm
      cases hcreate : Engine.new.createMatchWithOptions F clk provider matchID playerIDs profiles
          opts with
      | error err =>
          rw [hcreate] at hc
          cases hc
      | ok created =>
          rw [hcreate] at hc
          obtain rfl := Option.some.inj hc
          obtain ⟨mode, firstRound, -, -, -, -, rfl⟩ := createMatchWithOptions_ok hcreate
          have hread : clk.read 0 ≤ clk.read 1 := clk.start_le_read 1
          refine starts rfl rfl (startRoundTimer_started _) (startRoundTimer_pendingAdvance _) rfl ?_
            hτ
          unfold newMatch
          rw [startRoundTimer_started, startRoundTimer_createdAt]
          exact hread.trans (Nat.le_add_right _ _)
  | tick | submitGuess | markDisconnected | markResumed | forfeit => cases hm

end OnTime

/-! ## Runs -/

/-- All matches are on time, and the latest tick started at `τ`, no more than `δ` ago. -/
structure OnSchedule (δ τ : ℕ) (w : World) : Prop where
  reached : τ ≤ w.clock
  recent : w.clock ≤ τ + δ
  rounds : AllMatches (fun _ => RoundsInv) w
  onTime : AllMatches (fun _ => OnTime δ τ) w

/-- How the match meets the times of the operation. -/
theorem Op.on_times {id : MatchID} {m : Match} {op : Op} {mop : MatchOp}
    (h : op.on id m = some mop) (τ : ℕ) :
    mop.start = op.start ∧ mop.stop ≤ op.stop ∧ mop.lastTick τ = op.lastTick τ := by
  cases op with
  | createMatch => cases h
  | tick clk provider =>
      obtain rfl := Option.some.inj h
      exact ⟨rfl, clk.le_stop id, rfl⟩
  | submitGuess clk g | markDisconnected clk _ u | markResumed clk _ u | forfeit clk _ u =>
      simp only [Op.on] at h
      split_ifs at h
      obtain rfl := Option.some.inj h
      exact ⟨rfl, le_rfl, rfl⟩

theorem Op.lastTick_of_on_none {id : MatchID} {m : Match} {op : Op} (h : op.on id m = none) (τ : ℕ) :
    op.lastTick τ = τ := by
  cases op with
  | tick => cases h
  | createMatch | submitGuess | markDisconnected | markResumed | forfeit => rfl

theorem Op.lastTick_le {τ : ℕ} {op : Op} (h : τ ≤ op.start) : τ ≤ op.lastTick τ ∧
    op.lastTick τ ≤ op.stop := by
  have hstop := op.start_le_stop
  cases op with
  | tick clk _ => exact ⟨h, hstop⟩
  | createMatch | submitGuess | markDisconnected | markResumed | forfeit =>
      exact ⟨le_rfl, h.trans hstop⟩

namespace OnSchedule

variable {δ τ : ℕ} {w w' : World} {op : Op}

/-- One operation of a ticking run. -/
theorem step (h : OnSchedule δ τ w) (hC : EachStep NoLateResolve w op) (hstop : op.stop ≤ τ + δ)
    (hw : w.step F op = some w') : OnSchedule δ (op.lastTick τ) w' := by
  obtain ⟨hle, hw'⟩ := World.step_eq_some hw
  have hτ : τ ≤ op.start := h.reached.trans hle
  obtain ⟨hlater, htick⟩ := Op.lastTick_le hτ
  have hclock : w'.clock = op.stop := by rw [hw']
  -- what the operation makes of every match, old or new
  have hall : AllMatches (fun _ m => RoundsInv m ∧ OnTime δ (op.lastTick τ) m) w' := by
    intro id m' hm'
    cases hm : w.find id with
    | none =>
        have hnone : w.engine.allMatches.lookup id = none := hm
        rw [hw'] at hm'
        obtain ⟨_, -, hcreated⟩ := Engine.created_of_lookup_step hnone hm' op.creates_true
        have hcreation : op.creation F id = some m' :=
          (Engine.lookup_step_of_none hnone op).symm.trans hm'
        exact ⟨roundsInv_created hcreated, .created hcreation hτ⟩
    | some m =>
        rw [World.find_step_of_some hw hm, Option.some.injEq] at hm'
        subst hm'
        have hrounds := h.rounds id m hm
        have honTime := h.onTime id m hm
        unfold Match.after
        cases hop : op.on id m with
        | none => exact ⟨hrounds, by rw [Op.lastTick_of_on_none hop]; exact honTime⟩
        | some mop =>
            obtain ⟨hmstart, hmstop, hmtick⟩ := Op.on_times hop τ
            have hmC := hC id m hm mop hop
            rw [← hmtick]
            exact ⟨hrounds.step hmC,
              honTime.step hmC (hτ.trans_eq hmstart.symm) (hmstop.trans hstop)⟩
  exact ⟨by rw [hclock]; exact htick, by rw [hclock]; omega, fun id m hm => (hall id m hm).1,
    fun id m hm => (hall id m hm).2⟩

theorem notOverdue (h : OnSchedule δ τ w) : NotOverdue δ w := fun id m hm hlive =>
  h.recent.trans ((h.onTime id m hm).age (h.rounds id m hm) hlive)

/-- A ticking run, by induction on its operations. -/
theorem run {ops : List Op} (h : OnSchedule δ τ w) (hticks : Ticking δ τ ops)
    (hC : Run.Guarded (World.step F) (EachStep NoLateResolve) w ops) :
    Run.Always (World.step F) (NotOverdue δ) w ops := by
  refine ⟨h.notOverdue, ?_⟩
  induction ops generalizing τ w with
  | nil => trivial
  | cons op ops ih =>
      intro w' hw'
      obtain ⟨hguard, hrest⟩ := hC w' hw'
      have h' := h.step hguard hticks.1 hw'
      exact ⟨h'.notOverdue, ih h' hticks.2 hrest⟩

end OnSchedule

/-- Under ticks at most `δ` apart a match is over after its rounds' worth of periods, whatever its
players and the round provider do, as long as no guess resolves a resolved round again. -/
theorem notOverdue_of_ticking (F : FloatMath) (t δ : ℕ) (ops : List Op)
    (hticks : Ticking δ (Time.unixEpoch + t) ops)
    (hC : Run.Guarded (World.step F) (EachStep NoLateResolve) (World.init t) ops) :
    Run.Always (World.step F) (NotOverdue δ) (World.init t) ops := by
  refine OnSchedule.run ⟨le_rfl, Nat.le_add_right _ _, ?_, ?_⟩ hticks hC
  · exact (sound_init _ t).2
  · exact (sound_init _ t).2

/-- A round that both players guess in, the intermission and the start of the next round. -/
def tickedRound : List Op :=
  [createAt 0, tickAt 1, tickAt 3, guessAt 3 "u1" 1, guessAt 4 "u2" 1, tickAt 5, tickAt 7, tickAt 9,
    tickAt 11, guessAt 13 "u1" 1, tickAt 13]

theorem notOverdue_tickedRound :
    Run.Always (World.step .coarse) (NotOverdue (2 * Time.second)) (World.init 0) tickedRound :=
  notOverdue_of_ticking .coarse 0 _ _ (by decide +kernel) (by decide +kernel)

end GeoDuels.Duel
