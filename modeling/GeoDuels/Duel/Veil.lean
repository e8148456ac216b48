import GeoDuels.Duel.Run
import GeoDuels.Duel.Spec

/-!
# What a player may know of a match

`Match.veil u` blanks what the player `u` must not learn before the round is resolved: the place of
the current location and the points of the others' guesses.  As long as no round is resolved the
operations of the engine do not look behind the veil: they commute with it (`step_veil`).  Neither
does the snapshot that is sent to `u` (`clientSnapshot_veil`).
-/

namespace GeoDuels

/-- The location without its place. -/
def LocationPoint.veil (l : LocationPoint) : LocationPoint :=
  { l with lat := 0, lng := 0, country := "" }

/-- The guess without its point, unless it is `u`'s own. -/
def GuessPayload.veil (u : UserID) (g : GuessPayload) : GuessPayload :=
  if g.userID = u then g else { g with lat := 0, lng := 0 }

/-- The player `id` without the point of his guess, unless he is `u`. -/
def PlayerState.veil (u id : UserID) (p : PlayerState) : PlayerState :=
  if id = u then p else { p with lastGuessLat := 0, lastGuessLng := 0 }

namespace Duel

/-- The guess of the player `id` without its point, unless he is `u`. -/
def Guess.veil (u id : UserID) (g : Guess) : Guess :=
  if id = u then g else { g with lat := 0, lng := 0 }

/-- The match without what `u` must not know of the round that is going on. -/
def Match.veil (u : UserID) (m : Match) : Match :=
  { m with
    currentLocation := m.currentLocation.veil
    guesses := Assoc.mapVals (Guess.veil u) m.guesses
    players := Assoc.mapVals (PlayerState.veil u) m.players }

/-- The operation without what `u` must not know of its guess or of its location. -/
def MatchOp.veil (u : UserID) : MatchOp → MatchOp
  | .submitGuess clk g => .submitGuess clk (g.veil u)
  | .tick now clk le next => .tick now clk le (next.map LocationPoint.veil)
  | .markDisconnected clk userID => .markDisconnected clk userID
  | .markResumed clk userID => .markResumed clk userID
  | .forfeit clk userID => .forfeit clk userID

variable {F : FloatMath} (u : UserID)

/-! ## What the veil leaves -/

@[simp] theorem guessPayload_veil_userID (g : GuessPayload) : (g.veil u).userID = g.userID := by
  unfold GuessPayload.veil
  split_ifs <;> rfl

@[simp] theorem guessPayload_veil_matchID (g : GuessPayload) : (g.veil u).matchID = g.matchID := by
  unfold GuessPayload.veil
  split_ifs <;> rfl

@[simp] theorem guessPayload_veil_roundID (g : GuessPayload) : (g.veil u).roundID = g.roundID := by
  unfold GuessPayload.veil
  split_ifs <;> rfl

@[simp] theorem guessPayload_veil_finalize (g : GuessPayload) :
    (g.veil u).finalize = g.finalize := by
  unfold GuessPayload.veil
  split_ifs <;> rfl

@[simp] theorem guess_veil_finalized (id : UserID) (g : Guess) :
    (g.veil u id).finalized = g.finalized := by
  unfold Guess.veil
  split_ifs <;> rfl

/-- The veil of a player blanks the point of his guess and nothing else. -/
theorem playerState_veil_cases (id : UserID) (p : PlayerState) :
    ∃ lat lng, p.veil u id = { p with lastGuessLat := lat, lastGuessLng := lng } := by
  unfold PlayerState.veil
  split_ifs
  · exact ⟨p.lastGuessLat, p.lastGuessLng, rfl⟩
  · exact ⟨0, 0, rfl⟩

@[simp] theorem playerState_veil_disconnected (id : UserID) (p : PlayerState) :
    (p.veil u id).disconnected = p.disconnected := by
  obtain ⟨_, _, h⟩ := playerState_veil_cases u id p
  rw [h]

@[simp] theorem playerState_veil_disconnectDue (id : UserID) (p : PlayerState) :
    (p.veil u id).disconnectDue = p.disconnectDue := by
  obtain ⟨_, _, h⟩ := playerState_veil_cases u id p
  rw [h]

@[simp] theorem graceExpired_veil (now : ℕ) (id : UserID) (p : PlayerState) :
    graceExpired now (p.veil u id) = graceExpired now p := by
  simp [graceExpired]

@[simp] theorem clientPlayerState_veil (id : UserID) (p : PlayerState) :
    clientPlayerState (p.veil u id) = clientPlayerState p := by
  obtain ⟨_, _, h⟩ := playerState_veil_cases u id p
  rw [h]
  rfl

/-- A write that reads and writes no point of a guess commutes with the veil. -/
theorem playerState_veil_comm {f : PlayerState → PlayerState}
    (hf : ∀ p lat lng, f { p with lastGuessLat := lat, lastGuessLng := lng } =
      { f p with lastGuessLat := lat, lastGuessLng := lng }) (id : UserID) (p : PlayerState) :
    f (p.veil u id) = (f p).veil u id := by
  unfold PlayerState.veil
  split_ifs
  · rfl
  · exact hf p 0 0

/-! ## The operations do not look behind it -/

theorem roundExpired_veil (now : ℕ) (m : Match) :
    (m.veil u).roundExpired now = m.roundExpired now := rfl

theorem announceLive_veil (now : ℕ) (m : Match) :
    (m.veil u).announceLive now = (m.announceLive now).veil u := by
  unfold Match.announceLive
  show (if !m.roundLiveAnnounced ∧ m.roundStartedAt + roundIntro ≤ now then _ else _) = _
  split_ifs <;> rfl

theorem sweepDisconnected_veil (now : ℕ) (m : Match) :
    (m.veil u).sweepDisconnected now = (m.sweepDisconnected now).veil u := by
  have hcount : (m.veil u).players.countP (fun _ p => graceExpired now p) =
      m.players.countP fun _ p => graceExpired now p := by
    simp [Match.veil, Assoc.countP_mapVals]
  unfold Match.sweepDisconnected
  simp only [hcount]
  split_ifs
  · rfl
  · simp only [Match.veil, Match.mk.injEq, true_and, and_true]
    refine Assoc.mapVals_comm (fun id p => ?_) m.players
    rw [graceExpired_veil]
    split_ifs
    · exact playerState_veil_comm u (f := fun p => { p with hp := 0 }) (fun _ _ _ => rfl) id p
    · rfl

theorem allDisconnected_veil (m : Match) : (m.veil u).allDisconnected = m.allDisconnected := by
  simp [Match.allDisconnected, Match.veil, Assoc.all_mapVals]

theorem maxDue_veil (m : Match) : (m.veil u).maxDue = m.maxDue := by
  simp [Match.maxDue, Match.veil, Assoc.mapVals, List.foldl_map]

theorem sweepStale_veil (now : ℕ) (m : Match) :
    (m.veil u).sweepStale now = (m.sweepStale now).veil u := by
  have hnoHP : Assoc.mapVals (fun _ p => { p with hp := 0 }) (m.veil u).players =
      Assoc.mapVals (PlayerState.veil u)
        (Assoc.mapVals (fun _ p => { p with hp := 0 }) m.players) :=
    Assoc.mapVals_comm (playerState_veil_comm u fun _ _ _ => rfl) m.players
  unfold Match.sweepStale
  simp only [hnoHP, allDisconnected_veil, maxDue_veil]
  show (if _ then _ else if m.allDisconnected ∧ !Time.isZero m.lastActivity ∧
    m.lastActivity + staleGrace < now then _ else _) = _
  split_ifs <;> rfl

theorem sweep_veil (now : ℕ) (m : Match) : (m.veil u).sweep now = (m.sweep now).veil u := by
  unfold Match.sweep
  rw [sweepDisconnected_veil, sweepStale_veil]
  show (if (m.sweepDisconnected now).state ≠ .live then _ else _) = _
  split_ifs <;> rfl

theorem recordGuess_veil (now : ℕ) (g : GuessPayload) (m : Match) :
    (m.veil u).recordGuess now (g.veil u) = (m.recordGuess now g).veil u := by
  unfold Match.recordGuess
  simp only [Match.veil, Match.mk.injEq, true_and, and_true, guessPayload_veil_userID,
    guessPayload_veil_finalize, Assoc.mapVals_insert]
  refine ⟨Assoc.modify_mapVals (fun p => ?_) m.players, rfl, ?_⟩
  · unfold GuessPayload.veil PlayerState.veil
    split_ifs <;> rfl
  · congr 1
    unfold GuessPayload.veil Guess.veil
    split_ifs <;> rfl

theorem allFinal_veil (m : Match) : (m.veil u).allFinal = m.allFinal := by
  unfold Match.allFinal Match.veil
  simp only [Assoc.all_mapVals, Assoc.lookup_mapVals, Option.any_map]
  congr 1
  funext id p
  congr 1
  funext g
  exact guess_veil_finalized u id g

theorem admits_veil (clk : Clock) (g : GuessPayload) (m : Match) :
    (m.veil u).Admits clk (g.veil u) ↔ m.Admits clk g := by
  simp [Match.Admits, Match.veil]

theorem records_veil (clk : Clock) (g : GuessPayload) (m : Match) :
    (m.veil u).Records clk (g.veil u) ↔ m.Records clk g := by
  have hguess : ((m.veil u).guesses.lookup (g.veil u).userID).any Guess.finalized =
      (m.guesses.lookup g.userID).any Guess.finalized := by
    rw [guessPayload_veil_userID]
    cases h : m.guesses.lookup g.userID <;> simp [Match.veil, h]
  unfold Match.Records
  rw [admits_veil, hguess, roundExpired_veil]
  rfl

theorem setConnection_veil (userID : UserID) (off : Bool) (due : ℤ) (activity : ℕ) (m : Match) :
    (m.veil u).setConnection userID off due activity =
      (m.setConnection userID off due activity).veil u := by
  unfold Match.setConnection
  simp only [Match.veil, Match.mk.injEq, true_and, and_true]
  exact Assoc.modify_mapVals (playerState_veil_comm u (fun _ _ _ => rfl) userID) m.players

/-! ## Rounds -/

/-- The result of the round with the given index is there. -/
def Match.Resolved (round : ℕ) (m : Match) : Prop :=
  round + 1 ∈ m.roundResults.map RoundResult.roundNumber

instance (round : ℕ) : DecidablePred (Match.Resolved round) := fun _ =>
  inferInstanceAs (Decidable (_ ∈ _))

/-- The match keeps its identity, its round and its results, and may get more results. -/
structure KeepsRound (m m' : Match) : Prop where
  id_eq : m'.id = m.id
  roundID_eq : m'.roundID = m.roundID
  index_eq : m'.currentIndex = m.currentIndex
  results : m.roundResults <+: m'.roundResults

theorem KeepsRound.refl (m : Match) : KeepsRound m m := ⟨rfl, rfl, rfl, List.prefix_rfl⟩

theorem KeepsRound.trans {m m' m'' : Match} (h : KeepsRound m m') (h' : KeepsRound m' m'') :
    KeepsRound m m'' :=
  ⟨h'.id_eq.trans h.id_eq, h'.roundID_eq.trans h.roundID_eq, h'.index_eq.trans h.index_eq,
    h.results.trans h'.results⟩

theorem Match.Resolved.mono {round : ℕ} {m m' : Match} (h : m.Resolved round)
    (hresults : m.roundResults <+: m'.roundResults) : m'.Resolved round :=
  (hresults.map _).subset h

theorem resolved_veil (round : ℕ) (m : Match) : (m.veil u).Resolved round ↔ m.Resolved round :=
  Iff.rfl

theorem keepsRound_announceLive (now : ℕ) (m : Match) : KeepsRound m (m.announceLive now) := by
  rcases announceLive_cases now m with h | h
  · rw [h]
    exact .refl m
  · rw [h]
    exact ⟨rfl, rfl, rfl, List.prefix_rfl⟩

theorem keepsRound_sweep (now : ℕ) (m : Match) : KeepsRound m (m.sweep now) := by
  rcases sweep_eq now m with h | ⟨_, _, _, -, h⟩
  · rw [h]
    exact .refl m
  · rw [h]
    exact ⟨rfl, rfl, rfl, List.prefix_rfl⟩

theorem keepsRound_resolveRound (clk : Clock) (m : Match) :
    KeepsRound m (m.resolveRound F clk) := by
  by_cases hlive : m.state = .live
  · obtain ⟨_, _, _, -, -, h⟩ := resolveRound_live (F := F) hlive clk
    rw [h]
    exact ⟨rfl, rfl, rfl, List.prefix_append _ _⟩
  · rw [resolveRound_of_not_live hlive]
    exact .refl m

/-- The resolution of a live match's round leaves its result. -/
theorem resolved_resolveRound {m : Match} (hlive : m.state = .live) (clk : Clock) :
    (m.resolveRound F clk).Resolved m.currentIndex := by
  obtain ⟨_, _, _, -, -, h⟩ := resolveRound_live (F := F) hlive clk
  rw [h]
  simp [Match.Resolved]

theorem keepsRound_recordGuess (now : ℕ) (g : GuessPayload) (m : Match) :
    KeepsRound m (m.recordGuess now g) := ⟨rfl, rfl, rfl, List.prefix_rfl⟩

theorem keepsRound_setConnection (userID : UserID) (off : Bool) (due : ℤ) (activity : ℕ)
    (m : Match) : KeepsRound m (m.setConnection userID off due activity) :=
  ⟨rfl, rfl, rfl, List.prefix_rfl⟩

theorem keepsRound_tickRound (now : ℕ) (clk : Clock) (m : Match) :
    KeepsRound m (m.tickRound F now clk) := by
  unfold Match.tickRound
  split_ifs
  · exact (keepsRound_announceLive now m).trans (keepsRound_resolveRound clk _)
  · exact keepsRound_announceLive now m

/-- A step keeps the round of a match unless it is a tick that advances it. -/
theorem keepsRound_step (mop : MatchOp) (m : Match) :
    KeepsRound m (m.step F mop) ∨ ∃ now clk hle next, mop = .tick now clk hle next ∧
      m.state = .live ∧ m.pendingAdvance = true ∧ m.intermissionUntil < now := by
  cases mop with
  | submitGuess clk g =>
      left
      rw [step_submitGuess]
      split_ifs
      · exact keepsRound_resolveRound _ m
      · exact (keepsRound_recordGuess _ g m).trans (keepsRound_resolveRound _ _)
      · exact keepsRound_recordGuess _ g m
      · exact .refl m
  | tick now clk hle next =>
      rw [step_tick]
      split_ifs with hlive hpending hover
      · exact .inl (.refl m)
      · exact .inr ⟨now, clk, hle, next, rfl, not_not.1 hlive, hpending, hover⟩
      · exact .inl (.refl m)
      · exact .inl ((keepsRound_tickRound now clk m).trans (keepsRound_sweep now _))
  | markDisconnected clk userID =>
      left
      rw [step_markDisconnected]
      split_ifs
      · exact keepsRound_setConnection userID _ _ _ m
      · exact .refl m
  | markResumed clk userID =>
      left
      rw [step_markResumed]
      split_ifs
      · exact keepsRound_setConnection userID _ _ _ m
      · exact .refl m
  | forfeit clk userID =>
      left
      rw [step_forfeit]
      split_ifs
      · exact ⟨rfl, rfl, rfl, List.prefix_rfl⟩
      · exact .refl m

/-- What is resolved stays so. -/
theorem resolved_step {round : ℕ} {m : Match} (h : m.Resolved round) (mop : MatchOp) :
    (m.step F mop).Resolved round := by
  rcases keepsRound_step (F := F) mop m with hkeeps | ⟨now, clk, hle, next, rfl, hlive, hp, hover⟩
  · exact h.mono hkeeps.results
  · rw [step_tick, if_neg (not_not.2 hlive), if_pos hp, if_pos hover]
    rcases advanceRound_cases hp clk next with ⟨_, heq⟩ | ⟨_, _, _, _, _, heq⟩
    · rw [heq]
      exact h
    · rw [heq]
      exact h

/-! ## A step under the veil -/

variable (F) in
/-- A step on a match whose round is open either resolves the round, under the veil as well, or
commutes with the veil and leaves the round open. -/
theorem step_veil {m : Match} (hopen : m.pendingAdvance = false) (mop : MatchOp) :
    ((m.step F mop).Resolved m.currentIndex ∧
        ((m.veil u).step F (mop.veil u)).Resolved m.currentIndex) ∨
      ((m.veil u).step F (mop.veil u) = (m.step F mop).veil u ∧
        (m.step F mop).pendingAdvance = false ∧ (m.step F mop).currentIndex = m.currentIndex) := by
  cases mop with
  | submitGuess clk g =>
      rw [MatchOp.veil, step_submitGuess, step_submitGuess]
      simp only [admits_veil, records_veil, roundExpired_veil, recordGuess_veil, allFinal_veil]
      by_cases hexp : m.Admits clk g ∧ m.roundExpired (clk.read 1) = true
      · left
        simp only [hexp, and_self, if_true]
        exact ⟨resolved_resolveRound hexp.1.1 _, resolved_resolveRound (m := m.veil u) hexp.1.1 _⟩
      · rw [if_neg hexp, if_neg hexp]
        by_cases hrec : m.Records clk g
        · simp only [hrec, if_true]
          by_cases hall : (m.recordGuess (clk.read 1) g).allFinal = true
          · left
            simp only [hall, if_true]
            exact ⟨resolved_resolveRound (m := m.recordGuess (clk.read 1) g) hrec.1.1 _,
              resolved_resolveRound (m := (m.recordGuess (clk.read 1) g).veil u) hrec.1.1 _⟩
          · right
            rw [if_neg hall, if_neg hall]
            exact ⟨rfl, hopen, rfl⟩
        · right
          rw [if_neg hrec, if_neg hrec]
          exact ⟨rfl, hopen, rfl⟩
  | tick now clk hle next =>
      rw [MatchOp.veil, step_tick, step_tick]
      by_cases hlive : m.state = .live
      · have hopen' : (m.veil u).pendingAdvance = false := hopen
        have hlive' : (m.veil u).state = .live := hlive
        simp only [hopen, hopen', hlive, hlive', ne_eq, not_true, if_false, Bool.false_eq_true,
          Match.tickRound, roundExpired_veil, announceLive_veil]
        by_cases hexp : m.roundExpired now = true
        · left
          simp only [hexp, if_true]
          have hindex : (m.announceLive now).currentIndex = m.currentIndex :=
            (keepsRound_announceLive now m).index_eq
          have hstate : (m.announceLive now).state = .live := by simpa using hlive
          rw [← hindex]
          exact ⟨(resolved_resolveRound hstate clk).mono (keepsRound_sweep now _).results,
            (resolved_resolveRound (m := (m.announceLive now).veil u) hstate clk).mono
              (keepsRound_sweep now _).results⟩
        · right
          rw [if_neg hexp, if_neg hexp, sweep_veil]
          have hkeeps := (keepsRound_announceLive now m).trans (keepsRound_sweep now _)
          refine ⟨rfl, ?_, hkeeps.index_eq⟩
          have hpending : (m.announceLive now).pendingAdvance = false := by
            rcases announceLive_cases now m with h | h <;> rw [h] <;> exact hopen
          rcases sweep_eq now (m.announceLive now) with h | ⟨_, _, _, -, h⟩ <;> rw [h] <;>
            exact hpending
      · right
        have hlive' : (m.veil u).state ≠ .live := hlive
        rw [if_pos hlive', if_pos hlive]
        exact ⟨rfl, hopen, rfl⟩
  | markDisconnected clk userID =>
      right
      rw [MatchOp.veil, step_markDisconnected, step_markDisconnected, setConnection_veil]
      have hmem : userID ∈ (m.veil u).players ↔ userID ∈ m.players := Assoc.mem_mapVals
      simp only [hmem]
      split_ifs
      · exact ⟨rfl, hopen, rfl⟩
      · exact ⟨rfl, hopen, rfl⟩
  | markResumed clk userID =>
      right
      rw [MatchOp.veil, step_markResumed, step_markResumed, setConnection_veil]
      have hmem : userID ∈ (m.veil u).players ↔ userID ∈ m.players := Assoc.mem_mapVals
      simp only [hmem]
      split_ifs
      · exact ⟨rfl, hopen, rfl⟩
      · exact ⟨rfl, hopen, rfl⟩
  | forfeit clk userID =>
      right
      rw [MatchOp.veil, step_forfeit, step_forfeit]
      have hguard : ((m.veil u).state = .live ∧ userID ∈ (m.veil u).players) ↔
          (m.state = .live ∧ userID ∈ m.players) := and_congr_right fun _ => Assoc.mem_mapVals
      simp only [hguard]
      split_ifs
      · refine ⟨?_, rfl, rfl⟩
        simp only [Match.veil, Match.mk.injEq, true_and, and_true]
        exact Assoc.modify_mapVals (playerState_veil_comm u (fun _ _ _ => rfl) userID) m.players
      · exact ⟨rfl, hopen, rfl⟩

/-! ## What is sent to the player -/

theorem phases_veil (now : ℕ) (m : Match) : (m.veil u).phases now = m.phases now := rfl

/-- The snapshot that is sent to `u` shows nothing of what the veil covers. -/
theorem clientSnapshot_veil (clk : Clock) (m : Match) :
    clientSnapshotForPlayer ((m.veil u).snapshot clk) u =
      clientSnapshotForPlayer (m.snapshot clk) u := by
  unfold clientSnapshotForPlayer Match.snapshot
  simp only [phases_veil]
  simp only [Match.veil, ClientMatchSnapshot.mk.injEq, true_and, and_true]
  refine ⟨?_, ?_, ?_, ?_⟩
  · by_cases h : (m.phases (clk.read 0)).1 = .live ∧ m.state = .live <;>
      simp [h, clientRoundState, LocationPoint.veil]
  · congr
  · simp [Assoc.mapVals_mapVals]
  · rw [Assoc.lookup_mapVals, Option.map_map]
    congr 1
    funext p
    simp [PlayerState.veil, clientSelfState]

end Duel

end GeoDuels
