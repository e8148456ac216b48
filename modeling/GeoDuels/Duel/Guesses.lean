import GeoDuels.Duel.Monotone

/-!
# Guesses belong to their round

The guesses of a match are those for its current round: the resolution of the round clears them, and
only `SubmitGuess` adds to them, for the round whose identity it carries.  The identity of a round
that is resolved is still the current one until the next tick, so that a guess for it can be recorded
between the end of the intermission and that tick; every other late guess changes nothing.
-/

namespace GeoDuels.Duel

variable {F : FloatMath}

/-! ## A round without guesses -/

theorem resolveDuelDamage_quiet {players : Assoc UserID PlayerState} {result : RoundResult}
    (h : ∀ u row, result.players.lookup u = some row → row.score = 0) (userIDs : List UserID) :
    (resolveDuelDamage players result userIDs).1 = players := by
  unfold resolveDuelDamage
  split
  · split
    · rename_i a b ha hb
      simp [h _ a ha, h _ b hb]
    · rfl
  · rfl

theorem bestGuess_quiet {result : RoundResult}
    (h : ∀ u row, result.players.lookup u = some row → row.score = 0) (t : TeamID)
    (team : TeamState) : (bestGuess result t team).score = 0 := by
  unfold bestGuess
  refine List.foldlRecOn (motive := fun best : RoundTeamResult => best.score = 0) _ _ rfl ?_
  intro best hbest u _
  split
  · exact hbest
  · rename_i r hr
    split_ifs
    · exact h u r hr
    · exact hbest

theorem teamScore_quiet {result : RoundResult}
    (h : ∀ u row, result.players.lookup u = some row → row.score = 0)
    (teams : Assoc TeamID TeamState) (t : TeamID) : teamScore result teams t = 0 := by
  unfold teamScore
  rw [Assoc.lookup_mapVals]
  cases teams.lookup t with
  | none => rfl
  | some team => exact bestGuess_quiet h t team

/-- Without guesses everybody scores nothing. -/
theorem scores_quiet {m : Match} (h : m.guesses = ∅) {u : UserID} {row : RoundPlayerResult}
    (hrow : (m.scores F).players.lookup u = some row) : row.score = 0 := by
  rw [Match.scores, Assoc.lookup_mapVals] at hrow
  obtain ⟨p, -, rfl⟩ := Option.map_eq_some_iff.1 hrow
  exact guessScore_of_none (by rw [h, AList.lookup_empty])

/-- The player's guess, hit points and score are the same. -/
def SameGuess (p p' : PlayerState) : Prop :=
  p'.hasGuess = p.hasGuess ∧ p'.lastGuessLat = p.lastGuessLat ∧ p'.lastGuessLng = p.lastGuessLng ∧
    p'.hp = p.hp ∧ p'.totalScore = p.totalScore

instance (p p' : PlayerState) : Decidable (SameGuess p p') :=
  inferInstanceAs (Decidable (_ ∧ _ ∧ _ ∧ _ ∧ _))

theorem SameGuess.refl (p : PlayerState) : SameGuess p p := ⟨rfl, rfl, rfl, rfl, rfl⟩

theorem SameGuess.trans {p p' p'' : PlayerState} (h : SameGuess p p') (h' : SameGuess p' p'') :
    SameGuess p p'' := by
  unfold SameGuess at *
  grind

theorem unfinalized_same (m : Match) :
    Assoc.Pointwise (fun _ => SameGuess) m.players m.unfinalized :=
  Assoc.pointwise_mapVals fun _ _ _ => ⟨rfl, rfl, rfl, rfl, rfl⟩

theorem resolveTeamDuelDamage_quiet {m : Match} (h : TeamsInStep m) {result : RoundResult}
    (hscore : ∀ u row, result.players.lookup u = some row → row.score = 0) :
    Assoc.Pointwise (fun _ => SameGuess) m.players
      (resolveTeamDuelDamage m m.unfinalized result).players := by
  refine .of_lookup (fun u p hu => ?_) fun _ => lookup_resolveTeamDuelDamage_none
  obtain ⟨team, hteam, hmem⟩ := h.partitioned.mem_team u p hu
  obtain ⟨p', hp', hhp⟩ := h.mirrored p.teamID team hteam u hmem
  rw [hu, Option.some.injEq] at hp'
  subst hp'
  obtain ⟨team', hteam', -, -, hlookup⟩ := lookup_resolveTeamDuelDamage h result hu
  -- equal scores make no damage, so the team has the hit points it had
  have hsame : team'.hp = team.hp := by
    rcases resolveTeamDuelDamage_cases m m.unfinalized result with ⟨ht, -⟩ | ⟨ht, -⟩
    · rw [ht, hteam, Option.some.injEq] at hteam'
      rw [hteam']
    · rw [ht, teamScore_quiet hscore, teamScore_quiet hscore, damageTeams, if_neg (lt_irrefl _),
        if_neg (lt_irrefl _), Assoc.lookup_mapVals, hteam, Option.map_some,
        Option.some.injEq] at hteam'
      rw [← hteam']
      exact if_neg (not_lt.2 (h.inBounds _ _ hteam).1)
  exact ⟨_, hlookup, rfl, rfl, rfl, hsame.trans hhp.symm, rfl⟩

/-- The resolution of a round without guesses leaves guesses, hit points and scores alone. -/
theorem resolution_quiet {m : Match} (h : HpInv m) (hlive : m.state = .live)
    (hguesses : m.guesses = ∅) :
    Assoc.Pointwise (fun _ => SameGuess) m.players (m.resolution F).players := by
  have hscore : Assoc.Pointwise (fun _ => SameGuess) m.players (scoreRound F m).players := by
    rcases scoreRound_cases F m with ⟨-, heq⟩ | ⟨hmode, heq⟩ | ⟨-, heq⟩ | ⟨-, heq⟩
    · rw [heq]
      dsimp only
      rw [resolveDuelDamage_quiet fun _ _ => scores_quiet hguesses]
      exact unfinalized_same m
    · rw [heq]
      exact resolveTeamDuelDamage_quiet (h.inStep hlive hmode) fun _ _ => scores_quiet hguesses
    · rw [heq]
      refine (unfinalized_same m).trans (Assoc.pointwise_mapVals fun u p _ => ?_)
        fun _ _ _ _ => SameGuess.trans
      split
      · exact .refl p
      · rename_i row hrow
        exact ⟨rfl, rfl, rfl, rfl, by simp [scores_quiet hguesses hrow]⟩
    · rw [heq]
      exact unfinalized_same m
  refine .of_lookup (fun u p hu => ?_) fun u hu => ?_
  · obtain ⟨q, hq, hsame⟩ := hscore.left hu
    rw [Match.resolution, settleRound_players]
    split_ifs
    · refine ⟨_, by rw [Assoc.lookup_mapVals, hq, Option.map_some], ?_⟩
      refine hsame.trans ?_
      split_ifs with hzero
      · have hnonneg := (h.players u p hu).1
        rw [← hsame.2.2.2.1] at hnonneg
        exact ⟨rfl, rfl, rfl, le_antisymm hnonneg hzero, rfl⟩
      · exact .refl q
    · exact ⟨q, hq, hsame⟩
  · have hplays := resolution_plays (F := F) (m := m) (h.inStep hlive)
    rw [AList.lookup_eq_none, hplays.mem_iff, ← AList.lookup_eq_none]
    exact hu

/-! ## The rounds of a match -/

theorem roundID_injective (id : MatchID) : Function.Injective (roundID id) := by
  intro a b h
  refine strconv_injective (String.ext ?_)
  have hlist := congrArg String.toList h
  simpa [roundID] using hlist

/-- The step is no guess that is recorded for a round that is resolved. -/
def NoLateRecord (m : Match) : MatchOp → Prop
  | .submitGuess clk g => ¬ (m.pendingAdvance = true ∧ m.Records clk g)
  | _ => True

instance (m : Match) (mop : MatchOp) : Decidable (NoLateRecord m mop) :=
  match mop with
  | .submitGuess _ _ => inferInstanceAs (Decidable (¬ (_ ∧ _)))
  | .tick .. | .markDisconnected .. | .markResumed .. | .forfeit .. => .isTrue trivial

/-- The identities of the rounds and their guesses. -/
structure GuessInv (id : MatchID) (m : Match) : Prop extends HpInv m where
  id_eq : m.id = id
  roundID_eq : m.roundID = roundID id (m.currentIndex + 1)
  numbered : ∀ r ∈ m.roundResults, ∃ k, r.roundID = roundID id (k + 1) ∧ k ≤ m.currentIndex ∧
    (m.state = .live → m.pendingAdvance = false → k < m.currentIndex)
  cleared : m.pendingAdvance = true → m.guesses = ∅

theorem guessInv_created {id : MatchID} {playerIDs : List UserID} {m : Match}
    (h : Created F id playerIDs m) : GuessInv id m := by
  have hnew := isNew_of_created h
  refine ⟨hpInv_created h, hnew.id_eq, ?_, fun r hr => ?_, fun hpending => ?_⟩
  · rw [hnew.roundID_eq, hnew.first]
  · rw [hnew.noResults] at hr
    cases hr
  · rw [hnew.unresolved] at hpending
    cases hpending

namespace GuessInv

variable {id : MatchID}

/-- The current round of a live match is unresolved unless the match waits for the next one. -/
theorem unresolved {m : Match} (h : GuessInv id m) (hlive : m.state = .live)
    (hpending : m.pendingAdvance = false) {r : RoundResult} (hr : r ∈ m.roundResults) :
    r.roundID ≠ m.roundID := by
  obtain ⟨k, hk, -, hlt⟩ := h.numbered r hr
  rw [hk, h.roundID_eq]
  intro heq
  have hindex := roundID_injective id heq
  have hless := hlt hlive hpending
  omega

/-- A write that leaves round, results and guesses alone, or ends the match without new guesses. -/
theorem frame {m m' : Match} (h : GuessInv id m) (hinv : HpInv m') (hid : m'.id = m.id)
    (hround : m'.roundID = m.roundID) (hindex : m'.currentIndex = m.currentIndex)
    (hresults : m'.roundResults = m.roundResults)
    (hguesses : m'.pendingAdvance = true → m.pendingAdvance = true ∧ m'.guesses = m.guesses)
    (hs : m'.state = .live → m.state = .live ∧ m'.pendingAdvance = m.pendingAdvance) :
    GuessInv id m' := by
  refine ⟨hinv, hid.trans h.id_eq, ?_, fun r hr => ?_, fun hpending => ?_⟩
  · rw [hround, hindex]
    exact h.roundID_eq
  · rw [hresults] at hr
    obtain ⟨k, hk, hle, hlt⟩ := h.numbered r hr
    rw [hindex]
    refine ⟨k, hk, hle, fun hlive hpending => ?_⟩
    obtain ⟨hlive', heq⟩ := hs hlive
    exact hlt hlive' (heq.symm.trans hpending)
  · obtain ⟨hpending', heq⟩ := hguesses hpending
    rw [heq]
    exact h.cleared hpending'

theorem announceLive {m : Match} (h : GuessInv id m) (now : ℕ) :
    GuessInv id (m.announceLive now) := by
  have hinv := h.toHpInv.announceLive now
  rcases announceLive_cases now m with heq | heq
  · rwa [heq]
  · rw [heq] at hinv ⊢
    exact h.frame hinv rfl rfl rfl rfl (fun hp => ⟨hp, rfl⟩) fun hs => ⟨hs, rfl⟩

theorem setConnection {m : Match} (h : GuessInv id m) (u : UserID) (off : Bool) (due : ℤ)
    (activity : ℕ) : GuessInv id (m.setConnection u off due activity) :=
  h.frame (h.toHpInv.setConnection u off due activity) rfl rfl rfl rfl (fun hp => ⟨hp, rfl⟩)
    fun hs => ⟨hs, rfl⟩

theorem sweep {m : Match} (h : GuessInv id m) (now : ℕ) : GuessInv id (m.sweep now) := by
  have hinv := h.toHpInv.sweep now
  rcases sweep_eq now m with heq | ⟨_, _, _, -, heq⟩
  · rwa [heq]
  · rw [heq] at hinv ⊢
    exact h.frame hinv rfl rfl rfl rfl (fun hp => ⟨hp, rfl⟩) (by simp)

/-- A guess is recorded for a round that is still open. -/
theorem recordGuess {m : Match} (h : GuessInv id m) (hopen : m.pendingAdvance = false) (now : ℕ)
    (g : GuessPayload) : GuessInv id (m.recordGuess now g) := by
  refine h.frame (h.toHpInv.recordGuess now g) rfl rfl rfl rfl (fun hp => ?_) fun hs => ⟨hs, rfl⟩
  have hp' : m.pendingAdvance = true := hp
  exact absurd (hp'.symm.trans hopen) (by decide)

theorem resolveRound {m : Match} (h : GuessInv id m) (clk : Clock) :
    GuessInv id (m.resolveRound F clk) := by
  have hinv := h.toHpInv.resolveRound (F := F) clk
  by_cases hlive : m.state = .live
  · obtain ⟨_, _, _, -, -, heq⟩ := resolveRound_live (F := F) hlive clk
    rw [heq] at hinv ⊢
    refine ⟨hinv, h.id_eq, h.roundID_eq, fun r hr => ?_, fun _ => rfl⟩
    have hnone : ∀ k, ((m.resolution F).state = .live →
        (m.pendingAdvance || (m.resolution F).state != .ended) = false → k < m.currentIndex) := by
      intro k hs hp
      rw [hs] at hp
      simp at hp
    rcases List.mem_append.1 hr with hr | hr
    · obtain ⟨k, hk, hle, -⟩ := h.numbered r hr
      exact ⟨k, hk, hle, hnone k⟩
    · rw [List.mem_singleton.1 hr]
      exact ⟨m.currentIndex, (resolution_roundID m).trans h.roundID_eq, le_rfl, hnone _⟩
  · rwa [resolveRound_of_not_live hlive]

theorem advanceRound {m : Match} (h : GuessInv id m) (hpending : m.pendingAdvance = true)
    (clk : Clock) (next : Except String LocationPoint) : GuessInv id (m.advanceRound clk next) := by
  have hinv := h.toHpInv.advanceRound hpending clk next
  rcases advanceRound_cases hpending clk next with ⟨_, heq⟩ | ⟨_, _, _, _, _, heq⟩
  · rw [heq] at hinv ⊢
    exact h.frame hinv rfl rfl rfl rfl (by simp) (by simp)
  · rw [heq] at hinv ⊢
    refine ⟨hinv, h.id_eq, by simp [h.id_eq], fun r hr => ?_, by simp⟩
    obtain ⟨k, hk, hle, -⟩ := h.numbered r hr
    exact ⟨k, hk, Nat.le_succ_of_le hle, fun _ _ => Nat.lt_succ_of_le hle⟩

theorem tickRound {m : Match} (h : GuessInv id m) (now : ℕ) (clk : Clock) :
    GuessInv id (m.tickRound F now clk) := by
  unfold Match.tickRound
  split_ifs
  · exact (h.announceLive now).resolveRound clk
  · exact h.announceLive now

/-- A recorded guess finds its round open. -/
theorem open_of_records {m : Match} {clk : Clock} {g : GuessPayload}
    (hC : NoLateRecord m (.submitGuess clk g)) (hrecords : m.Records clk g) :
    m.pendingAdvance = false := by
  by_contra hpending
  exact hC ⟨by simpa using hpending, hrecords⟩

theorem step {m : Match} {mop : MatchOp} (h : GuessInv id m) (hC : NoLateRecord m mop) :
    GuessInv id (m.step F mop) := by
  cases mop with
  | submitGuess clk g =>
      rw [step_submitGuess]
      split_ifs with hexp hrecords
      · exact h.resolveRound _
      · exact (h.recordGuess (open_of_records hC hrecords) _ g).resolveRound _
      · exact h.recordGuess (open_of_records hC hrecords) _ g
      · exact h
  | tick now clk hle next =>
      rw [step_tick]
      split_ifs with hlive hpending
      · exact h
      · exact h.advanceRound hpending clk next
      · exact h
      · exact (h.tickRound now clk).sweep now
  | markDisconnected clk u =>
      rw [step_markDisconnected]
      split_ifs
      · exact h.setConnection _ _ _ _
      · exact h
  | markResumed clk u =>
      rw [step_markResumed]
      split_ifs
      · exact h.setConnection _ _ _ _
      · exact h
  | forfeit clk u =>
      have hinv := h.toHpInv.step (F := F) (.forfeit clk u)
      by_cases hlive : m.state = .live ∧ u ∈ m.players
      · rw [step_forfeit, if_pos hlive] at hinv ⊢
        exact h.frame hinv rfl rfl rfl rfl (by simp) (by simp)
      · rwa [step_forfeit, if_neg hlive]

end GuessInv

/-! ## Late guesses -/

theorem lateGuess_ignored {id : MatchID} {m : Match} (h : GuessInv id m) {clk : Clock}
    {g : GuessPayload} (hC : NoLateRecord m (.submitGuess clk g))
    (hlate : ∃ r ∈ m.roundResults, r.roundID = g.roundID) :
    (m.step F (.submitGuess clk g)).guesses = m.guesses ∧
      Assoc.Pointwise (fun _ => SameGuess) m.players (m.step F (.submitGuess clk g)).players := by
  obtain ⟨r, hr, hround⟩ := hlate
  -- the round of an admitted late guess waits for its successor, so it has no guesses
  have hpending : m.Admits clk g → m.pendingAdvance = true := by
    intro hadmits
    by_contra hopen
    exact h.unresolved hadmits.1 (by simpa using hopen) hr (hround.trans hadmits.2.1)
  rw [step_submitGuess]
  split_ifs with hexp hrecords
  · obtain ⟨hadmits, -⟩ := hexp
    have hempty := h.cleared (hpending hadmits)
    obtain ⟨_, _, _, -, -, heq⟩ := resolveRound_live (F := F) hadmits.1 (clk.drop 2)
    rw [heq]
    exact ⟨hempty.symm, resolution_quiet h.toHpInv hadmits.1 hempty⟩
  · exact absurd ⟨hpending hrecords.1, hrecords⟩ hC
  · exact absurd ⟨hpending hrecords.1, hrecords⟩ hC
  · exact ⟨rfl, .refl (fun _ => SameGuess.refl) _⟩

/-! ## What a step does to the guesses -/

/-- The guesses that the step works with: those of the match, or these with the recorded guess. -/
def WorkingGuesses (m : Match) (mop : MatchOp) (gs : Assoc UserID Guess) : Prop :=
  gs = m.guesses ∨ ∃ clk g, mop = .submitGuess clk g ∧ m.Records clk g ∧
    gs = m.guesses.insert g.userID ⟨g.lat, g.lng, g.finalize, clk.read 1⟩

theorem step_guesses (m : Match) (mop : MatchOp) :
    (m.step F mop).guesses = ∅ ∨ ((m.step F mop).guesses = m.guesses ∧
        ((m.step F mop).roundID = m.roundID ∨ m.pendingAdvance = true)) ∨
      ((m.step F mop).roundID = m.roundID ∧ WorkingGuesses m mop (m.step F mop).guesses) := by
  have hresolve : ∀ (m : Match) (clk : Clock), m.state = .live →
      (m.resolveRound F clk).guesses = ∅ := by
    intro m clk hlive
    obtain ⟨_, _, _, -, -, heq⟩ := resolveRound_live (F := F) hlive clk
    rw [heq]
  cases mop with
  | submitGuess clk g =>
      rw [step_submitGuess]
      split_ifs with hexp hrecords hfinal
      · exact .inl (hresolve m _ hexp.1.1)
      · exact .inl (hresolve (m.recordGuess (clk.read 1) g) _ hrecords.1.1)
      · exact .inr (.inr ⟨rfl, .inr ⟨clk, g, rfl, hrecords, rfl⟩⟩)
      · exact .inr (.inl ⟨rfl, .inl rfl⟩)
  | tick now clk hle next =>
      rw [step_tick]
      split_ifs with hlive hpending
      · exact .inr (.inl ⟨rfl, .inl rfl⟩)
      · rcases advanceRound_cases hpending clk next with ⟨_, heq⟩ | ⟨_, _, _, _, _, heq⟩ <;>
          rw [heq] <;> exact .inr (.inl ⟨rfl, .inr hpending⟩)
      · exact .inr (.inl ⟨rfl, .inl rfl⟩)
      · have hround : (m.tickRound F now clk).guesses = ∅ ∨
            (m.tickRound F now clk).guesses = m.guesses ∧
              (m.tickRound F now clk).roundID = m.roundID := by
          unfold Match.tickRound
          split_ifs
          · exact .inl (hresolve _ clk (by rw [announceLive_state]; exact not_not.1 hlive))
          · exact .inr ⟨announceLive_guesses now m, announceLive_roundID now m⟩
        have hsweep : ((m.tickRound F now clk).sweep now).guesses = (m.tickRound F now clk).guesses ∧
            ((m.tickRound F now clk).sweep now).roundID = (m.tickRound F now clk).roundID := by
          rcases sweep_eq now (m.tickRound F now clk) with heq | ⟨_, _, _, -, heq⟩ <;> rw [heq] <;>
            exact ⟨rfl, rfl⟩
        rw [hsweep.1, hsweep.2]
        rcases hround with hround | hround
        · exact .inl hround
        · exact .inr (.inl ⟨hround.1, .inl hround.2⟩)
  | markDisconnected clk u =>
      rw [step_markDisconnected]
      split_ifs <;> exact .inr (.inl ⟨rfl, .inl rfl⟩)
  | markResumed clk u =>
      rw [step_markResumed]
      split_ifs <;> exact .inr (.inl ⟨rfl, .inl rfl⟩)
  | forfeit clk u =>
      rw [step_forfeit]
      split_ifs <;> exact .inr (.inl ⟨rfl, .inl rfl⟩)

/-- A new result is the resolution of the current round with the guesses that the step works with. -/
theorem step_result {m : Match} {mop : MatchOp} {r : RoundResult}
    (h : (m.step F mop).roundResults = m.roundResults ++ [r]) :
    ∃ m₁ : Match, r = (m₁.resolution F).result ∧ m₁.roundID = m.roundID ∧
      WorkingGuesses m mop m₁.guesses := by
  have hsame : ∀ rs : List RoundResult, rs = m.roundResults → rs ≠ m.roundResults ++ [r] := by
    rintro _ rfl heq
    simpa using congrArg List.length heq
  have hresolve : ∀ (m₁ : Match) (clk : Clock), m₁.roundResults = m.roundResults →
      (m₁.resolveRound F clk).roundResults = m.roundResults ++ [r] →
      r = (m₁.resolution F).result := by
    intro m₁ clk hrs heq
    by_cases hlive : m₁.state = .live
    · obtain ⟨_, _, _, -, -, hres⟩ := resolveRound_live (F := F) hlive clk
      rw [hres] at heq
      dsimp only at heq
      rw [hrs] at heq
      simpa using (List.append_cancel_left heq).symm
    · rw [resolveRound_of_not_live hlive] at heq
      exact absurd heq (hsame _ hrs)
  cases mop with
  | submitGuess clk g =>
      rw [step_submitGuess] at h
      split_ifs at h with hexp hrecords hfinal
      · exact ⟨m, hresolve m _ rfl h, rfl, .inl rfl⟩
      · exact ⟨m.recordGuess (clk.read 1) g, hresolve _ _ rfl h, rfl,
          .inr ⟨clk, g, rfl, hrecords, rfl⟩⟩
      · exact absurd h (hsame _ rfl)
      · exact absurd h (hsame _ rfl)
  | tick now clk hle next =>
      rw [step_tick] at h
      split_ifs at h with hlive hpending
      · exact absurd h (hsame _ rfl)
      · refine absurd h (hsame _ ?_)
        rcases advanceRound_cases hpending clk next with ⟨_, heq⟩ | ⟨_, _, _, _, _, heq⟩ <;> rw [heq]
      · exact absurd h (hsame _ rfl)
      · have hsweep : ((m.tickRound F now clk).sweep now).roundResults =
            (m.tickRound F now clk).roundResults := by
          rcases sweep_eq now (m.tickRound F now clk) with heq | ⟨_, _, _, -, heq⟩ <;> rw [heq]
        rw [hsweep, Match.tickRound] at h
        split_ifs at h
        · exact ⟨m.announceLive now, hresolve _ clk (by simp) h, by simp, .inl (by simp)⟩
        · exact absurd h (hsame _ (by simp))
  | markDisconnected clk u =>
      refine absurd h (hsame _ ?_)
      rw [step_markDisconnected]
      split_ifs <;> rfl
  | markResumed clk u =>
      refine absurd h (hsame _ ?_)
      rw [step_markResumed]
      split_ifs <;> rfl
  | forfeit clk u =>
      refine absurd h (hsame _ ?_)
      rw [step_forfeit]
      split_ifs <;> rfl

/-! ## Where the guesses come from -/

/-- The run submits the guess of `u` for the round `rid` of the match `id`, while `rid` is the
current round and has no result. -/
def Submitted (F : FloatMath) (t : ℕ) (ops : List Op) (id : MatchID) (rid : RoundID) (u : UserID)
    (lat lng : Float64) : Prop :=
  ∃ pre clk g post w m, ops = pre ++ .submitGuess clk g :: post ∧
    Run.exec (World.step F) (World.init t) pre = some w ∧ w.find id = some m ∧
    g.matchID = id ∧ g.roundID = rid ∧ g.userID = u ∧ g.lat = lat ∧ g.lng = lng ∧
    m.state = .live ∧ m.roundID = rid ∧ ∀ r ∈ m.roundResults, r.roundID ≠ rid

theorem Submitted.append {t : ℕ} {ops : List Op} {id : MatchID} {rid : RoundID} {u : UserID}
    {lat lng : Float64} (h : Submitted F t ops id rid u lat lng) (op : Op) :
    Submitted F t (ops ++ [op]) id rid u lat lng := by
  obtain ⟨pre, clk, g, post, w, m, rfl, hrest⟩ := h
  exact ⟨pre, clk, g, post ++ [op], w, m, by simp, hrest⟩

/-- The guesses of all matches come from the run. -/
def Sourced (F : FloatMath) (t : ℕ) (ops : List Op) (w : World) : Prop :=
  ∀ id m, w.find id = some m → ∀ u g, m.guesses.lookup u = some g →
    Submitted F t ops id m.roundID u g.lat g.lng

theorem Op.on_submitGuess {id : MatchID} {m : Match} {op : Op} {clk : Clock} {g : GuessPayload}
    (h : op.on id m = some (.submitGuess clk g)) : op = .submitGuess clk g ∧ g.matchID = id := by
  cases op with
  | submitGuess clk' g' =>
      simp only [Op.on] at h
      split_ifs at h with hid
      simp only [Option.some.injEq, MatchOp.submitGuess.injEq] at h
      obtain ⟨rfl, rfl⟩ := h
      exact ⟨rfl, hid⟩
  | createMatch => simp [Op.on] at h
  | tick => simp [Op.on] at h
  | markDisconnected clk' _ _ | markResumed clk' _ _ | forfeit clk' _ _ =>
      simp only [Op.on] at h
      split_ifs at h
      simp at h

/-- The guesses that a step works with have been submitted for the current round. -/
theorem submitted_of_working {t : ℕ} {ops : List Op} {w : World} {op : Op} {id : MatchID}
    {m : Match} {mop : MatchOp} (hw : Run.exec (World.step F) (World.init t) ops = some w)
    (hsrc : Sourced F t ops w) (hm : w.find id = some m) (hinv : GuessInv id m)
    (hop : op.on id m = some mop) (hC : NoLateRecord m mop) {gs : Assoc UserID Guess}
    (hgs : WorkingGuesses m mop gs) {u : UserID} {g : Guess} (hg : gs.lookup u = some g) :
    Submitted F t (ops ++ [op]) id m.roundID u g.lat g.lng := by
  rcases hgs with rfl | ⟨clk, p, rfl, hrecords, rfl⟩
  · exact (hsrc id m hm u g hg).append op
  · obtain ⟨rfl, hid⟩ := Op.on_submitGuess hop
    by_cases hu : u = p.userID
    · subst hu
      rw [AList.lookup_insert, Option.some.injEq] at hg
      subst hg
      have hopen := GuessInv.open_of_records hC hrecords
      exact ⟨ops, clk, p, [], w, m, rfl, hw, hm, hid, hrecords.1.2.1, rfl, rfl, rfl,
        hrecords.1.1, rfl, fun r hr => hinv.unresolved hrecords.1.1 hopen hr⟩
    · rw [AList.lookup_insert_ne hu] at hg
      exact (hsrc id m hm u g hg).append _

theorem Sourced.step {t : ℕ} {ops : List Op} {w w' : World} {op : Op}
    (hw : Run.exec (World.step F) (World.init t) ops = some w) (hsrc : Sourced F t ops w)
    (hinv : Sound GuessInv w) (hC : EachStep NoLateRecord w op) (hw' : w.step F op = some w') :
    Sourced F t (ops ++ [op]) w' := by
  intro id m' hm' u g hg
  rcases hm : w.find id with _ | m
  · obtain ⟨-, rfl⟩ := World.step_eq_some hw'
    obtain ⟨playerIDs, -, hcreated⟩ := Engine.created_of_lookup_step hm hm' op.creates_true
    rw [(isNew_of_created hcreated).noGuesses, AList.lookup_empty] at hg
    cases hg
  · rw [World.find_step_of_some hw' hm, Option.some.injEq] at hm'
    subst hm'
    unfold Match.after at hg ⊢
    rcases hop : op.on id m with _ | mop
    · simp only [hop] at hg ⊢
      exact (hsrc id m hm u g hg).append op
    · simp only [hop] at hg ⊢
      rcases step_guesses (F := F) m mop with hempty | ⟨hsame, hround | hpending⟩ | ⟨hround, hgs⟩
      · rw [hempty, AList.lookup_empty] at hg
        cases hg
      · rw [hsame] at hg
        rw [hround]
        exact (hsrc id m hm u g hg).append op
      · rw [hsame, (hinv.2 id m hm).cleared hpending, AList.lookup_empty] at hg
        cases hg
      · rw [hround]
        exact submitted_of_working hw hsrc hm (hinv.2 id m hm) hop (hC id m hm mop hop) hgs hg

/-! ## Runs -/

/-- The guess that the operation submits. -/
def Op.guess : Op → Option GuessPayload
  | .submitGuess _ g => some g
  | _ => none

/-- A guess for a round that has its result changes no guess, no hit points and no score. -/
def LateGuessIgnored (w : World) (op : Op) (w' : World) : Prop :=
  ∀ id m, w.engine.allMatches.lookup id = some m → ∀ g ∈ op.guess,
    (∃ r ∈ m.roundResults, r.roundID = g.roundID) →
      ∃ m', w'.engine.allMatches.lookup id = some m' ∧ m'.guesses = m.guesses ∧
        Assoc.Pointwise (fun _ => SameGuess) m.players m'.players

instance (w : World) (op : Op) (w' : World) : Decidable (LateGuessIgnored w op w') :=
  inferInstanceAs (Decidable (∀ id m, w.engine.allMatches.lookup id = some m → ∀ g ∈ op.guess,
    (∃ r ∈ m.roundResults, r.roundID = g.roundID) →
      ∃ m', w'.engine.allMatches.lookup id = some m' ∧ m'.guesses = m.guesses ∧
        Assoc.Pointwise (fun _ => SameGuess) m.players m'.players))

/-- What holds of every transition of a run, `pre` being the operations before it: late guesses are
ignored, the advance of a round leaves no guesses, and every row of a new result is that of a missing
guess or of one that the run has submitted for the round while it was the current one without a
result. -/
structure GuessesBelong (F : FloatMath) (t : ℕ) (pre : List Op) (w : World) (op : Op) (w' : World) :
    Prop where
  late : LateGuessIgnored w op w'
  advance : ∀ id m, w.find id = some m → ∀ clk provider, op = .tick clk provider →
    m.state = .live → m.pendingAdvance = true → m.intermissionUntil < clk.now →
      ∃ m', w'.find id = some m' ∧ m'.guesses = ∅
  scored : ∀ id m m' r, w.find id = some m → w'.find id = some m' →
    m'.roundResults = m.roundResults ++ [r] → ∀ u row, r.players.lookup u = some row →
      (row.lat = 0 ∧ row.lng = 0 ∧ row.score = 0) ∨
        Submitted F t (pre ++ [op]) id r.roundID u row.lat row.lng

theorem lateGuessIgnored_step {w w' : World} {op : Op} (hinv : Sound GuessInv w)
    (hC : EachStep NoLateRecord w op) (hw' : w.step F op = some w') : LateGuessIgnored w op w' := by
  intro id m hm g hg hlate
  refine ⟨m.after F id op, World.find_step_of_some hw' hm, ?_⟩
  cases op with
  | submitGuess clk g' =>
      simp only [Op.guess, Option.mem_def, Option.some.injEq] at hg
      subst hg
      unfold Match.after Op.on
      by_cases hid : g'.matchID = id
      · have hNL := hC id m hm (.submitGuess clk g') (by simp [Op.on, hid])
        simp only [hid, if_true]
        exact lateGuess_ignored (hinv.2 id m hm) hNL hlate
      · simp only [hid, if_false, true_and]
        exact .refl (fun _ => SameGuess.refl) _
  | createMatch | tick | markDisconnected | markResumed | forfeit => simp [Op.guess] at hg

theorem advance_clears {w w' : World} {clk : TickClock MatchID} {provider : RoundProvider}
    (hinv : Sound GuessInv w) (hw' : w.step F (.tick clk provider) = some w') {id : MatchID}
    {m : Match} (hm : w.find id = some m) (hlive : m.state = .live)
    (hpending : m.pendingAdvance = true) (hover : m.intermissionUntil < clk.now) :
    ∃ m', w'.find id = some m' ∧ m'.guesses = ∅ := by
  refine ⟨_, World.find_step_of_some hw' hm, ?_⟩
  have hempty := (hinv.2 id m hm).cleared hpending
  unfold Match.after Op.on
  dsimp only
  rw [step_tick, if_neg (not_not.2 hlive), if_pos hpending, if_pos hover]
  rcases advanceRound_cases hpending (clk.later id) (provider m.id (m.currentIndex + 1)) with
    ⟨_, heq⟩ | ⟨_, _, _, _, _, heq⟩ <;> rw [heq] <;> exact hempty

theorem scored_submitted {t : ℕ} {pre : List Op} {w w' : World} {op : Op}
    (hw : Run.exec (World.step F) (World.init t) pre = some w) (hsrc : Sourced F t pre w)
    (hinv : Sound GuessInv w) (hC : EachStep NoLateRecord w op) (hw' : w.step F op = some w')
    {id : MatchID} {m m' : Match} {r : RoundResult} (hm : w.find id = some m)
    (hm' : w'.find id = some m') (hr : m'.roundResults = m.roundResults ++ [r]) {u : UserID}
    {row : RoundPlayerResult} (hrow : r.players.lookup u = some row) :
    (row.lat = 0 ∧ row.lng = 0 ∧ row.score = 0) ∨
      Submitted F t (pre ++ [op]) id r.roundID u row.lat row.lng := by
  rw [World.find_step_of_some hw' hm, Option.some.injEq] at hm'
  subst hm'
  unfold Match.after at hr
  rcases hop : op.on id m with _ | mop
  · simp only [hop] at hr
    simpa using congrArg List.length hr
  simp only [hop] at hr
  obtain ⟨m₁, rfl, hround, hgs⟩ := step_result hr
  obtain ⟨p, hp, dealt, taken, hp', rfl⟩ := (resolution_rows m₁).right hrow
  rcases hg : m₁.guesses.lookup u with _ | g
  · left
    refine ⟨?_, ?_, guessScore_of_none hg⟩ <;> simp [roundPlayerResult, hg]
  · right
    rw [resolution_roundID, hround]
    have hsub := submitted_of_working hw hsrc hm (hinv.2 id m hm) hop (hC id m hm mop hop) hgs hg
    simpa [roundPlayerResult, hg] using hsub

/-- In every run of the engine that records no guess for a resolved round the guesses belong to their
rounds. -/
theorem guessesBelong_of_noLateRecord {F : FloatMath} {t : ℕ} {ops : List Op}
    (hC : Run.Guarded (World.step F) (EachStep NoLateRecord) (World.init t) ops) :
    Run.Throughout (World.step F) (GuessesBelong F t) (World.init t) ops := by
  refine Run.throughout_of_invariant (fun pre w => Sound GuessInv w ∧ Sourced F t pre w)
    ⟨sound_init _ t, ?_⟩ ?_ hC
  · intro id m hm
    simp [World.init, World.find, Engine.new] at hm
  · rintro pre w op w' hw ⟨hinv, hsrc⟩ hCop hw'
    refine ⟨⟨?_, hsrc.step hw hinv hCop hw'⟩, ?_, ?_, ?_⟩
    · exact Sound.step (fun _ _ _ (_ : True) h => guessInv_created h) (fun _ _ _ _ h hC => h.step hC)
        hinv op.creates_true hCop hw'
    · exact lateGuessIgnored_step hinv hCop hw'
    · rintro id m hm clk provider rfl hlive hpending hover
      exact advance_clears hinv hw' hm hlive hpending hover
    · intro id m m' r hm hm' hr u row hrow
      exact scored_submitted hw hsrc hinv hCop hw' hm hm' hr hrow

/-- Both guess, `u1` once more during the intermission, and again after the advance. -/
def twoRoundsRun : List Op :=
  [createAt 0, guessAt 3 "u1" 1, guessAt 4 "u2" 1, guessAt 8 "u1" 1, tickAt 12, guessAt 16 "u1" 2]

theorem guessesBelong_twoRounds :
    Run.Throughout (World.step .coarse) (GuessesBelong .coarse 0) (World.init 0) twoRoundsRun :=
  guessesBelong_of_noLateRecord (by decide +kernel)

/-- The first round is resolved at second 4 and its intermission ends at second 10; the guess at
second 11 comes before the next tick. -/
def lateGuessRun : List Op := [createAt 0, guessAt 3 "u1" 1, guessAt 4 "u2" 1, guessAt 11 "u1" 1]

theorem not_guessesBelong_lateGuess :
    ¬ Run.Throughout (World.step .coarse) (GuessesBelong .coarse 0) (World.init 0) lateGuessRun := by
  intro h
  have hlate : Run.Along (World.step .coarse) LateGuessIgnored (World.init 0) lateGuessRun :=
    h.along fun _ _ _ _ hbelong => hbelong.late
  exact absurd hlate (by decide +kernel)

end GeoDuels.Duel
