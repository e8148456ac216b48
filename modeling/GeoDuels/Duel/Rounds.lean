import GeoDuels.Duel.Creation

/-!
# Every round is resolved once

`RoundsOnce` says that the results of a match are those of the rounds `1, 2, …`, each of them once.
A live match that waits for the next round has as many results as rounds were begun, and one result
less while its round is open (`RoundsInv`).  Only one step breaks this: between the end of the
intermission and the tick that starts the next round, `SubmitGuess` accepts guesses for the round
that is already resolved and can resolve it again.
-/

namespace GeoDuels.Duel

variable {F : FloatMath}

structure RoundsOnce (m : Match) : Prop where
  numbers : m.roundResults.map RoundResult.roundNumber = List.range' 1 m.roundResults.length
  le_index : m.roundResults.length ≤ m.currentIndex + 1
  le_max : m.roundResults.length ≤ maxRounds
  le_ffa : m.mode = .freeForAll → m.roundResults.length ≤ ffaRounds

instance : DecidablePred RoundsOnce := fun _ =>
  decidable_of_iff (_ ∧ _ ∧ _ ∧ _)
    ⟨fun h => ⟨h.1, h.2.1, h.2.2.1, h.2.2.2⟩, fun h => ⟨h.1, h.2, h.3, h.4⟩⟩

/-- `RoundsOnce` with the number of results that each phase of a live match has. -/
structure RoundsInv (m : Match) : Prop extends RoundsOnce m where
  resolved : m.state = .live → m.pendingAdvance = true → m.roundResults.length = m.currentIndex + 1
  unresolved : m.state = .live → m.pendingAdvance = false → m.roundResults.length = m.currentIndex
  lt_max : m.state = .live → m.roundResults.length < maxRounds
  lt_ffa : m.state = .live → m.mode = .freeForAll → m.roundResults.length < ffaRounds

/-- The guess would resolve the round although its result is there already. -/
def LateResolve (clk : Clock) (g : GuessPayload) (m : Match) : Prop :=
  m.pendingAdvance = true ∧
    ((m.Admits clk g ∧ m.roundExpired (clk.read 1) = true) ∨ (m.Records clk g ∧ m.LastFinal g))

/-- The step is no guess that would resolve a resolved round. -/
def NoLateResolve (m : Match) : MatchOp → Prop
  | .submitGuess clk g => ¬ LateResolve clk g m
  | _ => True

instance (m : Match) (mop : MatchOp) : Decidable (NoLateResolve m mop) :=
  match mop with
  | .submitGuess _ _ => inferInstanceAs (Decidable (¬ (_ ∧ (_ ∨ _))))
  | .tick .. | .markDisconnected .. | .markResumed .. | .forfeit .. => .isTrue trivial

/-! ## The writes keep the invariant -/

theorem roundsInv_created {id : MatchID} {playerIDs : List UserID} {m : Match}
    (h : Created F id playerIDs m) : RoundsInv m := by
  have hnew := isNew_of_created h
  exact
    { numbers := by rw [hnew.noResults]; rfl
      le_index := by simp [hnew.noResults]
      le_max := by simp [hnew.noResults]
      le_ffa := by simp [hnew.noResults]
      resolved := by simp [hnew.unresolved]
      unresolved := by simp [hnew.noResults, hnew.first]
      lt_max := by simp [hnew.noResults, maxRounds]
      lt_ffa := by simp [hnew.noResults, ffaRounds] }

namespace RoundsInv

/-- A write that touches no result and leaves the phase of a live match alone. -/
theorem frame {m m' : Match} (h : RoundsInv m) (hr : m'.roundResults = m.roundResults)
    (hi : m'.currentIndex = m.currentIndex) (hm : m'.mode = m.mode)
    (hs : m'.state = .ended ∨ (m'.state = m.state ∧ m'.pendingAdvance = m.pendingAdvance)) :
    RoundsInv m' := by
  have honce : RoundsOnce m' := by
    refine ⟨?_, ?_, ?_, ?_⟩
    · rw [hr]
      exact h.numbers
    · rw [hr, hi]
      exact h.le_index
    · rw [hr]
      exact h.le_max
    · rw [hr, hm]
      exact h.le_ffa
  rcases hs with hended | ⟨hstate, hpending⟩
  · have hlive : ¬ m'.state = .live := by rw [hended]; decide
    exact ⟨honce, fun h => absurd h hlive, fun h => absurd h hlive, fun h => absurd h hlive,
      fun h => absurd h hlive⟩
  · refine ⟨honce, ?_, ?_, ?_, ?_⟩
    · rw [hr, hi, hstate, hpending]
      exact h.resolved
    · rw [hr, hi, hstate, hpending]
      exact h.unresolved
    · rw [hr, hstate]
      exact h.lt_max
    · rw [hr, hstate, hm]
      exact h.lt_ffa

theorem announceLive {m : Match} (h : RoundsInv m) (now : ℕ) : RoundsInv (m.announceLive now) := by
  rcases announceLive_cases now m with heq | heq
  · rwa [heq]
  · rw [heq]
    exact h.frame rfl rfl rfl (.inr ⟨rfl, rfl⟩)

theorem recordGuess {m : Match} (h : RoundsInv m) (now : ℕ) (g : GuessPayload) :
    RoundsInv (m.recordGuess now g) := h.frame rfl rfl rfl (.inr ⟨rfl, rfl⟩)

theorem sweep {m : Match} (h : RoundsInv m) (now : ℕ) : RoundsInv (m.sweep now) := by
  rcases sweep_eq now m with heq | ⟨out, activity, seq, -, heq⟩
  · rwa [heq]
  · rw [heq]
    exact h.frame rfl rfl rfl (.inl rfl)

/-- The resolution of an open round. -/
theorem resolveRound {m : Match} (h : RoundsInv m) (hopen : m.pendingAdvance = false)
    (clk : Clock) : RoundsInv (m.resolveRound F clk) := by
  by_cases hlive : m.state = .live
  · have hlen := h.unresolved hlive hopen
    have hmax := h.lt_max hlive
    have hffa := h.lt_ffa hlive
    obtain ⟨intermission, activity, seq, -, -, heq⟩ := resolveRound_live (F := F) hlive clk
    rw [heq]
    refine ⟨⟨?_, ?_, ?_, ?_⟩, ?_, ?_, ?_, ?_⟩
    · rw [List.map_append, h.numbers, List.length_append, List.length_singleton, List.range'_concat]
      simp [hlen, Nat.add_comm]
    · simp [hlen]
    · rw [List.length_append]
      exact hmax
    · intro hmode
      rw [List.length_append]
      exact hffa hmode
    · intro _ _
      simp [hlen]
    · intro hstate hpending
      simp only [hopen, Bool.false_or, bne_eq_false_iff_eq] at hpending
      exact absurd (hstate.symm.trans hpending) (by decide)
    · intro hstate
      simpa [hlen] using (lt_of_resolution_live hstate).1
    · intro hstate hmode
      simpa [hlen] using (lt_of_resolution_live hstate).2 hmode
  · rwa [resolveRound_of_not_live hlive]

theorem advanceRound {m : Match} (h : RoundsInv m) (hlive : m.state = .live)
    (hpending : m.pendingAdvance = true) (clk : Clock) (next : Except String LocationPoint) :
    RoundsInv (m.advanceRound clk next) := by
  have hlen := h.resolved hlive hpending
  rcases advanceRound_cases hpending clk next with ⟨_, heq⟩ | ⟨_, _, _, _, _, heq⟩
  · rw [heq]
    exact h.frame rfl rfl rfl (.inl rfl)
  · rw [heq]
    exact
      { numbers := h.numbers
        le_index := by simp [hlen]
        le_max := h.le_max
        le_ffa := h.le_ffa
        resolved := by simp
        unresolved := fun _ _ => hlen
        lt_max := h.lt_max
        lt_ffa := h.lt_ffa }

theorem submitGuess {m : Match} (h : RoundsInv m) {clk : Clock} {g : GuessPayload}
    (hlate : ¬ LateResolve clk g m) : RoundsInv (m.step F (.submitGuess clk g)) := by
  rw [step_submitGuess]
  split_ifs with hexpired hrecords hfinal
  · have hopen : m.pendingAdvance = false := by
      by_contra hpending
      exact hlate ⟨by simpa using hpending, .inl hexpired⟩
    exact h.resolveRound hopen _
  · have hopen : m.pendingAdvance = false := by
      by_contra hpending
      have hlast := (allFinal_recordGuess hrecords.1.2.2.2 _).1 hfinal
      exact hlate ⟨by simpa using hpending, .inr ⟨hrecords, hlast⟩⟩
    exact (h.recordGuess _ _).resolveRound hopen _
  · exact h.recordGuess _ _
  · exact h

theorem tick {m : Match} (h : RoundsInv m) (now : ℕ) (clk : Clock) (hle : now ≤ clk.start)
    (next : Except String LocationPoint) : RoundsInv (m.step F (.tick now clk hle next)) := by
  rw [step_tick]
  split_ifs with hlive hpending hover
  · exact h
  · exact h.advanceRound (not_not.1 hlive) hpending clk next
  · exact h
  · refine RoundsInv.sweep ?_ now
    unfold Match.tickRound
    split_ifs
    · refine (h.announceLive now).resolveRound ?_ clk
      rcases announceLive_cases now m with heq | heq <;> rw [heq] <;> simpa using hpending
    · exact h.announceLive now

theorem setConnection {m : Match} (h : RoundsInv m) (userID : UserID) (off : Bool) (due : ℤ)
    (activity : ℕ) : RoundsInv (m.setConnection userID off due activity) :=
  h.frame rfl rfl rfl (.inr ⟨rfl, rfl⟩)

theorem forfeit {m : Match} (h : RoundsInv m) (clk : Clock) (userID : UserID) :
    RoundsInv (m.step F (.forfeit clk userID)) := by
  rw [step_forfeit]
  split_ifs
  · exact h.frame rfl rfl rfl (.inl rfl)
  · exact h

theorem step {m : Match} {mop : MatchOp} (h : RoundsInv m) (hC : NoLateResolve m mop) :
    RoundsInv (m.step F mop) := by
  cases mop with
  | submitGuess clk g => exact h.submitGuess hC
  | tick now clk hle next => exact h.tick now clk hle next
  | markDisconnected clk userID =>
      rw [step_markDisconnected]
      split_ifs
      · exact h.setConnection _ _ _ _
      · exact h
  | markResumed clk userID =>
      rw [step_markResumed]
      split_ifs
      · exact h.setConnection _ _ _ _
      · exact h
  | forfeit clk userID => exact h.forfeit clk userID

end RoundsInv

/-- A second resolution leaves more results than rounds. -/
theorem not_roundsOnce_of_lateResolve {m : Match} (h : RoundsInv m) {clk : Clock} {g : GuessPayload}
    (hlate : LateResolve clk g m) : ¬ RoundsOnce (m.step F (.submitGuess clk g)) := by
  obtain ⟨hpending, hcase⟩ := hlate
  have hadmits : m.Admits clk g := by
    rcases hcase with hcase | hcase
    · exact hcase.1
    · exact hcase.1.1
  have hlen := h.resolved hadmits.1 hpending
  -- the resolution appends a result, to the match as it is or with the guess recorded
  have happend : (m.step F (.submitGuess clk g)).roundResults.length = m.roundResults.length + 1 ∧
      (m.step F (.submitGuess clk g)).currentIndex = m.currentIndex := by
    rw [step_submitGuess]
    split_ifs with hexpired hrecords hfinal
    · obtain ⟨_, _, _, -, -, heq⟩ := resolveRound_live (F := F) hadmits.1 (clk.drop 2)
      rw [heq]
      simp
    · obtain ⟨_, _, _, -, -, heq⟩ := resolveRound_live (F := F)
        (m := m.recordGuess (clk.read 1) g) hadmits.1 (clk.drop 2)
      rw [heq]
      simp [Match.recordGuess]
    · rcases hcase with hcase | hcase
      · exact absurd hcase hexpired
      · exact absurd ((allFinal_recordGuess hadmits.2.2.2 _).2 hcase.2) hfinal
    · rcases hcase with hcase | hcase
      · exact absurd hcase hexpired
      · exact absurd hcase.1 hrecords
  intro honce
  have hle := honce.le_index
  omega

/-! ## Runs -/

/-- In a run of the engine every round of every match is resolved once, exactly when no guess
resolves a round a second time before the tick that starts the next one. -/
theorem roundsOnce_iff (F : FloatMath) (t : ℕ) (ops : List Op) :
    Run.Always (World.step F) (AllMatches fun _ => RoundsOnce) (World.init t) ops ↔
      Run.Guarded (World.step F) (EachStep NoLateResolve) (World.init t) ops := by
  refine always_allMatches_iff (I := fun _ => RoundsInv) (fun _ _ _ h => roundsInv_created h)
    (fun _ m mop _ h hC => h.step hC) (fun _ m h => h.toRoundsOnce) ?_ t ops
  intro id m mop h hC
  cases mop with
  | submitGuess clk g => exact not_roundsOnce_of_lateResolve h (not_not.1 hC)
  | tick | markDisconnected | markResumed | forfeit => exact absurd trivial hC

/-- Both players guess again after the intermission (seconds 4 to 10), before any tick. -/
def guessAgainRun : List Op :=
  [createAt 0, guessAt 3 "u1" 1, guessAt 4 "u2" 1, guessAt 11 "u1" 1, guessAt 12 "u2" 1]

theorem not_roundsOnce_guessAgain :
    ¬ Run.Always (World.step .coarse) (AllMatches fun _ => RoundsOnce) (World.init 0)
      guessAgainRun := by
  decide +kernel

end GeoDuels.Duel
