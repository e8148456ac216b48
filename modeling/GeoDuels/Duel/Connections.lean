import GeoDuels.Duel.Teams

/-!
# Connections of the players of a duel

A player counts as connected when his flag is down and no deadline runs.  Only `MarkDisconnected`
for that player takes this from him (`step_connected`), and the sweeps of a tick pass over a
connected player (`sweep_of_connected`).
-/

namespace GeoDuels.Duel

variable {F : FloatMath}

/-- The player does not count as disconnected. -/
def Connected (p : PlayerState) : Prop := p.disconnected = false ∧ p.disconnectDue = 0

instance : DecidablePred Connected := fun _ => inferInstanceAs (Decidable (_ ∧ _))

/-- The step is a disconnect of the player. -/
def MatchOp.Disconnects (userID : UserID) : MatchOp → Prop
  | .markDisconnected _ u => u = userID
  | _ => False

/-- Who was connected still is. -/
def Stays (p p' : PlayerState) : Prop := Connected p → Connected p'

theorem stays_refl (players : Assoc UserID PlayerState) :
    Assoc.Pointwise (fun _ => Stays) players players := .refl (fun _ _ => id) _

theorem Plays.stays {gain : ℤ} {p p' : PlayerState} (h : Plays gain p p') : Stays p p' := by
  intro hp
  rw [h.frame]
  exact hp

theorem stays_trans {players players' players'' : Assoc UserID PlayerState}
    (h : Assoc.Pointwise (fun _ => Stays) players players')
    (h' : Assoc.Pointwise (fun _ => Stays) players' players'') :
    Assoc.Pointwise (fun _ => Stays) players players'' :=
  h.trans h' fun _ _ _ _ hv hw hp => hw (hv hp)

theorem modify_stays {f : PlayerState → PlayerState} (hf : ∀ p, Connected (f p)) (u : UserID)
    (players : Assoc UserID PlayerState) :
    Assoc.Pointwise (fun _ => Stays) players (players.modify u f) :=
  Assoc.pointwise_modify (fun _ _ => id) fun p _ _ => hf p

theorem recordGuess_stays (now : ℕ) (g : GuessPayload) (m : Match) :
    Assoc.Pointwise (fun _ => Stays) m.players (m.recordGuess now g).players := by
  apply modify_stays
  exact fun _ => ⟨rfl, rfl⟩

theorem resolveRound_stays {m : Match} (h : HpInv m) (clk : Clock) :
    Assoc.Pointwise (fun _ => Stays) m.players (m.resolveRound F clk).players := by
  by_cases hlive : m.state = .live
  · obtain ⟨_, _, _, -, -, heq⟩ := resolveRound_live (F := F) hlive clk
    rw [heq]
    exact (resolution_plays (h.inStep hlive)).mono fun _ _ _ hplay => hplay.stays
  · rw [resolveRound_of_not_live hlive]
    exact stays_refl _

theorem sweep_stays (now : ℕ) (m : Match) :
    Assoc.Pointwise (fun _ => Stays) m.players (m.sweep now).players := by
  obtain heq | ⟨out, _, _, -, heq⟩ := sweep_eq now m
  · rw [heq]
    exact stays_refl _
  · rw [heq]
    refine Assoc.pointwise_mapVals fun _ p _ hp => ?_
    split_ifs
    · exact hp
    · exact hp

theorem advanceRound_stays {m : Match} (hpending : m.pendingAdvance = true) (clk : Clock)
    (next : Except String LocationPoint) :
    Assoc.Pointwise (fun _ => Stays) m.players (m.advanceRound clk next).players := by
  obtain ⟨_, heq⟩ | ⟨_, _, _, _, _, heq⟩ := advanceRound_cases hpending clk next
  · rw [heq]
    exact stays_refl _
  · rw [heq]
    exact Assoc.pointwise_mapVals fun _ _ _ hp => hp

/-- Only a disconnect of the player himself ends his connection. -/
theorem step_connected {m : Match} (h : HpInv m) {mop : MatchOp} {u : UserID} {p : PlayerState}
    (hmop : ¬ mop.Disconnects u) (hu : m.players.lookup u = some p) (hp : Connected p) :
    ∃ p', (m.step F mop).players.lookup u = some p' ∧ Connected p' := by
  have hstays : ∀ {m' : Match}, Assoc.Pointwise (fun _ => Stays) m.players m'.players →
      ∃ p', m'.players.lookup u = some p' ∧ Connected p' := by
    intro m' hpoint
    obtain ⟨p', hu', hp'⟩ := hpoint.left hu
    exact ⟨p', hu', hp' hp⟩
  cases mop with
  | submitGuess clk g =>
      rw [step_submitGuess]
      split_ifs
      · exact hstays (resolveRound_stays h _)
      · exact hstays (stays_trans (recordGuess_stays _ g m)
          (resolveRound_stays (h.recordGuess _ g) _))
      · exact hstays (recordGuess_stays _ g m)
      · exact ⟨p, hu, hp⟩
  | tick now clk hle next =>
      rw [step_tick]
      split_ifs with hlive hpending
      · exact ⟨p, hu, hp⟩
      · exact hstays (advanceRound_stays hpending clk next)
      · exact ⟨p, hu, hp⟩
      · exact hstays (stays_trans ((tickRound_plays h now clk).mono fun _ _ _ ⟨_, hplay⟩ => hplay.stays)
          (sweep_stays now _))
  | markDisconnected clk v =>
      have hne : u ≠ v := fun heq => hmop heq.symm
      rw [step_markDisconnected]
      split_ifs
      · refine ⟨p, ?_, hp⟩
        rw [Match.setConnection]
        dsimp only
        rw [Assoc.lookup_modify_ne hne]
        exact hu
      · exact ⟨p, hu, hp⟩
  | markResumed clk v =>
      rw [step_markResumed]
      split_ifs
      · apply hstays
        apply modify_stays
        exact fun _ => ⟨rfl, rfl⟩
      · exact ⟨p, hu, hp⟩
  | forfeit clk v =>
      rw [step_forfeit]
      split_ifs
      · apply hstays
        apply modify_stays
        exact fun _ => ⟨rfl, rfl⟩
      · exact ⟨p, hu, hp⟩

theorem graceExpired_of_connected {p : PlayerState} (h : Connected p) (now : ℕ) :
    graceExpired now p = false := by
  simp [graceExpired, h.1]

/-- The sweeps of a tick take nothing from a connected player. -/
theorem sweep_of_connected {m : Match} {u : UserID} {p : PlayerState}
    (hu : m.players.lookup u = some p) (hp : Connected p) (now : ℕ) :
    (m.sweep now).players.lookup u = some p := by
  obtain ⟨heq, -⟩ | ⟨_, -, -, heq⟩ | ⟨-, ⟨hall, -⟩, -⟩ := sweep_cases now m
  · rw [heq]
    exact hu
  · rw [heq]
    dsimp only
    rw [zeroHP, Assoc.lookup_mapVals, hu, Option.map_some,
      if_neg (by simp [graceExpired_of_connected hp])]
  · have hoff := Assoc.all_eq_true.1 hall u p hu
    simp [hp.1] at hoff

end GeoDuels.Duel
