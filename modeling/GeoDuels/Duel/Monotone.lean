import GeoDuels.Duel.HitPoints

/-!
# The engine only moves forward

Clients and nodes order the snapshots of a match by its event sequence.  `Advances` is what an
operation may do to a match: nothing, or a change with a larger event sequence in which hit points
fall, total scores change by what the players gain, and results are appended.  Every write of the engine
advances the match, so every operation does; an ended match takes no more than connection events.  A gain
is negative where a guess is scored whose distance is no number, and nowhere else, so total scores grow
in exactly the runs without such guesses (`engine_monotone_iff`).
-/

namespace GeoDuels.Duel

variable {F : FloatMath}

/-- The disconnect flag goes with a deadline. -/
def Linked (p : PlayerState) : Prop := p.disconnected = true ↔ p.disconnectDue ≠ 0

structure PlayerAdvances (gain : ℤ) (p p' : PlayerState) : Prop where
  falls : Falls p.hp p'.hp
  score : p'.totalScore = p.totalScore + gain
  linked : Linked p → Linked p'

theorem PlayerAdvances.refl (p : PlayerState) : PlayerAdvances 0 p p := ⟨.refl _, (add_zero _).symm, id⟩

theorem PlayerAdvances.trans {gain gain' : ℤ} {p p' p'' : PlayerState} (h : PlayerAdvances gain p p')
    (h' : PlayerAdvances gain' p' p'') : PlayerAdvances (gain + gain') p p'' := by
  refine ⟨h.falls.trans h'.falls, ?_, fun hl => h'.linked (h.linked hl)⟩
  rw [h'.score, h.score, add_assoc]

theorem Plays.advances {gain : ℤ} {p p' : PlayerState} (h : Plays gain p p') :
    PlayerAdvances gain p p' := by
  refine ⟨h.falls, h.score, fun hl => ?_⟩
  rw [h.frame]
  exact hl

/-- A team keeps its members and its hit points do not grow. -/
def TeamFalls (team team' : TeamState) : Prop := SameTeam team team' ∧ Falls team.hp team'.hp

theorem TeamFalls.refl (team : TeamState) : TeamFalls team team := ⟨rfl, .refl _⟩

theorem TeamFalls.trans {team team' team'' : TeamState} (h : TeamFalls team team')
    (h' : TeamFalls team' team'') : TeamFalls team team'' := by
  refine ⟨?_, h.2.trans h'.2⟩
  rw [SameTeam, h'.1, h.1]

/-- What an operation may do to a match in which the players gain `gains`. -/
structure Advances (gains : UserID → ℤ) (m m' : Match) : Prop where
  later : m' = m ∨ m.eventSeq < m'.eventSeq
  players : Assoc.Pointwise (fun u => PlayerAdvances (gains u)) m.players m'.players
  teams : Assoc.Pointwise (fun _ => TeamFalls) m.teams m'.teams
  results : m.roundResults <+: m'.roundResults
  same : m'.id = m.id ∧ m'.mode = m.mode

theorem Advances.refl (m : Match) : Advances 0 m m :=
  ⟨.inl rfl, .refl (fun _ => PlayerAdvances.refl) _, .refl (fun _ => TeamFalls.refl) _,
    List.prefix_rfl, rfl, rfl⟩

theorem Advances.trans {gains gains' : UserID → ℤ} {m m' m'' : Match} (h : Advances gains m m')
    (h' : Advances gains' m' m'') : Advances (gains + gains') m m'' := by
  refine ⟨?_, h.players.trans h'.players fun _ _ _ _ => PlayerAdvances.trans,
    h.teams.trans h'.teams fun _ _ _ _ => TeamFalls.trans, h.results.trans h'.results,
    h'.same.1.trans h.same.1, h'.same.2.trans h.same.2⟩
  rcases h.later with heq | hlt <;> rcases h'.later with heq' | hlt'
  · exact .inl (heq'.trans heq)
  · exact .inr (heq ▸ hlt')
  · exact .inr (heq' ▸ hlt)
  · exact .inr (hlt.trans hlt')

/-- A write that nobody gains from, before or after another. -/
theorem Advances.quiet_left {gains : UserID → ℤ} {m m' m'' : Match} (h : Advances 0 m m')
    (h' : Advances gains m' m'') : Advances gains m m'' := by
  have hboth := h.trans h'
  rwa [zero_add] at hboth

theorem Advances.quiet_right {gains : UserID → ℤ} {m m' m'' : Match} (h : Advances gains m m')
    (h' : Advances 0 m' m'') : Advances gains m m'' := by
  have hboth := h.trans h'
  rwa [add_zero] at hboth

/-! ## The writes -/

theorem playerAdvances_refl (players : Assoc UserID PlayerState) :
    Assoc.Pointwise (fun _ => PlayerAdvances 0) players players := .refl (fun _ => .refl) _

theorem teamFalls_refl (teams : Assoc TeamID TeamState) :
    Assoc.Pointwise (fun _ => TeamFalls) teams teams := .refl (fun _ => .refl) _

theorem announceLive_advances (now : ℕ) (m : Match) : Advances 0 m (m.announceLive now) := by
  rcases announceLive_cases now m with heq | heq
  · rw [heq]
    exact .refl m
  · rw [heq]
    exact ⟨.inr (Nat.lt_succ_self _), playerAdvances_refl _, teamFalls_refl _, List.prefix_rfl,
      rfl, rfl⟩

theorem recordGuess_advances (now : ℕ) (g : GuessPayload) (m : Match) :
    Advances 0 m (m.recordGuess now g) := by
  refine ⟨.inr (Nat.lt_succ_self _), ?_, teamFalls_refl _, List.prefix_rfl, rfl, rfl⟩
  refine Assoc.pointwise_modify (fun _ => .refl) fun p _ => ⟨.refl _, (add_zero _).symm, fun _ => ?_⟩
  simp [Linked]

theorem setConnection_advances {off : Bool} {due : ℤ} (hlink : off = true ↔ due ≠ 0) (u : UserID)
    (activity : ℕ) (m : Match) : Advances 0 m (m.setConnection u off due activity) := by
  refine ⟨.inr (Nat.lt_succ_self _), ?_, teamFalls_refl _, List.prefix_rfl, rfl, rfl⟩
  exact Assoc.pointwise_modify (fun _ => .refl) fun p _ => ⟨.refl _, (add_zero _).symm, fun _ => hlink⟩

theorem sweep_advances (now : ℕ) (m : Match) : Advances 0 m (m.sweep now) := by
  rcases sweep_eq now m with heq | ⟨out, _, _, hseq, heq⟩
  · rw [heq]
    exact .refl m
  · rw [heq]
    refine ⟨.inr hseq, Assoc.pointwise_mapVals fun _ p _ => ?_, teamFalls_refl _, List.prefix_rfl,
      rfl, rfl⟩
    split_ifs
    · exact ⟨falls_zero _, (add_zero _).symm, id⟩
    · exact .refl p

theorem resolveRound_advances {m : Match} (h : HpInv m) (hlive : m.state = .live) (clk : Clock) :
    Advances (gain F m) m (m.resolveRound F clk) := by
  obtain ⟨_, _, _, hseq, -, heq⟩ := resolveRound_live (F := F) hlive clk
  rw [heq]
  exact ⟨.inr hseq, (resolution_plays (h.inStep hlive)).mono fun _ _ _ h => h.advances,
    resolution_teams_pointwise m, List.prefix_append _ _, rfl, rfl⟩

theorem advanceRound_advances {m : Match} (hpending : m.pendingAdvance = true) (clk : Clock)
    (next : Except String LocationPoint) : Advances 0 m (m.advanceRound clk next) := by
  rcases advanceRound_cases hpending clk next with ⟨_, heq⟩ | ⟨_, _, _, _, _, heq⟩
  · rw [heq]
    exact ⟨.inr (Nat.lt_succ_self _), playerAdvances_refl _, teamFalls_refl _, List.prefix_rfl,
      rfl, rfl⟩
  · rw [heq]
    exact ⟨.inr (Nat.lt_succ_self _),
      Assoc.pointwise_mapVals fun _ p _ => ⟨.refl _, (add_zero _).symm, id⟩,
      teamFalls_refl _, List.prefix_rfl, rfl, rfl⟩

/-! ## The steps -/

/-- The match whose round the operation resolves, as it is then. -/
def Match.resolving (m : Match) : MatchOp → Option Match
  | .submitGuess clk g =>
      if m.Admits clk g ∧ m.roundExpired (clk.read 1) = true then some m
      else if m.Records clk g ∧ (m.recordGuess (clk.read 1) g).allFinal = true then
        some (m.recordGuess (clk.read 1) g)
      else none
  | .tick now _ _ _ =>
      if m.state = .live ∧ m.pendingAdvance = false ∧ m.roundExpired now = true then
        some (m.announceLive now)
      else none
  | .markDisconnected .. | .markResumed .. | .forfeit .. => none

/-- What the players gain by the operation. -/
def Match.gains (F : FloatMath) (m : Match) (mop : MatchOp) : UserID → ℤ :=
  (m.resolving mop).elim 0 (gain F)

/-- The deadline of a disconnect is a time of the Unix era. -/
theorem disconnectDue_ne_zero {t : ℕ} (h : Time.unixEpoch ≤ t) :
    Time.unixMilli (t + disconnectGrace) ≠ 0 := by
  have hsecond : Time.second ≤ disconnectGrace := by decide
  exact (Time.unixMilli_pos (by omega)).ne'

theorem submitGuess_advances {m : Match} (h : HpInv m) (clk : Clock) (g : GuessPayload) :
    Advances (m.gains F (.submitGuess clk g)) m (m.step F (.submitGuess clk g)) := by
  rw [step_submitGuess]
  unfold Match.gains Match.resolving
  dsimp only
  by_cases hlate : m.Admits clk g ∧ m.roundExpired (clk.read 1) = true
  · rw [if_pos hlate, if_pos hlate]
    exact resolveRound_advances h hlate.1.1 _
  · rw [if_neg hlate, if_neg hlate]
    by_cases hrecords : m.Records clk g
    · rw [if_pos hrecords]
      by_cases hall : (m.recordGuess (clk.read 1) g).allFinal = true
      · rw [if_pos hall, if_pos ⟨hrecords, hall⟩]
        exact (recordGuess_advances _ g m).quiet_left
          (resolveRound_advances (h.recordGuess _ g) hrecords.1.1 _)
      · rw [if_neg hall, if_neg fun h => hall h.2]
        exact recordGuess_advances _ g m
    · rw [if_neg hrecords, if_neg fun h => hrecords h.1]
      exact .refl m

theorem tick_advances {m : Match} (h : HpInv m) (now : ℕ) (clk : Clock) (hle : now ≤ clk.start)
    (next : Except String LocationPoint) :
    Advances (m.gains F (.tick now clk hle next)) m (m.step F (.tick now clk hle next)) := by
  rw [step_tick]
  unfold Match.gains Match.resolving Match.tickRound
  dsimp only
  by_cases hlive : m.state = .live
  · rw [if_neg (not_not_intro hlive)]
    by_cases hpending : m.pendingAdvance = true
    · rw [if_pos hpending, if_neg fun hover => by simp [hpending] at hover]
      split_ifs
      · exact advanceRound_advances hpending clk next
      · exact .refl m
    · rw [if_neg hpending]
      by_cases hover : m.roundExpired now = true
      · rw [if_pos hover, if_pos ⟨hlive, Bool.eq_false_iff.2 hpending, hover⟩]
        have hround := resolveRound_advances (F := F) (h.announceLive now)
          ((announceLive_state now m).trans hlive) clk
        exact ((announceLive_advances now m).quiet_left hround).quiet_right (sweep_advances now _)
      · rw [if_neg hover, if_neg fun h => hover h.2.2]
        exact (announceLive_advances now m).quiet_left (sweep_advances now _)
  · rw [if_pos hlive, if_neg fun h => hlive h.1]
    exact .refl m

theorem step_advances {m : Match} (h : HpInv m) {mop : MatchOp}
    (hclock : Time.unixEpoch ≤ mop.start) : Advances (m.gains F mop) m (m.step F mop) := by
  cases mop with
  | submitGuess clk g => exact submitGuess_advances h clk g
  | tick now clk hle next => exact tick_advances h now clk hle next
  | markDisconnected clk u =>
      rw [step_markDisconnected]
      split_ifs
      · have hdue := disconnectDue_ne_zero (t := clk.read 0) hclock
        exact setConnection_advances (by simpa using hdue) u _ m
      · exact .refl m
  | markResumed clk u =>
      rw [step_markResumed]
      split_ifs
      · exact setConnection_advances (by simp) u _ m
      · exact .refl m
  | forfeit clk u =>
      rw [step_forfeit]
      split_ifs
      · refine ⟨.inr (Nat.lt_succ_self _), ?_, teamFalls_refl _, List.prefix_rfl, rfl, rfl⟩
        refine Assoc.pointwise_modify (fun _ => .refl) fun p _ =>
          ⟨falls_zero _, (add_zero _).symm, fun _ => ?_⟩
        simp [Linked]
      · exact .refl m

/-- The operation scores no guess of a free-for-all whose distance is no number. -/
def Measures (F : FloatMath) (m : Match) (mop : MatchOp) : Prop :=
  ∀ m' ∈ m.resolving mop, m'.mode = .freeForAll → ∀ u ∈ m'.players, guessDistance F m' u ≠ .nan

theorem gain_nonneg_iff (m : Match) (u : UserID) :
    0 ≤ gain F m u ↔ (m.mode = .freeForAll → guessDistance F m u ≠ .nan) := by
  unfold gain
  split_ifs with hmode
  · rw [guessScore_nonneg_iff]
    exact (imp_iff_right hmode).symm
  · exact iff_of_true le_rfl fun h => absurd h hmode

/-- The resolved match has the players of the match. -/
theorem mem_players_resolving {m m' : Match} {mop : MatchOp} (h : m' ∈ m.resolving mop) (u : UserID) :
    u ∈ m'.players ↔ u ∈ m.players := by
  cases mop with
  | submitGuess clk g =>
      unfold Match.resolving at h
      dsimp only at h
      split_ifs at h
      · obtain rfl := Option.some.inj h
        rfl
      · obtain rfl := Option.some.inj h
        exact (recordGuess_advances _ g m).players.mem_iff
      · cases h
  | tick now clk hle next =>
      unfold Match.resolving at h
      dsimp only at h
      split_ifs at h
      · obtain rfl := Option.some.inj h
        rw [announceLive_players]
      · cases h
  | markDisconnected | markResumed | forfeit => cases h

theorem gains_nonneg_iff (m : Match) (mop : MatchOp) :
    (∀ u ∈ m.players, 0 ≤ m.gains F mop u) ↔ Measures F m mop := by
  have hmem : ∀ m' ∈ m.resolving mop, ∀ u, u ∈ m'.players ↔ u ∈ m.players := fun _ => mem_players_resolving
  unfold Match.gains Measures
  cases hm' : m.resolving mop with
  | none => exact iff_of_true (fun u _ => le_rfl) fun m' h => by cases h
  | some m' =>
      constructor
      · rintro h _ hm hmode u hu
        obtain rfl := Option.some.inj hm
        exact (gain_nonneg_iff m' u).1 (h u ((hmem m' hm' u).1 hu)) hmode
      · exact fun h u hu => (gain_nonneg_iff m' u).2 fun hmode =>
          h m' rfl hmode u ((hmem m' hm' u).2 hu)

/-! ## Ended matches -/

/-- The operations that an ended match takes: connection events of one player. -/
def ConnectionOnly (id : MatchID) (m m' : Match) : Op → Prop
  | .markDisconnected _ matchID userID | .markResumed _ matchID userID =>
      m' = m ∨ matchID = id ∧ ∃ off due activity, m' = m.setConnection userID off due activity
  | _ => m' = m

theorem after_ended {m : Match} (h : m.state = .ended) (id : MatchID) (op : Op) :
    ConnectionOnly id m (m.after F id op) op := by
  have hlive : m.state ≠ .live := by rw [h]; decide
  cases op with
  | createMatch => rfl
  | submitGuess clk g =>
      unfold Match.after Op.on
      by_cases hid : g.matchID = id
      · have hadmits : ¬ m.Admits clk g := fun hadmits => hlive hadmits.1
        have hrecords : ¬ m.Records clk g := fun hrecords => hlive hrecords.1.1
        simp only [hid, if_true, step_submitGuess, hadmits, hrecords, false_and, if_false]
        rfl
      · simp only [hid, if_false]
        rfl
  | tick clk provider =>
      unfold Match.after Op.on
      dsimp only
      rw [step_tick, if_pos hlive]
      rfl
  | forfeit clk matchID u =>
      unfold Match.after Op.on
      by_cases hid : matchID = id
      · simp only [hid, if_true, step_forfeit, hlive, false_and, if_false]
        rfl
      · simp only [hid, if_false]
        rfl
  | markDisconnected clk matchID u =>
      unfold Match.after Op.on
      by_cases hid : matchID = id
      · simp only [hid, if_true, step_markDisconnected]
        split_ifs
        · exact .inr ⟨rfl, _, _, _, rfl⟩
        · exact .inl rfl
      · simp only [hid, if_false]
        exact .inl rfl
  | markResumed clk matchID u =>
      unfold Match.after Op.on
      by_cases hid : matchID = id
      · simp only [hid, if_true, step_markResumed]
        split_ifs
        · exact .inr ⟨rfl, _, _, _, rfl⟩
        · exact .inl rfl
      · simp only [hid, if_false]
        exact .inl rfl

/-! ## Runs -/

/-- The bounds of the hit points, and a deadline for the disconnected players. -/
structure StateOk (m : Match) : Prop where
  players : ∀ u p, m.players.lookup u = some p → InBounds p.hp ∧ Linked p
  teams : ∀ t team, m.teams.lookup t = some team → InBounds team.hp

/-- Hit points fall, scores grow. -/
def PlayerMonotone (p p' : PlayerState) : Prop := p'.hp ≤ p.hp ∧ p.totalScore ≤ p'.totalScore

/-- What an operation does to each match of the engine: it keeps the match or enlarges its event
sequence, hit points fall, scores grow, results are appended, an ended match takes connection events
only, and the answer of a tick lists the matches whose event sequence it has changed. -/
def Forward (F : FloatMath) (w : World) (op : Op) (w' : World) : Prop :=
  ∀ id m, w.find id = some m → ∃ m', w'.find id = some m' ∧
    (m' = m ∨ m.eventSeq < m'.eventSeq) ∧
    Assoc.Pointwise (fun _ => PlayerMonotone) m.players m'.players ∧
    Assoc.Pointwise (fun _ team team' => SameTeam team team' ∧ team'.hp ≤ team.hp)
      m.teams m'.teams ∧
    m.roundResults <+: m'.roundResults ∧
    (m.state = .ended → ConnectionOnly id m m' op) ∧
    ∀ clk provider, op = .tick clk provider → m'.eventSeq ≠ m.eventSeq →
      id ∈ (w.engine.tick F clk provider).1

/-- The invariant of a match under its identity. -/
structure MonotoneInv (id : MatchID) (m : Match) : Prop extends HpInv m where
  id_eq : m.id = id
  linked : ∀ u p, m.players.lookup u = some p → Linked p

theorem monotoneInv_created {id : MatchID} {playerIDs : List UserID} {m : Match}
    (h : Created F id playerIDs m) : MonotoneInv id m := by
  have hnew := isNew_of_created h
  refine ⟨hpInv_created h, hnew.id_eq, fun u p hu => ?_⟩
  have hfresh := hnew.sides.fresh u p hu
  simp [Linked, hfresh.connected, hfresh.due]

theorem MonotoneInv.step {id : MatchID} {m : Match} {mop : MatchOp} (h : MonotoneInv id m)
    (hclock : Time.unixEpoch ≤ mop.start) : MonotoneInv id (m.step F mop) := by
  have hadv := step_advances (F := F) h.toHpInv hclock
  refine ⟨h.toHpInv.step mop, hadv.same.1.trans h.id_eq, fun u p' hu => ?_⟩
  obtain ⟨p, hp, hplayer⟩ := hadv.players.right hu
  exact hplayer.linked (h.linked u p hp)

theorem mem_tick {e : Engine} {id : MatchID} {m m' : Match} {clk : TickClock MatchID}
    {provider : RoundProvider} (hid : m.id = id) (hm : e.allMatches.lookup id = some m)
    (hm' : (e.tick F clk provider).2.allMatches.lookup id = some m')
    (hseq : m'.eventSeq ≠ m.eventSeq) : id ∈ (e.tick F clk provider).1 := by
  unfold Engine.tick at hm' ⊢
  dsimp only at hm' ⊢
  refine List.mem_filterMap.2 ⟨⟨id, m⟩, Assoc.mem_entries_iff.2 hm, ?_⟩
  dsimp only
  rw [hm', if_pos (by simpa using hseq), hid]

theorem after_advances {m : Match} (h : HpInv m) {id : MatchID} {op : Op} (hclock : Time.unixEpoch ≤ op.start) :
    Advances ((op.on id m).elim 0 (m.gains F)) m (m.after F id op) := by
  unfold Match.after
  rcases hop : op.on id m with _ | mop
  · exact .refl m
  · refine step_advances h ?_
    rw [Op.start_on hop]
    exact hclock

/-- An operation moves the matches forward exactly when the distances of the guesses that it scores in
free-for-alls are numbers. -/
theorem forward_iff {w w' : World} {op : Op} (hI : Sound MonotoneInv w) (hw : w.step F op = some w') :
    Forward F w op w' ↔ EachStep (Measures F) w op := by
  obtain ⟨hle, -⟩ := World.step_eq_some hw
  have hadv : ∀ id m, w.find id = some m →
      Advances ((op.on id m).elim 0 (m.gains F)) m (m.after F id op) := fun id m hm =>
    after_advances (hI.2 id m hm).toHpInv (hI.1.trans hle)
  constructor
  · intro h id m hm mop hop
    obtain ⟨m', hm', -, hplayers, -⟩ := h id m hm
    have hafter := (World.find_step_of_some hw hm).symm.trans hm'
    obtain rfl := Option.some.inj hafter
    have hscores := (hadv id m hm).players
    rw [Option.mem_def.1 hop] at hscores
    refine (gains_nonneg_iff m mop).1 fun u hu => ?_
    obtain ⟨p, hp⟩ := Assoc.mem_iff_exists.1 hu
    obtain ⟨p', hp', hplayer⟩ := hscores.left hp
    obtain ⟨q, hq, hmono⟩ := hplayers.left hp
    obtain rfl := Option.some.inj (hp'.symm.trans hq)
    have hscore : p'.totalScore = p.totalScore + m.gains F mop u := hplayer.score
    have hgrows := hmono.2
    omega
  · intro hC id m hm
    have hinv := hI.2 id m hm
    have hadv := hadv id m hm
    have hgains : ∀ u ∈ m.players, 0 ≤ (op.on id m).elim 0 (m.gains F) u := by
      intro u hu
      rcases hop : op.on id m with _ | mop
      · exact le_rfl
      · exact (gains_nonneg_iff m mop).2 (hC id m hm mop hop) u hu
    refine ⟨m.after F id op, World.find_step_of_some hw hm, hadv.later, ?_, ?_, hadv.results,
      fun hended => after_ended hended id op, ?_⟩
    · refine .of_lookup (fun u p hu => ?_) fun u hu => ?_
      · obtain ⟨p', hp', hplayer⟩ := hadv.players.left hu
        refine ⟨p', hp', (hplayer.falls (hinv.players u p hu)).2, ?_⟩
        rw [hplayer.score]
        exact le_add_of_nonneg_right (hgains u (Assoc.mem_iff_exists.2 ⟨p, hu⟩))
      · rw [AList.lookup_eq_none, hadv.players.mem_iff, ← AList.lookup_eq_none]
        exact hu
    · refine .of_lookup (fun t team ht => ?_) fun t ht => ?_
      · obtain ⟨team', ht', hsame, hfalls⟩ := hadv.teams.left ht
        exact ⟨team', ht', hsame, (hfalls (hinv.teams t team ht)).2⟩
      · rw [AList.lookup_eq_none, hadv.teams.mem_iff, ← AList.lookup_eq_none]
        exact ht
    · rintro clk provider rfl hseq
      have hafter := Engine.lookup_step_of_some (F := F) hm (.tick clk provider)
      exact mem_tick hinv.id_eq hm hafter hseq

/-- The matches of a run only move forward exactly when no guess is scored in a free-for-all whose
distance is no number; their states are in order in every run. -/
theorem engine_monotone_iff (F : FloatMath) (t : ℕ) (ops : List Op) :
    (Run.Along (World.step F) (Forward F) (World.init t) ops ↔
        Run.Guarded (World.step F) (EachStep (Measures F)) (World.init t) ops) ∧
      Run.Always (World.step F) (AllMatches fun _ => StateOk) (World.init t) ops := by
  have hcreate : ∀ id playerIDs m, True → Created F id playerIDs m → MonotoneInv id m :=
    fun _ _ _ _ h => monotoneInv_created h
  have hstep : ∀ id m mop, Time.unixEpoch ≤ mop.start → MonotoneInv id m → True →
      MonotoneInv id (m.step F mop) := fun _ _ _ hclock h _ => h.step hclock
  have hinv : ∀ w op w', Sound MonotoneInv w → World.step F w op = some w' → Sound MonotoneInv w' :=
    fun _ op _ hI hw => Sound.step hcreate hstep hI op.creates_true (fun _ _ _ _ _ => trivial) hw
  have hC : Run.Guarded (World.step F) (EachStep fun _ _ => True) (World.init t) ops :=
    (Run.guarded_true _ _).mono fun _ _ _ _ _ _ _ _ _ => trivial
  have hforward : ∀ w op w', Sound MonotoneInv w → World.step F w op = some w' →
      (Forward F w op w' ↔ EachStep (Measures F) w op) := fun _ _ _ => forward_iff
  refine ⟨Run.along_iff_guarded hinv hforward (sound_init MonotoneInv t),
    always_of_matchInvariant hcreate hstep (fun id m h => ?_) (fun op _ => op.creates_true) hC⟩
  exact ⟨fun u p hu => ⟨h.players u p hu, h.linked u p hu⟩, h.teams⟩

/-- The total score of a player. -/
def totalOf (u : UserID) (w : World) : Option ℤ := ((w.find "m").bind (·.players.lookup u)).map (·.totalScore)

/-- A guess in a free-for-all whose latitude is no number. -/
def noNumberRun : List Op :=
  [createAt 0 { mode := .freeForAll },
    .submitGuess (second 3)
      { userID := "u1", matchID := "m", roundID := roundID "m" 1, lat := .nan, lng := 0, finalize := true }]

/-- The tick that scores the guess takes the total score of `u1` from zero to the smallest `int`. -/
theorem not_monotone_noNumberRun : ¬ ∀ F t ops,
    Run.Along (World.step F) (Forward F) (World.init t) ops ∧
      Run.Always (World.step F) (AllMatches fun _ => StateOk) (World.init t) ops := by
  intro h
  have hrun : ∃ w ∈ Run.exec (World.step .coarse) (World.init 0) noNumberRun,
      ∃ w' ∈ w.step .coarse (tickAt 20), totalOf "u1" w = some 0 ∧ totalOf "u1" w' = some minInt64 := by
    decide +kernel
  obtain ⟨w, hw, w', hw', hscore, hscore'⟩ := hrun
  have hforward := Run.along_iff_transitions.1 (h .coarse 0 (noNumberRun ++ [tickAt 20])).1 noNumberRun
    (tickAt 20) [] w w' rfl hw hw'
  obtain ⟨p, hp, hzero⟩ := Option.map_eq_some_iff.1 hscore
  obtain ⟨m, hm, hp⟩ := Option.bind_eq_some_iff.1 hp
  obtain ⟨p', hp', hfalls⟩ := Option.map_eq_some_iff.1 hscore'
  obtain ⟨m', hm', hp'⟩ := Option.bind_eq_some_iff.1 hp'
  obtain ⟨m'', hm'', -, hplayers, -⟩ := hforward "m" m hm
  obtain rfl := Option.some.inj (hm'.symm.trans hm'')
  obtain ⟨q, hq, -, hgrows⟩ := hplayers.left hp
  obtain rfl := Option.some.inj (hp'.symm.trans hq)
  rw [hzero, hfalls] at hgrows
  exact absurd hgrows (by decide)

end GeoDuels.Duel
