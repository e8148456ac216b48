import GeoDuels.Duel.Spec

/-!
# Damage

What the resolution of a round does to players and teams: nobody gains hit points, in a free-for-all
everybody gets his score, the hit points stay within their bounds, and in a team duel the players get the
hit points of their team.
-/

namespace GeoDuels.Duel

variable {F : FloatMath}

/-! ## Scores and damage -/

theorem guessScore_nonneg_iff (m : Match) (u : UserID) :
    0 ≤ guessScore F m u ↔ guessDistance F m u ≠ .nan := by
  have hdist : guessScore F m u = Gameplay.roundScore F (guessDistance F m u) := rfl
  rw [hdist, Gameplay.roundScore_nonneg_iff]

theorem minInt64_le_guessScore (m : Match) (u : UserID) : minInt64 ≤ guessScore F m u :=
  Gameplay.minInt64_le_roundScore F _

/-- A missing guess scores nothing. -/
theorem guessScore_of_none {m : Match} {u : UserID} (h : m.guesses.lookup u = none) :
    guessScore F m u = 0 := by
  have hfar : ¬ (maxDistanceKm : Float64) > maxDistanceKm := fun hlt => hlt.2 hlt.1
  unfold guessScore guessDistance
  rw [h]
  dsimp only
  rw [if_neg hfar]
  exact Gameplay.roundScore_maxDistanceKm F

theorem absInt_nonneg (v : ℤ) : 0 ≤ absInt v := by
  unfold absInt
  split_ifs <;> omega

theorem roundDamageMultiplier_nonneg (n : ℕ) : 0 ≤ roundDamageMultiplier n := by
  unfold roundDamageMultiplier
  split_ifs with h
  · norm_num
  · have hn : (2 : ℚ) ≤ n := by exact_mod_cast (by omega : 2 ≤ n)
    linarith

theorem roundDamage_nonneg (n : ℕ) (a b : ℤ) : 0 ≤ roundDamage n a b := by
  refine mathRound_nonneg (mul_nonneg ?_ (roundDamageMultiplier_nonneg n))
  exact_mod_cast absInt_nonneg (a - b)

/-! ## The rows of the result -/

/-- The damage columns and the hit points of a row are filled in. -/
def Fills (row row' : RoundPlayerResult) : Prop :=
  ∃ dealt taken hp, row' =
    { row with damageDealt := dealt, damageTaken := taken, hpAfterRound := hp }

theorem Fills.refl (row : RoundPlayerResult) : Fills row row := ⟨_, _, _, rfl⟩

theorem fills_modify_modify {rows : Assoc UserID RoundPlayerResult} {idA idB : UserID}
    {a b a' b' : RoundPlayerResult} (ha : rows.lookup idA = some a) (hb : rows.lookup idB = some b)
    (haa : Fills a a') (hbb : Fills b b') :
    Assoc.Pointwise (fun _ => Fills) rows
      ((rows.modify idA fun _ => a').modify idB fun _ => b') := by
  intro u
  rw [Assoc.lookup_modify, Assoc.lookup_modify]
  by_cases hB : u = idB
  · subst hB
    rw [if_pos rfl, hb]
    split_ifs <;> exact .some hbb
  · rw [if_neg hB]
    by_cases hA : u = idA
    · subst hA
      rw [if_pos rfl, ha]
      exact .some haa
    · rw [if_neg hA]
      exact Assoc.Pointwise.refl (fun _ => Fills.refl) rows u

theorem resolveDuelDamage_rows (players : Assoc UserID PlayerState) (result : RoundResult)
    (userIDs : List UserID) :
    Assoc.Pointwise (fun _ => Fills) result.players
      (resolveDuelDamage players result userIDs).2.players := by
  unfold resolveDuelDamage
  split
  · split
    · rename_i a b ha hb
      refine fills_modify_modify ha hb ?_ ?_ <;> split_ifs <;> exact ⟨_, _, _, rfl⟩
    · exact .refl (fun _ => Fills.refl) _
  · exact .refl (fun _ => Fills.refl) _

/-- Every row of a resolution is the guess of its player with the score of the guess. -/
theorem resolution_rows (m : Match) :
    Assoc.Pointwise (fun u p row => Fills (roundPlayerResult F m u p) row) m.players
      (m.resolution F).result.players := by
  have hrows : Assoc.Pointwise (fun u p row => roundPlayerResult F m u p = row) m.players
      (Assoc.mapVals (roundPlayerResult F m) m.players) := Assoc.pointwise_mapVals fun _ _ _ => rfl
  have hkeep : Assoc.Pointwise (fun _ => Fills)
      (Assoc.mapVals (roundPlayerResult F m) m.players) (m.resolution F).result.players := by
    rw [resolution_result]
    rcases scoreRound_cases F m with ⟨-, h⟩ | ⟨-, h⟩ | ⟨-, h⟩ | ⟨-, h⟩
    · rw [h]
      exact resolveDuelDamage_rows _ (m.scores F) _
    · rw [h]
      unfold resolveTeamDuelDamage
      split_ifs <;> exact .refl (fun _ => Fills.refl) _
    · rw [h]
      exact Assoc.pointwise_mapVals fun _ _ _ => ⟨_, _, _, rfl⟩
    · rw [h]
      exact .refl (fun _ => Fills.refl) _
  refine hrows.trans hkeep ?_
  rintro u p _ row rfl hfills
  exact hfills

/-! ## Hit points -/

/-- Hit points are within their bounds. -/
def InBounds (hp : ℤ) : Prop := 0 ≤ hp ∧ hp ≤ startingHP

/-- Hit points stay within their bounds and do not grow. -/
def Falls (hp hp' : ℤ) : Prop := InBounds hp → InBounds hp' ∧ hp' ≤ hp

theorem Falls.refl (hp : ℤ) : Falls hp hp := fun h => ⟨h, le_rfl⟩

theorem Falls.trans {a b c : ℤ} (h : Falls a b) (h' : Falls b c) : Falls a c := by
  intro ha
  obtain ⟨hb, hba⟩ := h ha
  obtain ⟨hc, hcb⟩ := h' hb
  exact ⟨hc, hcb.trans hba⟩

theorem falls_zero (hp : ℤ) : Falls hp 0 := by
  unfold Falls InBounds
  omega

theorem falls_clamp {hp damage : ℤ} (hd : 0 ≤ damage) :
    Falls hp (if hp - damage < 0 then 0 else hp - damage) := by
  unfold Falls InBounds
  split_ifs <;> omega

/-! ## The teams -/

/-- The lists of the teams partition the players according to their team. -/
structure Partitioned (teams : Assoc TeamID TeamState) (players : Assoc UserID PlayerState) :
    Prop where
  mem_team : ∀ u p, players.lookup u = some p →
    ∃ team, teams.lookup p.teamID = some team ∧ u ∈ team.players
  team_eq : ∀ t team, teams.lookup t = some team → ∀ u ∈ team.players,
    ∃ p, players.lookup u = some p ∧ p.teamID = t

/-- Every member of a team has the hit points of the team. -/
def Mirrored (teams : Assoc TeamID TeamState) (players : Assoc UserID PlayerState) : Prop :=
  ∀ t team, teams.lookup t = some team → ∀ u ∈ team.players,
    ∃ p, players.lookup u = some p ∧ p.hp = team.hp

instance (teams : Assoc TeamID TeamState) (players : Assoc UserID PlayerState) :
    Decidable (Partitioned teams players) :=
  decidable_of_iff (_ ∧ _) ⟨fun h => ⟨h.1, h.2⟩, fun h => ⟨h.1, h.2⟩⟩

instance (teams : Assoc TeamID TeamState) (players : Assoc UserID PlayerState) :
    Decidable (Mirrored teams players) := inferInstanceAs (Decidable (∀ _ _, _ → _))

/-- The team keeps its name and its members. -/
def SameTeam (team team' : TeamState) : Prop := team' = { team with hp := team'.hp }

theorem SameTeam.refl (team : TeamState) : SameTeam team team := rfl

/-- The player stays in his team. -/
def SameMember (p p' : PlayerState) : Prop := p'.teamID = p.teamID

theorem Partitioned.of_pointwise {teams teams' : Assoc TeamID TeamState}
    {players players' : Assoc UserID PlayerState} (h : Partitioned teams players)
    (ht : Assoc.Pointwise (fun _ => SameTeam) teams teams')
    (hp : Assoc.Pointwise (fun _ => SameMember) players players') :
    Partitioned teams' players' where
  mem_team u p' hu := by
    obtain ⟨p, hup, hsame⟩ := hp.right hu
    obtain ⟨team, hteam, hmem⟩ := h.mem_team u p hup
    obtain ⟨team', hteam', heq⟩ := ht.left hteam
    refine ⟨team', ?_, ?_⟩
    · rw [hsame]
      exact hteam'
    · rw [heq]
      exact hmem
  team_eq t team' hteam' u hmem' := by
    obtain ⟨team, hteam, heq⟩ := ht.right hteam'
    rw [heq] at hmem'
    obtain ⟨p, hup, hpt⟩ := h.team_eq t team hteam u hmem'
    obtain ⟨p', hup', hsame⟩ := hp.left hup
    exact ⟨p', hup', by rw [hsame, hpt]⟩

/-- The loop of `mirrorTeamHP` over some of the teams, seen from one player. -/
theorem lookup_foldl_mirror (es : List (Σ _ : TeamID, TeamState))
    (players : Assoc UserID PlayerState) (u : UserID) :
    (es.foldl (fun players e =>
        Assoc.modifyAll e.2.players (fun p => { p with hp := e.2.hp }) players) players).lookup u =
      (players.lookup u).map fun p =>
        es.foldl (fun p e => if u ∈ e.2.players then { p with hp := e.2.hp } else p) p := by
  induction es generalizing players with
  | nil => simp
  | cons e es ih =>
      have hteam := Assoc.lookup_modifyAll (f := fun p : PlayerState => { p with hp := e.2.hp })
        (fun _ => rfl) e.2.players players u
      rw [List.foldl_cons, ih, hteam]
      cases players.lookup u with
      | none => simp
      | some p => split_ifs <;> simp [*]

theorem foldl_mirror_eq {u : UserID} {hp : ℤ} (es : List (Σ _ : TeamID, TeamState))
    (p : PlayerState) (hes : ∀ e ∈ es, u ∈ e.2.players → e.2.hp = hp)
    (h : p.hp = hp ∨ ∃ e ∈ es, u ∈ e.2.players) :
    es.foldl (fun p e => if u ∈ e.2.players then { p with hp := e.2.hp } else p) p =
      { p with hp := hp } := by
  induction es generalizing p with
  | nil =>
      rcases h with h | ⟨e, he, -⟩
      · rw [← h]
        rfl
      · cases he
  | cons e es ih =>
      have hrest : ∀ e ∈ es, u ∈ e.2.players → e.2.hp = hp :=
        fun e he => hes e (List.mem_cons_of_mem _ he)
      rw [List.foldl_cons]
      by_cases hu : u ∈ e.2.players
      · rw [if_pos hu, ih _ hrest (.inl (hes e List.mem_cons_self hu))]
      · rw [if_neg hu, ih p hrest]
        rcases h with h | ⟨e', he', hu'⟩
        · exact .inl h
        · rcases List.mem_cons.1 he' with rfl | he'
          · exact absurd hu' hu
          · exact .inr ⟨e', he', hu'⟩

/-- Every team passes its hit points on to its players, in whatever order the loop meets the teams. -/
theorem lookup_foldl_mirror_of {teams : Assoc TeamID TeamState} {players : Assoc UserID PlayerState}
    (h : Partitioned teams players) {es : List (Σ _ : TeamID, TeamState)}
    (hes : ∀ e, e ∈ es ↔ teams.lookup e.1 = some e.2) {u : UserID} {p : PlayerState}
    {team : TeamState} (hu : players.lookup u = some p) (ht : teams.lookup p.teamID = some team) :
    (es.foldl (fun players e =>
        Assoc.modifyAll e.2.players (fun p => { p with hp := e.2.hp }) players) players).lookup u =
      some { p with hp := team.hp } := by
  rw [lookup_foldl_mirror, hu, Option.map_some, foldl_mirror_eq]
  · rintro ⟨t, team'⟩ he hmem
    rw [hes] at he
    obtain ⟨p', hp', hteam⟩ := h.team_eq t team' he u hmem
    rw [hu, Option.some.injEq] at hp'
    subst hp'
    rw [hteam, he, Option.some.injEq] at ht
    rw [ht]
  · obtain ⟨team', ht', hmem⟩ := h.mem_team u p hu
    exact .inr ⟨⟨p.teamID, team'⟩, (hes _).2 ht', hmem⟩

/-- After `mirrorTeamHP` every player has the hit points of his team. -/
theorem lookup_mirrorTeamHP {teams : Assoc TeamID TeamState} {players : Assoc UserID PlayerState}
    (h : Partitioned teams players) {u : UserID} {p : PlayerState} {team : TeamState}
    (hu : players.lookup u = some p) (ht : teams.lookup p.teamID = some team) :
    (mirrorTeamHP teams players).lookup u = some { p with hp := team.hp } :=
  lookup_foldl_mirror_of h (fun _ => Assoc.mem_entries_iff) hu ht

/-- Damage as it is taken, before the hit points are cut off at zero. -/
def Hit (team team' : TeamState) : Prop :=
  SameTeam team team' ∧ ∃ d, 0 ≤ d ∧ team'.hp = team.hp - d

theorem hit_modify (teams : Assoc TeamID TeamState) {damage : ℤ} (hd : 0 ≤ damage) (t : TeamID) :
    Assoc.Pointwise (fun _ => Hit) teams
      (teams.modify t fun t => { t with hp := t.hp - damage }) :=
  Assoc.pointwise_modify (fun _ _ => ⟨rfl, 0, le_rfl, by simp⟩) fun _ _ =>
    ⟨rfl, damage, hd, rfl⟩

/-- The damage of a round leaves the members of the teams alone, and their hit points fall. -/
theorem damageTeams_pointwise (teams : Assoc TeamID TeamState) {damage : ℤ} (hd : 0 ≤ damage)
    (a b : ℤ) :
    Assoc.Pointwise (fun _ team team' => SameTeam team team' ∧ Falls team.hp team'.hp) teams
      (damageTeams teams damage a b) := by
  have hhit : Assoc.Pointwise (fun _ => Hit) teams
      (if a > b then teams.modify "b" fun t => { t with hp := t.hp - damage }
        else if b > a then teams.modify "a" fun t => { t with hp := t.hp - damage }
        else teams) := by
    split_ifs
    · exact hit_modify teams hd "b"
    · exact hit_modify teams hd "a"
    · exact Assoc.Pointwise.refl (fun _ _ => ⟨rfl, 0, le_rfl, by simp⟩) _
  have hclamp : Assoc.Pointwise
      (fun _ (team team' : TeamState) =>
        team' = { team with hp := if team.hp < 0 then 0 else team.hp }) _
      (damageTeams teams damage a b) := Assoc.pointwise_mapVals fun _ _ _ => rfl
  refine hhit.trans hclamp ?_
  rintro _ team team' _ ⟨hsame, d, hd, hhp⟩ rfl
  refine ⟨?_, ?_⟩
  · rw [SameTeam, hsame]
  · rw [hhp]
    exact falls_clamp hd

/-! ## The players -/

/-- What a round does to a player: he loses hit points, gains a score and waits for the next round. -/
structure Plays (gain : ℤ) (p p' : PlayerState) : Prop where
  frame : p' = { p with finalized := p'.finalized, hp := p'.hp, totalScore := p'.totalScore }
  falls : Falls p.hp p'.hp
  score : p'.totalScore = p.totalScore + gain

theorem Plays.refl (p : PlayerState) : Plays 0 p p := ⟨rfl, .refl _, (add_zero _).symm⟩

theorem Plays.trans {gain gain' : ℤ} {p p' p'' : PlayerState} (h : Plays gain p p')
    (h' : Plays gain' p' p'') : Plays (gain + gain') p p'' := by
  refine ⟨?_, h.falls.trans h'.falls, ?_⟩
  · rw [h'.frame, h.frame]
  · rw [h'.score, h.score, add_assoc]

/-- What a player gains when the round is scored. -/
def gain (F : FloatMath) (m : Match) (u : UserID) : ℤ :=
  if m.mode = .freeForAll then guessScore F m u else 0

theorem plays_hurt {damage : ℤ} (hd : 0 ≤ damage) (p : PlayerState) : Plays 0 p (hurt damage p) :=
  ⟨rfl, falls_clamp hd, (add_zero _).symm⟩

theorem unfinalized_plays (m : Match) :
    Assoc.Pointwise (fun _ => Plays 0) m.players m.unfinalized :=
  Assoc.pointwise_mapVals fun _ _ _ => ⟨rfl, .refl _, (add_zero _).symm⟩

theorem resolveDuelDamage_plays (players : Assoc UserID PlayerState) (result : RoundResult)
    (userIDs : List UserID) :
    Assoc.Pointwise (fun _ => Plays 0) players (resolveDuelDamage players result userIDs).1 := by
  have hhurt : ∀ (a b : ℤ) (u : UserID), Assoc.Pointwise (fun _ => Plays 0) players
      (players.modify u (hurt (roundDamage result.roundNumber a b))) := fun a b u =>
    Assoc.pointwise_modify (fun _ => Plays.refl) fun p _ => plays_hurt (roundDamage_nonneg _ _ _) p
  unfold resolveDuelDamage
  split
  · split
    · dsimp only
      split_ifs
      · exact hhurt _ _ _
      · exact hhurt _ _ _
      · exact .refl (fun _ => Plays.refl) _
    · exact .refl (fun _ => Plays.refl) _
  · exact .refl (fun _ => Plays.refl) _

theorem resolveFreeForAll_plays (m : Match) :
    Assoc.Pointwise (fun u => Plays (guessScore F m u)) m.unfinalized
      (resolveFreeForAll m.unfinalized (m.scores F)).1 := by
  refine Assoc.pointwise_mapVals fun u p hp => ?_
  rw [Match.unfinalized, Assoc.lookup_mapVals, Option.map_eq_some_iff] at hp
  obtain ⟨q, hq, -⟩ := hp
  rw [lookup_scores hq]
  exact ⟨rfl, .refl _, rfl⟩

theorem settleRound_plays (mode : MatchMode) (r : Resolution) :
    Assoc.Pointwise (fun _ => Plays 0) r.players (settleRound mode r).players := by
  rw [settleRound_players]
  split_ifs
  · refine Assoc.pointwise_mapVals fun _ p _ => ?_
    split_ifs
    · exact ⟨rfl, falls_zero _, (add_zero _).symm⟩
    · exact .refl p
  · exact .refl (fun _ => Plays.refl) _

/-- The score that represents a team in the round. -/
def teamScore (result : RoundResult) (teams : Assoc TeamID TeamState) (t : TeamID) : ℤ :=
  (((Assoc.mapVals (bestGuess result) teams).lookup t).getD {}).score

/-- With two teams the damage of the better score goes to the other team, and the players follow. -/
theorem resolveTeamDuelDamage_cases (m : Match) (players : Assoc UserID PlayerState)
    (result : RoundResult) :
    ((resolveTeamDuelDamage m players result).teams = m.teams ∧
      (resolveTeamDuelDamage m players result).players = players) ∨
    ((resolveTeamDuelDamage m players result).teams =
        damageTeams m.teams (roundDamage result.roundNumber (teamScore result m.teams "a")
          (teamScore result m.teams "b")) (teamScore result m.teams "a")
          (teamScore result m.teams "b") ∧
      (resolveTeamDuelDamage m players result).players =
        mirrorTeamHP (resolveTeamDuelDamage m players result).teams players) := by
  unfold resolveTeamDuelDamage
  split_ifs with htwo
  · exact .inl ⟨rfl, rfl⟩
  · refine .inr ⟨?_, rfl⟩
    dsimp only
    split_ifs <;> rfl

theorem resolveTeamDuelDamage_teams (m : Match) (players : Assoc UserID PlayerState)
    (result : RoundResult) :
    Assoc.Pointwise (fun _ team team' => SameTeam team team' ∧ Falls team.hp team'.hp) m.teams
      (resolveTeamDuelDamage m players result).teams := by
  rcases resolveTeamDuelDamage_cases m players result with ⟨h, -⟩ | ⟨h, -⟩
  · rw [h]
    exact .refl (fun _ _ => ⟨rfl, .refl _⟩) _
  · rw [h]
    exact damageTeams_pointwise _ (roundDamage_nonneg _ _ _) _ _

/-- The members of the teams have the hit points of their team, and these are within bounds. -/
structure TeamsInStep (m : Match) : Prop where
  partitioned : Partitioned m.teams m.players
  mirrored : Mirrored m.teams m.players
  inBounds : ∀ t team, m.teams.lookup t = some team → InBounds team.hp

/-- The players of a team duel after the damage of the round: each has the hit points that are left
to his team. -/
theorem lookup_resolveTeamDuelDamage {m : Match} (h : TeamsInStep m) (result : RoundResult)
    {u : UserID} {p : PlayerState} (hu : m.players.lookup u = some p) :
    ∃ team', (resolveTeamDuelDamage m m.unfinalized result).teams.lookup p.teamID = some team' ∧
      Falls p.hp team'.hp ∧ InBounds team'.hp ∧
      (resolveTeamDuelDamage m m.unfinalized result).players.lookup u =
        some { p with finalized := false, hp := team'.hp } := by
  obtain ⟨team, hteam, hmem⟩ := h.partitioned.mem_team u p hu
  obtain ⟨p', hp', hhp⟩ := h.mirrored p.teamID team hteam u hmem
  rw [hu, Option.some.injEq] at hp'
  subst hp'
  have hun := lookup_unfinalized hu
  have hteams := resolveTeamDuelDamage_teams m m.unfinalized result
  obtain ⟨team', hteam', hsame, hfalls⟩ := hteams.left hteam
  refine ⟨team', hteam', by rw [hhp]; exact hfalls, (hfalls (h.inBounds _ _ hteam)).1, ?_⟩
  rcases resolveTeamDuelDamage_cases m m.unfinalized result with ⟨ht, hp⟩ | ⟨-, hp⟩
  · rw [ht, hteam, Option.some.injEq] at hteam'
    rw [hp, hun, ← hteam', ← hhp]
  · have hpart := h.partitioned.of_pointwise (hteams.mono fun _ _ _ h => h.1)
      ((unfinalized_plays m).mono fun _ _ _ h => by rw [SameMember, h.frame])
    rw [hp, lookup_mirrorTeamHP hpart hun hteam']

theorem lookup_resolveTeamDuelDamage_none {m : Match} {result : RoundResult} {u : UserID}
    (hu : m.players.lookup u = none) :
    (resolveTeamDuelDamage m m.unfinalized result).players.lookup u = none := by
  have hun : m.unfinalized.lookup u = none := by
    rw [Match.unfinalized, Assoc.lookup_mapVals, hu]
    rfl
  rcases resolveTeamDuelDamage_cases m m.unfinalized result with ⟨-, hp⟩ | ⟨-, hp⟩
  · rw [hp, hun]
  · rw [hp, mirrorTeamHP, lookup_foldl_mirror, hun]
    rfl

theorem scoreRound_plays {m : Match} (hteam : m.mode = .teamDuel → TeamsInStep m) :
    Assoc.Pointwise (fun u => Plays (gain F m u)) m.players (scoreRound F m).players := by
  have hgain : ∀ {u : UserID}, m.mode ≠ .freeForAll → gain F m u = 0 + 0 := fun hmode => if_neg hmode
  rcases scoreRound_cases F m with ⟨hmode, h⟩ | ⟨hmode, h⟩ | ⟨hmode, h⟩ | ⟨hmode, h⟩
  · rw [h]
    refine (unfinalized_plays m).trans (resolveDuelDamage_plays _ _ _) fun u _ _ _ hfirst hsecond => ?_
    rw [hgain (by rw [hmode]; decide)]
    exact hfirst.trans hsecond
  · rw [h]
    refine .of_lookup (fun u p hu => ?_) fun _ => lookup_resolveTeamDuelDamage_none
    obtain ⟨team', -, hfalls, -, hp'⟩ := lookup_resolveTeamDuelDamage (hteam hmode) _ hu
    exact ⟨_, hp', rfl, hfalls, by simp [gain, hmode]⟩
  · rw [h]
    refine (unfinalized_plays m).trans (resolveFreeForAll_plays m) fun u _ _ _ hfirst hsecond => ?_
    have hboth := hfirst.trans hsecond
    rwa [zero_add, ← show gain F m u = guessScore F m u from if_pos hmode] at hboth
  · rw [h]
    refine (unfinalized_plays m).mono fun u _ _ hplay => ?_
    rwa [hgain hmode.2.2]

/-- What the resolution of a round does to the players. -/
theorem resolution_plays {m : Match} (hteam : m.mode = .teamDuel → TeamsInStep m) :
    Assoc.Pointwise (fun u => Plays (gain F m u)) m.players (m.resolution F).players := by
  refine (scoreRound_plays hteam).trans (settleRound_plays _ _) fun u _ _ _ hfirst hsecond => ?_
  have hboth := hfirst.trans hsecond
  rwa [add_zero] at hboth

/-- What the resolution of a round does to the teams. -/
theorem resolution_teams_pointwise (m : Match) :
    Assoc.Pointwise (fun _ team team' => SameTeam team team' ∧ Falls team.hp team'.hp) m.teams
      (m.resolution F).teams := by
  rw [resolution_teams]
  rcases scoreRound_cases F m with ⟨-, h⟩ | ⟨-, h⟩ | ⟨-, h⟩ | ⟨-, h⟩
  · rw [h]
    exact .refl (fun _ _ => ⟨rfl, .refl _⟩) _
  · rw [h]
    exact resolveTeamDuelDamage_teams _ _ _
  · rw [h]
    exact .refl (fun _ _ => ⟨rfl, .refl _⟩) _
  · rw [h]
    exact .refl (fun _ _ => ⟨rfl, .refl _⟩) _

/-- In a team duel the resolution keeps the players in step with their teams. -/
theorem resolution_mirrored {m : Match} (hmode : m.mode = .teamDuel) (h : TeamsInStep m) :
    Mirrored (m.resolution F).teams (m.resolution F).players := by
  have hplays := resolution_plays (F := F) (m := m) fun _ => h
  have hpart := h.partitioned.of_pointwise
    ((resolution_teams_pointwise (F := F) m).mono fun _ _ _ h => h.1)
    (hplays.mono fun _ _ _ h => by rw [SameMember, h.frame])
  intro t team' hteam' u hmem'
  obtain ⟨q, hq, hqt⟩ := hpart.team_eq t team' hteam' u hmem'
  obtain ⟨p, hp, hpq⟩ := hplays.right hq
  refine ⟨q, hq, ?_⟩
  obtain ⟨team, hteam, -, hbounds, hlookup⟩ :=
    lookup_resolveTeamDuelDamage h (m.scores F) hp
  rw [Match.resolution, settleRound_players, hmode, if_pos (by decide),
    scoreRound_teamDuel hmode, Assoc.lookup_mapVals, hlookup, Option.map_some,
    Option.some.injEq] at hq
  have htID : p.teamID = t := by
    rw [← hqt, hpq.frame]
  rw [resolution_teams, scoreRound_teamDuel hmode, ← htID, hteam, Option.some.injEq] at hteam'
  rw [← hq, ← hteam']
  split_ifs with hzero
  · exact le_antisymm hbounds.1 hzero
  · rfl

end GeoDuels.Duel
