import GeoDuels.Duel.Damage

/-!
# New matches

What a match looks like when it is created: every player has full hit points and has not been
disconnected, and in a team duel the teams partition the players.  `Joined` is the invariant of the
loop of `buildTeams` over the players.
-/

namespace GeoDuels.Duel

/-! ## The players -/

/-- A player as he enters a match: with all his hit points, and connected. -/
structure Fresh (p : PlayerState) : Prop where
  hp : p.hp = startingHP
  connected : p.disconnected = false
  due : p.disconnectDue = 0

theorem fresh_newPlayer (mode : MatchMode) (profiles : Assoc UserID PlayerProfile)
    (teams : Assoc UserID TeamID) (id : UserID) : Fresh (newPlayer mode profiles teams id) :=
  ⟨rfl, rfl, rfl⟩

theorem normalizeTeamID_eq (teamID : TeamID) :
    normalizeTeamID teamID = "a" ∨ normalizeTeamID teamID = "b" := by
  unfold normalizeTeamID
  split_ifs
  · exact .inr rfl
  · exact .inl rfl

/-! ## The teams -/

/-- The teams and players of a team duel when the players in `done` have joined their teams. -/
structure Joined (players : Assoc UserID PlayerState) (done : List UserID)
    (acc : Assoc TeamID TeamState × Assoc UserID PlayerState) : Prop where
  hasA : "a" ∈ acc.1
  hasB : "b" ∈ acc.1
  teamHP : ∀ t team, acc.1.lookup t = some team → team.hp = startingHP
  mem_iff : ∀ t team u, acc.1.lookup t = some team →
    (u ∈ team.players ↔ u ∈ done ∧ ∃ p, acc.2.lookup u = some p ∧ p.teamID = t)
  nodup : done.Nodup → ∀ t team, acc.1.lookup t = some team → team.players.Nodup
  player : ∀ u p, acc.2.lookup u = some p → (p.teamID = "a" ∨ p.teamID = "b") ∧ Fresh p
  same : ∀ u, u ∈ acc.2 ↔ u ∈ players

variable {players : Assoc UserID PlayerState}

/-- The player is added to his team; his own entry keeps its hit points, as the team has full hit
points too. -/
theorem Joined.joinTeam_eq {done : List UserID}
    {acc : Assoc TeamID TeamState × Assoc UserID PlayerState} (h : Joined players done acc)
    {e : UserID × ℕ} {player : PlayerState} (hplayer : acc.2.lookup e.1 = some player) :
    joinTeam acc e =
      (acc.1.modify player.teamID fun team => { team with players := team.players ++ [e.1] },
        acc.2) := by
  obtain ⟨hteam, hfresh⟩ := h.player e.1 player hplayer
  have hne : player.teamID ≠ "" := by
    rcases hteam with ht | ht <;> rw [ht] <;> decide
  have hkey : (if player.teamID = "" ∧ e.2 % 2 = 1 then "b" else normalizeTeamID player.teamID) =
      player.teamID := by
    rw [if_neg fun hempty => hne hempty.1]
    rcases hteam with ht | ht <;> rw [ht] <;> decide
  have hmem : player.teamID ∈ acc.1 := by
    rcases hteam with ht | ht <;> rw [ht]
    · exact h.hasA
    · exact h.hasB
  obtain ⟨team, ht⟩ := Assoc.mem_iff_exists.1 hmem
  have hhp : team.hp = player.hp := by rw [h.teamHP _ _ ht, hfresh.hp]
  unfold Duel.joinTeam
  simp only [hplayer]
  rw [hkey, Assoc.lookup_modify_self, ht, Option.map_some, Option.elim_some, hhp, if_neg hne,
    Assoc.modify_of_lookup hplayer rfl]

/-- One more player joins. -/
theorem Joined.joinTeam {done : List UserID}
    {acc : Assoc TeamID TeamState × Assoc UserID PlayerState} (h : Joined players done acc)
    (e : UserID × ℕ) : Joined players (done ++ [e.1]) (joinTeam acc e) := by
  rcases hplayer : acc.2.lookup e.1 with _ | player
  · have heq : Duel.joinTeam acc e = acc := by
      unfold Duel.joinTeam
      rw [hplayer]
    rw [heq]
    refine ⟨h.hasA, h.hasB, h.teamHP, fun t team u ht => ?_,
      fun hnd => h.nodup (List.nodup_append.1 hnd).1, h.player, h.same⟩
    rw [h.mem_iff t team u ht, List.mem_append, List.mem_singleton]
    refine and_congr_left fun ⟨p, hp, _⟩ => (or_iff_left ?_).symm
    rintro rfl
    rw [hplayer] at hp
    cases hp
  · rw [h.joinTeam_eq hplayer]
    refine ⟨by simpa using h.hasA, by simpa using h.hasB, ?_, ?_, ?_, h.player, h.same⟩
    · intro t team ht
      rw [Assoc.lookup_modify] at ht
      split_ifs at ht
      · obtain ⟨team₀, ht₀, rfl⟩ := Option.map_eq_some_iff.1 ht
        exact h.teamHP t team₀ ht₀
      · exact h.teamHP t team ht
    · intro t team u ht
      rw [Assoc.lookup_modify] at ht
      split_ifs at ht with htID
      · obtain ⟨team₀, ht₀, rfl⟩ := Option.map_eq_some_iff.1 ht
        simp only [List.mem_append, List.mem_singleton, h.mem_iff t team₀ u ht₀]
        constructor
        · rintro (⟨hu, hp⟩ | rfl)
          · exact ⟨.inl hu, hp⟩
          · exact ⟨.inr rfl, player, hplayer, htID.symm⟩
        · rintro ⟨hu | hu, hp⟩
          · exact .inl ⟨hu, hp⟩
          · exact .inr hu
      · rw [h.mem_iff t team u ht, List.mem_append, List.mem_singleton]
        refine and_congr_left fun ⟨p, hp, hpt⟩ => (or_iff_left ?_).symm
        rintro rfl
        rw [hplayer, Option.some.injEq] at hp
        rw [hp] at htID
        exact htID hpt.symm
    · intro hnd t team ht
      obtain ⟨hdone, -, hnotin⟩ := List.nodup_append.1 hnd
      rw [Assoc.lookup_modify] at ht
      split_ifs at ht
      · obtain ⟨team₀, ht₀, rfl⟩ := Option.map_eq_some_iff.1 ht
        refine List.nodup_append.2 ⟨h.nodup hdone t team₀ ht₀, List.nodup_singleton _, ?_⟩
        rintro a ha b hb rfl
        rw [List.mem_singleton.1 hb, h.mem_iff t team₀ _ ht₀] at ha
        exact hnotin _ ha.1 _ (List.mem_singleton_self _) rfl
      · exact h.nodup hdone t team ht

theorem Joined.foldl {done : List UserID}
    {acc : Assoc TeamID TeamState × Assoc UserID PlayerState} (h : Joined players done acc)
    (es : List (UserID × ℕ)) :
    Joined players (done ++ es.map Prod.fst) (es.foldl Duel.joinTeam acc) := by
  induction es generalizing done acc with
  | nil => simpa using h
  | cons e es ih =>
      have hrest := ih (h.joinTeam e)
      rwa [List.append_assoc, List.singleton_append] at hrest

/-- What `buildTeams` makes of the players of a team duel. -/
theorem buildTeams_joined {playerIDs : List UserID}
    (hplayers : ∀ u p, players.lookup u = some p →
      (p.teamID = "a" ∨ p.teamID = "b") ∧ Fresh p) :
    ∃ teams, Joined players playerIDs (teams, (buildTeams .teamDuel playerIDs players).2) ∧
      (buildTeams .teamDuel playerIDs players).1 =
        teams.filter fun _ team => !team.players.isEmpty := by
  have hinit : Joined players []
      (((∅ : Assoc TeamID TeamState).insert "b" ⟨"b", "Team Blue", startingHP, []⟩).insert "a"
        ⟨"a", "Team Red", startingHP, []⟩, players) := by
    have hlookup : ∀ t team, AList.lookup t
        (((∅ : Assoc TeamID TeamState).insert "b" ⟨"b", "Team Blue", startingHP, []⟩).insert "a"
          ⟨"a", "Team Red", startingHP, []⟩) = some team →
        team.hp = startingHP ∧ team.players = [] := by
      intro t team ht
      by_cases ha : t = "a"
      · subst ha
        rw [AList.lookup_insert, Option.some.injEq] at ht
        rw [← ht]
        exact ⟨rfl, rfl⟩
      · rw [AList.lookup_insert_ne ha] at ht
        by_cases hb : t = "b"
        · subst hb
          rw [AList.lookup_insert, Option.some.injEq] at ht
          rw [← ht]
          exact ⟨rfl, rfl⟩
        · rw [AList.lookup_insert_ne hb] at ht
          simp at ht
    refine ⟨(AList.mem_insert _).2 (.inl rfl),
      (AList.mem_insert _).2 (.inr ((AList.mem_insert _).2 (.inl rfl))),
      fun t team ht => (hlookup t team ht).1, fun t team u ht => ?_, fun _ t team ht => ?_,
      hplayers, fun _ => Iff.rfl⟩
    · simp [(hlookup t team ht).2]
    · rw [(hlookup t team ht).2]
      exact List.nodup_nil
  have hfold := hinit.foldl playerIDs.zipIdx
  rw [List.nil_append, List.zipIdx_map_fst] at hfold
  exact ⟨_, hfold, rfl⟩

/-- The teams and players of a new match. -/
structure NewSides (mode : MatchMode) (playerIDs : List UserID) (teams : Assoc TeamID TeamState)
    (players : Assoc UserID PlayerState) : Prop where
  fresh : ∀ u p, players.lookup u = some p → Fresh p
  mem_iff : ∀ u, u ∈ players ↔ u ∈ playerIDs
  noTeams : mode ≠ .teamDuel → teams = ∅
  teamHP : ∀ t team, teams.lookup t = some team → team.hp = startingHP
  partitioned : mode = .teamDuel → Partitioned teams players
  nodup : playerIDs.Nodup → ∀ t team, teams.lookup t = some team → team.players.Nodup

/-- A team that stays empty is dropped, so that the remaining ones still partition the players. -/
theorem Joined.newSides {playerIDs : List UserID} {teams : Assoc TeamID TeamState}
    {players' : Assoc UserID PlayerState} (h : Joined players playerIDs (teams, players'))
    (hmem : ∀ u, u ∈ players ↔ u ∈ playerIDs) :
    NewSides .teamDuel playerIDs (teams.filter fun _ team => !team.players.isEmpty) players' := by
  have hsub : ∀ t team, (teams.filter fun _ team => !team.players.isEmpty).lookup t = some team →
      teams.lookup t = some team := by
    intro t team ht
    rw [Assoc.lookup_filter] at ht
    exact (Option.filter_eq_some_iff.1 ht).1
  refine ⟨fun u p hu => (h.player u p hu).2, fun u => (h.same u).trans (hmem u),
    fun hmode => absurd rfl hmode, fun t team ht => h.teamHP t team (hsub t team ht),
    fun _ => ⟨fun u p hu => ?_, fun t team ht u hu => ?_⟩,
    fun hnd t team ht => h.nodup hnd t team (hsub t team ht)⟩
  · have hin : p.teamID ∈ teams := by
      rcases (h.player u p hu).1 with ht | ht <;> rw [ht]
      · exact h.hasA
      · exact h.hasB
    obtain ⟨team, ht⟩ := Assoc.mem_iff_exists.1 hin
    have hjoined : u ∈ team.players := by
      refine (h.mem_iff _ _ u ht).2 ⟨(hmem u).1 ((h.same u).1 ?_), p, hu, rfl⟩
      exact Assoc.mem_iff_exists.2 ⟨p, hu⟩
    refine ⟨team, ?_, hjoined⟩
    rw [Assoc.lookup_filter, ht, Option.filter_some, if_pos]
    simpa using List.ne_nil_of_mem hjoined
  · exact ((h.mem_iff t team u (hsub t team ht)).1 hu).2

/-- The players that a match starts with, before they are sorted into teams. -/
theorem lookup_newPlayers (mode : MatchMode) (profiles : Assoc UserID PlayerProfile)
    (teams : Assoc UserID TeamID) (playerIDs : List UserID) (u : UserID) :
    (playerIDs.foldl (fun ps u => ps.insert u (newPlayer mode profiles teams u))
      (∅ : Assoc UserID PlayerState)).lookup u =
      if u ∈ playerIDs then some (newPlayer mode profiles teams u) else none := by
  rw [Assoc.lookup_foldl_insert, AList.lookup_empty]

theorem newSides_buildTeams (mode : MatchMode) (profiles : Assoc UserID PlayerProfile)
    (teams : Assoc UserID TeamID) (playerIDs : List UserID) :
    let built := buildTeams mode playerIDs
      (playerIDs.foldl (fun ps u => ps.insert u (newPlayer mode profiles teams u)) ∅)
    NewSides mode playerIDs built.1 built.2 := by
  set players₀ : Assoc UserID PlayerState :=
    playerIDs.foldl (fun ps u => ps.insert u (newPlayer mode profiles teams u)) ∅ with hplayers₀
  have hmem : ∀ u, u ∈ players₀ ↔ u ∈ playerIDs := by
    intro u
    rw [Assoc.mem_iff_exists, hplayers₀, lookup_newPlayers]
    split_ifs with hu <;> simp [hu]
  have hnew : ∀ u p, players₀.lookup u = some p → p = newPlayer mode profiles teams u := by
    intro u p hu
    rw [hplayers₀, lookup_newPlayers] at hu
    split_ifs at hu
    exact (Option.some.inj hu).symm
  by_cases hmode : mode = .teamDuel
  · subst hmode
    obtain ⟨teams', hjoined, hteams⟩ := @buildTeams_joined players₀ playerIDs fun u p hu => by
      rw [hnew u p hu]
      exact ⟨normalizeTeamID_eq _, fresh_newPlayer _ _ _ _⟩
    dsimp only
    rw [hteams]
    exact hjoined.newSides hmem
  · dsimp only
    rw [buildTeams, if_pos hmode]
    refine ⟨fun u p hu => ?_, hmem, fun _ => rfl, ?_, fun h => absurd h hmode, ?_⟩
    · rw [hnew u p hu]
      exact fresh_newPlayer _ _ _ _
    · intro t team ht
      simp at ht
    · intro _ t team ht
      simp at ht

/-! ## The match -/

variable {F : FloatMath}

/-- A match as `CreateMatchWithOptions` stores it. -/
structure IsNew (id : MatchID) (playerIDs : List UserID) (m : Match) : Prop where
  id_eq : m.id = id
  live : m.state = .live
  first : m.currentIndex = 0
  roundID_eq : m.roundID = roundID id 1
  noGuesses : m.guesses = ∅
  noResults : m.roundResults = []
  noLast : m.lastRoundResult = none
  unresolved : m.pendingAdvance = false
  sides : NewSides m.mode playerIDs m.teams m.players
  players_duel : m.mode = .duel → playerIDs.length = 2

theorem checkMode_duel {mode : MatchMode} {n : ℕ} (h : checkMode mode n = .ok .duel) : n = 2 := by
  by_contra hn
  cases mode with
  | unset | duel => simp [checkMode, hn] at h
  | teamDuel | freeForAll =>
      simp only [checkMode] at h
      split_ifs at h <;> simp at h
  | singleplayer | other => simp [checkMode] at h

theorem isNew_of_created {id : MatchID} {playerIDs : List UserID} {m : Match}
    (h : Created F id playerIDs m) : IsNew id playerIDs m := by
  obtain ⟨clk, provider, profiles, opts, e, e', hc⟩ := h
  obtain ⟨mode, firstRound, hcheck, -, -, -, rfl⟩ := createMatchWithOptions_ok hc
  have hsides := newSides_buildTeams mode profiles opts.teams playerIDs
  have hduel : mode = .duel → playerIDs.length = 2 := by
    rintro rfl
    exact checkMode_duel hcheck
  unfold newMatch startRoundTimer
  dsimp only
  split_ifs <;> exact ⟨rfl, rfl, rfl, rfl, rfl, rfl, rfl, rfl, hsides, hduel⟩

end GeoDuels.Duel
